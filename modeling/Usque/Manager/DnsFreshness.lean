import Usque.Manager.DnsAnswers
import Usque.Manager.DnsExact

namespace Usque

variable {S : Smoltcp} {rt rt' : RuntimeState S} {H : Hickory}

open RuntimeState

-- A record of a response to a query for the domain, and when that response came in.
structure Receipt where
  domain : String
  record : DnsRecord
  time : Time

def Receipt.expiry (r : Receipt) : Time := r.time + secs r.record.ttl.toNat

-- Ghost are the domain of each query, every record so far, and when a group's answers came.
structure CacheRun (S : Smoltcp) where
  rt : RuntimeState S
  queried : UInt16 → String
  receipts : List Receipt
  receivedAt : UInt32 → DnsRecordType → Time

namespace CacheRun

-- Every transaction id that was not out before asks for the new domain.
def started (s : CacheRun S) (rt' : RuntimeState S) (domain : String) : CacheRun S :=
  { s with
    rt := rt'
    queried := fun txId =>
      if (s.rt.dnsQueries.lookup txId).isSome then s.queried txId else domain }

def receiptsOf (domain : String) (result : DnsResult) (time : Time) : List Receipt :=
  (DnsQueryGroup.recordsOf (some result)).map (fun record => ⟨domain, record, time⟩)

def stamp (receivedAt : UInt32 → DnsRecordType → Time) (query : DnsQueryState) (time : Time) :
    UInt32 → DnsRecordType → Time :=
  Function.update receivedAt query.groupId
    (Function.update (receivedAt query.groupId) query.queryType time)

def received (H : Hickory) (s : CacheRun S) (data : List UInt8) : CacheRun S :=
  let s' := { s with rt := s.rt.acceptDnsResponse H data }
  match parseDnsResponseWithId H data with
  | .error _ => s'
  | .ok (txId, result) =>
      match s.rt.dnsQueries.lookup txId with
      | none => s'
      | some query =>
          { s' with
            receipts := receiptsOf (s.queried txId) result s.rt.shared.now ++ s.receipts
            receivedAt := stamp s.receivedAt query s.rt.shared.now }

-- The cache drops an entry, time passes, the tunnel comes up anew, or resolution is not involved.
structure Other (rt rt' : RuntimeState S) : Prop where
  queries : ∀ txId query, rt'.dnsQueries.lookup txId = some query →
    rt.dnsQueries.lookup txId = some query ∧
      rt'.dnsGroups.lookup query.groupId = rt.dnsGroups.lookup query.groupId
  groups : ∀ i g, rt'.dnsGroups.lookup i = some g → rt.dnsGroups.lookup i = some g
  cache : ∀ domain value, rt'.dnsCache.lookup domain = some value →
    rt.dnsCache.lookup domain = some value
  now : rt.shared.now ≤ rt'.shared.now

inductive Step (H : Hickory) : CacheRun S → DnsOp → CacheRun S → Prop where
  | resolve {s : CacheRun S} {rt' : RuntimeState S} {domain : String} {preferIpv6 : Bool}
      {response : OneshotId} {dnsServers : List IpAddress}
      (h : s.rt.startDnsQuery H domain preferIpv6 response dnsServers = .ok rt') :
      Step H s .resolve (s.started rt' domain)
  | resolveAll {s : CacheRun S} {rt' : RuntimeState S} {domain : String}
      {response : OneshotId} {dnsServers : List IpAddress}
      (h : s.rt.startDnsQueryAll H domain response dnsServers = .ok rt') :
      Step H s .resolveAll (s.started rt' domain)
  | response (s : CacheRun S) (data : List UInt8) (source : IpEndpoint) :
      Step H s (.response data source) (s.received H data)
  | expire (s : CacheRun S) : Step H s .expire { s with rt := s.rt.expireDnsGroups }
  | other {s : CacheRun S} {rt' : RuntimeState S} (h : Other s.rt rt') :
      Step H s .quiet { s with rt := rt' }

def Initial (s : CacheRun S) : Prop :=
  s.rt.dnsQueries = ∅ ∧ s.rt.dnsGroups = ∅ ∧ s.rt.dnsCache = ∅

inductive Reaches (H : Hickory) (guard : CacheRun S → DnsOp → Prop) : CacheRun S → Prop where
  | initial {s : CacheRun S} (h : s.Initial) : Reaches H guard s
  | step {s t : CacheRun S} {op : DnsOp} (h : Reaches H guard s) (hg : guard s op)
      (hs : Step H s op t) : Reaches H guard t

def Alive (s : CacheRun S) (domain : String) (ip : IpAddress) : Prop :=
  ∃ r ∈ s.receipts, r.domain = domain ∧ r.record.address = ip ∧ s.rt.shared.now < r.expiry

-- Nothing comes out of the cache that has outlived its record.
structure Trusted (s : CacheRun S) : Prop where
  get : ∀ draw domain preferIpv6 ip,
    dnsCacheGet s.rt.dnsCache s.rt.shared.now draw domain preferIpv6 = some ip →
      s.Alive domain ip
  getAll : ∀ domain ips, dnsCacheGetAll s.rt.dnsCache s.rt.shared.now domain = some ips →
    ∀ ip ∈ ips, s.Alive domain ip

-- The answer that the query's group has for the other family, where it is to last at all, came in
-- just now.
def prompt (s : CacheRun S) (query : DnsQueryState) : Prop :=
  ∀ group, s.rt.dnsGroups.lookup query.groupId = some group →
    ∀ record ∈ DnsQueryGroup.recordsOf (group.resultOf query.queryType.other),
      record.ttl ≠ 0 → s.receivedAt query.groupId query.queryType.other = s.rt.shared.now

def together (H : Hickory) (s : CacheRun S) : DnsOp → Prop
  | .resolve => s.rt.dnsGroups.lookup s.rt.shared.statics.dnsGroupId = none
  | .resolveAll => s.rt.dnsGroups.lookup s.rt.shared.statics.dnsGroupId = none
  | .response data _ => ∀ txId result query,
      parseDnsResponseWithId H data = .ok (txId, result) →
      s.rt.dnsQueries.lookup txId = some query → s.prompt query
  | _ => True

end CacheRun

namespace RuntimeState

-- Every record a group holds has its receipt.
def Held (receipts : List Receipt) (receivedAt : UInt32 → DnsRecordType → Time)
    (rt : RuntimeState S) : Prop :=
  ∀ i g queryType, rt.dnsGroups.lookup i = some g →
    ∀ record ∈ DnsQueryGroup.recordsOf (g.resultOf queryType),
      ⟨g.domain, record, receivedAt i queryType⟩ ∈ receipts

-- No cached address expires later than one of its records, unless it has already.
def Covered (receipts : List Receipt) (rt : RuntimeState S) : Prop :=
  ∀ domain value, rt.dnsCache.lookup domain = some value → ∀ e ∈ value.records,
    ∃ r ∈ receipts, r.domain = domain ∧ r.record.address = e.1 ∧
      (e.2 ≤ r.expiry ∨ e.2 ≤ rt.shared.now)

-- The lasting records that the group holds came just now.
def Current (receivedAt : UInt32 → DnsRecordType → Time) (rt : RuntimeState S) (i : UInt32) :
    Prop :=
  ∀ g queryType, rt.dnsGroups.lookup i = some g →
    ∀ record ∈ DnsQueryGroup.recordsOf (g.resultOf queryType),
      record.ttl ≠ 0 → receivedAt i queryType = rt.shared.now

-- A query that is out has a live group, which is for the query's domain.
def Linked (queried : UInt16 → String) (rt : RuntimeState S) : Prop :=
  ∀ txId query, rt.dnsQueries.lookup txId = some query →
    ∃ g, rt.dnsGroups.lookup query.groupId = some g ∧ g.domain = queried txId

variable {receipts : List Receipt} {receivedAt : UInt32 → DnsRecordType → Time}

theorem stamp_self (query : DnsQueryState) (now : Time) :
    CacheRun.stamp receivedAt query now query.groupId query.queryType = now := by
  rw [CacheRun.stamp, Function.update_self, Function.update_self]

theorem stamp_family {query : DnsQueryState} {ty : DnsRecordType} (h : ty ≠ query.queryType)
    (now : Time) :
    CacheRun.stamp receivedAt query now query.groupId ty = receivedAt query.groupId ty := by
  rw [CacheRun.stamp, Function.update_self, Function.update_of_ne h]

theorem stamp_group {query : DnsQueryState} {i : UInt32} (h : i ≠ query.groupId) (now : Time) :
    CacheRun.stamp receivedAt query now i = receivedAt i := by
  rw [CacheRun.stamp, Function.update_of_ne h]

theorem other_of_ne {ty queryType : DnsRecordType} (h : ty ≠ queryType) :
    ty = queryType.other := by
  cases ty <;> cases queryType <;> first | rfl | exact absurd rfl h

theorem domain_record (group : DnsQueryGroup) (queryType : DnsRecordType) (result : DnsResult) :
    (group.record queryType result).domain = group.domain := by
  cases queryType <;> rfl

theorem domain_afterAnswer (group : DnsQueryGroup) : group.afterAnswer.domain = group.domain := by
  simp only [DnsQueryGroup.afterAnswer]
  split <;> rfl

theorem mem_allRecords {group : DnsQueryGroup} {record : DnsRecord}
    (h : record ∈ group.allRecords) :
    ∃ queryType, record ∈ DnsQueryGroup.recordsOf (group.resultOf queryType) := by
  rcases List.mem_append.mp h with h | h
  · exact ⟨.a, h⟩
  · exact ⟨.aaaa, h⟩

theorem Covered.same (h : rt.Covered receipts) (hs : SameDns rt rt') : rt'.Covered receipts := by
  intro domain value hl
  rw [hs.cache] at hl
  rw [hs.now]
  exact h domain value hl

theorem Covered.resolve (h : rt.Covered receipts) (hheld : rt.Held receipts receivedAt)
    {i : UInt32} (hnow : rt.Current receivedAt i) : (rt.tryResolveDnsGroup i).Covered receipts := by
  cases hl : rt.dnsGroups.lookup i with
  | none => rwa [tryResolveDnsGroup_none hl]
  | some group =>
      rw [tryResolveDnsGroup_eq hl]
      intro domain value hv
      simp only [withDns, cached] at hv
      split_ifs at hv
      · exact h domain value hv
      · rw [dnsCacheInsert, Table.lookup_insert] at hv
        split_ifs at hv with hd
        · cases hv
          intro e he
          obtain ⟨record, hrecord, rfl⟩ := List.mem_map.mp he
          obtain ⟨queryType, hq⟩ := mem_allRecords hrecord
          refine ⟨_, hheld i group queryType hl record hq, hd.symm, rfl, ?_⟩
          by_cases httl : record.ttl = 0
          · right
            rw [httl]
            exact Nat.le_refl _
          · left
            rw [← hnow group queryType hl record hq httl]
            exact Nat.le_refl _
        · exact h domain value hv
      · exact h domain value hv

theorem Held.record (h : rt.Held receipts receivedAt) {query : DnsQueryState}
    {domain : String} (hd : ∀ g, rt.dnsGroups.lookup query.groupId = some g → g.domain = domain)
    (result : DnsResult) (now : Time) :
    (rt.recordResult query.groupId query.queryType result).Held
      (CacheRun.receiptsOf domain result now ++ receipts)
      (CacheRun.stamp receivedAt query now) := by
  intro i g ty hg record hr
  rw [DnsSound.lookup_recordResult] at hg
  split_ifs at hg with hi
  · subst hi
    obtain ⟨group, hl, rfl⟩ := Option.map_eq_some_iff.mp hg
    rw [DnsQueryGroup.resultOf_record] at hr
    rw [domain_record]
    by_cases hty : ty = query.queryType
    · subst hty
      rw [Function.update_self] at hr
      rw [stamp_self, hd group hl]
      exact List.mem_append_left _ (List.mem_map_of_mem hr)
    · rw [Function.update_of_ne hty] at hr
      rw [stamp_family hty]
      exact List.mem_append_right _ (h query.groupId group ty hl record hr)
  · rw [stamp_group hi]
    exact List.mem_append_right _ (h i g ty hg record hr)

theorem Covered.record (h : rt.Covered receipts) (query : DnsQueryState) (result : DnsResult)
    (more : List Receipt) :
    (rt.recordResult query.groupId query.queryType result).Covered (more ++ receipts) := by
  intro domain value hl e he
  obtain ⟨r, hr, hrest⟩ := h domain value hl e he
  exact ⟨r, List.mem_append_right _ hr, hrest⟩

-- A group that no answer has reached yet.
def Bare (rt : RuntimeState S) (i : UInt32) : Prop :=
  ∀ g queryType, rt.dnsGroups.lookup i = some g →
    DnsQueryGroup.recordsOf (g.resultOf queryType) = []

theorem Bare.current {i : UInt32} (h : rt.Bare i) : rt.Current receivedAt i := by
  intro g queryType hl record hr
  rw [h g queryType hl] at hr
  cases hr

-- Each group that is left was there before, for the same domain and with these records or more.
def NoNewRecords (rt rt' : RuntimeState S) : Prop :=
  ∀ i g, rt'.dnsGroups.lookup i = some g →
    ∃ old, rt.dnsGroups.lookup i = some old ∧ old.domain = g.domain ∧
      ∀ queryType, ∀ record ∈ DnsQueryGroup.recordsOf (g.resultOf queryType),
        record ∈ DnsQueryGroup.recordsOf (old.resultOf queryType)

namespace NoNewRecords

theorem held (hn : NoNewRecords rt rt') (h : rt.Held receipts receivedAt) :
    rt'.Held receipts receivedAt := by
  intro i g queryType hl record hr
  obtain ⟨old, hold, hd, hrecords⟩ := hn i g hl
  rw [← hd]
  exact h i old queryType hold record (hrecords queryType record hr)

theorem bare (hn : NoNewRecords rt rt') {i : UInt32} (h : rt.Bare i) : rt'.Bare i := by
  intro g queryType hl
  obtain ⟨old, hold, _, hrecords⟩ := hn i g hl
  rw [List.eq_nil_iff_forall_not_mem]
  intro record hr
  have hmem := hrecords queryType record hr
  rw [h old queryType hold] at hmem
  cases hmem

theorem kept (h : ∀ i g, rt'.dnsGroups.lookup i = some g → rt.dnsGroups.lookup i = some g) :
    NoNewRecords rt rt' :=
  fun i g hl => ⟨g, h i g hl, rfl, fun _ _ hr => hr⟩

theorem same (hs : SameDns rt rt') : NoNewRecords rt rt' :=
  kept (fun i g hl => by rwa [hs.groups] at hl)

theorem resolve (rt : RuntimeState S) (i : UInt32) :
    NoNewRecords rt (rt.tryResolveDnsGroup i) := by
  cases hl : rt.dnsGroups.lookup i with
  | none =>
      rw [tryResolveDnsGroup_none hl]
      exact kept (fun _ _ hg => hg)
  | some group =>
      rw [tryResolveDnsGroup_eq hl]
      intro j g hg
      simp only [withDns, resolvedGroups] at hg
      split_ifs at hg
      · rw [Table.lookup_erase] at hg
        split_ifs at hg
        exact ⟨g, hg, rfl, fun _ _ hr => hr⟩
      · rw [Table.lookup_insert] at hg
        split_ifs at hg with hj
        · cases hg
          refine ⟨group, hj ▸ hl, (domain_afterAnswer group).symm, ?_⟩
          intro queryType record hr
          rwa [DnsQueryGroup.resultOf_afterAnswer] at hr
        · exact ⟨g, hg, rfl, fun _ _ hr => hr⟩
      · exact ⟨g, hg, rfl, fun _ _ hr => hr⟩

theorem recordError (rt : RuntimeState S) (i : UInt32) (queryType : DnsRecordType)
    (e : DnsError) : NoNewRecords rt (rt.recordResult i queryType (.error e)) := by
  intro j g hg
  rw [DnsSound.lookup_recordResult] at hg
  split_ifs at hg with hj
  · obtain ⟨group, hl, rfl⟩ := Option.map_eq_some_iff.mp hg
    refine ⟨group, hj ▸ hl, (domain_record group queryType (.error e)).symm, ?_⟩
    intro ty record hr
    rw [DnsQueryGroup.resultOf_record] at hr
    by_cases hty : ty = queryType
    · subst hty
      rw [Function.update_self] at hr
      cases hr
    · rwa [Function.update_of_ne hty] at hr
  · exact ⟨g, hg, rfl, fun _ _ hr => hr⟩

theorem expired (rt : RuntimeState S) (i : UInt32) : NoNewRecords rt (rt.expireDnsGroup i) := by
  refine kept (fun j g hg => ?_)
  rw [expireDnsGroup_groups] at hg
  split_ifs at hg
  exact hg

end NoNewRecords

section linked

variable {queried : UInt16 → String}

theorem Linked.same (h : rt.Linked queried) (hs : SameDns rt rt') : rt'.Linked queried := by
  intro txId query hq
  rw [hs.queries] at hq
  rw [hs.groups]
  exact h txId query hq

theorem Linked.take (h : rt.Linked queried) (txId : UInt16) :
    (rt.takeQuery txId).Linked queried := by
  intro tx query hq
  simp only [takeQuery] at hq
  rw [Table.lookup_erase] at hq
  split_ifs at hq
  exact h tx query hq

theorem Linked.record (h : rt.Linked queried) (i : UInt32) (queryType : DnsRecordType)
    (result : DnsResult) : (rt.recordResult i queryType result).Linked queried := by
  intro txId query hq
  obtain ⟨g, hl, hd⟩ := h txId query hq
  rw [DnsSound.lookup_recordResult]
  split_ifs with hi
  · rw [hi] at hl
    rw [hl]
    exact ⟨_, rfl, (domain_record g queryType result).trans hd⟩
  · exact ⟨g, hl, hd⟩

theorem Linked.resolve (h : rt.Linked queried) (i : UInt32) :
    (rt.tryResolveDnsGroup i).Linked queried := by
  cases hl : rt.dnsGroups.lookup i with
  | none => rwa [tryResolveDnsGroup_none hl]
  | some group =>
      rw [tryResolveDnsGroup_eq hl]
      intro txId query hq
      simp only [withDns, resolvedGroups] at hq ⊢
      split_ifs at hq ⊢ with hc ha
      · rw [Table.lookup_retain, Option.filter_eq_some_iff, decide_eq_true_eq] at hq
        rw [Table.lookup_erase, if_neg hq.2]
        exact h txId query hq.1
      · obtain ⟨g, hg, hd⟩ := h txId query hq
        rw [Table.lookup_insert]
        split_ifs with hi
        · rw [hi, hl] at hg
          cases hg
          exact ⟨_, rfl, (domain_afterAnswer group).trans hd⟩
        · exact ⟨g, hg, hd⟩
      · exact h txId query hq

theorem Linked.expired (h : rt.Linked queried) (i : UInt32) :
    (rt.expireDnsGroup i).Linked queried := by
  cases hl : rt.dnsGroups.lookup i with
  | none => rwa [expireDnsGroup_none hl]
  | some group =>
      rw [expireDnsGroup_eq hl]
      intro txId query hq
      simp only [withDns] at hq ⊢
      rw [Table.lookup_retain, Option.filter_eq_some_iff, decide_eq_true_eq] at hq
      rw [Table.lookup_erase, if_neg hq.2]
      exact h txId query hq.1

theorem Linked.expiredAll (h : rt.Linked queried) (ids : List UInt32) :
    (ids.foldl expireDnsGroup rt).Linked queried := by
  induction ids generalizing rt with
  | nil => exact h
  | cons id ids ih => exact ih (h.expired id)

theorem Linked.other (h : rt.Linked queried) (ho : CacheRun.Other rt rt') :
    rt'.Linked queried := by
  intro txId query hq
  obtain ⟨hold, hgroup⟩ := ho.queries txId query hq
  rw [hgroup]
  exact h txId query hold

-- A group for the domain that has an answer of one family at most.
def Asking (rt : RuntimeState S) (i : UInt32) (domain : String) (queryType : DnsRecordType) :
    Prop :=
  ∃ g, rt.dnsGroups.lookup i = some g ∧ g.domain = domain ∧ g.resultOf queryType = none

theorem Linked.dispatch (h : rt.Linked queried) {i : UInt32} {domain : String}
    {queryType : DnsRecordType} (ha : rt.Asking i domain queryType)
    (hnew : ∀ txId, rt.dnsQueries.lookup txId = none → queried txId = domain)
    {dnsHandle : SocketHandle} {dnsServer : IpAddress} {logLabel : String}
    (hd : rt.dispatchDnsQuery H i domain dnsHandle dnsServer queryType logLabel = .ok rt') :
    rt'.Linked queried := by
  obtain ⟨g, hl, hg, _⟩ := ha
  obtain ⟨rt₁, hs, ⟨txId, hfree, rfl⟩ | ⟨e, rfl⟩⟩ := dispatchDnsQuery_cases hd
  · intro tx query hq
    simp only [insertQuery] at hq ⊢
    rw [Table.lookup_insert] at hq
    split_ifs at hq with htx
    · cases hq
      rw [hs.groups, hl, htx, hnew txId hfree]
      exact ⟨g, rfl, hg⟩
    · exact h.same hs tx query hq
  · exact ((h.same hs).record i queryType (.error e)).resolve i

theorem Asking.dispatch {i : UInt32} {domain : String} {queryType : DnsRecordType}
    (ha : rt.Asking i domain queryType.other) {dnsHandle : SocketHandle} {dnsServer : IpAddress}
    {logLabel : String}
    (hd : rt.dispatchDnsQuery H i domain dnsHandle dnsServer queryType logLabel = .ok rt') :
    rt'.Asking i domain queryType.other := by
  obtain ⟨g, hl, hg, hn⟩ := ha
  obtain ⟨rt₁, hs, ⟨txId, hfree, rfl⟩ | ⟨e, rfl⟩⟩ := dispatchDnsQuery_cases hd
  · refine ⟨g, ?_, hg, hn⟩
    rw [← hl, ← hs.groups]
    rfl
  · have hrec : (rt₁.recordResult i queryType (.error e)).dnsGroups.lookup i =
        some (g.record queryType (.error e)) := by
      rw [DnsSound.lookup_recordResult, if_pos rfl, hs.groups, hl]
      rfl
    have hother : (g.record queryType (.error e)).resultOf queryType.other = none := by
      rw [DnsQueryGroup.resultOf_record, Function.update_of_ne (by cases queryType <;> nofun)]
      exact hn
    have hc : (g.record queryType (.error e)).complete = false := by
      rw [Bool.eq_false_iff, Ne, DnsQueryGroup.complete_iff]
      exact fun hall => hall _ hother
    rw [tryResolveDnsGroup_eq hrec]
    simp only [Asking, withDns, resolvedGroups, hc, Bool.false_eq_true, if_false]
    split_ifs
    · rw [Table.lookup_insert, if_pos rfl]
      refine ⟨_, rfl, ?_, ?_⟩
      · rw [domain_afterAnswer, domain_record, hg]
      · rw [DnsQueryGroup.resultOf_afterAnswer, hother]
    · exact ⟨_, hrec, (domain_record _ _ _).trans hg, hother⟩

theorem Linked.started (h : rt.Linked queried)
    (hid : rt.dnsGroups.lookup rt.shared.statics.dnsGroupId = none) {domain : String}
    {preferIpv6 resolveAll : Bool} {response responseAll : Option OneshotId}
    {dnsServers : List IpAddress}
    (hs : rt.startDnsQueryFor H domain preferIpv6 resolveAll response responseAll dnsServers =
      .ok rt') :
    rt'.Linked (fun txId =>
      if (rt.dnsQueries.lookup txId).isSome then queried txId else domain) := by
  obtain ⟨rt₁, hsame, hcase⟩ := startDnsQueryFor_cases hs
  have hapart : ∀ txId query, rt.dnsQueries.lookup txId = some query →
      query.groupId ≠ rt.shared.statics.dnsGroupId := by
    intro txId query hq hi
    obtain ⟨g, hl, _⟩ := h txId query hq
    rw [hi, hid] at hl
    cases hl
  have hopen : (rt.openGroup rt.shared.statics.dnsGroupId
      (rt.newGroup domain preferIpv6 response responseAll)).Linked (fun txId =>
        if (rt.dnsQueries.lookup txId).isSome then queried txId else domain) := by
    intro txId query hq
    change rt.dnsQueries.lookup txId = some query at hq
    simp only [openGroup]
    rw [Table.lookup_insert, if_neg (hapart txId query hq), hq]
    exact h txId query hq
  have h₁ := hopen.same hsame
  have hkept : ∀ txId query, rt.dnsQueries.lookup txId = some query →
      rt₁.dnsQueries.lookup txId = some query := by
    intro txId query hq
    rw [hsame.queries]
    exact hq
  have hnew : ∀ {rt₂ : RuntimeState S},
      (∀ txId query, rt.dnsQueries.lookup txId = some query →
        rt₂.dnsQueries.lookup txId = some query) →
      ∀ txId, rt₂.dnsQueries.lookup txId = none →
        (if (rt.dnsQueries.lookup txId).isSome then queried txId else domain) = domain := by
    intro rt₂ hk txId hfree
    cases hq : rt.dnsQueries.lookup txId with
    | none => rfl
    | some query =>
        rw [hk txId query hq] at hfree
        cases hfree
  have hasking : ∀ queryType, rt₁.Asking rt.shared.statics.dnsGroupId domain queryType := by
    intro queryType
    refine ⟨rt.newGroup domain preferIpv6 response responseAll, ?_, rfl, ?_⟩
    case refine_2 => cases queryType <;> rfl
    rw [hsame.groups]
    simp only [openGroup]
    rw [Table.lookup_insert, if_pos rfl]
  rcases hcase with ⟨e, rfl⟩ | ⟨dnsServer, dnsHandle, rt₂, h₂, h₃⟩
  · exact ((h₁.record _ _ _).record _ _ _).resolve _
  · exact (h₁.dispatch (hasking .a) (hnew hkept) h₂).dispatch ((hasking .aaaa).dispatch h₂)
      (hnew (fun txId query hq =>
        dispatch_keeps h₂ (hkept txId query hq) (hapart txId query hq))) h₃

end linked

structure Receipted (receipts : List Receipt) (receivedAt : UInt32 → DnsRecordType → Time)
    (rt : RuntimeState S) : Prop where
  held : rt.Held receipts receivedAt
  covered : rt.Covered receipts

namespace Receipted

theorem same (h : rt.Receipted receipts receivedAt) (hs : SameDns rt rt') :
    rt'.Receipted receipts receivedAt :=
  ⟨(NoNewRecords.same hs).held h.held, h.covered.same hs⟩

theorem resolve (h : rt.Receipted receipts receivedAt) {i : UInt32}
    (hnow : rt.Current receivedAt i) :
    (rt.tryResolveDnsGroup i).Receipted receipts receivedAt :=
  ⟨(NoNewRecords.resolve rt i).held h.held, h.covered.resolve h.held hnow⟩

theorem recordError (h : rt.Receipted receipts receivedAt) (i : UInt32)
    (queryType : DnsRecordType) (e : DnsError) :
    (rt.recordResult i queryType (.error e)).Receipted receipts receivedAt :=
  ⟨(NoNewRecords.recordError rt i queryType e).held h.held, h.covered⟩

theorem dispatch (h : rt.Receipted receipts receivedAt) {i : UInt32} (hb : rt.Bare i)
    {domain : String} {dnsHandle : SocketHandle} {dnsServer : IpAddress}
    {queryType : DnsRecordType} {logLabel : String}
    (hd : rt.dispatchDnsQuery H i domain dnsHandle dnsServer queryType logLabel = .ok rt') :
    rt'.Receipted receipts receivedAt ∧ rt'.Bare i := by
  obtain ⟨rt₁, hs, ⟨txId, _, rfl⟩ | ⟨e, rfl⟩⟩ := dispatchDnsQuery_cases hd
  · have h₁ := h.same hs
    have hb₁ : rt₁.Bare i := (NoNewRecords.same hs).bare hb
    exact ⟨⟨h₁.held, h₁.covered⟩, hb₁⟩
  · have hb₁ := (NoNewRecords.recordError rt₁ i queryType e).bare ((NoNewRecords.same hs).bare hb)
    exact ⟨((h.same hs).recordError i queryType e).resolve hb₁.current,
      (NoNewRecords.resolve _ i).bare hb₁⟩

theorem opened (h : rt.Receipted receipts receivedAt) (i : UInt32) {group : DnsQueryGroup}
    (hg : ∀ queryType, group.resultOf queryType = none) :
    (rt.openGroup i group).Receipted receipts receivedAt ∧ (rt.openGroup i group).Bare i := by
  have hlook : ∀ j, (rt.openGroup i group).dnsGroups.lookup j =
      if j = i then some group else rt.dnsGroups.lookup j := fun j =>
    Table.lookup_insert _ _ _ _
  refine ⟨⟨fun j g queryType hl record hr => ?_, h.covered⟩, fun g queryType hl => ?_⟩
  · rw [hlook] at hl
    split_ifs at hl
    · cases hl
      rw [hg] at hr
      cases hr
    · exact h.held j g queryType hl record hr
  · rw [hlook, if_pos rfl] at hl
    cases hl
    rw [hg]
    rfl

theorem started (h : rt.Receipted receipts receivedAt) {domain : String}
    {preferIpv6 resolveAll : Bool} {response responseAll : Option OneshotId}
    {dnsServers : List IpAddress}
    (hs : rt.startDnsQueryFor H domain preferIpv6 resolveAll response responseAll dnsServers =
      .ok rt') : rt'.Receipted receipts receivedAt := by
  obtain ⟨rt₁, hsame, hcase⟩ := startDnsQueryFor_cases hs
  have hempty : ∀ queryType,
      (rt.newGroup domain preferIpv6 response responseAll).resultOf queryType = none := by
    intro queryType
    cases queryType <;> rfl
  obtain ⟨ho, hb⟩ := h.opened rt.shared.statics.dnsGroupId hempty
  have h₁ := ho.same hsame
  have hb₁ := (NoNewRecords.same hsame).bare hb
  rcases hcase with ⟨e, rfl⟩ | ⟨dnsServer, dnsHandle, rt₂, h₂, h₃⟩
  · have hfailed := ((NoNewRecords.recordError rt₁ rt.shared.statics.dnsGroupId .a e).bare hb₁)
    have hboth := (NoNewRecords.recordError _ rt.shared.statics.dnsGroupId .aaaa e).bare hfailed
    exact ((h₁.recordError _ .a e).recordError _ .aaaa e).resolve hboth.current
  · obtain ⟨hr₂, hb₂⟩ := h₁.dispatch hb₁ h₂
    exact (hr₂.dispatch hb₂ h₃).1

theorem expired (h : rt.Receipted receipts receivedAt) (i : UInt32) :
    (rt.expireDnsGroup i).Receipted receipts receivedAt := by
  refine ⟨(NoNewRecords.expired rt i).held h.held, ?_⟩
  cases hl : rt.dnsGroups.lookup i with
  | none =>
      rw [expireDnsGroup_none hl]
      exact h.covered
  | some group =>
      rw [expireDnsGroup_eq hl]
      exact h.covered

theorem expiredAll (h : rt.Receipted receipts receivedAt) (ids : List UInt32) :
    (ids.foldl expireDnsGroup rt).Receipted receipts receivedAt := by
  induction ids generalizing rt with
  | nil => exact h
  | cons id ids ih => exact ih (h.expired id)

theorem other (h : rt.Receipted receipts receivedAt) (ho : CacheRun.Other rt rt') :
    rt'.Receipted receipts receivedAt := by
  refine ⟨(NoNewRecords.kept ho.groups).held h.held, ?_⟩
  intro domain value hl e he
  obtain ⟨r, hr, hd, ha, hexp⟩ := h.covered domain value (ho.cache domain value hl) e he
  exact ⟨r, hr, hd, ha, hexp.imp_right (fun hle => Nat.le_trans hle ho.now)⟩

end Receipted

end RuntimeState

namespace CacheRun

structure Receipted (s : CacheRun S) : Prop where
  dns : s.rt.Receipted s.receipts s.receivedAt
  linked : s.rt.Linked s.queried

theorem Receipted.received {s : CacheRun S} (h : s.Receipted) {data : List UInt8}
    (hg : ∀ txId result query, parseDnsResponseWithId H data = .ok (txId, result) →
      s.rt.dnsQueries.lookup txId = some query → s.prompt query) :
    (s.received H data).Receipted := by
  rcases hp : parseDnsResponseWithId H data with e | ⟨txId, result⟩
  · simp only [CacheRun.received, acceptDnsResponse, hp]
    exact h
  · cases hq : s.rt.dnsQueries.lookup txId with
    | none =>
        simp only [CacheRun.received, acceptDnsResponse, hp, hq]
        exact h
    | some query =>
        simp only [CacheRun.received, hp, hq]
        rw [accept_eq hp hq]
        obtain ⟨group, hl, hdomain⟩ := h.linked txId query hq
        have htaken : (s.rt.takeQuery txId).Held s.receipts s.receivedAt := h.dns.held
        have hcovered : (s.rt.takeQuery txId).Covered s.receipts := h.dns.covered
        have hnamed : ∀ g, (s.rt.takeQuery txId).dnsGroups.lookup query.groupId = some g →
            g.domain = s.queried txId := by
          intro g hg'
          cases hl.symm.trans hg'
          exact hdomain
        refine ⟨RuntimeState.Receipted.resolve ⟨htaken.record hnamed result _,
          hcovered.record query result _⟩ ?_, ?_⟩
        · intro g ty hg' record hr httl
          rw [DnsSound.lookup_recordResult, if_pos rfl] at hg'
          obtain ⟨g', hg'', rfl⟩ := Option.map_eq_some_iff.mp hg'
          rw [DnsQueryGroup.resultOf_record] at hr
          by_cases hty : ty = query.queryType
          · rw [hty]
            exact stamp_self query _
          · rw [Function.update_of_ne hty] at hr
            rw [stamp_family hty, other_of_ne hty]
            rw [other_of_ne hty] at hr
            exact hg txId result query hp hq g' hg'' record hr httl
        · exact ((h.linked.take txId).record _ _ _).resolve _

theorem step_receipted {s t : CacheRun S} {op : DnsOp} (h : s.Receipted)
    (hg : s.together H op) (hs : Step H s op t) : t.Receipted := by
  cases hs with
  | resolve hq => exact ⟨h.dns.started hq, h.linked.started hg hq⟩
  | resolveAll hq => exact ⟨h.dns.started hq, h.linked.started hg hq⟩
  | response data source => exact h.received hg
  | expire => exact ⟨h.dns.expiredAll _, h.linked.expiredAll _⟩
  | other ho => exact ⟨h.dns.other ho, h.linked.other ho⟩

theorem Initial.receipted {s : CacheRun S} (h : s.Initial) : s.Receipted := by
  obtain ⟨hq, hg, hc⟩ := h
  refine ⟨⟨fun i g queryType hl => ?_, fun domain value hl => ?_⟩, fun txId query hl => ?_⟩
  · rw [hg] at hl
    cases hl
  · rw [hc] at hl
    cases hl
  · rw [hq] at hl
    cases hl

theorem Reaches.receipted {s : CacheRun S} (h : Reaches H (together H) s) : s.Receipted := by
  induction h with
  | initial h₀ => exact h₀.receipted
  | step _ hg hs ih => exact step_receipted ih hg hs

theorem pickNth_mem {targetV6 : Bool} {targetIdx : Nat} {ips : List IpAddress} {idx : Nat}
    {ip : IpAddress} (h : pickNth targetV6 targetIdx ips idx = some ip) : ip ∈ ips := by
  induction ips generalizing idx with
  | nil => cases h
  | cons first ips ih =>
      simp only [pickNth] at h
      split_ifs at h
      · cases h
        exact List.mem_cons_self ..
      · exact List.mem_cons_of_mem _ (ih h)
      · exact List.mem_cons_of_mem _ (ih h)

theorem Receipted.alive {s : CacheRun S} (h : s.Receipted) {domain : String}
    {value : DnsCacheValue} (hl : s.rt.dnsCache.lookup domain = some value) {ip : IpAddress}
    (hip : ip ∈ validIps s.rt.shared.now value) : s.Alive domain ip := by
  obtain ⟨e, he, rfl⟩ := List.mem_map.mp hip
  obtain ⟨hmem, hlive⟩ := List.mem_filter.mp he
  have hlt := of_decide_eq_true hlive
  obtain ⟨r, hr, hd, ha, hexp⟩ := h.dns.covered domain value hl e hmem
  rcases hexp with hexp | hexp
  · exact ⟨r, hr, hd, ha, Nat.lt_of_lt_of_le hlt hexp⟩
  · exact absurd hlt (Nat.not_lt_of_le hexp)

theorem Receipted.trusted {s : CacheRun S} (h : s.Receipted) : s.Trusted where
  get := by
    intro draw domain preferIpv6 ip hget
    obtain ⟨value, hl, hget⟩ := Option.bind_eq_some_iff.mp hget
    dsimp only at hget
    have hpick : ∃ targetV6 targetIdx,
        pickNth targetV6 targetIdx (validIps s.rt.shared.now value) 0 = some ip := by
      split_ifs at hget <;> exact ⟨_, _, hget⟩
    obtain ⟨targetV6, targetIdx, hpick⟩ := hpick
    exact h.alive hl (pickNth_mem hpick)
  getAll := by
    intro domain ips hget ip hip
    obtain ⟨value, hl, hget⟩ := Option.bind_eq_some_iff.mp hget
    dsimp only at hget
    split_ifs at hget
    cases hget
    exact h.alive hl hip

-- Over every run in which no answer is kept waiting for the other.
theorem cache_outlives_no_record {s : CacheRun S} (h : Reaches H (together H) s) : s.Trusted :=
  h.receipted.trusted

instance (s : CacheRun S) (domain : String) (ip : IpAddress) : Decidable (s.Alive domain ip) :=
  inferInstanceAs (Decidable (∃ r ∈ s.receipts, _))

instance (s : CacheRun S) (query : DnsQueryState) : Decidable (s.prompt query) :=
  match h : s.rt.dnsGroups.lookup query.groupId with
  | none => isTrue (fun g hg => absurd (h.symm.trans hg) (by simp))
  | some group =>
      decidable_of_iff
        (∀ record ∈ DnsQueryGroup.recordsOf (group.resultOf query.queryType.other),
          record.ttl ≠ 0 → s.receivedAt query.groupId query.queryType.other = s.rt.shared.now)
        ⟨fun hall g hg => Option.some.inj (h.symm.trans hg) ▸ hall, fun hp => hp group h⟩

instance (H : Hickory) (s : CacheRun S) : (op : DnsOp) → Decidable (s.together H op)
  | .resolve => inferInstanceAs (Decidable (_ = none))
  | .resolveAll => inferInstanceAs (Decidable (_ = none))
  | .response data _ =>
      match hp : parseDnsResponseWithId H data with
      | .error _ => isTrue (fun _ _ _ hp' => absurd (hp.symm.trans hp') (by simp))
      | .ok (txId, result) =>
          match hq : s.rt.dnsQueries.lookup txId with
          | none => isTrue (fun txId' result' query hp' hq' => by
              cases hp.symm.trans hp'
              exact absurd (hq.symm.trans hq') (by simp))
          | some query =>
              decidable_of_iff (s.prompt query)
                ⟨fun h txId' result' query' hp' hq' => by
                  cases hp.symm.trans hp'
                  cases hq.symm.trans hq'
                  exact h, fun h => h txId result query hp hq⟩
  | .expire => isTrue trivial
  | .quiet => isTrue trivial

def exec (H : Hickory) (guard : CacheRun S → DnsOp → Prop) [∀ s op, Decidable (guard s op)]
    (s : CacheRun S) (input : DnsInput) : Option (CacheRun S) :=
  if guard s input.op then
    match input with
    | .resolve domain preferIpv6 response =>
        (s.rt.startDnsQuery H domain preferIpv6 response []).toOption.map (s.started · domain)
    | .resolveAll domain response =>
        (s.rt.startDnsQueryAll H domain response []).toOption.map (s.started · domain)
    | .response data _ => some (s.received H data)
    | .expire => some { s with rt := s.rt.expireDnsGroups }
    | .wait duration =>
        some { s with
          rt := { s.rt with shared := { s.rt.shared with now := s.rt.shared.now + duration } } }
  else none

theorem exec_step {guard : CacheRun S → DnsOp → Prop} [∀ s op, Decidable (guard s op)]
    {s t : CacheRun S} {input : DnsInput} (h : exec H guard s input = some t) :
    guard s input.op ∧ Step H s input.op t := by
  simp only [exec] at h
  split_ifs at h with hg
  refine ⟨hg, ?_⟩
  cases input with
  | resolve domain preferIpv6 response =>
      obtain ⟨rt', hq, rfl⟩ := Option.map_eq_some_iff.mp h
      exact .resolve (Outcome.toOption_eq_some.mp hq)
  | resolveAll domain response =>
      obtain ⟨rt', hq, rfl⟩ := Option.map_eq_some_iff.mp h
      exact .resolveAll (Outcome.toOption_eq_some.mp hq)
  | response data source =>
      cases h
      exact .response s data source
  | expire =>
      cases h
      exact .expire s
  | wait duration =>
      cases h
      exact .other ⟨fun _ _ hq => ⟨hq, rfl⟩, fun _ _ hl => hl, fun _ _ hl => hl,
        Nat.le_add_right _ _⟩

theorem exec_reaches {guard : CacheRun S → DnsOp → Prop} [∀ s op, Decidable (guard s op)]
    {s t : CacheRun S} {inputs : List DnsInput} (h : Run.exec (exec H guard) s inputs = some t)
    (hs : Reaches H guard s) : Reaches H guard t := by
  induction inputs generalizing s with
  | nil =>
      cases h
      exact hs
  | cons input inputs ih =>
      obtain ⟨u, hu, ht⟩ := Option.bind_eq_some_iff.mp h
      obtain ⟨hg, hstep⟩ := exec_step hu
      exact ih ht (hs.step hg hstep)

end CacheRun

namespace Script

def cacheInitial : CacheRun Reference.smoltcp where
  rt := dnsInitial.rt
  queried := fun _ => ""
  receipts := []
  receivedAt := fun _ _ => 0

def answerAaaa : List UInt8 :=
  answerTo 2 "example.com" .aaaa [(.aaaa, [0x26, 6, 0x28, 0, 2, 0x20, 0, 1] ++ List.replicate 8 1)]

-- Both answers of a group, the second one `delay` after the first, and a lookup `later`.
def cacheInputs (delay later : Time) : List DnsInput :=
  [.resolveAll "example.com" 0, .response answerA dnsServer, .wait delay,
    .response answerAaaa dnsServer, .wait later]

theorem cache_run_reaches {guard : CacheRun Reference.smoltcp → DnsOp → Prop}
    [∀ s op, Decidable (guard s op)] {delay later : Time}
    {p : CacheRun Reference.smoltcp → Bool}
    (h : (Run.exec (CacheRun.exec Reference.hickory guard) cacheInitial
      (cacheInputs delay later)).any p = true) :
    ∃ s, CacheRun.Reaches Reference.hickory guard s ∧ p s = true := by
  obtain ⟨s, hs, hp⟩ := (Option.any_eq_true _ _).mp h
  exact ⟨s, CacheRun.exec_reaches hs (.initial ⟨rfl, rfl, rfl⟩), hp⟩

end Script

open Script in
theorem CacheRun.cache_outlives_no_record_together :
    ∃ s : CacheRun Reference.smoltcp,
      CacheRun.Reaches Reference.hickory (together Reference.hickory) s ∧
      (dnsCacheGetAll s.rt.dnsCache s.rt.shared.now "example.com").isSome = true ∧ s.Trusted := by
  have h : (Run.exec (CacheRun.exec Reference.hickory (together Reference.hickory)) cacheInitial
      (cacheInputs 0 (secs 59))).any (fun s =>
        (dnsCacheGetAll s.rt.dnsCache s.rt.shared.now "example.com").isSome) = true := by
    decide +kernel
  obtain ⟨s, hs, hp⟩ := cache_run_reaches h
  exact ⟨s, hs, hp, s.cache_outlives_no_record hs⟩

-- The first answer's address, sixty-one seconds after it came in to live for sixty.
open Script in
theorem CacheRun.late_answer_prolongs :
    ∃ s : CacheRun Reference.smoltcp,
      CacheRun.Reaches Reference.hickory (fun _ _ => True) s ∧ ¬ s.Trusted := by
  have h : (Run.exec (CacheRun.exec Reference.hickory (fun _ _ => True)) cacheInitial
      (cacheInputs (secs 3) (secs 58))).any (fun s =>
        (dnsCacheGetAll s.rt.dnsCache s.rt.shared.now "example.com").any (fun ips =>
          ips.any (fun ip => decide (¬ s.Alive "example.com" ip)))) = true := by
    decide +kernel
  obtain ⟨s, hs, hp⟩ := cache_run_reaches h
  obtain ⟨ips, hips, hany⟩ := (Option.any_eq_true _ _).mp hp
  obtain ⟨ip, hmem, hdead⟩ := List.any_eq_true.mp hany
  exact ⟨s, hs, fun ht => of_decide_eq_true hdead (ht.getAll "example.com" ips hips ip hmem)⟩

end Usque
