import Usque.Lib.Fanout
import Usque.Manager.Forms

namespace Usque

variable {S : Smoltcp} {rt rt' rt'' : RuntimeState S}

namespace DnsQueryGroup

def resultOf (group : DnsQueryGroup) : DnsRecordType → Option DnsResult
  | .a => group.ipv4Result
  | .aaaa => group.ipv6Result

def requesters (group : DnsQueryGroup) : List OneshotId :=
  group.response.toList ++ group.responseAll.toList

def answered (group : DnsQueryGroup) : Bool := group.response.isSome && group.result.isSome

def afterAnswer (group : DnsQueryGroup) : DnsQueryGroup :=
  if group.answered then { group with response := none } else group

@[simp] theorem resultOf_record (group : DnsQueryGroup) (queryType : DnsRecordType)
    (result : DnsResult) :
    (group.record queryType result).resultOf =
      Function.update group.resultOf queryType (some result) := by
  funext ty
  cases queryType <;> cases ty <;> rfl

@[simp] theorem requesters_record (group : DnsQueryGroup) (queryType : DnsRecordType)
    (result : DnsResult) : (group.record queryType result).requesters = group.requesters := by
  cases queryType <;> rfl

@[simp] theorem resultOf_afterAnswer (group : DnsQueryGroup) :
    group.afterAnswer.resultOf = group.resultOf := by
  simp only [afterAnswer]
  split <;> (funext ty; cases ty <;> rfl)

theorem complete_iff (group : DnsQueryGroup) :
    group.complete = true ↔ ∀ ty, group.resultOf ty ≠ none := by
  simp only [complete, Bool.and_eq_true, Option.isSome_iff_ne_none]
  constructor
  · rintro ⟨h4, h6⟩ ty
    cases ty
    · exact h4
    · exact h6
  · intro h
    exact ⟨h .a, h .aaaa⟩

end DnsQueryGroup

-- What the requester of all addresses is told once both results are in.
def allAnswer (group : DnsQueryGroup) : Except ManagerError (List IpAddress) :=
  if (group.allRecords.map (·.address)).isEmpty then
    .error (.dns (groupError group.ipv4Result group.ipv6Result))
  else .ok (group.allRecords.map (·.address))

namespace RuntimeState

def deliver (rt : RuntimeState S) (response : OneshotId) (value : Reply) :
    List (OneshotId × Reply) :=
  if response ∈ rt.shared.closedReceivers then [] else [(response, value)]

def oneReplies (rt : RuntimeState S) (group : DnsQueryGroup) : List (OneshotId × Reply) :=
  match group.response, group.result with
  | some response, some result => rt.deliver response (.resolved (result.mapError .dns))
  | _, _ => []

def allReplies (rt : RuntimeState S) (group : DnsQueryGroup) : List (OneshotId × Reply) :=
  match group.responseAll with
  | none => []
  | some response => rt.deliver response (.resolvedAll (allAnswer group))

def timeoutReplies (rt : RuntimeState S) (group : DnsQueryGroup) : List (OneshotId × Reply) :=
  group.response.toList.flatMap
      (fun r => rt.deliver r (.resolved (.error (.dns .timeout)))) ++
    group.responseAll.toList.flatMap
      (fun r => rt.deliver r (.resolvedAll (.error (.dns .timeout))))

def cached (rt : RuntimeState S) (group : DnsQueryGroup) : DnsCache :=
  if group.allRecords.isEmpty then rt.dnsCache
  else dnsCacheInsert rt.dnsCache rt.shared.now group.domain group.allRecords

def withDns (rt : RuntimeState S) (queries : Table UInt16 DnsQueryState)
    (groups : Table UInt32 DnsQueryGroup) (cache : DnsCache)
    (replies : List (OneshotId × Reply)) : RuntimeState S :=
  { rt with
    dnsQueries := queries
    dnsGroups := groups
    dnsCache := cache
    shared := { rt.shared with replies := rt.shared.replies ++ replies } }

theorem withDns_nil (rt : RuntimeState S) :
    rt.withDns rt.dnsQueries rt.dnsGroups rt.dnsCache [] = rt := by
  simp [withDns]

theorem answerOne_eq (rt : RuntimeState S) (groupId : UInt32) (group : DnsQueryGroup) :
    rt.answerOne groupId group =
      rt.withDns rt.dnsQueries
        (if group.answered then AList.insert groupId group.afterAnswer rt.dnsGroups
        else rt.dnsGroups) rt.dnsCache (rt.oneReplies group) := by
  simp only [answerOne, oneReplies, DnsQueryGroup.afterAnswer, DnsQueryGroup.answered]
  rcases Option.eq_none_or_eq_some group.response with hr | ⟨response, hr⟩
  · simp [hr, withDns]
  · rcases Option.eq_none_or_eq_some group.result with hv | ⟨result, hv⟩
    · simp [hr, hv, withDns]
    · simp only [hr, hv, reply_eq, deliver, Option.isSome_some, Bool.and_self, if_true]
      rfl

theorem answerAll_eq (rt : RuntimeState S) (group : DnsQueryGroup) :
    rt.answerAll group =
      rt.withDns rt.dnsQueries rt.dnsGroups rt.dnsCache (rt.allReplies group) := by
  simp only [answerAll, allReplies, allAnswer]
  cases group.responseAll with
  | none => simp [withDns]
  | some response =>
      dsimp only
      split <;> (rw [reply_eq]; rfl)

theorem erase_insert {κ ν : Type} [DecidableEq κ] (m : Table κ ν) (k : κ) (v : ν) :
    AList.erase k (AList.insert k v m) = AList.erase k m := by
  apply AList.ext
  show List.kerase k (⟨k, v⟩ :: List.kerase k m.entries) = List.kerase k m.entries
  exact List.kerase_cons_eq rfl

def resolvedGroups (rt : RuntimeState S) (groupId : UInt32) (group : DnsQueryGroup) :
    Table UInt32 DnsQueryGroup :=
  if group.complete then AList.erase groupId rt.dnsGroups
  else if group.answered then AList.insert groupId group.afterAnswer rt.dnsGroups
  else rt.dnsGroups

theorem tryResolveDnsGroup_eq {groupId : UInt32} {group : DnsQueryGroup}
    (hl : rt.dnsGroups.lookup groupId = some group) :
    rt.tryResolveDnsGroup groupId =
      rt.withDns
        (if group.complete then Table.retain (fun _ q => q.groupId ≠ groupId) rt.dnsQueries
        else rt.dnsQueries)
        (rt.resolvedGroups groupId group)
        (if group.complete then rt.cached group else rt.dnsCache)
        (rt.oneReplies group ++ if group.complete then rt.allReplies group else []) := by
  simp only [tryResolveDnsGroup, hl, resolvedGroups]
  rw [answerOne_eq]
  by_cases hc : group.complete = true
  · simp only [hc, if_true]
    rw [answerAll_eq]
    have herase : AList.erase groupId (if group.answered = true then
        AList.insert groupId group.afterAnswer rt.dnsGroups else rt.dnsGroups) =
        AList.erase groupId rt.dnsGroups := by
      split
      · exact erase_insert _ _ _
      · rfl
    simp only [cached]
    by_cases he : group.allRecords.isEmpty = true
    · simp only [he, if_true]
      simp only [withDns, herase, List.append_assoc]
      rfl
    · simp only [if_neg he]
      simp only [withDns, herase, List.append_assoc]
      rfl
  · simp only [if_neg hc, List.append_nil]

theorem tryResolveDnsGroup_none {groupId : UInt32} (hl : rt.dnsGroups.lookup groupId = none) :
    rt.tryResolveDnsGroup groupId = rt := by
  simp only [tryResolveDnsGroup, hl]

theorem tryResolve_queries {groupId : UInt32} {txId : UInt16} {query : DnsQueryState}
    (h : (rt.tryResolveDnsGroup groupId).dnsQueries.lookup txId = some query) :
    rt.dnsQueries.lookup txId = some query := by
  cases hl : rt.dnsGroups.lookup groupId with
  | none => rwa [tryResolveDnsGroup_none hl] at h
  | some group =>
      rw [tryResolveDnsGroup_eq hl] at h
      simp only [withDns] at h
      split_ifs at h
      · rw [Table.lookup_retain, Option.filter_eq_some_iff] at h
        exact h.1
      · exact h

theorem tryResolve_keeps {groupId : UInt32} {txId : UInt16} {query : DnsQueryState}
    (h : rt.dnsQueries.lookup txId = some query) (hne : query.groupId ≠ groupId) :
    (rt.tryResolveDnsGroup groupId).dnsQueries.lookup txId = some query := by
  cases hl : rt.dnsGroups.lookup groupId with
  | none => rwa [tryResolveDnsGroup_none hl]
  | some group =>
      rw [tryResolveDnsGroup_eq hl]
      simp only [withDns]
      split_ifs
      · rw [Table.lookup_retain, Option.filter_eq_some_iff]
        exact ⟨h, by simpa using hne⟩
      · exact h

theorem tryResolve_groups {groupId i : UInt32} (hi : i ≠ groupId) :
    (rt.tryResolveDnsGroup groupId).dnsGroups.lookup i = rt.dnsGroups.lookup i := by
  cases hl : rt.dnsGroups.lookup groupId with
  | none => rw [tryResolveDnsGroup_none hl]
  | some group =>
      rw [tryResolveDnsGroup_eq hl]
      simp only [withDns, resolvedGroups]
      split_ifs
      · rw [Table.lookup_erase, if_neg hi]
      · rw [Table.lookup_insert, if_neg hi]
      · rfl

theorem expireDnsGroup_eq {groupId : UInt32} {group : DnsQueryGroup}
    (hl : rt.dnsGroups.lookup groupId = some group) :
    rt.expireDnsGroup groupId =
      rt.withDns (Table.retain (fun _ q => q.groupId ≠ groupId) rt.dnsQueries)
        (AList.erase groupId rt.dnsGroups) rt.dnsCache (rt.timeoutReplies group) := by
  simp only [expireDnsGroup, hl, timeoutReplies]
  cases group.response <;> cases group.responseAll <;>
    simp [replyAll, reply_eq, withDns, withReplies, deliver]

theorem expireDnsGroup_none {groupId : UInt32} (hl : rt.dnsGroups.lookup groupId = none) :
    rt.expireDnsGroup groupId = rt := by
  simp only [expireDnsGroup, hl]

-- What is left of the state by the parts of a query that touch no table and answer nobody.
structure SameDns (rt rt' : RuntimeState S) : Prop where
  queries : rt'.dnsQueries = rt.dnsQueries
  groups : rt'.dnsGroups = rt.dnsGroups
  cache : rt'.dnsCache = rt.dnsCache
  now : rt'.shared.now = rt.shared.now
  closed : rt'.shared.closedReceivers = rt.shared.closedReceivers
  replies : rt'.shared.replies = rt.shared.replies

namespace SameDns

theorem refl (rt : RuntimeState S) : SameDns rt rt := ⟨rfl, rfl, rfl, rfl, rfl, rfl⟩

theorem trans (h : SameDns rt rt') (k : SameDns rt' rt'') : SameDns rt rt'' :=
  ⟨k.queries.trans h.queries, k.groups.trans h.groups, k.cache.trans h.cache,
    k.now.trans h.now, k.closed.trans h.closed, k.replies.trans h.replies⟩

theorem statics (rt : RuntimeState S) (statics : Statics) : SameDns rt (rt.setStatics statics) :=
  ⟨rfl, rfl, rfl, rfl, rfl, rfl⟩

theorem stack (rt : RuntimeState S) (stack : NetworkStack S) : SameDns rt { rt with stack } :=
  ⟨rfl, rfl, rfl, rfl, rfl, rfl⟩

end SameDns

variable {H : Hickory}

theorem buildUniqueDnsQuery_spec (H : Hickory) (domain : String) (recordType : DnsRecordType)
    (tries : Nat) (rt : RuntimeState S) :
    SameDns rt (rt.buildUniqueDnsQuery H domain recordType tries).2 ∧
      ∀ txId packet, (rt.buildUniqueDnsQuery H domain recordType tries).1 = .ok (txId, packet) →
        rt.dnsQueries.lookup txId = none := by
  induction tries generalizing rt with
  | zero => exact ⟨.refl rt, fun _ _ h => by cases h⟩
  | succ tries ih =>
      simp only [buildUniqueDnsQuery]
      split
      · exact ⟨.statics _ _, fun _ _ h => by cases h⟩
      · next tx packet statics _ =>
          split
          · obtain ⟨hs, hf⟩ := ih (rt.setStatics statics)
            exact ⟨(SameDns.statics rt statics).trans hs, hf⟩
          · next hfree =>
              refine ⟨.statics _ _, fun tx' packet' h => ?_⟩
              cases h
              simpa using hfree

theorem selectDnsServer_same (rt : RuntimeState S) (dnsServers : List IpAddress)
    (preferIpv6 : Bool) : SameDns rt (rt.selectDnsServer dnsServers preferIpv6).2 := by
  cases dnsServers with
  | nil => exact .refl rt
  | cons first rest => exact .statics _ _

theorem ensureSocket_same (rt : RuntimeState S) (server : IpAddress) :
    SameDns rt (rt.ensureSocket server).2 := by
  simp only [ensureSocket]
  split
  · exact .refl rt
  · split
    · exact .statics _ _
    · exact ⟨rfl, rfl, rfl, rfl, rfl, rfl⟩

def recordResult (rt : RuntimeState S) (groupId : UInt32) (queryType : DnsRecordType)
    (result : DnsResult) : RuntimeState S :=
  { rt with dnsGroups := Table.modify groupId (fun g => g.record queryType result) rt.dnsGroups }

def insertQuery (rt : RuntimeState S) (txId : UInt16) (query : DnsQueryState) : RuntimeState S :=
  { rt with dnsQueries := AList.insert txId query rt.dnsQueries }

def takeQuery (rt : RuntimeState S) (txId : UInt16) : RuntimeState S :=
  { rt with dnsQueries := AList.erase txId rt.dnsQueries }

-- A question is either sent under an id that no outstanding query has, or answered by an error.
theorem dispatchDnsQuery_cases {groupId : UInt32} {domain : String} {dnsHandle : SocketHandle}
    {dnsServer : IpAddress} {queryType : DnsRecordType} {logLabel : String}
    (h : rt.dispatchDnsQuery H groupId domain dnsHandle dnsServer queryType logLabel = .ok rt') :
    ∃ rt₁, SameDns rt rt₁ ∧
      ((∃ txId, rt.dnsQueries.lookup txId = none ∧
          rt' = rt₁.insertQuery txId ⟨groupId, queryType⟩) ∨
        ∃ e, rt' = (rt₁.recordResult groupId queryType (.error e)).tryResolveDnsGroup groupId) := by
  obtain ⟨hs, hfree⟩ := buildUniqueDnsQuery_spec H domain queryType 65536 rt
  simp only [dispatchDnsQuery] at h
  split at h
  · next e rt₁ hb =>
      rw [hb] at hs
      cases h
      exact ⟨rt₁, hs, .inr ⟨e, rfl⟩⟩
  · next txId packet rt₁ hb =>
      rw [hb] at hs hfree
      obtain ⟨⟨sent, stack⟩, _, h⟩ := Outcome.bind_eq_ok.mp h
      have hst := hs.trans (SameDns.stack rt₁ stack)
      dsimp only at h
      split at h
      · cases h
        exact ⟨_, hst, .inl ⟨txId, hfree txId packet rfl, rfl⟩⟩
      · cases h
        exact ⟨_, hst, .inr ⟨_, rfl⟩⟩

def openGroup (rt : RuntimeState S) (groupId : UInt32) (group : DnsQueryGroup) : RuntimeState S :=
  { rt with dnsGroups := AList.insert groupId group rt.dnsGroups }

def newGroup (rt : RuntimeState S) (domain : String) (preferIpv6 : Bool)
    (response responseAll : Option OneshotId) : DnsQueryGroup where
  domain := domain
  response := response
  responseAll := responseAll
  ipv4Result := none
  ipv6Result := none
  createdAt := rt.shared.now
  preferIpv6 := preferIpv6

-- A started query is a new group, and then one error for both families or both questions asked.
theorem startDnsQueryFor_cases {domain : String} {preferIpv6 resolveAll : Bool}
    {response responseAll : Option OneshotId} {dnsServers : List IpAddress}
    (h : rt.startDnsQueryFor H domain preferIpv6 resolveAll response responseAll dnsServers =
      .ok rt') :
    ∃ rt₁, SameDns (rt.openGroup rt.shared.statics.dnsGroupId
        (rt.newGroup domain preferIpv6 response responseAll)) rt₁ ∧
      ((∃ e, rt' = ((rt₁.recordResult rt.shared.statics.dnsGroupId .a (.error e)).recordResult
          rt.shared.statics.dnsGroupId .aaaa (.error e)).tryResolveDnsGroup
            rt.shared.statics.dnsGroupId) ∨
        ∃ dnsServer dnsHandle rt₂,
          rt₁.dispatchDnsQuery H rt.shared.statics.dnsGroupId domain dnsHandle dnsServer .a
            (logLabelOf resolveAll .a) = .ok rt₂ ∧
          rt₂.dispatchDnsQuery H rt.shared.statics.dnsGroupId domain dnsHandle dnsServer .aaaa
            (logLabelOf resolveAll .aaaa) = .ok rt') := by
  simp only [startDnsQueryFor] at h
  have hopen : SameDns (rt.openGroup rt.shared.statics.dnsGroupId
      (rt.newGroup domain preferIpv6 response responseAll))
      (rt.insertDnsGroup domain preferIpv6 response responseAll).2 :=
    ⟨rfl, rfl, rfl, rfl, rfl, rfl⟩
  have hid : (rt.insertDnsGroup domain preferIpv6 response responseAll).1 =
      rt.shared.statics.dnsGroupId := rfl
  have hsel := hopen.trans (selectDnsServer_same _ dnsServers preferIpv6)
  have hens := hsel.trans (ensureSocket_same _
    ((rt.insertDnsGroup domain preferIpv6 response responseAll).2.selectDnsServer dnsServers
      preferIpv6).1)
  rw [hid] at h
  split at h
  · next e rt₁ he =>
      rw [he] at hens
      cases h
      exact ⟨rt₁, hens, .inl ⟨e, rfl⟩⟩
  · next handle rt₁ he =>
      rw [he] at hens
      obtain ⟨rt₂, h₂, h⟩ := Outcome.bind_eq_ok.mp h
      obtain ⟨rt₃, h₃, h⟩ := Outcome.bind_eq_ok.mp h
      cases h
      exact ⟨rt₁, hens, .inr ⟨_, _, rt₂, h₂, h₃⟩⟩

theorem acceptDnsResponse_cases (H : Hickory) (rt : RuntimeState S) (data : List UInt8) :
    rt.acceptDnsResponse H data = rt ∨
      ∃ txId result query, parseDnsResponseWithId H data = .ok (txId, result) ∧
        rt.dnsQueries.lookup txId = some query ∧
        rt.acceptDnsResponse H data =
          ((rt.takeQuery txId).recordResult query.groupId query.queryType
            result).tryResolveDnsGroup query.groupId := by
  simp only [acceptDnsResponse]
  split
  · exact .inl rfl
  · next txId result hp =>
      split
      · exact .inl rfl
      · next query hq => exact .inr ⟨txId, result, query, hp, hq, rfl⟩

end RuntimeState

end Usque
