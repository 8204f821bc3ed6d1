import Usque.Manager.DnsGroups

namespace Usque

variable {S : Smoltcp} {rt rt' : RuntimeState S} {H : Hickory}

-- `P` are the questions that a running step has still to ask, `E` the groups that it has recorded
-- a result in and not tried to resolve yet.
structure DnsSound (P : UInt32 → DnsRecordType → Prop) (E : UInt32 → Prop)
    (asked : List (UInt32 × OneshotId)) (rt : RuntimeState S) : Prop where
  exact : rt.fanout.Exact P
  open_ : ∀ i g, ¬ E i → rt.dnsGroups.lookup i = some g → g.complete = false
  early : ∀ i g, ¬ E i → rt.dnsGroups.lookup i = some g → g.response ≠ none → g.allRecords = []
  asked : rt.Asked asked

abbrev DnsSettled (asked : List (UInt32 × OneshotId)) (rt : RuntimeState S) : Prop :=
  DnsSound (fun _ _ => False) (fun _ => False) asked rt

open RuntimeState

namespace DnsSound

variable {P Q : UInt32 → DnsRecordType → Prop} {E F : UInt32 → Prop}
  {asked : List (UInt32 × OneshotId)}

theorem congr (h : DnsSound P E asked rt) (hP : ∀ i t, P i t ↔ Q i t) (hE : ∀ i, E i → F i) :
    DnsSound Q F asked rt :=
  ⟨h.exact.congr hP, fun i g hi => h.open_ i g (fun he => hi (hE i he)),
    fun i g hi => h.early i g (fun he => hi (hE i he)), h.asked⟩

theorem same (h : DnsSound P E asked rt) (hs : SameDns rt rt') : DnsSound P E asked rt' where
  exact := by
    rw [fanout_same hs]
    exact h.exact
  open_ := by
    rw [hs.groups]
    exact h.open_
  early := by
    rw [hs.groups]
    exact h.early
  asked := h.asked.same hs

theorem send (h : DnsSound P E asked rt) {txId : UInt16} {groupId : UInt32}
    {queryType : DnsRecordType} (hfree : rt.dnsQueries.lookup txId = none)
    (hp : P groupId queryType) :
    DnsSound (fun i t => P i t ∧ ¬ (i = groupId ∧ t = queryType)) E asked
      (rt.insertQuery txId ⟨groupId, queryType⟩) where
  exact := by
    rw [fanout_insertQuery]
    exact h.exact.sent (by simp [fanout, hfree]) hp
  open_ := h.open_
  early := h.early
  asked := h.asked.idle (fun _ => rfl) rfl rfl

theorem take (h : DnsSound P E asked rt) {txId : UInt16} {query : DnsQueryState}
    (hq : rt.dnsQueries.lookup txId = some query) :
    DnsSound (fun i t => P i t ∨ (i = query.groupId ∧ t = query.queryType)) E asked
      (rt.takeQuery txId) where
  exact := by
    rw [fanout_takeQuery]
    exact h.exact.taken (fanout_queries.mpr hq)
  open_ := h.open_
  early := h.early
  asked := h.asked.idle (fun _ => rfl) rfl rfl

theorem lookup_recordResult (rt : RuntimeState S) (groupId : UInt32) (queryType : DnsRecordType)
    (result : DnsResult) (i : UInt32) :
    (rt.recordResult groupId queryType result).dnsGroups.lookup i =
      if i = groupId then
        (rt.dnsGroups.lookup groupId).map (fun g => g.record queryType result)
      else rt.dnsGroups.lookup i :=
  Table.lookup_modify _ _ _ _

theorem record (h : DnsSound P E asked rt) {groupId : UInt32} {queryType : DnsRecordType}
    (hp : P groupId queryType) (result : DnsResult) :
    DnsSound (fun i t => P i t ∧ ¬ (i = groupId ∧ t = queryType)) (fun i => E i ∨ i = groupId)
      asked (rt.recordResult groupId queryType result) where
  exact := by
    rw [fanout_recordResult]
    exact h.exact.recorded hp result
  open_ := fun i g hi hl => by
    rw [not_or] at hi
    rw [lookup_recordResult, if_neg hi.2] at hl
    exact h.open_ i g hi.1 hl
  early := fun i g hi hl => by
    rw [not_or] at hi
    rw [lookup_recordResult, if_neg hi.2] at hl
    exact h.early i g hi.1 hl
  asked := h.asked.idle (fun i => by
    rw [lookup_recordResult]
    split_ifs with hi
    · rw [hi, Option.map_map]
      congr 1
      funext g
      exact DnsQueryGroup.requesters_record g queryType result
    · rfl) rfl rfl

-- Resolving a group answers it when it can and removes it when both its results are in.
theorem resolve (h : DnsSound P E asked rt) (groupId : UInt32) :
    DnsSound P (fun i => E i ∧ i ≠ groupId) asked (rt.tryResolveDnsGroup groupId) := by
  cases hl : rt.dnsGroups.lookup groupId with
  | none =>
      rw [tryResolveDnsGroup_none hl]
      have hx : ∀ {i : UInt32} {g : DnsQueryGroup}, rt.dnsGroups.lookup i = some g →
          ¬ (E i ∧ i ≠ groupId) → ¬ E i := by
        intro i g hi hn he
        refine hn ⟨he, ?_⟩
        rintro rfl
        rw [hl] at hi
        cases hi
      exact ⟨h.exact, fun i g hi hg => h.open_ i g (hx hg hi) hg,
        fun i g hi hg => h.early i g (hx hg hi) hg, h.asked⟩
  | some group =>
      have hone := h.asked.one groupId group hl
      by_cases hv : group.complete = true ∨ group.answered = true
      · have hs := tryResolve_serves hl hone hv
        have hx : ∀ {i : UInt32}, i ≠ groupId → ¬ (E i ∧ i ≠ groupId) → ¬ E i :=
          fun hi hn he => hn ⟨he, hi⟩
        refine ⟨?_, fun i g hi hg => ?_, fun i g hi hg hr => ?_, h.asked.serve hl hs⟩
        · rw [fanout_tryResolve hl]
          split_ifs with hc
          · refine h.exact.closed (fun t => ?_)
            exact (h.exact.not_outstanding_of_result (fanout_groups hl)
              ((group.complete_iff.mp hc) t)).2
          · exact h.exact
        · by_cases hig : i = groupId
          · subst hig
            rw [tryResolveDnsGroup_eq hl] at hg
            simp only [withDns, resolvedGroups] at hg
            split_ifs at hg with hc ha
            · rw [Table.lookup_erase, if_pos rfl] at hg
              cases hg
            · rw [Table.lookup_insert, if_pos rfl] at hg
              cases hg
              rw [DnsQueryGroup.complete_congr group.resultOf_afterAnswer]
              exact Bool.eq_false_iff.mpr hc
            · exact absurd (hv.resolve_left hc) ha
          · exact h.open_ i g (hx hig hi) ((hs.others i hig).symm.trans hg)
        · by_cases hig : i = groupId
          · subst hig
            have hnil := hs.forgotten g hg
            simp only [DnsQueryGroup.requesters, List.append_eq_nil_iff,
              Option.toList_eq_nil_iff] at hnil
            exact absurd hnil.1 hr
          · exact h.early i g (hx hig hi) ((hs.others i hig).symm.trans hg) hr
      · obtain ⟨hc, ha⟩ := not_or.mp hv
        rw [Bool.not_eq_true] at hc ha
        rw [tryResolve_idle hl hc ha]
        refine ⟨h.exact, fun i g hi hg => ?_, fun i g hi hg hr => ?_, h.asked⟩
        · by_cases hig : i = groupId
          · rw [hig, hl] at hg
            cases hg
            exact hc
          · exact h.open_ i g (fun he => hi ⟨he, hig⟩) hg
        · by_cases hig : i = groupId
          · rw [hig, hl] at hg
            cases hg
            refine DnsQueryGroup.allRecords_of_result_none ?_
            simp only [DnsQueryGroup.answered, Bool.and_eq_false_iff] at ha
            rcases ha with ha | ha
            · exact absurd (by simpa using ha) hr
            · simpa using ha
          · exact h.early i g (fun he => hi ⟨he, hig⟩) hg hr

theorem expire (h : DnsSettled asked rt) (groupId : UInt32) :
    DnsSettled asked (rt.expireDnsGroup groupId) := by
  cases hl : rt.dnsGroups.lookup groupId with
  | none =>
      rw [expireDnsGroup_none hl]
      exact h
  | some group =>
      have hs := expire_serves hl (h.asked.one groupId group hl)
      have hsub : ∀ i g, (rt.expireDnsGroup groupId).dnsGroups.lookup i = some g →
          rt.dnsGroups.lookup i = some g := by
        intro i g hg
        by_cases hig : i = groupId
        · rw [expireDnsGroup_eq hl] at hg
          simp only [withDns] at hg
          rw [Table.lookup_erase, if_pos hig] at hg
          cases hg
        · exact (hs.others i hig).symm.trans hg
      refine ⟨?_, fun i g hi hg => h.open_ i g hi (hsub i g hg),
        fun i g hi hg => h.early i g hi (hsub i g hg), h.asked.serve hl hs⟩
      rw [expireDnsGroup_eq hl, fanout_closed]
      exact h.exact.closed (fun _ hp => hp)

theorem expireAll (h : DnsSettled asked rt) (ids : List UInt32) :
    DnsSettled asked (ids.foldl expireDnsGroup rt) := by
  induction ids generalizing rt with
  | nil => exact h
  | cons id ids ih => exact ih (h.expire id)

theorem accept (h : DnsSettled asked rt) (H : Hickory) (data : List UInt8) :
    DnsSettled asked (rt.acceptDnsResponse H data) := by
  rcases acceptDnsResponse_cases H rt data with he | ⟨txId, result, query, _, hq, he⟩
  · rw [he]
    exact h
  · rw [he]
    have hrec := (h.take hq).record (.inr ⟨rfl, rfl⟩) result
    exact (hrec.resolve query.groupId).congr (by tauto) (by tauto)

theorem dispatch (h : DnsSound P (fun _ => False) asked rt) {groupId : UInt32} {domain : String}
    {dnsHandle : SocketHandle} {dnsServer : IpAddress} {queryType : DnsRecordType}
    {logLabel : String} (hp : P groupId queryType)
    (hd : rt.dispatchDnsQuery H groupId domain dnsHandle dnsServer queryType logLabel = .ok rt') :
    DnsSound (fun i t => P i t ∧ ¬ (i = groupId ∧ t = queryType)) (fun _ => False) asked rt' := by
  obtain ⟨rt₁, hs, ⟨txId, hfree, rfl⟩ | ⟨e, rfl⟩⟩ := dispatchDnsQuery_cases hd
  · exact (h.same hs).send (hs.queries ▸ hfree) hp
  · exact (((h.same hs).record hp (.error e)).resolve groupId).congr (fun _ _ => Iff.rfl) (by tauto)

theorem opened (h : DnsSettled asked rt) {groupId : UInt32} {group : DnsQueryGroup}
    {r : OneshotId} (hid : rt.dnsGroups.lookup groupId = none) (hr : rt.Unasked r)
    (hreq : group.requesters = [r]) (hres : group.resultOf = fun _ => none) :
    DnsSound (fun i _ => i = groupId) (fun _ => False) ((groupId, r) :: asked)
      (rt.openGroup groupId group) := by
  have hlook : ∀ i, (rt.openGroup groupId group).dnsGroups.lookup i =
      if i = groupId then some group else rt.dnsGroups.lookup i := fun i =>
    Table.lookup_insert _ _ _ _
  have hrec : group.allRecords = [] := by
    have h4 : group.ipv4Result = none := congrFun hres .a
    have h6 : group.ipv6Result = none := congrFun hres .aaaa
    simp [DnsQueryGroup.allRecords, DnsQueryGroup.recordsOf, h4, h6]
  refine ⟨?_, fun i g hi hg => ?_, fun i g hi hg hne => ?_, ?_⟩
  · rw [fanout_openGroup rt hres]
    exact (h.exact.opened (fanout_groups_none.mpr hid)).congr (by tauto)
  · rw [hlook] at hg
    split_ifs at hg
    · cases hg
      have h4 : group.ipv4Result = none := congrFun hres .a
      simp [DnsQueryGroup.complete, h4]
    · exact h.open_ i g hi hg
  · rw [hlook] at hg
    split_ifs at hg
    · cases hg
      exact hrec
    · exact h.early i g hi hg hne
  · refine ⟨fun p hp => ?_, fun i g hg => ?_, fun i g hg x hx => ?_,
      fun i j g g' hg hg' x hx hx' => ?_, h.asked.once⟩
    · rcases List.mem_cons.mp hp with rfl | hp
      · exact .inr ⟨group, by rw [hlook, if_pos rfl], by simp [hreq]⟩
      · rcases h.asked.held p hp with ha | ⟨g, hg, hm⟩
        · exact .inl ha
        · refine .inr ⟨g, ?_, hm⟩
          rw [hlook, if_neg, hg]
          intro he
          rw [he, hid] at hg
          cases hg
    · rw [hlook] at hg
      split_ifs at hg
      · cases hg
        simp [hreq]
      · exact h.asked.one i g hg
    · rw [hlook] at hg
      split_ifs at hg
      · cases hg
        rw [hreq, List.mem_singleton] at hx
        exact hx ▸ hr.1
      · exact h.asked.waiting i g hg x hx
    · rw [hlook] at hg hg'
      split_ifs at hg hg' with hi hj hj
      · rw [hi, hj]
      · cases hg
        rw [hreq, List.mem_singleton] at hx
        exact absurd (hx ▸ hx') (hr.2 j g' hg')
      · cases hg'
        rw [hreq, List.mem_singleton] at hx'
        exact absurd (hx' ▸ hx) (hr.2 i g hg)
      · exact h.asked.apart i j g g' hg hg' x hx hx'

theorem started (h : DnsSettled asked rt) {domain : String} {preferIpv6 resolveAll : Bool}
    {response responseAll : Option OneshotId} {dnsServers : List IpAddress} {r : OneshotId}
    (hid : rt.dnsGroups.lookup rt.shared.statics.dnsGroupId = none) (hr : rt.Unasked r)
    (hreq : response.toList ++ responseAll.toList = [r])
    (hs : rt.startDnsQueryFor H domain preferIpv6 resolveAll response responseAll dnsServers =
      .ok rt') : DnsSettled ((rt.shared.statics.dnsGroupId, r) :: asked) rt' := by
  obtain ⟨rt₁, hsame, hcase⟩ := startDnsQueryFor_cases hs
  have hgroup : (rt.newGroup domain preferIpv6 response responseAll).resultOf = fun _ => none := by
    funext ty
    cases ty <;> rfl
  have hreq' : (rt.newGroup domain preferIpv6 response responseAll).requesters = [r] := hreq
  have hopen := (h.opened hid hr hreq' hgroup).same hsame
  rcases hcase with ⟨e, rfl⟩ | ⟨dnsServer, dnsHandle, rt₂, h₂, h₃⟩
  · have ha : DnsSound _ _ _ (rt₁.recordResult _ .a (.error e)) := hopen.record rfl (.error e)
    have haaaa : DnsSound _ _ _ ((rt₁.recordResult _ .a (.error e)).recordResult _ .aaaa
      (.error e)) := ha.record ⟨rfl, by simp⟩ (.error e)
    refine (haaaa.resolve _).congr (fun i t => ?_) (by tauto)
    cases t <;> simp
  · have ha := hopen.dispatch rfl h₂
    have haaaa := ha.dispatch ⟨rfl, by simp⟩ h₃
    refine haaaa.congr (fun i t => ?_) (by tauto)
    cases t <;> simp

end DnsSound

-- Everything else: the tables stay, and a DNS answer sent meanwhile goes to a new requester.
structure Quiet (rt rt' : RuntimeState S) : Prop where
  queries : rt'.dnsQueries = rt.dnsQueries
  groups : rt'.dnsGroups = rt.dnsGroups
  closed : ∀ r ∈ rt.shared.closedReceivers, r ∈ rt'.shared.closedReceivers
  replies : ∃ l, rt'.shared.replies = rt.shared.replies ++ l ∧
    ∀ r, 0 < dnsAnswers l r → dnsAnswers l r ≤ 1 ∧ rt.Unasked r

theorem Quiet.asked {asked : List (UInt32 × OneshotId)} (hq : Quiet rt rt')
    (h : rt.Asked asked) : rt'.Asked asked := by
  obtain ⟨l, hl, hnew⟩ := hq.replies
  have hcount : ∀ r, dnsAnswers rt'.shared.replies r =
      dnsAnswers rt.shared.replies r + dnsAnswers l r := fun r => by
    rw [hl, dnsAnswers_append]
  refine ⟨fun p hp => ?_, fun i g hi => ?_, fun i g hi r hr => ?_, ?_, fun r => ?_⟩
  · rcases h.held p hp with (ha | ha) | hg
    · exact .inl (.inl (hq.closed _ ha))
    · refine .inl (.inr ?_)
      rw [hcount]
      omega
    · rw [hq.groups]
      exact .inr hg
  · rw [hq.groups] at hi
    exact h.one i g hi
  · rw [hq.groups] at hi
    rw [hcount, h.waiting i g hi r hr]
    by_contra hne
    exact (hnew r (by omega)).2.2 i g hi hr
  · rw [hq.groups]
    exact h.apart
  · rw [hcount]
    by_cases hr : 0 < dnsAnswers l r
    · obtain ⟨hle, hun⟩ := hnew r hr
      have := hun.1
      omega
    · have := h.once r
      omega

theorem Quiet.settled {asked : List (UInt32 × OneshotId)} (hq : Quiet rt rt')
    (h : DnsSettled asked rt) : DnsSettled asked rt' where
  exact := by
    have hf : rt'.fanout = rt.fanout := by simp only [fanout, hq.queries, hq.groups]
    rw [hf]
    exact h.exact
  open_ := by
    rw [hq.groups]
    exact h.open_
  early := by
    rw [hq.groups]
    exact h.early
  asked := hq.asked h.asked

-- `asked` holds every requester so far with the id of its group, and `sentTo` the server that an
-- outstanding question went to.
structure DnsRun (S : Smoltcp) where
  rt : RuntimeState S
  asked : List (UInt32 × OneshotId)
  sentTo : UInt16 → Option IpEndpoint

def DnsRun.started (s : DnsRun S) (rt' : RuntimeState S) (response : OneshotId)
    (dnsServer : IpAddress) : DnsRun S where
  rt := rt'
  asked := (s.rt.shared.statics.dnsGroupId, response) :: s.asked
  sentTo := fun txId =>
    if (s.rt.dnsQueries.lookup txId).isSome then s.sentTo txId else some ⟨dnsServer, dnsPort⟩

inductive DnsOp where
  | resolve
  | resolveAll
  | response (data : List UInt8) (source : IpEndpoint)
  | expire
  | quiet

-- What resolution is made of. A new group's id belongs to no live group, and its requester is new.
inductive DnsStep (H : Hickory) : DnsRun S → DnsOp → DnsRun S → Prop where
  | resolve {s : DnsRun S} {rt' : RuntimeState S} {domain : String} {preferIpv6 : Bool}
      {response : OneshotId} {dnsServers : List IpAddress}
      (hid : s.rt.dnsGroups.lookup s.rt.shared.statics.dnsGroupId = none)
      (hr : s.rt.Unasked response)
      (h : s.rt.startDnsQuery H domain preferIpv6 response dnsServers = .ok rt') :
      DnsStep H s .resolve
        (s.started rt' response (s.rt.selectDnsServer dnsServers preferIpv6).1)
  | resolveAll {s : DnsRun S} {rt' : RuntimeState S} {domain : String} {response : OneshotId}
      {dnsServers : List IpAddress}
      (hid : s.rt.dnsGroups.lookup s.rt.shared.statics.dnsGroupId = none)
      (hr : s.rt.Unasked response)
      (h : s.rt.startDnsQueryAll H domain response dnsServers = .ok rt') :
      DnsStep H s .resolveAll (s.started rt' response (s.rt.selectDnsServer dnsServers true).1)
  | response (s : DnsRun S) (data : List UInt8) (source : IpEndpoint) :
      DnsStep H s (.response data source) { s with rt := s.rt.acceptDnsResponse H data }
  | expire (s : DnsRun S) : DnsStep H s .expire { s with rt := s.rt.expireDnsGroups }
  | quiet {s : DnsRun S} {rt' : RuntimeState S} (h : Quiet s.rt rt') :
      DnsStep H s .quiet { s with rt := rt' }

namespace DnsRun

def Initial (s : DnsRun S) : Prop :=
  s.rt.dnsQueries = ∅ ∧ s.rt.dnsGroups = ∅ ∧ s.rt.shared.replies = [] ∧ s.asked = []

inductive Reaches (H : Hickory) (guard : DnsRun S → DnsOp → Prop) : DnsRun S → Prop where
  | initial {s : DnsRun S} (h : s.Initial) : Reaches H guard s
  | step {s t : DnsRun S} {op : DnsOp} (h : Reaches H guard s) (hg : guard s op)
      (hs : DnsStep H s op t) : Reaches H guard t

abbrev Reachable (H : Hickory) (s : DnsRun S) : Prop := Reaches H (fun _ _ => True) s

theorem Reaches.any {guard : DnsRun S → DnsOp → Prop} {s : DnsRun S} (h : Reaches H guard s) :
    s.Reachable H := by
  induction h with
  | initial h₀ => exact .initial h₀
  | step _ _ hs ih => exact ih.step trivial hs

theorem Initial.settled {s : DnsRun S} (h : s.Initial) : DnsSettled s.asked s.rt := by
  obtain ⟨hq, hg, hr, ha⟩ := h
  have hlq : ∀ txId, s.rt.dnsQueries.lookup txId = none := fun txId => by rw [hq]; rfl
  have hlg : ∀ i, s.rt.dnsGroups.lookup i = none := fun i => by rw [hg]; rfl
  have hnone : ∀ {i : UInt32} {g : DnsQueryGroup} {p : Prop},
      s.rt.dnsGroups.lookup i = some g → p := by
    intro i g p hi
    rw [hlg] at hi
    cases hi
  refine ⟨⟨fun k g t hk => ?_, fun k k' q hk => ?_, fun _ _ hp => hp.elim, fun g r t hg' => ?_⟩,
    fun _ _ _ hi => hnone hi, fun _ _ _ hi => hnone hi, ?_⟩
  · simp [fanout, hlq] at hk
  · simp [fanout, hlq] at hk
  · simp [fanout, hlg] at hg'
  · refine ⟨fun p hp => ?_, fun _ _ hi => hnone hi, fun _ _ hi => hnone hi,
      fun _ _ _ _ hi => hnone hi, fun r => ?_⟩
    · rw [ha] at hp
      cases hp
    · rw [hr]
      exact Nat.zero_le 1

theorem step_settled {s t : DnsRun S} {op : DnsOp} (hs : DnsStep H s op t)
    (h : DnsSettled s.asked s.rt) :
    DnsSettled t.asked t.rt := by
  cases hs with
  | resolve hid hr hq => exact h.started hid hr rfl hq
  | resolveAll hid hr hq => exact h.started hid hr rfl hq
  | response data source => exact h.accept H data
  | expire => exact h.expireAll _
  | quiet hq => exact hq.settled h

theorem Reaches.settled {guard : DnsRun S → DnsOp → Prop} {s : DnsRun S}
    (h : Reaches H guard s) : DnsSettled s.asked s.rt := by
  induction h with
  | initial h₀ => exact h₀.settled
  | step _ _ hs ih => exact step_settled hs ih

end DnsRun

end Usque
