import Usque.Manager.DnsForms

namespace Usque

variable {S : Smoltcp} {rt rt' : RuntimeState S}

def Reply.isDns : Reply → Bool
  | .resolved _ => true
  | .resolvedAll _ => true
  | _ => false

def dnsAnswers (replies : List (OneshotId × Reply)) (r : OneshotId) : Nat :=
  replies.countP (fun p => p.1 = r && p.2.isDns)

@[simp] theorem dnsAnswers_nil (r : OneshotId) : dnsAnswers [] r = 0 := rfl

@[simp] theorem dnsAnswers_append (l l' : List (OneshotId × Reply)) (r : OneshotId) :
    dnsAnswers (l ++ l') r = dnsAnswers l r + dnsAnswers l' r :=
  List.countP_append

namespace DnsQueryGroup

theorem recordsOf_eq_nil_iff (result : Option DnsResult) :
    recordsOf result = [] ↔ firstAddress result = none := by
  match result with
  | none => simp [recordsOf, firstAddress]
  | some (.error _) => simp [recordsOf, firstAddress]
  | some (.ok []) => simp [recordsOf, firstAddress]
  | some (.ok (_ :: _)) => simp [recordsOf, firstAddress]

theorem pickResult_none {first second : Option DnsResult} (h : pickResult first second = none) :
    firstAddress first = none ∧ firstAddress second = none := by
  simp only [pickResult] at h
  split at h
  · cases h
  · cases h
  · next h₁ h₂ => exact ⟨h₁, h₂⟩

theorem pickResult_error {first second : Option DnsResult} {e : DnsError}
    (h : pickResult first second = some (.error e)) :
    firstAddress first = none ∧ firstAddress second = none := by
  simp only [pickResult] at h
  split at h
  · cases h
  · cases h
  · next h₁ h₂ => exact ⟨h₁, h₂⟩

theorem pickResult_complete {first second : Option DnsResult} (h₁ : first.isSome)
    (h₂ : second.isSome) : (pickResult first second).isSome := by
  simp only [pickResult]
  split
  · rfl
  · rfl
  · simp [h₁, h₂]

theorem allRecords_eq_nil_iff (group : DnsQueryGroup) :
    group.allRecords = [] ↔
      firstAddress group.ipv4Result = none ∧ firstAddress group.ipv6Result = none := by
  simp only [allRecords, List.append_eq_nil_iff, recordsOf_eq_nil_iff]

theorem allRecords_of_result_none {group : DnsQueryGroup} (h : group.result = none) :
    group.allRecords = [] := by
  rw [allRecords_eq_nil_iff]
  simp only [result] at h
  split at h
  · exact (pickResult_none h).symm
  · exact pickResult_none h

theorem allRecords_of_result_error {group : DnsQueryGroup} {e : DnsError}
    (h : group.result = some (.error e)) : group.allRecords = [] := by
  rw [allRecords_eq_nil_iff]
  simp only [result] at h
  split at h
  · exact (pickResult_error h).symm
  · exact pickResult_error h

theorem result_of_complete {group : DnsQueryGroup} (h : group.complete = true) :
    group.result.isSome = true := by
  simp only [complete, Bool.and_eq_true] at h
  simp only [result]
  split
  · exact pickResult_complete h.2 h.1
  · exact pickResult_complete h.1 h.2

theorem allRecords_congr {group group' : DnsQueryGroup} (h : group'.resultOf = group.resultOf) :
    group'.allRecords = group.allRecords := by
  have h4 : group'.ipv4Result = group.ipv4Result := congrFun h .a
  have h6 : group'.ipv6Result = group.ipv6Result := congrFun h .aaaa
  simp only [allRecords, h4, h6]

theorem complete_congr {group group' : DnsQueryGroup} (h : group'.resultOf = group.resultOf) :
    group'.complete = group.complete := by
  have h4 : group'.ipv4Result = group.ipv4Result := congrFun h .a
  have h6 : group'.ipv6Result = group.ipv6Result := congrFun h .aaaa
  simp only [complete, h4, h6]

theorem requesters_length (group : DnsQueryGroup) :
    group.requesters.length ≤ 1 ↔ group.response = none ∨ group.responseAll = none := by
  cases hr : group.response <;> cases ha : group.responseAll <;> simp [requesters, hr, ha]

theorem afterAnswer_of_not {group : DnsQueryGroup} (h : group.answered = false) :
    group.afterAnswer = group := by
  simp [afterAnswer, h]

end DnsQueryGroup

namespace RuntimeState

def fanout (rt : RuntimeState S) : Fanout UInt16 UInt32 DnsRecordType DnsResult where
  queries := fun txId => (rt.dnsQueries.lookup txId).map (fun q => (q.groupId, q.queryType))
  groups := fun groupId => (rt.dnsGroups.lookup groupId).map DnsQueryGroup.resultOf

theorem fanout_queries {txId : UInt16} {groupId : UInt32} {queryType : DnsRecordType} :
    rt.fanout.queries txId = some (groupId, queryType) ↔
      rt.dnsQueries.lookup txId = some ⟨groupId, queryType⟩ := by
  simp only [fanout, Option.map_eq_some_iff]
  constructor
  · rintro ⟨⟨i, t⟩, hq, he⟩
    cases he
    exact hq
  · intro hq
    exact ⟨_, hq, rfl⟩

theorem fanout_groups {groupId : UInt32} {group : DnsQueryGroup}
    (hl : rt.dnsGroups.lookup groupId = some group) :
    rt.fanout.groups groupId = some group.resultOf := by
  simp only [fanout, hl, Option.map_some]

theorem fanout_groups_none {groupId : UInt32} :
    rt.fanout.groups groupId = none ↔ rt.dnsGroups.lookup groupId = none := by
  simp only [fanout, Option.map_eq_none_iff]

theorem fanout_same (h : SameDns rt rt') : rt'.fanout = rt.fanout := by
  simp only [fanout, h.queries, h.groups]

theorem fanout_insertQuery (rt : RuntimeState S) (txId : UInt16) (query : DnsQueryState) :
    (rt.insertQuery txId query).fanout = rt.fanout.sent txId query.groupId query.queryType := by
  simp only [fanout, Fanout.sent, insertQuery, Fanout.mk.injEq, and_true]
  funext k
  rw [Table.lookup_insert, Function.update_apply]
  split_ifs <;> rfl

theorem fanout_takeQuery (rt : RuntimeState S) (txId : UInt16) :
    (rt.takeQuery txId).fanout = rt.fanout.taken txId := by
  simp only [fanout, Fanout.taken, takeQuery, Fanout.mk.injEq, and_true]
  funext k
  rw [Table.lookup_erase, Function.update_apply]
  split_ifs <;> rfl

theorem fanout_openGroup (rt : RuntimeState S) {groupId : UInt32} {group : DnsQueryGroup}
    (h : group.resultOf = fun _ => none) :
    (rt.openGroup groupId group).fanout = rt.fanout.opened groupId := by
  simp only [fanout, Fanout.opened, openGroup, Fanout.mk.injEq, true_and]
  funext i
  rw [Table.lookup_insert, Function.update_apply]
  split_ifs
  · rw [Option.map_some, h]
  · rfl

theorem fanout_recordResult (rt : RuntimeState S) (groupId : UInt32) (queryType : DnsRecordType)
    (result : DnsResult) :
    (rt.recordResult groupId queryType result).fanout =
      rt.fanout.recorded groupId queryType result := by
  simp only [fanout, Fanout.recorded, recordResult, Fanout.mk.injEq, true_and]
  funext i
  rw [Table.lookup_modify, Option.map_map]
  split_ifs with hi
  · rw [hi, Option.map_map]
    congr 1
    funext g
    simp
  · rfl

theorem fanout_closed {groupId : UInt32} {cache : DnsCache} {replies : List (OneshotId × Reply)} :
    (rt.withDns (Table.retain (fun _ q => q.groupId ≠ groupId) rt.dnsQueries)
      (AList.erase groupId rt.dnsGroups) cache replies).fanout = rt.fanout.closed groupId := by
  simp only [fanout, Fanout.closed, withDns, Fanout.mk.injEq]
  constructor
  · funext k
    rw [Table.lookup_retain, Option.filter_map]
    rfl
  · funext i
    rw [Table.lookup_erase, Function.update_apply]
    split_ifs <;> rfl

theorem fanout_tryResolve {groupId : UInt32} {group : DnsQueryGroup}
    (hl : rt.dnsGroups.lookup groupId = some group) :
    (rt.tryResolveDnsGroup groupId).fanout =
      if group.complete then rt.fanout.closed groupId else rt.fanout := by
  rw [tryResolveDnsGroup_eq hl]
  split_ifs with hc
  · simp only [resolvedGroups, hc, if_true]
    exact fanout_closed
  · simp only [fanout, withDns, resolvedGroups, if_neg hc, Fanout.mk.injEq, true_and]
    funext i
    split_ifs with ha
    · rw [Table.lookup_insert]
      split_ifs with hi
      · rw [hi, hl, Option.map_some, Option.map_some, DnsQueryGroup.resultOf_afterAnswer]
      · rfl
    · rfl

def Answered (rt : RuntimeState S) (r : OneshotId) : Prop :=
  r ∈ rt.shared.closedReceivers ∨ 0 < dnsAnswers rt.shared.replies r

-- A oneshot channel that nobody has used yet.
def Unasked (rt : RuntimeState S) (r : OneshotId) : Prop :=
  dnsAnswers rt.shared.replies r = 0 ∧
    ∀ groupId group, rt.dnsGroups.lookup groupId = some group → r ∉ group.requesters

-- `asked` lists every requester so far with the group that was opened for it.
structure Asked (asked : List (UInt32 × OneshotId)) (rt : RuntimeState S) : Prop where
  held : ∀ p ∈ asked, rt.Answered p.2 ∨
    ∃ group, rt.dnsGroups.lookup p.1 = some group ∧ p.2 ∈ group.requesters
  one : ∀ groupId group, rt.dnsGroups.lookup groupId = some group → group.requesters.length ≤ 1
  waiting : ∀ groupId group, rt.dnsGroups.lookup groupId = some group →
    ∀ r ∈ group.requesters, dnsAnswers rt.shared.replies r = 0
  apart : ∀ i j g g', rt.dnsGroups.lookup i = some g → rt.dnsGroups.lookup j = some g' →
    ∀ r ∈ g.requesters, r ∈ g'.requesters → i = j
  once : ∀ r, dnsAnswers rt.shared.replies r ≤ 1

variable {asked : List (UInt32 × OneshotId)}

theorem dnsAnswers_deliver (rt : RuntimeState S) (response r : OneshotId) {value : Reply}
    (hv : value.isDns = true) :
    dnsAnswers (rt.deliver response value) r =
      if response ∈ rt.shared.closedReceivers then 0 else if response = r then 1 else 0 := by
  simp only [deliver]
  split_ifs with hc he
  · rfl
  · simp [dnsAnswers, hv, he]
  · simp [dnsAnswers, he]

-- The requesters of one group are told a value, and the group forgets them or is removed.
structure Serves (groupId : UInt32) (group : DnsQueryGroup) (rt rt' : RuntimeState S) :
    Prop where
  others : ∀ i, i ≠ groupId → rt'.dnsGroups.lookup i = rt.dnsGroups.lookup i
  forgotten : ∀ g, rt'.dnsGroups.lookup groupId = some g → g.requesters = []
  closed : rt'.shared.closedReceivers = rt.shared.closedReceivers
  replies : ∃ value, value.isDns = true ∧ rt'.shared.replies =
    rt.shared.replies ++ group.requesters.flatMap (fun r => rt.deliver r value)

theorem Asked.serve (h : Asked asked rt) {groupId : UInt32} {group : DnsQueryGroup}
    (hl : rt.dnsGroups.lookup groupId = some group) (hs : Serves groupId group rt rt') :
    Asked asked rt' := by
  obtain ⟨value, hv, hrep⟩ := hs.replies
  have hsub : ∀ i g, rt'.dnsGroups.lookup i = some g → g.requesters ≠ [] →
      rt.dnsGroups.lookup i = some g ∧ i ≠ groupId := by
    intro i g hi hne
    have hig : i ≠ groupId := by
      rintro rfl
      exact hne (hs.forgotten g hi)
    exact ⟨(hs.others i hig).symm.trans hi, hig⟩
  have hne_nil : ∀ {l : List OneshotId} {r}, r ∈ l → l ≠ [] := fun hm hn => by
    rw [hn] at hm
    cases hm
  have hcount : ∀ r, dnsAnswers rt'.shared.replies r = dnsAnswers rt.shared.replies r +
      if r ∈ group.requesters ∧ r ∉ rt.shared.closedReceivers then 1 else 0 := by
    intro r
    rw [hrep, dnsAnswers_append]
    congr 1
    have hone := h.one groupId group hl
    match hreq : group.requesters with
    | [] => simp
    | [o] =>
        simp only [List.flatMap_cons, List.flatMap_nil, List.append_nil,
          dnsAnswers_deliver rt o r hv, List.mem_singleton]
        by_cases ho : o = r
        · subst ho
          by_cases hc : o ∈ rt.shared.closedReceivers <;> simp [hc]
        · simp [ho, Ne.symm ho]
    | _ :: _ :: _ => simp [hreq] at hone
  refine ⟨fun p hp => ?_, fun i g hi => ?_, fun i g hi r hr => ?_, fun i j g g' hi hj r hr hr' => ?_,
    fun r => ?_⟩
  · rcases h.held p hp with ha | ⟨g, hg, hm⟩
    · left
      rcases ha with ha | ha
      · exact .inl (hs.closed ▸ ha)
      · right
        rw [hcount]
        omega
    · by_cases hi : p.1 = groupId
      · left
        rw [hi, hl] at hg
        cases hg
        by_cases hc : p.2 ∈ rt.shared.closedReceivers
        · exact .inl (hs.closed ▸ hc)
        · right
          rw [hcount, if_pos ⟨hm, hc⟩]
          omega
      · right
        exact ⟨g, (hs.others _ hi).trans hg, hm⟩
  · by_cases hne : g.requesters = []
    · simp [hne]
    · exact h.one i g (hsub i g hi hne).1
  · obtain ⟨hi', hig⟩ := hsub i g hi (hne_nil hr)
    have hnot : ¬ (r ∈ group.requesters ∧ r ∉ rt.shared.closedReceivers) := fun hm =>
      hig (h.apart i groupId g group hi' hl r hr hm.1)
    rw [hcount, if_neg hnot, h.waiting i g hi' r hr]
  · exact h.apart i j g g' (hsub i g hi (hne_nil hr)).1 (hsub j g' hj (hne_nil hr')).1 r hr hr'
  · rw [hcount]
    split_ifs with hm
    · rw [h.waiting groupId group hl r hm.1]
    · exact h.once r

-- Nobody is answered, and every group keeps its requesters.
theorem Asked.idle (h : Asked asked rt)
    (hg : ∀ i, (rt'.dnsGroups.lookup i).map DnsQueryGroup.requesters =
      (rt.dnsGroups.lookup i).map DnsQueryGroup.requesters)
    (hc : rt'.shared.closedReceivers = rt.shared.closedReceivers)
    (hr : rt'.shared.replies = rt.shared.replies) : Asked asked rt' := by
  have hback : ∀ i g', rt'.dnsGroups.lookup i = some g' →
      ∃ g, rt.dnsGroups.lookup i = some g ∧ g.requesters = g'.requesters := by
    intro i g' hi
    have := hg i
    rw [hi, Option.map_some, eq_comm, Option.map_eq_some_iff] at this
    exact this
  have hforth : ∀ i g, rt.dnsGroups.lookup i = some g →
      ∃ g', rt'.dnsGroups.lookup i = some g' ∧ g'.requesters = g.requesters := by
    intro i g hi
    have := hg i
    rw [hi, Option.map_some, Option.map_eq_some_iff] at this
    exact this
  refine ⟨fun p hp => ?_, fun i g' hi => ?_, fun i g' hi r hm => ?_,
    fun i j g g' hi hj r hm hm' => ?_, fun r => ?_⟩
  · rcases h.held p hp with ha | ⟨g, hl, hm⟩
    · left
      simpa only [Answered, hc, hr] using ha
    · right
      obtain ⟨g', hl', he⟩ := hforth p.1 g hl
      exact ⟨g', hl', he ▸ hm⟩
  · obtain ⟨g, hl, he⟩ := hback i g' hi
    exact he ▸ h.one i g hl
  · obtain ⟨g, hl, he⟩ := hback i g' hi
    rw [hr]
    exact h.waiting i g hl r (he ▸ hm)
  · obtain ⟨g₁, hl₁, he₁⟩ := hback i g hi
    obtain ⟨g₂, hl₂, he₂⟩ := hback j g' hj
    exact h.apart i j g₁ g₂ hl₁ hl₂ r (he₁ ▸ hm) (he₂ ▸ hm')
  · rw [hr]
    exact h.once r

theorem tryResolve_serves {groupId : UInt32} {group : DnsQueryGroup}
    (hl : rt.dnsGroups.lookup groupId = some group) (hone : group.requesters.length ≤ 1)
    (hv : group.complete = true ∨ group.answered = true) :
    Serves groupId group rt (rt.tryResolveDnsGroup groupId) := by
  rw [tryResolveDnsGroup_eq hl]
  have hnone : ∀ {g : DnsQueryGroup}, group.answered = true → group.afterAnswer = g →
      g.requesters = [] := by
    intro g ha hg
    simp only [DnsQueryGroup.answered, Bool.and_eq_true] at ha
    rw [DnsQueryGroup.requesters_length] at hone
    have hall : group.responseAll = none := hone.resolve_left (by
      intro hn
      simp [hn] at ha)
    rw [← hg, DnsQueryGroup.afterAnswer, if_pos (by simp [DnsQueryGroup.answered, ha])]
    simp [DnsQueryGroup.requesters, hall]
  constructor
  · intro i hi
    simp only [withDns, resolvedGroups]
    split_ifs
    · rw [Table.lookup_erase, if_neg hi]
    · rw [Table.lookup_insert, if_neg hi]
    · rfl
  · intro g hg
    simp only [withDns, resolvedGroups] at hg
    split_ifs at hg with hc ha
    · rw [Table.lookup_erase, if_pos rfl] at hg
      cases hg
    · rw [Table.lookup_insert, if_pos rfl] at hg
      exact hnone ha (Option.some.inj hg)
    · exact absurd (hv.resolve_left hc) ha
  · rfl
  · rcases Option.eq_none_or_eq_some group.response with hr | ⟨o, hr⟩
    · have hnot : group.answered = false := by simp [DnsQueryGroup.answered, hr]
      have hc : group.complete = true := hv.resolve_right (by simp [hnot])
      refine ⟨.resolvedAll (allAnswer group), rfl, ?_⟩
      cases ha : group.responseAll <;>
        simp [withDns, oneReplies, allReplies, DnsQueryGroup.requesters, hr, ha, hc]
    · rw [DnsQueryGroup.requesters_length] at hone
      have hall : group.responseAll = none := hone.resolve_left (by simp [hr])
      have hsome : group.result.isSome = true := by
        rcases hv with hc | ha
        · exact DnsQueryGroup.result_of_complete hc
        · simp only [DnsQueryGroup.answered, Bool.and_eq_true] at ha
          exact ha.2
      obtain ⟨result, hres⟩ := Option.isSome_iff_exists.mp hsome
      refine ⟨.resolved (result.mapError .dns), rfl, ?_⟩
      simp [withDns, oneReplies, allReplies, DnsQueryGroup.requesters, hr, hall, hres]

theorem tryResolve_idle {groupId : UInt32} {group : DnsQueryGroup}
    (hl : rt.dnsGroups.lookup groupId = some group) (hc : group.complete = false)
    (ha : group.answered = false) : rt.tryResolveDnsGroup groupId = rt := by
  have hreplies : rt.oneReplies group = [] := by
    simp only [DnsQueryGroup.answered, Bool.and_eq_false_iff] at ha
    rcases Option.eq_none_or_eq_some group.response with hr | ⟨o, hr⟩
    · simp [oneReplies, hr]
    · rcases Option.eq_none_or_eq_some group.result with hv | ⟨v, hv⟩
      · simp [oneReplies, hv]
      · simp [hr, hv] at ha
  rw [tryResolveDnsGroup_eq hl]
  simp only [resolvedGroups, hc, ha, hreplies, Bool.false_eq_true, if_false, List.append_nil]
  exact withDns_nil rt

theorem expire_serves {groupId : UInt32} {group : DnsQueryGroup}
    (hl : rt.dnsGroups.lookup groupId = some group) (hone : group.requesters.length ≤ 1) :
    Serves groupId group rt (rt.expireDnsGroup groupId) := by
  rw [expireDnsGroup_eq hl]
  constructor
  · intro i hi
    simp only [withDns]
    rw [Table.lookup_erase, if_neg hi]
  · intro g hg
    simp only [withDns] at hg
    rw [Table.lookup_erase, if_pos rfl] at hg
    cases hg
  · rfl
  · rw [DnsQueryGroup.requesters_length] at hone
    rcases Option.eq_none_or_eq_some group.response with hr | ⟨o, hr⟩
    · refine ⟨.resolvedAll (.error (.dns .timeout)), rfl, ?_⟩
      simp [withDns, timeoutReplies, DnsQueryGroup.requesters, hr]
    · have hall : group.responseAll = none := hone.resolve_left (by simp [hr])
      refine ⟨.resolved (.error (.dns .timeout)), rfl, ?_⟩
      simp [withDns, timeoutReplies, DnsQueryGroup.requesters, hr, hall]

theorem Asked.same (h : Asked asked rt) (hs : SameDns rt rt') : Asked asked rt' :=
  h.idle (fun i => by rw [hs.groups]) hs.closed hs.replies

end RuntimeState

end Usque
