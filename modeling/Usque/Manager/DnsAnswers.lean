import Usque.Manager.DnsScript

namespace Usque

variable {S : Smoltcp} {rt rt' : RuntimeState S} {H : Hickory}

open RuntimeState

def Reply.isFailure : Reply → Bool
  | .resolved (.error _) => true
  | .resolvedAll (.error _) => true
  | _ => false

def Reply.addresses : Reply → List IpAddress
  | .resolved (.ok address) => [address]
  | .resolvedAll (.ok addresses) => addresses
  | _ => []

theorem Reply.isDns_of_isFailure {value : Reply} (h : value.isFailure = true) :
    value.isDns = true := by
  cases value <;> first | rfl | cases h

theorem dnsAnswers_pos {l : List (OneshotId × Reply)} {r : OneshotId} {value : Reply}
    (hm : (r, value) ∈ l) (hv : value.isDns = true) : 0 < dnsAnswers l r := by
  rw [dnsAnswers, List.countP_pos_iff]
  exact ⟨(r, value), hm, by simp [hv]⟩

namespace RuntimeState

def overdue (rt : RuntimeState S) (group : DnsQueryGroup) : Prop :=
  rt.shared.now - group.createdAt > dnsGroupTimeout

instance (rt : RuntimeState S) (group : DnsQueryGroup) : Decidable (rt.overdue group) :=
  inferInstanceAs (Decidable (_ > _))

def timedOut (rt : RuntimeState S) : List UInt32 :=
  (rt.dnsGroups.entries.filter (fun e => rt.shared.now - e.2.createdAt > dnsGroupTimeout)).map
    (·.1)

theorem expireDnsGroups_eq (rt : RuntimeState S) :
    rt.expireDnsGroups = rt.timedOut.foldl expireDnsGroup rt := rfl

theorem mem_timedOut {groupId : UInt32} :
    groupId ∈ rt.timedOut ↔
      ∃ group, rt.dnsGroups.lookup groupId = some group ∧ rt.overdue group := by
  simp only [timedOut, List.mem_map, List.mem_filter, decide_eq_true_eq]
  constructor
  · rintro ⟨⟨i, g⟩, ⟨hm, ho⟩, rfl⟩
    exact ⟨g, AList.mem_lookup_iff.mpr hm, ho⟩
  · rintro ⟨g, hl, ho⟩
    exact ⟨⟨groupId, g⟩, ⟨AList.mem_lookup_iff.mp hl, ho⟩, rfl⟩

theorem mem_deliver {response : OneshotId} {value : Reply} {p : OneshotId × Reply} :
    p ∈ rt.deliver response value ↔
      response ∉ rt.shared.closedReceivers ∧ p = (response, value) := by
  simp only [deliver]
  split_ifs with hc <;> simp [hc]

theorem mem_timeoutReplies {group : DnsQueryGroup} {p : OneshotId × Reply} :
    p ∈ rt.timeoutReplies group ↔ p.1 ∉ rt.shared.closedReceivers ∧
      ((group.response = some p.1 ∧ p.2 = .resolved (.error (.dns .timeout))) ∨
        (group.responseAll = some p.1 ∧ p.2 = .resolvedAll (.error (.dns .timeout)))) := by
  obtain ⟨r, value⟩ := p
  simp only [timeoutReplies, List.mem_append, List.mem_flatMap, Option.mem_toList, mem_deliver,
    Prod.mk.injEq]
  constructor
  · rintro (⟨a, ha, hc, rfl, rfl⟩ | ⟨a, ha, hc, rfl, rfl⟩)
    · exact ⟨hc, .inl ⟨ha, rfl⟩⟩
    · exact ⟨hc, .inr ⟨ha, rfl⟩⟩
  · rintro ⟨hc, ⟨ha, rfl⟩ | ⟨ha, rfl⟩⟩
    · exact .inl ⟨r, ha, hc, rfl, rfl⟩
    · exact .inr ⟨r, ha, hc, rfl, rfl⟩

theorem expireDnsGroup_groups (rt : RuntimeState S) (groupId i : UInt32) :
    (rt.expireDnsGroup groupId).dnsGroups.lookup i =
      if i = groupId then none else rt.dnsGroups.lookup i := by
  cases hl : rt.dnsGroups.lookup groupId with
  | none =>
      rw [expireDnsGroup_none hl]
      split_ifs with hi
      · rw [hi, hl]
      · rfl
  | some group =>
      rw [expireDnsGroup_eq hl]
      exact Table.lookup_erase _ _ _

theorem expireAll_groups (ids : List UInt32) (i : UInt32) :
    (ids.foldl expireDnsGroup rt).dnsGroups.lookup i =
      if i ∈ ids then none else rt.dnsGroups.lookup i := by
  induction ids generalizing rt with
  | nil => simp
  | cons id ids ih =>
      rw [List.foldl_cons, ih, expireDnsGroup_groups]
      by_cases hi : i = id <;> simp [hi]

theorem expireDnsGroup_closed (rt : RuntimeState S) (groupId : UInt32) :
    (rt.expireDnsGroup groupId).shared.closedReceivers = rt.shared.closedReceivers := by
  cases hl : rt.dnsGroups.lookup groupId with
  | none => rw [expireDnsGroup_none hl]
  | some group =>
      rw [expireDnsGroup_eq hl]
      rfl

theorem timeoutReplies_congr (h : rt'.shared.closedReceivers = rt.shared.closedReceivers)
    (group : DnsQueryGroup) : rt'.timeoutReplies group = rt.timeoutReplies group := by
  simp only [timeoutReplies, deliver, h]

-- Exactly the requesters of the expired groups are told of the timeout.
theorem expireAll_replies (rt : RuntimeState S) (ids : List UInt32) :
    ∃ l, (ids.foldl expireDnsGroup rt).shared.replies = rt.shared.replies ++ l ∧
      ∀ p, p ∈ l ↔ ∃ id ∈ ids, ∃ group, rt.dnsGroups.lookup id = some group ∧
        p ∈ rt.timeoutReplies group := by
  induction ids generalizing rt with
  | nil => exact ⟨[], by simp, by simp⟩
  | cons id ids ih =>
      obtain ⟨l, hl, hmem⟩ := ih (rt.expireDnsGroup id)
      have htail : ∀ p, p ∈ l ↔ ∃ i ∈ ids, i ≠ id ∧ ∃ group,
          rt.dnsGroups.lookup i = some group ∧ p ∈ rt.timeoutReplies group := by
        intro p
        rw [hmem]
        simp only [expireDnsGroup_groups, timeoutReplies_congr (expireDnsGroup_closed rt id)]
        constructor
        · rintro ⟨i, hi, group, hg, hp⟩
          split_ifs at hg with hne
          exact ⟨i, hi, hne, group, hg, hp⟩
        · rintro ⟨i, hi, hne, group, hg, hp⟩
          exact ⟨i, hi, group, by rw [if_neg hne, hg], hp⟩
      cases hg : rt.dnsGroups.lookup id with
      | none =>
          rw [expireDnsGroup_none hg] at hl
          refine ⟨l, by rwa [List.foldl_cons, expireDnsGroup_none hg], fun p => ?_⟩
          rw [htail]
          constructor
          · rintro ⟨i, hi, _, hx⟩
            exact ⟨i, List.mem_cons_of_mem _ hi, hx⟩
          · rintro ⟨i, hi, group, hx, hp⟩
            have hne : i ≠ id := by
              rintro rfl
              rw [hg] at hx
              cases hx
            exact ⟨i, (List.mem_cons.mp hi).resolve_left hne, hne, group, hx, hp⟩
      | some group =>
          refine ⟨rt.timeoutReplies group ++ l, ?_, fun p => ?_⟩
          · rw [List.foldl_cons, hl, expireDnsGroup_eq hg]
            simp only [withDns, List.append_assoc]
          · rw [List.mem_append, htail]
            constructor
            · rintro (hp | ⟨i, hi, _, hx⟩)
              · exact ⟨id, List.mem_cons_self, group, hg, hp⟩
              · exact ⟨i, List.mem_cons_of_mem _ hi, hx⟩
            · rintro ⟨i, hi, group', hx, hp⟩
              by_cases hne : i = id
              · rw [hne, hg] at hx
                cases hx
                exact .inl hp
              · exact .inr ⟨i, (List.mem_cons.mp hi).resolve_left hne, hne, group', hx, hp⟩

theorem recordResult_groups {groupId i : UInt32} (hi : i ≠ groupId) (queryType : DnsRecordType)
    (result : DnsResult) :
    (rt.recordResult groupId queryType result).dnsGroups.lookup i = rt.dnsGroups.lookup i := by
  rw [DnsSound.lookup_recordResult, if_neg hi]

theorem dispatch_groups {groupId i : UInt32} (hi : i ≠ groupId) {domain : String}
    {dnsHandle : SocketHandle} {dnsServer : IpAddress} {queryType : DnsRecordType}
    {logLabel : String}
    (hd : rt.dispatchDnsQuery H groupId domain dnsHandle dnsServer queryType logLabel = .ok rt') :
    rt'.dnsGroups.lookup i = rt.dnsGroups.lookup i := by
  obtain ⟨rt₁, hs, ⟨tx, _, rfl⟩ | ⟨e, rfl⟩⟩ := dispatchDnsQuery_cases hd
  · simp only [insertQuery, hs.groups]
  · rw [tryResolve_groups hi, recordResult_groups hi, hs.groups]

theorem start_groups {i : UInt32} (hi : i ≠ rt.shared.statics.dnsGroupId) {domain : String}
    {preferIpv6 resolveAll : Bool} {response responseAll : Option OneshotId}
    {dnsServers : List IpAddress}
    (hs : rt.startDnsQueryFor H domain preferIpv6 resolveAll response responseAll dnsServers =
      .ok rt') : rt'.dnsGroups.lookup i = rt.dnsGroups.lookup i := by
  obtain ⟨rt₁, hsame, hcase⟩ := startDnsQueryFor_cases hs
  have h₁ : rt₁.dnsGroups.lookup i = rt.dnsGroups.lookup i := by
    rw [hsame.groups]
    simp only [openGroup]
    rw [Table.lookup_insert, if_neg hi]
  rcases hcase with ⟨e, rfl⟩ | ⟨dnsServer, dnsHandle, rt₂, h₂, h₃⟩
  · rw [tryResolve_groups hi, recordResult_groups hi, recordResult_groups hi, h₁]
  · rw [dispatch_groups hi h₃, dispatch_groups hi h₂, h₁]

theorem allRecords_of_reply {group : DnsQueryGroup} {p : OneshotId × Reply}
    (hm : p ∈ rt.oneReplies group ++ if group.complete then rt.allReplies group else [])
    (hf : p.2.isFailure = true) : group.allRecords = [] := by
  rcases List.mem_append.mp hm with hm | hm
  · simp only [oneReplies] at hm
    split at hm
    · next response result _ hres =>
        obtain ⟨_, rfl⟩ := mem_deliver.mp hm
        cases result with
        | error e => exact DnsQueryGroup.allRecords_of_result_error hres
        | ok address => cases hf
    · cases hm
  · split_ifs at hm
    · simp only [allReplies] at hm
      split at hm
      · cases hm
      · next response _ =>
          obtain ⟨_, rfl⟩ := mem_deliver.mp hm
          by_cases he : group.allRecords = []
          · exact he
          · simp [allAnswer, he, Reply.isFailure] at hf
    · cases hm

end RuntimeState

-- The group as it stands when the step answers its requesters.
def DnsOp.recorded (H : Hickory) (rt : RuntimeState S) (op : DnsOp) (groupId : UInt32)
    (group : DnsQueryGroup) : DnsQueryGroup :=
  match op with
  | .response data _ =>
      match parseDnsResponseWithId H data with
      | .error _ => group
      | .ok (txId, result) =>
          match rt.dnsQueries.lookup txId with
          | none => group
          | some query =>
              if query.groupId = groupId then group.record query.queryType result else group
  | _ => group

namespace DnsRun

def newReplies (s t : DnsRun S) : List (OneshotId × Reply) :=
  t.rt.shared.replies.drop s.rt.shared.replies.length

structure NoneLost (H : Hickory) (s : DnsRun S) (op : DnsOp) (t : DnsRun S) : Prop where
  failed : ∀ groupId group, s.rt.dnsGroups.lookup groupId = some group →
    ∀ r ∈ group.requesters, ∀ value, (r, value) ∈ s.newReplies t → value.isFailure = true →
      (op.recorded H s.rt groupId group).allRecords = []
  timedOut : op = .expire → ∀ groupId group, s.rt.dnsGroups.lookup groupId = some group →
    s.rt.overdue group → group.allRecords ≠ [] →
    ∀ r ∈ group.requesters, r ∉ s.rt.shared.closedReceivers →
      ∃ value, (r, value) ∈ s.newReplies t ∧ value.addresses ≠ [] ∧
        ∀ address ∈ value.addresses, address ∈ group.allRecords.map (·.address)

def DropsAddresses (s : DnsRun S) (op : DnsOp) : Prop :=
  op = .expire ∧ ∃ groupId group r, s.rt.dnsGroups.lookup groupId = some group ∧
    s.rt.overdue group ∧ group.responseAll = some r ∧ r ∉ s.rt.shared.closedReceivers ∧
      group.allRecords ≠ []

theorem not_failed_of_kept {s t : DnsRun S} (ht : DnsSettled t.asked t.rt) {groupId : UInt32}
    {group : DnsQueryGroup} (hl : t.rt.dnsGroups.lookup groupId = some group) {r : OneshotId}
    (hr : r ∈ group.requesters) {value : Reply} (hm : (r, value) ∈ s.newReplies t)
    (hf : value.isFailure = true) : False := by
  have hpos := dnsAnswers_pos (List.mem_of_mem_drop hm) (Reply.isDns_of_isFailure hf)
  have hzero := ht.asked.waiting groupId group hl r hr
  omega

theorem newReplies_of_append {s t : DnsRun S} {l : List (OneshotId × Reply)}
    (h : t.rt.shared.replies = s.rt.shared.replies ++ l) : s.newReplies t = l := by
  rw [newReplies, h, List.drop_left]

theorem response_failed {s : DnsRun S} (h : DnsSettled s.asked s.rt) {data : List UInt8}
    {source : IpEndpoint} {t : DnsRun S} (hs : DnsStep H s (.response data source) t)
    {groupId : UInt32} {group : DnsQueryGroup} (hl : s.rt.dnsGroups.lookup groupId = some group)
    {r : OneshotId} (hr : r ∈ group.requesters) {value : Reply}
    (hm : (r, value) ∈ s.newReplies t) (hf : value.isFailure = true) :
    ((DnsOp.response data source).recorded H s.rt groupId group).allRecords = [] := by
  have ht := step_settled hs h
  cases hs
  rcases acceptDnsResponse_cases H s.rt data with he | ⟨tx, result, query, hp, hq, he⟩
  · rw [newReplies_of_append (l := []) (by simp [he])] at hm
    cases hm
  · simp only [DnsOp.recorded, hp, hq]
    split_ifs with hid
    · subst hid
      have hl' : ((s.rt.takeQuery tx).recordResult query.groupId query.queryType
          result).dnsGroups.lookup query.groupId = some (group.record query.queryType result) := by
        rw [DnsSound.lookup_recordResult, if_pos rfl]
        simp only [takeQuery, hl, Option.map_some]
      rw [tryResolveDnsGroup_eq hl'] at he
      rw [newReplies_of_append (congrArg (fun rt => rt.shared.replies) he)] at hm
      exact allRecords_of_reply hm hf
    · have hkept : (s.rt.acceptDnsResponse H data).dnsGroups.lookup groupId = some group := by
        rw [he, tryResolve_groups (Ne.symm hid), recordResult_groups (Ne.symm hid)]
        exact hl
      exact (not_failed_of_kept ht hkept hr hm hf).elim

theorem noneLost_of_not_drops {s t : DnsRun S} {op : DnsOp} (h : DnsSettled s.asked s.rt)
    (hs : DnsStep H s op t) (hn : ¬ s.DropsAddresses op) : NoneLost H s op t := by
  have ht := step_settled hs h
  have hne : ∀ {i g}, s.rt.dnsGroups.lookup i = some g →
      s.rt.dnsGroups.lookup s.rt.shared.statics.dnsGroupId = none →
        i ≠ s.rt.shared.statics.dnsGroupId := by
    rintro i g hl hid rfl
    rw [hid] at hl
    cases hl
  constructor
  · intro groupId group hl r hr value hm hf
    cases hs with
    | resolve hid _ hd =>
        exact (not_failed_of_kept ht ((start_groups (hne hl hid) hd).trans hl) hr hm hf).elim
    | resolveAll hid _ hd =>
        exact (not_failed_of_kept ht ((start_groups (hne hl hid) hd).trans hl) hr hm hf).elim
    | response data source => exact response_failed h (.response s data source) hl hr hm hf
    | expire =>
        by_cases ho : s.rt.overdue group
        · obtain ⟨l, hl', hmem⟩ := expireAll_replies s.rt s.rt.timedOut
          rw [newReplies_of_append hl', hmem] at hm
          obtain ⟨i, _, g, hg, hp⟩ := hm
          rw [mem_timeoutReplies] at hp
          have hrg : r ∈ g.requesters := by
            simp only [DnsQueryGroup.requesters, List.mem_append, Option.mem_toList]
            exact hp.2.imp (fun x => x.1) (fun x => x.1)
          cases h.asked.apart groupId i group g hl hg r hr hrg
          rw [hl] at hg
          cases hg
          rcases hp.2 with ⟨hone, _⟩ | ⟨hall, _⟩
          · exact h.early groupId group not_false hl (by simp [hone])
          · by_contra hrec
            exact hn ⟨rfl, groupId, group, r, hl, ho, hall, hp.1, hrec⟩
        · have hkept : s.rt.expireDnsGroups.dnsGroups.lookup groupId = some group := by
            rw [expireDnsGroups_eq, expireAll_groups, if_neg, hl]
            intro hin
            obtain ⟨g, hg, hog⟩ := mem_timedOut.mp hin
            rw [hl] at hg
            cases hg
            exact ho hog
          exact (not_failed_of_kept ht hkept hr hm hf).elim
    | quiet hq => exact (not_failed_of_kept ht (hq.groups ▸ hl) hr hm hf).elim
  · rintro rfl groupId group hl ho hrec r hr hopen
    simp only [DnsQueryGroup.requesters, List.mem_append, Option.mem_toList] at hr
    rcases hr with hone | hall
    · exact absurd (h.early groupId group not_false hl (by simp [hone])) hrec
    · exact absurd ⟨rfl, groupId, group, r, hl, ho, hall, hopen, hrec⟩ hn

theorem not_noneLost_of_drops {s t : DnsRun S} {op : DnsOp} (hs : DnsStep H s op t)
    (hd : s.DropsAddresses op) : ¬ NoneLost H s op t := by
  obtain ⟨rfl, groupId, group, r, hl, ho, hall, hopen, hrec⟩ := hd
  intro h
  cases hs
  obtain ⟨l, hl', hmem⟩ := expireAll_replies s.rt s.rt.timedOut
  have hr : r ∈ group.requesters := by
    simp only [DnsQueryGroup.requesters, List.mem_append, Option.mem_toList]
    exact .inr hall
  refine hrec (h.failed groupId group hl r hr (.resolvedAll (.error (.dns .timeout))) ?_ rfl)
  rw [newReplies_of_append hl', hmem]
  exact ⟨groupId, mem_timedOut.mpr ⟨group, hl, ho⟩, group, hl,
    mem_timeoutReplies.mpr ⟨hopen, .inr ⟨hall, rfl⟩⟩⟩

theorem noneLost_iff (s t : DnsRun S) (op : DnsOp) (h : s.Reachable H) (hs : DnsStep H s op t) :
    NoneLost H s op t ↔ ¬ s.DropsAddresses op :=
  ⟨fun hn hd => not_noneLost_of_drops hs hd hn, noneLost_of_not_drops h.settled hs⟩

theorem noneLost_iff_second_answer : ∃ s t : DnsRun Reference.smoltcp,
    s.Reachable Reference.hickory ∧
      DnsStep Reference.hickory s
        (.response (Script.answerTo 2 "example.com" .aaaa []) Script.dnsServer) t ∧
      (NoneLost Reference.hickory s
          (.response (Script.answerTo 2 "example.com" .aaaa []) Script.dnsServer) t ↔
        ¬ s.DropsAddresses
          (.response (Script.answerTo 2 "example.com" .aaaa []) Script.dnsServer)) := by
  have h : (Script.dnsRun [.resolveAll "example.com" 0,
      .response Script.answerA Script.dnsServer]).any (fun _ => true) = true := by decide +kernel
  obtain ⟨s, hs, _⟩ := Script.exists_dns h
  have hstep := DnsStep.response (H := Reference.hickory) s
    (Script.answerTo 2 "example.com" .aaaa []) Script.dnsServer
  exact ⟨s, _, hs, hstep, noneLost_iff s _ _ hs hstep⟩

-- The A answer arrives, the AAAA answer is lost, and the requester is told of a timeout.
theorem addresses_lost_at_timeout : ∃ s t : DnsRun Reference.smoltcp,
    s.Reachable Reference.hickory ∧ DnsStep Reference.hickory s .expire t ∧
      ¬ NoneLost Reference.hickory s .expire t := by
  have h : (Script.dnsRun [.resolveAll "example.com" 0,
      .response Script.answerA Script.dnsServer, .wait (secs 6)]).any
      (fun s => (s.rt.dnsGroups.lookup 1).any (fun g => s.rt.overdue g && g.responseAll = some 0 &&
        !g.allRecords.isEmpty) && s.rt.shared.closedReceivers = []) = true := by decide +kernel
  obtain ⟨s, hs, hp⟩ := Script.exists_dns h
  simp only [Bool.and_eq_true, decide_eq_true_eq, Option.any_eq_true, Bool.not_eq_true',
    List.isEmpty_eq_false_iff] at hp
  obtain ⟨⟨group, hl, ⟨ho, hall⟩, hrec⟩, hopen⟩ := hp
  refine ⟨s, _, hs, .expire s, not_noneLost_of_drops (.expire s) ?_⟩
  exact ⟨rfl, 1, group, 0, hl, ho, hall, by simp [hopen], hrec⟩

end DnsRun

end Usque
