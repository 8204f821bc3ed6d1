import Usque.Manager.DnsScript

namespace Usque

variable {S : Smoltcp} {rt rt' : RuntimeState S} {H : Hickory}

open RuntimeState

def Reply.isAll : Reply → Bool
  | .resolvedAll _ => true
  | _ => false

namespace RuntimeState

theorem dispatch_keeps {groupId : UInt32} {domain : String} {dnsHandle : SocketHandle}
    {dnsServer : IpAddress} {queryType : DnsRecordType} {logLabel : String}
    (hd : rt.dispatchDnsQuery H groupId domain dnsHandle dnsServer queryType logLabel = .ok rt')
    {txId : UInt16} {query : DnsQueryState} (h : rt.dnsQueries.lookup txId = some query)
    (hne : query.groupId ≠ groupId) : rt'.dnsQueries.lookup txId = some query := by
  obtain ⟨rt₁, hs, ⟨tx, hfree, rfl⟩ | ⟨e, rfl⟩⟩ := dispatchDnsQuery_cases hd
  · simp only [insertQuery]
    rw [Table.lookup_insert, if_neg, hs.queries, h]
    rintro rfl
    rw [hfree] at h
    cases h
  · refine tryResolve_keeps ?_ hne
    rw [← hs.queries] at h
    exact h

theorem start_keeps {domain : String} {preferIpv6 resolveAll : Bool}
    {response responseAll : Option OneshotId} {dnsServers : List IpAddress}
    (hs : rt.startDnsQueryFor H domain preferIpv6 resolveAll response responseAll dnsServers =
      .ok rt') {txId : UInt16} {query : DnsQueryState}
    (h : rt.dnsQueries.lookup txId = some query)
    (hne : query.groupId ≠ rt.shared.statics.dnsGroupId) :
    rt'.dnsQueries.lookup txId = some query := by
  obtain ⟨rt₁, hsame, hcase⟩ := startDnsQueryFor_cases hs
  have h₁ : rt₁.dnsQueries.lookup txId = some query := by
    rw [hsame.queries]
    exact h
  rcases hcase with ⟨e, rfl⟩ | ⟨dnsServer, dnsHandle, rt₂, h₂, h₃⟩
  · exact tryResolve_keeps h₁ hne
  · exact dispatch_keeps h₃ (dispatch_keeps h₂ h₁ hne) hne

theorem accept_queries {data : List UInt8} {txId : UInt16} {query : DnsQueryState}
    (h : (rt.acceptDnsResponse H data).dnsQueries.lookup txId = some query) :
    rt.dnsQueries.lookup txId = some query := by
  rcases acceptDnsResponse_cases H rt data with he | ⟨tx, result, q, _, _, he⟩
  · rwa [he] at h
  · rw [he] at h
    have h' := tryResolve_queries h
    simp only [recordResult, takeQuery] at h'
    rw [Table.lookup_erase] at h'
    split_ifs at h'
    exact h'

theorem expire_queries {groupId : UInt32} {txId : UInt16} {query : DnsQueryState}
    (h : (rt.expireDnsGroup groupId).dnsQueries.lookup txId = some query) :
    rt.dnsQueries.lookup txId = some query := by
  cases hl : rt.dnsGroups.lookup groupId with
  | none => rwa [expireDnsGroup_none hl] at h
  | some group =>
      rw [expireDnsGroup_eq hl] at h
      simp only [withDns] at h
      rw [Table.lookup_retain, Option.filter_eq_some_iff] at h
      exact h.1

theorem expireAll_queries (ids : List UInt32) {txId : UInt16} {query : DnsQueryState}
    (h : (ids.foldl expireDnsGroup rt).dnsQueries.lookup txId = some query) :
    rt.dnsQueries.lookup txId = some query := by
  induction ids generalizing rt with
  | nil => exact h
  | cons id ids ih => exact expire_queries (ih h)

section order

variable {data : List UInt8} {txId : UInt16} {query : DnsQueryState} {result : DnsResult}
  {group : DnsQueryGroup}

theorem oneReplies_notAll (rt : RuntimeState S) (group : DnsQueryGroup) :
    (rt.oneReplies group).filter (fun p => p.2.isAll) = [] := by
  simp only [oneReplies]
  split
  · simp only [deliver]
    split_ifs <;> simp [Reply.isAll]
  · rfl

theorem allReplies_all (rt : RuntimeState S) (group : DnsQueryGroup) :
    (rt.allReplies group).filter (fun p => p.2.isAll) = rt.allReplies group := by
  simp only [allReplies]
  split
  · rfl
  · simp only [deliver]
    split_ifs <;> simp [Reply.isAll]

theorem accept_eq (hp : parseDnsResponseWithId H data = .ok (txId, result))
    (hq : rt.dnsQueries.lookup txId = some query) :
    rt.acceptDnsResponse H data =
      ((rt.takeQuery txId).recordResult query.groupId query.queryType
        result).tryResolveDnsGroup query.groupId := by
  simp only [acceptDnsResponse, hp, hq]
  rfl

theorem lookup_taken_recorded (hl : rt.dnsGroups.lookup query.groupId = some group) :
    ((rt.takeQuery txId).recordResult query.groupId query.queryType result).dnsGroups.lookup
      query.groupId = some (group.record query.queryType result) := by
  rw [DnsSound.lookup_recordResult, if_pos rfl]
  simp only [takeQuery, hl, Option.map_some]

-- The first of the two answers: the cache and the requester of all addresses have to wait.
theorem accept_first (hp : parseDnsResponseWithId H data = .ok (txId, result))
    (hq : rt.dnsQueries.lookup txId = some query)
    (hl : rt.dnsGroups.lookup query.groupId = some group)
    (hc : (group.record query.queryType result).complete = false) :
    ∃ groups replies, rt.acceptDnsResponse H data =
        rt.withDns (AList.erase txId rt.dnsQueries) groups rt.dnsCache replies ∧
      groups.lookup query.groupId = some (group.record query.queryType result).afterAnswer ∧
      replies.filter (fun p => p.2.isAll) = [] := by
  rw [accept_eq hp hq, tryResolveDnsGroup_eq (lookup_taken_recorded hl)]
  simp only [hc, Bool.false_eq_true, if_false, List.append_nil, resolvedGroups]
  refine ⟨_, _, rfl, ?_, oneReplies_notAll _ _⟩
  split_ifs with ha
  · rw [Table.lookup_insert, if_pos rfl]
  · rw [lookup_taken_recorded hl, DnsQueryGroup.afterAnswer_of_not (Bool.eq_false_iff.mpr ha)]

-- The second: what is cached and sent depends on the two results and not on which came first.
theorem accept_second (hp : parseDnsResponseWithId H data = .ok (txId, result))
    (hq : rt.dnsQueries.lookup txId = some query)
    (hl : rt.dnsGroups.lookup query.groupId = some group)
    (hc : (group.record query.queryType result).complete = true) :
    (rt.acceptDnsResponse H data).dnsCache = rt.cached (group.record query.queryType result) ∧
      (rt.acceptDnsResponse H data).shared.replies.filter (fun p => p.2.isAll) =
        rt.shared.replies.filter (fun p => p.2.isAll) ++
          rt.allReplies (group.record query.queryType result) := by
  rw [accept_eq hp hq, tryResolveDnsGroup_eq (lookup_taken_recorded hl)]
  simp only [hc, if_true, withDns, List.filter_append, oneReplies_notAll, List.nil_append]
  exact ⟨rfl, congrArg _ (allReplies_all _ _)⟩

theorem cached_congr (rt : RuntimeState S) {group' : DnsQueryGroup} (hd : group'.domain = group.domain)
    (hr : group'.resultOf = group.resultOf) : rt.cached group' = rt.cached group := by
  simp only [cached, hd, DnsQueryGroup.allRecords_congr hr]

theorem allReplies_congr (rt : RuntimeState S) {group' : DnsQueryGroup}
    (ha : group'.responseAll = group.responseAll)
    (hr : group'.resultOf = group.resultOf) : rt.allReplies group' = rt.allReplies group := by
  have h4 : group'.ipv4Result = group.ipv4Result := congrFun hr .a
  have h6 : group'.ipv6Result = group.ipv6Result := congrFun hr .aaaa
  simp only [allReplies, ha, allAnswer, DnsQueryGroup.allRecords_congr hr, h4, h6]

end order

end RuntimeState

def DnsRecordType.other : DnsRecordType → DnsRecordType
  | .a => .aaaa
  | .aaaa => .a

namespace DnsQueryGroup

def both (group : DnsQueryGroup) (resultA resultAaaa : DnsResult) : DnsQueryGroup :=
  { group with ipv4Result := some resultA, ipv6Result := some resultAaaa }

def bothOf (group : DnsQueryGroup) (queryType : DnsRecordType) (result other : DnsResult) :
    DnsQueryGroup :=
  match queryType with
  | .a => group.both result other
  | .aaaa => group.both other result

theorem record_record (group : DnsQueryGroup) (queryType : DnsRecordType)
    (result other : DnsResult) :
    let last := (group.record queryType result).afterAnswer.record queryType.other other
    last.domain = (group.bothOf queryType result other).domain ∧
      last.responseAll = (group.bothOf queryType result other).responseAll ∧
      last.resultOf = (group.bothOf queryType result other).resultOf ∧ last.complete = true := by
  simp only [afterAnswer]
  cases queryType <;> split_ifs <;> refine ⟨rfl, rfl, funext fun ty => ?_, rfl⟩ <;> cases ty <;> rfl

end DnsQueryGroup

namespace DnsRun

theorem Reaches.ordered {guard : DnsRun S → DnsOp → Prop} {s : DnsRun S}
    (h : Reaches H guard s) (queryType : DnsRecordType) {groupId : UInt32} {tx tx' : UInt16}
    {data data' : List UInt8}
    {result result' : DnsResult} {group : DnsQueryGroup}
    (hl : s.rt.dnsGroups.lookup groupId = some group)
    (hq : s.rt.dnsQueries.lookup tx = some ⟨groupId, queryType⟩)
    (hq' : s.rt.dnsQueries.lookup tx' = some ⟨groupId, queryType.other⟩)
    (hp : parseDnsResponseWithId H data = .ok (tx, result))
    (hp' : parseDnsResponseWithId H data' = .ok (tx', result')) :
    let last := (s.rt.acceptDnsResponse H data).acceptDnsResponse H data'
    last.dnsCache = s.rt.cached (group.bothOf queryType result result') ∧
      last.shared.replies.filter (fun p => p.2.isAll) =
        s.rt.shared.replies.filter (fun p => p.2.isAll) ++
          s.rt.allReplies (group.bothOf queryType result result') := by
  have hone := h.settled.exact.one (fanout_groups hl) queryType.other
  have hnone : group.resultOf queryType.other = none := by
    rcases hone with ⟨_, hno⟩ | ⟨hn, _⟩
    · exact absurd (fanout_queries.mpr hq') (hno tx')
    · exact hn
  have hinc : (group.record queryType result).complete = false := by
    rw [Bool.eq_false_iff, ne_eq, DnsQueryGroup.complete_iff]
    intro hall
    refine hall queryType.other ?_
    rw [DnsQueryGroup.resultOf_record, Function.update_of_ne, hnone]
    cases queryType <;> simp [DnsRecordType.other]
  obtain ⟨groups, replies, he, hg, hr⟩ := accept_first hp hq hl hinc
  have htx : tx' ≠ tx := by
    rintro rfl
    rw [hq] at hq'
    cases queryType <;> simp [DnsRecordType.other] at hq'
  obtain ⟨hd, ha, hres, hc⟩ := DnsQueryGroup.record_record group queryType result result'
  rw [he]
  have hq'' : (s.rt.withDns (AList.erase tx s.rt.dnsQueries) groups s.rt.dnsCache
      replies).dnsQueries.lookup tx' = some ⟨groupId, queryType.other⟩ := by
    simp only [withDns]
    rw [Table.lookup_erase, if_neg htx, hq']
  obtain ⟨hcache, hreplies⟩ := accept_second hp' hq'' hg hc
  constructor
  · rw [hcache]
    exact cached_congr s.rt hd hres
  · rw [hreplies]
    simp only [withDns, List.filter_append, hr, List.append_nil]
    exact congrArg _ (allReplies_congr s.rt ha hres)

theorem step_keeps {s t : DnsRun S} {op : DnsOp} (hs : DnsStep H s op t)
    (h : DnsSettled s.asked s.rt) {txId : UInt16} {query query' : DnsQueryState}
    (hq : s.rt.dnsQueries.lookup txId = some query)
    (hq' : t.rt.dnsQueries.lookup txId = some query') : query' = query := by
  have hlive : s.rt.dnsGroups.lookup query.groupId ≠ none := fun hn =>
    h.exact.live txId query.groupId query.queryType (fanout_queries.mpr hq)
      (fanout_groups_none.mpr hn)
  have hne : s.rt.dnsGroups.lookup s.rt.shared.statics.dnsGroupId = none →
      query.groupId ≠ s.rt.shared.statics.dnsGroupId := by
    intro hid he
    rw [he] at hlive
    exact hlive hid
  have hsame : s.rt.dnsQueries.lookup txId = some query' → query' = query := by
    intro hs'
    rw [hq] at hs'
    exact (Option.some.inj hs').symm
  cases hs with
  | resolve hid _ hd => exact Option.some.inj (hq'.symm.trans (start_keeps hd hq (hne hid)))
  | resolveAll hid _ hd => exact Option.some.inj (hq'.symm.trans (start_keeps hd hq (hne hid)))
  | response data source => exact hsame (accept_queries hq')
  | expire => exact hsame (expireAll_queries _ hq')
  | quiet hquiet =>
      rw [hquiet.queries] at hq'
      exact hsame hq'

theorem accept_completed {s : DnsRun S} {groupId : UInt32} {queryType : DnsRecordType} {tx : UInt16}
    {data : List UInt8} {result result' : DnsResult} {group : DnsQueryGroup}
    (hl : s.rt.dnsGroups.lookup groupId = some group)
    (hr : group.resultOf queryType.other = some result')
    (hq : s.rt.dnsQueries.lookup tx = some ⟨groupId, queryType⟩)
    (hp : parseDnsResponseWithId H data = .ok (tx, result)) :
    (s.rt.acceptDnsResponse H data).dnsCache =
        s.rt.cached (group.bothOf queryType result result') ∧
      (s.rt.acceptDnsResponse H data).shared.replies.filter (fun p => p.2.isAll) =
        s.rt.shared.replies.filter (fun p => p.2.isAll) ++
          s.rt.allReplies (group.bothOf queryType result result') := by
  have heq : group.record queryType result = group.bothOf queryType result result' := by
    cases queryType
    · have h6 : group.ipv6Result = some result' := hr
      simp [DnsQueryGroup.record, DnsQueryGroup.bothOf, DnsQueryGroup.both, ← h6]
    · have h4 : group.ipv4Result = some result' := hr
      simp [DnsQueryGroup.record, DnsQueryGroup.bothOf, DnsQueryGroup.both, ← h4]
  have hc : (group.record queryType result).complete = true := by
    rw [heq]
    cases queryType <;> rfl
  rw [← heq]
  exact accept_second hp hq hl hc

end DnsRun

structure DnsExact (H : Hickory) (s : DnsRun S) : Prop where
  live : ∀ txId query, s.rt.dnsQueries.lookup txId = some query →
    s.rt.dnsGroups.lookup query.groupId ≠ none
  family : ∀ groupId group, s.rt.dnsGroups.lookup groupId = some group → ∀ queryType,
    (group.resultOf queryType ≠ none ∧
        ∀ txId, s.rt.dnsQueries.lookup txId ≠ some ⟨groupId, queryType⟩) ∨
      (group.resultOf queryType = none ∧
        ∃! txId, s.rt.dnsQueries.lookup txId = some ⟨groupId, queryType⟩)
  incomplete : ∀ groupId group, s.rt.dnsGroups.lookup groupId = some group →
    group.ipv4Result = none ∨ group.ipv6Result = none
  kept : ∀ op t, DnsStep H s op t → ∀ txId query query',
    s.rt.dnsQueries.lookup txId = some query → t.rt.dnsQueries.lookup txId = some query' →
      query' = query
  once : ∀ r, dnsAnswers s.rt.shared.replies r ≤ 1
  answered : ∀ p ∈ s.asked, s.rt.Answered p.2 ∨
    ∃ group, s.rt.dnsGroups.lookup p.1 = some group ∧ p.2 ∈ group.requesters
  ordered : ∀ groupId group tx4 tx6 data4 data6 result4 result6,
    s.rt.dnsGroups.lookup groupId = some group →
    s.rt.dnsQueries.lookup tx4 = some ⟨groupId, .a⟩ →
    s.rt.dnsQueries.lookup tx6 = some ⟨groupId, .aaaa⟩ →
    parseDnsResponseWithId H data4 = .ok (tx4, result4) →
    parseDnsResponseWithId H data6 = .ok (tx6, result6) →
    ((s.rt.acceptDnsResponse H data4).acceptDnsResponse H data6).dnsCache =
        ((s.rt.acceptDnsResponse H data6).acceptDnsResponse H data4).dnsCache ∧
      ((s.rt.acceptDnsResponse H data4).acceptDnsResponse H data6).shared.replies.filter
          (fun p => p.2.isAll) =
        ((s.rt.acceptDnsResponse H data6).acceptDnsResponse H data4).shared.replies.filter
          (fun p => p.2.isAll)
  completed : ∀ groupId group queryType tx data result other,
    s.rt.dnsGroups.lookup groupId = some group →
    group.resultOf queryType.other = some other →
    s.rt.dnsQueries.lookup tx = some ⟨groupId, queryType⟩ →
    parseDnsResponseWithId H data = .ok (tx, result) →
    (s.rt.acceptDnsResponse H data).dnsCache =
        s.rt.cached (group.bothOf queryType result other) ∧
      (s.rt.acceptDnsResponse H data).shared.replies.filter (fun p => p.2.isAll) =
        s.rt.shared.replies.filter (fun p => p.2.isAll) ++
          s.rt.allReplies (group.bothOf queryType result other)

theorem DnsRun.dnsGroups_exact (s : DnsRun S) (h : s.Reachable H) : DnsExact H s where
  live := fun txId query hq hn =>
    h.settled.exact.live txId query.groupId query.queryType (fanout_queries.mpr hq)
      (fanout_groups_none.mpr hn)
  family := by
    intro groupId group hl queryType
    rcases h.settled.exact.one (fanout_groups hl) queryType with ⟨hr, hno⟩ | ⟨hr, tx, hq, hu⟩
    · exact .inl ⟨hr, fun txId hq => hno txId (fanout_queries.mpr hq)⟩
    · exact .inr ⟨hr, tx, fanout_queries.mp hq, fun txId hq' => hu txId (fanout_queries.mpr hq')⟩
  incomplete := by
    intro groupId group hl
    have hc := h.settled.open_ groupId group not_false hl
    rw [DnsQueryGroup.complete, Bool.and_eq_false_iff] at hc
    exact hc.imp (by simp) (by simp)
  kept := fun _ _ hs _ _ _ hq hq' => step_keeps hs h.settled hq hq'
  once := h.settled.asked.once
  answered := h.settled.asked.held
  ordered := by
    intro groupId group tx4 tx6 data4 data6 result4 result6 hl h4 h6 hp4 hp6
    obtain ⟨hc, hr⟩ := h.ordered .a hl h4 h6 hp4 hp6
    obtain ⟨hc', hr'⟩ := h.ordered .aaaa hl h6 h4 hp6 hp4
    exact ⟨hc.trans hc'.symm, hr.trans hr'.symm⟩
  completed := fun _ _ _ _ _ _ _ hl hr hq hp => accept_completed hl hr hq hp

theorem DnsRun.dnsGroups_exact_half_answered :
    ∃ s : DnsRun Reference.smoltcp, s.Reachable Reference.hickory ∧
      DnsExact Reference.hickory s ∧
      (s.rt.dnsGroups.lookup 1).any (fun g => g.ipv4Result.isSome && g.ipv6Result.isNone) = true := by
  have h : (Script.dnsRun [.resolveAll "example.com" 0,
      .response Script.answerA Script.dnsServer]).any
      (fun s => (s.rt.dnsGroups.lookup 1).any
        (fun g => g.ipv4Result.isSome && g.ipv6Result.isNone)) = true := by decide +kernel
  obtain ⟨s, hs, hp⟩ := Script.exists_dns h
  exact ⟨s, hs, s.dnsGroups_exact hs, hp⟩

end Usque
