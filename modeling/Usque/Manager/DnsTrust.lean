import Usque.Manager.DnsScript

namespace Usque

variable {S : Smoltcp} {rt rt' : RuntimeState S} {H : Hickory}

open RuntimeState

def DnsRecordType.version : DnsRecordType → IpVersion
  | .a => .ipv4
  | .aaaa => .ipv6

def InFamily (queryType : DnsRecordType) (result : DnsResult) : Prop :=
  ∀ records, result = .ok records → ∀ r ∈ records, r.address.version = queryType.version

namespace RuntimeState

def FamilyOk (rt : RuntimeState S) : Prop :=
  ∀ groupId group queryType result, rt.dnsGroups.lookup groupId = some group →
    group.resultOf queryType = some result → InFamily queryType result

theorem familyOk_iff (rt : RuntimeState S) : rt.FamilyOk ↔ rt.fanout.All InFamily := by
  simp only [FamilyOk, Fanout.All, fanout, Option.map_eq_some_iff]
  constructor
  · rintro h groupId r queryType result ⟨group, hl, rfl⟩ hr
    exact h groupId group queryType result hl hr
  · intro h groupId group queryType result hl hr
    exact h groupId group.resultOf queryType result ⟨group, hl, rfl⟩ hr

theorem inFamily_error (queryType : DnsRecordType) (e : DnsError) :
    InFamily queryType (.error e) := by
  intro records h
  cases h

namespace FamilyOk

theorem same (h : rt.FamilyOk) (hs : SameDns rt rt') : rt'.FamilyOk := by
  rw [familyOk_iff, fanout_same hs, ← familyOk_iff]
  exact h

theorem record (h : rt.FamilyOk) (groupId : UInt32) {queryType : DnsRecordType}
    {result : DnsResult} (hr : InFamily queryType result) :
    (rt.recordResult groupId queryType result).FamilyOk := by
  rw [familyOk_iff] at h ⊢
  rw [fanout_recordResult]
  exact h.recorded groupId hr

theorem resolve (h : rt.FamilyOk) (groupId : UInt32) :
    (rt.tryResolveDnsGroup groupId).FamilyOk := by
  cases hl : rt.dnsGroups.lookup groupId with
  | none => rwa [tryResolveDnsGroup_none hl]
  | some group =>
      rw [familyOk_iff] at h ⊢
      rw [fanout_tryResolve hl]
      split_ifs
      · exact h.closed groupId
      · exact h

theorem openGroup (h : rt.FamilyOk) (groupId : UInt32) {group : DnsQueryGroup}
    (hg : group.resultOf = fun _ => none) : (rt.openGroup groupId group).FamilyOk := by
  rw [familyOk_iff] at h ⊢
  rw [fanout_openGroup rt hg]
  exact h.opened groupId

theorem expire (h : rt.FamilyOk) (groupId : UInt32) : (rt.expireDnsGroup groupId).FamilyOk := by
  cases hl : rt.dnsGroups.lookup groupId with
  | none => rwa [expireDnsGroup_none hl]
  | some group =>
      rw [familyOk_iff] at h ⊢
      rw [expireDnsGroup_eq hl, fanout_closed]
      exact h.closed groupId

theorem expireAll (h : rt.FamilyOk) (ids : List UInt32) :
    (ids.foldl expireDnsGroup rt).FamilyOk := by
  induction ids generalizing rt with
  | nil => exact h
  | cons id ids ih => exact ih (h.expire id)

theorem dispatch (h : rt.FamilyOk) {groupId : UInt32} {domain : String}
    {dnsHandle : SocketHandle} {dnsServer : IpAddress} {queryType : DnsRecordType}
    {logLabel : String}
    (hd : rt.dispatchDnsQuery H groupId domain dnsHandle dnsServer queryType logLabel = .ok rt') :
    rt'.FamilyOk := by
  obtain ⟨rt₁, hs, ⟨tx, _, rfl⟩ | ⟨e, rfl⟩⟩ := dispatchDnsQuery_cases hd
  · have h₁ : rt₁.FamilyOk := h.same hs
    exact h₁
  · exact ((h.same hs).record groupId (inFamily_error queryType e)).resolve groupId

theorem start (h : rt.FamilyOk) {domain : String} {preferIpv6 resolveAll : Bool}
    {response responseAll : Option OneshotId} {dnsServers : List IpAddress}
    (hs : rt.startDnsQueryFor H domain preferIpv6 resolveAll response responseAll dnsServers =
      .ok rt') : rt'.FamilyOk := by
  obtain ⟨rt₁, hsame, hcase⟩ := startDnsQueryFor_cases hs
  have hnew : (rt.newGroup domain preferIpv6 response responseAll).resultOf = fun _ => none := by
    funext queryType
    cases queryType <;> rfl
  have h₁ := (h.openGroup rt.shared.statics.dnsGroupId hnew).same hsame
  rcases hcase with ⟨e, rfl⟩ | ⟨dnsServer, dnsHandle, rt₂, h₂, h₃⟩
  · exact ((h₁.record _ (inFamily_error _ e)).record _ (inFamily_error _ e)).resolve _
  · exact (h₁.dispatch h₂).dispatch h₃

end FamilyOk

structure DnsUnchanged (rt rt' : RuntimeState S) : Prop where
  queries : rt'.dnsQueries = rt.dnsQueries
  groups : rt'.dnsGroups = rt.dnsGroups
  cache : rt'.dnsCache = rt.dnsCache
  replies : rt'.shared.replies = rt.shared.replies

end RuntimeState

namespace DnsRun

-- A response, from the server that the question went to, which repeats that question.
def Expected (H : Hickory) (s : DnsRun S) (data : List UInt8) (source : IpEndpoint) : Prop :=
  ∃ message query group name, H.messageFromBytes data = .ok message ∧
    s.rt.dnsQueries.lookup message.id = some query ∧
    s.rt.dnsGroups.lookup query.groupId = some group ∧
    message.isResponse = true ∧ s.sentTo message.id = some source ∧
    H.nameFromStr group.domain = .ok name ∧ message.queries = [(name, some query.queryType)]

def Ignored (H : Hickory) (s : DnsRun S) (data : List UInt8) : Prop :=
  ∀ message, H.messageFromBytes data = .ok message → s.rt.dnsQueries.lookup message.id = none

def familyGuard (H : Hickory) (s : DnsRun S) : DnsOp → Prop
  | .response data _ => ∀ message query, H.messageFromBytes data = .ok message →
      s.rt.dnsQueries.lookup message.id = some query → message.isResponse = true →
        message.responseCode = .noError →
          ∀ r ∈ message.answers.filterMap recordOf, r.address.version = query.queryType.version
  | _ => True

theorem unchanged_of_ignored {s : DnsRun S} {data : List UInt8} (h : s.Ignored H data) :
    s.rt.acceptDnsResponse H data = s.rt := by
  simp only [acceptDnsResponse, parseDnsResponseWithId]
  cases hm : H.messageFromBytes data with
  | error e => rfl
  | ok message => simp only [h message hm]

theorem accept_takes {s : DnsRun S} {data : List UInt8} {message : DnsMessage H.Name}
    {query : DnsQueryState} (hm : H.messageFromBytes data = .ok message)
    (hq : s.rt.dnsQueries.lookup message.id = some query) :
    (s.rt.acceptDnsResponse H data).dnsQueries.lookup message.id = none := by
  rw [Option.eq_none_iff_forall_ne_some]
  intro query' hq'
  simp only [acceptDnsResponse, parseDnsResponseWithId, hm, hq] at hq'
  have hpost := tryResolve_queries hq'
  rw [Table.lookup_erase, if_pos rfl] at hpost
  cases hpost

theorem unchanged_iff_ignored (s : DnsRun S) (data : List UInt8) :
    DnsUnchanged s.rt (s.rt.acceptDnsResponse H data) ↔ s.Ignored H data := by
  constructor
  · intro hu message hm
    by_contra hq
    obtain ⟨query, hq⟩ := Option.ne_none_iff_exists'.mp hq
    have hgone := accept_takes hm hq
    rw [hu.queries, hq] at hgone
    cases hgone
  · intro hi
    rw [unchanged_of_ignored hi]
    exact ⟨rfl, rfl, rfl, rfl⟩

theorem inFamily_of_guard {s : DnsRun S} {data : List UInt8} {source : IpEndpoint}
    {txId : UInt16} {result : DnsResult} {query : DnsQueryState}
    (hg : s.familyGuard H (.response data source))
    (hp : parseDnsResponseWithId H data = .ok (txId, result))
    (hq : s.rt.dnsQueries.lookup txId = some query) : InFamily query.queryType result := by
  simp only [parseDnsResponseWithId] at hp
  split at hp
  · cases hp
  · next message hm =>
      cases hp
      intro records hr
      simp only [validateDnsResponse, extractDnsRecords] at hr
      split at hr
      · next hv =>
          split_ifs at hv with hresp
          split at hv
          · next hcode =>
              split_ifs at hr
              cases hr
              exact hg message query hm hq (by simpa using hresp) hcode
          · cases hv
      · cases hr

theorem step_familyOk {s t : DnsRun S} {op : DnsOp} (hs : DnsStep H s op t)
    (hg : s.familyGuard H op) (h : s.rt.FamilyOk) : t.rt.FamilyOk := by
  cases hs with
  | resolve _ _ hd => exact h.start hd
  | resolveAll _ _ hd => exact h.start hd
  | response data source =>
      rcases acceptDnsResponse_cases H s.rt data with he | ⟨tx, result, query, hp, hq, he⟩
      · rwa [he]
      · rw [he]
        have htaken : (s.rt.takeQuery tx).FamilyOk := h
        exact (htaken.record query.groupId (inFamily_of_guard hg hp hq)).resolve query.groupId
  | expire => exact h.expireAll _
  | quiet hq =>
      intro groupId group queryType result hl
      rw [hq.groups] at hl
      exact h groupId group queryType result hl

theorem Reaches.familyOk {s : DnsRun S} (h : Reaches H (familyGuard H) s) : s.rt.FamilyOk := by
  induction h with
  | initial h₀ =>
      intro groupId group queryType result hl
      rw [h₀.2.1] at hl
      cases hl
  | step _ hg hs ih => exact step_familyOk hs hg ih

theorem datagrams_trusted (s : DnsRun S) :
    (s.Reachable H → ∀ data source,
      (DnsUnchanged s.rt (s.rt.acceptDnsResponse H data) ∨ s.Expected H data source) ↔
        (s.Ignored H data ∨ s.Expected H data source)) ∧
    (Reaches H (familyGuard H) s → s.rt.FamilyOk) := by
  constructor
  · intro _ data source
    rw [unchanged_iff_ignored]
  · exact Reaches.familyOk

theorem datagrams_trusted_answer : ∃ s : DnsRun Reference.smoltcp,
    s.rt.dnsQueries.lookup 1 = none ∧ s.rt.FamilyOk ∧ ∀ data source,
      (DnsUnchanged s.rt (s.rt.acceptDnsResponse Reference.hickory data) ∨
          s.Expected Reference.hickory data source) ↔
        (s.Ignored Reference.hickory data ∨ s.Expected Reference.hickory data source) := by
  have h : (Script.dnsRun [.resolveAll "example.com" 0]).any
      (fun s => decide (s.rt.dnsQueries.lookup 1 = some ⟨1, .a⟩)) = true := by decide +kernel
  obtain ⟨s, hs, hp⟩ : ∃ s : DnsRun Reference.smoltcp,
      Reaches Reference.hickory (familyGuard Reference.hickory) s ∧
        decide (s.rt.dnsQueries.lookup 1 = some ⟨1, .a⟩) = true :=
    Script.exists_guardedDns (by exact ⟨trivial, fun _ _ => trivial⟩) h
  rw [decide_eq_true_eq] at hp
  have hid : (Reference.hickory.messageFromBytes Script.answerA).toOption.any (fun m => m.id = 1 &&
      (m.answers.filterMap recordOf).all (fun r => r.address.version = .ipv4)) = true := by
    decide +kernel
  obtain ⟨message, hm, hmsg⟩ := (Option.any_eq_true _ _).mp hid
  simp only [Bool.and_eq_true, decide_eq_true_eq, List.all_eq_true] at hmsg
  obtain ⟨hone, hall⟩ := hmsg
  have hok := Outcome.toOption_eq_some.mp hm
  have hg : s.familyGuard Reference.hickory (.response Script.answerA Script.dnsServer) := by
    intro message' query hm' hq _ _ r hr
    rw [hok] at hm'
    cases hm'
    rw [hone, hp] at hq
    cases hq
    exact hall r hr
  have hstep := DnsStep.response (H := Reference.hickory) s Script.answerA Script.dnsServer
  have ht := hs.step hg hstep
  obtain ⟨htrust, hfamily⟩ := datagrams_trusted (H := Reference.hickory)
    { s with rt := s.rt.acceptDnsResponse Reference.hickory Script.answerA }
  refine ⟨_, ?_, hfamily ht, htrust ht.any⟩
  rw [← hone] at hp ⊢
  exact accept_takes hok hp

-- A forged answer to the A question, and an AAAA record in a true one.
theorem datagrams_mistrusted :
    (∃ s : DnsRun Reference.smoltcp, s.Reachable Reference.hickory ∧
      ¬ DnsUnchanged s.rt (s.rt.acceptDnsResponse Reference.hickory Script.answerA) ∧
      ¬ s.Expected Reference.hickory Script.answerA ⟨.ipv4 0x06060606#32, 53⟩) ∧
    ∃ s : DnsRun Reference.smoltcp, s.Reachable Reference.hickory ∧ ¬ s.rt.FamilyOk := by
  constructor
  · have h : (Script.dnsRun [.resolveAll "example.com" 0]).any (fun s =>
        decide (s.rt.dnsQueries.lookup 1 = some ⟨1, .a⟩) &&
          decide (s.sentTo 1 = some Script.dnsServer)) = true := by decide +kernel
    obtain ⟨s, hs, hp⟩ := Script.exists_dns h
    simp only [Bool.and_eq_true, decide_eq_true_eq] at hp
    obtain ⟨hq, hsent⟩ := hp
    have hid : (Reference.hickory.messageFromBytes Script.answerA).toOption.any
        (fun m => m.id = 1) = true := by decide +kernel
    obtain ⟨message, hm, hone⟩ := (Option.any_eq_true _ _).mp hid
    rw [decide_eq_true_eq] at hone
    have hok := Outcome.toOption_eq_some.mp hm
    refine ⟨s, hs, fun hu => ?_, ?_⟩
    · have hi := (unchanged_iff_ignored s Script.answerA).mp hu message hok
      rw [hone, hq] at hi
      cases hi
    · rintro ⟨message', query, group, name, hm', _, _, _, hsource, _⟩
      rw [hok] at hm'
      cases hm'
      rw [hone, hsent] at hsource
      revert hsource
      decide
  · have h : (Script.dnsRun [.resolveAll "example.com" 0,
        .response (Script.answerTo 1 "example.com" .a
          [(.aaaa, [0x20, 1, 0xd, 0xb8, 0, 0, 0, 0, 0, 0, 0, 0, 0, 0, 0, 1])])
          Script.dnsServer]).any
        (fun s => (s.rt.dnsGroups.lookup 1).any (fun g => g.ipv4Result.any (fun r =>
          (DnsQueryGroup.recordsOf (some r)).any (fun record =>
            record.address.version = .ipv6)))) = true := by decide +kernel
    obtain ⟨s, hs, hp⟩ := Script.exists_dns h
    simp only [Option.any_eq_true, List.any_eq_true, decide_eq_true_eq] at hp
    obtain ⟨group, hl, result, hr, record, hmem, hv⟩ := hp
    refine ⟨s, hs, fun hf => ?_⟩
    match result, hmem with
    | .ok records, hmem =>
        have hfam := hf 1 group .a (.ok records) hl hr records rfl record hmem
        rw [hv] at hfam
        cases hfam

end DnsRun

end Usque
