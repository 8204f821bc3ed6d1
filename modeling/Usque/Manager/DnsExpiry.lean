import Usque.Manager.DnsAnswers
import Usque.Manager.Effects

namespace Usque

variable {S : Smoltcp} {rt rt' rt'' : RuntimeState S} {H : Hickory}

open RuntimeState

structure SameGroups (rt rt' : RuntimeState S) : Prop where
  now : rt'.shared.now = rt.shared.now
  closed : rt'.shared.closedReceivers = rt.shared.closedReceivers
  tunables : rt'.tunables = rt.tunables
  groups : rt'.dnsGroups = rt.dnsGroups
  replies : ∃ l, rt'.shared.replies = rt.shared.replies ++ l

namespace SameGroups

theorem refl (rt : RuntimeState S) : SameGroups rt rt :=
  ⟨rfl, rfl, rfl, rfl, [], (List.append_nil _).symm⟩

theorem of_shared (hshared : rt'.shared = rt.shared) (htunables : rt'.tunables = rt.tunables)
    (hgroups : rt'.dnsGroups = rt.dnsGroups) : SameGroups rt rt' := by
  refine ⟨by rw [hshared], by rw [hshared], htunables, hgroups, [], ?_⟩
  rw [hshared, List.append_nil]

theorem trans (h : SameGroups rt rt') (k : SameGroups rt' rt'') : SameGroups rt rt'' where
  now := k.now.trans h.now
  closed := k.closed.trans h.closed
  tunables := k.tunables.trans h.tunables
  groups := k.groups.trans h.groups
  replies := by
    obtain ⟨l, hl⟩ := h.replies
    obtain ⟨l', hl'⟩ := k.replies
    exact ⟨l ++ l', by rw [hl', hl, List.append_assoc]⟩

end SameGroups

structure SameTimers (rt rt' : RuntimeState S) : Prop extends SameGroups rt rt' where
  sessions : rt'.udpSessions = rt.udpSessions

namespace SameTimers

theorem refl (rt : RuntimeState S) : SameTimers rt rt := ⟨.refl rt, rfl⟩

theorem of_shared (hshared : rt'.shared = rt.shared) (htunables : rt'.tunables = rt.tunables)
    (hgroups : rt'.dnsGroups = rt.dnsGroups) (hsessions : rt'.udpSessions = rt.udpSessions) :
    SameTimers rt rt' :=
  ⟨.of_shared hshared htunables hgroups, hsessions⟩

theorem trans (h : SameTimers rt rt') (k : SameTimers rt' rt'') : SameTimers rt rt'' :=
  ⟨h.toSameGroups.trans k.toSameGroups, k.sessions.trans h.sessions⟩

theorem replyAll (rt : RuntimeState S) (responses : List OneshotId) (value : Reply) :
    SameTimers rt (rt.replyAll responses value) := by
  rw [replyAll_eq]
  exact ⟨⟨rfl, rfl, rfl, rfl, _, rfl⟩, rfl⟩

theorem notifyReadyWaiters (h : rt.notifyReadyWaiters = .ok rt') : SameTimers rt rt' := by
  refine notifyReadyWaiters_preserves (I := SameTimers rt) ?_ ?_ h (.refl rt)
  · intro rt₁ handle st h₁
    exact h₁.trans (.of_shared rfl rfl rfl rfl)
  · intro rt₁ responses state h₁
    exact h₁.trans (.replyAll rt₁ _ _)

theorem serviceSocket {fullSweep : Bool} {handle : SocketHandle} {st : SocketState}
    (h : rt.serviceSocket fullSweep handle st = .ok rt') : SameTimers rt rt' := by
  obtain ⟨v, _, rfl⟩ := serviceSocket_ok h
  exact ⟨⟨rfl, rfl, rfl, rfl, [], (List.append_nil _).symm⟩, rfl⟩

theorem closeHandle {handle : SocketHandle} (h : rt.closeHandle handle = .ok rt') :
    SameTimers rt rt' := by
  simp only [RuntimeState.closeHandle] at h
  obtain ⟨stack, _, h⟩ := Outcome.bind_eq_ok.mp h
  cases h
  cases hl : rt.sockets.lookup handle with
  | none =>
      simp only [releaseSocket, hl]
      exact .of_shared rfl rfl rfl rfl
  | some st =>
      simp only [releaseSocket, hl]
      rw [replyAll_eq]
      exact ⟨⟨rfl, rfl, rfl, rfl, _, rfl⟩, rfl⟩

theorem retire {handle : SocketHandle} (h : RuntimeState.retire rt handle = .ok rt') :
    SameTimers rt rt' := by
  obtain ⟨rt₁, hclose, h⟩ := Outcome.bind_eq_ok.mp h
  cases h
  exact (SameTimers.closeHandle hclose).trans (.of_shared rfl rfl rfl rfl)

theorem pollTcpSockets {fullSweep : Bool} (h : rt.pollTcpSockets fullSweep = .ok rt') :
    SameTimers rt rt' := by
  refine pollTcpSockets_relation .refl (fun _ _ _ h k => h.trans k) (fun a fullSweep => ?_)
    (fun _ _ _ _ _ hs => .serviceSocket hs) (fun _ _ _ hr => .retire hr) h
  simp only [selectHandles]
  split_ifs
  · exact .of_shared rfl rfl rfl rfl
  · exact .of_shared rfl rfl rfl rfl

end SameTimers

-- Each requester of a live group goes on waiting at it or is told something.
structure Serving (rt rt' : RuntimeState S) : Prop where
  now : rt'.shared.now = rt.shared.now
  closed : rt'.shared.closedReceivers = rt.shared.closedReceivers
  tunables : rt'.tunables = rt.tunables
  replies : ∃ l, rt'.shared.replies = rt.shared.replies ++ l ∧
    ∀ i g, rt.dnsGroups.lookup i = some g → ∀ r ∈ g.requesters,
      r ∈ rt.shared.closedReceivers ∨ 0 < dnsAnswers l r ∨
        ∃ g', rt'.dnsGroups.lookup i = some g' ∧ g'.createdAt = g.createdAt ∧ r ∈ g'.requesters

theorem SameGroups.serving (h : SameGroups rt rt') : Serving rt rt' := by
  obtain ⟨l, hl⟩ := h.replies
  refine ⟨h.now, h.closed, h.tunables, l, hl, fun i g hg r hr => .inr (.inr ⟨g, ?_, rfl, hr⟩)⟩
  rw [h.groups, hg]

namespace Serving

theorem refl (rt : RuntimeState S) : Serving rt rt := (SameGroups.refl rt).serving

theorem trans (h : Serving rt rt') (k : Serving rt' rt'') : Serving rt rt'' := by
  obtain ⟨l, hl, hs⟩ := h.replies
  obtain ⟨l', hl', hs'⟩ := k.replies
  refine ⟨k.now.trans h.now, k.closed.trans h.closed, k.tunables.trans h.tunables, l ++ l',
    by rw [hl', hl, List.append_assoc], fun i g hg r hr => ?_⟩
  rw [dnsAnswers_append]
  rcases hs i g hg r hr with hc | ha | ⟨g', hg', hcr, hr'⟩
  · exact .inl hc
  · exact .inr (.inl (by omega))
  · rcases hs' i g' hg' r hr' with hc | ha | ⟨g'', hg'', hcr', hr''⟩
    · exact .inl (h.closed ▸ hc)
    · exact .inr (.inl (by omega))
    · exact .inr (.inr ⟨g'', hg'', hcr'.trans hcr, hr''⟩)

theorem takeQuery (rt : RuntimeState S) (txId : UInt16) : Serving rt (rt.takeQuery txId) :=
  SameGroups.serving (.of_shared rfl rfl rfl)

theorem recordResult (rt : RuntimeState S) (groupId : UInt32) (queryType : DnsRecordType)
    (result : DnsResult) : Serving rt (rt.recordResult groupId queryType result) := by
  refine ⟨rfl, rfl, rfl, [], (List.append_nil _).symm, fun i g hg r hr => .inr (.inr ?_)⟩
  rw [DnsSound.lookup_recordResult]
  split_ifs with hi
  · subst hi
    refine ⟨g.record queryType result, by rw [hg, Option.map_some], ?_, ?_⟩
    · cases queryType <;> rfl
    · rw [DnsQueryGroup.requesters_record]
      exact hr
  · exact ⟨g, hg, rfl, hr⟩

theorem told (rt : RuntimeState S) {response : OneshotId} (value : Reply)
    {l : List (OneshotId × Reply)}
    (hsub : ∀ p ∈ rt.deliver response value, p ∈ l) (hv : value.isDns = true) :
    response ∈ rt.shared.closedReceivers ∨ 0 < dnsAnswers l response := by
  by_cases hc : response ∈ rt.shared.closedReceivers
  · exact .inl hc
  · exact .inr (dnsAnswers_pos (hsub _ (mem_deliver.mpr ⟨hc, rfl⟩)) hv)

theorem tryResolve (rt : RuntimeState S) (groupId : UInt32) :
    Serving rt (rt.tryResolveDnsGroup groupId) := by
  cases hl : rt.dnsGroups.lookup groupId with
  | none =>
      rw [tryResolveDnsGroup_none hl]
      exact .refl rt
  | some group =>
      rw [tryResolveDnsGroup_eq hl]
      refine ⟨rfl, rfl, rfl, _, rfl, fun i g hg r hr => ?_⟩
      simp only [withDns, resolvedGroups]
      by_cases hi : i = groupId
      · subst hi
        rw [hl] at hg
        cases hg
        have hone : ∀ response result, group.response = some response →
            group.result = some result →
              rt.oneReplies group = rt.deliver response (.resolved (result.mapError .dns)) := by
          intro response result hres hval
          simp only [oneReplies, hres, hval]
        simp only [DnsQueryGroup.requesters, List.mem_append, Option.mem_toList] at hr
        split_ifs with hc ha
        · rw [← or_assoc]
          left
          rcases hr with hr | hr
          · obtain ⟨result, hval⟩ := Option.isSome_iff_exists.mp (DnsQueryGroup.result_of_complete hc)
            refine told rt (.resolved (result.mapError .dns)) (fun p hp => ?_) rfl
            rw [hone r result hr hval]
            exact List.mem_append_left _ hp
          · refine told rt (.resolvedAll (allAnswer group)) (fun p hp => ?_) rfl
            refine List.mem_append_right _ ?_
            simpa only [allReplies, hr] using hp
        · simp only [DnsQueryGroup.answered, Bool.and_eq_true] at ha
          rcases hr with hr | hr
          · rw [← or_assoc]
            left
            obtain ⟨result, hval⟩ := Option.isSome_iff_exists.mp ha.2
            refine told rt (.resolved (result.mapError .dns)) (fun p hp => ?_) rfl
            rw [hone r result hr hval]
            exact List.mem_append_left _ hp
          · refine .inr (.inr ⟨group.afterAnswer, ?_, ?_, ?_⟩)
            · rw [Table.lookup_insert, if_pos rfl]
            · simp only [DnsQueryGroup.afterAnswer]
              split <;> rfl
            · simp only [DnsQueryGroup.afterAnswer, DnsQueryGroup.requesters]
              split <;> simp [hr]
        · exact .inr (.inr ⟨group, hl, rfl, by
            simpa only [DnsQueryGroup.requesters, List.mem_append, Option.mem_toList] using hr⟩)
      · refine .inr (.inr ⟨g, ?_, rfl, hr⟩)
        split_ifs
        · rw [Table.lookup_erase, if_neg hi, hg]
        · rw [Table.lookup_insert, if_neg hi, hg]
        · exact hg

theorem accept (H : Hickory) (rt : RuntimeState S) (data : List UInt8) :
    Serving rt (rt.acceptDnsResponse H data) := by
  rcases acceptDnsResponse_cases H rt data with he | ⟨txId, result, query, _, _, he⟩
  · rw [he]
    exact .refl rt
  · rw [he]
    exact ((takeQuery rt txId).trans (recordResult _ _ _ _)).trans (tryResolve _ _)

theorem receiveDnsResponses {handle : SocketHandle} {fuel : Nat}
    (h : receiveDnsResponses H handle fuel rt = .ok rt') : Serving rt rt' := by
  induction fuel generalizing rt with
  | zero => cases h
  | succ fuel ih =>
      simp only [RuntimeState.receiveDnsResponses] at h
      obtain ⟨can, _, h⟩ := Outcome.bind_eq_ok.mp h
      split_ifs at h
      · cases h
        exact .refl _
      · obtain ⟨⟨received, stack⟩, _, h⟩ := Outcome.bind_eq_ok.mp h
        have hstack : Serving rt { rt with stack } :=
          SameGroups.serving (.of_shared rfl rfl rfl)
        dsimp only at h
        split at h
        · cases h
          exact hstack
        · split_ifs at h
          · exact hstack.trans (ih h)
          · exact (hstack.trans (accept H _ _)).trans (ih h)

theorem processDnsResponses (h : rt.processDnsResponses H = .ok rt') : Serving rt rt' :=
  Outcome.run_invariant (P := Serving rt) (fun _ _ _ hp hr => hp.trans (.receiveDnsResponses hr))
    h (.refl rt)

theorem processUdpResponses (h : rt.processUdpResponses = .ok rt') : Serving rt rt' := by
  refine Outcome.run_invariant (P := Serving rt) ?_ h (.refl rt)
  intro rt₁ port rt₂ h₁ hu
  refine h₁.trans (SameGroups.serving ?_)
  simp only [processUdpResponse] at hu
  split at hu
  · cases hu
    exact .refl rt₁
  · obtain ⟨can, _, hu⟩ := Outcome.bind_eq_ok.mp hu
    split_ifs at hu
    · cases hu
      exact .refl rt₁
    · obtain ⟨⟨received, stack⟩, _, hu⟩ := Outcome.bind_eq_ok.mp hu
      dsimp only at hu
      split at hu
      · cases hu
        exact .of_shared rfl rfl rfl
      · split_ifs at hu
        · cases hu
          exact .of_shared rfl rfl rfl
        · cases hu
          exact ⟨rfl, rfl, rfl, rfl, [], (List.append_nil _).symm⟩

end Serving

namespace RuntimeState

def idle (rt : RuntimeState S) (session : UdpSessionState) : Prop :=
  rt.shared.now - session.lastActivity > rt.tunables.udpSessionTimeout

-- One call of poll_stack_common, with the sweep that it ends in.
def pollStack (H : Hickory) (rt : RuntimeState S) (fullTcpSweep : Bool) :
    Outcome (Option (RuntimeState S)) := do
  match ← rt.pollStackCommon H fullTcpSweep with
  | .failed => .ok none
  | .polled none rt => .ok (some rt)
  | .polled (some fullSweep) rt => do
      let rt ← rt.pollTcpSockets fullSweep
      .ok (some rt)

structure NoneOverdue (rt : RuntimeState S) : Prop where
  groups : ∀ i g, rt.dnsGroups.lookup i = some g → ¬ rt.overdue g
  sessions : ∀ port se, rt.udpSessions.lookup port = some se → ¬ rt.idle se

-- The requesters of the overdue groups have been told of an address or of a failure.
structure Timely (rt rt' : RuntimeState S) : Prop extends NoneOverdue rt' where
  answered : ∀ i g, rt.dnsGroups.lookup i = some g → rt.overdue g → ∀ r ∈ g.requesters,
    r ∈ rt.shared.closedReceivers ∨
      0 < dnsAnswers (rt'.shared.replies.drop rt.shared.replies.length) r

theorem NoneOverdue.carry (h : NoneOverdue rt) (hs : SameTimers rt rt') : NoneOverdue rt' where
  groups := by
    rw [hs.groups]
    intro i g hg ho
    exact h.groups i g hg (by rwa [overdue, hs.now] at ho)
  sessions := by
    rw [hs.sessions]
    intro port se hse hi
    exact h.sessions port se hse (by rwa [idle, hs.now, hs.tunables] at hi)

theorem expireAll_same (rt : RuntimeState S) (ids : List UInt32) :
    (ids.foldl expireDnsGroup rt).shared.now = rt.shared.now ∧
      (ids.foldl expireDnsGroup rt).tunables = rt.tunables ∧
      (ids.foldl expireDnsGroup rt).shared.closedReceivers = rt.shared.closedReceivers := by
  induction ids generalizing rt with
  | nil => exact ⟨rfl, rfl, rfl⟩
  | cons id ids ih =>
      obtain ⟨hn, ht, hc⟩ := ih (rt.expireDnsGroup id)
      rw [List.foldl_cons, hn, ht, hc]
      cases hl : rt.dnsGroups.lookup id with
      | none =>
          rw [expireDnsGroup_none hl]
          exact ⟨rfl, rfl, rfl⟩
      | some group =>
          rw [expireDnsGroup_eq hl]
          exact ⟨rfl, rfl, rfl⟩

theorem expireDnsGroups_told (rt : RuntimeState S) :
    ∃ l, rt.expireDnsGroups.shared.replies = rt.shared.replies ++ l ∧
      ∀ i g, rt.dnsGroups.lookup i = some g → rt.overdue g → ∀ r ∈ g.requesters,
        r ∈ rt.shared.closedReceivers ∨ 0 < dnsAnswers l r := by
  obtain ⟨l, hl, hmem⟩ := expireAll_replies rt rt.timedOut
  refine ⟨l, hl, fun i g hg ho r hr => ?_⟩
  by_cases hc : r ∈ rt.shared.closedReceivers
  · exact .inl hc
  · right
    have htold : ∀ value, (r, value) ∈ rt.timeoutReplies g → (r, value) ∈ l := fun value hp =>
      (hmem _).mpr ⟨i, mem_timedOut.mpr ⟨g, hg, ho⟩, g, hg, hp⟩
    simp only [DnsQueryGroup.requesters, List.mem_append, Option.mem_toList] at hr
    rcases hr with hr | hr
    · exact dnsAnswers_pos (htold _ (mem_timeoutReplies.mpr ⟨hc, .inl ⟨hr, rfl⟩⟩)) rfl
    · exact dnsAnswers_pos (htold _ (mem_timeoutReplies.mpr ⟨hc, .inr ⟨hr, rfl⟩⟩)) rfl

theorem closeUdpSession_spec {localPort : UInt16} (h : rt.closeUdpSession localPort = .ok rt') :
    SameGroups rt rt' ∧ ∀ port, rt'.udpSessions.lookup port =
      if port = localPort then none else rt.udpSessions.lookup port := by
  simp only [closeUdpSession] at h
  split at h
  · next hl =>
      cases h
      refine ⟨.refl _, fun port => ?_⟩
      split_ifs with hp
      · rw [hp, hl]
      · rfl
  · obtain ⟨stack, _, h⟩ := Outcome.bind_eq_ok.mp h
    cases h
    exact ⟨.of_shared rfl rfl rfl, Table.lookup_erase _ _⟩

theorem closeUdpSessions_spec {ports : List UInt16}
    (h : Outcome.run closeUdpSession rt ports = .ok rt') :
    SameGroups rt rt' ∧ ∀ port, rt'.udpSessions.lookup port =
      if port ∈ ports then none else rt.udpSessions.lookup port := by
  induction ports generalizing rt with
  | nil =>
      cases h
      exact ⟨.refl _, fun port => by simp⟩
  | cons localPort ports ih =>
      obtain ⟨rt₁, h₁, h⟩ := Outcome.bind_eq_ok.mp h
      obtain ⟨hs₁, hl₁⟩ := closeUdpSession_spec h₁
      obtain ⟨hs, hl⟩ := ih h
      refine ⟨hs₁.trans hs, fun port => ?_⟩
      rw [hl, hl₁]
      by_cases hp : port = localPort <;> simp [hp]

theorem expireUdpSessions_spec (h : rt.expireUdpSessions = .ok rt') :
    SameGroups rt rt' ∧
      ∀ port se, rt'.udpSessions.lookup port = some se → ¬ rt.idle se := by
  simp only [expireUdpSessions] at h
  obtain ⟨rt₁, h₁, h⟩ := Outcome.bind_eq_ok.mp h
  obtain ⟨hs, hl⟩ := closeUdpSessions_spec h₁
  cases h
  refine ⟨hs.trans (.of_shared rfl rfl rfl), fun port se hse hi => ?_⟩
  have hse' : rt₁.udpSessions.lookup port = some se := hse
  rw [hl] at hse'
  split_ifs at hse' with hp
  refine hp (List.mem_map.mpr ⟨⟨port, se⟩, ?_, rfl⟩)
  exact List.mem_filter.mpr ⟨AList.mem_lookup_iff.mp hse', decide_eq_true hi⟩

theorem processStateChange_timely (h : rt.processStateChange H true = .ok rt') :
    NoneOverdue rt' ∧ ∃ l, rt'.shared.replies = rt.shared.replies ++ l ∧
      ∀ i g, rt.dnsGroups.lookup i = some g → rt.overdue g → ∀ r ∈ g.requesters,
        r ∈ rt.shared.closedReceivers ∨ 0 < dnsAnswers l r := by
  simp only [processStateChange, if_true] at h
  obtain ⟨rt₁, h₁, h⟩ := Outcome.bind_eq_ok.mp h
  obtain ⟨rt₂, h₂, h⟩ := Outcome.bind_eq_ok.mp h
  obtain ⟨rt₃, h₃, h⟩ := Outcome.bind_eq_ok.mp h
  have hs := ((SameTimers.notifyReadyWaiters h₁).serving.trans (.processDnsResponses h₂)).trans
    (.processUdpResponses h₃)
  obtain ⟨hn, ht, hc⟩ := expireAll_same rt₃ rt₃.timedOut
  obtain ⟨hu, hidle⟩ := expireUdpSessions_spec h
  constructor
  · constructor
    · intro i g hg ho
      rw [hu.groups, expireDnsGroups_eq, expireAll_groups] at hg
      split_ifs at hg with hi
      rw [overdue, hu.now, expireDnsGroups_eq, hn] at ho
      exact hi (mem_timedOut.mpr ⟨g, hg, ho⟩)
    · intro port se hse hi
      rw [idle, hu.now, hu.tunables] at hi
      exact hidle port se hse hi
  · obtain ⟨l₁, hl₁, htold₁⟩ := hs.replies
    obtain ⟨l₂, hl₂, htold₂⟩ := expireDnsGroups_told rt₃
    obtain ⟨l₃, hl₃⟩ := hu.replies
    refine ⟨l₁ ++ l₂ ++ l₃, by simp only [hl₃, hl₂, hl₁, List.append_assoc], ?_⟩
    intro i g hg ho r hr
    rw [dnsAnswers_append, dnsAnswers_append]
    rcases htold₁ i g hg r hr with hcl | ha | ⟨g', hg', hcr, hr'⟩
    · exact .inl hcl
    · exact .inr (by omega)
    · have ho' : rt₃.overdue g' := by
        rw [overdue, hs.now, hcr]
        exact ho
      rcases htold₂ i g' hg' ho' r hr' with hcl | ha
      · exact .inl (hs.closed ▸ hcl)
      · exact .inr (by omega)

theorem pollStack_cases {fullTcpSweep : Bool} {outcome : StackPollOutcome} {stack : NetworkStack S}
    (hp : rt.stack.pollBounded rt.shared.now rt.tunables.stackIngressBudget = .ok (outcome, stack))
    (h : rt.pollStack H fullTcpSweep = .ok (some rt')) :
    ∃ rt₁, ({ rt with stack }).processStateChange H outcome.socketStateChanged = .ok rt₁ ∧
      SameTimers rt₁ rt' := by
  obtain ⟨result, hr, h⟩ := Outcome.bind_eq_ok.mp h
  simp only [pollStackCommon, hp] at hr
  obtain ⟨rt₁, h₁, hr⟩ := Outcome.bind_eq_ok.mp hr
  cases hr
  refine ⟨rt₁, h₁, ?_⟩
  split at h
  · cases h
  · next heq =>
      obtain ⟨_, rfl⟩ := PollResult.polled.inj heq
      cases h
      exact .refl _
  · next heq =>
      obtain ⟨_, rfl⟩ := PollResult.polled.inj heq
      obtain ⟨rt₂, h₂, h⟩ := Outcome.bind_eq_ok.mp h
      cases h
      exact .pollTcpSockets h₂

theorem timely_of_changed {fullTcpSweep : Bool} {outcome : StackPollOutcome}
    {stack : NetworkStack S}
    (hp : rt.stack.pollBounded rt.shared.now rt.tunables.stackIngressBudget = .ok (outcome, stack))
    (h : rt.pollStack H fullTcpSweep = .ok (some rt')) (hc : outcome.socketStateChanged = true) :
    Timely rt rt' := by
  obtain ⟨rt₁, h₁, hs⟩ := pollStack_cases hp h
  rw [hc] at h₁
  obtain ⟨hn, l, hl, htold⟩ := processStateChange_timely h₁
  obtain ⟨l', hl'⟩ := hs.replies
  refine ⟨hn.carry hs, fun i g hg ho r hr => (htold i g hg ho r hr).imp_right fun ha => ?_⟩
  rw [hl', hl, List.append_assoc, List.drop_left, dnsAnswers_append]
  omega

theorem sameTimers_of_unchanged {fullTcpSweep : Bool} {outcome : StackPollOutcome}
    {stack : NetworkStack S}
    (hp : rt.stack.pollBounded rt.shared.now rt.tunables.stackIngressBudget = .ok (outcome, stack))
    (h : rt.pollStack H fullTcpSweep = .ok (some rt')) (hc : outcome.socketStateChanged = false) :
    SameTimers rt rt' := by
  obtain ⟨rt₁, h₁, hs⟩ := pollStack_cases hp h
  rw [hc] at h₁
  cases h₁
  have hstack : SameTimers rt { rt with stack } := .of_shared rfl rfl rfl rfl
  exact hstack.trans hs

theorem timely_iff (rt rt' : RuntimeState S) (fullTcpSweep : Bool) (outcome : StackPollOutcome)
    (stack : NetworkStack S)
    (hp : rt.stack.pollBounded rt.shared.now rt.tunables.stackIngressBudget = .ok (outcome, stack))
    (h : rt.pollStack H fullTcpSweep = .ok (some rt')) :
    Timely rt rt' ↔ outcome.socketStateChanged = true ∨ NoneOverdue rt := by
  by_cases hc : outcome.socketStateChanged = true
  · simp only [hc, true_or, iff_true]
    exact timely_of_changed hp h hc
  · have hs := sameTimers_of_unchanged hp h (Bool.eq_false_iff.mpr hc)
    constructor
    · intro ht
      refine .inr ⟨fun i g hg ho => ?_, fun port se hse hi => ?_⟩
      · rw [← hs.groups] at hg
        refine ht.groups i g hg ?_
        rwa [overdue, hs.now]
      · rw [← hs.sessions] at hse
        refine ht.sessions port se hse ?_
        rwa [idle, hs.now, hs.tunables]
    · rintro (h' | hn)
      · exact absurd h' hc
      · exact ⟨hn.carry hs, fun i g hg ho => absurd ho (hn.groups i g hg)⟩

end RuntimeState

namespace Script

def resolving : List Label :=
  establish ++ handle (.dnsResolveAll "example.com" 0) ++
    [refresh, .manager (.checkAlive true), .manager .pollTimer]

def unanswered : List Label :=
  resolving ++ [.manager .advance] ++ sweepAndSend ++
    [.tick (secs 6), .manager (.checkAlive true), .manager .pollTimer]

def runDns (labels : List Label) : Option Reached :=
  Run.exec (System.step Reference.hickory) (System.init Reference.smoltcp params) labels

theorem exists_polled {labels : List Label} {p : Reached → RuntimeState Reference.smoltcp → Bool}
    (h : (runDns labels).any (fun s =>
      match s.rt.pollStack Reference.hickory true with
      | .ok (some rt') => p s rt'
      | _ => false) = true) :
    ∃ s rt', System.Reachable Reference.hickory params s ∧
      s.rt.pollStack Reference.hickory true = .ok (some rt') ∧ p s rt' = true := by
  obtain ⟨s, hs, hp⟩ := (Option.any_eq_true _ _).mp h
  split at hp
  · next rt' hr => exact ⟨s, rt', Run.exec_reaches hs, hr, hp⟩
  · cases hp

end Script

namespace RuntimeState

theorem timely_iff_sending : ∃ rt rt' : RuntimeState Reference.smoltcp, ∃ outcome stack,
    rt.stack.pollBounded rt.shared.now rt.tunables.stackIngressBudget = .ok (outcome, stack) ∧
      rt.pollStack Reference.hickory true = .ok (some rt') ∧
      (Timely rt rt' ↔ outcome.socketStateChanged = true ∨ NoneOverdue rt) := by
  have h : (Script.runDns Script.resolving).any (fun s =>
      match s.rt.pollStack Reference.hickory true with
      | .ok (some _) => true
      | _ => false) = true := by decide +kernel
  obtain ⟨s, rt', _, hr, _⟩ := Script.exists_polled (p := fun _ _ => true) h
  cases hp : s.rt.stack.pollBounded s.rt.shared.now s.rt.tunables.stackIngressBudget with
  | error e =>
      simp only [pollStack, pollStackCommon, hp] at hr
      cases hr
  | ok result =>
      obtain ⟨outcome, stack⟩ := result
      exact ⟨s.rt, rt', outcome, stack, hp, hr, timely_iff s.rt rt' true outcome stack hp hr⟩

-- The server never answers and nothing else moves: the poll after six seconds expires no group.
theorem unanswered_not_timely : ∃ (s : Script.Reached) (rt' : RuntimeState Reference.smoltcp),
    System.Reachable Reference.hickory Script.params s ∧ s.pc = .poll true false ∧
      s.rt.pollStack Reference.hickory true = .ok (some rt') ∧ ¬ Timely s.rt rt' := by
  have h : (Script.runDns Script.unanswered).any (fun s =>
      match s.rt.pollStack Reference.hickory true with
      | .ok (some rt') => decide (s.pc = .poll true false) &&
          (rt'.dnsGroups.lookup 1).any (fun g => rt'.overdue g)
      | _ => false) = true := by decide +kernel
  obtain ⟨s, rt', hs, hr, hp⟩ := Script.exists_polled
    (p := fun s rt' => decide (s.pc = .poll true false) &&
      (rt'.dnsGroups.lookup 1).any (fun g => rt'.overdue g)) h
  simp only [Bool.and_eq_true, decide_eq_true_eq, Option.any_eq_true] at hp
  obtain ⟨hpc, group, hl, ho⟩ := hp
  exact ⟨s, rt', hs, hpc, hr, fun ht => ht.groups 1 group hl ho⟩

end RuntimeState

end Usque
