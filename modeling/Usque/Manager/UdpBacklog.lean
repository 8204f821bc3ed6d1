import Usque.Manager.UdpDelivery
import Usque.Manager.UdpSessions

namespace Usque

variable {S : Smoltcp} {received : S.UdpSocket → List (List UInt8 × IpEndpoint)}
  {H : Hickory} {rt rt' rt'' : RuntimeState S}

namespace RuntimeState

theorem closeUdpSession_feed (received : S.UdpSocket → List (List UInt8 × IpEndpoint))
    (hs : Slotted rt) {localPort : UInt16}
    (h : rt.closeUdpSession localPort = .ok rt') :
    rt'.shared.udpChannels = rt.shared.udpChannels ∧ ∀ p, rt'.feed received p =
      if p = localPort then none else rt.feed received p := by
  simp only [closeUdpSession] at h
  cases hl : rt.udpSessions.lookup localPort with
  | none =>
      rw [hl] at h
      cases h
      refine ⟨rfl, fun p => ?_⟩
      split_ifs with hp
      · exact feed_none (hp ▸ hl)
      · rfl
  | some se =>
      rw [hl] at h
      obtain ⟨stack, hst, h⟩ := Outcome.bind_eq_ok.mp h
      cases h
      refine ⟨rfl, fun p => ?_⟩
      split_ifs with hp
      · exact feed_none (by rw [Table.lookup_erase, if_pos hp])
      · cases hl' : rt.udpSessions.lookup p with
        | none =>
            rw [feed_none hl']
            exact feed_none (by rw [Table.lookup_erase, if_neg hp, hl'])
        | some se' =>
            have hk : stack.udp? se'.handle = rt.stack.udp? se'.handle :=
              NetworkStack.removeSocket_udp? hst _ (session_handle_ne hs hl hl' hp)
            rw [feed_some hl', feed_some (by rw [Table.lookup_erase, if_neg hp, hl'])]
            simp only [NetworkStack.receivedAt, hk]

theorem closeUdpSessions_feed (received : S.UdpSocket → List (List UInt8 × IpEndpoint))
    (hs : Slotted rt) {ports : List UInt16}
    (h : Outcome.run closeUdpSession rt ports = .ok rt') :
    rt'.shared.udpChannels = rt.shared.udpChannels ∧ ∀ p, rt'.feed received p =
      if p ∈ ports then none else rt.feed received p := by
  induction ports generalizing rt with
  | nil =>
      cases h
      exact ⟨rfl, fun p => by simp⟩
  | cons localPort ports ih =>
      obtain ⟨rt₁, h₁, h⟩ := Outcome.bind_eq_ok.mp h
      obtain ⟨hc₁, hf₁⟩ := closeUdpSession_feed received hs h₁
      obtain ⟨hc, hf⟩ := ih (closeUdpSession_slotted hs h₁) h
      refine ⟨hc.trans hc₁, fun p => ?_⟩
      rw [hf, hf₁]
      by_cases hp : p = localPort <;> simp [hp]

def stale (rt : RuntimeState S) (f : Feed) : Bool :=
  decide (rt.shared.now - f.lastActivity > rt.tunables.udpSessionTimeout)

theorem expireUdpSessions_feed (received : S.UdpSocket → List (List UInt8 × IpEndpoint))
    (hs : Slotted rt) (h : rt.expireUdpSessions = .ok rt') :
    rt'.shared.udpChannels = rt.shared.udpChannels ∧ ∀ p, rt'.feed received p =
      (rt.feed received p).filter (fun f => !rt.stale f) := by
  obtain ⟨rt₁, h₁, h⟩ := Outcome.bind_eq_ok.mp h
  obtain ⟨hc, hf⟩ := closeUdpSessions_feed received hs h₁
  cases h
  refine ⟨hc, fun p => (hf p).trans ?_⟩
  cases hl : rt.udpSessions.lookup p with
  | none => rw [feed_none hl, Option.filter_none, ite_self]
  | some se =>
      rw [feed_some hl]
      split_ifs with hp
      · obtain ⟨⟨_, se'⟩, hmem, rfl⟩ := List.mem_map.mp hp
        obtain ⟨hentry, hidle⟩ := List.mem_filter.mp hmem
        have he := (AList.mem_lookup_iff.mpr hentry).symm.trans hl
        cases he
        simp only [stale, Option.filter_some, hidle, Bool.not_true, Bool.false_eq_true, if_false]
      · have hidle : ¬ rt.idle se := fun hi => hp (List.mem_map.mpr ⟨⟨p, se⟩,
          List.mem_filter.mpr ⟨AList.mem_lookup_iff.mp hl, decide_eq_true hi⟩, rfl⟩)
        have hstale : decide (rt.shared.now - se.lastActivity > rt.tunables.udpSessionTimeout) =
          false := decide_eq_false hidle
        simp only [stale, Option.filter_some, hstale, Bool.not_false, if_true]

-- What delivery leaves of a session whose port stands this often in udp_ports.
def visited (rt : RuntimeState S) (port : UInt16) : Feed → Feed :=
  (Feed.visit rt.shared.now rt.tunables.udpRecvBufferSize)^[rt.udpPorts.count port]

structure Drains (received : S.UdpSocket → List (List UInt8 × IpEndpoint))
    (rt rt' : RuntimeState S) : Prop where
  sessions : ∀ p, rt'.feed received p =
    ((rt.feed received p).map (rt.visited p)).filter (fun f => !rt.stale f)
  channels : ∀ p se, rt.udpSessions.lookup p = some se →
    rt'.shared.udpChannels se.toClient = (rt.visited p ⟨rt.stack.receivedAt received se.handle,
      rt.shared.udpChannels se.toClient, se.lastActivity⟩).channel

theorem channel_of_feed (received : S.UdpSocket → List (List UInt8 × IpEndpoint)) {port : UInt16}
    {se : UdpSessionState} {g : Feed}
    (htable : rt'.udpTable = rt.udpTable) (hl : rt.udpSessions.lookup port = some se)
    (hg : rt'.feed received port = some g) :
    rt'.shared.udpChannels se.toClient = g.channel := by
  have hr : (rt'.udpSessions.lookup port).map (fun se => (se.handle, se.toClient)) =
      some (se.handle, se.toClient) := by
    have h := congrFun (congrArg UdpTable.sessions htable) port
    simpa only [udpTable, hl, Option.map_some] using h
  obtain ⟨se', hl', he⟩ := Option.map_eq_some_iff.mp hr
  rw [feed_some hl'] at hg
  cases hg
  rw [← (Prod.mk.inj he).2]

theorem processStateChange_drains (hS : S.KeepsSockets) (hR : S.ReceivesInOrder received)
    (hc : Consistent rt) (ht : rt.udpTable.Routed)
    (h : rt.processStateChange H true = .ok rt') : Drains received rt rt' := by
  simp only [processStateChange, if_true] at h
  obtain ⟨rt₁, h₁, h⟩ := Outcome.bind_eq_ok.mp h
  obtain ⟨rt₂, h₂, h⟩ := Outcome.bind_eq_ok.mp h
  obtain ⟨rt₃, h₃, h⟩ := Outcome.bind_eq_ok.mp h
  have hs₁ := ((notifyReadyWaiters_effects (R := Rules.any S) hS hc h₁).consistent hS hc).slotted
  have hs₂ := ((processDnsResponses_settles (P := .any) hS H hs₁).settled h₂).slotted
  have hbefore : Still rt rt₂ := (Still.notifyReadyWaiters h₁).trans (.processDnsResponses h₂)
  have htable₂ : rt₂.udpTable = rt.udpTable := by
    rw [processDnsResponses_udpTable hS h₂, notifyReadyWaiters_udpTable h₁]
  have hd := processUdpResponses_delivers hS hR hs₂ (htable₂.symm ▸ ht) h₃
  have hafter := Still.expireDnsGroups rt₃
  have hs₄ := (expireDnsGroups_settled (P := .any) hd.slotted).slotted
  obtain ⟨hchannels, hexpired⟩ := expireUdpSessions_feed received hs₄ h
  have hfeed : ∀ p, rt₃.expireDnsGroups.feed received p =
      (rt.feed received p).map (rt.visited p) := by
    intro p
    rw [feed_still hafter hd.slotted, hd.feed, feed_still hbefore hc.slotted, hbefore.now,
      hbefore.tunables,
      hbefore.ports]
    rfl
  constructor
  · intro p
    have hstale : rt₃.expireDnsGroups.stale = rt.stale := by
      funext f
      simp only [stale, hafter.now, hd.now, hbefore.now, hafter.tunables, hd.tunables,
        hbefore.tunables]
    rw [hexpired, hfeed, hstale]
  · intro p se hl
    have htable : rt₃.expireDnsGroups.udpTable = rt.udpTable := by
      rw [expireDnsGroups_udpTable, hd.table, htable₂]
    rw [hchannels]
    refine channel_of_feed received htable hl ?_
    rw [hfeed, feed_some hl, Option.map_some]

theorem Drains.still (h : Drains received rt rt') (hs : Slotted rt') (hst : Still rt' rt'') :
    Drains received rt rt'' where
  sessions := fun p => (feed_still hst hs p).trans (h.sessions p)
  channels := fun p se hl => by rw [hst.channels, h.channels p se hl]

theorem pollStack_drains (hS : S.KeepsSockets) (hR : S.ReceivesInOrder received)
    (hc : Consistent rt) (ht : rt.udpTable.Routed) {fullTcpSweep : Bool}
    {outcome : StackPollOutcome} {stack : NetworkStack S}
    (hp : rt.stack.pollBounded rt.shared.now rt.tunables.stackIngressBudget = .ok (outcome, stack))
    (hchanged : outcome.socketStateChanged = true)
    (h : rt.pollStack H fullTcpSweep = .ok (some rt')) :
    Drains received { rt with stack } rt' := by
  have heff : Effect (Rules.any S) rt { rt with stack } := .poll trivial hp
  have hc₁ := heff.consistent hS hc
  have htable : { rt with stack }.udpTable = rt.udpTable :=
    udpTable_setStack _ (NetworkStack.pollBounded_keeps hS hp).udpAt
  obtain ⟨result, hr, h⟩ := Outcome.bind_eq_ok.mp h
  simp only [pollStackCommon, hp, hchanged] at hr
  obtain ⟨rt₁, h₁, hr⟩ := Outcome.bind_eq_ok.mp hr
  cases hr
  have hd := processStateChange_drains hS hR hc₁ (htable.symm ▸ ht) h₁
  have hc₂ := (processStateChange_effects (R := Rules.any S) hS H trivial hc₁ h₁).consistent hS hc₁
  split at h
  · cases h
  · next heq =>
      obtain ⟨_, rfl⟩ := PollResult.polled.inj heq
      cases h
      exact hd
  · next heq =>
      obtain ⟨_, rfl⟩ := PollResult.polled.inj heq
      obtain ⟨rt₂, h₂, h⟩ := Outcome.bind_eq_ok.mp h
      cases h
      exact hd.still hc₂.slotted (.pollTcpSockets hS hc₂ h₂)

-- Nothing receivable is left in a session's socket, and of what was there only the channel, full or
-- closed, has refused anything.
structure Drained (received : S.UdpSocket → List (List UInt8 × IpEndpoint))
    (rt rt' : RuntimeState S) : Prop where
  empty : ∀ port se, rt'.udpSessions.lookup port = some se →
    rt'.stack.receivedAt received se.handle = []
  passedOn : ∀ port se, rt.udpSessions.lookup port = some se →
    rt'.shared.udpChannels se.toClient =
      ((rt.stack.receivedAt received se.handle).map clientItem).foldl UdpChannel.trySend
        (rt.shared.udpChannels se.toClient)

-- One visit for each time the port stands in udp_ports is enough for what the socket holds.
def OneVisitEnough (received : S.UdpSocket → List (List UInt8 × IpEndpoint))
    (rt : RuntimeState S) (port : UInt16) (se : UdpSessionState) : Prop :=
  let held := rt.stack.receivedAt received se.handle
  let room := (rt.shared.udpChannels se.toClient).room
  let visits := rt.udpPorts.count port
  (∀ d ∈ held.take room, deliverable rt.tunables.udpRecvBufferSize d = true) ∧
    (held.length ≤ visits ∨ room = 0 ∧ rt.idle se ∧
      ∀ d ∈ held.take visits, deliverable rt.tunables.udpRecvBufferSize d = false)

theorem empty_iff {port : UInt16} :
    (∀ se, rt.udpSessions.lookup port = some se → rt.stack.receivedAt received se.handle = []) ↔
      ∀ f ∈ rt.feed received port, f.queue = [] := by
  cases hl : rt.udpSessions.lookup port with
  | none =>
      rw [feed_none hl]
      exact iff_of_true nofun nofun
  | some se =>
      rw [feed_some hl]
      simp

theorem Drains.channel_iff (h : Drains received rt rt') {port : UInt16} {se : UdpSessionState}
    (hl : rt.udpSessions.lookup port = some se) :
    rt'.shared.udpChannels se.toClient =
        ((rt.stack.receivedAt received se.handle).map clientItem).foldl UdpChannel.trySend
          (rt.shared.udpChannels se.toClient) ↔
      (∀ d ∈ (rt.stack.receivedAt received se.handle).take
          (rt.shared.udpChannels se.toClient).room,
        deliverable rt.tunables.udpRecvBufferSize d = true) ∧
      min (rt.shared.udpChannels se.toClient).room
          (rt.stack.receivedAt received se.handle).length ≤ rt.udpPorts.count port := by
  rw [h.channels port se hl, visited, Feed.visits_channel, foldl_trySend, foldl_trySend]
  rw [← map_take_filter_iff clientItem_injective]
  simp only [UdpChannel.mk.injEq, List.append_cancel_left_eq, and_true]

theorem visited_stale {port : UInt16} {f : Feed} :
    rt.stale (rt.visited port f) = true ↔
      rt.stale f = true ∧ ∀ d ∈ f.queue.take (rt.udpPorts.count port),
        deliverable rt.tunables.udpRecvBufferSize d = false := by
  simp only [stale, visited, Feed.visits_lastActivity, decide_eq_true_eq]
  split_ifs with hany
  · rw [Nat.sub_self]
    refine iff_of_false (Nat.not_lt_zero _) (fun ⟨_, hnone⟩ => ?_)
    obtain ⟨d, hd, hyes⟩ := List.any_eq_true.mp hany
    rw [hnone d hd] at hyes
    cases hyes
  · refine (and_iff_left (fun d hd => ?_)).symm
    exact Bool.eq_false_iff.mpr (fun hyes => hany (List.any_eq_true.mpr ⟨d, hd, hyes⟩))

theorem Drains.empty_iff (h : Drains received rt rt') {port : UInt16} {se : UdpSessionState}
    (hl : rt.udpSessions.lookup port = some se) :
    (∀ f ∈ rt'.feed received port, f.queue = []) ↔
      (rt.stack.receivedAt received se.handle).length ≤ rt.udpPorts.count port ∨
      rt.idle se ∧ ∀ d ∈ (rt.stack.receivedAt received se.handle).take (rt.udpPorts.count port),
        deliverable rt.tunables.udpRecvBufferSize d = false := by
  rw [h.sessions, feed_some hl, Option.map_some, Option.filter_some]
  have hqueue : ∀ held channel lastActivity,
      (rt.visited port ⟨held, channel, lastActivity⟩).queue = [] ↔
        held.length ≤ rt.udpPorts.count port := by
    intro held channel lastActivity
    rw [visited, Feed.visits_queue, List.drop_eq_nil_iff]
  have hidle : ∀ queue channel,
      rt.stale ⟨queue, channel, se.lastActivity⟩ = true ↔ rt.idle se :=
    fun _ _ => decide_eq_true_iff
  split_ifs with hstale
  · have hkept := visited_stale.not.mp (fun hs => by rw [hs] at hstale; cases hstale)
    rw [hidle] at hkept
    rw [or_iff_left hkept, ← hqueue]
    exact ⟨fun hall => hall _ rfl, fun he f hf => (Option.some.inj hf) ▸ he⟩
  · refine iff_of_true nofun (.inr ?_)
    rw [Bool.not_eq_true, Bool.not_eq_false_eq_eq_true] at hstale
    have hgone := visited_stale.mp hstale
    exact ⟨(hidle _ _).mp hgone.1, hgone.2⟩

theorem mem_take_head {α : Type} {d : α} {ds : List α} {n : Nat} (hn : 0 < n) :
    d ∈ (d :: ds).take n := by
  obtain ⟨m, rfl⟩ := Nat.exists_eq_add_of_lt hn
  rw [Nat.zero_add, List.take_succ_cons]
  exact List.mem_cons_self

theorem Drains.session_iff (h : Drains received rt rt') {port : UInt16} {se : UdpSessionState}
    (hl : rt.udpSessions.lookup port = some se) :
    (∀ f ∈ rt'.feed received port, f.queue = []) ∧
        rt'.shared.udpChannels se.toClient =
          ((rt.stack.receivedAt received se.handle).map clientItem).foldl UdpChannel.trySend
            (rt.shared.udpChannels se.toClient) ↔
      rt.OneVisitEnough received port se := by
  rw [h.empty_iff hl, h.channel_iff hl]
  simp only [OneVisitEnough]
  generalize rt.stack.receivedAt received se.handle = held
  generalize (rt.shared.udpChannels se.toClient).room = room
  generalize rt.udpPorts.count port = visits
  constructor
  · rintro ⟨hread, hroom, hvisits⟩
    refine ⟨hroom, ?_⟩
    by_cases hlen : held.length ≤ visits
    · exact .inl hlen
    · obtain ⟨hidle, hnone⟩ := hread.resolve_left hlen
      refine .inr ⟨?_, hidle, hnone⟩
      by_contra hpos
      -- The first datagram would have to be passed on and not to be.
      cases held with
      | nil => exact hlen (Nat.zero_le _)
      | cons d ds =>
          have hv : 0 < visits := by
            simp only [List.length_cons] at hvisits
            omega
          have hd : deliverable rt.tunables.udpRecvBufferSize d = true :=
            hroom d (mem_take_head (Nat.pos_of_ne_zero hpos))
          rw [hnone d (mem_take_head hv)] at hd
          cases hd
  · rintro ⟨hroom, hlen | ⟨hfull, hidle, hnone⟩⟩
    · exact ⟨.inl hlen, hroom, Nat.le_trans (Nat.min_le_right _ _) hlen⟩
    · exact ⟨.inr ⟨hidle, hnone⟩, hroom, by rw [hfull, Nat.zero_min]; exact Nat.zero_le _⟩

theorem Drains.drained_iff (h : Drains received rt rt') :
    Drained received rt rt' ↔
      ∀ port se, rt.udpSessions.lookup port = some se → rt.OneVisitEnough received port se := by
  constructor
  · intro hd port se hl
    exact (h.session_iff hl).mp ⟨RuntimeState.empty_iff.mp (hd.empty port), hd.passedOn port se hl⟩
  · intro hall
    refine ⟨fun port => RuntimeState.empty_iff.mpr ?_, fun port se hl => ?_⟩
    · cases hl : rt.udpSessions.lookup port with
      | none =>
          rw [h.sessions, feed_none hl]
          nofun
      | some se => exact ((h.session_iff hl).mpr (hall port se hl)).1
    · exact ((h.session_iff hl).mpr (hall port se hl)).2

end RuntimeState

namespace System

variable {params : ConnectionParams} {s : System S}

theorem Reachable.routed (hS : S.KeepsSockets) (h : Reachable H params s) :
    s.rt.udpTable.Routed := by
  refine (Run.Reaches.invariant (I := fun s => Sound s ∧ s.rt.udpTable.Routed)
    (fun s l t ⟨hs, ht⟩ _ hst => ?_) h ⟨init_sound params, nofun, nofun⟩).2
  obtain ⟨op, hop⟩ := step_udpStep hS hs hst
  refine ⟨step_sound hS hs hst, ?_⟩
  rw [hop.table]
  exact ht.apply op

theorem poll_drains_udp_iff (hS : S.KeepsSockets) (hR : S.ReceivesInOrder received)
    (hr : Reachable H params s) {fullTcpSweep : Bool} {outcome : StackPollOutcome}
    {stack : NetworkStack S}
    (hp : s.rt.stack.pollBounded s.rt.shared.now s.rt.tunables.stackIngressBudget =
      .ok (outcome, stack))
    (hchanged : outcome.socketStateChanged = true)
    (h : s.rt.pollStack H fullTcpSweep = .ok (some rt')) :
    RuntimeState.Drained received { s.rt with stack } rt' ↔
      ∀ port se, s.rt.udpSessions.lookup port = some se →
        RuntimeState.OneVisitEnough received { s.rt with stack } port se :=
  (RuntimeState.pollStack_drains hS hR (hr.sound hS).consistent (hr.routed hS) hp hchanged
    h).drained_iff

-- A session on port 6000, and these datagrams for it in the device when the poll begins.
def arriving (payloads : List (List UInt8)) : List Label :=
  Script.establish ++ registerOn 6000 0 ++
    payloads.flatMap (fun payload => Script.receive
      (Reference.ipv4Datagram Script.remote 0x0a000002#32 53 6000 payload) ++ [Script.refresh]) ++
    [.manager (.checkAlive true), .manager .pollTimer]

-- What a poll after these steps leaves in the socket and in the channel of the session.
def polled (labels : List Label) : Option (System Reference.datagrams × StackPollOutcome ×
    NetworkStack Reference.datagrams × RuntimeState Reference.datagrams) := do
  let s ← Run.exec (step Script.hickory) (init Reference.datagrams Script.params) labels
  let (outcome, stack) ←
    (s.rt.stack.pollBounded s.rt.shared.now s.rt.tunables.stackIngressBudget).toOption
  let rt ← (s.rt.pollStack Script.hickory true).toOption
  rt.map (fun rt => (s, outcome, stack, rt))

theorem exists_polled {labels : List Label} {p : System Reference.datagrams → StackPollOutcome →
    RuntimeState Reference.datagrams → Bool}
    (h : (polled labels).any (fun r => p r.1 r.2.1 r.2.2.2) = true) :
    ∃ s outcome stack rt', Reachable Script.hickory Script.params s ∧
      s.rt.stack.pollBounded s.rt.shared.now s.rt.tunables.stackIngressBudget =
        .ok (outcome, stack) ∧
      s.rt.pollStack Script.hickory true = .ok (some rt') ∧ p s outcome rt' = true := by
  obtain ⟨⟨s, outcome, stack, rt'⟩, hr, hp⟩ := (Option.any_eq_true _ _).mp h
  simp only [polled, Option.bind_eq_bind, Option.bind_eq_some_iff] at hr
  obtain ⟨s', hs, result, hpoll, rt, hrt, hr⟩ := hr
  obtain ⟨rt₁, rfl, he⟩ := Option.map_eq_some_iff.mp hr
  cases he
  exact ⟨_, _, _, _, Run.exec_reaches hs, Outcome.toOption_eq_some.mp hpoll,
    Outcome.toOption_eq_some.mp hrt, hp⟩

theorem poll_drains_udp_iff_arriving :
    ∃ (s : System Reference.datagrams) (stack : NetworkStack Reference.datagrams)
      (rt' : RuntimeState Reference.datagrams),
      (rt'.feed Reference.Udp.rx 6000).map (·.channel.queue) =
        some [(.ipv4 Script.remote, 53, [7])] ∧
      (RuntimeState.Drained Reference.Udp.rx { s.rt with stack } rt' ↔
        ∀ port se, s.rt.udpSessions.lookup port = some se →
          RuntimeState.OneVisitEnough Reference.Udp.rx { s.rt with stack } port se) := by
  have h : (polled (arriving [[7]])).any (fun r => r.2.1.socketStateChanged &&
      decide ((r.2.2.2.feed Reference.Udp.rx 6000).map (·.channel.queue) =
        some [(.ipv4 Script.remote, 53, [7])])) = true := by
    decide +kernel
  obtain ⟨s, outcome, stack, rt', hs, hp, hr, hq⟩ := exists_polled (p := fun _ outcome rt' =>
    outcome.socketStateChanged && decide ((rt'.feed Reference.Udp.rx 6000).map (·.channel.queue) =
      some [(.ipv4 Script.remote, 53, [7])])) h
  obtain ⟨hchanged, hq⟩ := Bool.and_eq_true_iff.mp hq
  exact ⟨s, stack, rt', of_decide_eq_true hq,
    poll_drains_udp_iff Reference.datagrams_keepsSockets Reference.datagrams_receivesInOrder hs hp
      hchanged hr⟩

-- Two datagrams arrive for one session: the poll passes the first on and leaves the second.
theorem second_datagram_stays : ∃ (s : System Reference.datagrams) (outcome : StackPollOutcome)
    (stack : NetworkStack Reference.datagrams) (rt' : RuntimeState Reference.datagrams),
    Reachable Script.hickory Script.params s ∧ s.pc = .poll true false ∧
      s.rt.stack.pollBounded s.rt.shared.now s.rt.tunables.stackIngressBudget =
        .ok (outcome, stack) ∧
      outcome.socketStateChanged = true ∧
      s.rt.pollStack Script.hickory true = .ok (some rt') ∧
      rt'.feed Reference.Udp.rx 6000 = some ⟨[([8], ⟨.ipv4 Script.remote, 53⟩)],
        { queue := [(.ipv4 Script.remote, 53, [7])], closed := false }, 0⟩ ∧
      ¬ RuntimeState.Drained Reference.Udp.rx { s.rt with stack } rt' := by
  have h : (polled (arriving [[7], [8]])).any (fun r => decide (r.1.pc = .poll true false ∧
      r.2.1.socketStateChanged = true ∧
      r.2.2.2.feed Reference.Udp.rx 6000 = some ⟨[([8], ⟨.ipv4 Script.remote, 53⟩)],
        { queue := [(.ipv4 Script.remote, 53, [7])], closed := false }, 0⟩)) = true := by
    decide +kernel
  obtain ⟨s, outcome, stack, rt', hs, hp, hr, hq⟩ := exists_polled (p := fun s outcome rt' =>
    decide (s.pc = .poll true false ∧ outcome.socketStateChanged = true ∧
      rt'.feed Reference.Udp.rx 6000 = some ⟨[([8], ⟨.ipv4 Script.remote, 53⟩)],
        { queue := [(.ipv4 Script.remote, 53, [7])], closed := false }, 0⟩)) h
  obtain ⟨hpc, hchanged, hfeed⟩ := of_decide_eq_true hq
  refine ⟨s, outcome, stack, rt', hs, hpc, hp, hchanged, hr, hfeed, fun hd => ?_⟩
  have hempty := RuntimeState.empty_iff.mp (hd.empty 6000) _ hfeed
  cases hempty

end System

end Usque
