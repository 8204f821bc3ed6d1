import Usque.Manager.Signals

namespace Usque

variable {S : Smoltcp} {R : Rules S} {a b rt rt' : RuntimeState S}

namespace RuntimeState

def released (c : SocketStreamHandle) : Prop :=
  c.socketClosed = true ∧ c.readClosed = true ∧ c.writeClosed = true

def Accounted (rt : RuntimeState S) (x : StreamId) : Prop :=
  (∃ h, rt.owner h = some x) ∨ released (rt.stream x)

-- While a tunnel is up, a stream keeps its entry in `sockets` until a sweep has closed it.
structure Accounts (a b : RuntimeState S) : Prop where
  session : b.session = a.session
  next : a.shared.nextStream ≤ b.shared.nextStream
  signals : StreamSignals a b
  born : ∀ x, a.shared.nextStream ≤ x → x < b.shared.nextStream →
    (b.stream x).socketNotifier = b.session ∧ Accounted b x
  kept : ∀ x < a.shared.nextStream, Accounted a x → Accounted b x

namespace Accounts

theorem refl (rt : RuntimeState S) : Accounts rt rt where
  session := rfl
  next := Nat.le_refl _
  signals := streamSignals_same (fun _ => rfl)
  born := fun _ hle hlt => absurd hlt (Nat.not_lt.mpr hle)
  kept := fun _ _ h => h

theorem trans (h : Accounts a b) (k : Accounts b rt) : Accounts a rt where
  session := k.session.trans h.session
  next := h.next.trans k.next
  signals := h.signals.trans k.signals h.next
  born := fun x hle hlt => by
    rcases Nat.lt_or_ge x b.shared.nextStream with hb | hb
    · obtain ⟨hn, hx⟩ := h.born x hle hb
      refine ⟨?_, k.kept x hb hx⟩
      rw [(k.signals.signals hb).notifier, hn, k.session]
    · exact k.born x hb hlt
  kept := fun x hx ha => k.kept x (Nat.lt_of_lt_of_le hx h.next) (h.kept x hx ha)

theorem aside {P : Policy} (h : Aside P a b) : Accounts a b where
  session := h.session
  next := Nat.le_of_eq h.nextStream.symm
  signals := streamSignals_same h.stream
  born := fun x hle hlt => absurd (h.nextStream ▸ hlt) (Nat.not_lt.mpr hle)
  kept := fun x _ hx => by
    rcases hx with ⟨i, hi⟩ | hr
    · refine .inl ⟨i, ?_⟩
      rw [owner, h.sockets]
      exact hi
    · right
      rwa [h.stream]

theorem settles {P : Policy} {o : Outcome (RuntimeState S)} (h : Settles P a o) (ho : o = .ok b) :
    Accounts a b := aside (h.settled ho).aside

end Accounts

end RuntimeState

theorem Signals.released {c c' : SocketStreamHandle} (h : Signals c c')
    (hc : RuntimeState.released c) : RuntimeState.released c' :=
  ⟨h.socketClosed hc.1, h.readClosed hc.2.1, h.writeClosed hc.2.2⟩

section effect

open RuntimeState

theorem Effect.session (hf : ¬ R.free) (h : Effect R rt rt') : rt'.session = rt.session := by
  cases h with
  | aside h => exact h.aside.session
  | openTcp reservedSlot _ _ h =>
      rw [insertConnection_eq]
      simp only [finishReserved]
      split <;> rfl
  | requestClose hl h =>
      obtain ⟨replies, he⟩ := closeConnection_eq hl
      rw [he] at h
      cases h
      rw [putStream_eq]
      rfl
  | waiters hl _ => rfl
  | @event e es h =>
      cases hl : rt.sockets.lookup e.handle with
      | none =>
          rw [handleSocketEvent_none { rt with socketEvents := es } hl]
          simp only [enqueueReadyTcpHandle]
          split <;> rfl
      | some st =>
          rw [handleSocketEvent_some { rt with socketEvents := es } hl]
          simp only [enqueueReadyTcpHandle]
          split <;> rfl
  | incoming h =>
      obtain ⟨stack, _, h⟩ := Outcome.bind_eq_ok.mp h
      cases h
      simp only [noteIncomingTcpHandle]
      split
      · rfl
      · simp only [markReadyTcpHandle, enqueueReadyTcpHandle]
        split <;> rfl
  | poll _ h => rfl
  | egress h => rfl
  | select _ fullSweep => cases fullSweep <;> rfl
  | service _ fullSweep hl h =>
      obtain ⟨v, _, rfl⟩ := serviceSocket_ok h
      rfl
  | release _ hfree _ _ => exact absurd hfree hf
  | client _ _ _ =>
      rw [putStream_eq]
      rfl
  | reset hfree => exact absurd hfree hf

theorem Effects.session (hS : S.KeepsSockets) (hf : ¬ R.free) (h : Effects R rt rt')
    (hc : Consistent rt) : rt'.session = rt.session :=
  (h.invariant (I := fun b => b.session = rt.session) hS
    (fun _ _ _ hi he => (he.session hf).trans hi) hc rfl).2

-- Effects that free no slot leave every owner where it is.
theorem Effects.owner_of_some (hS : S.KeepsSockets) (hf : ¬ R.free) (h : Effects R rt rt')
    (hc : Consistent rt) {i : SocketHandle} {x : StreamId} (ho : rt.owner i = some x) :
    rt'.owner i = some x := by
  have hturn := (h.slotSteps hS hc).owners i
  rw [ho] at hturn
  rcases hturn.of_some (fun hr => hf hr.2) with hk | ⟨hfree, _⟩
  · exact hk
  · exact absurd hfree hf

theorem Effects.accounts (hS : S.KeepsSockets) (hf : ¬ R.free)
    (hcl : ∀ x, R.client x → x < rt.shared.nextStream) (h : Effects R rt rt')
    (hc : Consistent rt) : Accounts rt rt' := by
  have hc' := h.consistent hS hc
  have hsig := h.signals hS hc
  constructor
  · exact h.session hS hf hc
  · exact h.nextStream_le hS hc
  · exact hsig
  · intro x hle hlt
    obtain ⟨rt₀, hc₀, heff, ho⟩ := (h.traced hS hcl hc).born x hle hlt
    have hown := heff.owner_of_some hS hf hc₀ ho
    obtain ⟨st, hl, rfl⟩ := owner_eq_some.mp hown
    exact ⟨hc'.tracked.notifier _ st hl, .inl ⟨_, hown⟩⟩
  · intro x hx ha
    rcases ha with ⟨i, hi⟩ | hr
    · exact .inl ⟨i, h.owner_of_some hS hf hc hi⟩
    · exact .inr ((hsig.signals hx).released hr)

end effect

namespace RuntimeState

-- Rules under which no slot is freed.
def quietRules (S : Smoltcp) : Rules S :=
  { Rules.any S with free := False, client := fun _ => False }

variable (hS : S.KeepsSockets)

include hS in
theorem quiet_accounts (h : Effects (quietRules S) rt rt') (hc : Consistent rt) :
    Accounts rt rt' :=
  Effects.accounts hS id (fun _ hx => False.elim hx) h hc

theorem owner_retire {handle : SocketHandle} (hr : Retired handle rt rt') (i : SocketHandle) :
    rt'.owner i = if i = handle then none else rt.owner i := by
  rw [owner, hr.lookup]
  split_ifs <;> rfl

theorem retire_stream {handle : SocketHandle} {st : SocketState}
    (hl : rt.sockets.lookup handle = some st) (h : rt.retire handle = .ok rt') :
    rt'.stream st.stream = closedStream (rt.stream st.stream) := by
  obtain ⟨rt₁, h₁, h⟩ := Outcome.bind_eq_ok.mp h
  cases h
  obtain ⟨stack, _, h₁⟩ := Outcome.bind_eq_ok.mp h₁
  cases h₁
  obtain ⟨replies, he⟩ := releaseSocket_some hl
  rw [he]
  exact (stream_setStream rt st.stream st.stream _).trans (if_pos rfl)

theorem retire_accounts (hc : Consistent rt) {handle : SocketHandle}
    (h : rt.retire handle = .ok rt') : Accounts rt rt' := by
  have hr := retire_retired hc h
  have hsig := retire_signals h
  constructor
  · exact hr.streams.session
  · exact Nat.le_of_eq hr.streams.nextStream.symm
  · exact hsig
  · intro x hle hlt
    exact absurd (hr.streams.nextStream ▸ hlt) (Nat.not_lt.mpr hle)
  · intro x hx ha
    rcases ha with ⟨i, hi⟩ | hrel
    · by_cases hh : i = handle
      · subst hh
        obtain ⟨st, hl, rfl⟩ := owner_eq_some.mp hi
        right
        rw [retire_stream hl h]
        exact ⟨rfl, rfl, rfl⟩
      · exact .inl ⟨i, by rw [owner_retire hr, if_neg hh, hi]⟩
    · exact .inr ((hsig.signals hx).released hrel)

theorem retireAll_accounts {closed : List SocketHandle} (hc : Consistent rt)
    (hu : ∀ h ∈ closed, rt.notUdp h) (h : Outcome.run retire rt closed = .ok rt') :
    Accounts rt rt' := by
  induction closed generalizing rt with
  | nil =>
      cases h
      exact .refl _
  | cons handle closed ih =>
      obtain ⟨rt₁, h₁, h⟩ := Outcome.bind_eq_ok.mp h
      have hr := retire_retired hc h₁
      have hc₁ : Consistent rt₁ :=
        ⟨hr.slotted hc.slotted (hu handle (List.mem_cons_self ..)), hr.tracked hc.tracked⟩
      refine (retire_accounts hc h₁).trans (ih hc₁ (fun i hi => ?_) h)
      have hk := hr.frees.kindAt i
      rcases hu i (List.mem_cons_of_mem _ hi) with hn | hn
      · refine .inl ?_
        rw [hk, hn, ite_self]
      · by_cases he : i = handle
        · exact .inl (by rw [hk, if_pos he])
        · exact .inr (by rw [hk, if_neg he, hn])

include hS in
theorem pollTcpSockets_accounts (hc : Consistent rt) {fullSweep : Bool}
    (h : rt.pollTcpSockets fullSweep = .ok rt') : Accounts rt rt' := by
  rw [pollTcpSockets_eq] at h
  obtain ⟨acc, hsweep, h⟩ := Outcome.bind_eq_ok.mp h
  have hsel : Effect (quietRules S) rt (rt.selectHandles fullSweep).2 := .select trivial fullSweep
  have hc₁ := hsel.consistent hS hc
  obtain ⟨heff, hu⟩ := sweepAll_effects (R := quietRules S) hS trivial hc₁ (by simp) hsweep
  exact (quiet_accounts hS (.head hsel heff) hc).trans
    (retireAll_accounts (heff.consistent hS hc₁) hu h)

include hS in
theorem pollStackCommon_accounts (H : Hickory) (hc : Consistent rt) {fullTcpSweep : Bool}
    {sweep : Option Bool} (h : rt.pollStackCommon H fullTcpSweep = .ok (.polled sweep rt')) :
    Accounts rt rt' := by
  simp only [pollStackCommon] at h
  split at h
  · cases h
  · next outcome stack hpoll =>
      obtain ⟨rt₁, h₁, h⟩ := Outcome.bind_eq_ok.mp h
      cases h
      have heff : Effect (quietRules S) rt { rt with stack } := .poll trivial hpoll
      have hc₁ := heff.consistent hS hc
      simp only [processStateChange] at h₁
      split at h₁
      · obtain ⟨rt₂, h₂, h₁⟩ := Outcome.bind_eq_ok.mp h₁
        have hnotify := notifyReadyWaiters_effects (R := quietRules S) hS hc₁ h₂
        have hs := (hnotify.consistent hS hc₁).slotted
        have hrest : Settles .any rt₂ (do
            let rt ← rt₂.processDnsResponses H
            let rt ← rt.processUdpResponses
            rt.expireDnsGroups.expireUdpSessions) :=
          (processDnsResponses_settles hS H hs).bind (fun rt₃ h₃ =>
            (processUdpResponses_settles hS h₃.slotted).bind (fun rt₄ h₄ =>
              .after (expireDnsGroups_settled h₄.slotted)
                (expireUdpSessions_settles trivial
                  (expireDnsGroups_settled (P := .any) h₄.slotted).slotted)))
        exact (quiet_accounts hS (.head heff hnotify) hc).trans (.settles hrest h₁)
      · cases h₁
        exact quiet_accounts hS (.single heff) hc

include hS in
theorem handleCommand_accounts (H : Hickory) (hc : Consistent rt) {dnsServers : List IpAddress}
    {tcpBufferSize draw : Nat} {cmd : ManagerCommand}
    (h : rt.handleCommand H dnsServers tcpBufferSize draw cmd = .ok rt') : Accounts rt rt' := by
  by_cases hopen : cmd.mayOpen = true
  · refine quiet_accounts hS (handleCommand_effects (R := quietRules S) hS (fun _ _ => trivial) H
      hc (fun _ => trivial) (fun _ => trivial) (fun _ _ => trivial) (fun hno => ?_)
      (fun _ _ _ _ _ _ => trivial) h) hc
    rw [hopen] at hno
    cases hno
  · cases cmd with
    | connect _ _ _ _ _ | dnsResolve _ _ _ | dnsResolveAll _ _ | udpRegister _ _ =>
        exact absurd rfl hopen
    | close handle source =>
        exact quiet_accounts hS (closeConnection_effects (fun _ _ => trivial) hc h) hc
    | udpUnregister localPort =>
        exact .settles (unregisterUdpSession_settles (P := .any) trivial hc.slotted localPort) h
    | getSocketState handle response source =>
        exact quiet_accounts hS (getSocketState_effects hc h) hc
    | waitSocketReady handle response source =>
        exact quiet_accounts hS (waitSocketReady_effects hc (fun _ _ => trivial) h) hc

end RuntimeState

namespace System

open RuntimeState (Accounts Accounted released quiet_accounts)

variable {H : Hickory} {s t : System S} {l : Label}

-- A step ends the run of a tunnel, begins one, or goes on.
inductive Turn (s t : System S) : Prop where
  | ends (up : s.pc ≠ .disconnected) (ht : t = s.teardown)
  | begins (down : s.pc = .disconnected) (up : t.pc ≠ .disconnected)
      (session : t.rt.session = s.rt.session)
      (next : t.rt.shared.nextStream = s.rt.shared.nextStream)
      (streams : ∀ x, t.rt.stream x = s.rt.stream x)
  | goes (h : Accounts s.rt t.rt) (pc : t.pc = .disconnected ↔ s.pc = .disconnected)
      (next : s.pc = .disconnected → t.rt.shared.nextStream = s.rt.shared.nextStream)

theorem Turn.up (hs : s.pc.up = true) (ht : t.pc ≠ .disconnected) (h : Accounts s.rt t.rt) :
    Turn s t :=
  have up := Pc.ne_disconnected_of_up hs
  .goes h ⟨fun hd => absurd hd ht, fun hd => absurd hd up⟩ (fun hd => absurd hd up)

theorem Turn.aside {P : Policy} (hpc : t.pc = s.pc) (h : Aside P s.rt t.rt) : Turn s t :=
  .goes (.aside h) (by rw [hpc]) (fun _ => h.nextStream)

theorem andThen_turn {α : Type} {o : Outcome α} {k : α → System S} (hs : s.pc.up = true)
    (hk : ∀ a, o = .ok a → Turn s (k a)) : Turn s (s.andThen o k) := by
  cases o with
  | ok a => exact hk a rfl
  | error fault => exact .up hs (by simp [andThen]) (.refl _)

variable (hS : S.KeepsSockets) (hs : Sound s)

include hS hs in
theorem managerStep_turn {choice : Choice} (h : s.managerStep H choice = some t) : Turn s t := by
  cases managerStep_cases h with
  | command up hpc =>
      exact andThen_turn up (fun rt hrt => .up up (Pc.ne_disconnected_of_up hpc)
        (RuntimeState.handleCommand_accounts hS H hs.consistent hrt))
  | udp up hpc =>
      refine andThen_turn up (fun rt hrt => .up up (Pc.ne_disconnected_of_up hpc) ?_)
      exact .settles (RuntimeState.handleUdpSend_settles (P := .any) hS hs.consistent.slotted _
        (fun _ _ _ _ => trivial)) hrt
  | incoming up hpc =>
      refine andThen_turn up (fun r hr => .up up (Pc.ne_disconnected_of_up (hpc _)) ?_)
      exact quiet_accounts hS (RuntimeState.handleTransportIoEvent_effects hr) hs.consistent
  | socketEvent up hpc hevents =>
      exact .up up (Pc.ne_disconnected_of_up hpc)
        (quiet_accounts hS (.single (.event hevents)) hs.consistent)
  | turn up hpc => exact .up up (Pc.ne_disconnected_of_up hpc) (.refl _)
  | teardown up => exact .ends (Pc.ne_disconnected_of_up up) rfl
  | polled hrun hpc hpoll =>
      exact .up (by rw [hrun]; rfl) (Pc.ne_disconnected_of_up hpc)
        (RuntimeState.pollStackCommon_accounts hS H hs.consistent hpoll)
  | pollFault hrun => exact .up (by rw [hrun]; rfl) (by simp) (.refl _)
  | sweep hrun hpc =>
      have up : s.pc.up = true := by rw [hrun]; rfl
      refine andThen_turn up (fun r hr => .up up (Pc.ne_disconnected_of_up hpc) ?_)
      exact RuntimeState.pollTcpSockets_accounts hS hs.consistent hr
  | egress up hpc hpoll =>
      exact .up up (Pc.ne_disconnected_of_up hpc)
        (quiet_accounts hS (.single (.egress hpoll)) hs.consistent)
  | transmit up hpc =>
      exact .up up (Pc.ne_disconnected_of_up hpc) (.aside
        (RuntimeState.drainStackPackets_settled (P := .any) hs.consistent.slotted _ _).aside)
  | refresh up =>
      exact .up up (by simp) (.aside
        (RuntimeState.refreshRuntimeStats_settled (P := .any) hs.consistent.slotted _).aside)
  | establish down => exact .begins down (by simp) rfl rfl (fun _ => rfl)
  | refuse =>
      exact .aside rfl (RuntimeState.handleCommandDisconnected_settled (P := .any)
        hs.consistent.slotted _).aside
  | discard => exact .aside rfl (.refl .any _)

include hS hs in
theorem streamOp_turn {x : StreamId} (hx : (s.clients x).phase = .holding)
    {n : SocketStreamHandle.Notified} (hn : StreamOp (s.rt.stream x) n) :
    Turn s (s.streamOp x n) := by
  have hacc := Effects.accounts (R := { RuntimeState.quietRules S with client := (· = x) }) hS id
    (fun y hy => hy ▸ hs.born x (by rw [hx]; simp)) (streamOp_effects hs rfl hx hn) hs.consistent
  refine .goes hacc Iff.rfl (fun _ => ?_)
  simp only [streamOp, RuntimeState.putStream_eq]
  rfl

theorem Turn.congr {t' : System S} (h : Turn s t) (hrt : t'.rt = t.rt) (hpc : t'.pc = s.pc)
    (hpc' : t.pc = s.pc) : Turn s t' := by
  cases h with
  | ends up ht => exact absurd (hpc'.symm.trans (ht ▸ rfl)) up
  | begins down up session next streams => exact absurd (hpc'.trans down) up
  | goes h pc next => exact .goes (hrt ▸ h) (by rw [hpc]) (fun hd => hrt ▸ next hd)

include hS hs in
theorem clientStep_turn {x : StreamId} {op : ClientOp} (h : s.clientStep x op = some t) :
    Turn s t := by
  cases clientStep_cases h with
  | op hphase hop _ => exact (streamOp_turn hS hs hphase hop).congr rfl rfl rfl
  | close _ | ask _ _ _ _ | finish _ => exact .aside rfl (.refl .any _)

include hs in
theorem setShared_turn {shared : Shared} (hx : shared.streams = s.rt.shared.streams)
    (hn : shared.nextStream = s.rt.shared.nextStream) : Turn s (s.setShared shared) :=
  .aside rfl (RuntimeState.setShared_settled (P := .any) hs.consistent.slotted hx hn).aside

include hS hs in
theorem step_turn (h : step H s l = some t) : Turn s t := by
  cases l with
  | client x op => exact clientStep_turn hS hs h
  | submit cmd =>
      obtain ⟨_, _, rfl⟩ := submit_eq h
      exact .aside rfl (.refl .any _)
  | udpSend _ | io _ =>
      simp only [step] at h
      split at h <;> cases h
      exact .aside rfl (.refl .any _)
  | evict domain =>
      cases h
      exact .aside rfl (RuntimeState.setDns_settled (P := .any) hs.consistent.slotted _ _ _).aside
  | manager choice => exact managerStep_turn hS hs h
  | reserveSlot | releaseSlot | tick _ | statics _ | cancel _ | receiveUdp _ | closeUdp _ =>
      cases h
      exact setShared_turn hs rfl rfl

structure Live (s : System S) : Prop where
  down : s.pc = .disconnected → ∀ x < s.rt.shared.nextStream,
    (s.rt.stream x).socketNotifier < s.rt.session
  up : ∀ x < s.rt.shared.nextStream, (s.rt.stream x).socketNotifier = s.rt.session →
    Accounted s.rt x

include hs in
theorem Turn.live (h : Turn s t) (hl : Live s) : Live t := by
  cases h with
  | ends up ht =>
      have hgone : ∀ x < s.rt.shared.nextStream,
          (s.rt.stream x).socketNotifier < s.rt.session + 1 := fun x hx =>
        Nat.lt_succ_of_le (hs.consistent.tracked.sessions x hx)
      subst ht
      have hsame : ∀ x < s.teardown.rt.shared.nextStream,
          (s.teardown.rt.stream x).socketNotifier < s.teardown.rt.session := by
        simp only [teardown, RuntimeState.replyAll_eq]
        exact hgone
      exact ⟨fun _ => hsame, fun x hx he => absurd he (Nat.ne_of_lt (hsame x hx))⟩
  | begins down up session next streams =>
      refine ⟨fun hd => absurd hd up, fun x hx he => ?_⟩
      rw [streams, session] at he
      exact absurd he (Nat.ne_of_lt (hl.down down x (next ▸ hx)))
  | goes h pc next =>
      constructor
      · intro hd x hx
        have hx' : x < s.rt.shared.nextStream := next (pc.mp hd) ▸ hx
        rw [(h.signals.signals hx').notifier, h.session]
        exact hl.down (pc.mp hd) x hx'
      · intro x hx he
        rcases Nat.lt_or_ge x s.rt.shared.nextStream with hx' | hx'
        · rw [(h.signals.signals hx').notifier, h.session] at he
          exact h.kept x hx' (hl.up x hx' he)
        · exact (h.born x hx' hx).2

theorem init_live (params : ConnectionParams) : Live (init S params) :=
  ⟨fun _ _ hx => absurd hx (Nat.not_lt_zero _), fun _ hx => absurd hx (Nat.not_lt_zero _)⟩

end System

end Usque
