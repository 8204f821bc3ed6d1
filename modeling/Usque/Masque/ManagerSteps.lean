import Usque.Masque.System

namespace Usque

variable {S : Smoltcp} {H : Hickory}

def ActiveTunnel.isMasque : ActiveTunnel → Bool
  | .masque _ _ => true
  | .wg _ => false

namespace ActiveTunnel

theorem isMasque_iff {tunnel : ActiveTunnel} :
    tunnel.isMasque = true ↔ ∃ streak blockedUntil, tunnel = .masque streak blockedUntil := by
  cases tunnel with
  | masque streak blockedUntil => exact ⟨fun _ => ⟨_, _, rfl⟩, fun _ => rfl⟩
  | wg nextTimerAt => exact ⟨nofun, nofun⟩

theorem answered_isMasque {tunnel : ActiveTunnel} (h : tunnel.isMasque = true) (now : Time)
    (answer : SendResult) : (tunnel.answered now answer).isMasque = true := by
  obtain ⟨streak, blockedUntil, rfl⟩ := isMasque_iff.mp h
  cases answer <;> rfl

theorem masqueDrainBlocked_mono {tunnel : ActiveTunnel} {now now' : Time} (hle : now ≤ now')
    (h : tunnel.masqueDrainBlocked now = false) : tunnel.masqueDrainBlocked now' = false := by
  cases tunnel with
  | wg nextTimerAt => rfl
  | masque streak blockedUntil =>
      cases blockedUntil with
      | none => rfl
      | some blockedUntil =>
          simp only [masqueDrainBlocked, decide_eq_false_iff_not, not_lt] at h ⊢
          exact le_trans h hle

theorem drainMasque_isMasque (batchSize : Nat) (now : Time) (fuel budget : Nat)
    (results : List SendResult) (streak : Nat) (blockedUntil : Option Time)
    (stack : NetworkStack S) :
    (drainMasque batchSize now fuel budget results streak blockedUntil stack).1.isMasque =
      true := by
  induction fuel generalizing budget results streak blockedUntil stack with
  | zero => rfl
  | succ fuel ih =>
      simp only [drainMasque]
      split
      · rfl
      · split
        · exact ih _ _ _ _ _
        · rfl
        · rfl

theorem drainStackPackets_isMasque {tunnel : ActiveTunnel} (h : tunnel.isMasque = true)
    (rt : RuntimeState S) (results : List SendResult) :
    (tunnel.drainStackPackets rt results).1.isMasque = true := by
  obtain ⟨streak, blockedUntil, rfl⟩ := isMasque_iff.mp h
  simp only [drainStackPackets]
  split
  · rfl
  · exact drainMasque_isMasque _ _ _ _ _ _ _ _

end ActiveTunnel

def Pc.selects : Pc → Bool
  | .select _ => true
  | _ => false

namespace System

variable {s t : System S} {l : Label}

def rewound (s : System S) (d : MasqueDrain) : System S :=
  { s.withDevice d.device with tunnel := d.tunnel }

theorem rewound_streamOp (s : System S) (d : MasqueDrain) (x : StreamId)
    (n : SocketStreamHandle.Notified) :
    (s.rewound d).streamOp x n = (s.streamOp x n).rewound d := by
  simp only [streamOp, RuntimeState.putStream_eq]
  rfl

theorem clientStep_rewound (s : System S) (d : MasqueDrain) (x : StreamId) (op : ClientOp) :
    (s.rewound d).clientStep x op = (s.clientStep x op).map (fun t => t.rewound d) := by
  have hstream : (s.rewound d).rt.stream x = s.rt.stream x := rfl
  have hclients : (s.rewound d).clients = s.clients := rfl
  have hroom : (s.rewound d).hasCommandRoom = s.hasCommandRoom := rfl
  cases op with
  | read n | write buf | flush | drop =>
      simp only [clientStep, hstream, hclients, rewound_streamOp]
      split <;> rfl
  | shutdown =>
      simp only [clientStep, hstream, hclients, rewound_streamOp]
      split
      · split <;> rfl
      · rfl
  | close =>
      simp only [clientStep, hstream, hclients, hroom]
      split <;> rfl
  | getState | waitReady =>
      simp only [clientStep, hstream, hclients, ask, hroom]
      split
      · split <;> rfl
      · rfl
  | finish =>
      simp only [clientStep, hclients]
      split <;> rfl

theorem submit_rewound (s : System S) (d : MasqueDrain) (cmd : ManagerCommand) :
    (s.rewound d).submit cmd = (s.submit cmd).map (fun t => t.rewound d) := by
  have hroom : (s.rewound d).hasCommandRoom = s.hasCommandRoom := rfl
  have hnext : (s.rewound d).nextOneshot = s.nextOneshot := rfl
  simp only [submit, hroom, hnext]
  split
  · split
    · rfl
    · split <;> rfl
  · rfl

-- What is not the manager's own does not see the device or the tunnel.
theorem step_rewound (hl : l.ofManager = false) (d : MasqueDrain) (h : s.step H l = some t) :
    (s.rewound d).step H l = some (t.rewound d) := by
  cases l with
  | client x op =>
      simp only [step] at h ⊢
      rw [clientStep_rewound, h, Option.map_some]
  | submit cmd =>
      simp only [step] at h ⊢
      rw [submit_rewound, h, Option.map_some]
  | udpSend cmd =>
      simp only [step] at h ⊢
      split at h
      next hroom =>
        cases h
        exact if_pos hroom
      · cases h
  | io event =>
      simp only [step] at h ⊢
      split at h
      next hroom =>
        cases h
        exact if_pos hroom
      · cases h
  | evict _ | reserveSlot | releaseSlot | tick _ | statics _ | cancel _ | receiveUdp _
  | closeUdp _ =>
      cases h
      rfl
  | manager choice => cases hl

-- What a step that is neither the manager's nor the worker's leaves to them.
structure Bystands (s t : System S) : Prop where
  params : t.params = s.params
  pc : t.pc = s.pc
  tunnel : t.tunnel = s.tunnel
  incomingRx : t.incomingRx = s.incomingRx
  stack : t.rt.stack = s.rt.stack
  tunables : t.rt.tunables = s.rt.tunables
  now : s.rt.shared.now ≤ t.rt.shared.now

theorem Label.masqueFree_of (hl : l.ofManager = false)
    (hfree : l.masqueFree = true ∨ l.ofManager = true) : l.masqueFree = true :=
  hfree.resolve_right (by rw [hl]; exact Bool.false_ne_true)

theorem step_bystands (hl : l.ofManager = false) (hfree : l.masqueFree = true)
    (h : s.step H l = some t) : Bystands s t := by
  cases l with
  | client x op =>
      cases clientStep_cases h with
      | @op n c _ _ _ =>
          simp only [setClient, streamOp, RuntimeState.putStream_eq]
          exact ⟨rfl, rfl, rfl, rfl, rfl, rfl, Nat.le_refl _⟩
      | close _ | ask _ _ _ _ | finish _ => exact ⟨rfl, rfl, rfl, rfl, rfl, rfl, Nat.le_refl _⟩
  | submit cmd =>
      obtain ⟨_, _, rfl⟩ := submit_eq h
      exact ⟨rfl, rfl, rfl, rfl, rfl, rfl, Nat.le_refl _⟩
  | udpSend cmd =>
      simp only [step] at h
      split at h <;> cases h
      exact ⟨rfl, rfl, rfl, rfl, rfl, rfl, Nat.le_refl _⟩
  | tick d =>
      cases h
      exact ⟨rfl, rfl, rfl, rfl, rfl, rfl, Nat.le_add_right _ _⟩
  | evict _ | reserveSlot | releaseSlot | statics _ | cancel _ | receiveUdp _ | closeUdp _ =>
      cases h
      exact ⟨rfl, rfl, rfl, rfl, rfl, rfl, Nat.le_refl _⟩
  | io _ => cases hfree
  | manager choice => cases hl

-- What becomes of a MASQUE tunnel in one step of the manager, and of its schedule.
inductive LoopMove (s t : System S) : Prop where
  | works (htunnel : t.tunnel = s.tunnel) (hpc : t.pc.selects = false)
  | schedules (htunnel : t.tunnel = s.tunnel)
      (hpc : t.pc = .select (s.tunnel.computeLoopSchedule s.rt))
  | connects
      (htunnel : t.tunnel =
        .fromConn s.params.tunnelMode s.params.managerTunables s.rt.shared.now)
      (hpc : t.pc.selects = false)
  | transmits (results : List SendResult)
      (htunnel : t.tunnel = (s.tunnel.drainStackPackets s.rt results).1)
      (hpc : t.pc.selects = false)

theorem andThen_works {α : Type} {o : Outcome α} {k : α → System S}
    (hk : ∀ a, (k a).tunnel = s.tunnel ∧ (k a).pc.selects = false) : LoopMove s (s.andThen o k) :=
  andThen_rt (Q := LoopMove s) (fun a _ => .works (hk a).1 (hk a).2) (fun _ => .works rfl rfl)

theorem takeCommand_works {draw : Nat} {pc : Pc} (hpc : pc.selects = false)
    (h : s.takeCommand H draw pc = some t) : LoopMove s t := by
  simp only [takeCommand] at h
  split at h <;> cases h
  exact andThen_works (fun _ => ⟨rfl, hpc⟩)

theorem takeUdp_works {pc : Pc} (hpc : pc.selects = false) (h : s.takeUdp pc = some t) :
    LoopMove s t := by
  simp only [takeUdp] at h
  split at h <;> cases h
  exact andThen_works (fun _ => ⟨rfl, hpc⟩)

theorem takeIncoming_works {decrypted : Option Packet} {pc : Bool → Pc}
    (hpc : ∀ ingress, (pc ingress).selects = false) (h : s.takeIncoming decrypted pc = some t) :
    LoopMove s t := by
  simp only [takeIncoming] at h
  split at h <;> cases h
  exact andThen_works (fun r => ⟨rfl, hpc r.1⟩)

theorem takeSocketEvent_works {pc : Pc} (hpc : pc.selects = false)
    (h : s.takeSocketEvent pc = some t) : LoopMove s t := by
  simp only [takeSocketEvent] at h
  split at h <;> cases h
  exact .works rfl hpc

theorem nextDrain_selects (s : System S) (phase : DrainPhase) (dirty : Dirty) :
    (s.nextDrain phase dirty).selects = false := by
  cases phase <;> rfl

theorem drainStep_works {phase : DrainPhase} {remaining : Nat} {dirty : Dirty} {choice : Choice}
    (h : s.drainStep H phase remaining dirty choice = some t) : LoopMove s t := by
  simp only [drainStep] at h
  split at h
  · exact takeSocketEvent_works rfl h
  · exact takeCommand_works rfl h
  · exact takeUdp_works rfl h
  · exact takeIncoming_works (fun _ => rfl) h
  · split at h <;> cases h
    exact .works rfl (nextDrain_selects s _ _)
  · cases h

theorem runMaintenanceTick_masque {tunnel : ActiveTunnel} (h : tunnel.isMasque = true)
    (tunables : ManagerTunables) (now : Time) :
    tunnel.runMaintenanceTick tunables now = tunnel := by
  cases tunnel with
  | masque streak blockedUntil => rfl
  | wg nextTimerAt => cases h

theorem selectStep_works {schedule : LoopSchedule} {choice : Choice}
    (hs : s.tunnel.isMasque = true) (h : s.selectStep H schedule choice = some t) :
    LoopMove s t := by
  cases choice with
  | command draw => exact takeCommand_works rfl h
  | udp => exact takeUdp_works rfl h
  | incoming decrypted =>
      simp only [selectStep] at h
      exact takeIncoming_works (fun _ => rfl) h
  | socketEvent => exact takeSocketEvent_works rfl h
  | maintenance =>
      simp only [selectStep] at h
      split at h <;> cases h
      exact .works (runMaintenanceTick_masque hs _ _) rfl
  | pollTimer =>
      simp only [selectStep] at h
      split at h <;> cases h
      simp only [selectPollTimer]
      split
      · exact .works rfl rfl
      · split <;> exact .works rfl rfl
  | establish _ | disconnectedCommand | disconnectedUdp | checkAlive _ | nextPhase | advance
  | transmit _ | refresh _ => cases h

theorem serviceStep_works (s : System S) (dirty : Dirty) : LoopMove s (s.serviceStep dirty) := by
  simp only [serviceStep]
  split
  · exact .works rfl rfl
  · split
    · exact .works rfl rfl
    · split <;> exact .works rfl rfl

theorem pollStep_works (s : System S) (full dirtyCycle : Bool) :
    LoopMove s (s.pollStep H full dirtyCycle) := by
  refine andThen_works (fun polled => ?_)
  cases polled with
  | failed => exact ⟨rfl, rfl⟩
  | polled sweep rt => cases sweep <;> exact ⟨rfl, rfl⟩

theorem sweepStep_works (s : System S) (full egress dirtyCycle : Bool) :
    LoopMove s (s.sweepStep full egress dirtyCycle) := by
  refine andThen_works (fun _ => ⟨rfl, ?_⟩)
  cases egress <;> rfl

theorem egressStep_works (s : System S) : LoopMove s s.egressStep := by
  simp only [egressStep]
  split
  · exact .works rfl rfl
  · split <;> exact .works rfl rfl

theorem disconnectedStep_works {choice : Choice} (down : s.pc = .disconnected)
    (h : s.disconnectedStep choice = some t) : LoopMove s t := by
  have hpc : s.pc.selects = false := by rw [down]; rfl
  simp only [disconnectedStep] at h
  split at h
  · cases h
    exact .connects rfl rfl
  · split at h <;> cases h
    exact .works rfl hpc
  · split at h <;> cases h
    exact .works rfl hpc
  · cases h

theorem managerStep_loop {choice : Choice} (hs : s.tunnel.isMasque = true)
    (h : s.managerStep H choice = some t) : LoopMove s t := by
  simp only [managerStep] at h
  split at h
  · next hpc => exact disconnectedStep_works hpc h
  · split at h <;> cases h
    · exact .schedules rfl rfl
    · exact .works rfl rfl
  · exact selectStep_works hs h
  · exact drainStep_works h
  · cases h
    exact serviceStep_works s _
  · cases h
    exact pollStep_works s _ _
  · cases h
    exact sweepStep_works s _ _ _
  · cases h
    exact egressStep_works s
  · next dirtyCycle _ _ =>
      cases h
      refine .transmits _ rfl ?_
      cases dirtyCycle <;> rfl
  · cases h
    exact .works rfl rfl
  · cases h

theorem step_isMasque (hmode : s.params.tunnelMode = .masque) (hs : s.tunnel.isMasque = true)
    (hfree : l.masqueFree = true ∨ l.ofManager = true) (h : s.step H l = some t) :
    t.tunnel.isMasque = true := by
  cases hl : l.ofManager with
  | false =>
      have hstay := step_bystands hl (Label.masqueFree_of hl hfree) h
      exact hstay.tunnel ▸ hs
  | true =>
      cases l with
      | manager choice =>
          cases managerStep_loop hs h with
          | works he _ | schedules he _ => exact he ▸ hs
          | connects he _ =>
              rw [he, hmode]
              rfl
          | transmits results he _ => exact he ▸ ActiveTunnel.drainStackPackets_isMasque hs _ _
      | _ => cases hl

theorem taken_none (hincoming : t.incomingRx = s.incomingRx) (htaken : s.takenPackets l = []) :
    s.incomingRx.flatMap TransportIoEvent.packets =
      s.takenPackets l ++ t.incomingRx.flatMap TransportIoEvent.packets := by
  rw [hincoming, htaken, List.nil_append]

theorem managerStep_taken {choice : Choice} (ht : t.connected = true)
    (h : s.managerStep H choice = some t) :
    s.incomingRx.flatMap TransportIoEvent.packets =
      s.takenPackets (.manager choice) ++ t.incomingRx.flatMap TransportIoEvent.packets := by
  cases managerStep_cases h with
  | command | udp | sweep =>
      exact andThen_rt (Q := fun t => s.incomingRx.flatMap TransportIoEvent.packets =
          s.takenPackets (.manager _) ++ t.incomingRx.flatMap TransportIoEvent.packets)
        (fun _ _ => taken_none rfl rfl) (fun _ => taken_none rfl rfl)
  | @incoming _ _ event incomingRx _ _ hevent =>
      revert ht
      refine andThen_rt (Q := fun t => t.connected = true →
          s.incomingRx.flatMap TransportIoEvent.packets =
            s.takenPackets (.manager (.incoming _)) ++
              t.incomingRx.flatMap TransportIoEvent.packets) (fun _ _ _ => ?_)
        (fun _ hfault => nomatch hfault)
      simp only [takenPackets, hevent, List.take_succ_cons, List.take_zero, List.flatMap_cons,
        List.flatMap_nil, List.append_nil]
  | teardown => cases ht
  | @turn choice _ _ _ _ hc =>
      refine taken_none rfl ?_
      cases choice <;> first | rfl | cases hc
  | socketEvent | polled | egress | transmit | refresh | establish | refuse | discard =>
      exact taken_none rfl rfl
  | pollFault => cases ht

theorem step_taken (hfree : l.masqueFree = true ∨ l.ofManager = true) (ht : t.connected = true)
    (h : s.step H l = some t) :
    s.incomingRx.flatMap TransportIoEvent.packets =
      s.takenPackets l ++ t.incomingRx.flatMap TransportIoEvent.packets := by
  cases hl : l.ofManager with
  | false =>
      have hstay := step_bystands hl (Label.masqueFree_of hl hfree) h
      refine taken_none hstay.incomingRx ?_
      cases l <;> first | rfl | cases hl
  | true =>
      cases l with
      | manager choice => exact managerStep_taken ht h
      | _ => cases hl

-- While no tunnel is up there are no events of one.
def Quiet (s : System S) : Prop := s.pc = .disconnected → s.incomingRx = []

theorem quiet_of_up (hup : s.pc.up = true) : s.Quiet := by
  intro hdown
  rw [hdown] at hup
  cases hup

theorem managerStep_quiet {choice : Choice} (hs : s.Quiet) (h : s.managerStep H choice = some t) :
    t.Quiet := by
  cases managerStep_cases h with
  | command _ hpc | udp _ hpc | sweep _ hpc =>
      exact andThen_rt (Q := Quiet) (fun _ _ => quiet_of_up hpc) (fun _ => nofun)
  | incoming _ hpc =>
      exact andThen_rt (Q := Quiet) (fun r _ => quiet_of_up (hpc r.1)) (fun _ => nofun)
  | socketEvent _ hpc | turn _ hpc | polled _ hpc | egress _ hpc | transmit _ hpc =>
      exact quiet_of_up hpc
  | teardown => exact fun _ => rfl
  | pollFault | refresh | establish => exact nofun
  | refuse down | discard down => exact fun _ => hs down

theorem step_quiet (hs : s.Quiet) (hfree : l.masqueFree = true ∨ l.ofManager = true)
    (h : s.step H l = some t) : t.Quiet := by
  cases hl : l.ofManager with
  | false =>
      have hstay := step_bystands hl (Label.masqueFree_of hl hfree) h
      exact fun hdown => hstay.incomingRx.trans (hs (hstay.pc ▸ hdown))
  | true =>
      cases l with
      | manager choice => exact managerStep_quiet hs h
      | _ => cases hl

end System

end Usque
