import Usque.Manager.CommandQueue
import Usque.Wireguard.Script
import Usque.Wireguard.WireOrder

namespace Usque

-- Where the loop has offered all that its tunnel gave out.
def Pc.clean : Pc → Bool
  | .loopHead | .select _ | .poll _ false | .sweep _ _ false | .transmit false => true
  | _ => false

namespace System

variable {S : Smoltcp} {H : Hickory} {s t : System S} {l : Label}

theorem andThen_clean {α : Type} {o : Outcome α} {k : α → System S}
    (hk : ∀ a, (k a).pc.clean = true → s.pc.clean = true)
    (h : (s.andThen o k).pc.clean = true) : s.pc.clean = true := by
  cases o with
  | ok a => exact hk a h
  | error fault => cases h

theorem takeCommand_clean {draw : Nat} {pc : Pc} (hpc : pc.clean = false)
    (h : s.takeCommand H draw pc = some t) (ht : t.pc.clean = true) : s.pc.clean = true := by
  simp only [takeCommand] at h
  split at h <;> cases h
  exact andThen_clean (fun rt hc => by rw [hpc] at hc; cases hc) ht

theorem takeUdp_clean {pc : Pc} (hpc : pc.clean = false)
    (h : s.takeUdp pc = some t) (ht : t.pc.clean = true) : s.pc.clean = true := by
  simp only [takeUdp] at h
  split at h <;> cases h
  exact andThen_clean (fun rt hc => by rw [hpc] at hc; cases hc) ht

theorem takeSocketEvent_clean {pc : Pc} (hpc : pc.clean = false)
    (h : s.takeSocketEvent pc = some t) (ht : t.pc.clean = true) : s.pc.clean = true := by
  simp only [takeSocketEvent] at h
  split at h <;> cases h
  rw [hpc] at ht
  cases ht

theorem nextDrain_clean (s : System S) (phase : DrainPhase) (dirty : Dirty) :
    (s.nextDrain phase dirty).clean = false := by
  cases phase <;> rfl

theorem drainStep_clean {phase : DrainPhase} {remaining : Nat} {dirty : Dirty} {choice : Choice}
    (hc : (Label.manager choice).tunnelFree = true)
    (h : s.drainStep H phase remaining dirty choice = some t) (ht : t.pc.clean = true) :
    s.pc.clean = true := by
  simp only [drainStep] at h
  split at h
  · exact takeSocketEvent_clean rfl h ht
  · exact takeCommand_clean rfl h ht
  · exact takeUdp_clean rfl h ht
  · cases hc
  · split at h <;> cases h
    rw [nextDrain_clean] at ht
    cases ht
  · cases h

theorem disconnectedStep_clean {choice : Choice}
    (hc : (Label.manager choice).tunnelFree = true) (h : s.disconnectedStep choice = some t)
    (ht : t.pc.clean = true) : s.pc.clean = true := by
  simp only [disconnectedStep] at h
  split at h
  · cases hc
  · split at h <;> cases h
    exact ht
  · split at h <;> cases h
    exact ht
  · cases h

theorem serviceStep_clean (dirty : Dirty) (ht : (s.serviceStep dirty).pc.clean = true) :
    s.pc.clean = true := by
  simp only [serviceStep] at ht
  split at ht
  · cases ht
  · split at ht
    · cases ht
    · split at ht <;> cases ht

theorem pollStep_clean {full dirtyCycle : Bool} (hpc : s.pc = .poll full dirtyCycle)
    (ht : (s.pollStep H full dirtyCycle).pc.clean = true) : s.pc.clean = true := by
  refine andThen_clean (fun polled hc => ?_) ht
  rw [hpc]
  cases dirtyCycle with
  | false => rfl
  | true =>
      match polled with
      | .failed | .polled none _ | .polled (some _) _ => cases hc

theorem sweepStep_clean {full egress dirtyCycle : Bool} (hpc : s.pc = .sweep full egress dirtyCycle)
    (ht : (s.sweepStep full egress dirtyCycle).pc.clean = true) : s.pc.clean = true := by
  refine andThen_clean (fun rt hc => ?_) ht
  rw [hpc]
  cases dirtyCycle with
  | false => rfl
  | true => cases egress <;> cases hc

theorem egressStep_clean (ht : s.egressStep.pc.clean = true) : s.pc.clean = true := by
  simp only [egressStep] at ht
  split at ht
  · cases ht
  · split at ht <;> cases ht

-- Without the tunnel's own steps the loop does not get back to a clean place.
theorem managerStep_clean {choice : Choice} (hc : (Label.manager choice).tunnelFree = true)
    (h : s.managerStep H choice = some t) (ht : t.pc.clean = true) : s.pc.clean = true := by
  simp only [managerStep] at h
  split at h
  · exact disconnectedStep_clean hc h ht
  · cases hc
  · next hpc =>
      rw [hpc]
      rfl
  · exact drainStep_clean hc h ht
  · cases h
    exact serviceStep_clean _ ht
  · next hpc =>
      cases h
      exact pollStep_clean hpc ht
  · next hpc =>
      cases h
      exact sweepStep_clean hpc ht
  · cases h
    exact egressStep_clean ht
  · cases hc
  · cases hc
  · cases h

theorem step_clean (hl : l.tunnelFree = true) (h : step H s l = some t)
    (ht : t.pc.clean = true) : s.pc.clean = true := by
  cases l with
  | manager choice => exact managerStep_clean hl h ht
  | client _ _ | submit _ | udpSend _ | reserveSlot | releaseSlot | tick _ | io _ | evict _
  | statics _ | cancel _ | receiveUdp _ | closeUdp _ =>
      rw [← step_pc h (fun choice hc => by cases hc)]
      exact ht

theorem checkAlive_pc {alive : Bool} (h : s.managerStep H (.checkAlive alive) = some t) :
    s.pc = .loopHead := by
  cases hpc : s.pc with
  | loopHead => rfl
  | drain phase remaining dirty =>
      simp only [managerStep, hpc] at h
      cases phase <;> cases remaining <;> cases h
  | disconnected | select _ | service _ | poll _ _ | sweep _ _ _ | egress | transmit _ | refresh
  | faulted _ =>
      simp only [managerStep, hpc, disconnectedStep, selectStep] at h
      cases h

theorem maintenance_pc (h : s.managerStep H .maintenance = some t) :
    ∃ schedule, s.pc = .select schedule := by
  cases hpc : s.pc with
  | select schedule => exact ⟨schedule, rfl⟩
  | drain phase remaining dirty =>
      simp only [managerStep, hpc] at h
      cases phase <;> cases remaining <;> cases h
  | disconnected | loopHead | service _ | poll _ _ | sweep _ _ _ | egress | transmit _ | refresh
  | faulted _ =>
      simp only [managerStep, hpc, disconnectedStep] at h
      cases h

theorem pollTimer_pc (h : s.managerStep H .pollTimer = some t) :
    ∃ schedule, s.pc = .select schedule := by
  cases hpc : s.pc with
  | select schedule => exact ⟨schedule, rfl⟩
  | drain phase remaining dirty =>
      simp only [managerStep, hpc] at h
      cases phase <;> cases remaining <;> cases h
  | disconnected | loopHead | service _ | poll _ _ | sweep _ _ _ | egress | transmit _ | refresh
  | faulted _ =>
      simp only [managerStep, hpc, disconnectedStep] at h
      cases h

theorem takeIncoming_clean {decrypted : Option Packet} {pc : Bool → Pc}
    (hpc : ∀ ingress, (pc ingress).clean = false)
    (h : s.takeIncoming decrypted pc = some t) : t.pc.clean = false := by
  simp only [takeIncoming] at h
  split at h <;> cases h
  refine andThen_rt (Q := fun t => t.pc.clean = false) (fun r _ => hpc r.1) (fun _ => rfl)

theorem incoming_clean {decrypted : Option Packet}
    (h : s.managerStep H (.incoming decrypted) = some t) : t.pc.clean = false := by
  cases hpc : s.pc with
  | select schedule =>
      simp only [managerStep, hpc, selectStep] at h
      exact takeIncoming_clean (fun _ => rfl) h
  | drain phase remaining dirty =>
      simp only [managerStep, hpc] at h
      cases phase with
      | incoming =>
          cases remaining with
          | zero => cases h
          | succ remaining =>
              simp only [drainStep] at h
              exact takeIncoming_clean (fun _ => rfl) h
      | events | commands | udp => cases remaining <;> cases h
  | disconnected | loopHead | service _ | poll _ _ | sweep _ _ _ | egress | transmit _ | refresh
  | faulted _ =>
      simp only [managerStep, hpc, disconnectedStep] at h
      cases h

end System

namespace WgSystem

variable {S : Smoltcp} {G : Gotatun} {H : Hickory} {w w' : WgSystem S G} {l : WgLabel G}

-- What the loop asks its tunnel for at a choice, and the tunnel after it.
inductive Serves (w : WgSystem S G) (t : WgTunnel G) : Choice → (System S → WgTunnel G) → Prop where
  | checkAlive : Serves w t (.checkAlive (!t.isExpired)) (fun _ => t)
  | datagram {data : Packet} {incomingRx : List TransportIoEvent}
      (hevent : w.sys.incomingRx = .incoming data :: incomingRx) :
      Serves w t (.incoming (t.decryptIncoming w.now data).1)
        (fun _ => (t.decryptIncoming w.now data).2)
  | event : Serves w t (.incoming none) (fun _ => t)
  | maintenance : Serves w t .maintenance (fun _ => t.maintain w.now)
  | pollTimer : Serves w t .pollTimer (polled w.now t)
  | transmit {t' : WgTunnel G} (hdrain : t.drainStackPackets w.now w.stackPackets = .ok t') :
      Serves w t (.transmit []) (polled w.now t')
  | refresh :
      Serves w t (.refresh (t.flushPending w.now).pendingSendPackets)
        (fun _ => t.flushPending w.now)

inductive WgMove (H : Hickory) (w : WgSystem S G) : WgLabel G → WgSystem S G → Prop where
  | system {l : WgLabel G} {label : Label} {sys : System S} (hfree : label.tunnelFree = true)
      (hstep : w.sys.step H label = some sys) :
      WgMove H w l { w with sys, tunnel := if sys.connected then w.tunnel else none }
  | serve {l : WgLabel G} {t : WgTunnel G} {choice : Choice} {tunnel : System S → WgTunnel G}
      {sys : System S} (ht : w.tunnel = some t) (hserves : Serves w t choice tunnel)
      (hstep : w.sys.step H (.manager choice) = some sys) :
      WgMove H w l { w with sys, tunnel := if sys.connected then some (tunnel sys) else none }
  | outcomes {l : WgLabel G} {t : WgTunnel G} {outcomes : List Bool} (ht : w.tunnel = some t) :
      WgMove H w l { w with tunnel := some { t with socket := { t.socket with outcomes } } }
  | establish {l : WgLabel G} {tunn : G.Tunn} {outcomes : List Bool} {initiated start : Time}
      {events : List (Time × HandshakeEvent)} {t : WgTunnel G} {sys : System S}
      (ht : w.tunnel = none)
      (hok : (w.newTunnel tunn outcomes).establish initiated start handshakeTimeout events =
        (some (.ok ()), t))
      (hstep : w.sys.step H (.manager (.establish w.wg.stackMtu)) = some sys) :
      WgMove H w l { w with sys, tunnel := if sys.connected then some t else none }
  | panic {t : WgTunnel G} {fault : Fault} {sys : System S} (ht : w.tunnel = some t)
      (hfault : t.drainStackPackets w.now w.stackPackets = .error fault)
      (hstep : w.sys.step H (.manager (.transmit [])) = some sys) :
      WgMove H w .transmit { w with tunnel := none, panicked := true }

theorem advance_eq {choice : Choice} {tunnel : System S → WgTunnel G}
    (h : w.advance H choice tunnel = some w') :
    ∃ sys, w.sys.step H (.manager choice) = some sys ∧
      w' = { w with sys, tunnel := if sys.connected then some (tunnel sys) else none } := by
  obtain ⟨sys, hstep, rfl⟩ := Option.map_eq_some_iff.mp h
  exact ⟨sys, hstep, rfl⟩

theorem serve_of_advance {t : WgTunnel G} {choice : Choice} {tunnel : System S → WgTunnel G}
    (ht : w.tunnel = some t) (hserves : Serves w t choice tunnel)
    (h : w.advance H choice tunnel = some w') : WgMove H w l w' := by
  obtain ⟨sys, hstep, rfl⟩ := advance_eq h
  exact .serve ht hserves hstep

theorem transmitStep_cases {t : WgTunnel G} (ht : w.tunnel = some t)
    (h : w.transmitStep H t = some w') : WgMove H w .transmit w' := by
  simp only [transmitStep] at h
  split at h
  · next hdrain => exact serve_of_advance ht (.transmit hdrain) h
  · next hfault =>
      obtain ⟨sys, hstep, rfl⟩ := Option.map_eq_some_iff.mp h
      exact .panic ht hfault hstep

theorem incomingStep_cases {t : WgTunnel G} (ht : w.tunnel = some t)
    (h : w.incomingStep H t = some w') : WgMove H w l w' := by
  simp only [incomingStep] at h
  split at h
  · next hevent => exact serve_of_advance ht (.datagram hevent) h
  · exact serve_of_advance ht .event h

theorem tunnelStep_cases {t : WgTunnel G} (ht : w.tunnel = some t)
    (h : w.tunnelStep H t l = some w') : WgMove H w l w' := by
  cases l with
  | outcomes outcomes =>
      cases h
      exact .outcomes ht
  | checkAlive => exact serve_of_advance ht .checkAlive h
  | incoming => exact incomingStep_cases ht h
  | maintenance => exact serve_of_advance ht .maintenance h
  | pollTimer => exact serve_of_advance ht .pollTimer h
  | transmit => exact transmitStep_cases ht h
  | refresh => exact serve_of_advance ht .refresh h
  | system _ | establish _ _ _ _ _ => cases h

theorem systemStep_cases {label : Label} (h : w.systemStep H label = some w') :
    WgMove H w l w' := by
  simp only [systemStep] at h
  split at h
  · next hfree =>
      obtain ⟨sys, hstep, rfl⟩ := Option.map_eq_some_iff.mp h
      exact .system hfree.1 hstep
  · cases h

theorem establishStep_cases {tunn : G.Tunn} {outcomes : List Bool} {initiated start : Time}
    {events : List (Time × HandshakeEvent)} (ht : w.tunnel = none)
    (h : w.establishStep H tunn outcomes initiated start events = some w') : WgMove H w l w' := by
  simp only [establishStep] at h
  split at h
  · next hok =>
      obtain ⟨sys, hstep, rfl⟩ := advance_eq h
      exact .establish ht hok hstep
  · cases h

theorem step_cases (h : w.step H l = some w') : WgMove H w l w' := by
  simp only [step] at h
  split at h
  · exact systemStep_cases h
  · next ht =>
      split at h
      · cases h
      · exact establishStep_cases ht h
  · next ht =>
      split at h
      · cases h
      · exact tunnelStep_cases ht h
  · cases h

theorem step_refines (h : w.step H l = some w') :
    Run.Reaches (System.step H) Run.Any w.sys w'.sys := by
  cases step_cases h with
  | system _ hstep => exact .single trivial hstep
  | serve _ _ hstep => exact .single trivial hstep
  | establish _ _ hstep => exact .single trivial hstep
  | outcomes | panic => exact .refl _

-- What holds of the loop and its tunnel between two steps.
structure Sound (w : WgSystem S G) : Prop where
  connected : w.tunnel.isSome = true → w.sys.connected = true
  ordered : ∀ t, w.tunnel = some t → t.Ordered w.wg.clientId
  flushed : ∀ t, w.tunnel = some t → w.sys.pc.clean = true → t.sendQueue = []

theorem Sound.flushedAt (hw : Sound w) {t : WgTunnel G} (ht : w.tunnel = some t)
    (hpc : w.sys.pc.clean = true) : t.Flushed w.wg.clientId :=
  ⟨hw.ordered t ht, hw.flushed t ht hpc⟩

theorem sound_none (hnone : w.tunnel = none) : Sound w := by
  refine ⟨fun h => ?_, fun t ht => ?_, fun t ht => ?_⟩
  · rw [hnone] at h
    cases h
  · rw [hnone] at ht
    cases ht
  · rw [hnone] at ht
    cases ht

theorem sound_of_tunnel {sys : System S} {t : WgTunnel G} (ht : t.Ordered w.wg.clientId)
    (hclean : sys.pc.clean = true → t.sendQueue = []) :
    Sound { w with sys, tunnel := if sys.connected then some t else none } := by
  by_cases hc : sys.connected = true
  · rw [if_pos hc]
    refine ⟨fun _ => hc, fun u hu => ?_, fun u hu => ?_⟩
    · cases hu
      exact ht
    · cases hu
      exact hclean
  · rw [if_neg hc]
    exact sound_none rfl

theorem polled_flushed {clientId : ClientId} {t : WgTunnel G} (ht : t.Flushed clientId)
    (now : Time) (sys : System S) : (polled now t sys).Flushed clientId := by
  simp only [polled]
  split
  · exact ht.toOrdered.flushPending now
  · exact ht

theorem Serves.flushes (hw : Sound w) {t : WgTunnel G} (ht : w.tunnel = some t) {choice : Choice}
    {tunnel : System S → WgTunnel G} (h : Serves w t choice tunnel) {sys : System S}
    (hstep : w.sys.step H (.manager choice) = some sys) :
    (tunnel sys).Ordered w.wg.clientId ∧ (sys.pc.clean = true → (tunnel sys).sendQueue = []) := by
  have ho := hw.ordered t ht
  have hselect : (∃ schedule, w.sys.pc = .select schedule) → t.Flushed w.wg.clientId := by
    rintro ⟨schedule, hpc⟩
    exact hw.flushedAt ht (by rw [hpc]; rfl)
  cases h with
  | checkAlive =>
      have hpc := System.checkAlive_pc hstep
      exact ⟨ho, fun _ => hw.flushed t ht (by rw [hpc]; rfl)⟩
  | datagram _ =>
      refine ⟨ho.decryptIncoming _ _, fun hc => ?_⟩
      rw [System.incoming_clean hstep] at hc
      cases hc
  | event =>
      refine ⟨ho, fun hc => ?_⟩
      rw [System.incoming_clean hstep] at hc
      cases hc
  | maintenance =>
      have hf := (hselect (System.maintenance_pc hstep)).maintain w.now
      exact ⟨hf.toOrdered, fun _ => hf.empty⟩
  | pollTimer =>
      have hf := polled_flushed (hselect (System.pollTimer_pc hstep)) w.now sys
      exact ⟨hf.toOrdered, fun _ => hf.empty⟩
  | transmit hdrain =>
      have hf := polled_flushed (ho.drainStackPackets hdrain) w.now sys
      exact ⟨hf.toOrdered, fun _ => hf.empty⟩
  | refresh =>
      have hf := ho.flushPending w.now
      exact ⟨hf.toOrdered, fun _ => hf.empty⟩

theorem step_wg (h : w.step H l = some w') : w'.wg = w.wg := by
  cases step_cases h <;> rfl

theorem step_sound (hw : Sound w) (h : w.step H l = some w') : Sound w' := by
  cases step_cases h with
  | @system _ label sys hfree hstep =>
      cases ht : w.tunnel with
      | none =>
          rw [ite_self]
          exact sound_none rfl
      | some t =>
          exact sound_of_tunnel (hw.ordered t ht) (fun hc =>
            hw.flushed t ht (System.step_clean hfree hstep hc))
  | serve ht hserves hstep =>
      obtain ⟨ho, hclean⟩ := hserves.flushes hw ht hstep
      exact sound_of_tunnel ho hclean
  | outcomes ht =>
      refine ⟨fun _ => hw.connected (by rw [ht]; rfl), fun u hu => ?_, fun u hu => ?_⟩
      · cases hu
        exact ⟨(hw.ordered _ ht).wire, (hw.ordered _ ht).clientId⟩
      · have hf := hw.flushed _ ht
        cases hu
        exact hf
  | @establish _ tunn outcomes initiated start events t _ _ hok _ =>
      have hnew : (w.newTunnel tunn outcomes).Flushed w.wg.clientId := ⟨⟨rfl, rfl⟩, rfl⟩
      have hf := hnew.establish initiated start handshakeTimeout events
      rw [hok] at hf
      exact sound_of_tunnel hf.toOrdered (fun _ => hf.empty)
  | panic _ _ _ => exact sound_none rfl

theorem init_sound (params : ConnectionParams) (wg : WgParams) : Sound (init S G params wg) :=
  sound_none rfl

theorem Reachable.sound {params : ConnectionParams} {wg : WgParams}
    (h : Reachable H params wg w) : Sound w ∧ w.wg = wg :=
  Run.Reaches.invariant (I := fun w => Sound w ∧ w.wg = wg)
    (fun _ _ _ hw _ hstep => ⟨step_sound hw.1 hstep, (step_wg hstep).trans hw.2⟩) h
    ⟨init_sound params wg, rfl⟩

-- At any time the datagrams offered to the socket, then the send queue, are what the tunnel's Tunn
-- gave out since the handshake began; before each select! nothing is left in the send queue.
theorem Reachable.wire_order {params : ConnectionParams} {wg : WgParams}
    (h : Reachable H params wg w) {t : WgTunnel G} (ht : w.tunnel = some t) :
    t.socket.offered.map Prod.fst ++ t.sendQueue =
        t.emitted.map (fun kind => withClientId wg.clientId (G.intoPacket kind)) ∧
      (w.sys.pc.clean = true → t.sendQueue = []) := by
  obtain ⟨hw, rfl⟩ := h.sound
  have ho := hw.ordered t ht
  refine ⟨?_, hw.flushed t ht⟩
  rw [ho.wire, WgTunnel.wire, ho.clientId]

theorem wire_order_connecting :
    ∃ (w : WgScript.Reached) (t : WgTunnel Reference.gotatun), w.tunnel = some t ∧
      t.emitted.length = 2 ∧
      t.socket.offered.map Prod.fst ++ t.sendQueue =
        t.emitted.map (fun kind =>
          withClientId WgScript.wgParams.clientId (Reference.gotatun.intoPacket kind)) := by
  have h : (WgScript.run (WgScript.establish ++ WgScript.connect)).any (fun w =>
      w.tunnel.any (fun t => t.emitted.length = 2)) = true := by decide +kernel
  obtain ⟨w, hw, hp⟩ := WgScript.exists_reachable h
  obtain ⟨t, ht, hlen⟩ := (Option.any_eq_true _ _).mp hp
  exact ⟨w, t, ht, of_decide_eq_true hlen, (hw.wire_order ht).1⟩

end WgSystem

end Usque
