import Usque.Manager.ShutdownDeadlock
import Usque.Masque.DrainRounds
import Usque.Masque.ManagerSteps
import Usque.Masque.QueuedPackets
import Usque.Masque.WorkerSteps

namespace Usque

variable {S : Smoltcp} {H : Hickory}

namespace MasqueIo

variable {tunables : MasqueIoTunables} {io io' : MasqueIo}

theorem withSystem_effect {sys : System S} (ht : Tidy io)
    (hqueue : io.device.txQueue <+: sys.rt.stack.device.txQueue)
    (hroom : (io.withSystem sys).outbound.length < 2 ^ 64) : Effect io (io.withSystem sys) := by
  obtain ⟨packets, hpackets⟩ := hqueue
  have hpath : (io.withSystem sys).path = io.path.push packets := by
    simp only [path, outbound, managerHand, withSystem, Fifo.push, ← hpackets, List.drop_left,
      List.append_assoc]
  refine ⟨hpath ▸ .push _ _ ?_, .rests rfl rfl rfl, ⟨ht.kept, ht.cleared, ht.held⟩⟩
  have hlen := congrArg (fun f => f.queue.length) hpath
  simp only [Fifo.push, List.length_append] at hlen
  rw [← hlen]
  exact Nat.le_of_lt_succ hroom

theorem Effect.ordered (h : Effect io io') (hio : Ordered io) : Ordered io' :=
  ⟨h.path.conserved hio.path, h.path.bounded hio.bounded, h.tidy⟩

theorem Effect.counted (h : Effect io io') (hio : Ordered io) (hc : Counted io) : Counted io' :=
  h.counting.counted hc (h.ordered hio).bounded

def onOffer (io : MasqueIo) : List Packet := (io.worker.offer.map TransportIoEvent.packets).getD []

theorem counted_new (mtu queueCapacity connectStreamId : Nat) :
    Counted (new mtu queueCapacity connectStreamId) :=
  ⟨rfl, rfl, Nat.two_pow_pos 64⟩

theorem fetchAdd_keeps (h : io.fetchAdd = some io') :
    io'.incoming = io.incoming ∧ io'.worker = io.worker := by
  simp only [fetchAdd] at h
  split at h <;> cases h
  exact ⟨rfl, rfl⟩

end MasqueIo

theorem MasqueDrain.Draining.congr {batchSize budget : Nat} {stack : NetworkStack S}
    {d : MasqueDrain} {tunnel : ActiveTunnel} {io io' : MasqueIo} {pc : DrainPc}
    (h : Draining batchSize budget stack d tunnel io pc) (hdevice : io'.device = io.device) :
    Draining batchSize budget stack d tunnel io' pc :=
  ⟨hdevice ▸ h.device, hdevice ▸ h.fits, hdevice ▸ h.reaches⟩

-- The labels of the loop outside its transmit stage, and of those around it.
def MasqueLabel.ofLoop : MasqueLabel → Bool
  | .system _ | .checkAlive _ | .refresh => true
  | _ => false

namespace MasqueSystem

variable {w w' : MasqueSystem S} {l : MasqueLabel}

inductive Drains (w : MasqueSystem S) (io : MasqueIo) (d : MasqueDrain) :
    MasqueDrain → ActiveTunnel → MasqueIo → Prop where
  | collect {io' : MasqueIo} (h : io.collect w.drainTunables = some io') :
      Drains w io d d w.sys.tunnel io'
  | trySend {io' : MasqueIo} {answer : SendResult}
      (h : io.trySend w.drainTunables answer = some io') :
      Drains w io d { d with answers := d.answers ++ [answer] } (w.sys.tunnel.answered w.now answer)
        io'
  | fetchAdd {io' : MasqueIo} (h : io.fetchAdd = some io') : Drains w io d d w.sys.tunnel io'

inductive MasqueMove (H : Hickory) (w : MasqueSystem S) : MasqueLabel → MasqueSystem S → Prop where
  | alone {l : MasqueLabel} {label : Label} {sys : System S} (hio : w.io = none)
      (hfree : label.masqueFree = true) (hstep : w.sys.step H label = some sys) :
      MasqueMove H w l { w with sys }
  | runs {l : MasqueLabel} {label : Label} {io : MasqueIo} {sys : System S}
      (hl : l.ofLoop = true) (hio : w.io = some io)
      (hfree : label.masqueFree = true ∨ label.ofManager = true) (hkeeps : label.isTransmit = false)
      (hdrain : label.ofManager = true → w.drain = none) (hstep : w.sys.step H label = some sys)
      (hup : sys.connected = true) (hroom : (io.withSystem sys).outbound.length < 2 ^ 64) :
      MasqueMove H w l { w with
        sys
        io := some (io.withSystem sys)
        handled := w.handled ++ w.sys.takenPackets label }
  | ends {l : MasqueLabel} {label : Label} {io : MasqueIo} {sys : System S}
      (hl : l.ofLoop = true) (hio : w.io = some io)
      (hfree : label.masqueFree = true ∨ label.ofManager = true) (hkeeps : label.isTransmit = false)
      (hdrain : label.ofManager = true → w.drain = none) (hstep : w.sys.step H label = some sys)
      (hdown : sys.connected = false) :
      MasqueMove H w l { w with sys, io := none, drain := none }
  | worker {label : MasqueIo.Label} {io io' : MasqueIo} (hio : w.io = some io)
      (hlabel : label.ofWorker = true) (hstep : io.step w.ioTunables label = some io') :
      MasqueMove H w (.worker label) { w with
        sys := w.sys.withIo io'
        io := some io'
        offered := w.offered ++ io.offers io' }
  | establish {mtu connectStreamId : Nat} {sys : System S} (hio : w.io = none)
      (hstep : w.sys.step H (.manager (.establish mtu)) = some sys) :
      MasqueMove H w (.establish mtu connectStreamId) { w with
        sys
        io := some (.new mtu w.sys.params.stackTunables.deviceQueueCapacity connectStreamId)
        offered := []
        handled := [] }
  | blocked {dirtyCycle : Bool} {io : MasqueIo} (hio : w.io = some io)
      (hpc : w.sys.pc = .transmit dirtyCycle) (hdrain : w.drain = none)
      (hblocked : w.sys.tunnel.masqueDrainBlocked w.now = true) :
      MasqueMove H w .beginDrain
        { w with sys := { w.sys with pc := System.afterTransmit dirtyCycle } }
  | begins {dirtyCycle : Bool} {io io' : MasqueIo} (hio : w.io = some io)
      (hpc : w.sys.pc = .transmit dirtyCycle) (hdrain : w.drain = none)
      (hblocked : w.sys.tunnel.masqueDrainBlocked w.now = false)
      (hbegin : io.beginDrain = some io') :
      MasqueMove H w .beginDrain
        { w with io := some io', drain := some ⟨w.sys.tunnel, w.sys.rt.stack.device, []⟩ }
  | drains {l : MasqueLabel} {io io' : MasqueIo} {d d' : MasqueDrain} {tunnel : ActiveTunnel}
      (hl : l.ofLoop = false) (hio : w.io = some io) (hdrain : w.drain = some d)
      (hdrains : Drains w io d d' tunnel io') :
      MasqueMove H w l (w.drained d' io' tunnel)

theorem advance_cases {label : Label} {io : MasqueIo} (hl : l.ofLoop = true) (hio : w.io = some io)
    (hfree : label.masqueFree = true ∨ label.ofManager = true) (hkeeps : label.isTransmit = false)
    (h : w.advance H label = some w') : MasqueMove H w l w' := by
  simp only [advance] at h
  split at h
  next hidle =>
    have hdrain : label.ofManager = true → w.drain = none := fun hm =>
      Option.isNone_iff_eq_none.mp (hidle hm)
    obtain ⟨sys, hstep, h⟩ := Option.bind_eq_some_iff.mp h
    simp only [settle, hio] at h
    split at h
    next hup =>
      split at h
      next hroom =>
        cases h
        exact .runs hl hio hfree hkeeps hdrain hstep hup hroom
      · cases h
    next hdown =>
      cases h
      exact .ends hl hio hfree hkeeps hdrain hstep (Bool.eq_false_iff.mpr hdown)
  · cases h

theorem systemStep_cases {label : Label} (h : w.systemStep H label = some w') :
    MasqueMove H w (.system label) w' := by
  simp only [systemStep] at h
  split at h
  next hfree =>
    have hkeeps : label.isTransmit = false := by
      cases label with
      | manager choice => cases choice <;> first | rfl | cases hfree
      | _ => rfl
    cases hio : w.io with
    | some io => exact advance_cases rfl hio (.inl hfree) hkeeps h
    | none =>
        simp only [advance] at h
        split at h
        · obtain ⟨sys, hstep, h⟩ := Option.bind_eq_some_iff.mp h
          simp only [settle, hio] at h
          cases h
          have hmove := MasqueMove.alone (l := .system label) hio hfree hstep
          rwa [hio] at hmove
        · cases h
  · cases h

theorem drainStep_cases {io : MasqueIo} {d : MasqueDrain} (hio : w.io = some io)
    (hdrain : w.drain = some d) (h : w.drainStep io d l = some w') : MasqueMove H w l w' := by
  simp only [drainStep] at h
  split at h
  · obtain ⟨io', hstep, rfl⟩ := Option.map_eq_some_iff.mp h
    exact .drains rfl hio hdrain (.collect hstep)
  · obtain ⟨io', hstep, rfl⟩ := Option.map_eq_some_iff.mp h
    exact .drains rfl hio hdrain (.trySend hstep)
  · obtain ⟨io', hstep, rfl⟩ := Option.map_eq_some_iff.mp h
    exact .drains rfl hio hdrain (.fetchAdd hstep)
  · cases h

theorem beginDrain_cases {io : MasqueIo} (hio : w.io = some io)
    (h : w.beginDrain io = some w') : MasqueMove H w .beginDrain w' := by
  simp only [beginDrain] at h
  split at h
  next hpc hdrain =>
    split at h
    next hblocked =>
      cases h
      exact .blocked hio hpc hdrain hblocked
    next hblocked =>
      obtain ⟨io', hbegin, rfl⟩ := Option.map_eq_some_iff.mp h
      exact .begins hio hpc hdrain (Bool.eq_false_iff.mpr hblocked) hbegin
  · cases h

theorem tunnelStep_cases {io : MasqueIo} (hio : w.io = some io)
    (h : w.tunnelStep H io l = some w') : MasqueMove H w l w' := by
  simp only [tunnelStep] at h
  split at h
  · simp only [workerStep] at h
    split at h
    next hlabel =>
      obtain ⟨io', hstep, rfl⟩ := Option.map_eq_some_iff.mp h
      exact .worker hio hlabel hstep
    · cases h
  · split at h
    · exact advance_cases rfl hio (.inr rfl) rfl h
    · cases h
  · exact beginDrain_cases hio h
  · exact advance_cases rfl hio (.inr rfl) rfl h
  · obtain ⟨d, hd, h⟩ := Option.bind_eq_some_iff.mp h
    exact drainStep_cases hio hd h

theorem step_cases (h : w.step H l = some w') : MasqueMove H w l w' := by
  simp only [step] at h
  split at h
  · exact systemStep_cases h
  next hio =>
    obtain ⟨sys, hstep, rfl⟩ := Option.map_eq_some_iff.mp h
    exact .establish hio hstep
  next hio => exact tunnelStep_cases hio h
  · cases h

end MasqueSystem

end Usque
