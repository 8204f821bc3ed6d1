import Usque.Manager.Script
import Usque.Manager.TxQueue
import Usque.Masque.Coupling

namespace Usque

variable {S : Smoltcp} {H : Hickory}

namespace MasqueSystem

open MasqueIo

variable {w w' : MasqueSystem S} {l : MasqueLabel} {io io' : MasqueIo} {d : MasqueDrain}

-- The loop is in its transmit stage, and the drain in one go would not be held back either.
structure Transmits (w : MasqueSystem S) (d : MasqueDrain) : Prop where
  stage : ∃ dirtyCycle, w.sys.pc = .transmit dirtyCycle
  released : d.tunnel.masqueDrainBlocked w.now = false

def DrainingAt (w : MasqueSystem S) (io : MasqueIo) (d : MasqueDrain) (pc : DrainPc) : Prop :=
  d.Draining w.sys.rt.tunables.masqueSendBatchSize w.sys.rt.tunables.masqueStackDrainBudget
    (w.sys.rewound d).rt.stack w.sys.tunnel io pc

structure Coupled (w : MasqueSystem S) (io : MasqueIo) : Prop where
  connected : w.sys.connected = true
  device : io.device = w.sys.rt.stack.device
  incoming : io.incoming = ⟨w.sys.incomingRx, false, .looping⟩
  idle : w.drain = none → io.drain = none
  draining : ∀ d, w.drain = some d →
    Transmits w d ∧ ∃ pc, io.drain = some pc ∧ DrainingAt w io d pc
  ordered : Ordered io
  counted : MasqueIo.Counted io
  heard : w.offered =
    w.handled ++ w.sys.incomingRx.flatMap TransportIoEvent.packets ++ io.onOffer

structure Sound (w : MasqueSystem S) : Prop where
  mode : w.sys.params.tunnelMode = .masque
  masque : w.sys.tunnel.isMasque = true
  quiet : w.sys.Quiet
  alone : w.io = none → w.drain = none
  coupled : ∀ io, w.io = some io → Coupled w io

theorem sound_of_coupled (hmode : w.sys.params.tunnelMode = .masque)
    (hmasque : w.sys.tunnel.isMasque = true) (hio : w.io = some io) (h : Coupled w io) :
    Sound w := by
  refine ⟨hmode, hmasque, System.quiet_of_up (System.connected_iff.mp h.connected), ?_, ?_⟩
  · intro hnone
    cases hio.symm.trans hnone
  · intro io' hio'
    rw [hio] at hio'
    cases hio'
    exact h

theorem DrainingAt.stays {pc : DrainPc} (h : DrainingAt w io d pc)
    (hdevice : io'.device = io.device)
    (hstack : (w'.sys.rewound d).rt.stack = (w.sys.rewound d).rt.stack)
    (htunables : w'.sys.rt.tunables = w.sys.rt.tunables) (htunnel : w'.sys.tunnel = w.sys.tunnel) :
    DrainingAt w' io' d pc := by
  have hat := h.congr hdevice
  rw [DrainingAt, hstack, htunables, htunnel]
  exact hat

section system

variable {label : Label} {sys : System S}

theorem runs_coupled (hw : Coupled w io)
    (hfree : label.masqueFree = true ∨ label.ofManager = true) (hkeeps : label.isTransmit = false)
    (hdrain : label.ofManager = true → w.drain = none) (hstep : w.sys.step H label = some sys)
    (hup : sys.connected = true) (hroom : (io.withSystem sys).outbound.length < 2 ^ 64) :
    Coupled { w with
      sys
      io := some (io.withSystem sys)
      handled := w.handled ++ w.sys.takenPackets label } (io.withSystem sys) := by
  have hqueue : io.device.txQueue <+: sys.rt.stack.device.txQueue := by
    rw [hw.device]
    exact System.step_queues hkeeps hw.connected hup hstep
  have heffect := withSystem_effect hw.ordered.tidy hqueue hroom
  refine ⟨hup, rfl, ?_, hw.idle, fun d hd => ?_, heffect.ordered hw.ordered,
    heffect.counted hw.ordered hw.counted, ?_⟩
  · simp only [withSystem, hw.incoming]
  · obtain ⟨hm, pc, hpc, hat⟩ := hw.draining d hd
    have hl : label.ofManager = false := by
      rw [Bool.eq_false_iff]
      intro hlabel
      rw [show w.drain = some d from hd] at hdrain
      cases hdrain hlabel
    have hstay := System.step_bystands hl (System.Label.masqueFree_of hl hfree) hstep
    refine ⟨⟨?_, ActiveTunnel.masqueDrainBlocked_mono hstay.now hm.released⟩, pc, hpc, ?_⟩
    · exact hstay.pc.symm ▸ hm.stage
    · refine hat.stays ?_ ?_ hstay.tunables hstay.tunnel
      · rw [hw.device, ← hstay.stack]
        rfl
      · simp only [System.rewound, System.withDevice, hstay.stack]
  · have htaken := System.step_taken hfree hup hstep
    rw [hw.heard, htaken]
    simp only [List.append_assoc]
    rfl

end system

-- What the worker has begun to offer, and what the channel has got of it.
theorem heard_turn {label : MasqueIo.Label} (hw : Coupled w io)
    (hturn : WorkerTurn w.ioTunables label io io') :
    w.offered ++ io.offers io' =
      w.handled ++ io'.incoming.incomingRx.flatMap TransportIoEvent.packets ++ io'.onOffer := by
  have hincoming : io.incoming.incomingRx = w.sys.incomingRx := by rw [hw.incoming]
  rw [hw.heard]
  cases hturn.hears with
  | quiet hsame hoffer =>
      simp only [offers, onOffer, hoffer, hsame, hincoming]
      cases io.worker.offer <;> simp
  | begins event hsame hoffer hoffer' _ =>
      simp [offers, onOffer, hoffer, hoffer', hsame, hincoming]
  | notice event hevent _ hpush hoffer hoffer' =>
      simp [offers, onOffer, hpush, hoffer, hoffer', IncomingTask.push, hincoming, hevent]
  | delivers event hoffer _ hpush hoffer' =>
      simp [offers, onOffer, hpush, hoffer, hoffer', IncomingTask.push, hincoming]

theorem worker_coupled {label : MasqueIo.Label} (hw : Coupled w io)
    (hlabel : label.ofWorker = true) (hstep : io.step w.ioTunables label = some io') :
    Coupled { w with
      sys := w.sys.withIo io'
      io := some io'
      offered := w.offered ++ io.offers io' } io' := by
  have hphase : io.incoming.phase = .looping := by rw [hw.incoming]
  have hturn := worker_turn hlabel hphase hstep
  have heffect := step_effect hstep hw.ordered.tidy
  refine ⟨hw.connected, rfl, ?_, fun hd => hturn.drain.trans (hw.idle hd), fun d hd => ?_,
    heffect.ordered hw.ordered, heffect.counted hw.ordered hw.counted, heard_turn hw hturn⟩
  · cases hturn.hears with
    | quiet hsame _ | begins _ hsame _ _ _ =>
        simp only [System.withIo, hsame, hw.incoming]
    | notice _ _ _ hpush _ _ | delivers _ _ _ hpush _ =>
        simp only [System.withIo, hpush, hw.incoming, IncomingTask.push]
  · obtain ⟨hm, pc, hpc, hat⟩ := hw.draining d hd
    exact ⟨⟨hm.stage, hm.released⟩, pc, hturn.drain.trans hpc, hat.stays hturn.device rfl rfl rfl⟩

theorem begins_coupled {dirtyCycle : Bool} (hsound : Sound w) (hw : Coupled w io)
    (hpc : w.sys.pc = .transmit dirtyCycle)
    (hblocked : w.sys.tunnel.masqueDrainBlocked w.now = false) (hbegin : io.beginDrain = some io') :
    Coupled { w with
      io := some io'
      drain := some ⟨w.sys.tunnel, w.sys.rt.stack.device, []⟩ } io' := by
  have hstep : io.step w.drainTunables .beginDrain = some io' := hbegin
  have heffect := step_effect hstep hw.ordered.tidy
  simp only [MasqueIo.beginDrain] at hbegin
  split at hbegin <;> cases hbegin
  refine ⟨hw.connected, hw.device, hw.incoming, fun hnone => (by cases hnone), fun d hd => ?_,
    heffect.ordered hw.ordered, heffect.counted hw.ordered hw.counted, hw.heard⟩
  cases hd
  refine ⟨⟨⟨dirtyCycle, hpc⟩, hblocked⟩, .collecting 0 [], rfl, ?_⟩
  obtain ⟨streak, blockedUntil, htunnel⟩ := ActiveTunnel.isMasque_iff.mp hsound.masque
  simp only [DrainingAt, htunnel]
  exact MasqueDrain.begins hw.device

-- One step of the drain, seen against the drain in one go.
structure DrainTurn (w : MasqueSystem S) (io : MasqueIo) (d d' : MasqueDrain)
    (tunnel : ActiveTunnel) (io' : MasqueIo) : Prop where
  incoming : io'.incoming = io.incoming
  worker : io'.worker = io.worker
  effect : MasqueIo.Effect io io'
  isMasque : tunnel.isMasque = true
  begun : d'.tunnel = d.tunnel ∧ d'.device = d.device
  advanced : d'.Advanced w.sys.rt.tunables.masqueSendBatchSize
    w.sys.rt.tunables.masqueStackDrainBudget (w.sys.rewound d).rt.stack w.now tunnel io'

theorem Drains.turn {d' : MasqueDrain} {tunnel : ActiveTunnel}
    (hmasque : w.sys.tunnel.isMasque = true) (ht : Tidy io) {pc : DrainPc} (hpc : io.drain = some pc) (hat : DrainingAt w io d pc)
    (h : Drains w io d d' tunnel io') : DrainTurn w io d d' tunnel io' := by
  cases h with
  | collect h =>
      obtain ⟨hincoming, hworker⟩ := collect_keeps h
      exact ⟨hincoming, hworker, collect_effect h ht, hmasque, ⟨rfl, rfl⟩,
        MasqueDrain.collect_advances h hpc hat⟩
  | @trySend _ answer h =>
      obtain ⟨hincoming, hworker⟩ := trySend_keeps h
      refine ⟨hincoming, hworker, trySend_effect h ht,
        ActiveTunnel.answered_isMasque hmasque w.now answer, ⟨rfl, rfl⟩, ?_⟩
      obtain ⟨streak, blockedUntil, htunnel⟩ := ActiveTunnel.isMasque_iff.mp hmasque
      rw [DrainingAt, htunnel] at hat
      rw [htunnel]
      exact MasqueDrain.trySend_advances h hpc hat
  | fetchAdd h =>
      obtain ⟨hincoming, hworker⟩ := fetchAdd_keeps h
      exact ⟨hincoming, hworker, fetchAdd_effect h ht, hmasque, ⟨rfl, rfl⟩,
        MasqueDrain.fetchAdd_advances h hpc hat⟩

theorem drained_some {d' : MasqueDrain} {tunnel : ActiveTunnel} {pc : DrainPc}
    (hpc : io'.drain = some pc) :
    w.drained d' io' tunnel =
      { w with sys := { w.sys.withIo io' with tunnel }, io := some io', drain := some d' } := by
  simp only [drained, hpc]

theorem drained_none {d' : MasqueDrain} {tunnel : ActiveTunnel} {dirtyCycle : Bool}
    (hnone : io'.drain = none) (hstage : w.sys.pc = .transmit dirtyCycle) :
    w.drained d' io' tunnel =
      { w with
        sys := { w.sys.withIo io' with tunnel, pc := System.afterTransmit dirtyCycle }
        io := some io'
        drain := none } := by
  simp only [drained, hnone, hstage]

theorem afterTransmit_up (dirtyCycle : Bool) : (System.afterTransmit dirtyCycle).up = true := by
  cases dirtyCycle <;> rfl

theorem drains_sound (hsound : Sound w) (hw : Coupled w io) (hd : w.drain = some d)
    {d' : MasqueDrain} {tunnel : ActiveTunnel} (h : Drains w io d d' tunnel io') :
    Sound (w.drained d' io' tunnel) := by
  obtain ⟨hm, pc, hpc, hat⟩ := hw.draining d hd
  have hturn := h.turn hsound.masque hw.ordered.tidy hpc hat
  have hheard : w.offered = w.handled ++
      io'.incoming.incomingRx.flatMap TransportIoEvent.packets ++ io'.onOffer := by
    rw [hw.heard, hturn.incoming, hw.incoming, onOffer, onOffer, hturn.worker]
  have hincoming : io'.incoming = ⟨io'.incoming.incomingRx, false, .looping⟩ := by
    rw [hturn.incoming, hw.incoming]
  have hordered := hturn.effect.ordered hw.ordered
  have hcounted := hturn.effect.counted hw.ordered hw.counted
  cases hpc' : io'.drain with
  | none =>
      obtain ⟨dirtyCycle, hstage⟩ := hm.stage
      rw [drained_none hpc' hstage]
      refine sound_of_coupled hsound.mode hturn.isMasque rfl
        ⟨System.connected_iff.mpr (afterTransmit_up dirtyCycle), rfl, hincoming, fun _ => hpc',
          fun e he => (by cases he),
          hordered, hcounted, hheard⟩
  | some pc' =>
      rw [drained_some hpc']
      refine sound_of_coupled hsound.mode hturn.isMasque rfl
        ⟨hw.connected, rfl, hincoming, fun hnone => (by cases hnone),
          fun e he => ?_, hordered, hcounted, hheard⟩
      cases he
      obtain ⟨htunnel, hdevice⟩ := hturn.begun
      refine ⟨⟨hm.stage, ?_⟩, pc', hpc', ?_⟩
      · rw [htunnel]
        exact hm.released
      · have hgoes := hturn.advanced.goes pc' hpc'
        simp only [DrainingAt, System.rewound, System.withDevice, hdevice] at hgoes ⊢
        exact hgoes

theorem establish_eq {s t : System S} {mtu : Nat}
    (h : s.step H (.manager (.establish mtu)) = some t) :
    s.pc = .disconnected ∧ t = { s with
      rt := System.freshRuntime S s.params mtu s.rt.session s.rt.shared
      tunnel := .fromConn s.params.tunnelMode s.params.managerTunables s.rt.shared.now
      pc := .loopHead } := by
  cases System.managerStep_cases h with
  | establish down => exact ⟨down, rfl⟩
  | turn _ _ hc => cases hc
  | teardown _ hc => cases hc

theorem establish_sound {mtu connectStreamId : Nat} {sys : System S} (hsound : Sound w)
    (hio : w.io = none) (hstep : w.sys.step H (.manager (.establish mtu)) = some sys) :
    Sound { w with
      sys
      io := some (.new mtu w.sys.params.stackTunables.deviceQueueCapacity connectStreamId)
      offered := []
      handled := [] } := by
  obtain ⟨down, rfl⟩ := establish_eq hstep
  have hnone := hsound.alone hio
  refine sound_of_coupled hsound.mode ?_ rfl ⟨rfl, rfl, ?_, fun _ => rfl, fun d hd => ?_,
    ordered_new _ _ _, counted_new _ _ _, ?_⟩
  · simp only [hsound.mode]
    rfl
  · simp only [MasqueIo.new, IncomingTask.new, hsound.quiet down]
  · rw [show w.drain = some d from hd] at hnone
    cases hnone
  · simp only [hsound.quiet down]
    rfl

theorem step_sound (hsound : Sound w) (h : w.step H l = some w') : Sound w' := by
  cases step_cases h with
  | alone hio hfree hstep =>
      refine ⟨?_, System.step_isMasque hsound.mode hsound.masque (.inl hfree) hstep,
        System.step_quiet hsound.quiet (.inl hfree) hstep, hsound.alone, fun io hsome => ?_⟩
      · rw [(System.step_changed hstep).1]
        exact hsound.mode
      · rw [show w.io = some io from hsome] at hio
        cases hio
  | runs _ hio hfree hkeeps hdrain hstep hup hroom =>
      refine sound_of_coupled ?_ (System.step_isMasque hsound.mode hsound.masque hfree hstep) rfl
        (runs_coupled (hsound.coupled _ hio) hfree hkeeps hdrain hstep hup hroom)
      rw [(System.step_changed hstep).1]
      exact hsound.mode
  | ends _ hio hfree hkeeps hdrain hstep hdown =>
      refine ⟨?_, System.step_isMasque hsound.mode hsound.masque hfree hstep,
        System.step_quiet hsound.quiet hfree hstep, fun _ => rfl, fun io hsome => ?_⟩
      · rw [(System.step_changed hstep).1]
        exact hsound.mode
      · cases hsome
  | worker hio hlabel hstep =>
      exact sound_of_coupled hsound.mode hsound.masque rfl
        (worker_coupled (hsound.coupled _ hio) hlabel hstep)
  | establish hio hstep => exact establish_sound hsound hio hstep
  | @blocked dirtyCycle io hio hpc hdrain hblocked =>
      have hw := hsound.coupled _ hio
      refine sound_of_coupled hsound.mode hsound.masque hio
        ⟨System.connected_iff.mpr (afterTransmit_up dirtyCycle), hw.device, hw.incoming, hw.idle,
          fun d hd => ?_, hw.ordered, hw.counted, hw.heard⟩
      rw [show w.drain = some d from hd] at hdrain
      cases hdrain
  | begins hio hpc hdrain hblocked hbegin =>
      exact sound_of_coupled hsound.mode hsound.masque rfl
        (begins_coupled hsound (hsound.coupled _ hio) hpc hblocked hbegin)
  | drains _ hio hdrain hdrains =>
      exact drains_sound hsound (hsound.coupled _ hio) hdrain hdrains

theorem init_sound (params : ConnectionParams) (ioChannelCapacity : Nat) :
    Sound (init S params ioChannelCapacity) := by
  refine ⟨rfl, rfl, fun _ => rfl, fun _ => rfl, fun io hio => ?_⟩
  cases hio

-- The loop as it was when its drain began; the rest of the system goes on.
def whole (w : MasqueSystem S) : System S :=
  match w.drain with
  | none => w.sys
  | some d => w.sys.rewound d

theorem whole_none (h : w.drain = none) : w.whole = w.sys := by
  simp only [whole, h]

theorem whole_some (h : w.drain = some d) : w.whole = w.sys.rewound d := by
  simp only [whole, h]

theorem whole_step {label : Label} {sys : System S} (hl : w.drain = none ∨ label.ofManager = false)
    (hstep : w.sys.step H label = some sys) (hdrain : w'.drain = w.drain) (hsys : w'.sys = sys) :
    Run.Reaches (System.step H) Run.Any w.whole w'.whole := by
  subst hsys
  cases hd : w.drain with
  | none =>
      rw [whole_none hd, whole_none (hdrain.trans hd)]
      exact .single trivial hstep
  | some d =>
      rw [whole_some hd, whole_some (hdrain.trans hd)]
      rcases hl with hnone | hl
      · rw [hd] at hnone
        cases hnone
      · exact .single trivial (System.step_rewound hl d hstep)

theorem withIo_eq {s : System S} (hdevice : io.device = s.rt.stack.device) :
    s.withIo io = { s with incomingRx := io.incoming.incomingRx } := by
  simp only [System.withIo, System.withDevice, hdevice]

theorem ends_idle {label : Label} {sys : System S} (hw : Coupled w io)
    (hfree : label.masqueFree = true ∨ label.ofManager = true)
    (hdrain : label.ofManager = true → w.drain = none) (hstep : w.sys.step H label = some sys)
    (hdown : sys.connected = false) : w.drain = none := by
  cases hl : label.ofManager with
  | true => exact hdrain hl
  | false =>
      have hstay := System.step_bystands hl (System.Label.masqueFree_of hl hfree) hstep
      have hup := hw.connected
      rw [System.connected, ← hstay.pc] at hup
      rw [System.connected, hup] at hdown
      cases hdown

theorem worker_refines {label : MasqueIo.Label} (hw : Coupled w io)
    (hlabel : label.ofWorker = true) (hstep : io.step w.ioTunables label = some io') :
    Run.Reaches (System.step H) Run.Any w.whole
      { w with
        sys := w.sys.withIo io'
        io := some io'
        offered := w.offered ++ io.offers io' : MasqueSystem S }.whole := by
  have hturn := worker_turn hlabel (by rw [hw.incoming]) hstep
  have hsys := withIo_eq (hturn.device.trans hw.device)
  have hpush : ∀ event, io.incoming.full w.ioTunables.incomingDgramCapacity = false →
      io'.incoming = io.incoming.push event →
        w.sys.step H (.io event) = some (w.sys.withIo io') := by
    intro event hroom hpush
    rw [hsys, hpush, hw.incoming]
    refine if_pos ⟨hw.connected, ?_⟩
    rw [IncomingTask.full, hw.incoming, decide_eq_false_iff_not, not_le] at hroom
    exact hroom
  cases hturn.hears with
  | quiet hsame _ | begins _ hsame _ _ _ =>
      have hkept : w.sys.withIo io' = w.sys := by rw [hsys, hsame, hw.incoming]
      simp only [hkept]
      exact .refl _
  | notice event _ hroom hsend _ _ | delivers event _ hroom hsend _ =>
      exact whole_step (.inr rfl) (hpush event hroom hsend) rfl rfl

theorem blocked_step {s : System S} {dirtyCycle : Bool} (hpc : s.pc = .transmit dirtyCycle)
    (hblocked : s.tunnel.masqueDrainBlocked s.rt.shared.now = true) :
    s.step H (.manager (.transmit [])) =
      some { s with pc := System.afterTransmit dirtyCycle } := by
  simp only [System.step, System.managerStep, hpc, ActiveTunnel.drainStackPackets, hblocked,
    if_true]
  rfl

theorem transmit_step {s : System S} {dirtyCycle : Bool} {streak : Nat} {blockedUntil : Option Time}
    {results : List SendResult} {tunnel : ActiveTunnel} {stack : NetworkStack S}
    (hpc : s.pc = .transmit dirtyCycle) (htunnel : s.tunnel = .masque streak blockedUntil)
    (hopen : s.tunnel.masqueDrainBlocked s.rt.shared.now = false)
    (hrun : DrainPoint.finish
        (min s.rt.tunables.masqueSendBatchSize (max s.rt.tunables.masqueStackDrainBudget 1))
        s.rt.shared.now results s.rt.stack
        ⟨streak, blockedUntil, s.rt.tunables.masqueStackDrainBudget, s.rt.stack.device.txQueue⟩ =
      (tunnel, stack)) :
    s.step H (.manager (.transmit results)) =
      some { s with
        rt := { s.rt with stack }
        tunnel
        pc := System.afterTransmit dirtyCycle } := by
  rw [htunnel] at hopen
  simp only [DrainPoint.finish, NetworkStack.withTx] at hrun
  simp only [System.step, System.managerStep, hpc, htunnel, ActiveTunnel.drainStackPackets, hopen,
    ActiveTunnel.stackDrainBudget, hrun, Bool.false_eq_true, if_false]
  rfl

theorem drains_refines (hsound : Sound w) (hw : Coupled w io) (hd : w.drain = some d)
    {d' : MasqueDrain} {tunnel : ActiveTunnel} (h : Drains w io d d' tunnel io') :
    Run.Reaches (System.step H) Run.Any w.whole (w.drained d' io' tunnel).whole := by
  obtain ⟨hm, pc, hpc, hat⟩ := hw.draining d hd
  have hturn := h.turn hsound.masque hw.ordered.tidy hpc hat
  have hincoming : io'.incoming.incomingRx = w.sys.incomingRx := by
    rw [hturn.incoming, hw.incoming]
  obtain ⟨htunnel, hdevice⟩ := hturn.begun
  rw [whole_some hd]
  cases hpc' : io'.drain with
  | some pc' =>
      have hsame : (w.drained d' io' tunnel).whole = w.sys.rewound d := by
        rw [drained_some hpc', whole_some rfl]
        simp only [System.rewound, System.withDevice, System.withIo, hincoming, htunnel, hdevice]
      rw [hsame]
      exact .refl _
  | none =>
      obtain ⟨dirtyCycle, hstage⟩ := hm.stage
      have hdrained := hturn.advanced.ends hpc'
      obtain ⟨streak, blockedUntil, hbegun, hfinish⟩ := hdrained.finished
      rw [htunnel] at hbegun
      rw [hdevice] at hfinish
      have hstep := transmit_step (H := H) (s := w.sys.rewound d) hstage hbegun hm.released hfinish
      refine .single trivial (hstep.trans ?_)
      rw [drained_none hpc' hstage, whole_none rfl]
      have hfinal : { d.device with txQueue := io'.device.txQueue } = io'.device := by
        rw [← hdevice]
        exact hdrained.device.symm
      simp only [System.rewound, System.withDevice, System.withIo, NetworkStack.withTx, hincoming,
        hfinal]

theorem step_refines (hsound : Sound w) (h : w.step H l = some w') :
    Run.Reaches (System.step H) Run.Any w.whole w'.whole := by
  cases step_cases h with
  | alone hio hfree hstep => exact whole_step (.inl (hsound.alone hio)) hstep rfl rfl
  | @runs _ label io sys _ hio hfree hkeeps hdrain hstep hup hroom =>
      refine whole_step ?_ hstep rfl rfl
      cases hl : label.ofManager with
      | true => exact .inl (hdrain hl)
      | false => exact .inr rfl
  | ends _ hio hfree hkeeps hdrain hstep hdown =>
      rw [whole_none (ends_idle (hsound.coupled _ hio) hfree hdrain hstep hdown), whole_none rfl]
      exact .single trivial hstep
  | worker hio hlabel hstep => exact worker_refines (hsound.coupled _ hio) hlabel hstep
  | establish hio hstep => exact whole_step (.inl (hsound.alone hio)) hstep rfl rfl
  | blocked hio hpc hdrain hblocked =>
      exact whole_step (.inl hdrain) (blocked_step hpc hblocked) rfl rfl
  | begins hio hpc hdrain hblocked hbegin =>
      rw [whole_none hdrain, whole_some rfl]
      exact .refl _
  | drains _ hio hdrain hdrains =>
      exact drains_refines hsound (hsound.coupled _ hio) hdrain hdrains

theorem Reachable.sound {params : ConnectionParams} {ioChannelCapacity : Nat}
    (h : Reachable H params ioChannelCapacity w) : Sound w :=
  Run.Reaches.invariant (I := Sound) (fun _ _ _ hw _ hstep => step_sound hw hstep) h
    (init_sound params ioChannelCapacity)

-- With the drain taken back to its beginning, the interleaving is one of the manager whose drain
-- is a single step.
theorem Reachable.refines_atomic {params : ConnectionParams} {ioChannelCapacity : Nat}
    (h : Reachable H params ioChannelCapacity w) :
    System.Reachable H { params with tunnelMode := .masque } w.whole := by
  have hboth : Sound w ∧ System.Reachable H { params with tunnelMode := .masque } w.whole :=
    Run.Reaches.invariant
      (I := fun w => Sound w ∧ System.Reachable H { params with tunnelMode := .masque } w.whole)
      (fun _ _ _ hw _ hstep => ⟨step_sound hw.1 hstep, hw.2.trans (step_refines hw.1 hstep)⟩) h
      ⟨init_sound params ioChannelCapacity, .refl _⟩
  exact hboth.2

end MasqueSystem

namespace MasqueScript

abbrev Reached := MasqueSystem Reference.smoltcp

def loop (choice : Choice) : MasqueLabel := .system (.manager choice)

-- A connection attempt whose SYN is in tx_queue when the loop is to transmit.
def attempt (localPort : UInt16) (response : OneshotId) : List MasqueLabel :=
  [.system (.submit (.connect (.ipv4 Script.remote) Script.remotePort localPort false response)),
    .checkAlive true, loop (.command 0)] ++ List.replicate 4 (loop .nextPhase) ++
  [loop .advance, .refresh, .checkAlive true, loop .pollTimer, loop .advance, loop .advance]

def connect : List MasqueLabel := [.establish 1500 0] ++ attempt 5000 0

-- The SYN is handed to the worker, which has not looked into its channel yet.
def drain : List MasqueLabel := [.beginDrain, .collect, .collect, .trySend, .fetchAdd, .collect]

-- A command that finds nothing to do takes the loop to its refresh.
def toRefresh : List MasqueLabel :=
  [.system (.submit (.udpUnregister 9)), .checkAlive true, loop (.command 0)] ++
    List.replicate 4 (loop .nextPhase) ++ [loop .advance]

def work (n : Nat) : List MasqueLabel := List.replicate n (.worker .work)

-- The channel has room for one batch.
def run (labels : List MasqueLabel) : Option Reached :=
  Run.exec (MasqueSystem.step Script.hickory)
    (MasqueSystem.init Reference.smoltcp Script.params 1) labels

theorem exists_reachable {labels : List MasqueLabel} {p : Reached → Bool}
    (h : (run labels).any p = true) :
    ∃ w, MasqueSystem.Reachable Script.hickory Script.params 1 w ∧ p w = true := by
  obtain ⟨w, hw, hp⟩ := (Option.any_eq_true _ _).mp h
  exact ⟨w, Run.exec_reaches hw, hp⟩

end MasqueScript

namespace MasqueSystem

-- The manager has the SYN in hand; the drain in one go has not begun.
theorem refines_atomic_collecting :
    ∃ w : MasqueScript.Reached, w.sys.rt.stack.device.txQueue = [] ∧
      w.whole.rt.stack.device.txQueue ≠ [] ∧
      System.Reachable Script.hickory { Script.params with tunnelMode := .masque } w.whole := by
  have h : (MasqueScript.run (MasqueScript.connect ++ [.beginDrain, .collect])).any (fun w =>
      decide (w.sys.rt.stack.device.txQueue = [] ∧ w.whole.rt.stack.device.txQueue ≠ [])) =
        true := by
    decide +kernel
  obtain ⟨w, hw, hp⟩ := MasqueScript.exists_reachable h
  have hp := of_decide_eq_true hp
  exact ⟨w, hp.1, hp.2, hw.refines_atomic⟩

end MasqueSystem

end Usque
