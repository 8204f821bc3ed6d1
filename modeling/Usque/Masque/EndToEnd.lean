import Usque.Masque.Refinement

namespace Usque

variable {S : Smoltcp} {H : Hickory}

namespace MasqueSystem

open MasqueIo

variable {w w' : MasqueSystem S} {l : MasqueLabel} {io io' : MasqueIo} {params : ConnectionParams}
  {ioChannelCapacity : Nat}

theorem collect_produced {tunables : MasqueIoTunables} (h : io.collect tunables = some io') :
    io'.produced = io.produced := by
  simp only [collect] at h
  split at h
  · split at h
    · split at h <;> cases h <;> rfl
    · cases h
      rfl
  · cases h

theorem trySend_produced {tunables : MasqueIoTunables} {answer : SendResult}
    (h : io.trySend tunables answer = some io') : io'.produced = io.produced := by
  simp only [trySend] at h
  split at h
  · split at h
    · obtain ⟨_, -, rfl⟩ := Option.map_eq_some_iff.mp h
      rfl
    · cases h
  · cases h
    rfl
  · cases h

theorem Drains.produced {d d' : MasqueDrain} {tunnel : ActiveTunnel}
    (h : Drains w io d d' tunnel io') : io'.produced = io.produced := by
  cases h with
  | collect h => exact collect_produced h
  | trySend h => exact trySend_produced h
  | fetchAdd h =>
      simp only [MasqueIo.fetchAdd] at h
      split at h <;> cases h
      rfl

theorem drained_io (w : MasqueSystem S) (d : MasqueDrain) (io : MasqueIo) (tunnel : ActiveTunnel) :
    (w.drained d io tunnel).io = some io := by
  simp only [drained]
  split <;> rfl

-- What a step of the loop adds to tx_queue is noted, and nothing else is.
theorem step_produced (hsound : Sound w) (hio : w.io = some io) (h : w.step H l = some w')
    (hio' : w'.io = some io') :
    (l.ofLoop = true → ∃ packets, io'.produced = io.produced ++ packets ∧
      w'.sys.rt.stack.device.txQueue = w.sys.rt.stack.device.txQueue ++ packets) ∧
    (l.ofLoop = false → io'.produced = io.produced) := by
  have hw := hsound.coupled io hio
  cases step_cases h with
  | alone hnone | establish hnone =>
      rw [hio] at hnone
      cases hnone
  | runs hl hsome hfree hkeeps hdrain hstep hup hroom =>
      cases hio.symm.trans hsome
      cases hio'
      refine ⟨fun _ => ?_, fun hfalse => by rw [hl] at hfalse; cases hfalse⟩
      obtain ⟨packets, hpackets⟩ := System.step_queues hkeeps hw.connected hup hstep
      refine ⟨packets, ?_, hpackets.symm⟩
      simp only [withSystem, hw.device, ← hpackets, List.drop_left]
  | ends => cases hio'
  | worker hsome hlabel hstep =>
      cases hio.symm.trans hsome
      cases hio'
      exact ⟨fun htrue => (by cases htrue),
        fun _ => (worker_turn hlabel (by rw [hw.incoming]) hstep).produced⟩
  | blocked hsome =>
      cases hio.symm.trans hio'
      exact ⟨fun htrue => (by cases htrue), fun _ => rfl⟩
  | begins hsome _ _ _ hbegin =>
      cases hio.symm.trans hsome
      cases hio'
      refine ⟨fun htrue => (by cases htrue), fun _ => ?_⟩
      simp only [MasqueIo.beginDrain] at hbegin
      split at hbegin <;> cases hbegin
      rfl
  | drains hl hsome hdrain hdrains =>
      cases hio.symm.trans hsome
      rw [drained_io] at hio'
      cases hio'
      exact ⟨fun htrue => (by rw [hl] at htrue; cases htrue), fun _ => hdrains.produced⟩

def inTransit (io : MasqueIo) : List Packet :=
  io.worker.inFlight ++ io.sendBacklog ++ io.worker.batch.flatten ++
    io.sendChannel.queue.flatten ++ io.managerHand

-- The packets that the stack gave out are sent in that order: what has had an outcome, then what is
-- on its way, then tx_queue. Only a worker that ends throws packets away.
theorem Reachable.transmit_order (h : Reachable H params ioChannelCapacity w)
    (hio : w.io = some io) :
    io.produced = io.departed ++ io.discarded ++ inTransit io ++
        w.sys.rt.stack.device.txQueue ∧
      (io.worker.running = true → io.discarded = []) ∧
      ∀ l w' io', w.step H l = some w' → w'.io = some io' →
        (l.ofLoop = true → ∃ packets, io'.produced = io.produced ++ packets ∧
          w'.sys.rt.stack.device.txQueue = w.sys.rt.stack.device.txQueue ++ packets) ∧
        (l.ofLoop = false → io'.produced = io.produced) := by
  have hw := h.sound.coupled io hio
  refine ⟨?_, hw.ordered.tidy.kept, fun l w' io' hstep hio' =>
    step_produced h.sound hio hstep hio'⟩
  have hpath : io.produced = (io.departed ++ io.discarded) ++ io.outbound := hw.ordered.path
  rw [hpath, outbound, hw.device, inTransit]
  simp only [List.append_assoc]

theorem transmit_order_sent :
    ∃ (w : MasqueScript.Reached) (io : MasqueIo), w.io = some io ∧ io.departed.length = 1 ∧
      io.produced = io.departed ++ io.discarded ++ inTransit io ++
        w.sys.rt.stack.device.txQueue := by
  have h : (MasqueScript.run (MasqueScript.connect ++ MasqueScript.drain ++ MasqueScript.work 6 ++
      [.worker (.sendDatagram (some (.sent false)))])).any (fun w =>
        w.io.any (fun io => io.departed.length = 1)) = true := by
    decide +kernel
  obtain ⟨w, hw, hp⟩ := MasqueScript.exists_reachable h
  obtain ⟨io, hio, hlen⟩ := (Option.any_eq_true _ _).mp hp
  exact ⟨w, io, hio, of_decide_eq_true hlen, (hw.transmit_order hio).1⟩

-- What a step of the loop does with the event that it takes from the channel.
structure Takes (w w' : MasqueSystem S) (event : TransportIoEvent) : Prop where
  front : w.sys.incomingRx = event :: w'.sys.incomingRx
  handled : w'.handled = w.handled ++ event.packets
  injected : ∀ data ∈ event.packets,
    w.sys.rt.stack.device.injectPacketOwned data = .ok w'.sys.rt.stack.device

theorem injectIncoming_device {rt rt' : RuntimeState S} {data : Packet}
    (h : rt.injectIncoming data = .ok rt') :
    rt.stack.device.injectPacketOwned data = .ok rt'.stack.device := by
  obtain ⟨stack, hinject, h⟩ := Outcome.bind_eq_ok.mp h
  cases h
  obtain ⟨device, hdevice, hinject⟩ := Outcome.bind_eq_ok.mp hinject
  cases hinject
  rw [noteIncomingTcpHandle_stack] at hdevice
  exact hdevice

theorem takeIncoming_injects {s t : System S} {decrypted : Option Packet}
    (hmasque : s.tunnel.isMasque = true) (hup : t.connected = true)
    (h : s.step H (.manager (.incoming decrypted)) = some t) :
    ∃ event, s.incomingRx = event :: t.incomingRx ∧ ∀ data ∈ event.packets,
      s.rt.stack.device.injectPacketOwned data = .ok t.rt.stack.device := by
  obtain ⟨streak, blockedUntil, htunnel⟩ := ActiveTunnel.isMasque_iff.mp hmasque
  cases System.managerStep_cases h with
  | @incoming _ _ event incomingRx _ _ hevent =>
      revert hup
      refine System.andThen_rt (Q := fun t => t.connected = true →
          ∃ event, s.incomingRx = event :: t.incomingRx ∧ ∀ data ∈ event.packets,
            s.rt.stack.device.injectPacketOwned data = .ok t.rt.stack.device)
        (fun r hr _ => ⟨event, hevent, fun data hdata => ?_⟩) (fun _ hfault => by cases hfault)
      rw [htunnel] at hr
      cases event with
      | incoming packet =>
          cases List.mem_singleton.mp hdata
          obtain ⟨rt, hinject, hr⟩ := Outcome.bind_eq_ok.mp hr
          cases hr
          exact injectIncoming_device hinject
      | quicFlush | masqueBlocked => cases hdata
  | turn _ _ hc | teardown _ hc => cases hc

theorem incoming_takes {decrypted : Option Packet} (hsound : Sound w) (hio : w.io = some io)
    (h : w.step H (.system (.manager (.incoming decrypted))) = some w') (hio' : w'.io = some io') :
    ∃ event, Takes w w' event := by
  simp only [step, systemStep, Label.masqueFree, if_true, advance] at h
  split at h
  · obtain ⟨sys, hstep, h⟩ := Option.bind_eq_some_iff.mp h
    simp only [settle, hio] at h
    split at h
    next hup =>
      split at h <;> cases h
      obtain ⟨event, hfront, hinjected⟩ := takeIncoming_injects hsound.masque hup hstep
      refine ⟨event, hfront, ?_, hinjected⟩
      simp only [System.takenPackets, hfront, List.take_succ_cons, List.take_zero,
        List.flatMap_cons, List.flatMap_nil, List.append_nil]
    · cases h
      cases hio'
  · cases h

theorem worker_offers {label : MasqueIo.Label} (hsound : Sound w) (hio : w.io = some io)
    (h : w.step H (.worker label) = some w') :
    w'.offered = w.offered ∨
      ∃ event, Begins w.ioTunables io label event ∧ w'.offered = w.offered ++ event.packets := by
  cases step_cases h with
  | alone hnone =>
      rw [hio] at hnone
      cases hnone
  | runs hl | ends hl => cases hl
  | worker hsome hlabel hstep =>
      cases hio.symm.trans hsome
      have hphase : io.incoming.phase = .looping := by rw [(hsound.coupled io hio).incoming]
      cases (worker_turn hlabel hphase hstep).hears with
      | quiet _ hoffer =>
          refine .inl ?_
          simp only [offers, hoffer]
          cases io.worker.offer <;> simp
      | begins event _ hoffer hoffer' hfrom =>
          exact .inr ⟨event, hfrom, by simp only [offers, hoffer, hoffer']⟩
      | notice _ _ _ _ hoffer hoffer' | delivers _ hoffer _ _ hoffer' =>
          refine .inl ?_
          simp only [offers, hoffer, hoffer', List.append_nil]
  | drains =>
      refine .inl ?_
      simp only [drained]
      split <;> rfl

-- The packets that the worker has begun to offer reach the stack in that order, each once: what the
-- loop has handled, then the channel, then the one whose send is under way.
theorem Reachable.receive_order (h : Reachable H params ioChannelCapacity w)
    (hio : w.io = some io) :
    w.offered = w.handled ++ w.sys.incomingRx.flatMap TransportIoEvent.packets ++ io.onOffer ∧
      (∀ label w', w.step H (.worker label) = some w' →
        w'.offered = w.offered ∨
          ∃ event, Begins w.ioTunables io label event ∧
            w'.offered = w.offered ++ event.packets) ∧
      ∀ decrypted w' io', w.step H (.system (.manager (.incoming decrypted))) = some w' →
        w'.io = some io' → ∃ event, Takes w w' event :=
  ⟨(h.sound.coupled io hio).heard, fun _ _ hstep => worker_offers h.sound hio hstep,
    fun _ _ _ hstep hio' => incoming_takes h.sound hio hstep hio'⟩

theorem receive_order_delivered :
    ∃ (w : MasqueScript.Reached) (io : MasqueIo), w.io = some io ∧ w.offered = [[1, 2, 3]] ∧
      w.offered =
        w.handled ++ w.sys.incomingRx.flatMap TransportIoEvent.packets ++ io.onOffer := by
  have h : (MasqueScript.run (MasqueScript.connect ++
      [.worker (.flowFrame (.datagram [0, 1, 2, 3]))] ++ MasqueScript.work 4)).any (fun w =>
        w.io.isSome && decide (w.offered = [[1, 2, 3]])) = true := by
    decide +kernel
  obtain ⟨w, hw, hp⟩ := MasqueScript.exists_reachable h
  obtain ⟨hsome, hoffered⟩ := Bool.and_eq_true_iff.mp hp
  obtain ⟨io, hio⟩ := Option.isSome_iff_exists.mp hsome
  exact ⟨w, io, hio, of_decide_eq_true hoffered, (hw.receive_order hio).1⟩

theorem refresh_drain (hio : w.io = some io) (h : w.step H .refresh = some w') :
    w.drain = none ∧ w'.sys.rt.shared.stats.transportPendingSendPackets =
      io.queuedPackets.toNat := by
  simp only [step, hio, tunnelStep, advance] at h
  split at h
  next hidle =>
    obtain ⟨sys, hstep, h⟩ := Option.bind_eq_some_iff.mp h
    have hstats : sys.rt.shared.stats.transportPendingSendPackets = io.queuedPackets.toNat := by
      cases System.managerStep_cases hstep with
      | refresh => rfl
      | turn _ _ hc | teardown _ hc => cases hc
    refine ⟨Option.isNone_iff_eq_none.mp (hidle rfl), ?_⟩
    simp only [settle, hio] at h
    split at h
    · split at h <;> cases h
      exact hstats
    · cases h
      exact hstats
  · cases h

-- At a refresh the atomic counter is the number of packets in the batches that are between the
-- manager and the backlog, although the worker may subtract a batch before it has been added.
theorem Reachable.refresh_exact (h : Reachable H params ioChannelCapacity w)
    (hio : w.io = some io) (hstep : w.step H .refresh = some w') :
    ∃ outstanding : List (List Packet), io.sent = io.subtracted ++ outstanding ∧
      outstanding = io.worker.batch ++ io.sendChannel.queue ++ io.lost ∧
      w'.sys.rt.shared.stats.transportPendingSendPackets = outstanding.flatten.length := by
  have hw := h.sound.coupled io hio
  obtain ⟨hdrain, hstats⟩ := refresh_drain hio hstep
  obtain ⟨hcons, hcount, hsmall⟩ := hw.counted
  refine ⟨io.batches.queue, hcons, rfl, ?_⟩
  have huncounted : io.uncounted = 0 := by
    simp only [uncounted, hw.idle hdrain]
  have hexact : io.queuedPackets = UInt64.ofNat io.batches.queue.flatten.length := by
    rw [huncounted] at hcount
    simpa using hcount
  rw [hstats, hexact, UInt64.toNat_ofNat_of_lt' hsmall]

theorem refresh_exact_waiting :
    ∃ (w w' : MasqueScript.Reached) (io : MasqueIo), w.io = some io ∧
      w.step Script.hickory .refresh = some w' ∧ io.sendChannel.queue.length = 1 ∧
      ∃ outstanding : List (List Packet), io.sent = io.subtracted ++ outstanding ∧
        outstanding = io.worker.batch ++ io.sendChannel.queue ++ io.lost ∧
        w'.sys.rt.shared.stats.transportPendingSendPackets = outstanding.flatten.length := by
  have h : (MasqueScript.run (MasqueScript.connect ++ MasqueScript.drain ++
      MasqueScript.toRefresh)).any (fun w =>
        (w.step Script.hickory .refresh).isSome &&
          w.io.any (fun io => io.sendChannel.queue.length = 1)) = true := by
    decide +kernel
  obtain ⟨w, hw, hp⟩ := MasqueScript.exists_reachable h
  obtain ⟨hstep, hany⟩ := Bool.and_eq_true_iff.mp hp
  obtain ⟨w', hstep⟩ := Option.isSome_iff_exists.mp hstep
  obtain ⟨io, hio, hlen⟩ := (Option.any_eq_true _ _).mp hany
  exact ⟨w, w', io, hio, hstep, of_decide_eq_true hlen, hw.refresh_exact hio hstep⟩

-- What stays of a worker that has ended.
structure Ended (io io' : MasqueIo) : Prop where
  finished : io'.worker = .finished
  sent : io'.sent = io.sent
  departed : io'.departed = io.departed

theorem worker_ended {tunables : MasqueIoTunables} {label : MasqueIo.Label}
    (hlabel : label.ofWorker = true) (hfin : io.worker = .finished)
    (h : io.step tunables label = some io') : Ended io io' := by
  cases label with
  | work =>
      simp only [MasqueIo.step, work, hfin] at h
      cases h
  | sendDatagram outcome =>
      simp only [MasqueIo.step, sendDatagram, hfin] at h
      cases h
  | statsTick | h3End | flowEnd | connectEnd =>
      cases h
      exact ⟨hfin, rfl, rfl⟩
  | h3Event _ | flowFrame _ | connectFrame _ =>
      obtain ⟨channel, -, hio⟩ := Option.map_eq_some_iff.mp h
      cases hio
      exact ⟨hfin, rfl, rfl⟩
  | transmit _ | beginDrain | collect | trySend _ | fetchAdd | recvEvent | leave | signal
  | complete => cases hlabel

theorem Drains.ended {d d' : MasqueDrain} {tunnel : ActiveTunnel} (hfin : io.worker = .finished)
    (h : Drains w io d d' tunnel io') : Ended io io' := by
  cases h with
  | collect h =>
      simp only [MasqueIo.collect] at h
      split at h
      · split at h
        · split at h <;> cases h <;> exact ⟨hfin, rfl, rfl⟩
        · cases h
          exact ⟨hfin, rfl, rfl⟩
      · cases h
  | trySend h =>
      simp only [MasqueIo.trySend] at h
      split at h
      · split at h
        · next hopen => exact absurd hfin hopen.2
        · cases h
      · cases h
        exact ⟨hfin, rfl, rfl⟩
      · cases h
  | fetchAdd h =>
      simp only [MasqueIo.fetchAdd] at h
      split at h <;> cases h
      exact ⟨hfin, rfl, rfl⟩

theorem step_ended (hio : w.io = some io) (hfin : io.worker = .finished)
    (h : w.step H l = some w') : w'.io = none ∨ ∃ io', w'.io = some io' ∧ Ended io io' := by
  cases step_cases h with
  | alone hnone | establish hnone =>
      rw [hio] at hnone
      cases hnone
  | runs _ hsome =>
      cases hio.symm.trans hsome
      exact .inr ⟨_, rfl, hfin, rfl, rfl⟩
  | ends => exact .inl rfl
  | worker hsome hlabel hstep =>
      cases hio.symm.trans hsome
      exact .inr ⟨_, rfl, worker_ended hlabel hfin hstep⟩
  | blocked => exact .inr ⟨io, hio, hfin, rfl, rfl⟩
  | begins hsome _ _ _ hbegin =>
      cases hio.symm.trans hsome
      simp only [MasqueIo.beginDrain] at hbegin
      split at hbegin <;> cases hbegin
      exact .inr ⟨_, rfl, hfin, rfl, rfl⟩
  | drains _ hsome _ hdrains =>
      cases hio.symm.trans hsome
      exact .inr ⟨_, drained_io _ _ _ _, hdrains.ended hfin⟩

def Stays (_ : MasqueSystem S) : MasqueLabel → Prop
  | .establish _ _ => False
  | _ => True

theorem step_io_none (hio : w.io = none) (hl : Stays w l) (h : w.step H l = some w') :
    w'.io = none := by
  cases step_cases h with
  | alone => exact hio
  | runs _ hsome | ends _ hsome | worker hsome | blocked hsome | begins hsome | drains _ hsome =>
      cases hio.symm.trans hsome
  | establish => exact hl.elim

theorem Ended.trans {io'' : MasqueIo} (h : Ended io io') (k : Ended io' io'') : Ended io io'' :=
  ⟨k.finished, k.sent.trans h.sent, k.departed.trans h.departed⟩

theorem run_ended (hio : w.io = some io) (hfin : io.worker = .finished)
    (h : Run.Reaches (step H) Stays w w') :
    w'.io = none ∨ ∃ io', w'.io = some io' ∧ Ended io io' := by
  refine h.invariant (I := fun w' => w'.io = none ∨ ∃ io', w'.io = some io' ∧ Ended io io')
    (fun u l u' hu hl hstep => ?_) (.inr ⟨io, hio, hfin, rfl, rfl⟩)
  rcases hu with hnone | ⟨io', hio', hended⟩
  · exact .inl (step_io_none hnone hl hstep)
  · rcases step_ended hio' hended.finished hstep with hnone | ⟨io'', hio'', hnext⟩
    · exact .inl hnone
    · exact .inr ⟨io'', hio'', hended.trans hnext⟩

theorem loopHead_step {s t : System S} {choice : Choice} (hpc : s.pc = .loopHead)
    (h : s.step H (.manager choice) = some t) :
    ∃ alive, choice = .checkAlive alive ∧ (alive = false → t.pc = .disconnected) := by
  cases choice with
  | checkAlive alive =>
      refine ⟨alive, rfl, fun hdead => ?_⟩
      subst hdead
      simp only [System.step, System.managerStep, hpc] at h
      cases h
      rfl
  | _ =>
      simp only [System.step, System.managerStep, hpc] at h
      cases h

theorem checkAlive_ended {alive : Bool} (hio : w.io = some io) (hfin : io.worker = .finished)
    (hpc : w.sys.pc = .loopHead) (h : w.step H (.checkAlive alive) = some w') :
    w'.io = none ∧ w'.sys.pc = .disconnected := by
  simp only [step, hio, tunnelStep, mayBeAlive, hfin] at h
  split at h
  next hdead =>
    simp only [advance] at h
    split at h
    · obtain ⟨sys, hstep, h⟩ := Option.bind_eq_some_iff.mp h
      obtain ⟨_, hc, hdown⟩ := loopHead_step hpc hstep
      cases hc
      have hpc' := hdown ((Bool.not_eq_true' alive).mp hdead)
      have hup : sys.connected = false := by rw [System.connected, hpc']
      simp only [settle, hio, hup, Bool.false_eq_true, if_false] at h
      cases h
      exact ⟨rfl, hpc'⟩
    · cases h
  · cases h

theorem advance_sys {label : Label} (h : w.advance H label = some w') :
    w.sys.step H label = some w'.sys := by
  simp only [advance] at h
  split at h
  · obtain ⟨sys, hstep, h⟩ := Option.bind_eq_some_iff.mp h
    simp only [settle] at h
    split at h
    · cases h
      exact hstep
    · split at h
      · split at h <;> cases h
        exact hstep
      · cases h
        exact hstep
  · cases h

theorem system_loopHead {label : Label} (hpc : w.sys.pc = .loopHead)
    (h : w.systemStep H label = some w') : w'.sys.pc = .loopHead := by
  simp only [systemStep] at h
  split at h
  next hfree =>
    have hstep := advance_sys h
    cases label with
    | manager choice =>
        obtain ⟨alive, rfl, -⟩ := loopHead_step hpc hstep
        cases hfree
    | _ => exact (System.step_bystands rfl hfree hstep).pc.trans hpc
  · cases h

theorem Coupled.drain_loopHead (hw : Coupled w io) (hpc : w.sys.pc = .loopHead) :
    w.drain = none := by
  cases hd : w.drain with
  | none => rfl
  | some d =>
      obtain ⟨dirtyCycle, hstage⟩ := (hw.draining d hd).1.stage
      rw [hpc] at hstage
      cases hstage

-- At the head of the loop, all that the manager can do with a worker that has ended is to take the
-- tunnel down.
theorem loopHead_ended (hsound : Sound w) (hio : w.io = some io) (hfin : io.worker = .finished)
    (hpc : w.sys.pc = .loopHead) (h : w.step H l = some w') :
    w'.sys.pc = .loopHead ∨ w'.io = none ∧ w'.sys.pc = .disconnected := by
  have hdrain := (hsound.coupled io hio).drain_loopHead hpc
  cases l with
  | system label => exact .inl (system_loopHead hpc h)
  | checkAlive alive => exact .inr (checkAlive_ended hio hfin hpc h)
  | refresh =>
      simp only [step, hio, tunnelStep] at h
      obtain ⟨alive, hc, -⟩ := loopHead_step hpc (advance_sys h)
      cases hc
  | worker label =>
      simp only [step, hio, tunnelStep, workerStep] at h
      split at h
      · obtain ⟨io', -, rfl⟩ := Option.map_eq_some_iff.mp h
        exact .inl hpc
      · cases h
  | beginDrain =>
      simp only [step, hio, tunnelStep, beginDrain, hpc] at h
      cases h
  | establish mtu connectStreamId =>
      simp only [step, hio, tunnelStep, hdrain] at h
      cases h
  | collect | trySend | fetchAdd =>
      simp only [step, hio, tunnelStep, hdrain] at h
      cases h

-- After the end of its worker a tunnel takes no more batches and sends no more packets, and the loop
-- leaves it when it next asks whether the tunnel is alive.
theorem Reachable.worker_end (h : Reachable H params ioChannelCapacity w) (hio : w.io = some io)
    (hfin : io.worker = .finished) (hrun : Run.Reaches (step H) Stays w w') :
    w'.io = none ∨ ∃ io', w'.io = some io' ∧ Ended io io' ∧
      (w'.sys.pc = .loopHead → ∀ l w'', w'.step H l = some w'' →
        w''.sys.pc = .loopHead ∨ w''.io = none ∧ w''.sys.pc = .disconnected) := by
  rcases run_ended hio hfin hrun with hnone | ⟨io', hio', hended⟩
  · exact .inl hnone
  · refine .inr ⟨io', hio', hended, fun hpc l w'' hstep => ?_⟩
    have hsound : Sound w' := hrun.invariant (fun _ _ _ hw _ hs => step_sound hw hs) h.sound
    exact loopHead_ended hsound hio' hended.finished hpc hstep

-- The datagram flow ends, and the packets of the drain under way go back to tx_queue.
theorem worker_end_refused :
    ∃ (w : MasqueScript.Reached) (io : MasqueIo), w.io = some io ∧ io.worker = .finished ∧
      w.sys.pc = .loopHead ∧ w.sys.rt.stack.device.txQueue ≠ [] ∧
      ∀ l w', w.step Script.hickory l = some w' →
        w'.sys.pc = .loopHead ∨ w'.io = none ∧ w'.sys.pc = .disconnected := by
  have h : (MasqueScript.run (MasqueScript.connect ++ [.worker .flowEnd] ++
      MasqueScript.work 5 ++ [.beginDrain, .collect, .collect, .trySend])).any (fun w =>
        decide (w.sys.pc = .loopHead ∧ w.sys.rt.stack.device.txQueue ≠ []) &&
          w.io.any (fun io => io.worker = .finished)) = true := by
    decide +kernel
  obtain ⟨w, hw, hp⟩ := MasqueScript.exists_reachable h
  obtain ⟨hstate, hany⟩ := Bool.and_eq_true_iff.mp hp
  obtain ⟨io, hio, hfin⟩ := (Option.any_eq_true _ _).mp hany
  obtain ⟨hpc, htx⟩ := of_decide_eq_true hstate
  have hfin := of_decide_eq_true hfin
  rcases hw.worker_end hio hfin (.refl w) with hnone | ⟨io', hio', -, hnext⟩
  · rw [hio] at hnone
    cases hnone
  · exact ⟨w, io, hio, hfin, hpc, htx, fun l w' hstep => hnext hpc l w' hstep⟩

end MasqueSystem

end Usque
