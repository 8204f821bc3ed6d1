import Usque.Lib.Fifo
import Usque.Lib.Run
import Usque.Masque.Io

namespace Usque

namespace MasqueIo

variable {tunables : MasqueIoTunables} {io io' : MasqueIo} {label : Label}

def path (io : MasqueIo) : Fifo Packet :=
  ⟨io.produced, io.departed ++ io.discarded, io.outbound⟩

def batches (io : MasqueIo) : Fifo (List Packet) :=
  ⟨io.sent, io.subtracted, io.worker.batch ++ io.sendChannel.queue ++ io.lost⟩

def uncounted (io : MasqueIo) : Nat :=
  match io.drain with
  | some pc => pc.uncounted
  | none => 0

def packetLimit : Nat := 2 ^ 64 - 1

structure Tidy (io : MasqueIo) : Prop where
  kept : io.worker.running = true → io.discarded = []
  cleared : io.worker.running = false → io.worker = .closing ∨ io.sendBacklog = []
  held : io.worker ≠ .finished → io.lost = []

inductive Counting (io io' : MasqueIo) : Prop where
  | rests (hb : io'.batches = io.batches) (hq : io'.queuedPackets = io.queuedPackets)
      (hu : io'.uncounted = io.uncounted)
  | sends (batch : List Packet) (hlost : io'.lost = [])
      (hb : io'.batches = io.batches.push [batch]) (hq : io'.queuedPackets = io.queuedPackets)
      (hu : io.uncounted = 0) (hu' : io'.uncounted = batch.length)
  | adds (hb : io'.batches = io.batches)
      (hq : io'.queuedPackets = io.queuedPackets + UInt64.ofNat io.uncounted)
      (hu : io'.uncounted = 0)
  | subtracts (batch : List Packet) (rest : List (List Packet))
      (hb : io.batches.queue = batch :: rest) (hb' : io'.batches = io.batches.pop 1)
      (hq : io'.queuedPackets = io.queuedPackets - UInt64.ofNat batch.length)
      (hu : io'.uncounted = io.uncounted)

structure Effect (io io' : MasqueIo) : Prop where
  path : Fifo.Move packetLimit io.path io'.path
  counting : Counting io io'
  tidy : Tidy io'

theorem Effect.quiet (hpath : io'.path = io.path) (hb : io'.batches = io.batches)
    (hq : io'.queuedPackets = io.queuedPackets) (hu : io'.uncounted = io.uncounted)
    (ht : Tidy io') : Effect io io' :=
  ⟨hpath ▸ .rest _, .rests hb hq hu, ht⟩

theorem requeueAll_txQueue (device : VirtualDevice) (packets : List Packet) :
    (requeueAll device packets).txQueue = packets ++ device.txQueue := by
  unfold requeueAll
  induction packets generalizing device with
  | nil => rfl
  | cons p ps ih =>
      rw [List.reverse_cons, List.foldl_append]
      simp only [List.foldl_cons, List.foldl_nil, VirtualDevice.requeuePacketFront, ih,
        List.cons_append]

theorem takePacket_txQueue {device device' : VirtualDevice} {packet : Packet}
    (h : device.takePacket = some (packet, device')) :
    device.txQueue = packet :: device'.txQueue := by
  unfold VirtualDevice.takePacket at h
  split at h
  · cases h
  next hq =>
    cases h
    exact hq

theorem transmit_effect {packet : Packet} (h : io.transmit packet = some io') (ht : Tidy io) :
    Effect io io' := by
  unfold transmit at h
  split at h
  next hroom =>
    obtain ⟨-, hdrain, hroom⟩ := hroom
    cases h
    refine ⟨?_, .rests rfl rfl rfl, ⟨ht.kept, ht.cleared, ht.held⟩⟩
    by_cases hcap : io.device.hasTxCapacity = true
    · have hlen : io.device.txQueue.length < io.device.queueCapacity := by
        simpa [VirtualDevice.hasTxCapacity] using hcap
      have hpush : Fifo.Move packetLimit io.path (io.path.push [packet]) := by
        refine .push _ _ ?_
        simp only [path, List.length_cons, List.length_nil, packetLimit]
        omega
      have hdev : (io.device.consume packet).txQueue = io.device.txQueue ++ [packet] := by
        simp only [VirtualDevice.consume, if_neg (Nat.not_le.mpr hlen)]
      simpa only [path, outbound, managerHand, Fifo.push, hcap, hdev, hdrain, if_true,
        List.append_assoc] using hpush
    · have hlen : io.device.queueCapacity ≤ io.device.txQueue.length := by
        simpa [VirtualDevice.hasTxCapacity] using hcap
      have hdev : (io.device.consume packet).txQueue = io.device.txQueue := by
        simp only [VirtualDevice.consume, if_pos hlen]
      have hsame : Fifo.Move packetLimit io.path io.path := .rest _
      simpa only [path, outbound, managerHand, hcap, hdev, if_false, Bool.false_eq_true] using hsame
  · cases h

theorem closeBatch_effect {attempted : Nat} {packets : List Packet}
    (hdrain : io.drain = some (.collecting attempted packets)) (ht : Tidy io) :
    Effect io (io.closeBatch attempted packets) := by
  refine .quiet ?_ rfl rfl ?_ ⟨ht.kept, ht.cleared, ht.held⟩
  · cases packets with
    | nil => simp [path, outbound, managerHand, closeBatch, hdrain, DrainPc.packets]
    | cons p ps => simp [path, outbound, managerHand, closeBatch, hdrain, DrainPc.packets]
  · cases packets with
    | nil => simp [uncounted, closeBatch, hdrain, DrainPc.uncounted]
    | cons p ps => simp [uncounted, closeBatch, hdrain, DrainPc.uncounted]

theorem collect_effect (h : io.collect tunables = some io') (ht : Tidy io) : Effect io io' := by
  unfold collect at h
  split at h
  next attempted packets hdrain =>
    dsimp only at h
    split at h
    · split at h
      · cases h
        exact closeBatch_effect hdrain ht
      next packet device htake =>
        cases h
        refine .quiet ?_ rfl rfl ?_ ⟨ht.kept, ht.cleared, ht.held⟩
        · simp only [path, outbound, managerHand, hdrain, DrainPc.packets,
            takePacket_txQueue htake, List.append_assoc, List.cons_append, List.nil_append]
        · simp only [uncounted, hdrain, DrainPc.uncounted]
    · cases h
      exact closeBatch_effect hdrain ht
  · cases h

theorem requeue_effect {attempted : Nat} {packets : List Packet}
    (hdrain : io.drain = some (.sending attempted packets)) (ht : Tidy io) :
    Effect io { io with device := requeueAll io.device packets, drain := none } := by
  refine .quiet ?_ rfl rfl ?_ ⟨ht.kept, ht.cleared, ht.held⟩
  · simp only [path, outbound, managerHand, hdrain, DrainPc.packets, requeueAll_txQueue,
      List.append_assoc, List.nil_append]
  · simp only [uncounted, hdrain, DrainPc.uncounted]

theorem trySend_effect {answer : SendResult} (h : io.trySend tunables answer = some io')
    (ht : Tidy io) : Effect io io' := by
  unfold trySend at h
  split at h
  next attempted packets hdrain =>
    split at h
    next hopen =>
      obtain ⟨channel, hsend, hio⟩ := Option.map_eq_some_iff.mp h
      cases hio
      have hqueue := (Channel.send_queue hsend).1
      have hlost := ht.held hopen.2
      refine ⟨?_, .sends packets hlost ?_ rfl ?_ ?_, ⟨ht.kept, ht.cleared, ht.held⟩⟩
      · have hsame : Fifo.Move packetLimit io.path io.path := .rest _
        simpa only [path, outbound, managerHand, hdrain, hqueue, DrainPc.packets,
          List.flatten_append, List.flatten_cons, List.flatten_nil, List.append_nil,
          List.append_assoc, List.nil_append] using hsame
      · simp only [batches, Fifo.push, hqueue, hlost, List.append_nil, List.append_assoc]
      · simp only [uncounted, hdrain, DrainPc.uncounted]
      · rfl
    · cases h
  next attempted packets hdrain _ =>
    cases h
    exact requeue_effect hdrain ht
  · cases h

theorem fetchAdd_effect (h : io.fetchAdd = some io') (ht : Tidy io) : Effect io io' := by
  unfold fetchAdd at h
  split at h
  next attempted packetCount hdrain =>
    cases h
    refine ⟨?_, .adds rfl ?_ rfl, ⟨ht.kept, ht.cleared, ht.held⟩⟩
    · have hsame : Fifo.Move packetLimit io.path io.path := .rest _
      simpa only [path, outbound, managerHand, hdrain, DrainPc.packets] using hsame
    · simp only [uncounted, hdrain, DrainPc.uncounted]
  · cases h

section worker

variable {pc : WorkerPc} {incoming : IncomingTask} {statsDue : Bool} {h3Events : Channel H3Event}
  {flowRecv connectRecv : Channel InboundFrame} {control : MasqueControlState}

structure Turns (before after : WorkerPc) : Prop where
  inFlight : after.inFlight = before.inFlight
  batch : after.batch = before.batch
  running : before.running = true
  next : after.running = true ∨ after = .closing

theorem Turns.effect (hturn : Turns io.worker pc) (ht : Tidy io) :
    Effect io
      { io with worker := pc, incoming, statsDue, h3Events, flowRecv, connectRecv, control } := by
  refine .quiet ?_ ?_ rfl rfl ⟨fun _ => ht.kept hturn.running, ?_, ?_⟩
  · simp only [path, outbound, managerHand, hturn.inFlight, hturn.batch]
  · simp only [batches, hturn.batch]
  · intro hstop
    rcases hturn.next with hrun | hclose
    · exact absurd (hrun.symm.trans hstop) (by decide)
    · exact .inl hclose
  · intro _
    refine ht.held ?_
    intro hfin
    have hrun := hturn.running
    rw [hfin] at hrun
    cases hrun

theorem untouched_effect (ht : Tidy io) :
    Effect io { io with incoming, statsDue, h3Events, flowRecv, connectRecv, control } :=
  .quiet rfl rfl rfl rfl ⟨ht.kept, ht.cleared, ht.held⟩

theorem turns_from (hw : io.worker = .head) (hf : pc.inFlight = []) (hb : pc.batch = [])
    (hnext : pc.running = true ∨ pc = .closing) : Turns io.worker pc := by
  rw [hw]
  exact ⟨hf, hb, rfl, hnext⟩

theorem closes (hw : io.worker = .head) : Turns io.worker .closing :=
  turns_from hw rfl rfl (.inr rfl)

theorem onShutdown_effect (hw : io.worker = .head) (h : io.onShutdown = some io') (ht : Tidy io) :
    Effect io io' := by
  unfold onShutdown at h
  split at h
  · cases h
    exact (closes hw).effect ht
  · cases h

theorem onStatsTick_effect (h : io.onStatsTick = some io') (ht : Tidy io) : Effect io io' := by
  unfold onStatsTick at h
  split at h
  · cases h
    exact untouched_effect ht
  · cases h

theorem onH3Event_effect (hw : io.worker = .head) (h : io.onH3Event = some io') (ht : Tidy io) :
    Effect io io' := by
  obtain ⟨⟨event, h3Events⟩, -, hio⟩ := Option.map_eq_some_iff.mp h
  cases hio
  dsimp only
  split
  · exact (closes hw).effect ht
  · exact (closes hw).effect ht
  · exact (closes hw).effect ht
  · split
    · exact (closes hw).effect ht
    · exact untouched_effect ht
  · split
    · exact (closes hw).effect ht
    · exact untouched_effect ht
  · exact untouched_effect ht

theorem onFlow_effect (hw : io.worker = .head) (h : io.onFlow = some io') (ht : Tidy io) :
    Effect io io' := by
  obtain ⟨⟨frame, flowRecv⟩, -, hio⟩ := Option.map_eq_some_iff.mp h
  cases hio
  dsimp only
  split
  · exact (turns_from hw rfl rfl (.inl rfl)).effect ht
  · exact untouched_effect ht
  · exact (closes hw).effect ht

theorem onControl_effect (hw : io.worker = .head) (h : io.onControl = some io') (ht : Tidy io) :
    Effect io io' := by
  obtain ⟨⟨frame, connectRecv⟩, -, hio⟩ := Option.map_eq_some_iff.mp h
  cases hio
  dsimp only
  split
  · exact (turns_from hw rfl rfl (.inl rfl)).effect ht
  · exact untouched_effect ht
  · exact untouched_effect ht

theorem takes_effect {batch : List Packet} {sendChannel : Channel (List Packet)}
    (hf : io.worker.inFlight = []) (hb : io.worker.batch = []) (hpf : pc.inFlight = [])
    (hpb : pc.batch = [batch]) (hqueue : io.sendChannel.queue = batch :: sendChannel.queue)
    (ht' : Tidy { io with sendChannel, worker := pc }) :
    Effect io { io with sendChannel, worker := pc } := by
  refine .quiet ?_ ?_ rfl rfl ht'
  · simp only [path, outbound, managerHand, hf, hb, hpf, hpb, hqueue, List.flatten_cons,
      List.flatten_nil, List.append_assoc, List.nil_append, List.append_nil]
  · simp only [batches, hb, hpb, hqueue, List.nil_append, List.cons_append]

theorem onBatch_effect (hw : io.worker = .head) (h : io.onBatch = some io') (ht : Tidy io) :
    Effect io io' := by
  have hrun : io.worker.running = true := by rw [hw]; rfl
  have hnot : io.worker ≠ .finished := by rw [hw]; nofun
  obtain ⟨⟨batch, sendChannel⟩, hrecv, hio⟩ := Option.map_eq_some_iff.mp h
  cases hio
  cases batch with
  | some batch =>
      refine takes_effect ?_ ?_ rfl rfl (Channel.recv_some hrecv)
        ⟨fun _ => ht.kept hrun, nofun, fun _ => ht.held hnot⟩
      · rw [hw]; rfl
      · rw [hw]; rfl
  | none =>
      obtain ⟨hsame, -, -⟩ := Channel.recv_end hrecv
      subst hsame
      exact (closes hw).effect ht

theorem select_effect (hw : io.worker = .head) (h : io.select = some io') (ht : Tidy io) :
    Effect io io' := by
  simp only [select, Option.orElse_eq_some] at h
  rcases h with h | ⟨-, h | ⟨-, h | ⟨-, h | ⟨-, h | ⟨-, h⟩⟩⟩⟩⟩
  · exact onShutdown_effect hw h ht
  · exact onStatsTick_effect h ht
  · exact onH3Event_effect hw h ht
  · exact onFlow_effect hw h ht
  · exact onControl_effect hw h ht
  · exact onBatch_effect hw h ht

theorem Tidy.of_running (h : io.worker.running = true) (ht : Tidy io) :
    io.discarded = [] ∧ io.lost = [] := by
  refine ⟨ht.kept h, ht.held ?_⟩
  intro hfin
  rw [hfin] at h
  cases h

theorem flush_effect {round : MasqueSendRound} {waitedOnFull : Bool}
    (hw : io.worker = .flushing round waitedOnFull) (ht : Tidy io) :
    Effect io (io.flush round waitedOnFull) := by
  unfold flush
  split
  · refine Turns.effect ?_ ht
    rw [hw]
    exact ⟨rfl, rfl, rfl, .inl rfl⟩
  next packet sendBacklog hback =>
    have hrun : io.worker.running = true := by rw [hw]; rfl
    obtain ⟨hdis, hlost⟩ := ht.of_running hrun
    refine .quiet ?_ ?_ rfl rfl ⟨fun _ => hdis, nofun, fun _ => hlost⟩
    · simp only [path, outbound, managerHand, hw, hback, WorkerPc.inFlight, WorkerPc.batch,
        List.cons_append, List.nil_append]
    · simp only [batches, hw, WorkerPc.batch]

theorem sendEvent_effect {capacity : Nat} {event : TransportIoEvent} {next : WorkerPc}
    (h : io.sendEvent capacity event next = some io') (hturn : Turns io.worker next)
    (hclose : Turns io.worker .closing) (ht : Tidy io) : Effect io io' := by
  unfold sendEvent at h
  split at h
  · cases h
    exact hclose.effect ht
  · split at h
    · cases h
    · cases h
      exact hturn.effect ht

theorem absorbSendBatch_effect {batch : List Packet} (hw : io.worker = .absorbing batch)
    (ht : Tidy io) : Effect io (io.absorbSendBatch batch) := by
  have hrun : io.worker.running = true := by rw [hw]; rfl
  obtain ⟨hdis, hlost⟩ := ht.of_running hrun
  refine ⟨?_, .subtracts batch io.sendChannel.queue ?_ ?_ rfl rfl,
    ⟨fun _ => hdis, nofun, fun _ => hlost⟩⟩
  · have hsame : Fifo.Move packetLimit io.path io.path := .rest _
    simpa only [path, outbound, managerHand, absorbSendBatch, hw, WorkerPc.inFlight, WorkerPc.batch,
      List.flatten_cons, List.flatten_nil, List.append_assoc, List.nil_append, List.append_nil]
      using hsame
  · simp only [batches, hw, WorkerPc.batch, hlost, List.append_nil, List.cons_append,
      List.nil_append]
  · simp only [batches, absorbSendBatch, hw, WorkerPc.batch, hlost, Fifo.pop, List.cons_append,
      List.nil_append, List.take_succ_cons, List.take_zero, List.drop_succ_cons, List.drop_zero]

theorem drainSendChannelRound_effect {sendBudgetLimit : Nat} (hw : io.worker = .draining)
    (ht : Tidy io) : Effect io (io.drainSendChannelRound sendBudgetLimit) := by
  have hrun : io.worker.running = true := by rw [hw]; rfl
  obtain ⟨hdis, hlost⟩ := ht.of_running hrun
  have hturn : Turns io.worker .head := by
    rw [hw]
    exact ⟨rfl, rfl, rfl, .inl rfl⟩
  unfold drainSendChannelRound
  split
  · split
    next batch sendChannel hrecv =>
      refine takes_effect ?_ ?_ rfl rfl (Channel.tryRecv_some hrecv)
        ⟨fun _ => hdis, nofun, fun _ => hlost⟩
      · rw [hw]; rfl
      · rw [hw]; rfl
    · exact hturn.effect ht
  · exact hturn.effect ht

theorem discardBatches_effect (hw : io.worker = .discarding) (ht : Tidy io) :
    Effect io io.discardBatches := by
  have hback : io.sendBacklog = [] := by
    rcases ht.cleared (by rw [hw]; rfl) with h | h
    · rw [hw] at h
      cases h
    · exact h
  have hlost : io.lost = [] := ht.held (by rw [hw]; nofun)
  unfold discardBatches
  split
  next batch sendChannel hrecv =>
    refine takes_effect ?_ ?_ rfl rfl (Channel.tryRecv_some hrecv)
      ⟨nofun, fun _ => .inr hback, fun _ => hlost⟩
    · rw [hw]; rfl
    · rw [hw]; rfl
  · refine .quiet ?_ ?_ rfl rfl ⟨nofun, fun _ => .inr hback, fun _ => hlost⟩
    · simp only [path, outbound, managerHand, hw, WorkerPc.inFlight, WorkerPc.batch]
    · simp only [batches, hw, WorkerPc.batch]

theorem close_effect (hw : io.worker = .closing) (ht : Tidy io) :
    Effect io { io with
      sendBacklog := [], worker := .discarding, discarded := io.discarded ++ io.sendBacklog } := by
  have hlost : io.lost = [] := ht.held (by rw [hw]; nofun)
  refine ⟨?_, .rests ?_ rfl rfl, ⟨nofun, fun _ => .inr rfl, fun _ => hlost⟩⟩
  · have hmove := Fifo.Move.popped packetLimit io.path io.sendBacklog
      (io.sendChannel.queue.flatten ++ io.managerHand ++ io.device.txQueue)
      (by simp only [path, outbound, hw, WorkerPc.inFlight, WorkerPc.batch, List.flatten_nil,
        List.nil_append, List.append_nil, List.append_assoc])
    simpa only [path, outbound, managerHand, WorkerPc.inFlight, WorkerPc.batch, List.flatten_nil,
      List.nil_append, List.append_nil, List.append_assoc] using hmove
  · simp only [batches, hw, WorkerPc.batch]

theorem subtract_effect {batch : List Packet} (hw : io.worker = .subtracting batch)
    (ht : Tidy io) :
    Effect io { io with
      queuedPackets := io.queuedPackets - UInt64.ofNat batch.length
      worker := .discarding
      subtracted := io.subtracted ++ [batch]
      discarded := io.discarded ++ batch } := by
  have hback : io.sendBacklog = [] := by
    rcases ht.cleared (by rw [hw]; rfl) with h | h
    · rw [hw] at h
      cases h
    · exact h
  have hlost : io.lost = [] := ht.held (by rw [hw]; nofun)
  refine ⟨?_, .subtracts batch io.sendChannel.queue ?_ ?_ rfl rfl,
    ⟨nofun, fun _ => .inr hback, fun _ => hlost⟩⟩
  · have hmove := Fifo.Move.popped packetLimit io.path batch
      (io.sendChannel.queue.flatten ++ io.managerHand ++ io.device.txQueue)
      (by simp only [path, outbound, hw, hback, WorkerPc.inFlight, WorkerPc.batch,
        List.flatten_cons, List.flatten_nil, List.nil_append, List.append_nil, List.append_assoc])
    simpa only [path, outbound, managerHand, hback, WorkerPc.inFlight, WorkerPc.batch,
      List.flatten_nil, List.nil_append, List.append_nil, List.append_assoc] using hmove
  · simp only [batches, hw, WorkerPc.batch, hlost, List.append_nil, List.cons_append,
      List.nil_append]
  · simp only [batches, hw, WorkerPc.batch, hlost, Fifo.pop, List.cons_append,
      List.nil_append, List.take_succ_cons, List.take_zero, List.drop_succ_cons, List.drop_zero]

theorem drop_effect (hw : io.worker = .dropping) (ht : Tidy io) :
    Effect io { io with
      sendChannel := { io.sendChannel with queue := [] }
      worker := .finished
      lost := io.sendChannel.queue
      discarded := io.discarded ++ io.sendChannel.queue.flatten } := by
  have hback : io.sendBacklog = [] := by
    rcases ht.cleared (by rw [hw]; rfl) with h | h
    · rw [hw] at h
      cases h
    · exact h
  have hlost : io.lost = [] := ht.held (by rw [hw]; nofun)
  refine ⟨?_, .rests ?_ rfl rfl, ⟨nofun, fun _ => .inr hback, fun h => absurd rfl h⟩⟩
  · have hmove := Fifo.Move.popped packetLimit io.path io.sendChannel.queue.flatten
      (io.managerHand ++ io.device.txQueue)
      (by simp only [path, outbound, hw, hback, WorkerPc.inFlight, WorkerPc.batch,
        List.flatten_nil, List.nil_append, List.append_nil, List.append_assoc])
    simpa only [path, outbound, managerHand, hback, WorkerPc.inFlight, WorkerPc.batch,
      List.flatten_nil, List.nil_append, List.append_nil, List.append_assoc] using hmove
  · simp only [batches, hw, WorkerPc.batch, hlost, List.nil_append, List.append_nil]

theorem work_effect (h : io.work tunables = some io') (ht : Tidy io) : Effect io io' := by
  unfold work at h
  split at h
  next hw =>
    split at h
    · exact select_effect hw h ht
    · cases h
      exact (turns_from hw rfl rfl (.inl rfl)).effect ht
  next round waitedOnFull hw =>
    cases h
    exact flush_effect hw ht
  · cases h
  next icmp round waitedOnFull hw =>
    refine sendEvent_effect h ?_ ?_ ht
    · rw [hw]; exact ⟨rfl, rfl, rfl, .inl rfl⟩
    · rw [hw]; exact ⟨rfl, rfl, rfl, .inr rfl⟩
  next round hw =>
    cases h
    refine Turns.effect ?_ ht
    rw [hw]
    exact ⟨rfl, rfl, rfl, .inl rfl⟩
  next round hw =>
    cases h
    refine Turns.effect ?_ ht
    rw [hw]
    exact ⟨rfl, rfl, rfl, .inl rfl⟩
  next dgram hw =>
    have hturn : ∀ pc : WorkerPc, pc.inFlight = [] → pc.batch = [] → pc.running = true →
        Turns io.worker pc := by
      intro pc hf hb hrun
      rw [hw]
      exact ⟨hf, hb, rfl, .inl hrun⟩
    split at h
    · cases h
      exact (hturn _ rfl rfl rfl).effect ht
    · cases h
      exact (hturn _ rfl rfl rfl).effect ht
    · cases h
      exact (hturn _ rfl rfl rfl).effect ht
  next packet hw =>
    refine sendEvent_effect h ?_ ?_ ht
    · rw [hw]; exact ⟨rfl, rfl, rfl, .inl rfl⟩
    · rw [hw]; exact ⟨rfl, rfl, rfl, .inr rfl⟩
  next body fin hw =>
    split at h
    · cases h
      refine Turns.effect ?_ ht
      rw [hw]
      exact ⟨rfl, rfl, rfl, .inl rfl⟩
    · cases h
      refine Turns.effect ?_ ht
      rw [hw]
      exact ⟨rfl, rfl, rfl, .inr rfl⟩
  next batch hw =>
    cases h
    exact absorbSendBatch_effect hw ht
  next hw =>
    cases h
    exact drainSendChannelRound_effect hw ht
  next hw =>
    cases h
    exact close_effect hw ht
  next hw =>
    cases h
    exact discardBatches_effect hw ht
  next batch hw =>
    cases h
    exact subtract_effect hw ht
  next hw =>
    cases h
    exact drop_effect hw ht
  · cases h

end worker

theorem departs_effect {packet : Packet} {round : MasqueSendRound} {waitedOnFull : Bool}
    {pc : WorkerPc} (hw : io.worker = .sending packet round waitedOnFull) (hf : pc.inFlight = [])
    (hb : pc.batch = []) (hrun : pc.running = true) (ht : Tidy io) :
    Effect io { io with departed := io.departed ++ [packet], worker := pc } := by
  have hbefore : io.worker.running = true := by rw [hw]; rfl
  obtain ⟨hdis, hlost⟩ := ht.of_running hbefore
  refine ⟨?_, .rests ?_ rfl rfl, ⟨fun _ => hdis, fun h => ?_, fun _ => hlost⟩⟩
  · have hmove := Fifo.Move.popped packetLimit io.path [packet]
      (io.sendBacklog ++ io.sendChannel.queue.flatten ++ io.managerHand ++
        io.device.txQueue)
      (by simp only [path, outbound, hw, WorkerPc.inFlight, WorkerPc.batch, List.flatten_nil,
        List.append_nil, List.append_assoc])
    simpa only [path, outbound, managerHand, hdis, hf, hb, List.flatten_nil, List.nil_append,
      List.append_nil, List.append_assoc] using hmove
  · simp only [batches, hw, hb]
    rfl
  · exact absurd (hrun.symm.trans h) (by decide)

theorem sendDatagram_effect {outcome : Option DatagramSendState}
    (h : io.sendDatagram outcome = some io') (ht : Tidy io) : Effect io io' := by
  unfold sendDatagram at h
  split at h
  next packet round waitedOnFull hw =>
    cases h
    split
    · exact departs_effect hw rfl rfl rfl ht
    · exact departs_effect hw rfl rfl rfl ht
    · exact departs_effect hw rfl rfl rfl ht
    · have hrun : io.worker.running = true := by rw [hw]; rfl
      obtain ⟨hdis, hlost⟩ := ht.of_running hrun
      refine .quiet ?_ ?_ rfl rfl ⟨fun _ => hdis, nofun, fun _ => hlost⟩
      · simp only [path, outbound, managerHand, hw, WorkerPc.inFlight, WorkerPc.batch,
          List.cons_append, List.nil_append]
      · simp only [batches, hw, WorkerPc.batch]
    · exact departs_effect hw rfl rfl rfl ht
  · cases h

theorem complete_effect (h : io.complete = some io') (ht : Tidy io) : Effect io io' := by
  obtain ⟨incoming, -, hio⟩ := Option.map_eq_some_iff.mp h
  cases hio
  exact .quiet rfl rfl rfl rfl ⟨ht.kept, ht.cleared, ht.held⟩

theorem step_effect (h : io.step tunables label = some io') (ht : Tidy io) : Effect io io' := by
  cases label with
  | transmit packet => exact transmit_effect h ht
  | beginDrain =>
      simp only [step, beginDrain] at h
      split at h
      next hidle =>
        cases h
        refine .quiet ?_ rfl rfl ?_ ⟨ht.kept, ht.cleared, ht.held⟩
        · simp only [path, outbound, managerHand, hidle.2, DrainPc.packets]
        · simp only [uncounted, hidle.2, DrainPc.uncounted]
      · cases h
  | collect => exact collect_effect h ht
  | trySend answer => exact trySend_effect h ht
  | fetchAdd => exact fetchAdd_effect h ht
  | recvEvent =>
      simp only [step] at h
      split at h
      · obtain ⟨incoming, -, hio⟩ := Option.map_eq_some_iff.mp h
        cases hio
        exact untouched_effect ht
      · cases h
  | leave =>
      simp only [step, leave] at h
      split at h
      · obtain ⟨incoming, -, hio⟩ := Option.map_eq_some_iff.mp h
        cases hio
        exact untouched_effect ht
      · cases h
  | signal =>
      obtain ⟨incoming, -, hio⟩ := Option.map_eq_some_iff.mp h
      cases hio
      exact untouched_effect ht
  | complete => exact complete_effect h ht
  | statsTick =>
      cases h
      exact untouched_effect ht
  | h3Event event =>
      obtain ⟨h3Events, -, hio⟩ := Option.map_eq_some_iff.mp h
      cases hio
      exact untouched_effect ht
  | h3End =>
      cases h
      exact untouched_effect ht
  | flowFrame frame =>
      obtain ⟨flowRecv, -, hio⟩ := Option.map_eq_some_iff.mp h
      cases hio
      exact untouched_effect ht
  | flowEnd =>
      cases h
      exact untouched_effect ht
  | connectFrame frame =>
      obtain ⟨connectRecv, -, hio⟩ := Option.map_eq_some_iff.mp h
      cases hio
      exact untouched_effect ht
  | connectEnd =>
      cases h
      exact untouched_effect ht
  | work => exact work_effect h ht
  | sendDatagram outcome => exact sendDatagram_effect h ht

structure Ordered (io : MasqueIo) : Prop where
  path : io.path.Conserved
  bounded : io.path.queue.length ≤ packetLimit
  tidy : Tidy io

theorem ordered_new (mtu queueCapacity connectStreamId : Nat) :
    Ordered (new mtu queueCapacity connectStreamId) :=
  ⟨rfl, Nat.zero_le _, fun _ => rfl, nofun, fun _ => rfl⟩

theorem Ordered.step (hio : Ordered io) (h : io.step tunables label = some io') : Ordered io' := by
  have heffect := step_effect h hio.tidy
  exact ⟨heffect.path.conserved hio.path, heffect.path.bounded hio.bounded, heffect.tidy⟩

def Reachable (tunables : MasqueIoTunables) (mtu queueCapacity connectStreamId : Nat) :
    MasqueIo → Prop :=
  Run.Reaches (MasqueIo.step tunables) Run.Any (new mtu queueCapacity connectStreamId)

theorem Reachable.ordered {mtu queueCapacity connectStreamId : Nat}
    (h : Reachable tunables mtu queueCapacity connectStreamId io) : Ordered io :=
  h.invariant (I := Ordered) (fun _ _ _ hio _ hs => hio.step hs) (ordered_new _ _ _)

theorem transmit_path_lossless {mtu queueCapacity connectStreamId : Nat}
    (h : Reachable tunables mtu queueCapacity connectStreamId io)
    (hrun : io.worker.running = true) :
    io.produced = io.departed ++ io.outbound ∧
      (io.worker.inFlight = [] → io.worker.batch = [] → io.managerHand = [] →
        io.produced = io.departed ++ io.sendBacklog ++ io.sendChannel.queue.flatten ++
          io.device.txQueue) := by
  have hio := h.ordered
  have hpath : io.produced = (io.departed ++ io.discarded) ++ io.outbound := hio.path
  rw [hio.tidy.kept hrun, List.append_nil] at hpath
  refine ⟨hpath, fun hflight hbatch hhand => ?_⟩
  rw [hpath, outbound, hflight, hbatch, hhand]
  simp only [List.flatten_nil, List.nil_append, List.append_nil, List.append_assoc]

-- The second packet is blocked and goes back to the front of the backlog.
theorem transmit_path_lossless_blocked : ∃ io, Reachable {} 1500 4 0 io ∧
    io.worker.running = true ∧ io.departed = [[1]] ∧ io.sendBacklog = [[2]] ∧
    io.produced = io.departed ++ io.outbound ∧
    io.produced = io.departed ++ io.sendBacklog ++ io.sendChannel.queue.flatten ++
      io.device.txQueue := by
  have hrun : (Run.exec (step {}) (new 1500 4 0)
      [.transmit [1], .transmit [2], .beginDrain, .collect, .collect, .collect, .trySend .sent,
        .fetchAdd, .collect, .transmit [3], .work, .work, .work, .work, .work, .work,
        .sendDatagram (some (.sent false)), .work, .sendDatagram (some .blocked)]).any
      (fun io => io.worker.running && decide (io.departed = [[1]]) &&
        decide (io.sendBacklog = [[2]]) && decide (io.worker.inFlight = []) &&
        decide (io.worker.batch = []) && decide (io.managerHand = [])) = true := by
    decide +kernel
  obtain ⟨io, hs, hp⟩ := (Option.any_eq_true _ _).mp hrun
  simp only [Bool.and_eq_true, decide_eq_true_eq] at hp
  obtain ⟨⟨⟨⟨⟨hrunning, hdeparted⟩, hbacklog⟩, hflight⟩, hbatch⟩, hhand⟩ := hp
  have hreach : Reachable {} 1500 4 0 io := Run.exec_reaches hs
  obtain ⟨hpath, hqueues⟩ := transmit_path_lossless hreach hrunning
  exact ⟨io, hreach, hrunning, hdeparted, hbacklog, hpath, hqueues hflight hbatch hhand⟩

end MasqueIo

end Usque
