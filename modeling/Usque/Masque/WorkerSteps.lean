import Usque.Masque.System

namespace Usque

namespace MasqueIo

variable {tunables : MasqueIoTunables} {io io' : MasqueIo} {label : Label}

-- What the worker begins to offer to the manager, and where it has it from.
inductive Begins (tunables : MasqueIoTunables) (io : MasqueIo) :
    Label → TransportIoEvent → Prop where
  | decoded {dgram : List UInt8} {packet : Packet} (hw : io.worker = .decoding dgram)
      (hdecode : decodeDatagram tunables.udpRecvBufferSize dgram = .ok packet)
      (hne : packet ≠ []) : Begins tunables io .work (.incoming packet)
  | tooBig {packet icmp : Packet} {round : MasqueSendRound} {waitedOnFull : Bool}
      (hw : io.worker = .sending packet round waitedOnFull) :
      Begins tunables io (.sendDatagram (some (.packetTooBig icmp))) (.incoming icmp)

-- What the manager hears from one step of the worker: the event that was on offer, or a notice.
inductive Hears (tunables : MasqueIoTunables) (label : Label) (io io' : MasqueIo) : Prop where
  | quiet (hsame : io'.incoming = io.incoming) (hoffer : io'.worker.offer = io.worker.offer)
  | begins (event : TransportIoEvent) (hsame : io'.incoming = io.incoming)
      (hoffer : io.worker.offer = none) (hoffer' : io'.worker.offer = some event)
      (hfrom : Begins tunables io label event)
  | notice (event : TransportIoEvent) (hevent : event.packets = [])
      (hroom : io.incoming.full tunables.incomingDgramCapacity = false)
      (hpush : io'.incoming = io.incoming.push event)
      (hoffer : io.worker.offer = none) (hoffer' : io'.worker.offer = none)
  | delivers (event : TransportIoEvent) (hoffer : io.worker.offer = some event)
      (hroom : io.incoming.full tunables.incomingDgramCapacity = false)
      (hpush : io'.incoming = io.incoming.push event) (hoffer' : io'.worker.offer = none)

structure WorkerTurn (tunables : MasqueIoTunables) (label : Label) (io io' : MasqueIo) :
    Prop where
  device : io'.device = io.device
  drain : io'.drain = io.drain
  produced : io'.produced = io.produced
  hears : Hears tunables label io io'

namespace WorkerTurn

theorem silent (hdevice : io'.device = io.device) (hdrain : io'.drain = io.drain)
    (hproduced : io'.produced = io.produced) (hsame : io'.incoming = io.incoming)
    (hoffer : io.worker.offer = none) (hoffer' : io'.worker.offer = none) :
    WorkerTurn tunables label io io' :=
  ⟨hdevice, hdrain, hproduced, .quiet hsame (hoffer'.trans hoffer.symm)⟩

theorem aside (hdevice : io'.device = io.device) (hdrain : io'.drain = io.drain)
    (hproduced : io'.produced = io.produced) (hsame : io'.incoming = io.incoming)
    (hworker : io'.worker = io.worker) : WorkerTurn tunables label io io' :=
  ⟨hdevice, hdrain, hproduced, .quiet hsame (by rw [hworker])⟩

end WorkerTurn

section head

variable (hw : io.worker.offer = none)

include hw

theorem onH3Event_turn (h : io.onH3Event = some io') : WorkerTurn tunables label io io' := by
  obtain ⟨⟨event, h3Events⟩, -, hio⟩ := Option.map_eq_some_iff.mp h
  cases hio
  dsimp only
  split
  · exact .silent rfl rfl rfl rfl hw rfl
  · exact .silent rfl rfl rfl rfl hw rfl
  · exact .silent rfl rfl rfl rfl hw rfl
  · split
    · exact .silent rfl rfl rfl rfl hw rfl
    · exact .aside rfl rfl rfl rfl rfl
  · split
    · exact .silent rfl rfl rfl rfl hw rfl
    · exact .aside rfl rfl rfl rfl rfl
  · exact .aside rfl rfl rfl rfl rfl

theorem onFlow_turn (h : io.onFlow = some io') : WorkerTurn tunables label io io' := by
  obtain ⟨⟨frame, flowRecv⟩, -, hio⟩ := Option.map_eq_some_iff.mp h
  cases hio
  dsimp only
  split
  · exact .silent rfl rfl rfl rfl hw rfl
  · exact .aside rfl rfl rfl rfl rfl
  · exact .silent rfl rfl rfl rfl hw rfl

theorem onControl_turn (h : io.onControl = some io') : WorkerTurn tunables label io io' := by
  obtain ⟨⟨frame, connectRecv⟩, -, hio⟩ := Option.map_eq_some_iff.mp h
  cases hio
  dsimp only
  split
  · exact .silent rfl rfl rfl rfl hw rfl
  · exact .aside rfl rfl rfl rfl rfl
  · exact .aside rfl rfl rfl rfl rfl

theorem onBatch_turn (h : io.onBatch = some io') : WorkerTurn tunables label io io' := by
  obtain ⟨⟨batch, sendChannel⟩, -, hio⟩ := Option.map_eq_some_iff.mp h
  cases hio
  dsimp only
  split <;> exact .silent rfl rfl rfl rfl hw rfl

theorem select_turn (h : io.select = some io') : WorkerTurn tunables label io io' := by
  simp only [select, Option.orElse_eq_some] at h
  rcases h with h | ⟨-, h | ⟨-, h | ⟨-, h | ⟨-, h | ⟨-, h⟩⟩⟩⟩⟩
  · simp only [onShutdown] at h
    split at h <;> cases h
    exact .silent rfl rfl rfl rfl hw rfl
  · simp only [onStatsTick] at h
    split at h <;> cases h
    exact .aside rfl rfl rfl rfl rfl
  · exact onH3Event_turn hw h
  · exact onFlow_turn hw h
  · exact onControl_turn hw h
  · exact onBatch_turn hw h

theorem flush_turn (round : MasqueSendRound) (waitedOnFull : Bool) :
    WorkerTurn tunables label io (io.flush round waitedOnFull) := by
  simp only [flush]
  split <;> exact .silent rfl rfl rfl rfl hw rfl

theorem drainSendChannelRound_turn (limit : Nat) :
    WorkerTurn tunables label io (io.drainSendChannelRound limit) := by
  simp only [drainSendChannelRound]
  split
  · split <;> exact .silent rfl rfl rfl rfl hw rfl
  · exact .silent rfl rfl rfl rfl hw rfl

theorem discardBatches_turn : WorkerTurn tunables label io io.discardBatches := by
  simp only [discardBatches]
  split <;> exact .silent rfl rfl rfl rfl hw rfl

-- A notice is left out where the channel is full.
theorem notice_turn {told : Bool} {event : TransportIoEvent} (hevent : event.packets = [])
    (hphase : io.incoming.phase = .looping) {pc : WorkerPc} (hpc : pc.offer = none) :
    WorkerTurn tunables label io { io with
      incoming :=
        if told then io.incoming.trySend tunables.incomingDgramCapacity event else io.incoming
      worker := pc } := by
  refine ⟨rfl, rfl, rfl, ?_⟩
  have hoffer : pc.offer = io.worker.offer := hpc.trans hw.symm
  cases told with
  | false => exact .quiet rfl hoffer
  | true =>
      cases hfull : io.incoming.full tunables.incomingDgramCapacity with
      | false =>
          refine .notice event hevent hfull ?_ hw hpc
          simp only [if_true, IncomingTask.trySend, hphase, hfull]
          rfl
      | true =>
          refine .quiet ?_ hoffer
          simp only [if_true, IncomingTask.trySend, hfull, Bool.or_true]

end head

theorem sendEvent_turn {event : TransportIoEvent} {next : WorkerPc}
    (hphase : io.incoming.phase = .looping) (hw : io.worker.offer = some event)
    (hnext : next.offer = none)
    (h : io.sendEvent tunables.incomingDgramCapacity event next = some io') :
    WorkerTurn tunables label io io' := by
  simp only [sendEvent, hphase, reduceCtorEq, if_false] at h
  split at h
  · cases h
  · next hfull =>
      cases h
      exact ⟨rfl, rfl, rfl, .delivers event hw (Bool.eq_false_iff.mpr hfull) rfl hnext⟩

theorem work_turn (hphase : io.incoming.phase = .looping) (h : io.work tunables = some io') :
    WorkerTurn tunables .work io io' := by
  unfold work at h
  split at h
  next hw =>
    have hoffer : io.worker.offer = none := by rw [hw]; rfl
    split at h
    · exact select_turn hoffer h
    · cases h
      exact .silent rfl rfl rfl rfl hoffer rfl
  next round waitedOnFull hw =>
    cases h
    exact flush_turn (by rw [hw]; rfl) round waitedOnFull
  · cases h
  next icmp round waitedOnFull hw => exact sendEvent_turn hphase (by rw [hw]; rfl) rfl h
  next round hw =>
    cases h
    exact notice_turn (by rw [hw]; rfl) rfl hphase rfl
  next round hw =>
    cases h
    exact notice_turn (by rw [hw]; rfl) rfl hphase rfl
  next dgram hw =>
    have hoffer : io.worker.offer = none := by rw [hw]; rfl
    split at h
    next hdecode =>
      cases h
      exact ⟨rfl, rfl, rfl, .begins _ rfl hoffer rfl (.decoded hw hdecode nofun)⟩
    · cases h
      exact .silent rfl rfl rfl rfl hoffer rfl
    · cases h
      exact .silent rfl rfl rfl rfl hoffer rfl
  next packet hw => exact sendEvent_turn hphase (by rw [hw]; rfl) rfl h
  next body fin hw =>
    have hoffer : io.worker.offer = none := by rw [hw]; rfl
    split at h <;> cases h <;> exact .silent rfl rfl rfl rfl hoffer rfl
  next batch hw =>
    cases h
    exact .silent rfl rfl rfl rfl (by rw [hw]; rfl) rfl
  next hw =>
    cases h
    exact drainSendChannelRound_turn (by rw [hw]; rfl) _
  next hw =>
    cases h
    exact .silent rfl rfl rfl rfl (by rw [hw]; rfl) rfl
  next hw =>
    cases h
    exact discardBatches_turn (by rw [hw]; rfl)
  next batch hw =>
    cases h
    exact .silent rfl rfl rfl rfl (by rw [hw]; rfl) rfl
  next hw =>
    cases h
    exact .silent rfl rfl rfl rfl (by rw [hw]; rfl) rfl
  · cases h

theorem sendDatagram_turn {outcome : Option DatagramSendState}
    (h : io.sendDatagram outcome = some io') :
    WorkerTurn tunables (.sendDatagram outcome) io io' := by
  unfold sendDatagram at h
  split at h
  next packet round waitedOnFull hw =>
    have hoffer : io.worker.offer = none := by rw [hw]; rfl
    cases h
    split
    · exact .silent rfl rfl rfl rfl hoffer rfl
    · exact .silent rfl rfl rfl rfl hoffer rfl
    · exact ⟨rfl, rfl, rfl, .begins _ rfl hoffer rfl (.tooBig hw)⟩
    · exact .silent rfl rfl rfl rfl hoffer rfl
    · exact .silent rfl rfl rfl rfl hoffer rfl
  · cases h

-- The worker does not touch the device, the drain or what the stack gave out.
theorem worker_turn (hl : label.ofWorker = true) (hphase : io.incoming.phase = .looping)
    (h : io.step tunables label = some io') : WorkerTurn tunables label io io' := by
  cases label with
  | work => exact work_turn hphase h
  | sendDatagram outcome => exact sendDatagram_turn h
  | statsTick | h3End | flowEnd | connectEnd =>
      cases h
      exact .aside rfl rfl rfl rfl rfl
  | h3Event _ | flowFrame _ | connectFrame _ =>
      obtain ⟨channel, -, hio⟩ := Option.map_eq_some_iff.mp h
      cases hio
      exact .aside rfl rfl rfl rfl rfl
  | transmit _ | beginDrain | collect | trySend _ | fetchAdd | recvEvent | leave | signal
  | complete => cases hl

end MasqueIo

end Usque
