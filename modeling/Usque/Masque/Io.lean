import Usque.Lib.Channel
import Usque.Manager.Transport
import Usque.Masque.Control

namespace Usque

structure MasqueIoTunables extends ManagerTunables where
  masqueIoChannelCapacity : Nat := 256
deriving DecidableEq, Repr

namespace MasqueIoTunables

def sendBatchSize (tunables : MasqueIoTunables) : Nat := max tunables.masqueSendBatchSize 1

end MasqueIoTunables

structure MasqueSendRound where
  sentPackets : Nat
  sentBytes : Nat
  blocked : Bool
deriving DecidableEq, Repr

namespace MasqueSendRound

def default : MasqueSendRound := ⟨0, 0, false⟩

def sent (round : MasqueSendRound) (packet : Packet) : MasqueSendRound :=
  { round with
    sentPackets := round.sentPackets + 1
    sentBytes := round.sentBytes + packet.length }

end MasqueSendRound

inductive DatagramSendState where
  | sent (waited : Bool)
  | dropped
  | packetTooBig (icmp : Packet)
  | blocked
deriving DecidableEq, Repr

inductive H3Event where
  | connectionError
  | connectionShutdown
  | resetStream (streamId : Nat)
  | streamClosed (streamId : Nat)
  | other
deriving DecidableEq, Repr

inductive InboundFrame where
  | datagram (dgram : List UInt8)
  | body (bytes : List UInt8) (fin : Bool)
deriving DecidableEq, Repr

def decodeDatagram (bufLen : Nat) (dgram : List UInt8) : Except MasqueError Packet := do
  let (contextId, ctxLen) ← decodeVarint dgram
  if contextId ≠ 0 then .ok []
  else if dgram.length - ctxLen > bufLen then .error (.connectionError "Buffer too small")
  else .ok (dgram.drop ctxLen)

inductive ManagerPhase where
  | looping
  | leaving
  | completing
  | stopped
deriving DecidableEq, Repr

-- The task's side of the manager: its events, and how far the manager is in ending it.
structure IncomingTask where
  incomingRx : List TransportIoEvent
  shutdown : Bool
  phase : ManagerPhase
deriving DecidableEq, Repr

namespace IncomingTask

def new : IncomingTask := ⟨[], false, .looping⟩

def full (task : IncomingTask) (capacity : Nat) : Bool := capacity ≤ task.incomingRx.length

def push (task : IncomingTask) (event : TransportIoEvent) : IncomingTask :=
  { task with incomingRx := task.incomingRx ++ [event] }

def trySend (task : IncomingTask) (capacity : Nat) (event : TransportIoEvent) : IncomingTask :=
  if task.phase = .stopped || task.full capacity then task else task.push event

def recv (task : IncomingTask) : Option IncomingTask :=
  match task.phase, task.incomingRx with
  | .looping, _ :: rest => some { task with incomingRx := rest }
  | _, _ => none

def leave (task : IncomingTask) : Option IncomingTask :=
  if task.phase = .looping then some { task with phase := .leaving } else none

-- shutdown_tx.send, then the manager drops its own completion_tx and waits.
def signal (task : IncomingTask) : Option IncomingTask :=
  if task.phase = .leaving then some { task with shutdown := true, phase := .completing }
  else none

def complete (task : IncomingTask) (finished : Bool) : Option IncomingTask :=
  if task.phase = .completing && finished then some { task with phase := .stopped } else none

end IncomingTask

inductive DrainPc where
  | collecting (attempted : Nat) (packets : List Packet)
  | sending (attempted : Nat) (packets : List Packet)
  | counting (attempted : Nat) (packetCount : Nat)
deriving DecidableEq, Repr

inductive WorkerPc where
  | head
  | flushing (round : MasqueSendRound) (waitedOnFull : Bool)
  | sending (packet : Packet) (round : MasqueSendRound) (waitedOnFull : Bool)
  | reporting (icmp : Packet) (round : MasqueSendRound) (waitedOnFull : Bool)
  | emitting (round : MasqueSendRound)
  | emitted (round : MasqueSendRound)
  | decoding (dgram : List UInt8)
  | delivering (packet : Packet)
  | parsing (body : List UInt8) (fin : Bool)
  | absorbing (batch : List Packet)
  | draining
  | closing
  | discarding
  | subtracting (batch : List Packet)
  | dropping
  | finished
deriving DecidableEq, Repr

structure MasqueIo where
  incoming : IncomingTask
  drain : Option DrainPc
  device : VirtualDevice
  sendChannel : Channel (List Packet)
  queuedPackets : UInt64
  worker : WorkerPc
  sendBacklog : List Packet
  statsDue : Bool
  h3Events : Channel H3Event
  flowRecv : Channel InboundFrame
  connectRecv : Channel InboundFrame
  connectStreamId : Nat
  control : MasqueControlState
  -- What went into tx_queue, what had an outcome, what the worker threw away when it ended,
  -- the batches that were accepted, those that were subtracted, those dropped with send_rx.
  produced : List Packet
  departed : List Packet
  discarded : List Packet
  sent : List (List Packet)
  subtracted : List (List Packet)
  lost : List (List Packet)
deriving DecidableEq, Repr

namespace WorkerPc

def inFlight : WorkerPc → List Packet
  | .sending packet _ _ => [packet]
  | _ => []

def batch : WorkerPc → List (List Packet)
  | .absorbing batch => [batch]
  | .subtracting batch => [batch]
  | _ => []

def running : WorkerPc → Bool
  | .closing | .discarding | .subtracting _ | .dropping | .finished => false
  | _ => true

-- The event whose send().await has begun.
def offer : WorkerPc → Option TransportIoEvent
  | .reporting icmp _ _ => some (.incoming icmp)
  | .delivering packet => some (.incoming packet)
  | _ => none

end WorkerPc

def DrainPc.packets : DrainPc → List Packet
  | .collecting _ packets => packets
  | .sending _ packets => packets
  | .counting _ _ => []

def DrainPc.uncounted : DrainPc → Nat
  | .counting _ packetCount => packetCount
  | _ => 0

namespace MasqueIo

def new (mtu queueCapacity connectStreamId : Nat) : MasqueIo :=
  { incoming := .new
    drain := none
    device := .new mtu queueCapacity
    sendChannel := .empty
    queuedPackets := 0
    worker := .head
    sendBacklog := []
    statsDue := true
    h3Events := .empty
    flowRecv := .empty
    connectRecv := .empty
    connectStreamId
    control := .default
    produced := []
    departed := []
    discarded := []
    sent := []
    subtracted := []
    lost := [] }

def managerHand (io : MasqueIo) : List Packet :=
  match io.drain with
  | some pc => pc.packets
  | none => []

-- Every packet on its way from tx_queue to the datagram flow, the oldest first.
def outbound (io : MasqueIo) : List Packet :=
  io.worker.inFlight ++ io.sendBacklog ++ io.worker.batch.flatten ++
    io.sendChannel.queue.flatten ++ io.managerHand ++ io.device.txQueue

-- A packet is a handle of 32 bytes, so the address space holds fewer than 2 ^ 64 of them.
def transmit (io : MasqueIo) (packet : Packet) : Option MasqueIo :=
  if io.incoming.phase = .looping ∧ io.drain = none ∧ io.outbound.length + 1 < 2 ^ 64 then
    let produced := if io.device.hasTxCapacity then io.produced ++ [packet] else io.produced
    some { io with device := io.device.consume packet, produced }
  else none

def beginDrain (io : MasqueIo) : Option MasqueIo :=
  if io.incoming.phase = .looping ∧ io.drain = none then
    some { io with drain := some (.collecting 0 []) }
  else none

def closeBatch (io : MasqueIo) (attempted : Nat) (packets : List Packet) : MasqueIo :=
  { io with drain := if packets.isEmpty then none else some (.sending attempted packets) }

def collect (tunables : MasqueIoTunables) (io : MasqueIo) : Option MasqueIo :=
  match io.drain with
  | some (.collecting attempted packets) =>
      let budget := tunables.masqueStackDrainBudget
      let batchSize := min tunables.sendBatchSize (max budget 1)
      if attempted < budget && packets.length < batchSize then
        match io.device.takePacket with
        | none => some (io.closeBatch attempted packets)
        | some (packet, device) =>
            some { io with
              device
              drain := some (.collecting (attempted + 1) (packets ++ [packet])) }
      else some (io.closeBatch attempted packets)
  | _ => none

def requeueAll (device : VirtualDevice) (packets : List Packet) : VirtualDevice :=
  packets.reverse.foldl VirtualDevice.requeuePacketFront device

def trySend (tunables : MasqueIoTunables) (io : MasqueIo) (answer : SendResult) :
    Option MasqueIo :=
  match io.drain, answer with
  | some (.sending attempted packets), .sent =>
      if io.sendChannel.queue.length < tunables.masqueIoChannelCapacity ∧
          io.worker ≠ .finished then
        (io.sendChannel.send packets).map (fun sendChannel =>
          { io with
            sendChannel
            drain := some (.counting attempted packets.length)
            sent := io.sent ++ [packets] })
      else none
  | some (.sending _ packets), _ =>
      some { io with device := requeueAll io.device packets, drain := none }
  | _, _ => none

def fetchAdd (io : MasqueIo) : Option MasqueIo :=
  match io.drain with
  | some (.counting attempted packetCount) =>
      some { io with
        queuedPackets := io.queuedPackets + UInt64.ofNat packetCount
        drain := some (.collecting attempted []) }
  | _ => none

def leave (io : MasqueIo) : Option MasqueIo :=
  if io.drain = none then io.incoming.leave.map (fun incoming => { io with incoming }) else none

def complete (io : MasqueIo) : Option MasqueIo :=
  (io.incoming.complete (io.worker = .finished)).map (fun incoming =>
    { io with incoming, sendChannel := io.sendChannel.finish })

def onShutdown (io : MasqueIo) : Option MasqueIo :=
  if io.incoming.shutdown then some { io with worker := .closing } else none

def onStatsTick (io : MasqueIo) : Option MasqueIo :=
  if io.statsDue then some { io with statsDue := false } else none

def onH3Event (io : MasqueIo) : Option MasqueIo :=
  io.h3Events.recv.map (fun (event, h3Events) =>
    let io := { io with h3Events }
    match event with
    | none | some .connectionError | some .connectionShutdown => { io with worker := .closing }
    | some (.resetStream streamId) | some (.streamClosed streamId) =>
        if streamId = io.connectStreamId then { io with worker := .closing } else io
    | some .other => io)

def onFlow (io : MasqueIo) : Option MasqueIo :=
  io.flowRecv.recv.map (fun (frame, flowRecv) =>
    let io := { io with flowRecv }
    match frame with
    | some (.datagram dgram) => { io with worker := .decoding dgram }
    | some (.body _ _) => io
    | none => { io with worker := .closing })

def onControl (io : MasqueIo) : Option MasqueIo :=
  io.connectRecv.recv.map (fun (frame, connectRecv) =>
    let io := { io with connectRecv }
    match frame with
    | some (.body bytes fin) => { io with worker := .parsing bytes fin }
    | some (.datagram _) => io
    | none => io)

def onBatch (io : MasqueIo) : Option MasqueIo :=
  io.sendChannel.recv.map (fun (batch, sendChannel) =>
    let io := { io with sendChannel }
    match batch with
    | some batch => { io with worker := .absorbing batch }
    | none => { io with worker := .closing })

def select (io : MasqueIo) : Option MasqueIo :=
  io.onShutdown <|> io.onStatsTick <|> io.onH3Event <|> io.onFlow <|> io.onControl <|> io.onBatch

def absorbSendBatch (io : MasqueIo) (batch : List Packet) : MasqueIo :=
  { io with
    queuedPackets := io.queuedPackets - UInt64.ofNat batch.length
    sendBacklog := io.sendBacklog ++ batch
    worker := .draining
    subtracted := io.subtracted ++ [batch] }

def drainSendChannelRound (sendBudgetLimit : Nat) (io : MasqueIo) : MasqueIo :=
  if io.sendBacklog.length < sendBudgetLimit then
    match io.sendChannel.tryRecv with
    | some (batch, sendChannel) => { io with sendChannel, worker := .absorbing batch }
    | none => { io with worker := .head }
  else { io with worker := .head }

-- event_tx.send: it waits while the channel is full and fails once the receiver is gone.
def sendEvent (capacity : Nat) (io : MasqueIo) (event : TransportIoEvent) (next : WorkerPc) :
    Option MasqueIo :=
  if io.incoming.phase = .stopped then some { io with worker := .closing }
  else if io.incoming.full capacity then none
  else some { io with incoming := io.incoming.push event, worker := next }

def flush (io : MasqueIo) (round : MasqueSendRound) (waitedOnFull : Bool) : MasqueIo :=
  match io.sendBacklog with
  | [] => { io with worker := .emitting round }
  | packet :: sendBacklog =>
      { io with sendBacklog, worker := .sending packet round waitedOnFull }

def discardBatches (io : MasqueIo) : MasqueIo :=
  match io.sendChannel.tryRecv with
  | some (batch, sendChannel) => { io with sendChannel, worker := .subtracting batch }
  | none => { io with worker := .dropping }

def work (tunables : MasqueIoTunables) (io : MasqueIo) : Option MasqueIo :=
  match io.worker with
  | .head =>
      if io.sendBacklog.isEmpty then io.select
      else some { io with worker := .flushing .default false }
  | .flushing round waitedOnFull => some (io.flush round waitedOnFull)
  | .sending _ _ _ => none
  | .reporting icmp round waitedOnFull =>
      io.sendEvent tunables.incomingDgramCapacity (.incoming icmp) (.flushing round waitedOnFull)
  | .emitting round =>
      let incoming :=
        if round.blocked then io.incoming.trySend tunables.incomingDgramCapacity .masqueBlocked
        else io.incoming
      some { io with incoming, worker := .emitted round }
  | .emitted round =>
      let incoming :=
        if round.sentPackets > 0 || round.blocked then
          io.incoming.trySend tunables.incomingDgramCapacity .quicFlush
        else io.incoming
      some { io with incoming, worker := .head }
  | .decoding dgram =>
      match decodeDatagram tunables.udpRecvBufferSize dgram with
      | .ok (b :: packet) => some { io with worker := .delivering (b :: packet) }
      | .ok [] => some { io with worker := .head }
      | .error _ => some { io with worker := .head }
  | .delivering packet =>
      io.sendEvent tunables.incomingDgramCapacity (.incoming packet) .head
  | .parsing body fin =>
      match io.control.processControlChunk body fin with
      | (.ok _, control) => some { io with control, worker := .head }
      | (.error _, control) => some { io with control, worker := .closing }
  | .absorbing batch => some (io.absorbSendBatch batch)
  | .draining => some (io.drainSendChannelRound tunables.masqueStackDrainBudget)
  | .closing =>
      some { io with
        sendBacklog := []
        worker := .discarding
        discarded := io.discarded ++ io.sendBacklog }
  | .discarding => some io.discardBatches
  | .subtracting batch =>
      some { io with
        queuedPackets := io.queuedPackets - UInt64.ofNat batch.length
        worker := .discarding
        subtracted := io.subtracted ++ [batch]
        discarded := io.discarded ++ batch }
  | .dropping =>
      some { io with
        sendChannel := { io.sendChannel with queue := [] }
        worker := .finished
        lost := io.sendChannel.queue
        discarded := io.discarded ++ io.sendChannel.queue.flatten }
  | .finished => none

-- none stands for the error of send_datagram.
def sendDatagram (io : MasqueIo) (outcome : Option DatagramSendState) : Option MasqueIo :=
  match io.worker with
  | .sending packet round waitedOnFull =>
      let gone := { io with departed := io.departed ++ [packet] }
      some (match outcome with
        | some (.sent waited) =>
            { gone with worker := .flushing (round.sent packet) (waitedOnFull || waited) }
        | some .dropped => { gone with worker := .flushing (round.sent packet) waitedOnFull }
        | some (.packetTooBig icmp) =>
            { gone with worker := .reporting icmp (round.sent packet) waitedOnFull }
        | some .blocked =>
            { io with
              sendBacklog := packet :: io.sendBacklog
              worker := .emitting { round with blocked := true } }
        | none => { gone with worker := .flushing round waitedOnFull })
  | _ => none

inductive Label where
  | transmit (packet : Packet)
  | beginDrain
  | collect
  | trySend (answer : SendResult)
  | fetchAdd
  | recvEvent
  | leave
  | signal
  | complete
  | statsTick
  | h3Event (event : H3Event)
  | h3End
  | flowFrame (frame : InboundFrame)
  | flowEnd
  | connectFrame (frame : InboundFrame)
  | connectEnd
  | work
  | sendDatagram (outcome : Option DatagramSendState)
deriving DecidableEq, Repr

def step (tunables : MasqueIoTunables) (io : MasqueIo) : Label → Option MasqueIo
  | .transmit packet => io.transmit packet
  | .beginDrain => io.beginDrain
  | .collect => io.collect tunables
  | .trySend answer => io.trySend tunables answer
  | .fetchAdd => io.fetchAdd
  | .recvEvent =>
      if io.drain = none then io.incoming.recv.map (fun incoming => { io with incoming })
      else none
  | .leave => io.leave
  | .signal => io.incoming.signal.map (fun incoming => { io with incoming })
  | .complete => io.complete
  | .statsTick => some { io with statsDue := true }
  | .h3Event event => (io.h3Events.send event).map (fun h3Events => { io with h3Events })
  | .h3End => some { io with h3Events := io.h3Events.finish }
  | .flowFrame frame => (io.flowRecv.send frame).map (fun flowRecv => { io with flowRecv })
  | .flowEnd => some { io with flowRecv := io.flowRecv.finish }
  | .connectFrame frame =>
      (io.connectRecv.send frame).map (fun connectRecv => { io with connectRecv })
  | .connectEnd => some { io with connectRecv := io.connectRecv.finish }
  | .work => io.work tunables
  | .sendDatagram outcome => io.sendDatagram outcome

end MasqueIo

end Usque
