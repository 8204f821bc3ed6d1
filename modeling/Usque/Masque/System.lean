import Usque.Manager.TxQueue
import Usque.Masque.Io

namespace Usque

namespace ActiveTunnel

-- What drain_stack_packets notes of one answer of try_send_batch.
def answered (tunnel : ActiveTunnel) (now : Time) (answer : SendResult) : ActiveTunnel :=
  match tunnel, answer with
  | .masque _ _, .sent => .masque 0 none
  | .masque streak _, .full =>
      let streak := min (streak + 1) 6
      .masque streak (some (now + 1000 * min (2 ^ (streak - 1)) 32))
  | tunnel, _ => tunnel

end ActiveTunnel

-- The labels of the worker and of those that it hears from.
def MasqueIo.Label.ofWorker : MasqueIo.Label → Bool
  | .statsTick | .h3Event _ | .h3End | .flowFrame _ | .flowEnd | .connectFrame _ | .connectEnd
  | .work | .sendDatagram _ => true
  | .transmit _ | .beginDrain | .collect | .trySend _ | .fetchAdd | .recvEvent | .leave | .signal
  | .complete => false

-- The labels in which the manager does not ask its MASQUE tunnel for anything.
def Label.masqueFree : Label → Bool
  | .io _ | .manager (.establish _) | .manager (.checkAlive _) | .manager (.transmit _)
  | .manager (.refresh _) => false
  | _ => true

def Label.ofManager : Label → Bool
  | .manager _ => true
  | _ => false

def TransportIoEvent.packets : TransportIoEvent → List Packet
  | .incoming data => [data]
  | .quicFlush | .masqueBlocked => []

-- A drain in progress: the tunnel and the device at its beginning, and the answers since.
structure MasqueDrain where
  tunnel : ActiveTunnel
  device : VirtualDevice
  answers : List SendResult

inductive MasqueLabel where
  | system (label : Label)
  | worker (label : MasqueIo.Label)
  | establish (mtu connectStreamId : Nat)
  | checkAlive (alive : Bool)
  | beginDrain
  | collect
  | trySend
  | fetchAdd
  | refresh
deriving DecidableEq, Repr

-- The manager's run with its MASQUE worker. Both hold the channel of the events, and the device is
-- the stack's. What the worker has offered to that channel, and the manager handled, are kept.
structure MasqueSystem (S : Smoltcp) where
  ioChannelCapacity : Nat
  sys : System S
  io : Option MasqueIo
  drain : Option MasqueDrain
  offered : List Packet
  handled : List Packet

namespace MasqueIo

def sendAnswer (io : MasqueIo) (capacity : Nat) : SendResult :=
  if io.worker = .finished then .closed
  else if io.sendChannel.queue.length < capacity then .sent
  else .full

-- alive is stored when the channel has been emptied, before the task drops it.
def mayBeAlive (io : MasqueIo) (alive : Bool) : Bool :=
  match io.worker with
  | .finished => !alive
  | .dropping => true
  | _ => alive

def offers (io io' : MasqueIo) : List Packet :=
  match io.worker.offer, io'.worker.offer with
  | none, some event => event.packets
  | _, _ => []

end MasqueIo

namespace System

variable {S : Smoltcp}

def withDevice (s : System S) (device : VirtualDevice) : System S :=
  { s with rt := { s.rt with stack := { s.rt.stack with device } } }

def withIo (s : System S) (io : MasqueIo) : System S :=
  { s.withDevice io.device with incomingRx := io.incoming.incomingRx }

def afterTransmit (dirtyCycle : Bool) : Pc := if dirtyCycle then .refresh else .loopHead

-- The packets that a step hands to the stack.
def takenPackets (s : System S) : Label → List Packet
  | .manager (.incoming _) => (s.incomingRx.take 1).flatMap TransportIoEvent.packets
  | _ => []

end System

namespace MasqueIo

def withSystem {S : Smoltcp} (io : MasqueIo) (s : System S) : MasqueIo :=
  { io with
    device := s.rt.stack.device
    incoming := { io.incoming with incomingRx := s.incomingRx }
    produced := io.produced ++ s.rt.stack.device.txQueue.drop io.device.txQueue.length }

end MasqueIo

namespace MasqueSystem

variable {S : Smoltcp} (H : Hickory)

def init (S : Smoltcp) (params : ConnectionParams) (ioChannelCapacity : Nat) :
    MasqueSystem S where
  ioChannelCapacity := ioChannelCapacity
  sys := .init S { params with tunnelMode := .masque }
  io := none
  drain := none
  offered := []
  handled := []

def now (w : MasqueSystem S) : Time := w.sys.rt.shared.now

-- The worker has the tunables of the connection, and the drain those of the runtime state.
def ioTunables (w : MasqueSystem S) : MasqueIoTunables :=
  { w.sys.params.managerTunables with masqueIoChannelCapacity := w.ioChannelCapacity }

def drainTunables (w : MasqueSystem S) : MasqueIoTunables :=
  { w.sys.rt.tunables with masqueIoChannelCapacity := w.ioChannelCapacity }

-- The worker goes with the loop; a packet is a handle of 32 bytes in the address space.
def settle (w : MasqueSystem S) (label : Label) (sys : System S) : Option (MasqueSystem S) :=
  match w.io with
  | none => some { w with sys }
  | some io =>
      if sys.connected then
        if (io.withSystem sys).outbound.length < 2 ^ 64 then
          some { w with
            sys
            io := some (io.withSystem sys)
            handled := w.handled ++ w.sys.takenPackets label }
        else none
      else some { w with sys, io := none, drain := none }

def advance (w : MasqueSystem S) (label : Label) : Option (MasqueSystem S) :=
  if label.ofManager → w.drain.isNone then (w.sys.step H label).bind (w.settle label) else none

def systemStep (w : MasqueSystem S) (label : Label) : Option (MasqueSystem S) :=
  if label.masqueFree then w.advance H label else none

def workerStep (w : MasqueSystem S) (io : MasqueIo) (label : MasqueIo.Label) :
    Option (MasqueSystem S) :=
  if label.ofWorker then
    (io.step w.ioTunables label).map (fun io' =>
      { w with
        sys := w.sys.withIo io'
        io := some io'
        offered := w.offered ++ io.offers io' })
  else none

def establishStep (w : MasqueSystem S) (mtu connectStreamId : Nat) : Option (MasqueSystem S) :=
  (w.sys.step H (.manager (.establish mtu))).map (fun sys =>
    { w with
      sys
      io := some (.new mtu w.sys.params.stackTunables.deviceQueueCapacity connectStreamId)
      offered := []
      handled := [] })

def beginDrain (w : MasqueSystem S) (io : MasqueIo) : Option (MasqueSystem S) :=
  match w.sys.pc, w.drain with
  | .transmit dirtyCycle, none =>
      if w.sys.tunnel.masqueDrainBlocked w.now then
        some { w with sys := { w.sys with pc := System.afterTransmit dirtyCycle } }
      else
        io.beginDrain.map (fun io =>
          { w with io := some io, drain := some ⟨w.sys.tunnel, w.sys.rt.stack.device, []⟩ })
  | _, _ => none

-- The loop of drain_stack_packets ends where it has no packets in hand.
def drained (w : MasqueSystem S) (d : MasqueDrain) (io : MasqueIo) (tunnel : ActiveTunnel) :
    MasqueSystem S :=
  let sys := { w.sys.withIo io with tunnel }
  match io.drain, w.sys.pc with
  | none, .transmit dirtyCycle =>
      { w with
        sys := { sys with pc := System.afterTransmit dirtyCycle }
        io := some io
        drain := none }
  | _, _ => { w with sys, io := some io, drain := some d }

def drainStep (w : MasqueSystem S) (io : MasqueIo) (d : MasqueDrain) :
    MasqueLabel → Option (MasqueSystem S)
  | .collect => (io.collect w.drainTunables).map (fun io => w.drained d io w.sys.tunnel)
  | .trySend =>
      let answer := io.sendAnswer w.ioChannelCapacity
      (io.trySend w.drainTunables answer).map (fun io =>
        w.drained { d with answers := d.answers ++ [answer] } io
          (w.sys.tunnel.answered w.now answer))
  | .fetchAdd => io.fetchAdd.map (fun io => w.drained d io w.sys.tunnel)
  | _ => none

def tunnelStep (w : MasqueSystem S) (io : MasqueIo) : MasqueLabel → Option (MasqueSystem S)
  | .worker label => w.workerStep io label
  | .checkAlive alive =>
      if io.mayBeAlive alive then w.advance H (.manager (.checkAlive alive)) else none
  | .beginDrain => w.beginDrain io
  | .refresh => w.advance H (.manager (.refresh io.queuedPackets.toNat))
  | label => w.drain.bind (fun d => w.drainStep io d label)

def step (w : MasqueSystem S) (label : MasqueLabel) : Option (MasqueSystem S) :=
  match label, w.io with
  | .system label, _ => w.systemStep H label
  | .establish mtu connectStreamId, none => w.establishStep H mtu connectStreamId
  | label, some io => w.tunnelStep H io label
  | _, none => none

def Reachable (params : ConnectionParams) (ioChannelCapacity : Nat) (w : MasqueSystem S) : Prop :=
  Run.Reaches (step H) Run.Any (init S params ioChannelCapacity) w

end MasqueSystem

end Usque
