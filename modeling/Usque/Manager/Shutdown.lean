import Usque.Lib.Run
import Usque.Masque.Io

namespace Usque

inductive RecvPc where
  | select
  | draining (drained : Nat)
  | delivering (drained : Nat) (data : Packet)
  | finished
deriving DecidableEq, Repr

-- The task of spawn_incoming_task.
structure WgReceive where
  incoming : IncomingTask
  worker : RecvPc
deriving DecidableEq, Repr

namespace WgReceive

def new : WgReceive := ⟨.new, .select⟩

def udpReadDrainBudget (tunables : ManagerTunables) : Nat :=
  max (min (tunables.udpBatchReadBudget * 4) (2 ^ 64 - 1)) 1

def offer (task : WgReceive) : Option TransportIoEvent :=
  match task.worker with
  | .delivering _ data => some (.incoming data)
  | _ => none

inductive Label where
  | recvEvent
  | leave
  | signal
  | complete
  | shutdown
  | readable
  | tryRecv (data : Option Packet)
  | send
deriving DecidableEq, Repr

-- none: the socket would block or fails.
def tryRecv (tunables : ManagerTunables) (task : WgReceive) (data : Option Packet) :
    Option WgReceive :=
  match task.worker with
  | .draining drained =>
      if drained < udpReadDrainBudget tunables then
        match data with
        | none | some [] => some { task with worker := .select }
        | some (b :: bs) =>
            some { task with
              worker := .delivering (drained + 1) ((b :: bs).take tunables.udpRecvBufferSize) }
      else some { task with worker := .select }
  | _ => none

def send (tunables : ManagerTunables) (task : WgReceive) : Option WgReceive :=
  match task.worker with
  | .delivering drained data =>
      if task.incoming.phase = .stopped then some { task with worker := .finished }
      else if task.incoming.full tunables.incomingDgramCapacity then none
      else
        some { incoming := task.incoming.push (.incoming data), worker := .draining drained }
  | _ => none

def step (tunables : ManagerTunables) (task : WgReceive) : Label → Option WgReceive
  | .recvEvent => task.incoming.recv.map (fun incoming => { task with incoming })
  | .leave => task.incoming.leave.map (fun incoming => { task with incoming })
  | .signal => task.incoming.signal.map (fun incoming => { task with incoming })
  | .complete =>
      (task.incoming.complete (task.worker = .finished)).map (fun incoming =>
        { task with incoming })
  | .shutdown =>
      if task.worker = .select ∧ task.incoming.shutdown then some { task with worker := .finished }
      else none
  | .readable =>
      if task.worker = .select then some { task with worker := .draining 0 } else none
  | .tryRecv data => task.tryRecv tunables data
  | .send => task.send tunables

end WgReceive

inductive IoTask where
  | wg (task : WgReceive)
  | masque (io : MasqueIo)
deriving DecidableEq, Repr

inductive IoLabel where
  | wg (label : WgReceive.Label)
  | masque (label : MasqueIo.Label)
deriving DecidableEq, Repr

namespace IoTask

def step (tunables : MasqueIoTunables) : IoTask → IoLabel → Option IoTask
  | .wg task, .wg label => (task.step tunables.toManagerTunables label).map .wg
  | .masque io, .masque label => (io.step tunables label).map .masque
  | _, _ => none

def incoming : IoTask → IncomingTask
  | .wg task => task.incoming
  | .masque io => io.incoming

def offer : IoTask → Option TransportIoEvent
  | .wg task => task.offer
  | .masque io => io.worker.offer

def finished : IoTask → Bool
  | .wg task => task.worker = .finished
  | .masque io => io.worker = .finished

def full (tunables : MasqueIoTunables) (task : IoTask) : Bool :=
  task.incoming.full tunables.incomingDgramCapacity

inductive Spawned : IoTask → Prop where
  | wg : Spawned (.wg .new)
  | masque (mtu queueCapacity connectStreamId : Nat) :
      Spawned (.masque (.new mtu queueCapacity connectStreamId))

def Deadlocked (tunables : MasqueIoTunables) (task : IoTask) : Prop :=
  task.incoming.phase = .completing ∧ task.offer.isSome = true ∧ task.full tunables = true

instance (tunables : MasqueIoTunables) (task : IoTask) : Decidable (Deadlocked tunables task) :=
  inferInstanceAs (Decidable (_ ∧ _ ∧ _))

def leaves : IoLabel → Bool
  | .wg .leave | .masque .leave => true
  | _ => false

-- The step at which the worker calls event_tx.send for a datagram or an ICMP reply.
def offers (tunables : MasqueIoTunables) : IoTask → IoLabel → Bool
  | .wg task, .wg (.tryRecv (some (_ :: _))) =>
      match task.worker with
      | .draining drained => drained < WgReceive.udpReadDrainBudget tunables.toManagerTunables
      | _ => false
  | .masque io, .masque .work =>
      match io.worker with
      | .decoding dgram =>
          match decodeDatagram tunables.udpRecvBufferSize dgram with
          | .ok (_ :: _) => true
          | _ => false
      | _ => false
  | .masque _, .masque (.sendDatagram (some (.packetTooBig _))) => true
  | _, _ => false

-- No send waits on a full channel when the manager leaves, and none begins on one afterwards.
def HasRoom (tunables : MasqueIoTunables) (task : IoTask) (label : IoLabel) : Prop :=
  (leaves label = true → task.offer.isSome = true → task.full tunables = false) ∧
    (offers tunables task label = true → task.incoming.phase ≠ .looping →
      task.full tunables = false)

instance (tunables : MasqueIoTunables) (task : IoTask) (label : IoLabel) :
    Decidable (HasRoom tunables task label) :=
  inferInstanceAs (Decidable (_ ∧ _))

end IoTask

end Usque
