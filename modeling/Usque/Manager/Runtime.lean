import Mathlib.Logic.Function.Basic
import Usque.Lib.Fault
import Usque.Manager.DnsCache
import Usque.Manager.Metrics
import Usque.Manager.Stream

namespace Usque

abbrev ChannelId := Nat

structure ManagerTunables where
  cmdChannelCapacity : Nat := 1024
  udpDataChannelCapacity : Nat := 1024
  incomingDgramCapacity : Nat := 1024
  udpRecvBufferSize : Nat := 65535
  tcpChunkSize : Nat := 64 * 1024
  udpSessionTimeout : Time := secs 300
  maxPendingData : Nat := 128 * 1024
  maxPendingToClient : Nat := 128 * 1024
  udpBatchReadBudget : Nat := 128
  stackIngressBudget : Nat := 64
  cmdBatchBudget : Nat := 128
  udpBatchBudget : Nat := 128
  socketEventBatchBudget : Nat := 128
  targetedTcpSweepBudget : Nat := 64
  masqueSendBatchSize : Nat := 32
  masqueStackDrainBudget : Nat := 128
  wgStackDrainBudget : Nat := 256
  managerMaxTcpSocketsPerWorker : Nat := 1024
  maxPollInterval : Time := 50000
  wgTimerInterval : Time := 250000
deriving DecidableEq, Repr

inductive TcpSocketState where
  | connecting
  | established
  | closed
deriving DecidableEq, Repr

structure TcpFlowKey where
  localPort : UInt16
  remoteIp : IpAddress
  remotePort : UInt16
deriving DecidableEq, Repr

structure SocketState where
  stream : StreamId
  flowKey : Option TcpFlowKey
  pendingEvents : EventMask
  closeRequested : Bool
  countedPendingFromClient : Bool
  countedPendingToClient : Bool
  countedCloseRequested : Bool
  countedConnecting : Bool
  writeShutdown : Bool
  finSent : Bool
  readyWaiters : List OneshotId
deriving DecidableEq, Repr

structure UdpSessionState where
  handle : SocketHandle
  toClient : ChannelId
  lastActivity : Time
deriving DecidableEq, Repr

structure UdpSend where
  remoteIp : IpAddress
  remotePort : UInt16
  localPort : UInt16
  data : List UInt8
deriving DecidableEq, Repr

structure UdpChannel where
  queue : List (IpAddress × UInt16 × List UInt8)
  closed : Bool
deriving DecidableEq, Repr

inductive Reply where
  | connected (stream : StreamId)
  | connectFailed (e : ManagerError)
  | socketState (state : TcpSocketState)
  | resolved (result : Except ManagerError IpAddress)
  | resolvedAll (result : Except ManagerError (List IpAddress))
  | udpRegistered (channel : ChannelId)
  | udpFailed (e : ManagerError)
  | senderDropped

-- What the manager's Arcs, channels and statics point to; it outlives a RuntimeState.
structure Shared where
  now : Time
  streams : StreamId → SocketStreamHandle
  nextStream : StreamId
  udpChannels : ChannelId → UdpChannel
  nextChannel : ChannelId
  closedReceivers : List OneshotId
  replies : List (OneshotId × Reply)
  statics : Statics
  stats : ManagerRuntimeStats

def Shared.new (maxTcpSocketsPerWorker : Nat) : Shared where
  now := 0
  streams := fun _ => .new 0 0 0 0
  nextStream := 0
  udpChannels := fun _ => ⟨[], true⟩
  nextChannel := 0
  closedReceivers := []
  replies := []
  statics := {}
  stats := .new maxTcpSocketsPerWorker

structure PollCounters where
  pendingFromClientSockets : Nat
  pendingToClientSockets : Nat
  closeRequestedSockets : Nat
  connectingSockets : Nat
deriving DecidableEq, Repr

structure RuntimeState (S : Smoltcp) where
  stack : NetworkStack S
  tunables : ManagerTunables
  sockets : Table SocketHandle SocketState
  tcpFlowMap : Table TcpFlowKey SocketHandle
  tcpHandles : List SocketHandle
  readyTcpHandles : List SocketHandle
  readyTcpSet : Finset SocketHandle
  session : Nat
  socketEvents : List SocketEvent
  dnsQueries : Table UInt16 DnsQueryState
  dnsGroups : Table UInt32 DnsQueryGroup
  dnsSockets : DnsSockets
  dnsCache : DnsCache
  udpSessions : Table UInt16 UdpSessionState
  udpPorts : List UInt16
  counters : PollCounters
  shared : Shared

def syncCount (want counted : Bool) (n : Nat) : Nat :=
  if want = counted then n else if want then n + 1 else n - 1

def uncount (counted : Bool) (n : Nat) : Nat := if counted then n - 1 else n

namespace RuntimeState

variable {S : Smoltcp}

def new (stack : NetworkStack S) (tunables : ManagerTunables) (session : Nat) (shared : Shared) :
    RuntimeState S where
  stack := stack
  tunables := tunables
  sockets := ∅
  tcpFlowMap := ∅
  tcpHandles := []
  readyTcpHandles := []
  readyTcpSet := ∅
  session := session
  socketEvents := []
  dnsQueries := ∅
  dnsGroups := ∅
  dnsSockets := .new
  dnsCache := ∅
  udpSessions := ∅
  udpPorts := []
  counters := ⟨0, 0, 0, 0⟩
  shared := shared

def stream (rt : RuntimeState S) (x : StreamId) : SocketStreamHandle := rt.shared.streams x

def setStream (rt : RuntimeState S) (x : StreamId) (c : SocketStreamHandle) : RuntimeState S :=
  { rt with shared := { rt.shared with streams := Function.update rt.shared.streams x c } }

def putStream (rt : RuntimeState S) (x : StreamId) (n : SocketStreamHandle.Notified) :
    RuntimeState S :=
  if n.1.socketNotifier = rt.session then
    { rt.setStream x n.1 with
      socketEvents := rt.socketEvents ++ n.2.map (fun kind => ⟨n.1.handle, kind, x⟩) }
  else rt.setStream x n.1

def setSocket (rt : RuntimeState S) (handle : SocketHandle) (st : SocketState) : RuntimeState S :=
  { rt with sockets := AList.insert handle st rt.sockets }

def setStats (rt : RuntimeState S) (stats : ManagerRuntimeStats) : RuntimeState S :=
  { rt with shared := { rt.shared with stats } }

def setStatics (rt : RuntimeState S) (statics : Statics) : RuntimeState S :=
  { rt with shared := { rt.shared with statics } }

def reply (rt : RuntimeState S) (response : OneshotId) (value : Reply) : RuntimeState S :=
  if response ∈ rt.shared.closedReceivers then rt
  else
    { rt with shared := { rt.shared with replies := rt.shared.replies ++ [(response, value)] } }

def replyAll (rt : RuntimeState S) (responses : List OneshotId) (value : Reply) : RuntimeState S :=
  responses.foldl (fun rt response => rt.reply response value) rt

def hasPollWork (rt : RuntimeState S) : Bool :=
  if !rt.udpPorts.isEmpty || !rt.dnsQueries.entries.isEmpty || !rt.dnsGroups.entries.isEmpty then
    true
  else
    let (rxQueueLen, txQueueLen) := rt.stack.queueLengths
    rxQueueLen > 0 || txQueueLen > 0 || !rt.readyTcpHandles.isEmpty ||
      rt.counters.pendingFromClientSockets > 0 || rt.counters.pendingToClientSockets > 0 ||
      rt.counters.closeRequestedSockets > 0 || rt.counters.connectingSockets > 0

def enqueueReadyTcpHandle (rt : RuntimeState S) (handle : SocketHandle) : RuntimeState S :=
  if handle ∈ rt.readyTcpSet then rt
  else
    { rt with
      readyTcpSet := insert handle rt.readyTcpSet
      readyTcpHandles := rt.readyTcpHandles ++ [handle] }

def markReadyTcpHandle (rt : RuntimeState S) (handle : SocketHandle) (mask : EventMask) :
    RuntimeState S :=
  let rt := { rt with
    sockets := Table.modify handle
      (fun st => { st with pendingEvents := st.pendingEvents.union mask }) rt.sockets }
  rt.enqueueReadyTcpHandle handle

end RuntimeState

def syncSocketPollInterestCounters (st : SocketState) (c : SocketStreamHandle)
    (n : PollCounters) : SocketState × PollCounters :=
  let hasPendingFromClient := decide (c.sendBuffer.len > 0)
  let hasPendingToClient := decide (c.recvBuffer.len > 0)
  ({ st with
      countedPendingFromClient := hasPendingFromClient
      countedPendingToClient := hasPendingToClient
      countedCloseRequested := st.closeRequested },
    { n with
      pendingFromClientSockets :=
        syncCount hasPendingFromClient st.countedPendingFromClient n.pendingFromClientSockets
      pendingToClientSockets :=
        syncCount hasPendingToClient st.countedPendingToClient n.pendingToClientSockets
      closeRequestedSockets :=
        syncCount st.closeRequested st.countedCloseRequested n.closeRequestedSockets })

def removeSocketPollInterestCounters (st : SocketState) (n : PollCounters) : PollCounters where
  pendingFromClientSockets := uncount st.countedPendingFromClient n.pendingFromClientSockets
  pendingToClientSockets := uncount st.countedPendingToClient n.pendingToClientSockets
  closeRequestedSockets := uncount st.countedCloseRequested n.closeRequestedSockets
  connectingSockets := uncount st.countedConnecting n.connectingSockets

def syncSocketConnectingCounters (st : SocketState) (isConnecting : Bool) (n : PollCounters) :
    SocketState × PollCounters :=
  ({ st with countedConnecting := isConnecting },
    { n with
      connectingSockets := syncCount isConnecting st.countedConnecting n.connectingSockets })

namespace RuntimeState

variable {S : Smoltcp}

def syncSocketPollInterest (rt : RuntimeState S) (handle : SocketHandle) : RuntimeState S :=
  match rt.sockets.lookup handle with
  | none => rt
  | some st =>
      let (st, counters) := syncSocketPollInterestCounters st (rt.stream st.stream) rt.counters
      { rt.setSocket handle st with counters }

def syncSocketConnectingState (rt : RuntimeState S) (handle : SocketHandle)
    (isConnecting : Bool) : RuntimeState S :=
  match rt.sockets.lookup handle with
  | none => rt
  | some st =>
      let (st, counters) := syncSocketConnectingCounters st isConnecting rt.counters
      { rt.setSocket handle st with counters }

end RuntimeState

end Usque
