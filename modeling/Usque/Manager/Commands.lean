import Usque.Manager.DnsOps

namespace Usque

-- `source` is a ghost field: no manager function reads it.
inductive ManagerCommand where
  | connect (remoteIp : IpAddress) (remotePort localPort : UInt16) (reservedSlot : Bool)
      (response : OneshotId)
  | close (handle : SocketHandle) (source : StreamId)
  | dnsResolve (domain : String) (preferIpv6 : Bool) (response : OneshotId)
  | dnsResolveAll (domain : String) (response : OneshotId)
  | udpRegister (localPort : UInt16) (response : OneshotId)
  | udpUnregister (localPort : UInt16)
  | getSocketState (handle : SocketHandle) (response : OneshotId) (source : StreamId)
  | waitSocketReady (handle : SocketHandle) (response : OneshotId) (source : StreamId)
deriving DecidableEq, Repr

-- The test that get_tcp_socket_state and notify_ready_waiters both make.
def NetworkStack.tcpReadiness {S : Smoltcp} (st : NetworkStack S) (handle : SocketHandle) :
    Outcome TcpSocketState := do
  if !(← st.tcpIsActive handle) then .ok .closed
  else if (← st.tcpMaySend handle) && (← st.tcpMayRecv handle) then .ok .established
  else .ok .connecting

namespace RuntimeState

variable {S : Smoltcp} (H : Hickory)

def finishReserved (rt : RuntimeState S) (reservedSlot : Bool) : RuntimeState S :=
  if reservedSlot then rt.setStats rt.shared.stats.finishReservedTcpConnect else rt

def newStream (rt : RuntimeState S) (handle : SocketHandle) : StreamId × RuntimeState S :=
  let x := rt.shared.nextStream
  let rt := rt.setStream x
    (.new handle rt.tunables.maxPendingData rt.tunables.maxPendingToClient rt.session)
  (x, { rt with shared := { rt.shared with nextStream := x + 1 } })

def newSocketState (stream : StreamId) (flowKey : TcpFlowKey) : SocketState where
  stream := stream
  flowKey := some flowKey
  pendingEvents := .socketEventWrite
  closeRequested := false
  countedPendingFromClient := false
  countedPendingToClient := false
  countedCloseRequested := false
  countedConnecting := false
  writeShutdown := false
  finSent := false
  readyWaiters := []

def insertConnection (rt : RuntimeState S) (handle : SocketHandle) (flowKey : TcpFlowKey)
    (reservedSlot : Bool) : StreamId × RuntimeState S :=
  let (x, rt) := rt.newStream handle
  let rt := rt.setSocket handle (newSocketState x flowKey)
  let rt := rt.syncSocketPollInterest handle
  let rt := rt.syncSocketConnectingState handle true
  let rt := { rt with
    tcpFlowMap := AList.insert flowKey handle rt.tcpFlowMap
    tcpHandles := rt.tcpHandles ++ [handle] }
  (x, rt.finishReserved reservedSlot)

def createConnection (rt : RuntimeState S) (remoteIp : IpAddress) (remotePort localPort : UInt16)
    (tcpBufferSize : Nat) (reservedSlot : Bool) :
    Outcome (Except ManagerError StreamId × RuntimeState S) :=
  if Table.size rt.sockets ≥ rt.tunables.managerMaxTcpSocketsPerWorker then
    .ok (.error .overloaded, rt.finishReserved reservedSlot)
  else do
    let (handle, stack) := rt.stack.createTcpSocketWithBuffer tcpBufferSize
    let (connected, stack) ← stack.connectTcp handle remoteIp remotePort localPort
    match connected with
    | .error e =>
        let stack ← stack.removeSocket handle
        let rt := { rt with stack }
        .ok (.error (.stack e), rt.finishReserved reservedSlot)
    | .ok () =>
        let (x, rt) := { rt with stack }.insertConnection handle
          ⟨localPort, remoteIp, remotePort⟩ reservedSlot
        .ok (.ok x, rt)

-- A result that cannot be delivered is dropped, and with it the SocketStream inside.
def sendConnected (rt : RuntimeState S) (response : OneshotId) :
    Except ManagerError StreamId → RuntimeState S
  | .error e => rt.reply response (.connectFailed e)
  | .ok x =>
      if response ∈ rt.shared.closedReceivers then rt.putStream x (rt.stream x).drop
      else rt.reply response (.connected x)

def closingEntry (st : SocketState) : SocketState :=
  { st with closeRequested := true, writeShutdown := true, readyWaiters := [] }

def closingStream (c : SocketStreamHandle) : SocketStreamHandle.Notified :=
  { c with writeShutdown := true }.wakeSend.notifyClosed

def closeConnection (rt : RuntimeState S) (handle : SocketHandle) : Outcome (RuntimeState S) :=
  match rt.sockets.lookup handle with
  | some st =>
      let rt := rt.putStream st.stream (closingStream (rt.stream st.stream))
      let rt := rt.setSocket handle (closingEntry st)
      let rt := rt.replyAll st.readyWaiters (.socketState .closed)
      .ok (rt.syncSocketPollInterest handle)
  | none => do
      let stack ← rt.stack.tcpClose handle
      let stack ← stack.removeSocket handle
      .ok { rt with
        stack
        tcpFlowMap := Table.retain (fun _ mapped => mapped ≠ handle) rt.tcpFlowMap
        tcpHandles := rt.tcpHandles.filter (· ≠ handle) }

def getTcpSocketState (rt : RuntimeState S) (handle : SocketHandle) : Outcome TcpSocketState :=
  match rt.sockets.lookup handle with
  | none => .ok .closed
  | some st => if st.closeRequested then .ok .closed else rt.stack.tcpReadiness handle

def getSocketState (rt : RuntimeState S) (handle : SocketHandle) (response : OneshotId) :
    Outcome (RuntimeState S) := do
  let state ← rt.getTcpSocketState handle
  .ok (rt.reply response (.socketState state))

def waitSocketReady (rt : RuntimeState S) (handle : SocketHandle) (response : OneshotId) :
    Outcome (RuntimeState S) := do
  let state ← rt.getTcpSocketState handle
  if state ≠ .connecting then .ok (rt.reply response (.socketState state))
  else
    match rt.sockets.lookup handle with
    | some st => .ok (rt.setSocket handle { st with readyWaiters := st.readyWaiters ++ [response] })
    | none => .ok (rt.reply response (.socketState .closed))

def registerUdpSession (rt : RuntimeState S) (localPort : UInt16) (response : OneshotId) :
    RuntimeState S :=
  match rt.stack.createUdpSocketDefault localPort with
  | .error e => rt.reply response (.udpFailed (.stack e))
  | .ok (handle, stack) =>
      let channel := rt.shared.nextChannel
      let closed := decide (response ∈ rt.shared.closedReceivers)
      let rt := { rt with
        stack
        udpSessions := AList.insert localPort ⟨handle, channel, rt.shared.now⟩ rt.udpSessions
        udpPorts := rt.udpPorts ++ [localPort]
        shared := { rt.shared with
          nextChannel := channel + 1
          udpChannels := Function.update rt.shared.udpChannels channel ⟨[], closed⟩ } }
      rt.reply response (.udpRegistered channel)

def sendUdpData (rt : RuntimeState S) (remoteIp : IpAddress) (remotePort localPort : UInt16)
    (data : List UInt8) : Outcome (RuntimeState S) :=
  match rt.udpSessions.lookup localPort with
  | none => .ok rt
  | some session => do
      let udpSessions :=
        AList.insert localPort { session with lastActivity := rt.shared.now } rt.udpSessions
      let (_, stack) ← rt.stack.udpSend session.handle remoteIp remotePort data
      .ok { rt with stack, udpSessions }

def closeUdpSession (rt : RuntimeState S) (localPort : UInt16) : Outcome (RuntimeState S) :=
  match rt.udpSessions.lookup localPort with
  | none => .ok rt
  | some session => do
      let stack ← rt.stack.removeSocket session.handle
      .ok { rt with stack, udpSessions := AList.erase localPort rt.udpSessions }

def unregisterUdpSession (rt : RuntimeState S) (localPort : UInt16) :
    Outcome (RuntimeState S) := do
  let rt ← rt.closeUdpSession localPort
  .ok { rt with udpPorts := rt.udpPorts.filter (· ≠ localPort) }

def handleCommand (dnsServers : List IpAddress) (tcpBufferSize draw : Nat) (rt : RuntimeState S) :
    ManagerCommand → Outcome (RuntimeState S)
  | .connect remoteIp remotePort localPort reservedSlot response => do
      let (result, rt) ←
        rt.createConnection remoteIp remotePort localPort tcpBufferSize reservedSlot
      .ok (rt.sendConnected response result)
  | .close handle _ => rt.closeConnection handle
  | .dnsResolve domain preferIpv6 response =>
      match dnsCacheGet rt.dnsCache rt.shared.now draw domain preferIpv6 with
      | some ip => .ok (rt.reply response (.resolved (.ok ip)))
      | none => rt.startDnsQuery H domain preferIpv6 response dnsServers
  | .dnsResolveAll domain response =>
      match dnsCacheGetAll rt.dnsCache rt.shared.now domain with
      | some ips => .ok (rt.reply response (.resolvedAll (.ok ips)))
      | none => rt.startDnsQueryAll H domain response dnsServers
  | .udpRegister localPort response => .ok (rt.registerUdpSession localPort response)
  | .udpUnregister localPort => rt.unregisterUdpSession localPort
  | .getSocketState handle response _ => rt.getSocketState handle response
  | .waitSocketReady handle response _ => rt.waitSocketReady handle response

def handleCommandDisconnected (rt : RuntimeState S) : ManagerCommand → RuntimeState S
  | .connect _ _ _ reservedSlot response =>
      (rt.finishReserved reservedSlot).reply response (.connectFailed .notConnected)
  | .close _ _ => rt
  | .dnsResolve _ _ response => rt.reply response (.resolved (.error .notConnected))
  | .dnsResolveAll _ response => rt.reply response (.resolvedAll (.error .notConnected))
  | .udpRegister _ response => rt.reply response (.udpFailed .notConnected)
  | .udpUnregister _ => rt
  | .getSocketState _ response _ => rt.reply response (.socketState .closed)
  | .waitSocketReady _ response _ => rt.reply response (.socketState .closed)

def handleUdpSend (rt : RuntimeState S) (cmd : UdpSend) : Outcome (RuntimeState S) :=
  rt.sendUdpData cmd.remoteIp cmd.remotePort cmd.localPort cmd.data

end RuntimeState

end Usque
