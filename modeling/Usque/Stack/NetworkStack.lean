import Mathlib.Data.Finset.Insert
import Mathlib.Data.Finset.Erase
import Usque.Stack.Device

namespace Usque

structure StackTunables where
  deviceQueueCapacity : Nat := 4096
  tcpAckDelay : Option Time := some 10000
  tcpKeepalive : Option Time := some 28000000
  tcpTimeout : Option Time := some 7200000000
  udpSocketMetadataCapacity : Nat := 16
  udpSocketBufferSize : Nat := 64 * 1024
deriving DecidableEq, Repr

inductive StackError where
  | socketError (message : String)
  | ioError (message : String)
  | pollPanic
deriving DecidableEq, Repr

inductive StackCall where
  | createTcp (handle : SocketHandle)
  | tcpClose (handle : SocketHandle)
  | udpSend (handle : SocketHandle) (bound : Option IpEndpoint) (remote : IpAddress)
deriving DecidableEq, Repr

structure StackPollOutcome where
  ingressProcessed : Nat
  moreIngress : Bool
  socketStateChanged : Bool
deriving DecidableEq, Repr

structure NetworkStack (S : Smoltcp) where
  device : VirtualDevice
  iface : S.Interface
  sockets : S.SocketSet
  validHandles : Finset SocketHandle
  localIpv4 : Option Ipv4Address
  localIpv6 : Option Ipv6Address
  tunables : StackTunables
  calls : List StackCall

namespace NetworkStack

variable {S : Smoltcp}

def fallbackIpv4 : Ipv4Address := 0x0a000001#32

def localAddrs (ipv4 : Option (Option Ipv4Address)) (ipv6 : Option (Option Ipv6Address)) :
    Option Ipv4Address × Option Ipv6Address :=
  let localIpv4 := ipv4.map (·.getD fallbackIpv4)
  let localIpv6 := ipv6.join
  if localIpv4.isNone && localIpv6.isNone then (some fallbackIpv4, none)
  else (localIpv4, localIpv6)

def new (S : Smoltcp) (ipv4 : Option (Option Ipv4Address)) (ipv6 : Option (Option Ipv6Address))
    (mtu : Nat) (tunables : StackTunables) : NetworkStack S :=
  let addrs := localAddrs ipv4 ipv6
  { device := .new mtu tunables.deviceQueueCapacity
    iface := S.newInterface addrs.1 addrs.2 mtu
    sockets := .empty
    validHandles := ∅
    localIpv4 := addrs.1
    localIpv6 := addrs.2
    tunables
    calls := [] }

def kindAt (st : NetworkStack S) (handle : SocketHandle) : Option Smoltcp.SocketKind :=
  S.kindAt st.sockets handle

def udpAt (st : NetworkStack S) (handle : SocketHandle) : Option (Option IpEndpoint) :=
  (st.kindAt handle).bind (fun
    | .tcp => none
    | .udp endpoint => some endpoint)

def getTcpSocket (st : NetworkStack S) (handle : SocketHandle) : Outcome (Option S.TcpSocket) :=
  if handle ∈ st.validHandles then
    match st.sockets.get? handle with
    | some (.tcp s) => .ok (some s)
    | _ => .error .panic
  else
    .ok none

def getUdpSocket (st : NetworkStack S) (handle : SocketHandle) : Outcome (Option S.UdpSocket) :=
  if handle ∈ st.validHandles then
    match st.sockets.get? handle with
    | some (.udp s) => .ok (some s)
    | _ => .error .panic
  else
    .ok none

def putTcp (st : NetworkStack S) (handle : SocketHandle) (s : S.TcpSocket) : NetworkStack S :=
  { st with sockets := st.sockets.put handle (.tcp s) }

def putUdp (st : NetworkStack S) (handle : SocketHandle) (s : S.UdpSocket) : NetworkStack S :=
  { st with sockets := st.sockets.put handle (.udp s) }

def addSocket (st : NetworkStack S) (s : S.AnySocket) : SocketHandle × NetworkStack S :=
  (st.sockets.lowestFree,
    { st with
      sockets := st.sockets.add s
      validHandles := insert st.sockets.lowestFree st.validHandles })

def createTcpSocketWithBuffer (st : NetworkStack S) (bufferSize : Nat) :
    SocketHandle × NetworkStack S :=
  let socket := S.newTcp bufferSize
    { nagleEnabled := false
      ackDelay := st.tunables.tcpAckDelay
      keepAlive := st.tunables.tcpKeepalive
      congestionControl := .cubic
      timeout := st.tunables.tcpTimeout }
  let (handle, st) := st.addSocket (.tcp socket)
  (handle, { st with calls := .createTcp handle :: st.calls })

def invalidHandle : StackError := .socketError "invalid socket handle"

def connectTcp (st : NetworkStack S) (handle : SocketHandle) (remoteIp : IpAddress)
    (remotePort localPort : UInt16) : Outcome (Except StackError Unit × NetworkStack S) := do
  match ← st.getTcpSocket handle with
  | none => .ok (.error invalidHandle, st)
  | some socket =>
      match S.tcpConnect st.iface socket ⟨remoteIp, remotePort⟩ localPort with
      | .error e => .ok (.error (.socketError e), st)
      | .ok (iface, socket) => .ok (.ok (), { st.putTcp handle socket with iface })

def tcpSend (st : NetworkStack S) (handle : SocketHandle) (data : List UInt8) :
    Outcome (Except StackError Nat × NetworkStack S) := do
  match ← st.getTcpSocket handle with
  | none => .ok (.error invalidHandle, st)
  | some socket =>
      let (result, socket) := S.tcpSendSlice socket data
      .ok (result.mapError .socketError, st.putTcp handle socket)

def tcpRecv (st : NetworkStack S) (handle : SocketHandle) (len : Nat) :
    Outcome (Except StackError (List UInt8) × NetworkStack S) := do
  match ← st.getTcpSocket handle with
  | none => .ok (.error invalidHandle, st)
  | some socket =>
      let (result, socket) := S.tcpRecvSlice socket len
      .ok (result.mapError .socketError, st.putTcp handle socket)

def tcpQuery (f : S.TcpSocket → Bool) (st : NetworkStack S) (handle : SocketHandle) :
    Outcome Bool := do
  match ← st.getTcpSocket handle with
  | none => .ok false
  | some socket => .ok (f socket)

def tcpIsActive (st : NetworkStack S) (handle : SocketHandle) : Outcome Bool :=
  tcpQuery S.tcpIsActive st handle

def tcpMaySend (st : NetworkStack S) (handle : SocketHandle) : Outcome Bool :=
  tcpQuery S.tcpMaySend st handle

def tcpMayRecv (st : NetworkStack S) (handle : SocketHandle) : Outcome Bool :=
  tcpQuery S.tcpMayRecv st handle

def tcpIsPastHandshake (st : NetworkStack S) (handle : SocketHandle) : Outcome Bool :=
  tcpQuery (fun s => match S.tcpState s with
    | .listen | .synSent | .synReceived => false
    | _ => true) st handle

def tcpClose (st : NetworkStack S) (handle : SocketHandle) : Outcome (NetworkStack S) := do
  let st := { st with calls := .tcpClose handle :: st.calls }
  match ← st.getTcpSocket handle with
  | none => .ok st
  | some socket => .ok (st.putTcp handle (S.tcpClose socket))

def removeSocket (st : NetworkStack S) (handle : SocketHandle) : Outcome (NetworkStack S) :=
  if handle ∈ st.validHandles then
    match st.sockets.get? handle with
    | some _ =>
        .ok { st with
          validHandles := st.validHandles.erase handle
          sockets := st.sockets.remove handle }
    | none => .error .panic
  else
    .ok st

def injectPacketOwned (st : NetworkStack S) (packet : Packet) : Outcome (NetworkStack S) := do
  let device ← st.device.injectPacketOwned packet
  .ok { st with device }

def takePacket (st : NetworkStack S) : Option (Packet × NetworkStack S) :=
  st.device.takePacket.map (fun (p, device) => (p, { st with device }))

def requeuePacketFront (st : NetworkStack S) (packet : Packet) : NetworkStack S :=
  { st with device := st.device.requeuePacketFront packet }

def queueLengths (st : NetworkStack S) : Nat × Nat := st.device.queueLengths

def hasRxPackets (st : NetworkStack S) : Bool := st.queueLengths.1 > 0

def hasTxPackets (st : NetworkStack S) : Bool := st.queueLengths.2 > 0

def pollDelay (st : NetworkStack S) (now : Time) : Option Time :=
  S.pollDelay now st.iface st.sockets

def localAddrForRemote (st : NetworkStack S) (remoteIp : IpAddress) : Except StackError IpAddress :=
  match remoteIp with
  | .ipv4 _ =>
      match st.localIpv4 with
      | some a => .ok (.ipv4 a)
      | none => .error (.socketError "No IPv4 address configured")
  | .ipv6 _ =>
      match st.localIpv6 with
      | some a => .ok (.ipv6 a)
      | none => .error (.socketError "No IPv6 address configured")

def localAddrDefault (st : NetworkStack S) : Except StackError IpAddress :=
  match st.localIpv4, st.localIpv6 with
  | some a, _ => .ok (.ipv4 a)
  | none, some a => .ok (.ipv6 a)
  | none, none => .error (.socketError "No IP address configured")

def bindUdpSocket (st : NetworkStack S) (localAddr : IpAddress) (localPort : UInt16) :
    Except StackError (SocketHandle × NetworkStack S) :=
  let socket := S.newUdp st.tunables.udpSocketMetadataCapacity st.tunables.udpSocketBufferSize
  match S.udpBind socket ⟨localAddr, localPort⟩ with
  | .error e => .error (.socketError e)
  | .ok socket => .ok (st.addSocket (.udp socket))

def createUdpSocketFor (st : NetworkStack S) (localPort : UInt16) (remoteIp : IpAddress) :
    Except StackError (SocketHandle × NetworkStack S) :=
  match st.localAddrForRemote remoteIp with
  | .error e => .error e
  | .ok localAddr => st.bindUdpSocket localAddr localPort

def createUdpSocketDefault (st : NetworkStack S) (localPort : UInt16) :
    Except StackError (SocketHandle × NetworkStack S) :=
  match st.localAddrDefault with
  | .error e => .error e
  | .ok localAddr => st.bindUdpSocket localAddr localPort

def udpSend (st : NetworkStack S) (handle : SocketHandle) (remoteIp : IpAddress)
    (remotePort : UInt16) (data : List UInt8) :
    Outcome (Except StackError Unit × NetworkStack S) := do
  match ← st.getUdpSocket handle with
  | none => .ok (.error invalidHandle, st)
  | some socket =>
      let st := { st with calls := .udpSend handle (S.udpEndpoint socket) remoteIp :: st.calls }
      let (result, socket) := S.udpSendSlice socket data ⟨remoteIp, remotePort⟩
      .ok (result.mapError .socketError, st.putUdp handle socket)

def udpRecv (st : NetworkStack S) (handle : SocketHandle) (len : Nat) :
    Outcome (Except StackError (List UInt8 × IpEndpoint) × NetworkStack S) := do
  match ← st.getUdpSocket handle with
  | none => .ok (.error invalidHandle, st)
  | some socket =>
      let (result, socket) := S.udpRecvSlice socket len
      .ok (result.mapError .socketError, st.putUdp handle socket)

def udpCanRecv (st : NetworkStack S) (handle : SocketHandle) : Outcome Bool := do
  match ← st.getUdpSocket handle with
  | none => .ok false
  | some socket => .ok (S.udpCanRecv socket)

inductive PollIngressSingleResult where
  | none
  | packetProcessed
  | socketStateChanged
deriving DecidableEq, Repr

def pollIngressSingle (st : NetworkStack S) (now : Time) :
    Except StackError (PollIngressSingleResult × NetworkStack S) :=
  match st.device.receive with
  | none => .ok (.none, st)
  | some (packet, device) =>
      match S.processPacket now st.iface st.sockets packet with
      | none => .error .pollPanic
      | some r =>
          .ok (if r.stateChanged then .socketStateChanged else .packetProcessed,
            { st with
              device := r.reply.elim device device.consume
              iface := r.iface
              sockets := r.sockets })

def pollIngress (now : Time) : Nat → NetworkStack S → StackPollOutcome →
    Except StackError (StackPollOutcome × NetworkStack S)
  | 0, st, outcome => .ok (outcome, st)
  | budget + 1, st, outcome =>
      match st.pollIngressSingle now with
      | .error e => .error e
      | .ok (.none, st) => .ok (outcome, st)
      | .ok (.packetProcessed, st) =>
          pollIngress now budget st
            { outcome with ingressProcessed := outcome.ingressProcessed + 1 }
      | .ok (.socketStateChanged, st) =>
          pollIngress now budget st
            { outcome with
              ingressProcessed := outcome.ingressProcessed + 1
              socketStateChanged := true }

def pollEgress (st : NetworkStack S) (now : Time) : Except StackError (Bool × NetworkStack S) :=
  let room := st.device.queueCapacity - st.device.txQueue.length
  match S.pollEgress now st.iface st.sockets room with
  | none => .error .pollPanic
  | some r =>
      .ok (r.stateChanged,
        { st with
          device := r.packets.foldl VirtualDevice.consume st.device
          iface := r.iface
          sockets := r.sockets })

def pollBounded (st : NetworkStack S) (now : Time) (ingressBudget : Nat) :
    Except StackError (StackPollOutcome × NetworkStack S) :=
  let st := { st with iface := S.pollMaintenance now st.iface }
  let ingressBudget := max ingressBudget 1
  match pollIngress now ingressBudget st ⟨0, false, false⟩ with
  | .error e => .error e
  | .ok (outcome, st) =>
      let outcome :=
        if outcome.ingressProcessed = ingressBudget then
          { outcome with moreIngress := st.queueLengths.1 > 0 }
        else outcome
      match st.pollEgress now with
      | .error e => .error e
      | .ok (changed, st) =>
          .ok ({ outcome with socketStateChanged := outcome.socketStateChanged || changed }, st)

end NetworkStack

end Usque
