import Mathlib.Data.BitVec
import Usque.Lib.Slots

namespace Usque

abbrev Packet := List UInt8
abbrev Time := Nat
abbrev SocketHandle := Nat
abbrev Ipv4Address := BitVec 32
abbrev Ipv6Address := BitVec 128

inductive IpVersion where
  | ipv4
  | ipv6
deriving DecidableEq, Repr

inductive IpAddress where
  | ipv4 (a : Ipv4Address)
  | ipv6 (a : Ipv6Address)
deriving DecidableEq, Repr

def IpAddress.version : IpAddress → IpVersion
  | .ipv4 _ => .ipv4
  | .ipv6 _ => .ipv6

structure IpEndpoint where
  addr : IpAddress
  port : UInt16
deriving DecidableEq, Repr

inductive TcpState where
  | closed
  | listen
  | synSent
  | synReceived
  | established
  | finWait1
  | finWait2
  | closeWait
  | closing
  | lastAck
  | timeWait
deriving DecidableEq, Repr

inductive CongestionControl where
  | none
  | reno
  | cubic
deriving DecidableEq, Repr

structure TcpOptions where
  nagleEnabled : Bool
  ackDelay : Option Time
  keepAlive : Option Time
  congestionControl : CongestionControl
  timeout : Option Time
deriving DecidableEq, Repr

inductive Socket (T U : Type) where
  | tcp (s : T)
  | udp (s : U)

structure Ipv4Packet where
  nextHeader : UInt8
  srcAddr : Ipv4Address
  payload : Packet

structure Ipv6Packet where
  nextHeader : UInt8
  srcAddr : Ipv6Address
  payload : Packet

structure TcpPacket where
  srcPort : UInt16
  dstPort : UInt16

structure IngressResult (I T U : Type) where
  iface : I
  sockets : Slots (Socket T U)
  reply : Option Packet
  stateChanged : Bool

structure EgressResult (I T U : Type) where
  iface : I
  sockets : Slots (Socket T U)
  packets : List Packet
  stateChanged : Bool

structure Smoltcp where
  TcpSocket : Type
  UdpSocket : Type
  Interface : Type
  newInterface : Option Ipv4Address → Option Ipv6Address → Nat → Interface
  newTcp : Nat → TcpOptions → TcpSocket
  tcpConnect : Interface → TcpSocket → IpEndpoint → UInt16 → Except String (Interface × TcpSocket)
  tcpState : TcpSocket → TcpState
  tcpIsActive : TcpSocket → Bool
  tcpMaySend : TcpSocket → Bool
  tcpMayRecv : TcpSocket → Bool
  tcpRecvQueue : TcpSocket → Nat
  tcpSendSlice : TcpSocket → List UInt8 → Except String Nat × TcpSocket
  tcpRecvSlice : TcpSocket → Nat → Except String (List UInt8) × TcpSocket
  tcpClose : TcpSocket → TcpSocket
  newUdp : Nat → Nat → UdpSocket
  udpBind : UdpSocket → IpEndpoint → Except String UdpSocket
  udpEndpoint : UdpSocket → Option IpEndpoint
  udpQueued : UdpSocket → List IpEndpoint
  udpCanRecv : UdpSocket → Bool
  udpSendSlice : UdpSocket → List UInt8 → IpEndpoint → Except String Unit × UdpSocket
  udpRecvSlice : UdpSocket → Nat → Except String (List UInt8 × IpEndpoint) × UdpSocket
  pollMaintenance : Time → Interface → Interface
  processPacket : Time → Interface → Slots (Socket TcpSocket UdpSocket) → Packet →
    Option (IngressResult Interface TcpSocket UdpSocket)
  pollEgress : Time → Interface → Slots (Socket TcpSocket UdpSocket) → Nat →
    Option (EgressResult Interface TcpSocket UdpSocket)
  pollDelay : Time → Interface → Slots (Socket TcpSocket UdpSocket) → Option Time
  parseIpv4 : Packet → Option Ipv4Packet
  parseIpv6 : Packet → Option Ipv6Packet
  parseTcp : Packet → Option TcpPacket

namespace Smoltcp

variable (S : Smoltcp)

abbrev AnySocket := Socket S.TcpSocket S.UdpSocket
abbrev SocketSet := Slots S.AnySocket

inductive SocketKind where
  | tcp
  | udp (endpoint : Option IpEndpoint)
deriving DecidableEq, Repr

def kind : S.AnySocket → SocketKind
  | .tcp _ => .tcp
  | .udp s => .udp (S.udpEndpoint s)

def kindAt (sockets : S.SocketSet) (handle : SocketHandle) : Option SocketKind :=
  (sockets.get? handle).map S.kind

def recvQueueAt (sockets : S.SocketSet) (handle : SocketHandle) : Nat :=
  match sockets.get? handle with
  | some (.tcp s) => S.tcpRecvQueue s
  | _ => 0

-- The destinations of a UDP socket's queued datagrams are among those it had before.
def UdpDrains (sockets sockets' : S.SocketSet) : Prop :=
  ∀ handle u', sockets'.get? handle = some (.udp u') →
    ∃ u, sockets.get? handle = some (.udp u) ∧ S.udpEndpoint u' = S.udpEndpoint u ∧
      ∀ ep ∈ S.udpQueued u', ep ∈ S.udpQueued u

structure KeepsSockets : Prop where
  newUdp : ∀ metadata buffer, S.udpQueued (S.newUdp metadata buffer) = []
  bind : ∀ u ep u', S.udpBind u ep = .ok u' →
    S.udpEndpoint u' = some ep ∧ S.udpQueued u' = S.udpQueued u
  send : ∀ u data ep, S.udpEndpoint (S.udpSendSlice u data ep).2 = S.udpEndpoint u
  sendQueued : ∀ u data ep, ∀ ep' ∈ S.udpQueued (S.udpSendSlice u data ep).2,
    ep' ∈ S.udpQueued u ∨ ep' = ep
  recv : ∀ u n, S.udpEndpoint (S.udpRecvSlice u n).2 = S.udpEndpoint u
  recvQueued : ∀ u n, ∀ ep ∈ S.udpQueued (S.udpRecvSlice u n).2, ep ∈ S.udpQueued u
  processPacket : ∀ now iface sockets packet r, S.processPacket now iface sockets packet = some r →
    (∀ handle, S.kindAt r.sockets handle = S.kindAt sockets handle) ∧
      S.UdpDrains sockets r.sockets
  pollEgress : ∀ now iface sockets room r, S.pollEgress now iface sockets room = some r →
    (∀ handle, S.kindAt r.sockets handle = S.kindAt sockets handle) ∧
      S.UdpDrains sockets r.sockets

-- Only a queued datagram whose versions differ makes a poll panic.
structure PanicsOnMismatch : Prop where
  processPacket : ∀ now iface sockets packet, S.processPacket now iface sockets packet ≠ none
  pollEgress : ∀ now iface sockets room, S.pollEgress now iface sockets room = none →
    ∃ handle u ep, sockets.get? handle = some (.udp u) ∧ ep ∈ S.udpQueued u ∧
      (S.udpEndpoint u).map (fun e => e.addr.version) ≠ some ep.addr.version

end Smoltcp

end Usque
