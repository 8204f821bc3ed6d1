import Usque.Socks.FragBuffer

namespace Usque

structure SocketAddr where
  ip : IpAddress
  port : UInt16
deriving DecidableEq, Repr

inductive TargetAddr where
  | ip (addr : SocketAddr)
  | domain (domain : String) (port : UInt16)
deriving DecidableEq, Repr

structure SocksTunables where
  udpSocketBufferSize : Nat := 64 * 1024
  udpFragTimeout : Time := secs 5
  udpFragMaxCount : Nat := 128
deriving DecidableEq, Repr

-- fast_socks5's reading of a request's header and writing of a response's.
structure FastSocks where
  parseUdpRequest : List UInt8 → Option (UInt8 × TargetAddr × List UInt8)
  newUdpHeader : SocketAddr → Option (List UInt8)

-- A datagram at the relay's socket, with the times at which the loop reads the clock for it and what
-- the manager answers: the address of a domain, and whether it still takes packets.
structure RelayDatagram where
  source : SocketAddr
  data : List UInt8
  cleanedAt : Time
  insertedAt : Time
  resolved : Option IpAddress
  taken : Bool
deriving DecidableEq, Repr

inductive RelayEvent where
  | tcpRead (closed : Bool)
  | datagram (d : RelayDatagram)
  | recvError
  | fromTunnel (remoteIp : IpAddress) (remotePort : UInt16) (data : List UInt8) (sent : Bool)
deriving DecidableEq, Repr

-- The variables of forward_udp_data, and what it has forwarded, under the target it was for, and
-- sent back.
structure UdpForward where
  localPort : UInt16
  clientAddr : Option SocketAddr
  fragBuffers : Table TargetAddr FragBuffer
  closed : Bool
  forwarded : List (TargetAddr × UdpSend)
  responses : List (List UInt8 × SocketAddr)

namespace UdpForward

variable (F : FastSocks) (tunables : SocksTunables)

def init (localPort : UInt16) : UdpForward where
  localPort := localPort
  clientAddr := none
  fragBuffers := ∅
  closed := false
  forwarded := []
  responses := []

def targetAddrToIp (target : TargetAddr) (resolved : Option IpAddress) :
    Option (IpAddress × UInt16) :=
  match target with
  | .ip addr => some (addr.ip, addr.port)
  | .domain _ port => resolved.map (fun ip => (ip, port))

def sendUdp (s : UdpForward) (d : RelayDatagram) (target : TargetAddr) (data : List UInt8) :
    UdpForward :=
  match targetAddrToIp target d.resolved with
  | some (remoteIp, remotePort) =>
      if d.taken then
        { s with forwarded := s.forwarded ++ [(target, ⟨remoteIp, remotePort, s.localPort, data⟩)] }
      else s
  | none => s

def cleanupFragments (fragBuffers : Table TargetAddr FragBuffer) (now timeout : Time) :
    Table TargetAddr FragBuffer :=
  Table.retain (fun _ buffer => !buffer.isExpired now timeout) fragBuffers

-- The buffer that a fragment goes into: a new one, or one that starts anew when it is too old.
def fragBuffer (found : Option FragBuffer) (now : Time) : FragBuffer :=
  let buffer := found.getD (.new now tunables.udpFragMaxCount)
  if buffer.isExpired now tunables.udpFragTimeout then buffer.reset now else buffer

def handleRequest (s : UdpForward) (d : RelayDatagram) (frag : UInt8) (target : TargetAddr)
    (payload : List UInt8) : Outcome UdpForward :=
  let fragBuffers := cleanupFragments s.fragBuffers d.cleanedAt tunables.udpFragTimeout
  if frag = 0 then
    .ok ({ s with fragBuffers := AList.erase target fragBuffers }.sendUdp d target payload)
  else
    let isLast := frag &&& 0x80 ≠ 0
    let seq := frag &&& 0x7f
    if seq = 0 then .ok { s with fragBuffers }
    else do
      let buffer := fragBuffer tunables (fragBuffers.lookup target) d.insertedAt
      let (assembled, buffer) ← buffer.insert seq isLast payload d.insertedAt
      match assembled with
      | some assembled =>
          .ok ({ s with fragBuffers := AList.erase target fragBuffers }.sendUdp d target assembled)
      | none => .ok { s with fragBuffers := AList.insert target buffer fragBuffers }

-- recv_from cuts a datagram off at the end of its buffer.
def request (d : RelayDatagram) : Option (UInt8 × TargetAddr × List UInt8) :=
  F.parseUdpRequest (d.data.take tunables.udpSocketBufferSize)

def receive (s : UdpForward) (d : RelayDatagram) : Outcome UdpForward :=
  let s := { s with clientAddr := some d.source }
  match request F tunables d with
  | some (frag, target, payload) => s.handleRequest tunables d frag target payload
  | none => .ok s

def buildUdpResponse (remoteIp : IpAddress) (remotePort : UInt16) (data : List UInt8) :
    Option (List UInt8) :=
  (F.newUdpHeader ⟨remoteIp, remotePort⟩).map (fun header => header ++ data)

def respond (s : UdpForward) (remoteIp : IpAddress) (remotePort : UInt16) (data : List UInt8)
    (sent : Bool) : UdpForward :=
  match s.clientAddr, buildUdpResponse F remoteIp remotePort data with
  | some addr, some packet =>
      if sent then { s with responses := s.responses ++ [(packet, addr)] } else s
  | _, _ => s

def step (s : UdpForward) (event : RelayEvent) : Outcome UdpForward :=
  if s.closed then .ok s
  else
    match event with
    | .tcpRead closed => .ok { s with closed }
    | .datagram d => s.receive F tunables d
    | .recvError => .ok s
    | .fromTunnel remoteIp remotePort data sent => .ok (s.respond F remoteIp remotePort data sent)

def run (localPort : UInt16) (events : List RelayEvent) : Outcome UdpForward :=
  Outcome.run (step F tunables) (init localPort) events

end UdpForward

end Usque
