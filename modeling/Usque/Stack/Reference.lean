import Usque.Stack.Smoltcp

namespace Usque

-- A small executable smoltcp: segments arrive in order and an ACK covers all that was sent,
-- one segment leaves per socket and egress pass, and checksum fields are left zero.
namespace Reference

structure Tcp where
  state : TcpState
  localPort : UInt16
  remote : IpEndpoint
  capacity : Nat
  rx : List UInt8
  tx : List UInt8
  unacked : Nat
  needSyn : Bool
  needAck : Bool
  needFin : Bool
  retransmitAt : Option Time
  keepAlive : Option Time
deriving DecidableEq, Repr

structure Udp where
  endpoint : Option IpEndpoint
  metadata : Nat
  tx : List (List UInt8 × IpEndpoint)
  rx : List (List UInt8 × IpEndpoint)
deriving DecidableEq, Repr

structure Iface where
  ipv4 : Option Ipv4Address
  ipv6 : Option Ipv6Address
deriving DecidableEq, Repr

abbrev Cell := Option (Socket Tcp Udp)

def unspecified : IpEndpoint := ⟨.ipv4 0, 0⟩

def newTcp (capacity : Nat) (options : TcpOptions) : Tcp where
  state := .closed
  localPort := 0
  remote := unspecified
  capacity := capacity
  rx := []
  tx := []
  unacked := 0
  needSyn := false
  needAck := false
  needFin := false
  retransmitAt := none
  keepAlive := options.keepAlive

def hasAddress (iface : Iface) : IpVersion → Bool
  | .ipv4 => iface.ipv4.isSome
  | .ipv6 => iface.ipv6.isSome

def tcpConnect (iface : Iface) (s : Tcp) (remote : IpEndpoint) (localPort : UInt16) :
    Except String (Iface × Tcp) :=
  if s.state ≠ .closed then .error "invalid state"
  else if localPort = 0 ∨ remote.port = 0 ∨ !hasAddress iface remote.addr.version then
    .error "unaddressable destination"
  else .ok (iface, { s with state := .synSent, localPort, remote, needSyn := true })

def isActive (s : Tcp) : Bool :=
  match s.state with
  | .closed | .listen | .timeWait => false
  | _ => true

def maySend (s : Tcp) : Bool :=
  match s.state with
  | .established | .closeWait => true
  | _ => false

def mayRecv (s : Tcp) : Bool :=
  match s.state with
  | .established | .finWait1 | .finWait2 => true
  | _ => !s.rx.isEmpty

def sendSlice (s : Tcp) (data : List UInt8) : Except String Nat × Tcp :=
  if maySend s then
    let room := s.capacity - (s.unacked + s.tx.length)
    (.ok (min data.length room), { s with tx := s.tx ++ data.take room })
  else (.error "invalid state", s)

def recvSlice (s : Tcp) (n : Nat) : Except String (List UInt8) × Tcp :=
  if mayRecv s then (.ok (s.rx.take n), { s with rx := s.rx.drop n })
  else (.error "invalid state", s)

def close (s : Tcp) : Tcp :=
  match s.state with
  | .listen | .synSent => { s with state := .closed, needSyn := false }
  | .synReceived | .established => { s with state := .finWait1, needFin := true }
  | .closeWait => { s with state := .lastAck, needFin := true }
  | _ => s

def udpBind (s : Udp) (endpoint : IpEndpoint) : Except String Udp :=
  if endpoint.port = 0 then .error "unaddressable"
  else if s.endpoint.isSome then .error "invalid state"
  else .ok { s with endpoint := some endpoint }

def udpSendSlice (s : Udp) (data : List UInt8) (remote : IpEndpoint) : Except String Unit × Udp :=
  if s.endpoint.isNone ∨ remote.port = 0 then (.error "unaddressable", s)
  else if s.tx.length ≥ s.metadata then (.error "buffer full", s)
  else (.ok (), { s with tx := s.tx ++ [(data, remote)] })

def udpRecvSlice (s : Udp) (n : Nat) : Except String (List UInt8 × IpEndpoint) × Udp :=
  match s.rx with
  | [] => (.error "exhausted", s)
  | (data, remote) :: rx =>
      if data.length > n then (.error "truncated", { s with rx })
      else (.ok (data, remote), { s with rx })

def bytesOf32 (a : BitVec 32) : List UInt8 :=
  [24, 16, 8, 0].map (fun shift => UInt8.ofNat (a.toNat >>> shift))

def bytesOf16 (a : UInt16) : List UInt8 :=
  [UInt8.ofNat (a.toNat >>> 8), UInt8.ofNat a.toNat]

def word16 : List UInt8 → UInt16
  | a :: b :: _ => UInt16.ofNat (a.toNat * 256 + b.toNat)
  | _ => 0

def natOfBytes (bytes : List UInt8) : Nat := bytes.foldl (fun n b => n * 256 + b.toNat) 0

def tcpFin : Nat := 1

def tcpSyn : Nat := 2

def tcpRst : Nat := 4

def tcpAck : Nat := 16

def tcpHeader (srcPort dstPort : UInt16) (flags : Nat) : List UInt8 :=
  bytesOf16 srcPort ++ bytesOf16 dstPort ++ List.replicate 8 0 ++
    [0x50, UInt8.ofNat flags, 0xff, 0xff, 0, 0, 0, 0]

def ipv4Header (src dst : Ipv4Address) (len : Nat) : List UInt8 :=
  [0x45, 0] ++ bytesOf16 (UInt16.ofNat (40 + len)) ++ [0, 0, 0x40, 0, 64, 6, 0, 0] ++
    bytesOf32 src ++ bytesOf32 dst

def ipv4Segment (src dst : Ipv4Address) (srcPort dstPort : UInt16) (flags : Nat)
    (payload : List UInt8) : Packet :=
  ipv4Header src dst payload.length ++ tcpHeader srcPort dstPort flags ++ payload

def parseIpv4 (packet : Packet) : Option Ipv4Packet :=
  let headerLen := ((packet.headD 0).toNat % 16) * 4
  if packet.length < 20 ∨ packet.length < headerLen then none
  else
    some
      { nextHeader := (packet.drop 9).headD 0
        srcAddr := BitVec.ofNat 32 (natOfBytes ((packet.drop 12).take 4))
        payload := packet.drop headerLen }

def parseIpv6 (packet : Packet) : Option Ipv6Packet :=
  if packet.length < 40 then none
  else
    some
      { nextHeader := (packet.drop 6).headD 0
        srcAddr := BitVec.ofNat 128 (natOfBytes ((packet.drop 8).take 16))
        payload := packet.drop 40 }

def parseTcp (segment : Packet) : Option TcpPacket :=
  if segment.length < 20 then none
  else some ⟨word16 segment, word16 (segment.drop 2)⟩

structure Segment where
  remote : IpEndpoint
  localPort : UInt16
  flags : Nat
  payload : List UInt8
deriving DecidableEq, Repr

def segmentOf (src : IpAddress) (bytes : Packet) : Option Segment :=
  (parseTcp bytes).map (fun tcp =>
    { remote := ⟨src, tcp.srcPort⟩
      localPort := tcp.dstPort
      flags := ((bytes.drop 13).headD 0).toNat
      payload := bytes.drop ((((bytes.drop 12).headD 0).toNat / 16) * 4) })

-- IPv6 extension headers are followed to the TCP header, as smoltcp does.
def ipv6Payload : Nat → Nat → Packet → Option Packet
  | 0, _, _ => none
  | fuel + 1, nextHeader, bytes =>
      if nextHeader = 6 then some bytes
      else if nextHeader = 0 ∨ nextHeader = 60 then
        let len := 8 * (((bytes.drop 1).headD 0).toNat + 1)
        ipv6Payload fuel (bytes.headD 0).toNat (bytes.drop len)
      else none

def segment (packet : Packet) : Option Segment :=
  match (packet.headD 0).toNat / 16 with
  | 4 => do
      let ip ← parseIpv4 packet
      if ip.nextHeader = 6 then segmentOf (.ipv4 ip.srcAddr) ip.payload else none
  | 6 => do
      let ip ← parseIpv6 packet
      let payload ← ipv6Payload 4 ip.nextHeader.toNat ip.payload
      segmentOf (.ipv6 ip.srcAddr) payload
  | _ => none

def has (flags bit : Nat) : Bool := flags / bit % 2 = 1

def accepts (s : Tcp) (seg : Segment) : Bool :=
  s.state ≠ .closed && s.localPort = seg.localPort && s.remote = seg.remote

def receivePayload (s : Tcp) (seg : Segment) : Tcp :=
  let s :=
    if seg.payload.isEmpty then s
    else { s with rx := s.rx ++ seg.payload.take (s.capacity - s.rx.length), needAck := true }
  let s := if has seg.flags tcpAck then { s with unacked := 0, retransmitAt := none } else s
  if has seg.flags tcpFin then
    { s with
      needAck := true
      state := if s.state = .established then .closeWait else .timeWait }
  else s

def receive (s : Tcp) (seg : Segment) : Tcp :=
  if has seg.flags tcpRst then { s with state := .closed }
  else
    match s.state with
    | .synSent =>
        if has seg.flags tcpSyn && has seg.flags tcpAck then
          { s with state := .established, needAck := true, retransmitAt := none }
        else s
    | .established | .finWait1 | .finWait2 => receivePayload s seg
    | _ => s

def deliver (seg : Segment) : List Cell → List Cell × Bool
  | [] => ([], false)
  | some (.tcp s) :: cells =>
      if accepts s seg then (some (.tcp (receive s seg)) :: cells, true)
      else
        let (cells, found) := deliver seg cells
        (some (.tcp s) :: cells, found)
  | cell :: cells =>
      let (cells, found) := deliver seg cells
      (cell :: cells, found)

def resetReply (iface : Iface) (seg : Segment) : Option Packet :=
  match seg.remote.addr with
  | .ipv4 dst =>
      some (ipv4Segment (iface.ipv4.getD 0) dst seg.localPort seg.remote.port (tcpRst + tcpAck) [])
  | .ipv6 _ => none

def processPacket (_ : Time) (iface : Iface) (sockets : Slots (Socket Tcp Udp))
    (packet : Packet) : Option (IngressResult Iface Tcp Udp) :=
  match segment packet with
  | none => some ⟨iface, sockets, none, true⟩
  | some seg =>
      let (cells, found) := deliver seg sockets.cells
      let reply := if found || has seg.flags tcpRst then none else resetReply iface seg
      some ⟨iface, ⟨cells⟩, reply, true⟩

def segmentFor (iface : Iface) (s : Tcp) (flags : Nat) (payload : List UInt8) : Packet :=
  match s.remote.addr with
  | .ipv4 dst =>
      ipv4Segment (iface.ipv4.getD 0) dst s.localPort s.remote.port flags payload
  | .ipv6 _ => tcpHeader s.localPort s.remote.port flags ++ payload

def emitTcp (now : Time) (iface : Iface) (s : Tcp) : Option (Tcp × Packet) :=
  let rto := some (now + 1000000)
  if s.needSyn then
    some ({ s with needSyn := false, retransmitAt := rto }, segmentFor iface s tcpSyn [])
  else if !s.tx.isEmpty then
    some
      ({ s with tx := [], unacked := s.unacked + s.tx.length, needAck := false
                retransmitAt := rto },
        segmentFor iface s tcpAck s.tx)
  else if s.needFin then
    some ({ s with needFin := false, needAck := false, retransmitAt := rto },
      segmentFor iface s (tcpFin + tcpAck) [])
  else if s.needAck then
    some ({ s with needAck := false }, segmentFor iface s tcpAck [])
  else none

def emitUdp (s : Udp) : Option (Udp × List Packet) :=
  if s.tx.all (fun d => s.endpoint.any (fun e => e.addr.version = d.2.addr.version)) then
    some ({ s with tx := [] }, s.tx.map (·.1))
  else none

def egressCells (now : Time) (iface : Iface) :
    Nat → List Cell → Option (List Cell × List Packet)
  | _, [] => some ([], [])
  | 0, cells => some (cells, [])
  | room + 1, some (.tcp s) :: cells =>
      match emitTcp now iface s with
      | none => (egressCells now iface (room + 1) cells).map (fun r => (some (.tcp s) :: r.1, r.2))
      | some (s, packet) =>
          (egressCells now iface room cells).map (fun r => (some (.tcp s) :: r.1, packet :: r.2))
  | room + 1, some (.udp s) :: cells =>
      match emitUdp s with
      | none => none
      | some (s, packets) =>
          (egressCells now iface (room + 1 - packets.length) cells).map (fun r =>
            (some (.udp s) :: r.1, packets ++ r.2))
  | room + 1, none :: cells =>
      (egressCells now iface (room + 1) cells).map (fun r => (none :: r.1, r.2))

def pollEgress (now : Time) (iface : Iface) (sockets : Slots (Socket Tcp Udp)) (room : Nat) :
    Option (EgressResult Iface Tcp Udp) :=
  (egressCells now iface room sockets.cells).map (fun r => ⟨iface, ⟨r.1⟩, r.2, !r.2.isEmpty⟩)

def delayOf (now : Time) : Cell → Option Time
  | some (.tcp s) =>
      if s.needSyn || s.needAck || s.needFin || !s.tx.isEmpty then some 0
      else
        match s.retransmitAt with
        | some t => some (t - now)
        | none => if isActive s then s.keepAlive else none
  | some (.udp s) => if s.tx.isEmpty then none else some 0
  | none => none

def shorter : Option Time → Option Time → Option Time
  | some a, some b => some (min a b)
  | some a, none => some a
  | none, b => b

def pollDelay (now : Time) (_ : Iface) (sockets : Slots (Socket Tcp Udp)) : Option Time :=
  sockets.cells.foldr (fun cell d => shorter (delayOf now cell) d) none

@[reducible] def smoltcp : Smoltcp where
  TcpSocket := Tcp
  UdpSocket := Udp
  Interface := Iface
  newInterface := fun ipv4 ipv6 _ => ⟨ipv4, ipv6⟩
  newTcp := newTcp
  tcpConnect := tcpConnect
  tcpState := Tcp.state
  tcpIsActive := isActive
  tcpMaySend := maySend
  tcpMayRecv := mayRecv
  tcpRecvQueue := fun s => s.rx.length
  tcpSendSlice := sendSlice
  tcpRecvSlice := recvSlice
  tcpClose := close
  newUdp := fun metadata _ => ⟨none, metadata, [], []⟩
  udpBind := udpBind
  udpEndpoint := Udp.endpoint
  udpQueued := fun s => s.tx.map (·.2)
  udpCanRecv := fun s => !s.rx.isEmpty
  udpSendSlice := udpSendSlice
  udpRecvSlice := udpRecvSlice
  pollMaintenance := fun _ iface => iface
  processPacket := processPacket
  pollEgress := pollEgress
  pollDelay := pollDelay
  parseIpv4 := parseIpv4
  parseIpv6 := parseIpv6
  parseTcp := parseTcp

def kinds (cells : List Cell) : List (Option Smoltcp.SocketKind) :=
  cells.map (Option.map (Smoltcp.kind smoltcp))

theorem kindAt_eq (cells : List Cell) (handle : SocketHandle) :
    smoltcp.kindAt ⟨cells⟩ handle = (kinds cells)[handle]?.join := by
  simp only [Smoltcp.kindAt, Slots.get?, kinds, List.getElem?_map]
  cases cells[handle]? with
  | none => rfl
  | some cell => rfl

theorem kindAt_of_kinds {cells cells' : List Cell} (h : kinds cells' = kinds cells)
    (handle : SocketHandle) : smoltcp.kindAt ⟨cells'⟩ handle = smoltcp.kindAt ⟨cells⟩ handle := by
  rw [kindAt_eq, kindAt_eq, h]

theorem udpDrains_cons {cell cell' : Cell} {cells cells' : List Cell}
    (hc : ∀ u', cell' = some (.udp u') → ∃ u, cell = some (.udp u) ∧ u'.endpoint = u.endpoint ∧
      ∀ ep ∈ u'.tx.map (·.2), ep ∈ u.tx.map (·.2))
    (h : smoltcp.UdpDrains ⟨cells⟩ ⟨cells'⟩) :
    smoltcp.UdpDrains ⟨cell :: cells⟩ ⟨cell' :: cells'⟩ := by
  intro handle u' hu
  cases handle with
  | zero => exact hc u' hu
  | succ i => exact h i u' hu

theorem udpDrains_refl (cells : List Cell) : smoltcp.UdpDrains ⟨cells⟩ ⟨cells⟩ :=
  fun _ u' hu => ⟨u', hu, rfl, fun _ he => he⟩

def KeptCells (cells cells' : List Cell) : Prop :=
  kinds cells' = kinds cells ∧ smoltcp.UdpDrains ⟨cells⟩ ⟨cells'⟩

theorem KeptCells.refl (cells : List Cell) : KeptCells cells cells := ⟨rfl, udpDrains_refl cells⟩

theorem KeptCells.tcp {s s' : Tcp} {cells cells' : List Cell} (h : KeptCells cells cells') :
    KeptCells (some (.tcp s) :: cells) (some (.tcp s') :: cells') :=
  ⟨congrArg (List.cons _) h.1, udpDrains_cons (fun _ hu => by cases hu) h.2⟩

theorem KeptCells.cons (cell : Cell) {cells cells' : List Cell} (h : KeptCells cells cells') :
    KeptCells (cell :: cells) (cell :: cells') :=
  ⟨congrArg (List.cons _) h.1, udpDrains_cons (fun u hu => ⟨u, hu, rfl, fun _ he => he⟩) h.2⟩

theorem deliver_kept (seg : Segment) (cells : List Cell) :
    KeptCells cells (deliver seg cells).1 := by
  induction cells with
  | nil => exact .refl []
  | cons cell cells ih =>
      match cell with
      | some (.tcp s) =>
          simp only [deliver]
          split
          · exact (KeptCells.refl cells).tcp
          · exact ih.tcp
      | some (.udp s) => exact ih.cons _
      | none => exact ih.cons _

theorem emitUdp_some {s s' : Udp} {packets : List Packet}
    (h : emitUdp s = some (s', packets)) : s'.endpoint = s.endpoint ∧ s'.tx = [] := by
  simp only [emitUdp] at h
  split at h <;> cases h
  exact ⟨rfl, rfl⟩

theorem egressCells_kept {now : Time} {iface : Iface} {room : Nat} {cells : List Cell}
    {r : List Cell × List Packet} (h : egressCells now iface room cells = some r) :
    KeptCells cells r.1 := by
  induction cells generalizing room r with
  | nil =>
      cases h
      exact .refl []
  | cons cell cells ih =>
      match room, cell with
      | 0, _ =>
          cases h
          exact .refl _
      | room + 1, some (.tcp s) =>
          simp only [egressCells] at h
          split at h
          · obtain ⟨r', hr, rfl⟩ := Option.map_eq_some_iff.mp h
            exact (ih hr).tcp
          · obtain ⟨r', hr, rfl⟩ := Option.map_eq_some_iff.mp h
            exact (ih hr).tcp
      | room + 1, some (.udp s) =>
          simp only [egressCells] at h
          split at h
          · cases h
          · next s' packets he =>
              obtain ⟨r', hr, rfl⟩ := Option.map_eq_some_iff.mp h
              obtain ⟨hep, htx⟩ := emitUdp_some he
              refine ⟨congrArg₂ List.cons (congrArg (some ∘ Smoltcp.SocketKind.udp) hep) (ih hr).1,
                udpDrains_cons (fun u hu => ?_) (ih hr).2⟩
              cases hu
              exact ⟨s, rfl, hep, fun ep hq => by rw [htx] at hq; cases hq⟩
      | room + 1, none =>
          simp only [egressCells] at h
          obtain ⟨r', hr, rfl⟩ := Option.map_eq_some_iff.mp h
          exact (ih hr).cons none

theorem keepsSockets : smoltcp.KeepsSockets where
  newUdp := fun _ _ => rfl
  bind := fun u ep u' h => by
    simp only [udpBind] at h
    split at h
    · cases h
    · split at h <;> cases h
      exact ⟨rfl, rfl⟩
  send := fun u data ep => by
    simp only [udpSendSlice]
    split
    · rfl
    · split <;> rfl
  sendQueued := fun u data ep ep' h => by
    simp only [udpSendSlice] at h
    split at h
    · exact .inl h
    · split at h
      · exact .inl h
      · simpa using h
  recv := fun u n => by
    simp only [udpRecvSlice]
    split
    · rfl
    · split <;> rfl
  recvQueued := fun u n ep h => by
    simp only [udpRecvSlice] at h
    split at h
    · exact h
    · split at h <;> exact h
  processPacket := fun now iface sockets packet r h => by
    simp only [processPacket] at h
    split at h <;> cases h
    · exact ⟨fun _ => rfl, udpDrains_refl _⟩
    · have hk := deliver_kept ‹_› sockets.cells
      exact ⟨kindAt_of_kinds hk.1, hk.2⟩
  pollEgress := fun now iface sockets room r h => by
    obtain ⟨r', hr, rfl⟩ := Option.map_eq_some_iff.mp h
    have hk := egressCells_kept hr
    exact ⟨kindAt_of_kinds hk.1, hk.2⟩

theorem emitUdp_none {s : Udp} (h : emitUdp s = none) :
    ∃ ep ∈ s.tx.map (·.2), s.endpoint.map (fun e => e.addr.version) ≠ some ep.addr.version := by
  simp only [emitUdp] at h
  split at h
  · cases h
  · next hall =>
      simp only [List.all_eq_true, not_forall] at hall
      obtain ⟨d, hd, hne⟩ := hall
      refine ⟨d.2, List.mem_map_of_mem hd, fun he => hne ?_⟩
      obtain ⟨e, he, hv⟩ := Option.map_eq_some_iff.mp he
      rw [he]
      exact decide_eq_true hv

theorem egressCells_none {now : Time} {iface : Iface} {room : Nat} {cells : List Cell}
    (h : egressCells now iface room cells = none) :
    ∃ handle u ep, (⟨cells⟩ : smoltcp.SocketSet).get? handle = some (.udp u) ∧
      ep ∈ u.tx.map (·.2) ∧ u.endpoint.map (fun e => e.addr.version) ≠ some ep.addr.version := by
  induction cells generalizing room with
  | nil => cases h
  | cons cell cells ih =>
      have hrest : ∀ (cell : Cell) {room : Nat}, egressCells now iface room cells = none →
          ∃ handle u ep, (⟨cell :: cells⟩ : smoltcp.SocketSet).get? handle = some (.udp u) ∧
            ep ∈ u.tx.map (·.2) ∧
            u.endpoint.map (fun e => e.addr.version) ≠ some ep.addr.version := by
        intro cell room hn
        obtain ⟨handle, u, ep, hu, hep, hne⟩ := ih hn
        exact ⟨handle + 1, u, ep, hu, hep, hne⟩
      match room, cell with
      | 0, _ => cases h
      | room + 1, some (.tcp s) =>
          simp only [egressCells] at h
          split at h <;> exact hrest _ (Option.map_eq_none_iff.mp h)
      | room + 1, some (.udp s) =>
          simp only [egressCells] at h
          split at h
          · next he =>
              obtain ⟨ep, hep, hne⟩ := emitUdp_none he
              exact ⟨0, s, ep, rfl, hep, hne⟩
          · exact hrest _ (Option.map_eq_none_iff.mp h)
      | room + 1, none =>
          simp only [egressCells] at h
          exact hrest _ (Option.map_eq_none_iff.mp h)

theorem panicsOnMismatch : smoltcp.PanicsOnMismatch where
  processPacket := fun now iface sockets packet h => by
    simp only [processPacket] at h
    split at h <;> cases h
  pollEgress := fun now iface sockets room h =>
    egressCells_none (Option.map_eq_none_iff.mp h)

end Reference

end Usque
