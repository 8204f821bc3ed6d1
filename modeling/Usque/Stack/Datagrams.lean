import Usque.Stack.Reference

namespace Usque

namespace Smoltcp

-- A UDP socket gives out its received datagrams in order, and drops one that does not fit.
structure ReceivesInOrder (S : Smoltcp) (received : S.UdpSocket → List (List UInt8 × IpEndpoint)) :
    Prop where
  canRecv : ∀ u, S.udpCanRecv u = !(received u).isEmpty
  fits : ∀ u n data remote rest, received u = (data, remote) :: rest → data.length ≤ n →
    (S.udpRecvSlice u n).1 = .ok (data, remote)
  truncated : ∀ u n data remote rest, received u = (data, remote) :: rest → n < data.length →
    ∃ e, (S.udpRecvSlice u n).1 = .error e
  pops : ∀ u n d rest, received u = d :: rest → received (S.udpRecvSlice u n).2 = rest

end Smoltcp

namespace Reference

structure Datagram where
  remote : IpEndpoint
  dest : IpEndpoint
  payload : List UInt8
deriving DecidableEq, Repr

def protocolUdp : UInt8 := 17

def datagram (packet : Packet) : Option Datagram :=
  if (packet.headD 0).toNat / 16 = 4 then do
    let ip ← parseIpv4 packet
    if ip.nextHeader = protocolUdp then
      some
        { remote := ⟨.ipv4 ip.srcAddr, word16 ip.payload⟩
          dest := ⟨.ipv4 (BitVec.ofNat 32 (natOfBytes ((packet.drop 16).take 4))),
            word16 (ip.payload.drop 2)⟩
          payload := ip.payload.drop 8 }
    else none
  else none

def queueDatagram (d : Datagram) (s : Udp) : Udp :=
  if s.rx.length < s.metadata then { s with rx := s.rx ++ [(d.payload, d.remote)] } else s

def deliverDatagram (d : Datagram) : List Cell → List Cell
  | [] => []
  | some (.udp s) :: cells =>
      if s.endpoint = some d.dest then some (.udp (queueDatagram d s)) :: cells
      else some (.udp s) :: deliverDatagram d cells
  | cell :: cells => cell :: deliverDatagram d cells

def processDatagram (now : Time) (iface : Iface) (sockets : Slots (Socket Tcp Udp))
    (packet : Packet) : Option (IngressResult Iface Tcp Udp) :=
  match datagram packet with
  | some d => some ⟨iface, ⟨deliverDatagram d sockets.cells⟩, none, true⟩
  | none => processPacket now iface sockets packet

@[reducible] def datagrams : Smoltcp := { smoltcp with processPacket := processDatagram }

theorem queueDatagram_kept (d : Datagram) (s : Udp) :
    (queueDatagram d s).endpoint = s.endpoint ∧ (queueDatagram d s).tx = s.tx := by
  simp only [queueDatagram]
  split <;> exact ⟨rfl, rfl⟩

theorem deliverDatagram_kept (d : Datagram) (cells : List Cell) :
    KeptCells cells (deliverDatagram d cells) := by
  induction cells with
  | nil => exact .refl []
  | cons cell cells ih =>
      match cell with
      | some (.udp s) =>
          obtain ⟨hep, htx⟩ := queueDatagram_kept d s
          simp only [deliverDatagram]
          split
          · refine ⟨congrArg (fun e => some (Smoltcp.SocketKind.udp e) :: kinds cells) hep,
              udpDrains_cons (fun u hu => ?_) (udpDrains_refl cells)⟩
            cases hu
            exact ⟨s, rfl, hep, fun ep he => htx ▸ he⟩
          · exact ih.cons _
      | some (.tcp s) => exact ih.cons _
      | none => exact ih.cons _

theorem datagrams_kindAt (sockets : smoltcp.SocketSet) (handle : SocketHandle) :
    datagrams.kindAt sockets handle = smoltcp.kindAt sockets handle := by
  have hkind : ∀ c : smoltcp.AnySocket, datagrams.kind c = smoltcp.kind c := by
    intro c
    cases c <;> rfl
  exact congrArg (fun f => Option.map f (sockets.get? handle)) (funext hkind)

-- Only the datagrams differ from the reference stack, and they change no socket's kind.
theorem datagrams_keeps {sockets sockets' : smoltcp.SocketSet}
    (h : (∀ handle, smoltcp.kindAt sockets' handle = smoltcp.kindAt sockets handle) ∧
      smoltcp.UdpDrains sockets sockets') :
    (∀ handle, datagrams.kindAt sockets' handle = datagrams.kindAt sockets handle) ∧
      datagrams.UdpDrains sockets sockets' :=
  ⟨fun handle => (datagrams_kindAt sockets' handle).trans
    ((h.1 handle).trans (datagrams_kindAt sockets handle).symm), h.2⟩

theorem datagrams_keepsSockets : datagrams.KeepsSockets where
  newUdp := keepsSockets.newUdp
  bind := keepsSockets.bind
  send := keepsSockets.send
  sendQueued := keepsSockets.sendQueued
  recv := keepsSockets.recv
  recvQueued := keepsSockets.recvQueued
  processPacket := fun now iface sockets packet r h => by
    have h : processDatagram now iface sockets packet = some r := h
    simp only [processDatagram] at h
    split at h
    · next d _ =>
        cases h
        have hk := deliverDatagram_kept d sockets.cells
        exact datagrams_keeps ⟨kindAt_of_kinds hk.1, hk.2⟩
    · exact datagrams_keeps (keepsSockets.processPacket now iface sockets packet r h)
  pollEgress := fun now iface sockets room r h =>
    datagrams_keeps (keepsSockets.pollEgress now iface sockets room r h)

theorem datagrams_receivesInOrder : datagrams.ReceivesInOrder Udp.rx where
  canRecv := fun _ => rfl
  fits := fun u n data remote rest hu hlen => by
    show (udpRecvSlice u n).1 = _
    simp only [udpRecvSlice, hu]
    rw [if_neg (Nat.not_lt.mpr hlen)]
  truncated := fun u n data remote rest hu hlen => by
    refine ⟨"truncated", ?_⟩
    show (udpRecvSlice u n).1 = _
    simp only [udpRecvSlice, hu]
    rw [if_pos hlen]
  pops := fun u n d rest hu => by
    obtain ⟨data, remote⟩ := d
    show (udpRecvSlice u n).2.rx = rest
    simp only [udpRecvSlice, hu]
    split <;> rfl

def ipv4Datagram (src dst : Ipv4Address) (srcPort dstPort : UInt16) (payload : List UInt8) :
    Packet :=
  [0x45, 0] ++ bytesOf16 (UInt16.ofNat (28 + payload.length)) ++ [0, 0, 0x40, 0, 64, protocolUdp] ++
    [0, 0] ++ bytesOf32 src ++ bytesOf32 dst ++ bytesOf16 srcPort ++ bytesOf16 dstPort ++
    bytesOf16 (UInt16.ofNat (8 + payload.length)) ++ [0, 0] ++ payload

end Reference

end Usque
