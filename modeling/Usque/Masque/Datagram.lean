import Usque.Masque.Io
import Usque.Masque.PacketTooBig

namespace Usque

def contextIdZero : UInt8 := 0x00

-- What the flow's sender answers to a frame; a full one may take it later or close.
inductive FlowAnswer where
  | unavailable
  | accepted
  | full (taken : Bool)
  | closed
deriving DecidableEq, Repr

-- The flow holds the datagrams that were handed to it.
structure MasqueTunnel where
  maxH3DgramLen : Option Nat
  dgramRecvBuf : List UInt8
  dgramSendBuf : List UInt8
  flow : List (List UInt8)
deriving DecidableEq, Repr

-- Both scratch buffers grow by resize and shrink by truncate.
def fitBuffer (buf : List UInt8) (len : Nat) : List UInt8 :=
  if buf.length < len then buf ++ List.replicate (len - buf.length) 0 else buf.take len

-- `buf[start..stop].copy_from_slice(data)`
def copyFromSlice (buf : List UInt8) (start stop : Nat) (data : List UInt8) :
    Outcome (List UInt8) :=
  if start ≤ stop ∧ stop ≤ buf.length ∧ data.length = stop - start then
    .ok (buf.take start ++ data ++ buf.drop stop)
  else .error .panic

namespace MasqueTunnel

def new (maxH3DgramLen : Option Nat) : MasqueTunnel := ⟨maxH3DgramLen, [], [], []⟩

def maxIpPacketLen (t : MasqueTunnel) : Nat :=
  match t.maxH3DgramLen with
  | some len => len - 1
  | none => 1280

def put (t : MasqueTunnel) (frame : List UInt8) : MasqueTunnel :=
  { t with flow := t.flow ++ [frame] }

def trySend (t : MasqueTunnel) (frame : List UInt8) (waitOnFull : Bool) :
    FlowAnswer → Except MasqueError DatagramSendState × MasqueTunnel
  | .unavailable => (.error (.connectionError "datagram flow sender unavailable"), t)
  | .accepted => (.ok (.sent false), t.put frame)
  | .full taken =>
      if !waitOnFull then (.ok .blocked, t)
      else if taken then (.ok (.sent true), t.put frame)
      else (.error (.connectionError "datagram send failed after waiting"), t)
  | .closed => (.error (.connectionError "datagram flow sender closed"), t)

def exceedsMax (t : MasqueTunnel) (len : Nat) : Bool :=
  t.maxH3DgramLen.any (fun maxLen => len > maxLen)

def sendDatagram (t : MasqueTunnel) (packet : Packet) (waitOnFull : Bool) (answer : FlowAnswer) :
    Outcome (Except MasqueError DatagramSendState × MasqueTunnel) := do
  let dgramLen := 1 + packet.length
  let buf := (fitBuffer t.dgramSendBuf dgramLen).set 0 contextIdZero
  let buf ← copyFromSlice buf 1 buf.length packet
  let (forwarded, rewritten) ← processOutgoingIpPacket (buf.drop 1)
  let buf := buf.take 1 ++ rewritten
  let t := { t with dgramSendBuf := buf }
  if !forwarded then .ok (.ok .dropped, t)
  else if t.exceedsMax buf.length then do
    match ← composeIcmpPacketTooBig packet minMtu with
    | some icmp => .ok (.ok (.packetTooBig icmp), t)
    | none => .ok (.ok .dropped, t)
  else .ok (t.trySend buf waitOnFull answer)

-- The caller's buffer comes back with what was written to it.
def decodeDatagram (t : MasqueTunnel) (dgram buf : List UInt8) :
    Outcome (Except MasqueError Nat × List UInt8 × MasqueTunnel) := do
  let needed := dgram.length
  let recvBuf ← copyFromSlice (fitBuffer t.dgramRecvBuf needed) 0 needed dgram
  let t := { t with dgramRecvBuf := recvBuf }
  match decodeVarint recvBuf with
  | .error e => .ok (.error e, buf, t)
  | .ok (contextId, ctxLen) =>
      if contextId ≠ 0 then .ok (.ok 0, buf, t)
      else
        let payloadLen := needed - ctxLen
        if payloadLen > buf.length then
          .ok (.error (.connectionError "Buffer too small"), buf, t)
        else do
          let buf ← copyFromSlice buf 0 payloadLen ((recvBuf.take needed).drop ctxLen)
          .ok (.ok payloadLen, buf, t)

end MasqueTunnel

-- What the flow gets for a packet.
def datagram (packet : Packet) : List UInt8 := contextIdZero :: forward packet

variable {t : MasqueTunnel} {packet : Packet}

theorem length_fitBuffer (buf : List UInt8) (len : Nat) : (fitBuffer buf len).length = len := by
  simp only [fitBuffer]
  split_ifs with h
  · rw [List.length_append, List.length_replicate]
    omega
  · rw [List.length_take]
    omega

theorem copyFromSlice_tail {buf data : List UInt8} {start : Nat}
    (h : buf.length = start + data.length) :
    copyFromSlice buf start buf.length data = .ok (buf.take start ++ data) := by
  rw [copyFromSlice, if_pos ⟨by omega, Nat.le_refl _, by omega⟩, List.drop_length,
    List.append_nil]

theorem copyFromSlice_head {buf data : List UInt8} (h : data.length ≤ buf.length) :
    copyFromSlice buf 0 data.length data = .ok (data ++ buf.drop data.length) := by
  rw [copyFromSlice, if_pos ⟨Nat.zero_le _, h, rfl⟩, List.take_zero, List.nil_append]

-- Whatever the scratch buffer held, it holds the datagram's bytes now.
theorem sendBuffer_ok (buf : List UInt8) (packet : Packet) :
    copyFromSlice ((fitBuffer buf (1 + packet.length)).set 0 contextIdZero) 1
      ((fitBuffer buf (1 + packet.length)).set 0 contextIdZero).length packet =
      .ok (contextIdZero :: packet) := by
  have hlen : ((fitBuffer buf (1 + packet.length)).set 0 contextIdZero).length =
      1 + packet.length := by
    rw [List.length_set, length_fitBuffer]
  rw [copyFromSlice_tail hlen]
  match hfit : fitBuffer buf (1 + packet.length) with
  | [] =>
      have hzero := length_fitBuffer buf (1 + packet.length)
      rw [hfit] at hzero
      simp only [List.length_nil] at hzero
      omega
  | first :: rest => rfl

theorem recvBuffer_ok (buf dgram : List UInt8) :
    copyFromSlice (fitBuffer buf dgram.length) 0 dgram.length dgram = .ok dgram := by
  have hlen := length_fitBuffer buf dgram.length
  rw [copyFromSlice_head (Nat.le_of_eq hlen.symm), List.drop_of_length_le (Nat.le_of_eq hlen),
    List.append_nil]

theorem Forwardable.quotable (h : Forwardable packet) : Quotable packet := h.accepted

theorem length_forward (h : Forwardable packet) : (forward packet).length = packet.length :=
  (forward_forwarded h).length

namespace MasqueTunnel

theorem sendDatagram_dropped (h : ¬ Forwardable packet) (t : MasqueTunnel) (waitOnFull : Bool)
    (answer : FlowAnswer) :
    t.sendDatagram packet waitOnFull answer =
      .ok (.ok .dropped, { t with dgramSendBuf := contextIdZero :: packet }) := by
  rw [sendDatagram]
  dsimp only
  rw [sendBuffer_ok, Outcome.ok_bind, List.drop_succ_cons, List.drop_zero,
    processOutgoingIpPacket_other h, Outcome.ok_bind]
  rfl

-- A packet that goes on is rewritten in the scratch buffer, and the length is tested there.
theorem sendDatagram_forwardable (h : Forwardable packet) (t : MasqueTunnel) (waitOnFull : Bool)
    (answer : FlowAnswer) :
    t.sendDatagram packet waitOnFull answer =
      if t.exceedsMax (1 + packet.length) then do
        match ← composeIcmpPacketTooBig packet minMtu with
        | some icmp => .ok (.ok (.packetTooBig icmp), { t with dgramSendBuf := datagram packet })
        | none => .ok (.ok .dropped, { t with dgramSendBuf := datagram packet })
      else
        .ok ({ t with dgramSendBuf := datagram packet }.trySend (datagram packet) waitOnFull
          answer) := by
  have hlen : ([contextIdZero] ++ forward packet).length = 1 + packet.length := by
    rw [List.length_append, length_forward h, List.length_singleton]
  rw [sendDatagram]
  dsimp only
  rw [sendBuffer_ok, Outcome.ok_bind, List.drop_succ_cons, List.drop_zero,
    processOutgoingIpPacket_forwardable h, Outcome.ok_bind]
  simp only [List.take_succ_cons, List.take_zero, hlen, Bool.not_true, Bool.false_eq_true, if_false]
  rfl

theorem exceedsMax_iff {len : Nat} :
    t.exceedsMax len = true ↔ ∃ maxLen, t.maxH3DgramLen = some maxLen ∧ maxLen < len := by
  rw [exceedsMax, Option.any_eq_true]
  constructor
  · rintro ⟨maxLen, hm, hlt⟩
    exact ⟨maxLen, hm, of_decide_eq_true hlt⟩
  · rintro ⟨maxLen, hm, hlt⟩
    exact ⟨maxLen, hm, decide_eq_true hlt⟩

theorem sendDatagram_tooBig (h : Forwardable packet) (hlen : t.exceedsMax (1 + packet.length))
    (waitOnFull : Bool) (answer : FlowAnswer) :
    ∃ icmp, t.sendDatagram packet waitOnFull answer =
        .ok (.ok (.packetTooBig icmp), { t with dgramSendBuf := datagram packet }) ∧
      TooBigMessage packet minMtu icmp := by
  obtain ⟨icmp, hcompose, hmessage⟩ := composeIcmpPacketTooBig_some h.quotable minMtu
  refine ⟨icmp, ?_, hmessage⟩
  rw [sendDatagram_forwardable h, if_pos hlen, hcompose, Outcome.ok_bind]

theorem sendDatagram_fits (h : Forwardable packet) (hlen : t.exceedsMax (1 + packet.length) = false)
    (waitOnFull : Bool) (answer : FlowAnswer) :
    t.sendDatagram packet waitOnFull answer =
      .ok ({ t with dgramSendBuf := datagram packet }.trySend (datagram packet) waitOnFull
        answer) := by
  rw [sendDatagram_forwardable h, if_neg (by rw [hlen]; nofun)]

theorem trySend_packetTooBig (t : MasqueTunnel) (frame : List UInt8) (waitOnFull : Bool)
    (answer : FlowAnswer) (icmp : Packet) :
    (t.trySend frame waitOnFull answer).1 ≠ .ok (.packetTooBig icmp) := by
  cases answer with
  | unavailable | accepted | closed => nofun
  | full taken =>
      simp only [trySend]
      split_ifs
      · nofun
      · nofun
      · nofun

-- A Packet Too Big is the answer to a forwardable packet that is longer than a datagram can be.
theorem sendDatagram_eq_tooBig {waitOnFull : Bool} {answer : FlowAnswer} {icmp : Packet}
    {t' : MasqueTunnel}
    (h : t.sendDatagram packet waitOnFull answer = .ok (.ok (.packetTooBig icmp), t')) :
    t.exceedsMax (1 + packet.length) = true ∧ TooBigMessage packet minMtu icmp := by
  by_cases hf : Forwardable packet
  · cases hlen : t.exceedsMax (1 + packet.length) with
    | true =>
        obtain ⟨icmp', hsend, hmessage⟩ := sendDatagram_tooBig hf hlen waitOnFull answer
        rw [hsend] at h
        cases h
        exact ⟨rfl, hmessage⟩
    | false =>
        rw [sendDatagram_fits hf hlen] at h
        exact absurd (congrArg Prod.fst (Except.ok.inj h)) (trySend_packetTooBig _ _ _ _ _)
  · rw [sendDatagram_dropped hf] at h
    cases h

-- The MTU in a Packet Too Big is one that the packet does not have and that a datagram can carry.
structure AdvertisesFitting (t : MasqueTunnel) (packet icmp : Packet) : Prop where
  smaller : nextHopMtu icmp < packet.length
  carried : nextHopMtu icmp ≤ t.maxIpPacketLen
  accepted : ∀ (u : MasqueTunnel) (smaller : Packet), u.maxH3DgramLen = t.maxH3DgramLen →
    smaller.length ≤ nextHopMtu icmp → ∀ waitOnFull answer icmp' u',
      u.sendDatagram smaller waitOnFull answer ≠ .ok (.ok (.packetTooBig icmp'), u')

theorem advertised_mtu_fits_iff {waitOnFull : Bool} {answer : FlowAnswer} {icmp : Packet}
    {t' : MasqueTunnel}
    (h : t.sendDatagram packet waitOnFull answer = .ok (.ok (.packetTooBig icmp), t')) :
    AdvertisesFitting t packet icmp ↔ ∀ maxLen ∈ t.maxH3DgramLen, minMtu.toNat < maxLen := by
  obtain ⟨hlen, hmessage⟩ := sendDatagram_eq_tooBig h
  obtain ⟨maxLen, hmax, hlt⟩ := exceedsMax_iff.mp hlen
  have hmtu := hmessage.nextHopMtu
  have hmin : minMtu.toNat = 1280 := rfl
  have hip : t.maxIpPacketLen = maxLen - 1 := by simp only [maxIpPacketLen, hmax]
  constructor
  · intro hfits m hm
    rw [hmax] at hm
    cases hm
    have hcarried := hfits.carried
    rw [hip] at hcarried
    omega
  · intro hbig
    have hmaxLen := hbig maxLen hmax
    refine ⟨by omega, by rw [hip]; omega, ?_⟩
    intro u smaller hu hsmaller wait answer' icmp' u' hsend
    obtain ⟨m, hm, hlt'⟩ := exceedsMax_iff.mp (sendDatagram_eq_tooBig hsend).1
    rw [hu, hmax] at hm
    cases hm
    omega

-- A packet of n zero bytes after the start of its header.
def padded (n : Nat) : Packet := [0x45, 0, 0, 0, 0, 0, 0, 0, 64] ++ List.replicate n 0

def advertised : Except MasqueError DatagramSendState → Option Packet
  | .ok (.packetTooBig icmp) => some icmp
  | _ => none

theorem exists_advertised {o : Outcome (Except MasqueError DatagramSendState × MasqueTunnel)}
    {p : Packet → Bool} (h : (o.toOption.bind (fun r => advertised r.1)).any p = true) :
    ∃ icmp t', o = .ok (.ok (.packetTooBig icmp), t') ∧ p icmp = true := by
  obtain ⟨icmp, hicmp, hp⟩ := (Option.any_eq_true _ _).mp h
  obtain ⟨⟨r, t'⟩, ho, hr⟩ := Option.bind_eq_some_iff.mp hicmp
  refine ⟨icmp, t', ?_, hp⟩
  rw [Outcome.toOption_eq_some.mp ho]
  simp only [advertised] at hr
  split at hr <;> cases hr
  rfl

theorem advertised_mtu_fits_long : ∃ icmp, AdvertisesFitting (.new (some 1300)) (padded 1391) icmp ∧
    nextHopMtu icmp = 1280 := by
  have hsend : (((new (some 1300)).sendDatagram (padded 1391) false .accepted).toOption.bind
      (fun r => advertised r.1)).any (fun icmp => nextHopMtu icmp = 1280) = true := by
    decide +kernel
  obtain ⟨icmp, t', hr, hp⟩ := exists_advertised hsend
  refine ⟨icmp, (advertised_mtu_fits_iff hr).mpr ?_, of_decide_eq_true hp⟩
  intro maxLen hm
  cases hm
  decide

-- A datagram of 1200 bytes at most: the packet that does not fit is shorter than 1280 bytes.
theorem advertised_mtu_not_fits :
    ∃ icmp t', (new (some 1200)).sendDatagram (padded 1241) false .accepted =
        .ok (.ok (.packetTooBig icmp), t') ∧
      (padded 1241).length = 1250 ∧ nextHopMtu icmp = 1280 ∧ (new (some 1200)).maxIpPacketLen = 1199 ∧
      ¬ AdvertisesFitting (.new (some 1200)) (padded 1241) icmp := by
  have hsend : (((new (some 1200)).sendDatagram (padded 1241) false .accepted).toOption.bind
      (fun r => advertised r.1)).any (fun icmp => nextHopMtu icmp = 1280) = true := by
    decide +kernel
  obtain ⟨icmp, t', hr, hp⟩ := exists_advertised hsend
  have hmtu : nextHopMtu icmp = 1280 := of_decide_eq_true hp
  refine ⟨icmp, t', hr, by decide +kernel, hmtu, rfl, fun hfits => ?_⟩
  have hcarried := hfits.carried
  rw [hmtu] at hcarried
  exact absurd hcarried (by decide)

end MasqueTunnel

end Usque
