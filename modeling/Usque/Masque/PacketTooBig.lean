import Usque.Masque.OutgoingPacket

namespace Usque

def icmpDestUnreachable : UInt8 := 3

def icmpCodeFragNeeded : UInt8 := 4

def icmpv6PacketTooBig : UInt8 := 2

def minMtu : UInt16 := 1280

-- The headers and the ICMP message as they are filled in, with zeros where a checksum goes.
def ipv4Header (totalLen : Nat) (src dst : List UInt8) : List UInt8 :=
  [0x45, 0x00, highByte totalLen, lowByte totalLen, 0x00, 0x00, 0x00, 0x00, 64, 1, 0, 0] ++
    src ++ dst

def ipv6Header (payloadLen : Nat) (src dst : List UInt8) : List UInt8 :=
  [0x60, 0x00, 0x00, 0x00, highByte payloadLen, lowByte payloadLen, 58, 64] ++ src ++ dst

def icmpTooBig (kind code : UInt8) (mtu : UInt16) (payload : Packet) : List UInt8 :=
  [kind, code, 0, 0, 0x00, 0x00, highByte mtu.toNat, lowByte mtu.toNat] ++ payload

def composeIcmpv4PacketTooBig (originalPacket : Packet) (mtu : UInt16) :
    Outcome (Option Packet) :=
  if originalPacket.length < ipv4HeaderLen then .ok none
  else do
    let origSrc := (originalPacket.drop 12).take 4
    let origDst := (originalPacket.drop 16).take 4
    let icmpPayload := originalPacket.take (min originalPacket.length (ipv4HeaderLen + 8))
    let icmpLen := 8 + icmpPayload.length
    let totalLen := ipv4HeaderLen + icmpLen
    let header := ipv4Header totalLen origDst origSrc
    let ipChecksum ← calculateIpv4Checksum header
    let icmp := icmpTooBig icmpDestUnreachable icmpCodeFragNeeded mtu icmpPayload
    let icmpChecksum ← calculateIcmpChecksum icmp
    .ok (some (putU16 header 10 ipChecksum ++ putU16 icmp 2 icmpChecksum))

def composeIcmpv6PacketTooBig (originalPacket : Packet) (mtu : UInt16) :
    Outcome (Option Packet) :=
  if originalPacket.length < ipv6HeaderLen then .ok none
  else do
    let origSrc := (originalPacket.drop 8).take 16
    let origDst := (originalPacket.drop 24).take 16
    let maxIcmpPayload := 1280 - ipv6HeaderLen - 8
    let icmpPayload := originalPacket.take (min originalPacket.length maxIcmpPayload)
    let icmpLen := 8 + icmpPayload.length
    let header := ipv6Header icmpLen origDst origSrc
    let icmp := icmpTooBig icmpv6PacketTooBig 0 mtu icmpPayload
    let checksum ← calculateIcmpv6Checksum origDst origSrc icmp
    .ok (some (header ++ putU16 icmp 2 checksum))

def composeIcmpPacketTooBig (originalPacket : Packet) (mtu : UInt16) : Outcome (Option Packet) :=
  if originalPacket.isEmpty then .ok none
  else if version originalPacket = 4 then composeIcmpv4PacketTooBig originalPacket mtu
  else if version originalPacket = 6 then composeIcmpv6PacketTooBig originalPacket mtu
  else .ok none

-- How the fields of an IP packet and of the ICMP message in it are read.
def headerLen (p : Packet) : Nat := if version p = 4 then ipv4HeaderLen else ipv6HeaderLen

def source (p : Packet) : List UInt8 :=
  if version p = 4 then (p.drop 12).take 4 else (p.drop 8).take 16

def destination (p : Packet) : List UInt8 :=
  if version p = 4 then (p.drop 16).take 4 else (p.drop 24).take 16

def u16At (p : Packet) (i : Nat) : Nat := (p.getD i 0).toNat * 256 + (p.getD (i + 1) 0).toNat

-- The total length of an IPv4 packet, the payload length of an IPv6 packet and its header.
def declaredLen (p : Packet) : Nat :=
  if version p = 4 then u16At p 2 else ipv6HeaderLen + u16At p 4

def icmpMessage (p : Packet) : List UInt8 := p.drop (headerLen p)

def nextHopMtu (p : Packet) : Nat := u16At (icmpMessage p) 6

def quoted (p : Packet) : Packet := (icmpMessage p).drop 8

-- What an ICMPv6 checksum is taken over before the message.
def pseudoHeader (p : Packet) : List UInt8 :=
  let len := (icmpMessage p).length
  source p ++ destination p ++
    [UInt8.ofNat (len >>> 24), UInt8.ofNat (len >>> 16), UInt8.ofNat (len >>> 8),
      UInt8.ofNat len, 0, 0, 0, 58]

def checksummed (p : Packet) : List UInt8 :=
  if version p = 4 then icmpMessage p else pseudoHeader p ++ icmpMessage p

structure TooBigMessage (original : Packet) (mtu : UInt16) (msg : Packet) : Prop where
  version : version msg = version original
  declaredLen : declaredLen msg = msg.length
  length : msg.length ≤ 1280
  exchanged : source msg = destination original ∧ destination msg = source original
  quoted : quoted msg <+: original
  nextHopMtu : nextHopMtu msg = mtu.toNat
  header : Usque.version msg = 4 → OnesComplement.Verifies (msg.take ipv4HeaderLen)
  checksum : OnesComplement.Verifies (checksummed msg)

-- A whole header of the original's version.
def Quotable (p : Packet) : Prop :=
  version p = 4 ∧ ipv4HeaderLen ≤ p.length ∨ version p = 6 ∧ ipv6HeaderLen ≤ p.length

variable {p : Packet} {mtu : UInt16}

theorem calculateIcmpChecksum_ok {data : List UInt8} (h : 4 ≤ data.length)
    (hle : data.length ≤ 4096) :
    calculateIcmpChecksum data =
      .ok (UInt16.ofNat (OnesComplement.complement (totalAround 2 data))) := by
  have hlt : totalAround 2 data < u32Bound := totalAround_lt hle
  have hsum : sumWords (some 2) 0 data 0 = .ok (0 + totalAround 2 data) :=
    sumWords_field rfl h (by rwa [Nat.zero_add])
  rw [Nat.zero_add] at hsum
  rw [calculateIcmpChecksum, hsum, Outcome.ok_bind]
  exact finishChecksum_ok hlt

theorem length_slice {i n : Nat} (h : i + n ≤ p.length) : ((p.drop i).take n).length = n := by
  rw [List.length_take, List.length_drop]
  omega

section message

variable {src dst payload : List UInt8} {kind code : UInt8} {checksum : UInt16}

theorem length_icmpTooBig :
    (icmpTooBig kind code mtu payload).length = 8 + payload.length := by
  simp only [icmpTooBig, List.length_append, List.length_cons, List.length_nil]

theorem ipv4_version (totalLen : Nat) (rest : List UInt8) :
    version (putU16 (ipv4Header totalLen src dst) 10 checksum ++ rest) = 4 := by
  have hversion : (0x45 : UInt8) >>> 4 = 4 := by decide
  exact hversion

theorem ipv6_version (payloadLen : Nat) (rest : List UInt8) :
    version (ipv6Header payloadLen src dst ++ rest) = 6 := by
  have hversion : (0x60 : UInt8) >>> 4 = 6 := by decide
  exact hversion

theorem ipv6_version_ne (payloadLen : Nat) (rest : List UInt8) :
    version (ipv6Header payloadLen src dst ++ rest) ≠ 4 := by
  rw [ipv6_version]
  decide

theorem length_ipv4Header (hsrc : src.length = 4) (hdst : dst.length = 4) (totalLen : Nat) :
    (ipv4Header totalLen src dst).length = ipv4HeaderLen := by
  simp only [ipv4Header, List.length_append, List.length_cons, List.length_nil, hsrc, hdst,
    ipv4HeaderLen]

theorem length_ipv6Header (hsrc : src.length = 16) (hdst : dst.length = 16) (payloadLen : Nat) :
    (ipv6Header payloadLen src dst).length = ipv6HeaderLen := by
  simp only [ipv6Header, List.length_append, List.length_cons, List.length_nil, hsrc, hdst,
    ipv6HeaderLen]

-- What follows a whole header is the message.
theorem ipv4_icmpMessage (hsrc : src.length = 4) (hdst : dst.length = 4) (totalLen : Nat)
    (icmp : List UInt8) :
    icmpMessage (putU16 (ipv4Header totalLen src dst) 10 checksum ++ icmp) = icmp := by
  rw [icmpMessage, headerLen, if_pos (ipv4_version ..)]
  exact List.drop_left' (by rw [length_putU16, length_ipv4Header hsrc hdst])

theorem ipv6_icmpMessage (hsrc : src.length = 16) (hdst : dst.length = 16) (payloadLen : Nat)
    (icmp : List UInt8) : icmpMessage (ipv6Header payloadLen src dst ++ icmp) = icmp := by
  rw [icmpMessage, headerLen, if_neg (ipv6_version_ne _ _)]
  exact List.drop_left' (length_ipv6Header hsrc hdst payloadLen)

theorem ipv4_addresses (hsrc : src.length = 4) (hdst : dst.length = 4) (totalLen : Nat)
    (icmp : List UInt8) :
    source (putU16 (ipv4Header totalLen src dst) 10 checksum ++ icmp) = src ∧
      destination (putU16 (ipv4Header totalLen src dst) 10 checksum ++ icmp) = dst := by
  constructor
  · rw [source, if_pos (ipv4_version ..)]
    show ((src ++ dst) ++ icmp).take 4 = src
    rw [List.append_assoc, List.take_left' hsrc]
  · rw [destination, if_pos (ipv4_version ..)]
    show (((src ++ dst) ++ icmp).drop 4).take 4 = dst
    rw [List.append_assoc, List.drop_left' hsrc, List.take_left' hdst]

theorem ipv6_addresses (hsrc : src.length = 16) (hdst : dst.length = 16) (payloadLen : Nat)
    (icmp : List UInt8) :
    source (ipv6Header payloadLen src dst ++ icmp) = src ∧
      destination (ipv6Header payloadLen src dst ++ icmp) = dst := by
  constructor
  · rw [source, if_neg (ipv6_version_ne _ _)]
    show ((src ++ dst) ++ icmp).take 16 = src
    rw [List.append_assoc, List.take_left' hsrc]
  · rw [destination, if_neg (ipv6_version_ne _ _)]
    show (((src ++ dst) ++ icmp).drop 16).take 16 = dst
    rw [List.append_assoc, List.drop_left' hsrc, List.take_left' hdst]

theorem icmpTooBig_quoted (checksum : UInt16) :
    (putU16 (icmpTooBig kind code mtu payload) 2 checksum).drop 8 = payload := rfl

theorem icmpTooBig_nextHopMtu (checksum : UInt16) :
    u16At (putU16 (icmpTooBig kind code mtu payload) 2 checksum) 6 = mtu.toNat :=
  u16_of_bytes mtu.toNat_lt

theorem icmpTooBig_around_pos (h : 0 < kind.toNat) (code : UInt8) (mtu : UInt16)
    (payload : Packet) : 0 < totalAround 2 (icmpTooBig kind code mtu payload) := by
  show 0 < OnesComplement.total [kind, code] + _
  rw [OnesComplement.total_cons]
  omega

end message

theorem composeIcmpv4PacketTooBig_ok (hv : version p = 4) (hlen : ipv4HeaderLen ≤ p.length)
    (mtu : UInt16) :
    ∃ msg, composeIcmpv4PacketTooBig p mtu = .ok (some msg) ∧ TooBigMessage p mtu msg := by
  have h20 : 20 ≤ p.length := hlen
  have hsrc : ((p.drop 12).take 4).length = 4 := length_slice (by omega)
  have hdst : ((p.drop 16).take 4).length = 4 := length_slice (by omega)
  have hpsrc : source p = (p.drop 12).take 4 := if_pos hv
  have hpdst : destination p = (p.drop 16).take 4 := if_pos hv
  have hpayload : (p.take (min p.length (ipv4HeaderLen + 8))).length ≤ 28 := by
    rw [List.length_take]
    simp only [ipv4HeaderLen]
    omega
  have hquoted : p.take (min p.length (ipv4HeaderLen + 8)) <+: p := List.take_prefix _ _
  rw [composeIcmpv4PacketTooBig, if_neg (Nat.not_lt.mpr hlen)]
  dsimp only
  generalize (p.drop 12).take 4 = origSrc at hsrc hpsrc ⊢
  generalize (p.drop 16).take 4 = origDst at hdst hpdst ⊢
  generalize p.take (min p.length (ipv4HeaderLen + 8)) = payload at hpayload hquoted ⊢
  have hheader : (ipv4Header (ipv4HeaderLen + (8 + payload.length)) origDst origSrc).length =
      ipv4HeaderLen := length_ipv4Header hdst hsrc _
  have hicmp : (icmpTooBig icmpDestUnreachable icmpCodeFragNeeded mtu payload).length =
      8 + payload.length := length_icmpTooBig
  rw [calculateIpv4Checksum_ok hheader, Outcome.ok_bind,
    calculateIcmpChecksum_ok (by omega) (by omega), Outcome.ok_bind]
  refine ⟨_, rfl, ?_⟩
  constructor
  · rw [hv]
    exact ipv4_version ..
  · rw [declaredLen, if_pos (ipv4_version ..), List.length_append, length_putU16, length_putU16,
      hheader, hicmp]
    exact u16_of_bytes (by simp only [ipv4HeaderLen]; omega)
  · rw [List.length_append, length_putU16, length_putU16, hheader, hicmp]
    simp only [ipv4HeaderLen]
    omega
  · rw [hpsrc, hpdst]
    exact ipv4_addresses hdst hsrc _ _
  · rw [quoted, ipv4_icmpMessage hdst hsrc, icmpTooBig_quoted]
    exact hquoted
  · rw [nextHopMtu, ipv4_icmpMessage hdst hsrc, icmpTooBig_nextHopMtu]
  · intro _
    rw [List.take_left' (by rw [length_putU16, hheader]), OnesComplement.verifies_iff]
    have hpos : 0 < totalAround 10
        (ipv4Header (ipv4HeaderLen + (8 + payload.length)) origDst origSrc) :=
      totalAround_pos (by rw [hheader]; decide) (show (0x45 : UInt8) >>> 4 = 4 by decide)
    have hverifies := verifies_putU16 _ 10 0 rfl (by rw [hheader]; decide) (by rwa [Nat.zero_add])
    simp only [Nat.zero_add] at hverifies
    exact hverifies
  · rw [checksummed, if_pos (ipv4_version ..), ipv4_icmpMessage hdst hsrc,
      OnesComplement.verifies_iff]
    have hpos := icmpTooBig_around_pos (show 0 < icmpDestUnreachable.toNat by decide)
      icmpCodeFragNeeded mtu payload
    have hverifies := verifies_putU16 _ 2 0 rfl (by rw [hicmp]; omega) (by rwa [Nat.zero_add])
    simp only [Nat.zero_add] at hverifies
    exact hverifies

theorem sumAddress_ok {address : List UInt8} (h : address.length = 16) {sum : Nat}
    (hlt : sum + OnesComplement.total address < u32Bound) :
    sumAddress address sum = .ok (sum + OnesComplement.total address) := by
  rw [sumAddress, if_pos (Nat.le_of_eq h.symm), List.take_of_length_le (Nat.le_of_eq h)]
  exact sumWords_past address nofun hlt

theorem total_lengthField {n : Nat} (h : n < 65536) :
    OnesComplement.total [UInt8.ofNat (n >>> 24), UInt8.ofNat (n >>> 16), UInt8.ofNat (n >>> 8),
      UInt8.ofNat n, 0, 0, 0, 58] = n + 58 := by
  have hnil : OnesComplement.total [] = 0 := rfl
  have hzero : (0 : UInt8).toNat = 0 := rfl
  have hicmp : (58 : UInt8).toNat = 58 := rfl
  rw [OnesComplement.total_cons, OnesComplement.total_cons, OnesComplement.total_cons,
    OnesComplement.total_cons, hnil, hzero, hicmp]
  simp only [UInt8.toNat_ofNat', Nat.shiftRight_eq_div_pow]
  omega

theorem pseudoHeader_total {msg : Packet} (hsrc : (source msg).length = 16)
    (hdst : (destination msg).length = 16) (hlen : (icmpMessage msg).length < 65536) :
    OnesComplement.total (pseudoHeader msg) =
      OnesComplement.total (source msg) + OnesComplement.total (destination msg) +
        ((icmpMessage msg).length + 58) := by
  rw [pseudoHeader, OnesComplement.total_append (by rw [List.length_append, hsrc, hdst]),
    OnesComplement.total_append (by rw [hsrc]), total_lengthField hlen]

theorem calculateIcmpv6Checksum_ok {src dst icmp : List UInt8} (hsrc : src.length = 16)
    (hdst : dst.length = 16) (h : 4 ≤ icmp.length) (hle : icmp.length ≤ 4096) :
    calculateIcmpv6Checksum src dst icmp =
      .ok (UInt16.ofNat (OnesComplement.complement (OnesComplement.total src +
        OnesComplement.total dst + (icmp.length + 58) + totalAround 2 icmp))) := by
  have hbound : u32Bound = 4294967296 := rfl
  have hmod : icmp.length % 2 ^ 32 = icmp.length := Nat.mod_eq_of_lt (by omega)
  have hlow : icmp.length &&& 0xffff = icmp.length :=
    (Nat.and_two_pow_sub_one_eq_mod icmp.length 16).trans (Nat.mod_eq_of_lt (by omega))
  have hhigh : icmp.length >>> 16 = 0 := by
    rw [Nat.shiftRight_eq_div_pow]
    exact Nat.div_eq_of_lt (by omega)
  have ha := OnesComplement.total_le src
  have hb := OnesComplement.total_le dst
  have hc : totalAround 2 icmp ≤ 4096 * 65535 + 4096 * 65535 := by
    have htake := OnesComplement.total_le (icmp.take 2)
    have hdrop := OnesComplement.total_le (icmp.drop (2 + 2))
    rw [List.length_take] at htake
    rw [List.length_drop] at hdrop
    simp only [totalAround]
    omega
  rw [hsrc] at ha
  rw [hdst] at hb
  simp only [calculateIcmpv6Checksum, hmod, hlow, hhigh]
  generalize hs : OnesComplement.total src = s at ha ⊢
  generalize hd : OnesComplement.total dst = d at hb ⊢
  generalize hr : totalAround 2 icmp = r at hc ⊢
  have hfirst : sumAddress src 0 = .ok (0 + s) := hs ▸ sumAddress_ok hsrc (by rw [hs]; omega)
  have hsecond : sumAddress dst (0 + s) = .ok (0 + s + d) :=
    hd ▸ sumAddress_ok hdst (by rw [hd]; omega)
  have hrest : sumWords (some 2) 0 icmp (0 + s + d + 0 + icmp.length + 58) =
      .ok (0 + s + d + 0 + icmp.length + 58 + r) :=
    hr ▸ sumWords_field rfl h (by rw [hr]; omega)
  rw [hfirst, Outcome.ok_bind, hsecond, Outcome.ok_bind, addU32_ok (by omega), Outcome.ok_bind,
    addU32_ok (by omega), Outcome.ok_bind, addU32_ok (by omega), Outcome.ok_bind, hrest,
    Outcome.ok_bind, finishChecksum_ok (by omega)]
  have hsum : 0 + s + d + 0 + icmp.length + 58 + r = s + d + (icmp.length + 58) + r := by omega
  rw [hsum]

theorem ipv6_checksummed {src dst icmp : List UInt8} (hsrc : src.length = 16)
    (hdst : dst.length = 16) (hicmp : icmp.length < 65536) (payloadLen : Nat) :
    OnesComplement.total (checksummed (ipv6Header payloadLen src dst ++ icmp)) =
      OnesComplement.total src + OnesComplement.total dst + (icmp.length + 58) +
        OnesComplement.total icmp := by
  obtain ⟨hs, hd⟩ := ipv6_addresses hsrc hdst payloadLen icmp
  have hmessage := ipv6_icmpMessage hsrc hdst payloadLen icmp
  have hlen : (pseudoHeader (ipv6Header payloadLen src dst ++ icmp)).length % 2 = 0 := by
    simp only [pseudoHeader, List.length_append, hs, hd, hsrc, hdst, List.length_cons,
      List.length_nil]
  rw [checksummed, if_neg (ipv6_version_ne _ _), OnesComplement.total_append hlen,
    pseudoHeader_total (by rw [hs, hsrc]) (by rw [hd, hdst]) (by rw [hmessage]; exact hicmp), hs,
    hd, hmessage]

theorem composeIcmpv6PacketTooBig_ok (hv : version p = 6) (hlen : ipv6HeaderLen ≤ p.length)
    (mtu : UInt16) :
    ∃ msg, composeIcmpv6PacketTooBig p mtu = .ok (some msg) ∧ TooBigMessage p mtu msg := by
  have h40 : 40 ≤ p.length := hlen
  have hv4 : version p ≠ 4 := by
    rw [hv]
    decide
  have hsrc : ((p.drop 8).take 16).length = 16 := length_slice (by omega)
  have hdst : ((p.drop 24).take 16).length = 16 := length_slice (by omega)
  have hpsrc : source p = (p.drop 8).take 16 := if_neg hv4
  have hpdst : destination p = (p.drop 24).take 16 := if_neg hv4
  have hpayload : (p.take (min p.length (1280 - ipv6HeaderLen - 8))).length ≤ 1232 := by
    rw [List.length_take]
    simp only [ipv6HeaderLen]
    omega
  have hquoted : p.take (min p.length (1280 - ipv6HeaderLen - 8)) <+: p := List.take_prefix _ _
  rw [composeIcmpv6PacketTooBig, if_neg (Nat.not_lt.mpr hlen)]
  dsimp only
  generalize (p.drop 8).take 16 = origSrc at hsrc hpsrc ⊢
  generalize (p.drop 24).take 16 = origDst at hdst hpdst ⊢
  generalize p.take (min p.length (1280 - ipv6HeaderLen - 8)) = payload at hpayload hquoted ⊢
  have hheader : (ipv6Header (8 + payload.length) origDst origSrc).length = ipv6HeaderLen :=
    length_ipv6Header hdst hsrc _
  have hicmp : (icmpTooBig icmpv6PacketTooBig 0 mtu payload).length = 8 + payload.length :=
    length_icmpTooBig
  rw [calculateIcmpv6Checksum_ok hdst hsrc (by omega) (by omega), Outcome.ok_bind]
  refine ⟨_, rfl, ?_⟩
  constructor
  · rw [hv]
    exact ipv6_version ..
  · rw [declaredLen, if_neg (ipv6_version_ne _ _), List.length_append, length_putU16, hheader,
      hicmp]
    have hfield : _ = 8 + payload.length := u16_of_bytes (by omega)
    exact congrArg (ipv6HeaderLen + ·) hfield
  · rw [List.length_append, length_putU16, hheader, hicmp]
    simp only [ipv6HeaderLen]
    omega
  · rw [hpsrc, hpdst]
    exact ipv6_addresses hdst hsrc _ _
  · rw [quoted, ipv6_icmpMessage hdst hsrc, icmpTooBig_quoted]
    exact hquoted
  · rw [nextHopMtu, ipv6_icmpMessage hdst hsrc, icmpTooBig_nextHopMtu]
  · intro h4
    exact absurd h4 (ipv6_version_ne _ _)
  · have hverifies := verifies_putU16 (icmpTooBig icmpv6PacketTooBig 0 mtu payload) 2
      (OnesComplement.total origDst + OnesComplement.total origSrc +
        ((icmpTooBig icmpv6PacketTooBig 0 mtu payload).length + 58)) rfl (by omega) (by omega)
    rw [OnesComplement.verifies_iff,
      ipv6_checksummed hdst hsrc (by rw [length_putU16]; omega), length_putU16]
    exact hverifies

theorem composeIcmpPacketTooBig_some {originalPacket : Packet} (hq : Quotable originalPacket)
    (mtu : UInt16) :
    ∃ msg, composeIcmpPacketTooBig originalPacket mtu = .ok (some msg) ∧
      TooBigMessage originalPacket mtu msg := by
  have hempty : originalPacket.isEmpty = false := by
    cases originalPacket with
    | nil =>
        rcases hq with ⟨_, hlen⟩ | ⟨_, hlen⟩
        · cases hlen
        · cases hlen
    | cons => rfl
  rcases hq with ⟨hv, hlen⟩ | ⟨hv, hlen⟩
  · obtain ⟨msg, hmsg, hwell⟩ := composeIcmpv4PacketTooBig_ok hv hlen mtu
    refine ⟨msg, ?_, hwell⟩
    rw [composeIcmpPacketTooBig, hempty, if_neg nofun, if_pos hv, hmsg]
  · obtain ⟨msg, hmsg, hwell⟩ := composeIcmpv6PacketTooBig_ok hv hlen mtu
    refine ⟨msg, ?_, hwell⟩
    rw [composeIcmpPacketTooBig, hempty, if_neg nofun, if_neg (by rw [hv]; decide), if_pos hv,
      hmsg]

theorem composeIcmpPacketTooBig_none {originalPacket : Packet} (hq : ¬ Quotable originalPacket)
    (mtu : UInt16) : composeIcmpPacketTooBig originalPacket mtu = .ok none := by
  simp only [composeIcmpPacketTooBig]
  split_ifs with hempty hv hv6
  · rfl
  · rw [composeIcmpv4PacketTooBig, if_pos (Nat.lt_of_not_le (fun hlen => hq (.inl ⟨hv, hlen⟩)))]
  · rw [composeIcmpv6PacketTooBig, if_pos (Nat.lt_of_not_le (fun hlen => hq (.inr ⟨hv6, hlen⟩)))]
  · rfl

-- For every MTU and packet: a message exactly for a packet that has a whole header, and well formed.
theorem packet_too_big_well_formed (originalPacket : Packet) (mtu : UInt16) :
    ∃ message, composeIcmpPacketTooBig originalPacket mtu = .ok message ∧
      (message.isSome ↔ Quotable originalPacket) ∧
      ∀ msg ∈ message, TooBigMessage originalPacket mtu msg := by
  by_cases hq : Quotable originalPacket
  · obtain ⟨msg, hmsg, hwell⟩ := composeIcmpPacketTooBig_some hq mtu
    refine ⟨some msg, hmsg, ⟨fun _ => hq, fun _ => rfl⟩, fun m hm => ?_⟩
    cases hm
    exact hwell
  · exact ⟨none, composeIcmpPacketTooBig_none hq mtu, ⟨nofun, fun hq' => absurd hq' hq⟩, nofun⟩

end Usque
