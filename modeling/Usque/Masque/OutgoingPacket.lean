import Usque.Masque.Checksum
import Usque.Stack.Smoltcp

namespace Usque

def ipv4HeaderLen : Nat := 20

def ipv6HeaderLen : Nat := 40

def version (packet : Packet) : UInt8 := packet.getD 0 0 >>> 4

def processOutgoingIpPacket (packet : Packet) : Outcome (Bool × Packet) :=
  if packet.isEmpty then .ok (false, packet)
  else if version packet = 4 then
    if packet.length < ipv4HeaderLen then .ok (false, packet)
    else
      let ttl := packet.getD 8 0
      if ttl ≤ 1 then .ok (false, packet)
      else do
        let packet := packet.set 8 (ttl - 1)
        let checksum ← calculateIpv4Checksum (packet.take ipv4HeaderLen)
        .ok (true, putU16 packet 10 checksum)
  else if version packet = 6 then
    if packet.length < ipv6HeaderLen then .ok (false, packet)
    else
      let hopLimit := packet.getD 7 0
      if hopLimit ≤ 1 then .ok (false, packet)
      else .ok (true, packet.set 7 (hopLimit - 1))
  else .ok (false, packet)

-- The byte that counts hops, and the length that the header's first byte gives.
def hopIndex (packet : Packet) : Nat := if version packet = 4 then 8 else 7

def hops (packet : Packet) : UInt8 := packet.getD (hopIndex packet) 0

def ihlLen (packet : Packet) : Nat := (packet.getD 0 0).toNat % 16 * 4

-- What an IP packet is that can be forwarded.
structure Forwardable (p : Packet) : Prop where
  accepted : version p = 4 ∧ ipv4HeaderLen ≤ p.length ∨ version p = 6 ∧ ipv6HeaderLen ≤ p.length
  hops : 2 ≤ hops p

instance (p : Packet) : Decidable (Forwardable p) :=
  decidable_of_iff ((version p = 4 ∧ ipv4HeaderLen ≤ p.length ∨
      version p = 6 ∧ ipv6HeaderLen ≤ p.length) ∧ 2 ≤ hops p)
    ⟨fun h => ⟨h.1, h.2⟩, fun h => ⟨h.accepted, h.hops⟩⟩

-- One hop less, and nothing else but the checksum of an IPv4 header has changed.
structure Forwarded (p q : Packet) : Prop where
  hops : q[hopIndex p]? = some (hops p - 1)
  length : q.length = p.length
  frame : ∀ i, i ≠ hopIndex p → (version p = 4 → i ≠ 10 ∧ i ≠ 11) → q[i]? = p[i]?

def HeaderVerifies (p q : Packet) : Prop :=
  version p = 4 → ipv4HeaderLen ≤ ihlLen p → ihlLen p ≤ p.length →
    OnesComplement.Verifies (q.take (ihlLen p))

-- The packet that goes out.
def forward (p : Packet) : Packet :=
  let q := p.set (hopIndex p) (hops p - 1)
  if version p = 4 then
    putU16 q 10 (UInt16.ofNat (OnesComplement.complement (totalAround 10 (q.take ipv4HeaderLen))))
  else q

variable {p : Packet}

theorem totalAround_lt {data : List UInt8} {k : Nat} (h : data.length ≤ 4096) :
    totalAround k data < u32Bound := by
  have htake := OnesComplement.total_le (data.take k)
  have hdrop := OnesComplement.total_le (data.drop (k + 2))
  have hbound : u32Bound = 4294967296 := rfl
  rw [List.length_take] at htake
  rw [List.length_drop] at hdrop
  simp only [totalAround]
  omega

theorem calculateIpv4Checksum_ok {header : List UInt8} (h : header.length = ipv4HeaderLen) :
    calculateIpv4Checksum header =
      .ok (UInt16.ofNat (OnesComplement.complement (totalAround 10 header))) := by
  simp only [ipv4HeaderLen] at h
  have hlt : totalAround 10 header < u32Bound := totalAround_lt (by omega)
  have hsum : sumWords (some 10) 0 header 0 = .ok (0 + totalAround 10 header) :=
    sumWords_field rfl (by omega) (by rwa [Nat.zero_add])
  rw [Nat.zero_add] at hsum
  rw [calculateIpv4Checksum, hsum, Outcome.ok_bind]
  exact finishChecksum_ok hlt

namespace Forwardable

theorem isEmpty (h : Forwardable p) : p.isEmpty = false := by
  cases p with
  | nil => rcases h.accepted with ⟨_, hlen⟩ | ⟨_, hlen⟩ <;> cases hlen
  | cons => rfl

theorem ipv4 (h : Forwardable p) (hv : version p = 4) : ipv4HeaderLen ≤ p.length := by
  rcases h.accepted with ⟨_, hlen⟩ | ⟨hv6, _⟩
  · exact hlen
  · rw [hv] at hv6
    cases hv6

end Forwardable

theorem processOutgoingIpPacket_forwardable (h : Forwardable p) :
    processOutgoingIpPacket p = .ok (true, forward p) := by
  have hempty := h.isEmpty
  obtain ⟨haccepted, hhops⟩ := h
  have hhop : ¬ hops p ≤ 1 := fun hle => absurd (UInt8.le_trans hhops hle) (by decide)
  rcases haccepted with ⟨hv, hlen⟩ | ⟨hv, hlen⟩
  · simp only [hops, hopIndex, hv, if_true] at hhop
    have htake : ((p.set 8 (p.getD 8 0 - 1)).take ipv4HeaderLen).length = ipv4HeaderLen := by
      rw [List.length_take, List.length_set]
      exact Nat.min_eq_left hlen
    simp only [processOutgoingIpPacket, hempty, Bool.false_eq_true, if_false, hv, if_true,
      Nat.not_lt.mpr hlen, hhop, calculateIpv4Checksum_ok htake, Outcome.ok_bind, forward,
      hopIndex, hops]
  · have hv4 : ¬ version p = 4 := by
      rw [hv]
      decide
    simp only [hops, hopIndex, hv4, if_false] at hhop
    simp only [processOutgoingIpPacket, hempty, Bool.false_eq_true, if_false, hv, if_true,
      Nat.not_lt.mpr hlen, hhop, forward, hopIndex, hops]
    rfl

theorem processOutgoingIpPacket_other (h : ¬ Forwardable p) :
    processOutgoingIpPacket p = .ok (false, p) := by
  simp only [processOutgoingIpPacket]
  split_ifs with hempty hv hlen httl hv6 hlen hhop
  · rfl
  · rfl
  · rfl
  · refine absurd ⟨.inl ⟨hv, Nat.le_of_not_lt hlen⟩, ?_⟩ h
    simp only [hops, hopIndex, hv, if_true]
    exact UInt8.not_le.mp httl
  · rfl
  · rfl
  · refine absurd ⟨.inr ⟨hv6, Nat.le_of_not_lt hlen⟩, ?_⟩ h
    simp only [hops, hopIndex, hv, if_false]
    exact UInt8.not_le.mp hhop
  · rfl

theorem hopIndex_lt (h : Forwardable p) : hopIndex p < p.length := by
  simp only [hopIndex]
  rcases h.accepted with ⟨hv, hlen⟩ | ⟨hv, hlen⟩
  · rw [if_pos hv]
    exact Nat.lt_of_lt_of_le (by decide) hlen
  · rw [if_neg (by rw [hv]; decide)]
    exact Nat.lt_of_lt_of_le (by decide) hlen

theorem forward_forwarded (h : Forwardable p) : Forwarded p (forward p) := by
  have hhop := hopIndex_lt h
  by_cases hv : version p = 4
  · have hindex : hopIndex p = 8 := if_pos hv
    simp only [hindex] at hhop
    constructor
    · simp only [forward, hv, if_true, hindex]
      rw [getElem?_putU16 _ _ (by decide) (by decide), List.getElem?_set_self hhop]
    · simp only [forward, hv, if_true, length_putU16, List.length_set]
    · intro i hi hfield
      obtain ⟨h10, h11⟩ := hfield hv
      simp only [forward, hv, if_true]
      rw [getElem?_putU16 _ _ h10 h11, List.getElem?_set_ne (Ne.symm hi)]
  · constructor
    · simp only [forward, hv, if_false]
      exact List.getElem?_set_self hhop
    · simp only [forward, hv, if_false, List.length_set]
    · intro i hi _
      simp only [forward, hv, if_false]
      exact List.getElem?_set_ne (Ne.symm hi)

-- The words of an IPv4 header's options.
def options (p : Packet) : List UInt8 := (p.take (ihlLen p)).drop ipv4HeaderLen

def optionsCancel (p : Packet) : Prop :=
  Forwardable p → version p = 4 → ipv4HeaderLen ≤ ihlLen p → ihlLen p ≤ p.length →
    OnesComplement.total (options p) % 65535 = 0

theorem totalAround_pos {data : List UInt8} (h : 12 ≤ data.length)
    (hv : version data = 4) : 0 < totalAround 10 data := by
  match data, h with
  | first :: second :: rest, h =>
      have hfirst : 0 < first.toNat := by
        rcases Nat.eq_zero_or_pos first.toNat with hz | hpos
        · have hzero : first = 0 := UInt8.toNat_inj.mp hz
          have hver : first >>> 4 = 4 := hv
          rw [hzero] at hver
          exact absurd hver (by decide)
        · exact hpos
      simp only [totalAround, List.take_succ_cons, OnesComplement.total_cons]
      omega

-- The first twenty bytes of a forwarded header verify.
theorem forward_total (h : Forwardable p) (hv : version p = 4) :
    0 < OnesComplement.total ((forward p).take ipv4HeaderLen) ∧
      OnesComplement.total ((forward p).take ipv4HeaderLen) % 65535 = 0 := by
  have hlen := h.ipv4 hv
  have hindex : hopIndex p = 8 := if_pos hv
  have htake : (forward p).take ipv4HeaderLen =
      putU16 ((p.set 8 (hops p - 1)).take ipv4HeaderLen) 10 (UInt16.ofNat
        (OnesComplement.complement
          (totalAround 10 ((p.set 8 (hops p - 1)).take ipv4HeaderLen)))) := by
    simp only [forward, hv, if_true, hindex, putU16, List.take_set]
  have hhead : ((p.set 8 (hops p - 1)).take ipv4HeaderLen).length = ipv4HeaderLen := by
    rw [List.length_take, List.length_set]
    exact Nat.min_eq_left hlen
  have hversion : version ((p.set 8 (hops p - 1)).take ipv4HeaderLen) = 4 := by
    rw [← hv]
    cases p with
    | nil => rfl
    | cons first rest => rfl
  have hpos := totalAround_pos (by rw [hhead]; decide) hversion
  have hverifies := verifies_putU16 ((p.set 8 (hops p - 1)).take ipv4HeaderLen) 10 0 rfl
    (by rw [hhead]; decide) (by rwa [Nat.zero_add])
  simp only [Nat.zero_add] at hverifies
  rw [htake]
  exact hverifies

theorem forward_headerTotal (h : Forwardable p) (hv : version p = 4)
    (hihl : ipv4HeaderLen ≤ ihlLen p) :
    OnesComplement.total ((forward p).take (ihlLen p)) =
      OnesComplement.total ((forward p).take ipv4HeaderLen) + OnesComplement.total (options p) := by
  have hf := forward_forwarded h
  have hlen := h.ipv4 hv
  have hindex : hopIndex p = 8 := if_pos hv
  have hhead : ((forward p).take (ihlLen p)).take ipv4HeaderLen =
      (forward p).take ipv4HeaderLen := by
    rw [List.take_take, Nat.min_eq_left hihl]
  have htail : ((forward p).take (ihlLen p)).drop ipv4HeaderLen = options p := by
    refine List.ext_getElem? (fun i => ?_)
    simp only [options, List.getElem?_drop, List.getElem?_take]
    split_ifs with hi
    · simp only [ipv4HeaderLen]
      exact hf.frame _ (by omega) (fun _ => ⟨by omega, by omega⟩)
    · rfl
  have hhlen : ((forward p).take ipv4HeaderLen).length % 2 = 0 := by
    rw [List.length_take, hf.length, Nat.min_eq_left hlen]
    rfl
  rw [← List.take_append_drop ipv4HeaderLen ((forward p).take (ihlLen p)), hhead, htail,
    OnesComplement.total_append hhlen]

def OutgoingRewrite (p : Packet) : Prop :=
  ∃ forwarded q, processOutgoingIpPacket p = .ok (forwarded, q) ∧ (forwarded = false → q = p) ∧
    (forwarded = true → Forwardable p ∧ Forwarded p q ∧ HeaderVerifies p q)

theorem outgoing_rewrite_iff (p : Packet) : OutgoingRewrite p ↔ optionsCancel p := by
  constructor
  · rintro ⟨forwarded, q, hp, _, hq⟩ h hv hihl hfits
    rw [processOutgoingIpPacket_forwardable h] at hp
    cases hp
    have hverifies := (hq rfl).2.2 hv hihl hfits
    have hzero := (OnesComplement.verifies_iff.mp hverifies).2
    have hhead := (forward_total h hv).2
    rw [forward_headerTotal h hv hihl] at hzero
    omega
  · intro hcancel
    by_cases h : Forwardable p
    · refine ⟨true, forward p, processOutgoingIpPacket_forwardable h, nofun, fun _ =>
        ⟨h, forward_forwarded h, fun hv hihl hfits => ?_⟩⟩
      have hoptions := hcancel h hv hihl hfits
      obtain ⟨hpos, hhead⟩ := forward_total h hv
      rw [OnesComplement.verifies_iff, forward_headerTotal h hv hihl]
      omega
    · exact ⟨false, p, processOutgoingIpPacket_other h, fun _ => rfl, nofun⟩

-- An IPv4 header of 24 bytes, whose options are three no-operations and an end.
def routed : Packet :=
  [0x46, 0, 0, 24, 0, 0, 0, 0, 64, 6, 0, 0, 10, 0, 0, 2, 1, 2, 3, 4, 1, 1, 1, 0]

theorem outgoing_rewrite_options : ¬ OutgoingRewrite routed := by
  rintro ⟨forwarded, q, hp, _, hq⟩
  have hroute : processOutgoingIpPacket routed = .ok (true,
      [0x46, 0, 0, 24, 0, 0, 0, 0, 63, 6, 0x6c, 0xd9, 10, 0, 0, 2, 1, 2, 3, 4, 1, 1, 1, 0]) := by
    decide +kernel
  rw [hroute] at hp
  cases hp
  exact absurd ((hq rfl).2.2 (by decide) (by decide) (by decide)) (by decide +kernel)

end Usque
