import Usque.Lib.Fault
import Usque.Lib.OnesComplement
import Mathlib.Data.Nat.Bitwise

namespace Usque

def u32Bound : Nat := 2 ^ 32

def addU32 (a b : Nat) : Outcome Nat := if a + b < u32Bound then .ok (a + b) else .error .panic

-- `!sum as u16`
def notAsU16 (sum : Nat) : UInt16 := UInt16.ofNat (2 ^ 32 - 1 - sum)

def word (hi lo : UInt8) : Nat := hi.toNat <<< 8 ||| lo.toNat

def halfWord (hi : UInt8) : Nat := hi.toNat <<< 8

-- `(value >> 8) as u8` and `value as u8`
def highByte (value : Nat) : UInt8 := UInt8.ofNat (value >>> 8)

def lowByte (value : Nat) : UInt8 := UInt8.ofNat value

-- The loops of the checksums, from offset i on; the word at skip is the checksum's own field.
def sumWords (skip : Option Nat) : Nat → List UInt8 → Nat → Outcome Nat
  | _, [], sum => .ok sum
  | i, [hi], sum => if skip = some i then .ok sum else addU32 sum (halfWord hi)
  | i, hi :: lo :: rest, sum =>
      if skip = some i then sumWords skip (i + 2) rest sum
      else do
        let sum ← addU32 sum (word hi lo)
        sumWords skip (i + 2) rest sum

-- `while (sum >> 16) > 0`
def foldCarries : Nat → Nat → Outcome Nat
  | 0, _ => .error .hang
  | fuel + 1, sum =>
      if sum >>> 16 > 0 then do
        let sum ← addU32 (sum &&& 0xffff) (sum >>> 16)
        foldCarries fuel sum
      else .ok sum

def finishChecksum (sum : Nat) : Outcome UInt16 := do
  let sum ← foldCarries (sum + 1) sum
  .ok (notAsU16 sum)

def calculateIpv4Checksum (header : List UInt8) : Outcome UInt16 := do
  let sum ← sumWords (some 10) 0 header 0
  finishChecksum sum

def calculateIcmpChecksum (data : List UInt8) : Outcome UInt16 := do
  let sum ← sumWords (some 2) 0 data 0
  finishChecksum sum

-- An address of the pseudo-header, of which the loop reads sixteen bytes.
def sumAddress (address : List UInt8) (sum : Nat) : Outcome Nat :=
  if 16 ≤ address.length then sumWords none 0 (address.take 16) sum else .error .panic

def calculateIcmpv6Checksum (src dst icmpData : List UInt8) : Outcome UInt16 := do
  let sum ← sumAddress src 0
  let sum ← sumAddress dst sum
  let len := icmpData.length % 2 ^ 32
  let sum ← addU32 sum (len >>> 16)
  let sum ← addU32 sum (len &&& 0xffff)
  let sum ← addU32 sum 58
  let sum ← sumWords (some 2) 0 icmpData sum
  finishChecksum sum

theorem word_eq (hi lo : UInt8) : word hi lo = hi.toNat * 256 + lo.toNat := by
  rw [word, ← Nat.shiftLeft_add_eq_or_of_lt (i := 8) lo.toNat_lt, Nat.shiftLeft_eq]

theorem halfWord_eq (hi : UInt8) : halfWord hi = hi.toNat * 256 := Nat.shiftLeft_eq _ 8

theorem addU32_ok {a b : Nat} (h : a + b < u32Bound) : addU32 a b = .ok (a + b) := if_pos h

-- Past the field, or without one, every word is added.
theorem sumWords_past {skip : Option Nat} (data : List UInt8) {i sum : Nat}
    (hskip : ∀ k ∈ skip, k < i) (h : sum + OnesComplement.total data < u32Bound) :
    sumWords skip i data sum = .ok (sum + OnesComplement.total data) := by
  induction data using OnesComplement.words.induct generalizing i sum with
  | case1 => rfl
  | case2 hi =>
      have htotal : OnesComplement.total [hi] = hi.toNat * 256 := Nat.add_zero _
      have hi' : skip ≠ some i := fun he => Nat.lt_irrefl i (hskip i he)
      rw [htotal] at h
      rw [sumWords, if_neg hi', halfWord_eq, htotal]
      exact addU32_ok h
  | case3 hi lo rest ih =>
      have hi' : skip ≠ some i := fun he => Nat.lt_irrefl i (hskip i he)
      rw [OnesComplement.total_cons] at h
      have hlt : sum + (hi.toNat * 256 + lo.toNat) < u32Bound :=
        Nat.lt_of_le_of_lt (Nat.add_le_add_left (Nat.le_add_right _ _) sum) h
      have hadd : addU32 sum (hi.toNat * 256 + lo.toNat) =
          .ok (sum + (hi.toNat * 256 + lo.toNat)) := addU32_ok hlt
      have hrest := @ih (i + 2) (sum + (hi.toNat * 256 + lo.toNat))
        (fun k hk => Nat.lt_add_right 2 (hskip k hk)) (by rw [Nat.add_assoc]; exact h)
      rw [sumWords, if_neg hi', word_eq, hadd, Outcome.ok_bind, hrest, OnesComplement.total_cons,
        Nat.add_assoc]

theorem sumWords_skip {a b : List UInt8} {x y : UInt8} {i sum : Nat} (ha : a.length % 2 = 0)
    (h : sum + OnesComplement.total a + OnesComplement.total b < u32Bound) :
    sumWords (some (i + a.length)) i (a ++ x :: y :: b) sum =
      .ok (sum + OnesComplement.total a + OnesComplement.total b) := by
  induction a using OnesComplement.words.induct generalizing i sum with
  | case1 =>
      have hpast : sumWords (some i) (i + 2) b sum = .ok (sum + OnesComplement.total b) :=
        sumWords_past b (fun k hk => by cases hk; omega)
          (Nat.lt_of_le_of_lt (Nat.add_le_add_right (Nat.le_add_right ..) _) h)
      exact (if_pos rfl).trans hpast
  | case2 hi => simp at ha
  | case3 hi lo rest ih =>
      have hrest : rest.length % 2 = 0 := by
        simp only [List.length_cons] at ha
        omega
      have hi' : some (i + (hi :: lo :: rest).length) ≠ some i := by
        simp
      have hlen : i + (hi :: lo :: rest).length = i + 2 + rest.length := by
        simp only [List.length_cons]
        omega
      rw [OnesComplement.total_cons] at h
      have hadd : addU32 sum (hi.toNat * 256 + lo.toNat) =
          .ok (sum + (hi.toNat * 256 + lo.toNat)) := addU32_ok (by omega)
      have htail := @ih (i + 2) (sum + (hi.toNat * 256 + lo.toNat)) hrest (by omega)
      rw [List.cons_append, List.cons_append, sumWords, if_neg hi', word_eq, hadd,
        Outcome.ok_bind, hlen, htail, OnesComplement.total_cons, Nat.add_assoc sum]

theorem foldCarries_ok {fuel sum : Nat} (hf : sum < fuel) (hs : sum < u32Bound) :
    foldCarries fuel sum = .ok (OnesComplement.residue sum) := by
  have hbound : u32Bound = 4294967296 := rfl
  induction fuel generalizing sum with
  | zero => omega
  | succ fuel ih =>
      have hhigh : sum >>> 16 = sum / 65536 := Nat.shiftRight_eq_div_pow sum 16
      have hlow : sum &&& 0xffff = sum % 65536 := Nat.and_two_pow_sub_one_eq_mod sum 16
      rw [foldCarries, hhigh, hlow]
      by_cases hcarry : sum / 65536 > 0
      · have hadd : addU32 (sum % 65536) (sum / 65536) = .ok (sum % 65536 + sum / 65536) :=
          addU32_ok (by omega)
        rw [if_pos hcarry, hadd, Outcome.ok_bind, ih (by omega) (by omega)]
        simp only [OnesComplement.residue]
        congr 1
        split_ifs <;> omega
      · rw [if_neg hcarry, OnesComplement.residue_of_le (by omega)]

theorem finishChecksum_ok {sum : Nat} (hs : sum < u32Bound) :
    finishChecksum sum = .ok (UInt16.ofNat (OnesComplement.complement sum)) := by
  have hle := OnesComplement.residue_le sum
  have hbound : u32Bound = 4294967296 := rfl
  rw [finishChecksum, foldCarries_ok (Nat.lt_succ_self sum) hs, Outcome.ok_bind, notAsU16,
    OnesComplement.complement]
  congr 1
  refine UInt16.toNat_inj.mp ?_
  simp only [UInt16.toNat_ofNat']
  omega

def putU16 (packet : List UInt8) (i : Nat) (value : UInt16) : List UInt8 :=
  (packet.set i (highByte value.toNat)).set (i + 1) (lowByte value.toNat)

-- What the words around the field at offset k add up to.
def totalAround (k : Nat) (data : List UInt8) : Nat :=
  OnesComplement.total (data.take k) + OnesComplement.total (data.drop (k + 2))

theorem split_field {data : List UInt8} {k : Nat} (h : k + 2 ≤ data.length) :
    ∃ x y, data = data.take k ++ x :: y :: data.drop (k + 2) := by
  have hx : k < data.length := by omega
  have hy : k + 1 < data.length := by omega
  refine ⟨data[k], data[k + 1], ?_⟩
  rw [← List.drop_eq_getElem_cons hy, ← List.drop_eq_getElem_cons hx, List.take_append_drop]

theorem sumWords_field {data : List UInt8} {k sum : Nat} (hk : k % 2 = 0)
    (hlen : k + 2 ≤ data.length) (h : sum + totalAround k data < u32Bound) :
    sumWords (some k) 0 data sum = .ok (sum + totalAround k data) := by
  obtain ⟨x, y, hdata⟩ := split_field hlen
  have htake : (data.take k).length = k := List.length_take_of_le (by omega)
  have hskip : sumWords (some (0 + (data.take k).length)) 0
      (data.take k ++ x :: y :: data.drop (k + 2)) sum = _ :=
    sumWords_skip (by rw [htake]; exact hk) (by rw [Nat.add_assoc]; exact h)
  rw [htake, Nat.zero_add, ← hdata, Nat.add_assoc] at hskip
  exact hskip

theorem putU16_eq {data : List UInt8} {k : Nat} (h : k + 2 ≤ data.length) (value : UInt16) :
    putU16 data k value =
      data.take k ++ highByte value.toNat :: lowByte value.toNat :: data.drop (k + 2) := by
  obtain ⟨x, y, hdata⟩ := split_field h
  have htake : (data.take k).length = k := List.length_take_of_le (by omega)
  have hset : putU16 (data.take k ++ x :: y :: data.drop (k + 2)) k value =
      data.take k ++ highByte value.toNat :: lowByte value.toNat :: data.drop (k + 2) := by
    simp only [putU16, List.set_append, htake, Nat.lt_irrefl, if_false, Nat.sub_self,
      List.set_cons_zero, Nat.not_succ_lt_self, Nat.add_sub_cancel_left, List.set_cons_succ]
  rw [← hdata] at hset
  exact hset

@[simp] theorem length_putU16 (packet : List UInt8) (i : Nat) (value : UInt16) :
    (putU16 packet i value).length = packet.length := by
  simp only [putU16, List.length_set]

theorem getElem?_putU16 (packet : List UInt8) {i j : Nat} (value : UInt16) (h : j ≠ i)
    (h' : j ≠ i + 1) : (putU16 packet i value)[j]? = packet[j]? := by
  rw [putU16, List.getElem?_set_ne (Ne.symm h'), List.getElem?_set_ne (Ne.symm h)]

theorem u16_of_bytes {n : Nat} (h : n < 65536) :
    (highByte n).toNat * 256 + (lowByte n).toNat = n := by
  simp only [highByte, lowByte, UInt8.toNat_ofNat', Nat.shiftRight_eq_div_pow]
  omega

theorem total_putU16 {data : List UInt8} {k : Nat} (hk : k % 2 = 0) (h : k + 2 ≤ data.length)
    (value : UInt16) :
    OnesComplement.total (putU16 data k value) = totalAround k data + value.toNat := by
  have htake : (data.take k).length = k := List.length_take_of_le (by omega)
  rw [putU16_eq h, OnesComplement.total_append (by rw [htake]; exact hk),
    OnesComplement.total_cons, u16_of_bytes value.toNat_lt, totalAround]
  exact Nat.add_left_comm _ _ _ |>.trans (Nat.add_comm _ _)

-- The checksum in its place makes the message verify.
theorem verifies_putU16 (data : List UInt8) (k extra : Nat) (hk : k % 2 = 0)
    (h : k + 2 ≤ data.length) (hpos : 0 < extra + totalAround k data) :
    0 < extra + OnesComplement.total
        (putU16 data k (UInt16.ofNat (OnesComplement.complement (extra + totalAround k data)))) ∧
      (extra + OnesComplement.total
        (putU16 data k (UInt16.ofNat (OnesComplement.complement (extra + totalAround k data))))) %
        65535 = 0 := by
  have hle : OnesComplement.complement (extra + totalAround k data) < 2 ^ 16 :=
    Nat.lt_of_le_of_lt (Nat.sub_le _ _) (by decide)
  rw [total_putU16 hk h, UInt16.toNat_ofNat_of_lt' hle, ← Nat.add_assoc]
  exact OnesComplement.add_complement _ hpos

end Usque
