import Mathlib.Data.Nat.Bitwise
import Mathlib.Data.List.TakeDrop

-- Variable-length integers whose first two bits say how many bytes they have.
namespace Varint

def number (bytes : List UInt8) : Nat := bytes.foldl (fun n b => n * 256 + b.toNat) 0

def width (first : UInt8) : Nat := 2 ^ (first.toNat / 64)

def next (buf : List UInt8) : Option (Nat × List UInt8) :=
  match buf with
  | [] => none
  | first :: _ =>
      if buf.length < width first then none
      else
        some (number (buf.take (width first)) % 2 ^ (8 * width first - 2),
          buf.drop (width first))

structure Encodes (n : Nat) (bytes : List UInt8) : Prop where
  ne_nil : bytes ≠ []
  length : ∀ first ∈ bytes.head?, bytes.length = width first
  value : n = number bytes % 2 ^ (8 * bytes.length - 2)

theorem foldl_number (bytes : List UInt8) :
    ∀ n : Nat, bytes.foldl (fun n b => n * 256 + b.toNat) n =
      n * 256 ^ bytes.length + number bytes := by
  induction bytes with
  | nil => intro n; simp [number]
  | cons b bs ih =>
      intro n
      rw [number, List.foldl_cons, List.foldl_cons, ih, ih (0 * 256 + b.toNat), List.length_cons,
        Nat.pow_succ, Nat.add_mul, Nat.add_mul]
      simp only [Nat.zero_mul, Nat.zero_add, Nat.add_assoc, Nat.mul_assoc,
        Nat.mul_comm 256 (256 ^ bs.length)]

theorem number_cons (b : UInt8) (bs : List UInt8) :
    number (b :: bs) = b.toNat * 256 ^ bs.length + number bs := by
  rw [number, List.foldl_cons, foldl_number, Nat.zero_mul, Nat.zero_add]

theorem number_lt (bytes : List UInt8) : number bytes < 256 ^ bytes.length := by
  induction bytes with
  | nil => decide
  | cons b bs ih =>
      have hb := b.toNat_lt
      have hle : b.toNat * 256 ^ bs.length ≤ 255 * 256 ^ bs.length :=
        Nat.mul_le_mul_right _ (by omega)
      rw [number_cons, List.length_cons, Nat.pow_succ]
      omega

theorem width_pos (first : UInt8) : 0 < width first := Nat.two_pow_pos _

theorem width_le (first : UInt8) : width first ≤ 8 := by
  have hb := first.toNat_lt
  have hq : first.toNat / 64 ≤ 3 := by omega
  exact Nat.pow_le_pow_right (by decide) hq

theorem Encodes.lt {n : Nat} {bytes : List UInt8} (h : Encodes n bytes) :
    n < 2 ^ (8 * bytes.length - 2) := by
  rw [h.value]
  exact Nat.mod_lt _ (Nat.two_pow_pos _)

-- The two bits of a length and below them the value.
theorem encodes_of_number {bytes : List UInt8} {t n : Nat} (hlen : bytes.length = 2 ^ t)
    (hn : n < 2 ^ (8 * bytes.length - 2))
    (hnumber : number bytes = t * 2 ^ (8 * bytes.length - 2) + n) : Encodes n bytes := by
  cases bytes with
  | nil => exact absurd hlen.symm (Nat.ne_of_gt (Nat.two_pow_pos t))
  | cons first tail =>
      have hbits : 2 ^ (8 * (first :: tail).length - 2) = 64 * 256 ^ tail.length := by
        rw [List.length_cons, show 8 * (tail.length + 1) - 2 = 6 + 8 * tail.length by omega,
          Nat.pow_add, Nat.pow_mul]
      have htag : first.toNat / 64 = t := by
        have htail := number_lt tail
        rw [hbits] at hn hnumber
        rw [number_cons] at hnumber
        have hpos : 0 < 256 ^ tail.length := Nat.pow_pos (by decide)
        have hfirst : first.toNat = (number (first :: tail)) / 256 ^ tail.length := by
          rw [number_cons, Nat.add_comm, Nat.add_mul_div_right _ _ hpos, Nat.div_eq_of_lt htail,
            Nat.zero_add]
        rw [hfirst, Nat.div_div_eq_div_mul, Nat.mul_comm _ 64, number_cons, hnumber, Nat.add_comm,
          Nat.add_mul_div_right _ _ (by omega), Nat.div_eq_of_lt hn, Nat.zero_add]
      refine ⟨List.cons_ne_nil _ _, ?_, ?_⟩
      · rintro _ ⟨⟩
        rw [hlen, width, htag]
      · rw [hnumber, Nat.add_comm, Nat.add_mul_mod_self_right, Nat.mod_eq_of_lt hn]

theorem next_encodes {buf rest : List UInt8} {n : Nat} (h : next buf = some (n, rest)) :
    ∃ bytes, Encodes n bytes ∧ buf = bytes ++ rest := by
  cases buf with
  | nil => cases h
  | cons first tail =>
      simp only [next] at h
      split at h
      · cases h
      · next hlen =>
          cases h
          have hle : width first ≤ (first :: tail).length := Nat.le_of_not_lt hlen
          have htake : ((first :: tail).take (width first)).length = width first :=
            List.length_take_of_le hle
          have hpos := width_pos first
          refine ⟨(first :: tail).take (width first), ⟨?_, ?_, ?_⟩, (List.take_append_drop ..).symm⟩
          · exact List.ne_nil_of_length_pos (htake.symm ▸ hpos)
          · intro b hb
            rw [List.head?_take, if_neg (Nat.ne_of_gt hpos)] at hb
            cases hb
            exact htake
          · rw [htake]

theorem next_of_encodes {bytes : List UInt8} {n : Nat} (h : Encodes n bytes)
    (rest : List UInt8) : next (bytes ++ rest) = some (n, rest) := by
  cases bytes with
  | nil => exact absurd rfl h.ne_nil
  | cons first tail =>
      have hw : (first :: tail).length = width first := h.length first rfl
      have hv := h.value
      rw [hw] at hv
      simp only [next, List.cons_append]
      rw [← List.cons_append, if_neg (by rw [List.length_append]; omega), ← hw,
        List.take_left, List.drop_left, hw, ← hv]

theorem next_iff {buf rest : List UInt8} {n : Nat} :
    next buf = some (n, rest) ↔ ∃ bytes, Encodes n bytes ∧ buf = bytes ++ rest := by
  constructor
  · exact next_encodes
  · rintro ⟨bytes, hb, rfl⟩
    exact next_of_encodes hb rest

theorem next_length {buf rest : List UInt8} {n : Nat} (h : next buf = some (n, rest)) :
    rest.length < buf.length ∧ buf.length ≤ rest.length + 8 := by
  obtain ⟨bytes, hb, rfl⟩ := next_encodes h
  have hpos := List.length_pos_iff.mpr hb.ne_nil
  have hle : bytes.length ≤ 8 := by
    obtain ⟨first, tail, rfl⟩ := List.exists_cons_of_ne_nil hb.ne_nil
    rw [hb.length first rfl]
    exact width_le first
  rw [List.length_append]
  omega

theorem next_lt {buf rest : List UInt8} {n : Nat} (h : next buf = some (n, rest)) :
    n < 2 ^ 62 := by
  obtain ⟨bytes, hb, rfl⟩ := next_encodes h
  obtain ⟨first, tail, rfl⟩ := List.exists_cons_of_ne_nil hb.ne_nil
  have hle := width_le first
  rw [← hb.length first rfl] at hle
  rw [hb.value]
  refine Nat.lt_of_lt_of_le (Nat.mod_lt _ (Nat.two_pow_pos _)) ?_
  exact Nat.pow_le_pow_right (by decide) (by omega)

end Varint
