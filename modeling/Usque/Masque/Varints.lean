import Mathlib.Order.Bounds.Basic
import Usque.Masque.CapsuleOffsets
import Usque.Masque.Connect

namespace Usque

def toBeBytes (value : UInt64) : List UInt8 :=
  [(value >>> 56).toUInt8, (value >>> 48).toUInt8, (value >>> 40).toUInt8, (value >>> 32).toUInt8,
    (value >>> 24).toUInt8, (value >>> 16).toUInt8, (value >>> 8).toUInt8, value.toUInt8]

-- The encoder that the tests of the control stream write their capsules with.
def encodeVarint (value : UInt64) : List UInt8 :=
  if value < 64 then [value.toUInt8]
  else if value < 16384 then (toBeBytes (value ||| 0x4000)).drop 6
  else if value < 1073741824 then (toBeBytes (value ||| 0x80000000)).drop 4
  else toBeBytes (value ||| 0xc000000000000000)

section encoding

theorem toNat_byte (value k : UInt64) (hk : k.toNat < 64) :
    (value >>> k).toUInt8.toNat = value.toNat / 2 ^ k.toNat % 256 := by
  rw [UInt64.toNat_toUInt8, UInt64.toNat_shiftRight, Nat.mod_eq_of_lt hk,
    Nat.shiftRight_eq_div_pow]

theorem number_toBeBytes_two (value : UInt64) :
    Varint.number ((toBeBytes value).drop 6) = value.toNat % 2 ^ 16 := by
  have h₁ := toNat_byte value 8 (by decide)
  have h₀ : value.toUInt8.toNat = value.toNat % 256 := UInt64.toNat_toUInt8 value
  simp only [toBeBytes, List.drop_succ_cons, List.drop_zero, Varint.number, List.foldl_cons,
    List.foldl_nil, h₀, h₁, UInt64.reduceToNat]
  omega

theorem number_toBeBytes_four (value : UInt64) :
    Varint.number ((toBeBytes value).drop 4) = value.toNat % 2 ^ 32 := by
  have h₃ := toNat_byte value 24 (by decide)
  have h₂ := toNat_byte value 16 (by decide)
  have htail := number_toBeBytes_two value
  simp only [toBeBytes, List.drop_succ_cons, List.drop_zero] at htail ⊢
  rw [Varint.number_cons, Varint.number_cons, htail, h₃, h₂]
  simp only [List.length_cons, List.length_nil, UInt64.reduceToNat]
  omega

theorem number_toBeBytes_eight (value : UInt64) :
    Varint.number (toBeBytes value) = value.toNat := by
  have hlt := value.toNat_lt
  have h₇ := toNat_byte value 56 (by decide)
  have h₆ := toNat_byte value 48 (by decide)
  have h₅ := toNat_byte value 40 (by decide)
  have h₄ := toNat_byte value 32 (by decide)
  have htail := number_toBeBytes_four value
  simp only [toBeBytes, List.drop_succ_cons, List.drop_zero] at htail ⊢
  rw [Varint.number_cons, Varint.number_cons, Varint.number_cons, Varint.number_cons, htail, h₇,
    h₆, h₅, h₄]
  simp only [List.length_cons, List.length_nil, UInt64.reduceToNat]
  omega

theorem toNat_or_tag (value tag : UInt64) {t k : Nat} (htag : tag.toNat = t * 2 ^ k)
    (h : value.toNat < 2 ^ k) : (value ||| tag).toNat = t * 2 ^ k + value.toNat := by
  rw [UInt64.toNat_or, htag, Nat.or_comm, ← Nat.shiftLeft_eq, Nat.shiftLeft_add_eq_or_of_lt h]

theorem encodes_tagged {bytes : List UInt8} {t k n : Nat} (hlen : bytes.length = 2 ^ t)
    (hk : k = 8 * 2 ^ t - 2) (hn : n < 2 ^ k) (hnumber : Varint.number bytes = t * 2 ^ k + n) :
    Varint.Encodes n bytes := by
  rw [hk, ← hlen] at hn hnumber
  exact Varint.encodes_of_number hlen hn hnumber

theorem encodeVarint_encodes {value : UInt64} (h : value.toNat < 2 ^ 62) :
    Varint.Encodes value.toNat (encodeVarint value) ∧
      (encodeVarint value).length = varintLen value := by
  simp only [encodeVarint, varintLen, UInt64.lt_iff_toNat_lt, UInt64.reduceToNat]
  by_cases h₁ : value.toNat < 64
  · have hbyte : value.toUInt8.toNat = value.toNat := by
      rw [UInt64.toNat_toUInt8]
      omega
    rw [if_pos h₁, if_pos h₁]
    refine ⟨encodes_tagged (t := 0) (k := 6) rfl rfl (by omega) ?_, rfl⟩
    rw [Varint.number_cons, hbyte]
    simp [Varint.number]
  · by_cases h₂ : value.toNat < 16384
    · rw [if_neg h₁, if_neg h₁, if_pos h₂, if_pos h₂]
      refine ⟨encodes_tagged (t := 1) (k := 14) rfl rfl (by omega) ?_, rfl⟩
      have htag := toNat_or_tag value 0x4000 (t := 1) (k := 14) rfl (by omega)
      rw [number_toBeBytes_two, htag]
      exact Nat.mod_eq_of_lt (by omega)
    · by_cases h₃ : value.toNat < 1073741824
      · rw [if_neg h₁, if_neg h₁, if_neg h₂, if_neg h₂, if_pos h₃, if_pos h₃]
        refine ⟨encodes_tagged (t := 2) (k := 30) rfl rfl (by omega) ?_, rfl⟩
        have htag := toNat_or_tag value 0x80000000 (t := 2) (k := 30) rfl (by omega)
        rw [number_toBeBytes_four, htag]
        exact Nat.mod_eq_of_lt (by omega)
      · rw [if_neg h₁, if_neg h₁, if_neg h₂, if_neg h₂, if_neg h₃, if_neg h₃]
        refine ⟨encodes_tagged (t := 3) (k := 62) rfl rfl h ?_, rfl⟩
        rw [number_toBeBytes_eight]
        exact toNat_or_tag value 0xc000000000000000 (t := 3) rfl h

end encoding

theorem varintLen_le {value : UInt64} {bytes : List UInt8}
    (h : Varint.Encodes value.toNat bytes) : varintLen value ≤ bytes.length := by
  have hlt := h.lt
  obtain ⟨first, tail, rfl⟩ := List.exists_cons_of_ne_nil h.ne_nil
  have hfirst := first.toNat_lt
  have hwidth : (first :: tail).length = 2 ^ (first.toNat / 64) := h.length first rfl
  have ht : first.toNat / 64 ≤ 3 := by omega
  simp only [varintLen, UInt64.lt_iff_toNat_lt, UInt64.reduceToNat]
  rw [hwidth] at hlt ⊢
  interval_cases first.toNat / 64 <;>
    simp only [Nat.reducePow, Nat.reduceMul, Nat.reduceSub] at hlt ⊢ <;> split_ifs <;> omega

theorem varintLen_least {value : UInt64} (h : value.toNat < 2 ^ 62) :
    IsLeast {n | ∃ bytes, Varint.Encodes value.toNat bytes ∧ bytes.length = n}
      (varintLen value) := by
  obtain ⟨henc, hlen⟩ := encodeVarint_encodes h
  refine ⟨⟨encodeVarint value, henc, hlen⟩, ?_⟩
  rintro _ ⟨bytes, hbytes, rfl⟩
  exact varintLen_le hbytes

theorem decodeVarint_eq_ok {buf : List UInt8} {value : UInt64} {n : Nat} :
    decodeVarint buf = .ok (value, n) ↔
      ∃ first ∈ buf.head?, n = 2 ^ (first.toNat / 64) ∧ n ≤ buf.length ∧
        value.toNat = Varint.number (buf.take n) % 2 ^ (8 * n - 2) := by
  cases buf with
  | nil => simp [decodeVarint]
  | cons first tail =>
      have hwidth : 2 ^ (first.toNat / 64) = Varint.width first := rfl
      simp only [decodeVarint, shift_width, List.head?_cons, Option.mem_some_iff,
        exists_eq_left', hwidth]
      by_cases hlen : (first :: tail).length < Varint.width first
      · rw [if_pos hlen]
        constructor
        · rintro ⟨⟩
        · rintro ⟨rfl, hle, _⟩
          exact absurd hlen (Nat.not_lt.mpr hle)
      · have hle := Nat.le_of_not_lt hlen
        rw [if_neg hlen, Except.ok.injEq, Prod.mk.injEq, ← UInt64.toNat_inj,
          varintValue_number hle]
        constructor
        · rintro ⟨hvalue, rfl⟩
          exact ⟨rfl, hle, hvalue.symm⟩
        · rintro ⟨rfl, _, hvalue⟩
          exact ⟨hvalue.symm, rfl⟩

theorem decodeVarint_take {buf : List UInt8} {value : UInt64} {n : Nat}
    (h : decodeVarint buf = .ok (value, n)) (more : List UInt8) :
    decodeVarint (buf.take n ++ more) = .ok (value, n) := by
  obtain ⟨first, hfirst, hn, hle, hvalue⟩ := decodeVarint_eq_ok.mp h
  have htake : (buf.take n).length = n := List.length_take_of_le hle
  refine decodeVarint_eq_ok.mpr ⟨first, ?_, hn, ?_, ?_⟩
  · have hpos : n ≠ 0 := hn ▸ Nat.ne_of_gt (Nat.two_pow_pos _)
    obtain ⟨tail, rfl⟩ : ∃ tail, buf = first :: tail := by
      cases buf with
      | nil => cases hfirst
      | cons b tail => exact ⟨tail, by rw [Option.mem_some_iff.mp hfirst]⟩
    obtain ⟨m, rfl⟩ := Nat.exists_eq_succ_of_ne_zero hpos
    rfl
  · rw [List.length_append, htake]
    exact Nat.le_add_right ..
  · rw [List.take_append_of_le_length (by rw [htake]), List.take_of_length_le (by rw [htake]),
      hvalue]

theorem decodeVarint_encodeVarint {value : UInt64} (h : value.toNat < 2 ^ 62)
    (rest : List UInt8) :
    decodeVarint (encodeVarint value ++ rest) = .ok (value, varintLen value) := by
  obtain ⟨henc, hlen⟩ := encodeVarint_encodes h
  obtain ⟨value', hdec⟩ := decodeVarint_of_encodes henc rest
  have hnext := Varint.next_of_encodes henc rest
  have hvalue := tryDecodeVarint_some (by rw [tryDecodeVarint, hdec]; rfl)
  rw [hnext, Option.some.injEq, Prod.mk.injEq, UInt64.toNat_inj] at hvalue
  rw [hdec, ← hvalue.1, hlen]

theorem varint_exact :
    (∀ (buf : List UInt8) (value : UInt64) (n : Nat),
      decodeVarintIndexed buf = .ok (.ok (value, n)) ↔
        ∃ first ∈ buf.head?, n = 2 ^ (first.toNat / 64) ∧ n ≤ buf.length ∧
          value.toNat < 2 ^ 62 ∧
          value.toNat = Varint.number (buf.take n) % 2 ^ (8 * n - 2)) ∧
    (∀ (buf : List UInt8) (value : UInt64) (n : Nat),
      decodeVarintIndexed buf = .ok (.ok (value, n)) →
        ∀ more, decodeVarintIndexed (buf.take n ++ more) = .ok (.ok (value, n))) ∧
    ∀ value : UInt64, value.toNat < 2 ^ 62 →
      IsLeast {n | ∃ bytes, Varint.Encodes value.toNat bytes ∧ bytes.length = n}
        (varintLen value) ∧
      (encodeVarint value).length = varintLen value ∧
      ∀ rest,
        decodeVarintIndexed (encodeVarint value ++ rest) = .ok (.ok (value, varintLen value)) := by
  simp only [decodeVarintIndexed_ok, Except.ok.injEq]
  refine ⟨fun buf value n => ?_, fun buf value n h more => decodeVarint_take h more,
    fun value h => ⟨varintLen_least h, (encodeVarint_encodes h).2,
      decodeVarint_encodeVarint h⟩⟩
  constructor
  · intro h
    obtain ⟨first, hfirst, hn, hle, hvalue⟩ := decodeVarint_eq_ok.mp h
    have hnext := tryDecodeVarint_some (by rw [tryDecodeVarint, h]; rfl)
    exact ⟨first, hfirst, hn, hle, Varint.next_lt hnext, hvalue⟩
  · rintro ⟨first, hfirst, hn, hle, _, hvalue⟩
    exact decodeVarint_eq_ok.mpr ⟨first, hfirst, hn, hle, hvalue⟩

end Usque
