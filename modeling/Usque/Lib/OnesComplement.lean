import Mathlib.Data.Nat.ModEq
import Mathlib.Algebra.BigOperators.Group.List.Basic

-- Sums of 16-bit words in one's complement: a carry out of the top comes back at the bottom.
namespace OnesComplement

-- The big-endian words of a message; an odd last byte is padded with zero.
def words : List UInt8 → List Nat
  | [] => []
  | [hi] => [hi.toNat * 256]
  | hi :: lo :: rest => (hi.toNat * 256 + lo.toNat) :: words rest

def total (bytes : List UInt8) : Nat := (words bytes).sum

def add (a b : Nat) : Nat := if a + b < 65536 then a + b else a + b - 65535

def sum (bytes : List UInt8) : Nat := (words bytes).foldl add 0

-- A message whose checksum is in place adds up to all ones.
def Verifies (bytes : List UInt8) : Prop := sum bytes = 65535

instance (bytes : List UInt8) : Decidable (Verifies bytes) :=
  inferInstanceAs (Decidable (sum bytes = 65535))

-- The 16-bit value that a sum folds to.
def residue (n : Nat) : Nat := if n = 0 then 0 else (n - 1) % 65535 + 1

theorem residue_le (n : Nat) : residue n ≤ 65535 := by
  simp only [residue]
  split_ifs <;> omega

theorem residue_of_le {n : Nat} (h : n ≤ 65535) : residue n = n := by
  simp only [residue]
  split_ifs <;> omega

theorem residue_mod (n : Nat) : residue n % 65535 = n % 65535 := by
  simp only [residue]
  split_ifs <;> omega

theorem residue_eq_top {n : Nat} : residue n = 65535 ↔ 0 < n ∧ n % 65535 = 0 := by
  simp only [residue]
  split_ifs with h
  · simp [h]
  · omega

theorem add_residue (m n : Nat) (hn : n ≤ 65535) : add (residue m) n = residue (m + n) := by
  simp only [add, residue]
  split_ifs <;> omega

theorem words_le (bytes : List UInt8) : ∀ w ∈ words bytes, w ≤ 65535 := by
  induction bytes using words.induct with
  | case1 => nofun
  | case2 hi =>
      intro w hw
      have := hi.toNat_lt
      rw [words, List.mem_singleton] at hw
      omega
  | case3 hi lo rest ih =>
      intro w hw
      have := hi.toNat_lt
      have := lo.toNat_lt
      rw [words, List.mem_cons] at hw
      rcases hw with rfl | hw
      · omega
      · exact ih w hw

theorem foldl_add (ws : List Nat) (hws : ∀ w ∈ ws, w ≤ 65535) (n : Nat) :
    ws.foldl add (residue n) = residue (n + ws.sum) := by
  induction ws generalizing n with
  | nil => rfl
  | cons w ws ih =>
      rw [List.foldl_cons, add_residue n w (hws w (List.mem_cons_self ..)),
        ih (fun v hv => hws v (List.mem_cons_of_mem _ hv)), List.sum_cons, Nat.add_assoc]

theorem sum_eq (bytes : List UInt8) : sum bytes = residue (total bytes) := by
  have h := foldl_add (words bytes) (words_le bytes) 0
  rw [Nat.zero_add] at h
  exact h

theorem verifies_iff {bytes : List UInt8} :
    Verifies bytes ↔ 0 < total bytes ∧ total bytes % 65535 = 0 := by
  rw [Verifies, sum_eq, residue_eq_top]

theorem total_cons (hi lo : UInt8) (rest : List UInt8) :
    total (hi :: lo :: rest) = hi.toNat * 256 + lo.toNat + total rest := by
  simp only [total, words, List.sum_cons]

theorem total_append {a : List UInt8} (ha : a.length % 2 = 0) (b : List UInt8) :
    total (a ++ b) = total a + total b := by
  induction a using words.induct with
  | case1 => simp [total, words]
  | case2 hi => simp at ha
  | case3 hi lo rest ih =>
      have hrest : rest.length % 2 = 0 := by
        simp only [List.length_cons] at ha
        omega
      rw [List.cons_append, List.cons_append, total_cons, total_cons, ih hrest]
      omega

theorem total_le (bytes : List UInt8) : total bytes ≤ bytes.length * 65535 := by
  induction bytes using words.induct with
  | case1 => exact Nat.zero_le _
  | case2 hi =>
      have := hi.toNat_lt
      simp only [total, words, List.sum_cons, List.sum_nil, List.length_singleton]
      omega
  | case3 hi lo rest ih =>
      have := hi.toNat_lt
      have := lo.toNat_lt
      rw [total_cons]
      simp only [List.length_cons]
      omega

-- The field that makes a message verify: the complement of what the rest adds up to.
def complement (n : Nat) : Nat := 65535 - residue n

theorem add_complement (n : Nat) (hn : 0 < n) :
    0 < n + complement n ∧ (n + complement n) % 65535 = 0 := by
  have hle := residue_le n
  have hmod := residue_mod n
  simp only [complement]
  omega

end OnesComplement
