import Mathlib.Algebra.Order.BigOperators.Group.Finset

namespace Backoff

variable {base cap current k n : Nat}

-- A delay that is doubled after each failure, up to a cap.
def next (cap current : Nat) : Nat := min (current * 2) cap

def nth (base cap k : Nat) : Nat := min (base * 2 ^ k) cap

-- What the first `k` delays come to.
def waited (base cap k : Nat) : Nat := ∑ i ∈ Finset.range k, nth base cap i

theorem nth_zero (h : base ≤ cap) : nth base cap 0 = base := by
  rw [nth, Nat.pow_zero, Nat.mul_one, Nat.min_eq_left h]

theorem nth_succ (base cap k : Nat) : nth base cap (k + 1) = next cap (nth base cap k) := by
  rw [next, nth, nth, Nat.pow_succ, ← Nat.mul_assoc]
  omega

theorem nth_le (base cap k : Nat) : nth base cap k ≤ cap := Nat.min_le_right _ _

theorem nth_mono (base cap : Nat) : Monotone (nth base cap) := by
  intro i j hij
  exact min_le_min_right cap (Nat.mul_le_mul_left base (Nat.pow_le_pow_right (by decide) hij))

theorem le_nth (h : base ≤ cap) : base ≤ nth base cap k := by
  have h0 := nth_mono base cap (Nat.zero_le k)
  rwa [nth_zero h] at h0

theorem nth_capped (h : cap ≤ base * 2 ^ n) (hk : n ≤ k) : nth base cap k = cap :=
  Nat.min_eq_right (h.trans (Nat.mul_le_mul_left base (Nat.pow_le_pow_right (by decide) hk)))

theorem iterate_next (h : base ≤ cap) (k : Nat) : (next cap)^[k] base = nth base cap k := by
  induction k with
  | zero => exact (nth_zero h).symm
  | succ k ih => rw [Function.iterate_succ_apply', ih, nth_succ]

@[simp] theorem waited_zero (base cap : Nat) : waited base cap 0 = 0 := rfl

theorem waited_succ (base cap k : Nat) :
    waited base cap (k + 1) = waited base cap k + nth base cap k :=
  Finset.sum_range_succ _ _

theorem waited_mono (base cap : Nat) : Monotone (waited base cap) :=
  monotone_nat_of_le_succ (fun k => by rw [waited_succ]; exact Nat.le_add_right _ _)

-- Once the cap is reached, each further delay is the cap.
theorem waited_capped (h : cap ≤ base * 2 ^ n) (hk : n ≤ k) :
    waited base cap k = waited base cap n + (k - n) * cap := by
  induction k, hk using Nat.le_induction with
  | base => rw [Nat.sub_self, Nat.zero_mul, Nat.add_zero]
  | succ k hk ih =>
      rw [waited_succ, ih, nth_capped h hk, Nat.succ_sub hk, Nat.succ_mul, Nat.add_assoc]

theorem le_of_waited (h : cap ≤ base * 2 ^ n) (hcap : 0 < cap) :
    k ≤ n + waited base cap k / cap := by
  rcases Nat.le_total k n with hk | hk
  · exact hk.trans (Nat.le_add_right _ _)
  · rw [waited_capped h hk, Nat.add_mul_div_right _ _ hcap]
    calc k = n + (k - n) := (Nat.add_sub_of_le hk).symm
      _ ≤ _ := Nat.add_le_add_left (Nat.le_add_left _ _) n

end Backoff
