import Mathlib.Data.List.Sort

-- Two lists taken in turn, and the stable split of one list into two.
namespace Alternate

variable {α : Type}

def alternate : List α → List α → List α
  | [], ys => ys
  | x :: xs, [] => x :: xs
  | x :: xs, y :: ys => x :: y :: alternate xs ys

@[simp] theorem alternate_nil (xs : List α) : alternate xs [] = xs := by
  cases xs <;> rfl

theorem length_alternate (xs ys : List α) :
    (alternate xs ys).length = xs.length + ys.length := by
  induction xs, ys using alternate.induct with
  | case1 ys => exact (Nat.zero_add _).symm
  | case2 x xs => rfl
  | case3 x xs y ys ih =>
      simp only [alternate, List.length_cons, ih]
      omega

theorem alternate_perm (xs ys : List α) : (alternate xs ys).Perm (xs ++ ys) := by
  induction xs, ys using alternate.induct with
  | case1 ys => exact .refl _
  | case2 x xs => exact .of_eq (List.append_nil _).symm
  | case3 x xs y ys ih =>
      refine .cons x ?_
      exact (ih.cons y).trans List.perm_middle.symm

variable {p : α → Bool} {xs ys : List α}

theorem filter_alternate (hx : ∀ x ∈ xs, p x = true) (hy : ∀ y ∈ ys, p y = false) :
    (alternate xs ys).filter p = xs ∧ (alternate xs ys).filter (!p ·) = ys := by
  have hall : ∀ zs : List α, (∀ z ∈ zs, p z = true) →
      zs.filter p = zs ∧ zs.filter (!p ·) = [] := by
    intro zs hz
    refine ⟨List.filter_eq_self.mpr hz, List.filter_eq_nil_iff.mpr fun z hm => ?_⟩
    rw [hz z hm]
    exact Bool.false_ne_true
  have hnone : ∀ zs : List α, (∀ z ∈ zs, p z = false) →
      zs.filter p = [] ∧ zs.filter (!p ·) = zs := by
    intro zs hz
    refine ⟨List.filter_eq_nil_iff.mpr fun z hm => ?_, List.filter_eq_self.mpr fun z hm => ?_⟩
    · rw [hz z hm]
      exact Bool.false_ne_true
    · rw [hz z hm]
      rfl
  induction xs, ys using alternate.induct with
  | case1 ys => exact hnone ys hy
  | case2 x xs => exact hall (x :: xs) hx
  | case3 x xs y ys ih =>
      obtain ⟨hfirst, hsecond⟩ := ih (fun z hz => hx z (.tail _ hz)) (fun z hz => hy z (.tail _ hz))
      have hpx := hx x (.head _)
      have hpy := hy y (.head _)
      simp only [alternate, List.filter_cons, hpx, hpy, hfirst, hsecond, Bool.not_true,
        Bool.not_false, Bool.false_eq_true, if_true, if_false, and_self]

-- While both lists last they take turns, and then only the longer one is left.
theorem alternate_turns (hx : ∀ x ∈ xs, p x = true) (hy : ∀ y ∈ ys, p y = false) :
    (∀ i, i < 2 * min xs.length ys.length →
      ((alternate xs ys)[i]?).map p = some (decide (i % 2 = 0))) ∧
    ∀ z ∈ (alternate xs ys).drop (2 * min xs.length ys.length),
      p z = decide (ys.length < xs.length) := by
  induction xs, ys using alternate.induct with
  | case1 ys => exact ⟨fun i hi => by simp at hi, fun z hz => hy z (by simpa [alternate] using hz)⟩
  | case2 x xs => exact ⟨fun i hi => by simp at hi, fun z hz => hx z (by simpa using hz)⟩
  | case3 x xs y ys ih =>
      obtain ⟨hturn, hrest⟩ := ih (fun z hz => hx z (.tail _ hz)) (fun z hz => hy z (.tail _ hz))
      have hmin : 2 * min (x :: xs).length (y :: ys).length =
          2 * min xs.length ys.length + 2 := by
        simp only [List.length_cons]
        omega
      rw [hmin]
      constructor
      · intro i hi
        match i with
        | 0 => exact congrArg some (hx x (.head _))
        | 1 => exact congrArg some (hy y (.head _))
        | i + 2 =>
            have hmod : (i + 2) % 2 = i % 2 := Nat.add_mod_right i 2
            rw [hmod]
            exact hturn i (Nat.lt_of_add_lt_add_right hi)
      · intro z hz
        have hlt : (y :: ys).length < (x :: xs).length ↔ ys.length < xs.length :=
          Nat.succ_lt_succ_iff
        simp only [hlt]
        exact hrest z hz

variable (p)

def first (a b : α) : Bool := p a || !p b

theorem first_pairwise {zs : List α} (h : zs.Pairwise (fun a b => first p a b = true)) :
    zs = zs.filter p ++ zs.filter (!p ·) := by
  induction zs with
  | nil => rfl
  | cons z zs ih =>
      obtain ⟨hz, hzs⟩ := List.pairwise_cons.mp h
      cases hpz : p z with
      | true =>
          simp only [List.filter_cons, hpz, Bool.not_true, Bool.false_eq_true, if_true, if_false,
            List.cons_append]
          exact congrArg (z :: ·) (ih hzs)
      | false =>
          have hnone : ∀ w ∈ zs, p w = false := by
            intro w hw
            have hw := hz w hw
            simpa only [first, hpz, Bool.false_or, Bool.not_eq_true'] using hw
          have hp : zs.filter p = [] := List.filter_eq_nil_iff.mpr fun w hw => by
            rw [hnone w hw]
            exact Bool.false_ne_true
          have hall : zs.filter (!p ·) = zs := List.filter_eq_self.mpr fun w hw => by
            rw [hnone w hw]
            rfl
          simp only [List.filter_cons, hpz, Bool.not_false, Bool.false_eq_true, if_true, if_false,
            hp, hall, List.nil_append]

-- A stable sort by a key of two values keeps both parts in their order.
theorem mergeSort_first (zs : List α) :
    zs.mergeSort (first p) = zs.filter p ++ zs.filter (!p ·) := by
  have htrans : ∀ a b c : α, first p a b = true → first p b c = true → first p a c = true := by
    intro a b c
    simp only [first]
    cases p a <;> cases p b <;> cases p c <;> decide
  have htotal : ∀ a b : α, (first p a b || first p b a) = true := by
    intro a b
    simp only [first]
    cases p a <;> cases p b <;> decide
  have hperm := List.mergeSort_perm zs (first p)
  have hkept : ∀ q : α → Bool, (zs.filter q).Pairwise (fun a b => first p a b = true) →
      (zs.mergeSort (first p)).filter q = zs.filter q := by
    intro q hq
    have hsub := (List.sublist_mergeSort htrans htotal hq List.filter_sublist).filter q
    rw [List.filter_filter, List.filter_congr (q := q) (fun a _ => Bool.and_self (q a))] at hsub
    exact (hsub.eq_of_length (hperm.filter q).length_eq.symm).symm
  have hfirst : (zs.filter p).Pairwise (fun a b => first p a b = true) :=
    List.pairwise_of_forall_mem_list fun a ha b _ => by
      simp only [first, (List.mem_filter.mp ha).2, Bool.true_or]
  have hsecond : (zs.filter (!p ·)).Pairwise (fun a b => first p a b = true) :=
    List.pairwise_of_forall_mem_list fun a _ b hb => by
      simp only [first, (List.mem_filter.mp hb).2, Bool.or_true]
  rw [first_pairwise p (List.pairwise_mergeSort htrans htotal zs), hkept p hfirst,
    hkept (!p ·) hsecond]

end Alternate
