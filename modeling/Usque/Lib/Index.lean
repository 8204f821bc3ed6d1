import Mathlib.Data.Option.Basic
import Mathlib.Tactic.SplitIfs

namespace Index

variable {κ ι : Type} {index index' : κ → Option ι} {keyOf keyOf' : ι → Option κ}

-- The index finds exactly the entries that carry a key.
def Inverse (index : κ → Option ι) (keyOf : ι → Option κ) : Prop :=
  ∀ k i, index k = some i ↔ keyOf i = some k

theorem Inverse.empty : Inverse (fun _ : κ => (none : Option ι)) (fun _ => none) :=
  fun _ _ => ⟨nofun, nofun⟩

theorem Inverse.congr (h : Inverse index keyOf) (hi : ∀ k, index' k = index k)
    (hk : ∀ i, keyOf' i = keyOf i) : Inverse index' keyOf' := by
  intro k i
  rw [hi, hk]
  exact h k i

variable [DecidableEq κ] [DecidableEq ι]

theorem Inverse.insert (h : Inverse index keyOf) {k : κ} {i : ι} (hfree : keyOf i = none)
    (hkey : ∀ j, keyOf j ≠ some k) :
    Inverse (fun l => if l = k then some i else index l)
      (fun j => if j = i then some k else keyOf j) := by
  intro l j
  dsimp only
  by_cases hl : l = k
  · subst hl
    rw [if_pos rfl]
    by_cases hj : j = i
    · rw [hj, if_pos rfl]
      exact iff_of_true rfl rfl
    · rw [if_neg hj]
      exact iff_of_false (fun he => hj (Option.some.inj he).symm) (hkey j)
  · rw [if_neg hl, h]
    by_cases hj : j = i
    · rw [hj, if_pos rfl, hfree]
      exact iff_of_false nofun (fun he => hl (Option.some.inj he).symm)
    · rw [if_neg hj]

theorem Inverse.erase (h : Inverse index keyOf) (i : ι) :
    Inverse (fun k => if keyOf i = some k then none else index k)
      (fun j => if j = i then none else keyOf j) := by
  intro k j
  dsimp only
  by_cases hj : j = i
  · rw [hj, if_pos rfl]
    refine iff_of_false ?_ nofun
    split_ifs with hk
    · nofun
    · exact fun he => hk ((h k i).mp he)
  · rw [if_neg hj]
    split_ifs with hk
    · refine iff_of_false nofun (fun he => hj ?_)
      have hsame := (h k j).mpr he
      rw [(h k i).mpr hk] at hsame
      exact (Option.some.inj hsame).symm
    · exact h k j

end Index
