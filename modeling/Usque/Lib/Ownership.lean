import Mathlib.Data.Set.Basic

structure Ownership (ι ο : Type) where
  slots : ι → Option ο
  refs : Set (ο × ι)

namespace Ownership

variable {ι ο : Type}

-- How a slot's occupant may change in steps that fill or free the slot only if they may.
def Turns (fill free : Prop) (k k' : Option ο) : Prop :=
  k' = k ∨ (fill ∧ k = none) ∨ (free ∧ k' = none) ∨ (fill ∧ free)

namespace Turns

variable {fill free : Prop} {k k' k'' : Option ο}

theorem refl (fill free : Prop) (k : Option ο) : Turns fill free k k := .inl rfl

theorem filled (hf : fill) (hk : k = none) : Turns fill free k k' := .inr (.inl ⟨hf, hk⟩)

theorem freed (hf : free) (hk : k' = none) : Turns fill free k k' := .inr (.inr (.inl ⟨hf, hk⟩))

theorem trans (h : Turns fill free k k') (h' : Turns fill free k' k'') :
    Turns fill free k k'' := by
  simp only [Turns] at *
  grind

theorem cases (hd : ¬ (fill ∧ free)) (h : Turns fill free k k') :
    k' = k ∨ (fill ∧ k = none) ∨ k' = none := by
  rcases h with h | h | h | h
  · exact .inl h
  · exact .inr (.inl h)
  · exact .inr (.inr h.2)
  · exact absurd h hd

-- What once held o is later free or holds o still, unless the slot is filled and freed at once.
theorem of_some (hd : ¬ (fill ∧ free)) {o : ο} (h : Turns fill free (some o) k') :
    k' = some o ∨ (free ∧ k' = none) := by
  rcases h with h | h | h | h
  · exact .inl h
  · cases h.2
  · exact .inr h
  · exact absurd h hd

end Turns

def Fresh (v : Ownership ι ο) (i : ι) : Prop := ∀ o, (o, i) ∉ v.refs

def Respected (v : Ownership ι ο) : Prop :=
  ∀ o i, (o, i) ∈ v.refs → v.slots i = none ∨ v.slots i = some o

structure Evolves (v w : Ownership ι ο) : Prop where
  slots : ∀ i, w.slots i = v.slots i ∨ w.slots i = none ∨ (v.slots i = none ∧ v.Fresh i)
  refs : ∀ o i, (o, i) ∈ w.refs → (o, i) ∈ v.refs ∨ w.slots i = none ∨ w.slots i = some o

theorem Evolves.respected {v w : Ownership ι ο} (h : Evolves v w) (hv : v.Respected) :
    w.Respected := by
  intro o i hr
  rcases h.refs o i hr with hold | hown
  · rcases h.slots i with hs | hs | ⟨_, hf⟩
    · rw [hs]; exact hv o i hold
    · exact .inl hs
    · exact absurd hold (hf o)
  · exact hown

theorem Respected.not_other {v : Ownership ι ο} (hv : v.Respected) {o o' : ο} {i : ι}
    (hr : (o, i) ∈ v.refs) (hs : v.slots i = some o') : o' = o := by
  rcases hv o i hr with h | h
  · simp [h] at hs
  · simpa [h, eq_comm] using hs

end Ownership
