import Mathlib.Logic.Relation

namespace Run

variable {σ α : Type}

inductive Reaches (step : σ → α → Option σ) (guard : σ → α → Prop) : σ → σ → Prop where
  | refl (s : σ) : Reaches step guard s s
  | tail {s t u : σ} {a : α} :
      Reaches step guard s t → guard t a → step t a = some u → Reaches step guard s u

abbrev Any : σ → α → Prop := fun _ _ => True

def exec (step : σ → α → Option σ) : σ → List α → Option σ
  | s, [] => some s
  | s, a :: as => (step s a).bind (fun t => exec step t as)

def Guarded (step : σ → α → Option σ) (guard : σ → α → Prop) : σ → List α → Prop
  | _, [] => True
  | s, a :: as => guard s a ∧ ∀ t, step s a = some t → Guarded step guard t as

variable {step : σ → α → Option σ} {guard guard' : σ → α → Prop}

theorem Reaches.trans {s t u : σ} (h : Reaches step guard s t) (k : Reaches step guard t u) :
    Reaches step guard s u := by
  induction k with
  | refl => exact h
  | tail _ hg hs ih => exact ih.tail hg hs

theorem Reaches.single {s t : σ} {a : α} (hg : guard s a) (hs : step s a = some t) :
    Reaches step guard s t :=
  (Reaches.refl s).tail hg hs

theorem Reaches.mono (himp : ∀ s a, guard s a → guard' s a) {s t : σ}
    (h : Reaches step guard s t) : Reaches step guard' s t := by
  induction h with
  | refl => exact .refl _
  | tail _ hg hs ih => exact ih.tail (himp _ _ hg) hs

theorem Reaches.any {s t : σ} (h : Reaches step guard s t) : Reaches step Any s t :=
  h.mono (fun _ _ _ => trivial)

theorem Reaches.invariant {I : σ → Prop}
    (hstep : ∀ s a t, I s → guard s a → step s a = some t → I t) {s t : σ}
    (h : Reaches step guard s t) (hs : I s) : I t := by
  induction h with
  | refl => exact hs
  | tail _ hg ht ih => exact hstep _ _ _ ih hg ht

-- Each step is seen by another system as steps of its own, perhaps none.
theorem Reaches.map {τ β : Type} {step' : τ → β → Option τ} {guard' : τ → β → Prop} {f : σ → τ}
    (hstep : ∀ s a t, guard s a → step s a = some t → Reaches step' guard' (f s) (f t)) {s t : σ}
    (h : Reaches step guard s t) : Reaches step' guard' (f s) (f t) := by
  induction h with
  | refl => exact .refl _
  | tail _ hg ht ih => exact ih.trans (hstep _ _ _ hg ht)

theorem exec_guarded {s t : σ} {as : List α} (h : exec step s as = some t)
    (hg : Guarded step guard s as) : Reaches step guard s t := by
  induction as generalizing s with
  | nil =>
      simp only [exec, Option.some.injEq] at h
      exact h ▸ .refl s
  | cons a as ih =>
      simp only [exec, Option.bind_eq_some_iff] at h
      obtain ⟨u, hu, ht⟩ := h
      exact (Reaches.single hg.1 hu).trans (ih ht (hg.2 u hu))

instance decidableGuarded [hd : ∀ s a, Decidable (guard s a)] :
    (s : σ) → (as : List α) → Decidable (Guarded step guard s as)
  | _, [] => .isTrue trivial
  | s, a :: as =>
      have : Decidable (∀ t, step s a = some t → Guarded step guard t as) :=
        match step s a with
        | none => .isTrue (fun _ h => by cases h)
        | some t =>
            have := decidableGuarded t as
            decidable_of_iff (Guarded step guard t as)
              ⟨fun h _ ht => Option.some.inj ht ▸ h, fun h => h t rfl⟩
      inferInstanceAs (Decidable (_ ∧ _))

theorem guarded_any (step : σ → α → Option σ) (s : σ) (as : List α) :
    Guarded step Any s as := by
  induction as generalizing s with
  | nil => trivial
  | cons a as ih => exact ⟨trivial, fun t _ => ih t⟩

theorem exec_reaches {s t : σ} {as : List α} (h : exec step s as = some t) :
    Reaches step Any s t :=
  exec_guarded h (guarded_any step s as)

end Run
