import Mathlib.Logic.Function.Basic
import Mathlib.Tactic.SplitIfs

-- A group asks one question of each kind; a query carries one question, an answer records one.
structure Fanout (κ γ τ ρ : Type) where
  queries : κ → Option (γ × τ)
  groups : γ → Option (τ → Option ρ)

namespace Fanout

variable {κ γ τ ρ : Type}

def Outstanding (f : Fanout κ γ τ ρ) (g : γ) (t : τ) : Prop := ∃ k, f.queries k = some (g, t)

-- `P` are the questions that a running step still has to send or to answer itself.
structure Exact (P : γ → τ → Prop) (f : Fanout κ γ τ ρ) : Prop where
  live : ∀ k g t, f.queries k = some (g, t) → f.groups g ≠ none
  unique : ∀ k k' q, f.queries k = some q → f.queries k' = some q → k = k'
  due : ∀ g t, P g t → f.groups g ≠ none ∧ ¬ f.Outstanding g t
  family : ∀ g r t, f.groups g = some r → (r t ≠ none ↔ ¬ (f.Outstanding g t ∨ P g t))

variable {P Q : γ → τ → Prop} {f : Fanout κ γ τ ρ}

theorem Exact.congr (h : Exact P f) (hPQ : ∀ g t, P g t ↔ Q g t) : Exact Q f where
  live := h.live
  unique := h.unique
  due := fun g t hq => h.due g t ((hPQ g t).mpr hq)
  family := fun g r t hg => by
    rw [← hPQ]
    exact h.family g r t hg

-- A live group has, for each kind, a recorded result or one outstanding query, and not both.
theorem Exact.one (h : Exact (fun _ _ => False) f) {g : γ} {r : τ → Option ρ}
    (hg : f.groups g = some r) (t : τ) :
    (r t ≠ none ∧ ∀ k, f.queries k ≠ some (g, t)) ∨
      (r t = none ∧ ∃ k, f.queries k = some (g, t) ∧
        ∀ k', f.queries k' = some (g, t) → k' = k) := by
  have hf := h.family g r t hg
  rw [or_false] at hf
  by_cases ho : f.Outstanding g t
  · obtain ⟨k, hk⟩ := ho
    right
    constructor
    · by_contra hn
      exact hf.mp hn ⟨k, hk⟩
    · exact ⟨k, hk, fun k' hk' => h.unique k' k _ hk' hk⟩
  · left
    exact ⟨hf.mpr ho, fun k hk => ho ⟨k, hk⟩⟩

theorem Exact.not_outstanding_of_result (h : Exact P f) {g : γ} {r : τ → Option ρ} {t : τ}
    (hg : f.groups g = some r) (ht : r t ≠ none) : ¬ f.Outstanding g t ∧ ¬ P g t :=
  not_or.mp ((h.family g r t hg).mp ht)

section ops

variable [DecidableEq κ] [DecidableEq γ] [DecidableEq τ]

def opened (f : Fanout κ γ τ ρ) (g : γ) : Fanout κ γ τ ρ :=
  { f with groups := Function.update f.groups g (some fun _ => none) }

def sent (f : Fanout κ γ τ ρ) (k : κ) (g : γ) (t : τ) : Fanout κ γ τ ρ :=
  { f with queries := Function.update f.queries k (some (g, t)) }

def taken (f : Fanout κ γ τ ρ) (k : κ) : Fanout κ γ τ ρ :=
  { f with queries := Function.update f.queries k none }

def recorded (f : Fanout κ γ τ ρ) (g : γ) (t : τ) (x : ρ) : Fanout κ γ τ ρ :=
  { f with groups := fun i =>
      (f.groups i).map (fun r => if i = g then Function.update r t (some x) else r) }

def closed (f : Fanout κ γ τ ρ) (g : γ) : Fanout κ γ τ ρ where
  queries := fun k => (f.queries k).filter (fun q => q.1 ≠ g)
  groups := Function.update f.groups g none

omit [DecidableEq κ] [DecidableEq τ] in
theorem Exact.opened (h : Exact P f) {g : γ} (hg : f.groups g = none) :
    Exact (fun i t => P i t ∨ i = g) (f.opened g) := by
  have hout : ∀ t, ¬ f.Outstanding g t := by
    rintro t ⟨k, hk⟩
    exact h.live k g t hk hg
  constructor
  · intro k i t hk
    simp only [Fanout.opened, Function.update_apply]
    split_ifs
    · exact Option.some_ne_none _
    · exact h.live k i t hk
  · exact h.unique
  · rintro i t (hp | rfl)
    · obtain ⟨hi, ho⟩ := h.due i t hp
      refine ⟨?_, ho⟩
      simp only [Fanout.opened, Function.update_apply]
      split_ifs
      · exact Option.some_ne_none _
      · exact hi
    · refine ⟨?_, hout t⟩
      simp only [Fanout.opened, Function.update_self]
      exact Option.some_ne_none _
  · intro i r t hi
    simp only [Fanout.opened, Function.update_apply] at hi
    split_ifs at hi with he
    · cases hi
      simp [he]
    · rw [or_comm (a := P i t), show (i = g ∨ P i t) ↔ P i t from or_iff_right he]
      exact h.family i r t hi

theorem Exact.sent (h : Exact P f) {k : κ} {g : γ} {t : τ} (hk : f.queries k = none)
    (hp : P g t) : Exact (fun i u => P i u ∧ ¬ (i = g ∧ u = t)) (f.sent k g t) := by
  obtain ⟨hg, hno⟩ := h.due g t hp
  have hout : ∀ i u, (f.sent k g t).Outstanding i u ↔ f.Outstanding i u ∨ (i = g ∧ u = t) := by
    intro i u
    simp only [Outstanding, Fanout.sent, Function.update_apply]
    constructor
    · rintro ⟨k', hk'⟩
      split_ifs at hk' with he
      · cases hk'
        exact .inr ⟨rfl, rfl⟩
      · exact .inl ⟨k', hk'⟩
    · rintro (⟨k', hk'⟩ | ⟨rfl, rfl⟩)
      · refine ⟨k', ?_⟩
        rw [if_neg, hk']
        rintro rfl
        rw [hk] at hk'
        cases hk'
      · exact ⟨k, if_pos rfl⟩
  constructor
  · intro k' i u hk'
    simp only [Fanout.sent, Function.update_apply] at hk'
    split_ifs at hk'
    · cases hk'
      exact hg
    · exact h.live k' i u hk'
  · intro k₁ k₂ q h₁ h₂
    simp only [Fanout.sent, Function.update_apply] at h₁ h₂
    split_ifs at h₁ h₂ with e₁ e₂ e₂
    · rw [e₁, e₂]
    · cases h₁
      exact absurd ⟨k₂, h₂⟩ hno
    · cases h₂
      exact absurd ⟨k₁, h₁⟩ hno
    · exact h.unique k₁ k₂ q h₁ h₂
  · rintro i u ⟨hpi, hne⟩
    obtain ⟨hi, ho⟩ := h.due i u hpi
    rw [hout]
    exact ⟨hi, not_or.mpr ⟨ho, hne⟩⟩
  · intro i r u hi
    rw [hout, h.family i r u hi]
    by_cases he : i = g ∧ u = t
    · obtain ⟨rfl, rfl⟩ := he
      simp [hp]
    · simp [he]

theorem Exact.taken (h : Exact P f) {k : κ} {g : γ} {t : τ} (hk : f.queries k = some (g, t)) :
    Exact (fun i u => P i u ∨ (i = g ∧ u = t)) (f.taken k) := by
  have hsub : ∀ k' q, (f.taken k).queries k' = some q → f.queries k' = some q ∧ k' ≠ k := by
    intro k' q hk'
    simp only [Fanout.taken, Function.update_apply] at hk'
    split_ifs at hk' with he
    exact ⟨hk', he⟩
  have hout : ∀ i u, (f.taken k).Outstanding i u ↔ f.Outstanding i u ∧ ¬ (i = g ∧ u = t) := by
    intro i u
    constructor
    · rintro ⟨k', hk'⟩
      obtain ⟨hq, hne⟩ := hsub k' _ hk'
      refine ⟨⟨k', hq⟩, ?_⟩
      rintro ⟨rfl, rfl⟩
      exact hne (h.unique k' k _ hq hk)
    · rintro ⟨⟨k', hk'⟩, hne⟩
      refine ⟨k', ?_⟩
      simp only [Fanout.taken, Function.update_apply]
      rw [if_neg, hk']
      rintro rfl
      rw [hk] at hk'
      cases hk'
      exact hne ⟨rfl, rfl⟩
  constructor
  · intro k' i u hk'
    exact h.live k' i u (hsub k' _ hk').1
  · intro k₁ k₂ q h₁ h₂
    exact h.unique k₁ k₂ q (hsub k₁ q h₁).1 (hsub k₂ q h₂).1
  · rintro i u (hp | ⟨rfl, rfl⟩)
    · obtain ⟨hi, ho⟩ := h.due i u hp
      rw [hout]
      exact ⟨hi, fun hx => ho hx.1⟩
    · rw [hout]
      exact ⟨h.live k i u hk, fun hx => hx.2 ⟨rfl, rfl⟩⟩
  · intro i r u hi
    rw [hout, h.family i r u hi]
    by_cases he : i = g ∧ u = t
    · obtain ⟨rfl, rfl⟩ := he
      simp [show f.Outstanding i u from ⟨k, hk⟩]
    · simp [he]

omit [DecidableEq κ] in
theorem Exact.recorded (h : Exact P f) {g : γ} {t : τ} (hp : P g t) (x : ρ) :
    Exact (fun i u => P i u ∧ ¬ (i = g ∧ u = t)) (f.recorded g t x) := by
  have hgroups : ∀ i, (f.recorded g t x).groups i = none ↔ f.groups i = none := by
    intro i
    simp [Fanout.recorded]
  have hout : ∀ i u, (f.recorded g t x).Outstanding i u ↔ f.Outstanding i u := fun _ _ => Iff.rfl
  constructor
  · intro k i u hk
    exact fun hn => h.live k i u hk ((hgroups i).mp hn)
  · exact h.unique
  · rintro i u ⟨hpi, _⟩
    obtain ⟨hi, ho⟩ := h.due i u hpi
    exact ⟨fun hn => hi ((hgroups i).mp hn), ho⟩
  · intro i r u hi
    simp only [Fanout.recorded, Option.map_eq_some_iff] at hi
    obtain ⟨r', hr', hr⟩ := hi
    rw [hout]
    have hfam := h.family i r' u hr'
    by_cases he : i = g
    · subst he
      rw [if_pos rfl] at hr
      subst hr
      by_cases hu : u = t
      · subst hu
        simp [(h.due i u hp).2]
      · simpa [Function.update_of_ne hu, hu] using hfam
    · rw [if_neg he] at hr
      subst hr
      simpa [he] using hfam

omit [DecidableEq κ] [DecidableEq τ] in
theorem Exact.closed (h : Exact P f) {g : γ} (hp : ∀ t, ¬ P g t) : Exact P (f.closed g) := by
  have hsub : ∀ k q, (f.closed g).queries k = some q ↔ f.queries k = some q ∧ q.1 ≠ g := by
    intro k q
    simp [Fanout.closed, Option.filter_eq_some_iff]
  have hout : ∀ i u, (f.closed g).Outstanding i u ↔ f.Outstanding i u ∧ i ≠ g := by
    intro i u
    constructor
    · rintro ⟨k, hk⟩
      exact ⟨⟨k, ((hsub k _).mp hk).1⟩, ((hsub k _).mp hk).2⟩
    · rintro ⟨⟨k, hk⟩, hne⟩
      exact ⟨k, (hsub k _).mpr ⟨hk, hne⟩⟩
  constructor
  · intro k i u hk
    obtain ⟨hq, hne⟩ := (hsub k _).mp hk
    simp only [Fanout.closed, Function.update_of_ne hne]
    exact h.live k i u hq
  · intro k₁ k₂ q h₁ h₂
    exact h.unique k₁ k₂ q ((hsub k₁ q).mp h₁).1 ((hsub k₂ q).mp h₂).1
  · intro i u hpi
    have hne : i ≠ g := by
      rintro rfl
      exact hp u hpi
    obtain ⟨hi, ho⟩ := h.due i u hpi
    rw [hout]
    refine ⟨?_, fun hx => ho hx.1⟩
    simp only [Fanout.closed, Function.update_of_ne hne]
    exact hi
  · intro i r u hi
    simp only [Fanout.closed, Function.update_apply] at hi
    split_ifs at hi with he
    rw [hout, h.family i r u hi]
    simp [he]

section all

variable {R : τ → ρ → Prop}

def All (R : τ → ρ → Prop) (f : Fanout κ γ τ ρ) : Prop :=
  ∀ g r t x, f.groups g = some r → r t = some x → R t x

omit [DecidableEq κ] [DecidableEq τ] in
theorem All.opened (h : All R f) (g : γ) : All R (f.opened g) := by
  intro i r t x hi hx
  simp only [Fanout.opened, Function.update_apply] at hi
  split_ifs at hi
  · cases hi
    cases hx
  · exact h i r t x hi hx

omit [DecidableEq κ] in
theorem All.recorded (h : All R f) (g : γ) {t : τ} {x : ρ} (hx : R t x) :
    All R (f.recorded g t x) := by
  intro i r u y hi hy
  simp only [Fanout.recorded, Option.map_eq_some_iff] at hi
  obtain ⟨r', hr', rfl⟩ := hi
  split_ifs at hy with hg
  · rw [Function.update_apply] at hy
    split_ifs at hy with hu
    · cases hy
      exact hu ▸ hx
    · exact h i r' u y hr' hy
  · exact h i r' u y hr' hy

omit [DecidableEq κ] [DecidableEq τ] in
theorem All.closed (h : All R f) (g : γ) : All R (f.closed g) := by
  intro i r t x hi hx
  simp only [Fanout.closed, Function.update_apply] at hi
  split_ifs at hi
  exact h i r t x hi hx

end all

end ops

end Fanout
