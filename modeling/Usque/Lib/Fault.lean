import Mathlib.Logic.Basic

inductive Fault where
  | panic
  | hang
deriving DecidableEq, Repr

namespace Result

variable {ε ε' α β : Type} {x : Except ε α}

theorem bind_eq_ok {f : α → Except ε β} {b : β} :
    (x >>= f) = .ok b ↔ ∃ a, x = .ok a ∧ f a = .ok b := by
  cases x with
  | error e => simp [bind, Except.bind]
  | ok a => simp [bind, Except.bind]

@[simp] theorem mapError_error (f : ε → ε') (e : ε) :
    (.error e : Except ε α).mapError f = .error (f e) := rfl

@[simp] theorem mapError_ok (f : ε → ε') (a : α) : (.ok a : Except ε α).mapError f = .ok a := rfl

theorem mapError_eq_ok {f : ε → ε'} {a : α} : x.mapError f = .ok a ↔ x = .ok a := by
  cases x with
  | error e => simp
  | ok b => simp

def error? : Except ε α → Option ε
  | .error e => some e
  | .ok _ => none

theorem error?_eq_some {e : ε} : error? x = some e ↔ x = .error e := by
  cases x with
  | error e' => simp [error?]
  | ok a => simp [error?]

end Result

abbrev Outcome (α : Type) := Except Fault α

namespace Outcome

variable {α β : Type}

theorem bind_eq_ok {x : Outcome α} {f : α → Outcome β} {b : β} :
    (x >>= f) = .ok b ↔ ∃ a, x = .ok a ∧ f a = .ok b :=
  Result.bind_eq_ok

@[simp] theorem ok_bind (a : α) (f : α → Outcome β) : ((.ok a : Outcome α) >>= f) = f a := rfl

@[simp] theorem error_bind (e : Fault) (f : α → Outcome β) :
    ((.error e : Outcome α) >>= f) = .error e := rfl

@[simp] theorem pure_eq (a : α) : (pure a : Outcome α) = .ok a := rfl

@[simp] theorem throw_eq (e : Fault) : (throw e : Outcome α) = .error e := rfl

theorem toOption_eq_some {ε : Type} {x : Except ε α} {a : α} : x.toOption = some a ↔ x = .ok a := by
  cases x with
  | error e => simp [Except.toOption]
  | ok b => simp [Except.toOption]

theorem ok_iff {a b : α} : (Except.ok a : Outcome α) = .ok b ↔ a = b := by simp

def run (f : β → α → Outcome β) : β → List α → Outcome β
  | b, [] => .ok b
  | b, a :: as => f b a >>= fun b' => run f b' as

theorem run_invariant {f : β → α → Outcome β} {P : β → Prop}
    (hf : ∀ b a b', P b → f b a = .ok b' → P b') {b b' : β} {as : List α}
    (h : run f b as = .ok b') (hb : P b) : P b' := by
  induction as generalizing b with
  | nil => exact ok_iff.mp h ▸ hb
  | cons a as ih =>
      obtain ⟨c, hc, hr⟩ := bind_eq_ok.mp h
      exact ih hr (hf b a c hb hc)

def Survives (x : Outcome α) : Prop := x ≠ .error .panic

theorem survives_ok (a : α) : Survives (.ok a) := by simp [Survives]

theorem survives_hang : Survives (.error .hang : Outcome α) := by simp [Survives]

theorem Survives.of_ok {x : Outcome α} (h : ∃ a, x = .ok a) : Survives x := by
  obtain ⟨a, rfl⟩ := h
  exact survives_ok a

theorem Survives.bind {x : Outcome α} {f : α → Outcome β} (hx : Survives x)
    (hf : ∀ a, x = .ok a → Survives (f a)) : Survives (x >>= f) := by
  cases x with
  | ok a => exact hf a rfl
  | error e =>
      cases e with
      | panic => exact absurd rfl hx
      | hang => exact survives_hang

theorem Survives.run {f : β → α → Outcome β} {P : β → List α → Prop}
    (hf : ∀ b a as, P b (a :: as) → Survives (f b a) ∧ ∀ b', f b a = .ok b' → P b' as) {b : β}
    {as : List α} (hb : P b as) : Survives (run f b as) := by
  induction as generalizing b with
  | nil => exact survives_ok b
  | cons a as ih =>
      obtain ⟨hs, hn⟩ := hf b a as hb
      exact hs.bind (fun b' h => ih (hn b' h))

theorem run_append {f : β → α → Outcome β} (b : β) (as bs : List α) :
    run f b (as ++ bs) = run f b as >>= fun c => run f c bs := by
  induction as generalizing b with
  | nil => rfl
  | cons a as ih =>
      simp only [List.cons_append, run]
      cases f b a with
      | error e => rfl
      | ok c => exact ih c

end Outcome
