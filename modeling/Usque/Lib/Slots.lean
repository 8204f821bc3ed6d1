import Mathlib.Data.List.Basic
import Mathlib.Tactic.SplitIfs

structure Slots (α : Type) where
  cells : List (Option α)
deriving DecidableEq

namespace Slots

variable {α : Type}

def empty : Slots α := ⟨[]⟩

def get? (s : Slots α) (i : Nat) : Option α := s.cells[i]?.join

def freeIn : List (Option α) → Nat
  | [] => 0
  | none :: _ => 0
  | some _ :: cs => freeIn cs + 1

def addIn (a : α) : List (Option α) → List (Option α)
  | [] => [some a]
  | none :: cs => some a :: cs
  | some b :: cs => some b :: addIn a cs

def lowestFree (s : Slots α) : Nat := freeIn s.cells

def add (s : Slots α) (a : α) : Slots α := ⟨addIn a s.cells⟩

def remove (s : Slots α) (i : Nat) : Slots α := ⟨s.cells.set i none⟩

def put (s : Slots α) (i : Nat) (a : α) : Slots α := ⟨s.cells.set i (some a)⟩

@[simp] theorem get?_empty (i : Nat) : (empty : Slots α).get? i = none := by
  simp [get?, empty]

theorem freeIn_get (cs : List (Option α)) : cs[freeIn cs]?.join = none := by
  induction cs with
  | nil => simp
  | cons c cs ih =>
      cases c with
      | none => simp [freeIn]
      | some b => simpa [freeIn] using ih

theorem addIn_get (a : α) (cs : List (Option α)) (i : Nat) :
    (addIn a cs)[i]?.join = if i = freeIn cs then some a else cs[i]?.join := by
  induction cs generalizing i with
  | nil => cases i <;> simp [addIn, freeIn]
  | cons c cs ih =>
      cases c with
      | none => cases i <;> simp [addIn, freeIn]
      | some b =>
          cases i with
          | zero => simp [addIn, freeIn]
          | succ i => simpa [addIn, freeIn] using ih i

@[simp] theorem get?_lowestFree (s : Slots α) : s.get? s.lowestFree = none :=
  freeIn_get s.cells

theorem get?_add (s : Slots α) (a : α) (i : Nat) :
    (s.add a).get? i = if i = s.lowestFree then some a else s.get? i :=
  addIn_get a s.cells i

theorem join_set (cs : List (Option α)) (i j : Nat) (c : Option α) (h : i < cs.length ∨ c = none) :
    (cs.set i c)[j]?.join = if j = i then c else cs[j]?.join := by
  by_cases hj : j = i
  · subst hj
    rcases h with h | h
    · simp [h]
    · subst h
      by_cases hl : j < cs.length
      · simp [hl]
      · simp [Nat.le_of_not_lt hl]
  · simp [List.getElem?_set_ne (Ne.symm hj), hj]

theorem get?_remove (s : Slots α) (i j : Nat) :
    (s.remove i).get? j = if j = i then none else s.get? j :=
  join_set s.cells i j none (.inr rfl)

theorem lt_of_get? {s : Slots α} {i : Nat} {a : α} (h : s.get? i = some a) :
    i < s.cells.length := by
  by_contra hn
  simp [get?, List.getElem?_eq_none (Nat.le_of_not_lt hn)] at h

theorem get?_put {s : Slots α} {i : Nat} {b : α} (h : s.get? i = some b) (a : α) (j : Nat) :
    (s.put i a).get? j = if j = i then some a else s.get? j :=
  join_set s.cells i j (some a) (.inl (lt_of_get? h))

end Slots
