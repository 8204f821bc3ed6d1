import Mathlib.Data.List.Basic

-- A queue between two tasks: what is in it, and whether every sender is gone.
structure Channel (α : Type) where
  queue : List α
  ended : Bool
deriving DecidableEq, Repr

namespace Channel

variable {α : Type} {c d : Channel α} {r : Option α} {x : α}

def empty : Channel α := ⟨[], false⟩

def send (c : Channel α) (x : α) : Option (Channel α) :=
  if c.ended then none else some { c with queue := c.queue ++ [x] }

def finish (c : Channel α) : Channel α := { c with ended := true }

-- none: the receiver waits; some none: the end, seen again by every later call.
def recv (c : Channel α) : Option (Option α × Channel α) :=
  match c.queue with
  | x :: xs => some (some x, { c with queue := xs })
  | [] => if c.ended then some (none, c) else none

def tryRecv (c : Channel α) : Option (α × Channel α) :=
  match c.queue with
  | x :: xs => some (x, { c with queue := xs })
  | [] => none

def Pending (c : Channel α) : Prop := c.queue = [] ∧ c.ended = false

instance [DecidableEq α] (c : Channel α) : Decidable c.Pending :=
  inferInstanceAs (Decidable (_ ∧ _))

theorem send_queue (h : c.send x = some d) : d.queue = c.queue ++ [x] ∧ c.ended = false := by
  unfold send at h
  split at h
  · cases h
  next hended =>
    cases h
    exact ⟨rfl, Bool.eq_false_iff.mpr hended⟩

theorem recv_eq_none : c.recv = none ↔ c.Pending := by
  unfold recv Pending
  cases c.queue with
  | cons x xs => simp only [reduceCtorEq, false_and]
  | nil => cases c.ended <;> simp

theorem recv_cons {xs : List α} (h : c.queue = x :: xs) :
    c.recv = some (some x, { c with queue := xs }) := by
  unfold recv
  rw [h]

theorem recv_ended (hq : c.queue = []) (he : c.ended = true) : c.recv = some (none, c) := by
  unfold recv
  rw [hq]
  exact if_pos he

theorem recv_some (h : c.recv = some (some x, d)) : c.queue = x :: d.queue := by
  unfold recv at h
  split at h
  next hq =>
    cases h
    exact hq
  · split at h <;> cases h

theorem recv_end (h : c.recv = some (none, d)) : d = c ∧ c.queue = [] ∧ c.ended = true := by
  unfold recv at h
  split at h
  · cases h
  next hq =>
    split at h
    next he =>
      cases h
      exact ⟨rfl, hq, he⟩
    · cases h

theorem tryRecv_some (h : c.tryRecv = some (x, d)) : c.queue = x :: d.queue := by
  unfold tryRecv at h
  split at h
  next hq =>
    cases h
    exact hq
  · cases h

end Channel
