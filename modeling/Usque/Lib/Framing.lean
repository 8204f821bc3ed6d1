import Mathlib.Data.List.Basic

-- Frames cut off the front of a stream that arrives in pieces.
structure Framing (α β : Type) where
  next : List α → Option (β × List α)
  shorter : ∀ {buf rest frame}, next buf = some (frame, rest) → rest.length < buf.length
  stable : ∀ {buf rest frame} more, next buf = some (frame, rest) →
    next (buf ++ more) = some (frame, rest ++ more)

namespace Framing

variable {α β σ ε : Type} (F : Framing α β)

def frames (buf : List α) : List β × List α :=
  match h : F.next buf with
  | none => ([], buf)
  | some (frame, rest) =>
      have := F.shorter h
      (frame :: (frames rest).1, (frames rest).2)
termination_by buf.length

variable {F}

theorem frames_none {buf : List α} (h : F.next buf = none) : F.frames buf = ([], buf) := by
  rw [frames]
  split
  · rfl
  · next hs =>
      rw [h] at hs
      cases hs

theorem frames_some {buf rest : List α} {frame : β} (h : F.next buf = some (frame, rest)) :
    F.frames buf = (frame :: (F.frames rest).1, (F.frames rest).2) := by
  rw [frames]
  split
  · next hs =>
      rw [h] at hs
      cases hs
  · next hs =>
      rw [h] at hs
      cases hs
      rfl

theorem frames_append (buf more : List α) :
    F.frames (buf ++ more) =
      ((F.frames buf).1 ++ (F.frames ((F.frames buf).2 ++ more)).1,
        (F.frames ((F.frames buf).2 ++ more)).2) := by
  induction hn : buf.length using Nat.strongRecOn generalizing buf with
  | ind n ih =>
      cases hf : F.next buf with
      | none =>
          rw [frames_none hf]
          rfl
      | some r =>
          obtain ⟨frame, rest⟩ := r
          rw [frames_some hf, frames_some (F.stable more hf),
            ih rest.length (hn ▸ F.shorter hf) rest rfl]
          rfl

-- The frames are handled one after the other, up to the first that fails.
def handle (f : σ → β → Except ε σ) : σ → List β → Except ε Unit × σ
  | s, [] => (.ok (), s)
  | s, b :: bs =>
      match f s b with
      | .error e => (.error e, s)
      | .ok s => handle f s bs

theorem handle_append (f : σ → β → Except ε σ) (s : σ) (bs bs' : List β) :
    handle f s (bs ++ bs') =
      match handle f s bs with
      | (.error e, t) => (.error e, t)
      | (.ok (), t) => handle f t bs' := by
  induction bs generalizing s with
  | nil => rfl
  | cons b bs ih =>
      simp only [List.cons_append, handle]
      cases f s b with
      | error e => rfl
      | ok t => exact ih t

end Framing
