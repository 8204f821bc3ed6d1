import Mathlib.Data.List.Basic

-- A queue with the history of both its ends.
structure Fifo (α : Type) where
  pushed : List α
  popped : List α
  queue : List α

namespace Fifo

variable {α : Type} {bound : Nat} {f g : Fifo α}

def empty : Fifo α := ⟨[], [], []⟩

def push (f : Fifo α) (xs : List α) : Fifo α :=
  { f with pushed := f.pushed ++ xs, queue := f.queue ++ xs }

def pop (f : Fifo α) (n : Nat) : Fifo α :=
  { f with popped := f.popped ++ f.queue.take n, queue := f.queue.drop n }

def Conserved (f : Fifo α) : Prop := f.pushed = f.popped ++ f.queue

inductive Move (bound : Nat) : Fifo α → Fifo α → Prop where
  | rest (f : Fifo α) : Move bound f f
  | push (f : Fifo α) (xs : List α) (h : f.queue.length + xs.length ≤ bound) :
      Move bound f (f.push xs)
  | pop (f : Fifo α) (n : Nat) (h : n ≤ f.queue.length) : Move bound f (f.pop n)

theorem Conserved.push (h : f.Conserved) (xs : List α) : (f.push xs).Conserved := by
  have hp : f.pushed = f.popped ++ f.queue := h
  simp only [Conserved, Fifo.push, hp, List.append_assoc]

theorem Conserved.pop (h : f.Conserved) (n : Nat) : (f.pop n).Conserved := by
  have hp : f.pushed = f.popped ++ f.queue := h
  simp only [Conserved, Fifo.pop, hp, List.append_assoc, List.take_append_drop]

theorem Move.conserved (h : Move bound f g) (hf : f.Conserved) : g.Conserved := by
  cases h with
  | rest => exact hf
  | push xs _ => exact hf.push xs
  | pop n _ => exact hf.pop n

theorem Move.bounded (h : Move bound f g) (hf : f.queue.length ≤ bound) :
    g.queue.length ≤ bound := by
  cases h with
  | rest => exact hf
  | push xs hx =>
      simp only [Fifo.push, List.length_append]
      exact hx
  | pop n _ =>
      simp only [Fifo.pop, List.length_drop]
      omega

theorem Move.popped (bound : Nat) (f : Fifo α) (xs rest : List α) (h : f.queue = xs ++ rest) :
    Move bound f ⟨f.pushed, f.popped ++ xs, rest⟩ := by
  have hpop : f.pop xs.length = ⟨f.pushed, f.popped ++ xs, rest⟩ := by
    simp only [Fifo.pop, h, List.take_left', List.drop_left']
  rw [← hpop]
  refine .pop f xs.length ?_
  rw [h, List.length_append]
  exact Nat.le_add_right _ _

end Fifo
