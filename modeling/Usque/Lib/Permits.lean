import Mathlib.Data.List.Nodup

-- A counter of permits. A holder takes a permit and hands it over with a message; the permit is
-- given back when the message is handled, or by its holder.

inductive Permit (κ : Type) where
  | none
  | held
  | sent (k : κ)
deriving DecidableEq

structure Permits (κ : Type) where
  holders : List (Permit κ)
  queue : List κ
  used : Nat
  live : Bool

theorem List.countP_set_add {α : Type} (p : α → Bool) {l : List α} {i : Nat} {x : α}
    (hi : l[i]? = some x) (a : α) :
    (l.set i a).countP p + (p x).toNat = l.countP p + (p a).toNat := by
  induction l generalizing i with
  | nil => simp at hi
  | cons y ys ih =>
      cases i with
      | zero =>
          cases hi
          have htoNat : ∀ b : Bool, b.toNat = if b = true then 1 else 0 := by decide
          simp only [List.set_cons_zero, List.countP_cons, htoNat]
          omega
      | succ i =>
          have h := ih hi
          simp only [List.set_cons_succ, List.countP_cons]
          omega

namespace Permits

variable {κ : Type} [DecidableEq κ] {s : Permits κ} {i : Nat} {k : κ} {p : Permit κ}

-- Whether a holder's permit is out: it has not been handed over, or its message is still queued.
def counts (queue : List κ) : Permit κ → Bool
  | .none => false
  | .held => true
  | .sent k => decide (k ∈ queue)

structure Sound (s : Permits κ) : Prop where
  used : s.used = s.holders.countP (counts s.queue)
  once : ∀ k, s.holders.count (.sent k) ≤ 1
  owned : s.live = true → ∀ k ∈ s.queue, Permit.sent k ∈ s.holders
  nodup : s.queue.Nodup

theorem count_set_add (hi : s.holders[i]? = some p) (a b : Permit κ) :
    (s.holders.set i a).count b + (p == b).toNat = s.holders.count b + (a == b).toNat :=
  List.countP_set_add (· == b) hi a

omit [DecidableEq κ] in
theorem mem_set_of_ne (hi : s.holders[i]? = some p) (a : Permit κ) {b : Permit κ}
    (hb : b ∈ s.holders) (hne : b ≠ p) : b ∈ s.holders.set i a := by
  obtain ⟨j, hj⟩ := List.mem_iff_getElem?.mp hb
  have hij : i ≠ j := by
    rintro rfl
    exact hne (Option.some.inj (hj.symm.trans hi))
  exact List.mem_iff_getElem?.mpr ⟨j, by rw [List.getElem?_set_ne hij, hj]⟩

namespace Sound

theorem once_set (h : s.Sound) (hi : s.holders[i]? = some p) {a : Permit κ}
    (ha : ∀ k, a ≠ .sent k) (k : κ) : (s.holders.set i a).count (.sent k) ≤ 1 := by
  have hc := count_set_add hi a (.sent k)
  have hone := h.once k
  rw [beq_false_of_ne (ha k)] at hc
  simp only [Bool.toNat_false] at hc
  omega

theorem owned_set (h : s.Sound) (hi : s.holders[i]? = some p) (hp : ∀ k ∈ s.queue, p ≠ .sent k)
    (a : Permit κ) (hlive : s.live = true) : ∀ k ∈ s.queue, Permit.sent k ∈ s.holders.set i a :=
  fun k hk => mem_set_of_ne hi a (h.owned hlive k hk) (fun he => hp k hk he.symm)

theorem join (h : s.Sound) : Sound { s with holders := s.holders ++ [.none] } where
  used := by
    rw [List.countP_append]
    exact h.used
  once := fun k => by
    rw [List.count_append]
    exact h.once k
  owned := fun hlive k hk => List.mem_append_left _ (h.owned hlive k hk)
  nodup := h.nodup

theorem take (h : s.Sound) (hi : s.holders[i]? = some .none) :
    Sound { s with holders := s.holders.set i .held, used := s.used + 1 } where
  used := by
    have hc := List.countP_set_add (counts s.queue) hi .held
    have hu := h.used
    simp only [counts, Bool.toNat_false, Bool.toNat_true] at hc
    dsimp only
    omega
  once := h.once_set hi (fun _ => nofun)
  owned := h.owned_set hi (fun _ _ => nofun) _
  nodup := h.nodup

theorem countP_counts_append (holders : List (Permit κ)) (queue : List κ)
    (hk : Permit.sent k ∉ holders) :
    holders.countP (counts (queue ++ [k])) = holders.countP (counts queue) := by
  refine List.countP_congr (fun p hp => ?_)
  cases p with
  | none | held => rfl
  | sent j =>
      have hne : j ≠ k := fun he => hk (he ▸ hp)
      simp [counts, hne]

theorem send (h : s.Sound) (hi : s.holders[i]? = some .held) (hk : Permit.sent k ∉ s.holders)
    (hq : k ∉ s.queue) :
    Sound { s with holders := s.holders.set i (.sent k), queue := s.queue ++ [k] } where
  used := by
    have hc := List.countP_set_add (counts (s.queue ++ [k])) hi (.sent k)
    have hmem : k ∈ s.queue ++ [k] := List.mem_append_right _ (List.mem_singleton_self k)
    have hu := h.used
    rw [countP_counts_append _ _ hk] at hc
    simp only [counts, hmem, decide_true, Bool.toNat_true] at hc
    dsimp only
    omega
  once := fun j => by
    have hc := count_set_add hi (.sent k) (.sent j)
    have hone := h.once j
    dsimp only
    by_cases hj : k = j
    · subst hj
      rw [List.count_eq_zero.mpr hk] at hc
      have := Bool.toNat_le (Permit.sent k == Permit.sent k)
      omega
    · rw [beq_false_of_ne (fun he => hj (Permit.sent.inj he))] at hc
      simp only [Bool.toNat_false] at hc
      omega
  owned := fun hlive j hj => by
    rcases List.mem_append.mp hj with hold | hnew
    · exact h.owned_set hi (fun _ _ => nofun) _ hlive j hold
    · rw [List.mem_singleton.mp hnew]
      exact List.mem_set (List.getElem?_eq_some_iff.mp hi).1 _
  nodup := List.nodup_append.mpr ⟨h.nodup, List.nodup_singleton k, fun a ha b hb => by
    rw [List.mem_singleton.mp hb]
    exact fun he => hq (he ▸ ha)⟩

theorem countP_counts_cons (holders : List (Permit κ)) {queue : List κ} (hk : k ∉ queue) :
    holders.countP (counts (k :: queue)) =
      holders.countP (counts queue) + holders.count (.sent k) := by
  induction holders with
  | nil => rfl
  | cons p holders ih =>
      rw [List.countP_cons, List.countP_cons, List.count_cons, ih]
      cases p with
      | none => simp [counts]
      | held =>
          simp only [counts, if_true]
          rw [if_neg (by simp)]
          omega
      | sent j =>
          by_cases hj : j = k
          · subst hj
            simp [counts, hk]
            omega
          · simp [counts, hj]
            omega

-- The message at the front is handled: its sender's permit is the one that comes back.
theorem handle (h : s.Sound) (hlive : s.live = true) {queue : List κ}
    (hq : s.queue = k :: queue) : Sound { s with queue, used := s.used - 1 } := by
  have hnodup := h.nodup
  rw [hq, List.nodup_cons] at hnodup
  have hone : s.holders.count (.sent k) = 1 := by
    have hpos : 0 < s.holders.count (.sent k) :=
      List.count_pos_iff.mpr (h.owned hlive k (by rw [hq]; exact List.mem_cons_self ..))
    have := h.once k
    omega
  constructor
  · have hu := h.used
    rw [hq, countP_counts_cons _ hnodup.1, hone] at hu
    dsimp only
    omega
  · exact h.once
  · intro _ j hj
    exact h.owned hlive j (by rw [hq]; exact List.mem_cons_of_mem _ hj)
  · exact hnodup.2

-- A message that is still queued is somebody's permit.
theorem used_pos (h : s.Sound) (hlive : s.live = true) (hk : k ∈ s.queue) : 0 < s.used := by
  rw [h.used, List.countP_pos_iff]
  exact ⟨.sent k, h.owned hlive k hk, decide_eq_true hk⟩

theorem leave (h : s.Sound) (hi : s.holders[i]? = some p) (hp : counts s.queue p = false) :
    Sound { s with holders := s.holders.set i .none } where
  used := by
    have hc := List.countP_set_add (counts s.queue) hi .none
    have hu := h.used
    rw [hp] at hc
    simp only [counts, Bool.toNat_false] at hc
    dsimp only
    omega
  once := h.once_set hi (fun _ => nofun)
  owned := h.owned_set hi (fun k hk he => by simp [he, counts, hk] at hp) _
  nodup := h.nodup

theorem giveBack (h : s.Sound) (hi : s.holders[i]? = some p) (hp : counts s.queue p = true)
    (hheld : s.live = true → p = .held) :
    Sound { s with holders := s.holders.set i .none, used := s.used - 1 } where
  used := by
    have hc := List.countP_set_add (counts s.queue) hi .none
    have hu := h.used
    rw [hp] at hc
    simp only [counts, Bool.toNat_false, Bool.toNat_true] at hc
    dsimp only
    omega
  once := h.once_set hi (fun _ => nofun)
  owned := fun hlive => h.owned_set hi (fun k _ => by rw [hheld hlive]; nofun) _ hlive
  nodup := h.nodup

theorem stop (h : s.Sound) {live : Bool} (hl : live = true → s.live = true) :
    Sound { s with live } :=
  ⟨h.used, h.once, fun hlive => h.owned (hl hlive), h.nodup⟩

theorem reset (h : s.Sound) (hnone : s.holders.countP (counts s.queue) = 0) :
    Sound { s with used := 0 } :=
  ⟨hnone.symm, h.once, h.owned, h.nodup⟩

theorem empty (live : Bool) : Sound (⟨[], [], 0, live⟩ : Permits κ) where
  used := rfl
  once := fun _ => Nat.zero_le _
  owned := fun _ => nofun
  nodup := .nil

end Sound

end Permits
