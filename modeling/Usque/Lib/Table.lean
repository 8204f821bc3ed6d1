import Mathlib.Algebra.GroupWithZero.Nat
import Mathlib.Data.List.AList

abbrev Table (κ ν : Type) := AList (fun _ : κ => ν)

namespace Table

variable {κ ν : Type} [DecidableEq κ]

theorem lookup_insert (m : Table κ ν) (k k' : κ) (v : ν) :
    (AList.insert k v m).lookup k' = if k' = k then some v else m.lookup k' := by
  split_ifs with h
  · subst h; exact AList.lookup_insert m
  · exact AList.lookup_insert_ne h

theorem lookup_erase (m : Table κ ν) (k k' : κ) :
    (AList.erase k m).lookup k' = if k' = k then none else m.lookup k' := by
  split_ifs with h
  · subst h; exact AList.lookup_erase k' m
  · exact AList.lookup_erase_ne h

def modify (k : κ) (f : ν → ν) (m : Table κ ν) : Table κ ν :=
  match m.lookup k with
  | some v => AList.insert k (f v) m
  | none => m

theorem modify_some {m : Table κ ν} {k : κ} {v : ν} (h : m.lookup k = some v) (f : ν → ν) :
    modify k f m = AList.insert k (f v) m := by simp only [modify, h]

theorem modify_none {m : Table κ ν} {k : κ} (h : m.lookup k = none) (f : ν → ν) :
    modify k f m = m := by simp only [modify, h]

theorem lookup_modify (m : Table κ ν) (k k' : κ) (f : ν → ν) :
    (modify k f m).lookup k' = if k' = k then (m.lookup k).map f else m.lookup k' := by
  simp only [modify]
  cases hk : m.lookup k with
  | none =>
      split_ifs with h
      · subst h; simpa using hk
      · rfl
  | some v => simpa using lookup_insert m k k' (f v)

def values (m : Table κ ν) : List ν := m.entries.map (·.2)

def retain (p : κ → ν → Bool) (m : Table κ ν) : Table κ ν :=
  ⟨m.entries.filter (fun e => p e.1 e.2),
    (List.filter_sublist.map Sigma.fst).nodup m.nodupKeys⟩

theorem lookup_retain (m : Table κ ν) (p : κ → ν → Bool) (k : κ) :
    (retain p m).lookup k = (m.lookup k).filter (p k) := by
  apply Option.ext
  intro v
  have hl : v ∈ (retain p m).lookup k ↔ Sigma.mk k v ∈ (retain p m).entries :=
    AList.mem_lookup_iff
  have hm : v ∈ m.lookup k ↔ Sigma.mk k v ∈ m.entries := AList.mem_lookup_iff
  simp only [Option.mem_def] at hl hm
  rw [hl, Option.filter_eq_some_iff, hm]
  simp [retain]

def total (f : ν → Nat) (m : Table κ ν) : Nat := ((values m).map f).sum

theorem total_insert (f : ν → Nat) (m : Table κ ν) (k : κ) (v : ν) :
    total f (AList.insert k v m) = f v + total f (AList.erase k m) := rfl

theorem total_of_lookup (f : ν → Nat) {m : Table κ ν} {k : κ} {v : ν}
    (h : m.lookup k = some v) : total f m = f v + total f (AList.erase k m) := by
  have hm : k ∈ m.entries.keys := AList.lookup_isSome.mp (by rw [h]; rfl)
  obtain ⟨w, l₁, l₂, _, he, hk⟩ := List.exists_of_kerase hm
  have hw : (⟨k, w⟩ : Sigma fun _ : κ => ν) ∈ m.entries := by simp [he]
  have hv : w = v := Option.some.inj ((AList.mem_lookup_iff.mpr hw).symm.trans h)
  show ((m.entries.map (·.2)).map f).sum = f v + (((m.entries.kerase k).map (·.2)).map f).sum
  rw [he] at hk ⊢
  rw [hk]
  simp [hv]
  omega

theorem total_replace (f : ν → Nat) {m : Table κ ν} {k : κ} {v : ν} (h : m.lookup k = some v)
    (v' : ν) : total f (AList.insert k v' m) + f v = total f m + f v' := by
  rw [total_insert, total_of_lookup f h]
  omega

theorem total_modify (f : ν → Nat) (m : Table κ ν) (k : κ) {g : ν → ν}
    (hg : ∀ v, f (g v) = f v) : total f (modify k g m) = total f m := by
  cases h : m.lookup k with
  | none => rw [modify_none h]
  | some v =>
      have hr := total_replace f h (g v)
      rw [hg] at hr
      rw [modify_some h]
      omega

theorem total_pos (f : ν → Nat) {m : Table κ ν} :
    0 < total f m ↔ ∃ k v, m.lookup k = some v ∧ 0 < f v := by
  rw [total, List.sum_pos_iff_exists_pos_nat]
  constructor
  · rintro ⟨n, hn, hpos⟩
    obtain ⟨v, hv, rfl⟩ := List.mem_map.mp hn
    obtain ⟨⟨k, w⟩, he, rfl⟩ := List.mem_map.mp hv
    exact ⟨k, w, AList.mem_lookup_iff.mpr he, hpos⟩
  · rintro ⟨k, v, hl, hv⟩
    have he : (⟨k, v⟩ : Sigma fun _ : κ => ν) ∈ m.entries := AList.mem_lookup_iff.mp hl
    exact ⟨f v, List.mem_map_of_mem (List.mem_map_of_mem he), hv⟩

def count (p : ν → Bool) (m : Table κ ν) : Nat := (values m).countP p

omit [DecidableEq κ] in
theorem total_toNat (p : ν → Bool) (m : Table κ ν) : total (fun v => (p v).toNat) m = count p m := by
  simp only [total, count]
  induction values m with
  | nil => rfl
  | cons v vs ih =>
      rw [List.map_cons, List.sum_cons, ih, List.countP_cons, Nat.add_comm]
      cases p v <;> rfl

def size (m : Table κ ν) : Nat := m.entries.length

-- A table whose keys are another's, but for one at most, is at most one larger.
theorem size_le_of_lookup {m m' : Table κ ν} {o : Option κ}
    (h : ∀ k, m'.lookup k ≠ none → m.lookup k ≠ none ∨ o = some k) :
    size m' ≤ size m + o.isSome.toNat := by
  have hsub : m'.keys ⊆ m.keys ++ o.toList := by
    intro k hk
    have hsome : m'.lookup k ≠ none := fun hn => AList.lookup_eq_none.mp hn hk
    rcases h k hsome with hold | rfl
    · by_contra hno
      exact hold (AList.lookup_eq_none.mpr (fun hm => hno (List.mem_append_left _ hm)))
    · exact List.mem_append_right _ (List.mem_singleton_self k)
  have hlen := (List.subperm_of_subset m'.keys_nodup hsub).length_le
  have hkeys : ∀ t : Table κ ν, t.keys.length = size t := fun t => List.length_map _
  rw [List.length_append, hkeys, hkeys] at hlen
  cases o with
  | none => exact hlen
  | some k => exact hlen

end Table
