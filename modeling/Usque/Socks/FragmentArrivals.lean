import Usque.Socks.Reassembly

namespace Usque

namespace FragBuffer

inductive Call where
  | insert (seq : UInt8) (isLast : Bool) (data : List UInt8) (now : Time)
  | reset (now : Time)

def call (b : FragBuffer) : Call → Outcome FragBuffer
  | .insert seq isLast data now => do
      let (_, b) ← b.insert seq isLast data now
      .ok b
  | .reset now => .ok (b.reset now)

def after (b : FragBuffer) (calls : List Call) : Outcome FragBuffer :=
  Outcome.run call b calls

-- A reset, or an insertion that begins with one.
def resets (b : FragBuffer) : Call → Bool
  | .insert seq _ _ _ =>
      seq ≠ 0 ∧ seq.toNat < b.fragments.length ∧
        (b.endSeq.any (fun endSeq => seq > endSeq) ∨ seq < b.highestSeq)
  | .reset _ => true

def ResetAt (b : FragBuffer) (calls : List Call) (k : Nat) : Prop :=
  ∃ b' c, b.after (calls.take k) = .ok b' ∧ calls[k]? = some c ∧ b'.resets c = true

-- The calls that the merged fragments 1 to endSeq came with, one after the other.
def AssembledFrom (b : FragBuffer) (calls : List Call) (endSeq : UInt8) (out : List UInt8) :
    Prop :=
  1 ≤ endSeq.toNat ∧ ∃ (arrival : Nat → Nat) (payload : Nat → List UInt8),
    (∀ i, 1 ≤ i → i ≤ endSeq.toNat → ∃ seq isLast now, seq.toNat = i ∧
      calls[arrival i]? = some (.insert seq isLast (payload i) now)) ∧
    (∀ i j, 1 ≤ i → i < j → j ≤ endSeq.toNat → arrival i < arrival j) ∧
    (∀ k, arrival 1 < k → k ≤ arrival endSeq.toNat → ¬ b.ResetAt calls k) ∧
    out = (List.range' 1 endSeq.toNat).flatMap payload

-- Every filled slot has an arrival, after which nothing was reset, in the order of the slots.
structure Arrived (b₀ : FragBuffer) (calls : List Call) (b : FragBuffer) (arrival : Nat → Nat) :
    Prop where
  came : ∀ i data, b.fragments[i]? = some (some data) → ∃ seq isLast now, seq.toNat = i ∧
    calls[arrival i]? = some (.insert seq isLast data now)
  unreset : ∀ i data, b.fragments[i]? = some (some data) → ∀ k, arrival i < k →
    ¬ b₀.ResetAt calls k
  ordered : ∀ i j data data', b.fragments[i]? = some (some data) →
    b.fragments[j]? = some (some data') → i < j → arrival i < arrival j

variable {b b' b₀ : FragBuffer} {calls : List Call} {c : Call} {arrival : Nat → Nat}

theorem after_snoc (b : FragBuffer) (calls : List Call) (c : Call) :
    b.after (calls ++ [c]) = b.after calls >>= fun b' => b'.call c := by
  rw [after, Outcome.run_append, after]
  cases Outcome.run call b calls with
  | error e => rfl
  | ok b' =>
      simp only [Outcome.ok_bind, Outcome.run]
      cases b'.call c <;> rfl

theorem resetAt_lt {k : Nat} (h : b.ResetAt calls k) : k < calls.length := by
  obtain ⟨_, c, _, hc, _⟩ := h
  exact (List.getElem?_eq_some_iff.mp hc).1

theorem resetAt_snoc {k : Nat} (h : b₀.ResetAt (calls ++ [c]) k) (hb : b₀.after calls = .ok b) :
    b₀.ResetAt calls k ∨ (k = calls.length ∧ b.resets c = true) := by
  obtain ⟨b', c', hb', hc, hr⟩ := h
  rcases Nat.lt_or_ge k calls.length with hlt | hge
  · rw [List.take_append_of_le_length (Nat.le_of_lt hlt)] at hb'
    rw [List.getElem?_append_left hlt] at hc
    exact .inl ⟨b', c', hb', hc, hr⟩
  · have hk := (List.getElem?_eq_some_iff.mp hc).1
    rw [List.length_append, List.length_singleton] at hk
    obtain rfl : k = calls.length := by omega
    rw [List.take_left, hb, Except.ok.injEq] at hb'
    rw [List.getElem?_append_right hge, Nat.sub_self, List.getElem?_cons_zero,
      Option.some.injEq] at hc
    exact .inr ⟨rfl, by rw [hb', hc]; exact hr⟩

theorem arrived_empty (h : ∀ (i : Nat) data, b.fragments[i]? ≠ some (some data))
    (b₀ : FragBuffer) (calls : List Call) (arrival : Nat → Nat) : Arrived b₀ calls b arrival where
  came := fun i data hf => absurd hf (h i data)
  unreset := fun i data hf => absurd hf (h i data)
  ordered := fun i _ data _ hf => absurd hf (h i data)

theorem replicate_empty (n i : Nat) (data : List UInt8) :
    (List.replicate n none : List (Option (List UInt8)))[i]? ≠ some (some data) := by
  intro h
  have hm := List.eq_of_mem_replicate (List.mem_of_getElem? h)
  cases hm

theorem arrived_snoc (h : Arrived b₀ calls b arrival) (c : Call)
    (hquiet : ∀ (i : Nat) data, b.fragments[i]? = some (some data) →
      ¬ b₀.ResetAt (calls ++ [c]) calls.length) :
    Arrived b₀ (calls ++ [c]) b arrival where
  came := by
    intro i data hf
    obtain ⟨seq, isLast, now, hseq, hc⟩ := h.came i data hf
    refine ⟨seq, isLast, now, hseq, ?_⟩
    rwa [List.getElem?_append_left (List.getElem?_eq_some_iff.mp hc).1]
  unreset := by
    intro i data hf k hk hr
    have hlt := resetAt_lt hr
    rw [List.length_append, List.length_singleton] at hlt
    rcases Nat.lt_or_eq_of_le (Nat.le_of_lt_succ hlt) with hlt | rfl
    · refine h.unreset i data hf k hk ?_
      obtain ⟨b', c', hb', hc', hr'⟩ := hr
      rw [List.take_append_of_le_length (Nat.le_of_lt hlt)] at hb'
      rw [List.getElem?_append_left hlt] at hc'
      exact ⟨b', c', hb', hc', hr'⟩
    · exact hquiet i data hf hr
  ordered := h.ordered

theorem store_slot {seq : UInt8} {isLast : Bool} {data data' : List UInt8} {now : Time} {i : Nat}
    (h : (b.store seq isLast data now).fragments[i]? = some (some data')) :
    b.fragments[i]? = some (some data') ∨
      (i = seq.toNat ∧ b.fragments[seq.toNat]? = some none ∧ data' = data) := by
  simp only [store, List.getElem?_modify] at h
  by_cases hi : seq.toNat = i
  · subst hi
    cases hf : b.fragments[seq.toNat]? with
    | none =>
        rw [hf] at h
        cases h
    | some slot =>
        rw [hf] at h
        cases slot with
        | none =>
            simp only [if_true, Option.map_eq_map, Option.map_some, Option.none_or,
              Option.some.injEq] at h
            exact .inr ⟨rfl, rfl, h.symm⟩
        | some old =>
            simp only [if_true, Option.map_eq_map, Option.map_some, Option.some_or] at h
            exact .inl h
  · simp only [if_neg hi, Option.map_eq_map, Option.map_id_fun', id_eq] at h
    exact .inl h

theorem arrived_store (h : Arrived b₀ calls b arrival) {seq : UInt8} {isLast : Bool}
    {data : List UInt8} {now : Time}
    (hquiet : ∀ (i : Nat) data', b.fragments[i]? = some (some data') →
      ¬ b₀.ResetAt (calls ++ [.insert seq isLast data now]) calls.length)
    (htop : b.fragments[seq.toNat]? = some none →
      ∀ (i : Nat) data', b.fragments[i]? = some (some data') → i < seq.toNat) :
    ∃ arrival', Arrived b₀ (calls ++ [.insert seq isLast data now])
      (b.store seq isLast data now) arrival' := by
  have hold := arrived_snoc h _ hquiet
  by_cases hfree : b.fragments[seq.toNat]? = some none
  · -- The fragment takes an empty slot, above all that are filled.
    have hlast : (calls ++ [Call.insert seq isLast data now])[calls.length]? =
        some (.insert seq isLast data now) := by
      rw [List.getElem?_append_right (Nat.le_refl _), Nat.sub_self, List.getElem?_cons_zero]
    have hne : ∀ {i : Nat} {data'}, b.fragments[i]? = some (some data') → i ≠ seq.toNat :=
      fun hi he => Nat.ne_of_lt (htop hfree _ _ hi) he
    refine ⟨Function.update arrival seq.toNat calls.length, ⟨?_, ?_, ?_⟩⟩
    · intro i data' hf
      rcases store_slot hf with hi | ⟨rfl, _, rfl⟩
      · rw [Function.update_of_ne (hne hi)]
        exact hold.came i data' hi
      · rw [Function.update_self]
        exact ⟨seq, isLast, now, rfl, hlast⟩
    · intro i data' hf k hk hr
      rcases store_slot hf with hi | ⟨rfl, _, rfl⟩
      · rw [Function.update_of_ne (hne hi)] at hk
        exact hold.unreset i data' hi k hk hr
      · rw [Function.update_self] at hk
        have hlt := resetAt_lt hr
        rw [List.length_append, List.length_singleton] at hlt
        omega
    · intro i j data₁ data₂ hi hj hij
      rcases store_slot hi with held | ⟨rfl, _, _⟩
      · rw [Function.update_of_ne (hne held)]
        rcases store_slot hj with held' | ⟨rfl, _, _⟩
        · rw [Function.update_of_ne (hne held')]
          exact hold.ordered i j data₁ data₂ held held' hij
        · rw [Function.update_self]
          obtain ⟨_, _, _, _, hc⟩ := h.came i data₁ held
          exact (List.getElem?_eq_some_iff.mp hc).1
      · rcases store_slot hj with held' | ⟨rfl, _, _⟩
        · exact absurd hij (Nat.lt_asymm (htop hfree j data₂ held'))
        · exact absurd hij (Nat.lt_irrefl _)
  · have hsame : ∀ {i : Nat} {data'},
        (b.store seq isLast data now).fragments[i]? = some (some data') →
          b.fragments[i]? = some (some data') := by
      intro i data' hf
      rcases store_slot hf with hi | ⟨_, hnone, _⟩
      · exact hi
      · exact absurd hnone hfree
    exact ⟨arrival, fun i data' hf => hold.came i data' (hsame hf),
      fun i data' hf => hold.unreset i data' (hsame hf),
      fun i j data₁ data₂ hi hj => hold.ordered i j data₁ data₂ (hsame hi) (hsame hj)⟩

theorem restart_eq {seq : UInt8} (hne : seq ≠ 0) (hlen : seq.toNat < b.fragments.length)
    (isLast : Bool) (data : List UInt8) (now : Time) :
    (b.resets (.insert seq isLast data now) = true ∧
        (b.restart seq now).fragments = List.replicate b.fragments.length none) ∨
      (b.resets (.insert seq isLast data now) = false ∧ b.restart seq now = b) := by
  simp only [resets, restart]
  split_ifs with hend hlt hlt
  · exact absurd hlt (Nat.not_lt_zero _)
  · exact .inl ⟨by simp only [ne_eq, hne, not_false_eq_true, hlen, hend, true_or, and_self,
      decide_true], rfl⟩
  · exact .inl ⟨by simp only [ne_eq, hne, not_false_eq_true, hlen, hlt, or_true, and_self,
      decide_true], rfl⟩
  · exact .inr ⟨by simp only [hend, hlt, Bool.false_eq_true, or_self, and_false, decide_false],
      rfl⟩

-- The buffer after these calls, and where its fragments came from.
structure Traced (b₀ : FragBuffer) (calls : List Call) (b : FragBuffer) : Prop where
  after : b₀.after calls = .ok b
  stacked : Stacked b
  arrived : ∃ arrival, Arrived b₀ calls b arrival

theorem traced_new (now : Time) (maxFragCount : Nat) :
    Traced (new now maxFragCount) [] (new now maxFragCount) where
  after := rfl
  stacked := stacked_of_none rfl rfl rfl
  arrived := ⟨id, arrived_empty (replicate_empty _) _ _ _⟩

theorem traced_insert (h : Traced b₀ calls b) (seq : UInt8) (isLast : Bool) (data : List UInt8)
    (now : Time) : ∃ out b', b.insert seq isLast data now = .ok (out, b') ∧
      Traced b₀ (calls ++ [.insert seq isLast data now]) b' := by
  obtain ⟨out, b', hinsert, -⟩ := insert_ok h.stacked.bounded seq isLast data now
  have hafter : b₀.after (calls ++ [.insert seq isLast data now]) = .ok b' := by
    simp only [after_snoc, h.after, Outcome.ok_bind, call, hinsert]
  obtain ⟨arrival, ha⟩ := h.arrived
  suffices hs : Stacked b' ∧
      ∃ arrival', Arrived b₀ (calls ++ [.insert seq isLast data now]) b' arrival' from
    ⟨out, b', hinsert, hafter, hs.1, hs.2⟩
  rw [insert] at hinsert
  split_ifs at hinsert with hin
  · -- The fragment is ignored.
    cases hinsert
    refine ⟨h.stacked, arrival, arrived_snoc ha _ fun _ _ _ hr => ?_⟩
    rcases resetAt_snoc hr h.after with hr | ⟨_, hr⟩
    · exact absurd (resetAt_lt hr) (Nat.lt_irrefl _)
    · simp only [resets, decide_eq_true_eq] at hr
      rcases hin with h0 | hge
      · exact hr.1 h0
      · exact absurd hr.2.1 (Nat.not_lt_of_le hge)
  · obtain ⟨hne, hlt⟩ := not_or.mp hin
    have hlen := Nat.lt_of_not_le hlt
    obtain ⟨_, _, hb⟩ := Outcome.bind_eq_ok.mp hinsert
    cases hb
    have hle := (restart_le b seq now).1
    have hstacked := stacked_restart h.stacked seq now
    refine ⟨stacked_store hstacked hne (by rwa [restart_length]) hle isLast data now, ?_⟩
    rcases restart_eq hne hlen isLast data now with ⟨_, hnone⟩ | ⟨hquiet, hsame⟩
    · have hempty : ∀ (i : Nat) data', (b.restart seq now).fragments[i]? ≠ some (some data') := by
        rw [hnone]
        exact replicate_empty _
      exact arrived_store (arrived_empty hempty b₀ calls arrival)
        (fun i data' hf => absurd hf (hempty i data'))
        (fun _ i data' hf => absurd hf (hempty i data'))
    · rw [hsame] at hle ⊢
      refine arrived_store ha (fun _ _ _ hr => ?_) (fun hfree i data' hf => ?_)
      · rcases resetAt_snoc hr h.after with hr | ⟨_, hr⟩
        · exact absurd (resetAt_lt hr) (Nat.lt_irrefl _)
        · rw [hquiet] at hr
          cases hr
      · -- An empty slot from the highest fragment on lies above it.
        have hi : i ≤ b.highestSeq.toNat := by
          refine Nat.le_of_not_lt fun hgt => ?_
          rw [h.stacked.above i hgt (List.getElem?_eq_some_iff.mp hf).1] at hf
          cases hf
        refine Nat.lt_of_le_of_ne (Nat.le_trans hi (UInt8.le_iff_toNat_le.mp hle)) ?_
        rintro rfl
        rw [hfree] at hf
        cases hf

theorem traced_reset (h : Traced b₀ calls b) (now : Time) :
    Traced b₀ (calls ++ [.reset now]) (b.reset now) where
  after := by simp only [after_snoc, h.after, Outcome.ok_bind, call]
  stacked := stacked_of_none rfl rfl rfl
  arrived := ⟨id, arrived_empty (replicate_empty _) _ _ _⟩

theorem traced_after (now : Time) (maxFragCount : Nat) (calls : List Call) :
    ∃ b, Traced (new now maxFragCount) calls b := by
  induction calls using List.reverseRecOn with
  | nil => exact ⟨_, traced_new now maxFragCount⟩
  | append_singleton calls c ih =>
      obtain ⟨b, h⟩ := ih
      cases c with
      | insert seq isLast data now =>
          obtain ⟨_, b', _, h'⟩ := traced_insert h seq isLast data now
          exact ⟨b', h'⟩
      | reset now => exact ⟨_, traced_reset h now⟩

def slot (b : FragBuffer) (i : Nat) : List UInt8 := ((b.fragments[i]?).getD none).getD []

theorem slot_filled {i : Nat} {data : List UInt8} (h : b.fragments[i]? = some (some data)) :
    b.slot i = data := by
  simp only [slot, h, Option.getD_some]

theorem filled_of_allPresent {idxs : List Nat} (h : b.allPresent idxs = .ok true) :
    ∀ i ∈ idxs, b.fragments[i]? = some (some (b.slot i)) := by
  induction idxs with
  | nil => exact nofun
  | cons idx rest ih =>
      cases hf : b.fragments[idx]? with
      | none => simp only [allPresent, fragment, hf, Outcome.error_bind, reduceCtorEq] at h
      | some found =>
          cases found with
          | none =>
              simp only [allPresent, fragment, hf, Outcome.ok_bind, Except.ok.injEq,
                Bool.false_eq_true] at h
          | some data =>
              simp only [allPresent, fragment, hf, Outcome.ok_bind] at h
              intro i hi
              rcases List.mem_cons.mp hi with rfl | hi
              · rw [hf, slot_filled hf]
              · exact ih h i hi

theorem merged_filled {idxs : List Nat}
    (h : ∀ i ∈ idxs, b.fragments[i]? = some (some (b.slot i))) :
    b.merged idxs = .ok (idxs.flatMap b.slot) := by
  induction idxs with
  | nil => rfl
  | cons idx rest ih =>
      have hrest := ih (fun i hi => h i (List.mem_cons_of_mem _ hi))
      simp only [merged, fragment, h idx (List.mem_cons_self ..), hrest, Outcome.ok_bind,
        Option.getD_some, List.flatMap_cons]

theorem filled_of_assembled {out : List UInt8} (h : b.assembled = .ok (some out)) :
    ∃ endSeq, b.endSeq = some endSeq ∧
      (∀ i, 1 ≤ i → i ≤ endSeq.toNat → b.fragments[i]? = some (some (b.slot i))) ∧
      out = (List.range' 1 endSeq.toNat).flatMap b.slot := by
  simp only [assembled] at h
  cases he : b.endSeq with
  | none => simp only [he, Except.ok.injEq, reduceCtorEq] at h
  | some endSeq =>
      simp only [he] at h
      obtain ⟨present, hpresent, h⟩ := Outcome.bind_eq_ok.mp h
      cases present with
      | false => simp only [Bool.false_eq_true, if_false, Except.ok.injEq, reduceCtorEq] at h
      | true =>
          have hfilled := filled_of_allPresent hpresent
          rw [if_pos rfl, merged_filled hfilled] at h
          simp only [Outcome.ok_bind, Except.ok.injEq, Option.some.injEq] at h
          refine ⟨endSeq, rfl, fun i hone hi => hfilled i ?_, h.symm⟩
          rw [List.mem_range'_1]
          omega

theorem Traced.assembledFrom (h : Traced b₀ calls b) {endSeq : UInt8}
    (he : b.endSeq = some endSeq)
    (hfilled : ∀ i, 1 ≤ i → i ≤ endSeq.toNat → b.fragments[i]? = some (some (b.slot i))) :
    AssembledFrom b₀ calls endSeq ((List.range' 1 endSeq.toNat).flatMap b.slot) := by
  obtain ⟨arrival, ha⟩ := h.arrived
  have hpos : 1 ≤ endSeq.toNat := by
    have hne := h.stacked.endSeq endSeq he
    exact Nat.one_le_iff_ne_zero.mpr fun h0 => hne (UInt8.toNat_inj.mp h0)
  refine ⟨hpos, arrival, b.slot, ?_, ?_, ?_, rfl⟩
  · intro i hone hi
    exact ha.came i _ (hfilled i hone hi)
  · intro i j hone hij hj
    have hi := hfilled i hone (Nat.le_of_lt (Nat.lt_of_lt_of_le hij hj))
    exact ha.ordered i j _ _ hi (hfilled j (Nat.le_of_lt (Nat.lt_of_le_of_lt hone hij)) hj) hij
  · intro k hk _
    exact ha.unreset 1 _ (hfilled 1 (Nat.le_refl 1) hpos) k hk

-- Over every sequence of calls: no index is out of range, and what comes out is in order.
theorem assembled_in_order (now : Time) (maxFragCount : Nat) (calls : List Call) :
    ∃ b, (new now maxFragCount).after calls = .ok b ∧
      ∀ seq isLast data now', ∃ out b', b.insert seq isLast data now' = .ok (out, b') ∧
        ∀ merged ∈ out, ∃ endSeq, b'.endSeq = some endSeq ∧
          (new now maxFragCount).AssembledFrom (calls ++ [.insert seq isLast data now']) endSeq
            merged := by
  obtain ⟨b, h⟩ := traced_after now maxFragCount calls
  refine ⟨b, h.after, fun seq isLast data now' => ?_⟩
  obtain ⟨out, b', hinsert, h'⟩ := traced_insert h seq isLast data now'
  refine ⟨out, b', hinsert, fun merged hm => ?_⟩
  rw [Option.mem_def] at hm
  subst hm
  rw [insert] at hinsert
  split_ifs at hinsert with hin
  · cases hinsert
  · obtain ⟨assembled, hassembled, hb⟩ := Outcome.bind_eq_ok.mp hinsert
    cases hb
    obtain ⟨endSeq, he, hfilled, rfl⟩ := filled_of_assembled hassembled
    exact ⟨endSeq, he, h'.assembledFrom he hfilled⟩

end FragBuffer

end Usque
