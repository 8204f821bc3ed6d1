import Usque.Socks.FragBuffer

namespace Usque

namespace FragBuffer

-- The buffers that earlier fragments leave behind: one that has come out whole is removed.
inductive Reached : FragBuffer → Prop where
  | new (now : Time) (maxFragCount : Nat) : Reached (new now maxFragCount)
  | reset {b : FragBuffer} (h : Reached b) (now : Time) : Reached (b.reset now)
  | insert {b b' : FragBuffer} (h : Reached b) {seq : UInt8} {isLast : Bool} {data : List UInt8}
      {now : Time} (hinsert : b.insert seq isLast data now = .ok (none, b')) : Reached b'

-- The fragments of one datagram, from number seq on, each with the time it comes at.
def insertFrom (b : FragBuffer) (seq : Nat) :
    List (List UInt8 × Time) → Outcome (List (Option (List UInt8)))
  | [] => .ok []
  | (data, now) :: rest => do
      let (assembled, b) ← b.insert (UInt8.ofNat seq) rest.isEmpty data now
      let results ← b.insertFrom (seq + 1) rest
      .ok (assembled :: results)

-- Nothing comes out before the last fragment, and then exactly the datagram.
def deliversInOrder (b : FragBuffer) (frags : List (List UInt8 × Time)) : Prop :=
  b.insertFrom 1 frags = .ok (List.replicate (frags.length - 1) none ++
    [some (frags.map Prod.fst).flatten])

-- Slot 0 is never used; the first fragments are there and the others are not.
structure Holds (b : FragBuffer) (xs : List (List UInt8)) (free : Nat) : Prop where
  fragments : b.fragments = none :: (xs.map some ++ List.replicate free none)
  highestSeq : b.highestSeq.toNat = xs.length
  endSeq : b.endSeq = none

variable {b b' : FragBuffer} {now : Time} {xs : List (List UInt8)} {free : Nat}

theorem getElem?_held {start : Nat} {tail : List (Option (List UInt8))} {i : Nat}
    (h : b.fragments.drop start = xs.map some ++ tail) (hi : i < xs.length) :
    b.fragments[start + i]? = some (some xs[i]) := by
  rw [← List.getElem?_drop, h, List.getElem?_append_left (by rwa [List.length_map]),
    List.getElem?_map, List.getElem?_eq_getElem hi]
  rfl

-- Slots that are full from start on come out one after the other.
theorem merged_held {start : Nat} {tail : List (Option (List UInt8))}
    (h : b.fragments.drop start = xs.map some ++ tail) :
    b.allPresent (List.range' start xs.length) = .ok true ∧
      b.merged (List.range' start xs.length) = .ok xs.flatten := by
  induction xs generalizing start with
  | nil => exact ⟨rfl, rfl⟩
  | cons x xs ih =>
      have hfirst : b.fragment start = .ok (some x) := by
        have hx : b.fragments[start + 0]? = some (some x) :=
          getElem?_held h (Nat.zero_lt_succ _)
        rw [Nat.add_zero] at hx
        simp only [fragment, hx]
      have hrest : b.fragments.drop (start + 1) = xs.map some ++ tail := by
        rw [← List.drop_drop, h]
        rfl
      obtain ⟨hpresent, hmerged⟩ := ih hrest
      constructor
      · simp only [List.length_cons, List.range'_succ, allPresent, hfirst, Outcome.ok_bind,
          hpresent]
      · simp only [List.length_cons, List.range'_succ, merged, hfirst, Outcome.ok_bind, hmerged,
          Option.getD_some, List.flatten_cons]

theorem modify_append {α : Type} (xs : List α) (x : α) (tail : List α) (f : α → α) :
    (xs ++ x :: tail).modify xs.length f = xs ++ f x :: tail := by
  induction xs with
  | nil => rfl
  | cons y ys ih => exact congrArg (y :: ·) ih

theorem restart_held (h : Holds b xs free) {seq : UInt8} (hseq : xs.length ≤ seq.toNat)
    (now : Time) : b.restart seq now = b := by
  have hlt : ¬ seq < b.highestSeq := by
    rw [UInt8.lt_iff_toNat_lt, h.highestSeq]
    omega
  simp only [restart, h.endSeq, Option.any_none, Bool.false_eq_true, if_false, hlt]

-- The next fragment of the datagram that the buffer holds.
theorem insert_next {seq : UInt8} (h : Holds (b.restart seq now) xs (free + 1))
    (hseq : seq.toNat = xs.length + 1) (isLast : Bool) (data : List UInt8) :
    ∃ b', b.insert seq isLast data now =
        .ok (if isLast then some (xs ++ [data]).flatten else none, b') ∧
      (isLast = false → Holds b' (xs ++ [data]) free) := by
  have hlen : b.fragments.length = xs.length + free + 2 := by
    rw [← restart_length b seq now, h.fragments]
    simp only [List.length_cons, List.length_append, List.length_map, List.length_replicate]
    omega
  have hin : ¬ (seq = 0 ∨ seq.toNat ≥ b.fragments.length) := by
    rintro (rfl | hge)
    · cases hseq
    · omega
  have hgt : seq > (b.restart seq now).highestSeq := by
    rw [gt_iff_lt, UInt8.lt_iff_toNat_lt, h.highestSeq]
    omega
  have hfragments : ((b.restart seq now).store seq isLast data now).fragments =
      none :: ((xs ++ [data]).map some ++ List.replicate free none) := by
    have hmodify := modify_append (xs.map some) none (List.replicate free none)
      (fun fragment => Option.or fragment (some data))
    rw [List.length_map] at hmodify
    simp only [store, h.fragments, hseq, List.replicate_succ]
    rw [List.modify_succ_cons, hmodify, List.map_append]
    simp only [Option.none_or, List.map_cons, List.map_nil, List.append_assoc, List.cons_append,
      List.nil_append]
  refine ⟨(b.restart seq now).store seq isLast data now, ?_, fun hlast => ⟨hfragments, ?_, ?_⟩⟩
  · rw [insert, if_neg hin]
    cases isLast with
    | false =>
        have hend : ((b.restart seq now).store seq false data now).endSeq = none := by
          simp only [store, Bool.false_eq_true, if_false, h.endSeq]
        simp only [assembled, hend, Outcome.ok_bind, Bool.false_eq_true, if_false]
    | true =>
        have hend : ((b.restart seq now).store seq true data now).endSeq = some seq := by
          simp only [store, if_true]
        have hdrop : ((b.restart seq now).store seq true data now).fragments.drop 1 =
            (xs ++ [data]).map some ++ List.replicate free none := by
          rw [hfragments]
          rfl
        obtain ⟨hpresent, hmerged⟩ := merged_held hdrop
        rw [List.length_append, List.length_singleton, ← hseq] at hpresent hmerged
        simp only [assembled, hend, hpresent, hmerged, Outcome.ok_bind, if_true]
  · simp only [store, if_pos hgt, hseq, List.length_append, List.length_singleton]
  · simp only [store, hlast, Bool.false_eq_true, if_false, h.endSeq]

-- The rest of a datagram, after its first fragments.
theorem insertFrom_held (h : Holds b xs free) (frags : List (List UInt8 × Time))
    (hne : frags ≠ []) (hroom : frags.length ≤ free) (hseq : xs.length + frags.length < 256) :
    b.insertFrom (xs.length + 1) frags =
      .ok (List.replicate (frags.length - 1) none ++
        [some (xs ++ frags.map Prod.fst).flatten]) := by
  induction frags generalizing b xs free with
  | nil => exact absurd rfl hne
  | cons frag rest ih =>
      obtain ⟨data, now⟩ := frag
      obtain ⟨free, rfl⟩ : ∃ n, free = n + 1 := ⟨free - 1, by
        simp only [List.length_cons] at hroom
        omega⟩
      simp only [List.length_cons] at hroom hseq
      have hnum : (UInt8.ofNat (xs.length + 1)).toNat = xs.length + 1 :=
        UInt8.toNat_ofNat_of_lt' (by
          show xs.length + 1 < 256
          omega)
      have hrestart : b.restart (UInt8.ofNat (xs.length + 1)) now = b :=
        restart_held h (by omega) now
      obtain ⟨b', hinsert, hholds⟩ := insert_next (hrestart.symm ▸ h) hnum rest.isEmpty data
      cases rest with
      | nil =>
          rw [insertFrom, hinsert, Outcome.ok_bind]
          rfl
      | cons next rest =>
          have hrest := ih (hholds rfl) nofun (by omega) (by
            rw [List.length_append, List.length_singleton]
            omega)
          rw [List.length_append, List.length_singleton] at hrest
          rw [insertFrom, hinsert, Outcome.ok_bind]
          dsimp only
          rw [hrest, Outcome.ok_bind]
          simp only [List.isEmpty_cons, Bool.false_eq_true, if_false, List.length_cons,
            Nat.add_sub_cancel, List.replicate_succ, List.cons_append, List.map_cons,
            List.append_assoc, List.nil_append]

-- Nothing lies above the highest fragment, and that one is there.
structure Stacked (b : FragBuffer) : Prop where
  bounded : b.Bounded
  above : ∀ i, b.highestSeq.toNat < i → i < b.fragments.length → b.fragments[i]? = some none
  highest : b.highestSeq ≠ 0 → ∃ data, b.fragments[b.highestSeq.toNat]? = some (some data)
  endSeq : ∀ endSeq ∈ b.endSeq, endSeq ≠ 0

theorem stacked_of_none {n : Nat} (hf : b.fragments = List.replicate n none)
    (hh : b.highestSeq = 0) (he : b.endSeq = none) : Stacked b where
  bounded := by
    intro endSeq h
    rw [he] at h
    cases h
  above := by
    intro i _ hi
    rw [hf, List.length_replicate] at hi
    rw [hf, List.getElem?_replicate_of_lt hi]
  highest := fun hne => absurd hh hne
  endSeq := by
    intro endSeq h
    rw [he] at h
    cases h

theorem stacked_restart (h : Stacked b) (seq : UInt8) (now : Time) :
    Stacked (b.restart seq now) := by
  simp only [restart]
  split_ifs
  · exact stacked_of_none rfl rfl rfl
  · exact stacked_of_none rfl rfl rfl
  · exact stacked_of_none rfl rfl rfl
  · exact h

theorem store_highestSeq {seq : UInt8} (hle : b.highestSeq ≤ seq) {isLast : Bool}
    {data : List UInt8} : (b.store seq isLast data now).highestSeq = seq := by
  simp only [store]
  split_ifs with hgt
  · rfl
  · exact UInt8.le_antisymm hle (UInt8.not_lt.mp hgt)

theorem stacked_store (h : Stacked b) {seq : UInt8} (hne : seq ≠ 0)
    (hlen : seq.toNat < b.fragments.length) (hle : b.highestSeq ≤ seq) (isLast : Bool)
    (data : List UInt8) (now : Time) : Stacked (b.store seq isLast data now) := by
  refine ⟨store_bounded h.bounded hlen isLast data now, ?_, ?_, ?_⟩
  · intro i hi hil
    rw [store_highestSeq hle] at hi
    simp only [store, List.length_modify] at hil
    have hgt : b.highestSeq.toNat < i := Nat.lt_of_le_of_lt (UInt8.le_iff_toNat_le.mp hle) hi
    simp only [store, List.getElem?_modify, h.above i hgt hil, Option.map_eq_map,
      Option.map_some, if_neg (Nat.ne_of_lt hi)]
  · intro _
    rw [store_highestSeq hle]
    obtain ⟨slot, hslot⟩ : ∃ slot, b.fragments[seq.toNat]? = some slot :=
      ⟨_, List.getElem?_eq_getElem hlen⟩
    refine ⟨slot.getD data, ?_⟩
    simp only [store, List.getElem?_modify, hslot, Option.map_eq_map, Option.map_some, if_true]
    cases slot <;> rfl
  · intro endSeq he
    simp only [store] at he
    split_ifs at he
    · cases he
      exact hne
    · exact h.endSeq endSeq he

-- What a buffer looks like between two fragments, whatever they were.
structure Tidy (b : FragBuffer) : Prop where
  room : 2 ≤ b.fragments.length
  unused : b.fragments[0]? = some none
  above : ∀ i, b.highestSeq.toNat < i → i < b.fragments.length → b.fragments[i]? = some none
  highest : b.highestSeq ≠ 0 → ∃ data, b.fragments[b.highestSeq.toNat]? = some (some data)
  endSeq : ∀ endSeq ∈ b.endSeq, endSeq = b.highestSeq ∧
    ∃ i, 1 ≤ i ∧ i ≤ endSeq.toNat ∧ b.fragments[i]? = some none

theorem Tidy.stacked (h : Tidy b) : Stacked b := by
  have hne : ∀ endSeq ∈ b.endSeq, endSeq ≠ 0 := by
    intro endSeq he h0
    obtain ⟨_, i, hone, hi, _⟩ := h.endSeq endSeq he
    rw [h0] at hi
    exact absurd (Nat.le_trans hone hi) (Nat.not_succ_le_zero 0)
  refine ⟨fun endSeq he => ?_, h.above, h.highest, hne⟩
  have hsame := (h.endSeq endSeq he).1
  obtain ⟨data, hdata⟩ := h.highest (hsame ▸ hne endSeq he)
  rw [hsame]
  exact (List.getElem?_eq_some_iff.mp hdata).1

theorem tidy_of_none {len : Nat} (hlen : 2 ≤ len) (hf : b.fragments = List.replicate len none)
    (hh : b.highestSeq = 0) (he : b.endSeq = none) : Tidy b where
  room := by rwa [hf, List.length_replicate]
  unused := by
    rw [hf, List.getElem?_replicate_of_lt (by omega)]
  above := by
    intro i _ hi
    rw [hf, List.length_replicate] at hi
    rw [hf, List.getElem?_replicate_of_lt hi]
  highest := fun hne => absurd hh hne
  endSeq := by
    rw [he]
    exact nofun

theorem tidy_new (now : Time) (maxFragCount : Nat) : Tidy (new now maxFragCount) :=
  tidy_of_none (Nat.le_max_right ..) rfl rfl rfl

theorem tidy_reset (h : 2 ≤ b.fragments.length) (now : Time) : Tidy (b.reset now) :=
  tidy_of_none h rfl rfl rfl

theorem tidy_restart (h : Tidy b) (seq : UInt8) (now : Time) : Tidy (b.restart seq now) := by
  simp only [restart]
  split_ifs
  · exact tidy_reset (by rw [reset_length]; exact h.room) now
  · exact tidy_reset h.room now
  · exact tidy_reset h.room now
  · exact h

-- After its first tests, insert goes on with a buffer that has nothing above the fragment.
theorem restart_le (b : FragBuffer) (seq : UInt8) (now : Time) :
    (b.restart seq now).highestSeq ≤ seq ∧
      ∀ endSeq ∈ (b.restart seq now).endSeq, seq ≤ endSeq := by
  have hreset : ∀ b : FragBuffer, (b.reset now).highestSeq ≤ seq ∧
      ∀ endSeq ∈ (b.reset now).endSeq, seq ≤ endSeq := fun b => ⟨UInt8.zero_le, nofun⟩
  simp only [restart]
  split_ifs with hend hlt hlt
  · exact hreset _
  · exact hreset b
  · exact hreset b
  · refine ⟨UInt8.not_lt.mp hlt, ?_⟩
    intro endSeq he
    rw [Option.mem_def] at he
    simp only [he, Option.any_some, decide_eq_true_eq] at hend
    exact UInt8.not_lt.mp hend

theorem missing_of_allPresent {idxs : List Nat} (h : b.allPresent idxs = .ok false) :
    ∃ idx ∈ idxs, b.fragments[idx]? = some none := by
  induction idxs with
  | nil => cases h
  | cons idx rest ih =>
      cases hf : b.fragments[idx]? with
      | none => simp only [allPresent, fragment, hf, Outcome.error_bind, reduceCtorEq] at h
      | some slot =>
          cases slot with
          | none => exact ⟨idx, List.mem_cons_self .., hf⟩
          | some data =>
              simp only [allPresent, fragment, hf, Outcome.ok_bind] at h
              obtain ⟨i, hi, hnone⟩ := ih h
              exact ⟨i, List.mem_cons_of_mem _ hi, hnone⟩

theorem missing_of_assembled (h : b.assembled = .ok none) :
    ∀ endSeq ∈ b.endSeq, ∃ i, 1 ≤ i ∧ i ≤ endSeq.toNat ∧ b.fragments[i]? = some none := by
  intro endSeq he
  rw [Option.mem_def] at he
  cases hpresent : b.allPresent (List.range' 1 endSeq.toNat) with
  | error e => simp only [assembled, he, hpresent, Outcome.error_bind, reduceCtorEq] at h
  | ok present =>
      cases present with
      | true =>
          cases hmerged : b.merged (List.range' 1 endSeq.toNat) with
          | error e =>
              simp only [assembled, he, hpresent, hmerged, Outcome.ok_bind, Outcome.error_bind,
                if_true, reduceCtorEq] at h
          | ok data =>
              simp only [assembled, he, hpresent, hmerged, Outcome.ok_bind, if_true,
                Except.ok.injEq, reduceCtorEq] at h
      | false =>
          obtain ⟨i, hi, hnone⟩ := missing_of_allPresent hpresent
          have hrange := List.mem_range'_1.mp hi
          exact ⟨i, hrange.1, by omega, hnone⟩

theorem tidy_insert (h : Tidy b) {seq : UInt8} {isLast : Bool} {data : List UInt8}
    (hinsert : b.insert seq isLast data now = .ok (none, b')) : Tidy b' := by
  rw [insert] at hinsert
  split_ifs at hinsert with hin
  · cases hinsert
    exact h
  obtain ⟨hne, hlt⟩ := not_or.mp hin
  have hr := tidy_restart h seq now
  obtain ⟨hle, hend⟩ := restart_le b seq now
  rw [← restart_length b seq now] at hlt
  generalize b.restart seq now = b at hinsert hr hle hend hlt
  cases hassembled : (b.store seq isLast data now).assembled with
  | error e => simp only [hassembled, Outcome.error_bind, reduceCtorEq] at hinsert
  | ok assembled =>
      simp only [hassembled, Outcome.ok_bind, Except.ok.injEq, Prod.mk.injEq] at hinsert
      obtain ⟨rfl, rfl⟩ := hinsert
      have hseq : seq.toNat ≠ 0 := fun h0 => hne (UInt8.toNat_inj.mp h0)
      have hs := stacked_store hr.stacked hne (Nat.lt_of_not_le hlt) hle isLast data now
      refine ⟨?_, ?_, hs.above, hs.highest, ?_⟩
      · simpa only [store, List.length_modify] using hr.room
      · simp only [store, List.getElem?_modify, hr.unused, Option.map_eq_map, Option.map_some,
          if_neg hseq]
      · intro endSeq he
        refine ⟨?_, missing_of_assembled hassembled endSeq he⟩
        rw [store_highestSeq hle]
        simp only [store] at he
        split_ifs at he with hlast
        · cases he
          rfl
        · have hsame := (hr.endSeq endSeq he).1
          exact UInt8.le_antisymm (hsame ▸ hle) (hend endSeq he)

theorem reached_tidy (h : Reached b) : Tidy b := by
  induction h with
  | new now maxFragCount => exact tidy_new now maxFragCount
  | reset _ now ih => exact tidy_reset ih.room now
  | insert _ hinsert ih => exact tidy_insert ih hinsert

theorem reset_holds (h : 2 ≤ b.fragments.length) (now : Time) :
    Holds (b.reset now) [] (b.fragments.length - 1) where
  fragments := by
    rw [reset, List.map_nil, List.nil_append, ← List.replicate_succ,
      Nat.sub_add_cancel (Nat.le_of_succ_le h)]
  highestSeq := rfl
  endSeq := rfl

theorem fragments_eq (h : Tidy b) {slots : List (Option (List UInt8))}
    (hlen : slots.length = b.fragments.length)
    (hle : ∀ i, i ≤ b.highestSeq.toNat → slots[i]? = b.fragments[i]?)
    (hgt : ∀ i, b.highestSeq.toNat < i → i < slots.length → slots[i]? = some none) :
    b.fragments = slots := by
  refine List.ext_getElem? fun i => ?_
  rcases Nat.lt_or_ge b.highestSeq.toNat i with hi | hi
  · rcases Nat.lt_or_ge i slots.length with hlt | hge
    · rw [hgt i hi hlt, h.above i hi (hlen ▸ hlt)]
    · rw [List.getElem?_eq_none hge, List.getElem?_eq_none (hlen ▸ hge)]
  · exact (hle i hi).symm

theorem endSeq_none (h : Tidy b) (hle : b.highestSeq.toNat ≤ 1) : b.endSeq = none := by
  cases he : b.endSeq with
  | none => rfl
  | some endSeq =>
      obtain ⟨hsame, i, hone, hi, hnone⟩ := h.endSeq endSeq he
      rw [hsame] at hi
      have hi1 : i = b.highestSeq.toNat := by omega
      have hne : b.highestSeq ≠ 0 := by
        intro h0
        rw [h0] at hi
        exact absurd (Nat.le_trans hone hi) (Nat.not_succ_le_zero 0)
      obtain ⟨data, hdata⟩ := h.highest hne
      rw [← hi1, hnone] at hdata
      cases hdata

-- Only a first fragment on its own survives the first fragment of the next datagram.
theorem restart_first (h : Tidy b) (hne : b.highestSeq ≠ 1) (now : Time) :
    Holds (b.restart 1 now) [] (b.fragments.length - 1) := by
  rcases Nat.lt_or_ge 1 b.highestSeq.toNat with hlt | hge
  · have hend : ¬ b.endSeq.any (fun endSeq => 1 > endSeq) = true := by
      intro hany
      obtain ⟨endSeq, he, hgt⟩ := (Option.any_eq_true _ _).mp hany
      rw [(h.endSeq endSeq he).1, decide_eq_true_eq, gt_iff_lt, UInt8.lt_iff_toNat_lt] at hgt
      exact absurd hgt (Nat.not_lt_of_lt hlt)
    have hlt' : 1 < b.highestSeq := UInt8.lt_iff_toNat_lt.mpr hlt
    simp only [restart, if_neg hend, if_pos hlt']
    exact reset_holds h.room now
  · have hzero : b.highestSeq.toNat = 0 := by
      have hne1 : b.highestSeq.toNat ≠ 1 := fun h1 => hne (UInt8.toNat_inj.mp h1)
      omega
    have hholds : Holds b [] (b.fragments.length - 1) := by
      refine ⟨?_, hzero, endSeq_none h hge⟩
      rw [List.map_nil, List.nil_append, ← List.replicate_succ,
        Nat.sub_add_cancel (Nat.le_of_succ_le h.room)]
      refine fragments_eq h (List.length_replicate ..) ?_ ?_
      · intro i hi
        obtain rfl : i = 0 := by omega
        rw [h.unused, List.getElem?_replicate_of_lt (Nat.zero_lt_of_lt h.room)]
      · intro i _ hi
        rw [List.length_replicate] at hi
        exact List.getElem?_replicate_of_lt hi
    rw [restart_held hholds (Nat.zero_le _) now]
    exact hholds

theorem insert_first (h : 2 ≤ b.fragments.length) {isLast : Bool} {data : List UInt8} :
    b.insert 1 isLast data now = (do
      let b := (b.restart 1 now).store 1 isLast data now
      let assembled ← b.assembled
      .ok (assembled, b)) := by
  rw [insert, if_neg]
  rintro (h0 | hge)
  · cases h0
  · exact absurd hge (Nat.not_le_of_lt h)

-- The old first fragment stays in its slot, as if it had come instead of the new one.
theorem insert_first_again (h : Tidy b) (hone : b.highestSeq = 1) :
    ∃ old, b.fragments[1]? = some (some old) ∧ ∀ isLast data now,
      b.insert 1 isLast data now = (b.reset now).insert 1 isLast old now := by
  obtain ⟨old, hold⟩ := h.highest (by rw [hone]; decide)
  rw [hone] at hold
  have hend : b.endSeq = none := endSeq_none h (by rw [hone]; decide)
  have hfragments : b.fragments =
      (List.replicate b.fragments.length none).modify 1 (fun slot => slot.or (some old)) := by
    refine fragments_eq h (by rw [List.length_modify, List.length_replicate]) ?_ ?_
    · intro i hi
      rw [hone] at hi
      have hi1 : i ≤ 1 := hi
      rw [List.getElem?_modify, List.getElem?_replicate_of_lt (Nat.lt_of_le_of_lt hi1 h.room)]
      obtain rfl | rfl : i = 0 ∨ i = 1 := by omega
      · rw [h.unused]
        rfl
      · rw [show b.fragments[1]? = some (some old) from hold]
        rfl
    · intro i hi hlen
      rw [hone] at hi
      have hi1 : 1 < i := hi
      rw [List.length_modify, List.length_replicate] at hlen
      simp only [List.getElem?_modify, List.getElem?_replicate_of_lt hlen, Option.map_eq_map,
        Option.map_some, if_neg (Nat.ne_of_lt hi1)]
  refine ⟨old, hold, fun isLast data now => ?_⟩
  have hrestart : b.restart 1 now = b := by
    have hlt : ¬ (1 : UInt8) < b.highestSeq := by rw [hone]; decide
    simp only [restart, hend, Option.any_none, Bool.false_eq_true, if_false, if_neg hlt]
  have hrestart' : (b.reset now).restart 1 now = b.reset now :=
    restart_held (reset_holds h.room now) (Nat.zero_le _) now
  have hkeep : b.fragments.modify 1 (fun slot => slot.or (some data)) = b.fragments := by
    refine List.ext_getElem? fun i => ?_
    rw [List.getElem?_modify]
    rcases eq_or_ne 1 i with rfl | hi
    · rw [show b.fragments[1]? = some (some old) from hold]
      rfl
    · simp only [if_neg hi, Option.map_eq_map, Option.map_id_fun', id_eq]
  have hstore : b.store 1 isLast data now = (b.reset now).store 1 isLast old now := by
    simp only [store, reset, UInt8.toNat_one, hkeep, ← hfragments, hone, hend]
    rfl
  rw [insert_first h.room, insert_first (b := b.reset now) (by rw [reset_length]; exact h.room),
    hrestart, hrestart', hstore]

variable {frags : List (List UInt8 × Time)}

theorem insertFrom_empty (h : Holds b [] free) (hne : frags ≠ []) (hroom : frags.length ≤ free)
    (hseq : frags.length < 256) : b.deliversInOrder frags := by
  have hheld := insertFrom_held h frags hne hroom (by
    rw [List.length_nil, Nat.zero_add]
    exact hseq)
  rwa [List.nil_append] at hheld

theorem insertFrom_congr {c : FragBuffer} {data old : List UInt8} {rest : List (List UInt8 × Time)}
    (h : b.insert 1 rest.isEmpty data now = c.insert 1 rest.isEmpty old now) :
    b.insertFrom 1 ((data, now) :: rest) = c.insertFrom 1 ((old, now) :: rest) := by
  rw [insertFrom, insertFrom]
  exact congrArg (· >>= _) h

theorem deliversInOrder_restart (hlen : 2 ≤ b.fragments.length)
    (h : Holds (b.restart 1 now) [] free) {data : List UInt8} {rest : List (List UInt8 × Time)}
    (hd : (b.restart 1 now).deliversInOrder ((data, now) :: rest)) :
    b.deliversInOrder ((data, now) :: rest) := by
  have hinsert : b.insert 1 rest.isEmpty data now =
      (b.restart 1 now).insert 1 rest.isEmpty data now := by
    have hlen' : 2 ≤ (b.restart 1 now).fragments.length := by rwa [restart_length]
    rw [insert_first hlen, insert_first hlen', restart_held h (Nat.zero_le _) now]
  rw [deliversInOrder, insertFrom_congr hinsert]
  exact hd

theorem deliversInOrder_iff (h : Reached b) (hne : frags ≠ [])
    (hroom : frags.length < b.fragments.length) (hseq : frags.length ≤ 127) :
    b.deliversInOrder frags ↔
      (b.highestSeq = 1 → b.fragments[1]? = some (frags.head?.map Prod.fst)) := by
  have ht := reached_tidy h
  cases frags with
  | nil => exact absurd rfl hne
  | cons frag rest =>
      obtain ⟨data, now⟩ := frag
      rw [List.head?_cons, Option.map_some]
      by_cases hone : b.highestSeq = 1
      · obtain ⟨old, hold, hagain⟩ := insert_first_again ht hone
        have hcongr : b.insertFrom 1 ((data, now) :: rest) =
            (b.reset now).insertFrom 1 ((old, now) :: rest) :=
          insertFrom_congr (hagain rest.isEmpty data now)
        have hdelivers : (b.reset now).deliversInOrder ((old, now) :: rest) :=
          insertFrom_empty (reset_holds ht.room now) nofun (Nat.le_sub_one_of_lt hroom)
            (Nat.lt_of_le_of_lt hseq (by decide))
        rw [deliversInOrder] at hdelivers
        rw [deliversInOrder, hcongr, hdelivers, hold]
        simp only [hone, forall_const, List.length_cons, List.map_cons, List.flatten_cons,
          Except.ok.injEq, List.append_cancel_left_eq, List.cons.injEq, Option.some.injEq,
          List.append_cancel_right_eq, and_true]
      · refine iff_of_true ?_ (fun h1 => absurd h1 hone)
        have hholds := restart_first ht hone now
        exact deliversInOrder_restart ht.room hholds (insertFrom_empty hholds nofun
          (Nat.le_sub_one_of_lt hroom) (Nat.lt_of_le_of_lt hseq (by decide)))

def abandoned : FragBuffer where
  fragments := [none, some [1], none, none]
  highestSeq := 1
  endSeq := none
  lastUpdate := 1

theorem abandoned_reached : Reached abandoned :=
  .insert (.new 0 4) (show (new 0 4).insert 1 false [1] 1 = .ok (none, abandoned) by decide)

theorem deliversInOrder_repeated :
    abandoned.deliversInOrder [([1], 2), ([2], 3)] ∧ abandoned.isExpired 2 5 = false :=
  ⟨(deliversInOrder_iff abandoned_reached (by decide) (by decide) (by decide)).mpr
    (fun _ => rfl), rfl⟩

-- The first fragment of a datagram that was given up comes out in front of the next one's rest.
theorem not_deliversInOrder :
    Reached abandoned ∧ abandoned.isExpired 2 5 = false ∧
      ¬ abandoned.deliversInOrder [([3], 2), ([2], 3)] ∧
      abandoned.insertFrom 1 [([3], 2), ([2], 3)] = .ok [none, some [1, 2]] := by
  have hmixed : abandoned.insertFrom 1 [([3], 2), ([2], 3)] = .ok [none, some [1, 2]] := by decide
  refine ⟨abandoned_reached, rfl, ?_, hmixed⟩
  rw [deliversInOrder, hmixed]
  decide

end FragBuffer

end Usque
