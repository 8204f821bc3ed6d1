import Usque.Manager.Runtime

namespace Usque

structure FragBuffer where
  fragments : List (Option (List UInt8))
  highestSeq : UInt8
  endSeq : Option UInt8
  lastUpdate : Time
deriving DecidableEq, Repr

namespace FragBuffer

def new (now : Time) (maxFragCount : Nat) : FragBuffer where
  fragments := List.replicate (max maxFragCount 2) none
  highestSeq := 0
  endSeq := none
  lastUpdate := now

def isExpired (b : FragBuffer) (now timeout : Time) : Bool :=
  now - b.lastUpdate > timeout

def reset (b : FragBuffer) (now : Time) : FragBuffer where
  fragments := List.replicate b.fragments.length none
  highestSeq := 0
  endSeq := none
  lastUpdate := now

def fragment (b : FragBuffer) (idx : Nat) : Outcome (Option (List UInt8)) :=
  match b.fragments[idx]? with
  | some fragment => .ok fragment
  | none => .error .panic

def allPresent (b : FragBuffer) : List Nat → Outcome Bool
  | [] => .ok true
  | idx :: rest => do
      match ← b.fragment idx with
      | some _ => b.allPresent rest
      | none => .ok false

def merged (b : FragBuffer) : List Nat → Outcome (List UInt8)
  | [] => .ok []
  | idx :: rest => do
      let chunk ← b.fragment idx
      let tail ← b.merged rest
      .ok (chunk.getD [] ++ tail)

def assembled (b : FragBuffer) : Outcome (Option (List UInt8)) :=
  match b.endSeq with
  | none => .ok none
  | some endSeq => do
      let idxs := List.range' 1 endSeq.toNat
      if ← b.allPresent idxs then
        let data ← b.merged idxs
        .ok (some data)
      else .ok none

def store (b : FragBuffer) (seq : UInt8) (isLast : Bool) (data : List UInt8) (now : Time) :
    FragBuffer where
  fragments := b.fragments.modify seq.toNat (fun fragment => fragment.or (some data))
  highestSeq := if seq > b.highestSeq then seq else b.highestSeq
  endSeq := if isLast then some seq else b.endSeq
  lastUpdate := now

-- The first tests of insert: a fragment past the end or before the last one starts anew.
def restart (b : FragBuffer) (seq : UInt8) (now : Time) : FragBuffer :=
  let b := if b.endSeq.any (fun endSeq => seq > endSeq) then b.reset now else b
  if seq < b.highestSeq then b.reset now else b

def insert (b : FragBuffer) (seq : UInt8) (isLast : Bool) (data : List UInt8) (now : Time) :
    Outcome (Option (List UInt8) × FragBuffer) :=
  if seq = 0 ∨ seq.toNat ≥ b.fragments.length then .ok (none, b)
  else do
    let b := (b.restart seq now).store seq isLast data now
    let assembled ← b.assembled
    .ok (assembled, b)

-- The last fragment's number, once it is known, is the number of a slot.
def Bounded (b : FragBuffer) : Prop :=
  ∀ endSeq ∈ b.endSeq, endSeq.toNat < b.fragments.length

variable {b : FragBuffer} {now : Time}

theorem new_bounded (now : Time) (maxFragCount : Nat) : (new now maxFragCount).Bounded :=
  nofun

theorem reset_bounded (b : FragBuffer) (now : Time) : (b.reset now).Bounded :=
  nofun

@[simp] theorem reset_length (b : FragBuffer) (now : Time) :
    (b.reset now).fragments.length = b.fragments.length :=
  List.length_replicate

theorem restart_bounded (h : b.Bounded) (seq : UInt8) (now : Time) :
    (b.restart seq now).Bounded := by
  simp only [restart]
  split_ifs
  · exact reset_bounded _ now
  · exact reset_bounded _ now
  · exact reset_bounded b now
  · exact h

@[simp] theorem restart_length (b : FragBuffer) (seq : UInt8) (now : Time) :
    (b.restart seq now).fragments.length = b.fragments.length := by
  simp only [restart]
  split_ifs <;> simp

theorem store_bounded (h : b.Bounded) {seq : UInt8} (hseq : seq.toNat < b.fragments.length)
    (isLast : Bool) (data : List UInt8) (now : Time) : (b.store seq isLast data now).Bounded := by
  intro endSeq he
  simp only [store, List.length_modify] at he ⊢
  split_ifs at he
  · cases he
    exact hseq
  · exact h endSeq he

theorem fragment_ok {idx : Nat} (h : idx < b.fragments.length) :
    ∃ fragment, b.fragment idx = .ok fragment :=
  ⟨b.fragments[idx], by simp only [fragment, List.getElem?_eq_getElem h]⟩

theorem allPresent_ok {idxs : List Nat} (h : ∀ idx ∈ idxs, idx < b.fragments.length) :
    ∃ present, b.allPresent idxs = .ok present := by
  induction idxs with
  | nil => exact ⟨true, rfl⟩
  | cons idx rest ih =>
      obtain ⟨fragment, hf⟩ := fragment_ok (h idx (List.mem_cons_self ..))
      simp only [allPresent, hf, Outcome.ok_bind]
      cases fragment with
      | none => exact ⟨false, rfl⟩
      | some _ => exact ih (fun i hi => h i (List.mem_cons_of_mem _ hi))

theorem merged_ok {idxs : List Nat} (h : ∀ idx ∈ idxs, idx < b.fragments.length) :
    ∃ data, b.merged idxs = .ok data := by
  induction idxs with
  | nil => exact ⟨[], rfl⟩
  | cons idx rest ih =>
      obtain ⟨chunk, hf⟩ := fragment_ok (h idx (List.mem_cons_self ..))
      obtain ⟨data, hdata⟩ := ih (fun i hi => h i (List.mem_cons_of_mem _ hi))
      exact ⟨chunk.getD [] ++ data, by rw [merged, hf, Outcome.ok_bind, hdata, Outcome.ok_bind]⟩

theorem assembled_ok (h : b.Bounded) : ∃ data, b.assembled = .ok data := by
  simp only [assembled]
  cases he : b.endSeq with
  | none => exact ⟨none, rfl⟩
  | some endSeq =>
      have hidx : ∀ idx ∈ List.range' 1 endSeq.toNat, idx < b.fragments.length := by
        intro idx hi
        have := List.mem_range'_1.mp hi
        have := h endSeq he
        omega
      obtain ⟨present, hpresent⟩ := allPresent_ok hidx
      obtain ⟨data, hdata⟩ := merged_ok hidx
      simp only [hpresent, hdata, Outcome.ok_bind]
      split_ifs
      · exact ⟨_, rfl⟩
      · exact ⟨_, rfl⟩

-- No index is out of range.
theorem insert_ok (h : b.Bounded) (seq : UInt8) (isLast : Bool) (data : List UInt8) (now : Time) :
    ∃ assembled b', b.insert seq isLast data now = .ok (assembled, b') ∧ b'.Bounded := by
  simp only [insert]
  split_ifs with hseq
  · exact ⟨none, b, rfl, h⟩
  · obtain ⟨_, hlt⟩ := not_or.mp hseq
    have hb := store_bounded (restart_bounded h seq now)
      (by rw [restart_length]; exact Nat.lt_of_not_le hlt) isLast data now
    obtain ⟨assembled, ha⟩ := assembled_ok hb
    exact ⟨assembled, _, by rw [ha, Outcome.ok_bind], hb⟩

end FragBuffer

end Usque
