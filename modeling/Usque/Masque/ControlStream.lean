import Mathlib.Tactic.IntervalCases
import Usque.Masque.Control

namespace Usque

-- A capsule as the wire has it: a type, a length and that many bytes.
structure Capsule where
  kind : Nat
  payload : List UInt8
deriving DecidableEq, Repr

namespace Capsule

def Encodes (c : Capsule) (bytes : List UInt8) : Prop :=
  ∃ kind len, Varint.Encodes c.kind kind ∧ Varint.Encodes c.payload.length len ∧
    bytes = kind ++ len ++ c.payload

def next (buf : List UInt8) : Option (Capsule × List UInt8) := do
  let (kind, rest) ← Varint.next buf
  let (len, rest) ← Varint.next rest
  if rest.length < len then none else some (⟨kind, rest.take len⟩, rest.drop len)

theorem next_cases {buf rest : List UInt8} {c : Capsule} (h : next buf = some (c, rest)) :
    ∃ rest₁ rest₂, Varint.next buf = some (c.kind, rest₁) ∧
      Varint.next rest₁ = some (c.payload.length, rest₂) ∧ rest₂ = c.payload ++ rest := by
  obtain ⟨⟨kind, rest₁⟩, hkind, h⟩ := Option.bind_eq_some_iff.mp h
  obtain ⟨⟨len, rest₂⟩, hlen, h⟩ := Option.bind_eq_some_iff.mp h
  dsimp only at hlen h
  split at h
  · cases h
  · next hle =>
      cases h
      refine ⟨rest₁, rest₂, hkind, ?_, (List.take_append_drop ..).symm⟩
      rw [List.length_take_of_le (Nat.le_of_not_lt hle)]
      exact hlen

theorem next_iff {buf rest : List UInt8} {c : Capsule} :
    next buf = some (c, rest) ↔ ∃ bytes, c.Encodes bytes ∧ buf = bytes ++ rest := by
  constructor
  · intro h
    obtain ⟨rest₁, rest₂, hkind, hlen, hrest⟩ := next_cases h
    obtain ⟨kind, henc, rfl⟩ := Varint.next_encodes hkind
    obtain ⟨len, henc', rfl⟩ := Varint.next_encodes hlen
    exact ⟨kind ++ len ++ c.payload, ⟨kind, len, henc, henc', rfl⟩, by simp [hrest]⟩
  · rintro ⟨bytes, ⟨kind, len, hkind, hlen, rfl⟩, rfl⟩
    have htype := Varint.next_of_encodes hkind (len ++ (c.payload ++ rest))
    have hlength := Varint.next_of_encodes hlen (c.payload ++ rest)
    rw [List.append_assoc, List.append_assoc]
    simp only [next, htype, hlength, Option.bind_eq_bind, Option.bind_some]
    rw [if_neg (by rw [List.length_append]; omega), List.take_left, List.drop_left]

def framing : Framing UInt8 Capsule where
  next := next
  shorter := by
    intro buf rest c h
    obtain ⟨rest₁, rest₂, hkind, hlen, hrest⟩ := next_cases h
    have hkind := (Varint.next_length hkind).1
    have hlen := (Varint.next_length hlen).1
    rw [hrest, List.length_append] at hlen
    omega
  stable := by
    intro buf rest c more h
    obtain ⟨bytes, hbytes, rfl⟩ := next_iff.mp h
    exact next_iff.mpr ⟨bytes, hbytes, List.append_assoc ..⟩

-- Parsing a capsule: what it assigns and what it advertises.
def interpret (c : Capsule) : Except MasqueError (List String × List String) :=
  if c.kind = 0x01 then (parseAddressAssignCapsule c.payload).map (·, [])
  else if c.kind = 0x03 then (parseRouteAdvertisementCapsule c.payload).map ([], ·)
  else .ok ([], [])

def absorb (lists : List String × List String) (c : Capsule) :
    Except MasqueError (List String × List String) :=
  c.interpret.map (fun new => (lists.1 ++ new.1, lists.2 ++ new.2))

end Capsule

-- The bytes are these capsules and then a rest that is not a whole capsule.
inductive Capsules : List UInt8 → List Capsule → List UInt8 → Prop where
  | rest {bytes : List UInt8}
      (h : ∀ (c : Capsule) capsule more, c.Encodes capsule → bytes ≠ capsule ++ more) :
      Capsules bytes [] bytes
  | capsule {c : Capsule} {capsule bytes rest : List UInt8} {cs : List Capsule}
      (hc : c.Encodes capsule) (h : Capsules bytes cs rest) :
      Capsules (capsule ++ bytes) (c :: cs) rest

theorem capsules_frames (bytes : List UInt8) :
    Capsules bytes (Capsule.framing.frames bytes).1 (Capsule.framing.frames bytes).2 := by
  induction hn : bytes.length using Nat.strongRecOn generalizing bytes with
  | ind n ih =>
      cases hf : Capsule.framing.next bytes with
      | none =>
          rw [Framing.frames_none hf]
          refine .rest (fun c capsule more hc he => ?_)
          have hnext := Capsule.next_iff.mpr ⟨capsule, hc, he⟩
          rw [show Capsule.next bytes = none from hf] at hnext
          cases hnext
      | some r =>
          obtain ⟨c, rest⟩ := r
          have hshort := Capsule.framing.shorter hf
          obtain ⟨capsule, hc, rfl⟩ := Capsule.next_iff.mp hf
          rw [Framing.frames_some hf]
          exact .capsule hc (ih rest.length (hn ▸ hshort) rest rfl)

theorem Capsules.frames {bytes rest : List UInt8} {cs : List Capsule}
    (h : Capsules bytes cs rest) : Capsule.framing.frames bytes = (cs, rest) := by
  induction h with
  | @rest bytes h =>
      refine Framing.frames_none ?_
      cases hf : Capsule.framing.next bytes with
      | none => rfl
      | some r =>
          obtain ⟨c, more⟩ := r
          obtain ⟨capsule, hc, he⟩ := Capsule.next_iff.mp hf
          exact absurd he (h c capsule more hc)
  | @capsule c capsule bytes rest cs hc _ ih =>
      have hnext : Capsule.framing.next (capsule ++ bytes) = some (c, bytes) :=
        Capsule.next_iff.mpr ⟨capsule, hc, rfl⟩
      rw [Framing.frames_some hnext, ih]

def referenceDecoding (capsules : List Capsule) (rest : List UInt8) :
    Except MasqueError Unit × List String × List String :=
  match Framing.handle Capsule.absorb ([], []) capsules with
  | (.error e, lists) => (.error e, lists)
  | (.ok (), lists) =>
      (if rest = [] then .ok ()
        else .error (.connectionError "truncated MASQUE control capsule"), lists)

section varint

theorem or_byte (n k : Nat) {b : Nat} (hb : b < 256) :
    n * 2 ^ (k + 8) ||| b * 2 ^ k = (n * 256 + b) * 2 ^ k := by
  have hsum : n * 2 ^ 8 + b = n * 2 ^ 8 ||| b := by
    rw [← Nat.shiftLeft_eq]
    exact Nat.shiftLeft_add_eq_or_of_lt hb n
  have hsplit : n * 2 ^ (k + 8) = n * 2 ^ 8 * 2 ^ k := by
    rw [Nat.pow_add, Nat.mul_assoc, Nat.mul_comm (2 ^ k)]
  rw [hsplit, ← Nat.shiftLeft_eq (n * 2 ^ 8) k, ← Nat.shiftLeft_eq b k,
    ← Nat.shiftLeft_or_distrib, ← hsum, Nat.shiftLeft_eq]
  rfl

theorem toNat_shift (b : UInt8) {k : UInt64} (hk : k.toNat ≤ 56) :
    (b.toUInt64 <<< k).toNat = b.toNat * 2 ^ k.toNat := by
  have hb := b.toNat_lt
  have hpow : 2 ^ k.toNat ≤ 2 ^ 56 := Nat.pow_le_pow_right (by decide) hk
  have hlt : b.toNat * 2 ^ k.toNat < 2 ^ 64 := by
    calc b.toNat * 2 ^ k.toNat ≤ 255 * 2 ^ 56 := Nat.mul_le_mul (by omega) hpow
      _ < 2 ^ 64 := by decide
  have hmod : k.toNat % 64 = k.toNat := Nat.mod_eq_of_lt (by omega)
  rw [UInt64.toNat_shiftLeft, UInt8.toNat_toUInt64, hmod, Nat.shiftLeft_eq, Nat.mod_eq_of_lt hlt]

theorem toNat_or_shift {v : UInt64} {n : Nat} (b : UInt8) {k : UInt64} (hk : k.toNat ≤ 56)
    (hv : v.toNat = n * 2 ^ (k.toNat + 8)) :
    (v ||| b.toUInt64 <<< k).toNat = (n * 256 + b.toNat) * 2 ^ k.toNat := by
  rw [UInt64.toNat_or, hv, toNat_shift b hk, or_byte n _ b.toNat_lt]

theorem toNat_or_last {v : UInt64} {n : Nat} (b : UInt8) (hv : v.toNat = n * 2 ^ 8) :
    (v ||| b.toUInt64).toNat = n * 256 + b.toNat := by
  have h := or_byte n 0 b.toNat_lt
  simp only [Nat.zero_add, Nat.pow_zero, Nat.mul_one] at h
  rw [UInt64.toNat_or, hv, UInt8.toNat_toUInt64, h]

theorem toNat_mask (b : UInt8) : (b &&& 0x3f).toNat = b.toNat % 64 := by
  rw [UInt8.toNat_and]
  exact Nat.and_two_pow_sub_one_eq_mod b.toNat 6

theorem varintValue_one (b : UInt8) (rest : List UInt8) :
    (varintValue (b :: rest) 1).toNat = Varint.number [b] % 2 ^ 6 := by
  have hb := toNat_mask b
  simp only [varintValue, List.getD_cons_zero, UInt8.toNat_toUInt64, hb, Varint.number,
    List.foldl_cons, List.foldl_nil]
  omega

theorem varintValue_two (b₀ b₁ : UInt8) (rest : List UInt8) :
    (varintValue (b₀ :: b₁ :: rest) 2).toNat = Varint.number [b₀, b₁] % 2 ^ 14 := by
  have hb := toNat_mask b₀
  have h₀ := toNat_shift (b₀ &&& 0x3f) (k := 8) (by decide)
  have h₁ := toNat_or_last b₁ h₀
  have hlt := b₁.toNat_lt
  simp only [varintValue, byteAt, List.getD_cons_zero, List.getD_cons_succ, h₁, hb, Varint.number,
    List.foldl_cons, List.foldl_nil]
  omega

theorem varintValue_four (b₀ b₁ b₂ b₃ : UInt8) (rest : List UInt8) :
    (varintValue (b₀ :: b₁ :: b₂ :: b₃ :: rest) 4).toNat =
      Varint.number [b₀, b₁, b₂, b₃] % 2 ^ 30 := by
  have hb := toNat_mask b₀
  have h₀ := toNat_shift (b₀ &&& 0x3f) (k := 24) (by decide)
  have h₁ := toNat_or_shift b₁ (k := 16) (by decide) h₀
  have h₂ := toNat_or_shift b₂ (k := 8) (by decide) h₁
  have h₃ := toNat_or_last b₃ h₂
  have hlt₁ := b₁.toNat_lt
  have hlt₂ := b₂.toNat_lt
  have hlt₃ := b₃.toNat_lt
  simp only [varintValue, byteAt, List.getD_cons_zero, List.getD_cons_succ, h₃, hb, Varint.number,
    List.foldl_cons, List.foldl_nil]
  omega

theorem varintValue_eight (b₀ b₁ b₂ b₃ b₄ b₅ b₆ b₇ : UInt8) (rest : List UInt8) :
    (varintValue (b₀ :: b₁ :: b₂ :: b₃ :: b₄ :: b₅ :: b₆ :: b₇ :: rest) 8).toNat =
      Varint.number [b₀, b₁, b₂, b₃, b₄, b₅, b₆, b₇] % 2 ^ 62 := by
  have hb := toNat_mask b₀
  have h₀ := toNat_shift (b₀ &&& 0x3f) (k := 56) (by decide)
  have h₁ := toNat_or_shift b₁ (k := 48) (by decide) h₀
  have h₂ := toNat_or_shift b₂ (k := 40) (by decide) h₁
  have h₃ := toNat_or_shift b₃ (k := 32) (by decide) h₂
  have h₄ := toNat_or_shift b₄ (k := 24) (by decide) h₃
  have h₅ := toNat_or_shift b₅ (k := 16) (by decide) h₄
  have h₆ := toNat_or_shift b₆ (k := 8) (by decide) h₅
  have h₇ := toNat_or_last b₇ h₆
  have hlt₁ := b₁.toNat_lt
  have hlt₂ := b₂.toNat_lt
  have hlt₃ := b₃.toNat_lt
  have hlt₄ := b₄.toNat_lt
  have hlt₅ := b₅.toNat_lt
  have hlt₆ := b₆.toNat_lt
  have hlt₇ := b₇.toNat_lt
  simp only [varintValue, byteAt, List.getD_cons_zero, List.getD_cons_succ, h₇, hb, Varint.number,
    List.foldl_cons, List.foldl_nil]
  omega

theorem varintValue_number {first : UInt8} {tail : List UInt8}
    (h : Varint.width first ≤ (first :: tail).length) :
    (varintValue (first :: tail) (Varint.width first)).toNat =
      Varint.number ((first :: tail).take (Varint.width first)) %
        2 ^ (8 * Varint.width first - 2) := by
  have hb := first.toNat_lt
  have hq : first.toNat / 64 ≤ 3 := by omega
  simp only [Varint.width] at h ⊢
  interval_cases hk : first.toNat / 64
  · exact varintValue_one first tail
  · rcases tail with _ | ⟨b₁, rest⟩
    · simp at h
    · exact varintValue_two first b₁ rest
  · rcases tail with _ | ⟨b₁, _ | ⟨b₂, _ | ⟨b₃, rest⟩⟩⟩
    case cons.cons.cons => exact varintValue_four first b₁ b₂ b₃ rest
    all_goals simp at h
  · rcases tail with
      _ | ⟨b₁, _ | ⟨b₂, _ | ⟨b₃, _ | ⟨b₄, _ | ⟨b₅, _ | ⟨b₆, _ | ⟨b₇, rest⟩⟩⟩⟩⟩⟩⟩
    case cons.cons.cons.cons.cons.cons.cons =>
      exact varintValue_eight first b₁ b₂ b₃ b₄ b₅ b₆ b₇ rest
    all_goals simp at h

theorem shift_width (first : UInt8) : 1 <<< (first >>> 6).toNat = Varint.width first := by
  have hshift : first.toNat >>> (UInt8.toNat 6 % 8) = first.toNat / 64 :=
    Nat.shiftRight_eq_div_pow ..
  rw [Nat.one_shiftLeft, Varint.width, UInt8.toNat_shiftRight, hshift]

theorem tryDecodeVarint_next (buf : List UInt8) :
    (tryDecodeVarint buf).map (fun r => (r.1.toNat, buf.drop r.2)) = Varint.next buf := by
  cases buf with
  | nil => rfl
  | cons first tail =>
      simp only [tryDecodeVarint, decodeVarint, shift_width, Varint.next]
      split
      · rfl
      · next hlen =>
          rw [← varintValue_number (Nat.le_of_not_lt hlen)]
          rfl

theorem tryDecodeVarint_none {buf : List UInt8} (h : tryDecodeVarint buf = none) :
    Varint.next buf = none := by
  rw [← tryDecodeVarint_next, h]
  rfl

theorem tryDecodeVarint_some {buf : List UInt8} {value : UInt64} {len : Nat}
    (h : tryDecodeVarint buf = some (value, len)) :
    Varint.next buf = some (value.toNat, buf.drop len) := by
  rw [← tryDecodeVarint_next, h]
  rfl

end varint

-- What split_to cuts off is the next capsule; a length never overflows.
theorem splitFrame_next (buf : List UInt8) :
    (Capsule.next buf = none ∧ splitFrame buf = .ok none) ∨
      ∃ frame : Frame, splitFrame buf = .ok (some frame) ∧
        Capsule.next buf = some (⟨frame.capsuleType.toNat, frame.payload⟩, frame.rest) := by
  cases htype : tryDecodeVarint buf with
  | none =>
      refine .inl ⟨?_, ?_⟩
      · simp only [Capsule.next, tryDecodeVarint_none htype, Option.bind_eq_bind, Option.bind_none]
      · simp only [splitFrame, htype]
  | some r =>
      obtain ⟨capsuleType, typeLen⟩ := r
      have hnext := tryDecodeVarint_some htype
      obtain ⟨_, htypeLen⟩ := decodeVarint_len htype
      cases hlen : tryDecodeVarint (buf.drop typeLen) with
      | none =>
          refine .inl ⟨?_, ?_⟩
          · simp only [Capsule.next, hnext, tryDecodeVarint_none hlen, Option.bind_eq_bind,
              Option.bind_some, Option.bind_none]
          · simp only [splitFrame, htype, hlen]
      | some r =>
          obtain ⟨capsuleLen, lenLen⟩ := r
          have hnext' := tryDecodeVarint_some hlen
          obtain ⟨_, hlenLen⟩ := decodeVarint_len hlen
          have hvalue := Varint.next_lt hnext'
          have height := (Varint.next_length hnext).2
          have height' := (Varint.next_length hnext').2
          simp only [List.length_drop] at hlenLen height height'
          have husize : asUsize capsuleLen = capsuleLen.toNat := Nat.mod_eq_of_lt capsuleLen.toNat_lt
          have hadd : checkedAdd typeLen lenLen = some (typeLen + lenLen) :=
            if_pos (by simp only [usizeBits]; omega)
          have hframe : checkedAdd (typeLen + lenLen) (asUsize capsuleLen) =
              some (typeLen + lenLen + capsuleLen.toNat) := by
            rw [husize]
            exact if_pos (by simp only [usizeBits]; omega)
          have hdrop : (buf.drop typeLen).drop lenLen = buf.drop (typeLen + lenLen) :=
            List.drop_drop ..
          simp only [splitFrame, htype, hlen, hadd, Option.bind_some, hframe, Capsule.next, hnext,
            hnext', Option.bind_eq_bind, hdrop, List.length_drop]
          by_cases hshort : buf.length < typeLen + lenLen + capsuleLen.toNat
          · exact .inl ⟨if_pos (by omega), if_pos hshort⟩
          · refine .inr ⟨_, if_neg hshort, ?_⟩
            rw [if_neg (by omega), List.drop_take, List.drop_drop]
            simp

def MasqueControlState.lists (st : MasqueControlState) : List String × List String :=
  (st.assignedAddresses, st.advertisedRoutes)

theorem processCapsule_absorb (st : MasqueControlState) (capsuleType : UInt64)
    (payload : List UInt8) :
    (st.processCapsule capsuleType payload).map MasqueControlState.lists =
      Capsule.absorb st.lists ⟨capsuleType.toNat, payload⟩ := by
  have h1 : capsuleType = 0x01 ↔ capsuleType.toNat = 0x01 := UInt64.toNat_inj.symm
  have h3 : capsuleType = 0x03 ↔ capsuleType.toNat = 0x03 := UInt64.toNat_inj.symm
  simp only [MasqueControlState.processCapsule, Capsule.absorb, Capsule.interpret]
  split
  · rw [if_pos (h1.mp rfl)]
    cases parseAddressAssignCapsule payload with
    | error e => rfl
    | ok addresses => simp [MasqueControlState.lists, Except.map, bind, Except.bind]
  · rw [if_neg (by decide), if_pos (h3.mp rfl)]
    cases parseRouteAdvertisementCapsule payload with
    | error e => rfl
    | ok routes => simp [MasqueControlState.lists, Except.map, bind, Except.bind]
  · next hone hthree =>
      rw [if_neg (fun h => hone (h1.mpr h)), if_neg (fun h => hthree (h3.mpr h))]
      simp [MasqueControlState.lists, Except.map]

namespace MasqueControlState

theorem drainCapsules_none {st : MasqueControlState} (h : splitFrame st.recvBuf = .ok none) :
    st.drainCapsules = (.ok (), st) := by
  rw [drainCapsules]
  split
  · next hf =>
      rw [h] at hf
      cases hf
  · rfl
  · next hf =>
      rw [h] at hf
      cases hf

theorem drainCapsules_some {st : MasqueControlState} {frame : Frame}
    (h : splitFrame st.recvBuf = .ok (some frame)) :
    st.drainCapsules =
      match { st with recvBuf := frame.rest }.processCapsule frame.capsuleType frame.payload with
      | .error e => (.error e, { st with recvBuf := frame.rest })
      | .ok st' => st'.drainCapsules := by
  rw [drainCapsules]
  split
  · next hf =>
      rw [h] at hf
      cases hf
  · next hf =>
      rw [h] at hf
      cases hf
  · next hf =>
      rw [h] at hf
      cases hf
      split
      · next hp => simp only [hp]
      · next hp => simp only [hp]

-- The loop handles the capsules that are whole and keeps the rest.
structure Handled (st : MasqueControlState) (r : Except MasqueError Unit × MasqueControlState) :
    Prop where
  result : (r.1, r.2.lists) =
    Framing.handle Capsule.absorb st.lists (Capsule.framing.frames st.recvBuf).1
  rest : r.1 = .ok () → r.2.recvBuf = (Capsule.framing.frames st.recvBuf).2

theorem drainCapsules_handled (st : MasqueControlState) : Handled st st.drainCapsules := by
  induction hn : st.recvBuf.length using Nat.strongRecOn generalizing st with
  | ind n ih =>
      rcases splitFrame_next st.recvBuf with ⟨hnext, hsplit⟩ | ⟨frame, hsplit, hnext⟩
      · have hframes := Framing.frames_none (F := Capsule.framing) hnext
        rw [drainCapsules_none hsplit]
        refine ⟨?_, fun _ => ?_⟩
        · rw [hframes]
          rfl
        · rw [hframes]
      · have hframes := Framing.frames_some (F := Capsule.framing) hnext
        have habsorb := processCapsule_absorb { st with recvBuf := frame.rest } frame.capsuleType
          frame.payload
        rw [drainCapsules_some hsplit]
        cases hp : { st with recvBuf := frame.rest }.processCapsule frame.capsuleType
            frame.payload with
        | error e =>
            rw [hp] at habsorb
            refine ⟨?_, nofun⟩
            rw [hframes]
            have hlists : st.lists = lists { st with recvBuf := frame.rest } := rfl
            simp only [Framing.handle, hlists, ← habsorb, Except.map]
        | ok st' =>
            rw [hp] at habsorb
            have hrest : st'.recvBuf = frame.rest := processCapsule_recvBuf hp
            have hshort := Capsule.framing.shorter hnext
            have hhandled := ih st'.recvBuf.length (by rw [hrest, ← hn]; exact hshort) st' rfl
            refine ⟨?_, fun hok => ?_⟩
            · rw [hhandled.result, hframes, hrest]
              simp only [Framing.handle,
                show st.lists = lists { st with recvBuf := frame.rest } from rfl, ← habsorb,
                Except.map]
            · rw [hhandled.rest hok, hframes, hrest]

def view (r : Except MasqueError Unit × MasqueControlState) :
    Except MasqueError Unit × List String × List String :=
  (r.1, r.2.lists)

def finished (bytes : List UInt8) (lists : List String × List String) :
    Except MasqueError Unit × List String × List String :=
  match Framing.handle Capsule.absorb lists (Capsule.framing.frames bytes).1 with
  | (.error e, lists) => (.error e, lists)
  | (.ok (), lists) =>
      (if (Capsule.framing.frames bytes).2 = [] then .ok ()
        else .error (.connectionError "truncated MASQUE control capsule"), lists)

theorem processControlChunk_fin (st : MasqueControlState) (chunk : List UInt8) :
    view (st.processControlChunk chunk true) = finished (st.recvBuf ++ chunk) st.lists := by
  obtain ⟨hresult, hrest⟩ := drainCapsules_handled { st with recvBuf := st.recvBuf ++ chunk }
  rw [show lists { st with recvBuf := st.recvBuf ++ chunk } = st.lists from rfl] at hresult
  simp only [processControlChunk, finished, ← hresult]
  cases hd : drainCapsules { st with recvBuf := st.recvBuf ++ chunk } with
  | mk result st' =>
      rw [hd] at hrest
      cases result with
      | error e => rfl
      | ok u =>
          have hrest : st'.recvBuf = (Capsule.framing.frames (st.recvBuf ++ chunk)).2 := hrest rfl
          simp only [Bool.true_and, ← hrest]
          cases hb : st'.recvBuf with
          | nil => rfl
          | cons b bs => rfl

theorem processControlChunks_finished (chunk : List UInt8) (chunks : List (List UInt8))
    (st : MasqueControlState) :
    view (st.processControlChunks (chunk :: chunks)) =
      finished (st.recvBuf ++ (chunk :: chunks).flatten) st.lists := by
  induction chunks generalizing chunk st with
  | nil =>
      simp only [processControlChunks, List.flatten_cons, List.flatten_nil, List.append_nil]
      exact st.processControlChunk_fin chunk
  | cons next chunks ih =>
      obtain ⟨hresult, hrest⟩ := drainCapsules_handled { st with recvBuf := st.recvBuf ++ chunk }
      rw [show lists { st with recvBuf := st.recvBuf ++ chunk } = st.lists from rfl] at hresult
      have hframes := Framing.frames_append (F := Capsule.framing) (st.recvBuf ++ chunk)
        (next :: chunks).flatten
      rw [List.flatten_cons, ← List.append_assoc]
      simp only [processControlChunks, processControlChunk, finished, hframes,
        Framing.handle_append, ← hresult]
      cases hd : drainCapsules { st with recvBuf := st.recvBuf ++ chunk } with
      | mk result st' =>
          rw [hd] at hrest
          cases result with
          | error e => rfl
          | ok u =>
              have hrest : st'.recvBuf = (Capsule.framing.frames (st.recvBuf ++ chunk)).2 :=
                hrest rfl
              have hind := ih next st'
              rw [hrest] at hind
              exact hind

theorem finished_reference {bytes rest : List UInt8} {capsules : List Capsule}
    (h : Capsules bytes capsules rest) :
    finished bytes ([], []) = referenceDecoding capsules rest := by
  simp only [finished, referenceDecoding, h.frames]

end MasqueControlState

end Usque
