import Mathlib.Data.List.Basic
import Usque.Lib.Run

namespace Usque

-- Where one of the two loops is: at its read, or in write_all with these bytes still to go.
inductive CopyPc where
  | reading
  | writing (rest : List UInt8)
deriving DecidableEq, Repr

def CopyPc.held : CopyPc → List UInt8
  | .reading => []
  | .writing rest => rest

-- One direction, from the side that sends to the socket of the other side. `sent` is ghost.
structure BindFlow where
  inbox : List UInt8
  finished : Bool
  pc : CopyPc
  written : List UInt8
  sent : List UInt8
deriving DecidableEq, Repr

inductive Direction where
  | clientToIncoming
  | incomingToClient
deriving DecidableEq, Repr

def Direction.other : Direction → Direction
  | .clientToIncoming => .incomingToClient
  | .incomingToClient => .clientToIncoming

-- SocksTunables::from_env keeps only a size above zero.
structure ReadBuffer where
  size : Nat
  pos : 0 < size

namespace BindFlow

def new : BindFlow := ⟨[], false, .reading, [], []⟩

def send (f : BindFlow) (data : List UInt8) : Option BindFlow :=
  if f.finished then none else some { f with inbox := f.inbox ++ data, sent := f.sent ++ data }

def read (buf : ReadBuffer) (n : Nat) (f : BindFlow) : Option BindFlow :=
  if f.pc = .reading ∧ 0 < n ∧ n ≤ buf.size ∧ n ≤ f.inbox.length then
    some { f with inbox := f.inbox.drop n, pc := .writing (f.inbox.take n) }
  else none

def readsEof (f : BindFlow) : Bool := f.pc = .reading ∧ f.inbox = [] ∧ f.finished

def write (n : Nat) (f : BindFlow) : Option BindFlow :=
  match f.pc with
  | .reading => none
  | .writing rest =>
      if 0 < n ∧ n ≤ rest.length then
        some { f with
          pc := if (rest.drop n).isEmpty then .reading else .writing (rest.drop n)
          written := f.written ++ rest.take n }
      else none

end BindFlow

structure BindRelay where
  clientToIncoming : BindFlow
  incomingToClient : BindFlow
  returned : Bool
deriving DecidableEq, Repr

inductive BindLabel where
  | send (d : Direction) (data : List UInt8)
  | finish (d : Direction)
  | read (d : Direction) (n : Nat)
  | readEof (d : Direction)
  | write (d : Direction) (n : Nat)
deriving DecidableEq, Repr

namespace BindRelay

def new : BindRelay := ⟨.new, .new, false⟩

def flow (s : BindRelay) : Direction → BindFlow
  | .clientToIncoming => s.clientToIncoming
  | .incomingToClient => s.incomingToClient

def setFlow (s : BindRelay) (d : Direction) (f : BindFlow) : BindRelay :=
  match d with
  | .clientToIncoming => { s with clientToIncoming := f }
  | .incomingToClient => { s with incomingToClient := f }

-- The select takes the first loop that ends and drops the other, wherever it is.
def step (buf : ReadBuffer) (s : BindRelay) : BindLabel → Option BindRelay
  | .send d data => ((s.flow d).send data).map (s.setFlow d)
  | .finish d => some (s.setFlow d { s.flow d with finished := true })
  | .read d n => if s.returned then none else ((s.flow d).read buf n).map (s.setFlow d)
  | .readEof d =>
      if ¬ s.returned ∧ (s.flow d).readsEof then some { s with returned := true } else none
  | .write d n => if s.returned then none else ((s.flow d).write n).map (s.setFlow d)

-- All that was ever sent has been written.
def delivered (s : BindRelay) : Prop :=
  s.returned = true → ∀ d, (s.flow d).written = (s.flow d).sent

instance (s : BindRelay) : Decidable s.delivered :=
  decidable_of_iff (s.returned = true →
      s.clientToIncoming.written = s.clientToIncoming.sent ∧
        s.incomingToClient.written = s.incomingToClient.sent)
    ⟨fun h hr d => by cases d; exacts [(h hr).1, (h hr).2],
      fun h hr => ⟨h hr .clientToIncoming, h hr .incomingToClient⟩⟩

@[simp] theorem flow_setFlow (s : BindRelay) (d : Direction) (f : BindFlow) :
    (s.setFlow d f).flow d = f := by
  cases d <;> rfl

theorem flow_setFlow_of_ne (s : BindRelay) {d d' : Direction} (h : d' ≠ d) (f : BindFlow) :
    (s.setFlow d f).flow d' = s.flow d' := by
  cases d <;> cases d' <;> first | rfl | exact absurd rfl h

@[simp] theorem returned_setFlow (s : BindRelay) (d : Direction) (f : BindFlow) :
    (s.setFlow d f).returned = s.returned := by
  cases d <;> rfl

end BindRelay

-- What was sent is written, in the loop's buffer, or unread.
structure BindFlow.Accounted (f : BindFlow) : Prop where
  sent : f.sent = f.written ++ f.pc.held ++ f.inbox
  busy : f.pc ≠ .writing []

-- The side has ended and nothing of it is left over.
def BindFlow.Drained (f : BindFlow) : Prop := f.finished = true ∧ f.inbox = [] ∧ f.pc = .reading

instance (f : BindFlow) : Decidable f.Drained :=
  inferInstanceAs (Decidable (_ ∧ _ ∧ _))

namespace BindFlow

variable {f f' : BindFlow}

theorem Accounted.send (h : f.Accounted) {data : List UInt8} (hs : f.send data = some f') :
    f'.Accounted := by
  simp only [BindFlow.send] at hs
  split at hs
  · cases hs
  · cases hs
    refine ⟨?_, h.busy⟩
    show f.sent ++ data = f.written ++ f.pc.held ++ (f.inbox ++ data)
    rw [h.sent, List.append_assoc _ f.inbox data]

theorem Accounted.read (h : f.Accounted) {buf : ReadBuffer} {n : Nat}
    (hr : f.read buf n = some f') : f'.Accounted := by
  simp only [BindFlow.read] at hr
  split at hr
  · next hg =>
      obtain ⟨hpc, hpos, _, hle⟩ := hg
      cases hr
      have hsent := h.sent
      rw [hpc, CopyPc.held, List.append_nil] at hsent
      constructor
      · show f.sent = f.written ++ f.inbox.take n ++ f.inbox.drop n
        rw [List.append_assoc, List.take_append_drop, hsent]
      · intro hnil
        have hlen := congrArg List.length (CopyPc.writing.inj hnil)
        rw [List.length_take_of_le hle, List.length_nil] at hlen
        omega
  · cases hr

theorem Accounted.write (h : f.Accounted) {n : Nat} (hw : f.write n = some f') :
    f'.Accounted := by
  simp only [BindFlow.write] at hw
  split at hw
  · cases hw
  · next rest hpc =>
      split at hw
      · cases hw
        have hsent := h.sent
        rw [hpc, CopyPc.held] at hsent
        by_cases hempty : (rest.drop n).isEmpty = true
        · have hnil := List.isEmpty_iff.mp hempty
          constructor
          · show f.sent = f.written ++ rest.take n ++ CopyPc.held _ ++ f.inbox
            have hall : rest.take n = rest := List.take_of_length_le (List.drop_eq_nil_iff.mp hnil)
            rw [if_pos hempty, CopyPc.held, List.append_nil, hall, hsent]
          · show (if _ then CopyPc.reading else _) ≠ _
            rw [if_pos hempty]
            exact nofun
        · constructor
          · show f.sent = f.written ++ rest.take n ++ CopyPc.held _ ++ f.inbox
            rw [if_neg hempty, CopyPc.held, hsent, List.append_assoc f.written (rest.take n),
              List.take_append_drop]
          · show (if _ then CopyPc.reading else _) ≠ _
            rw [if_neg hempty]
            intro hnil
            rw [CopyPc.writing.inj hnil] at hempty
            exact hempty rfl
      · cases hw

theorem Accounted.written_iff (h : f.Accounted) :
    f.written = f.sent ↔ f.inbox = [] ∧ f.pc = .reading := by
  rw [h.sent, List.append_assoc, List.self_eq_append_right, List.append_eq_nil_iff]
  constructor
  · rintro ⟨hheld, hin⟩
    refine ⟨hin, ?_⟩
    cases hpc : f.pc with
    | reading => rfl
    | writing rest =>
        rw [hpc, CopyPc.held] at hheld
        exact absurd (hheld ▸ hpc) h.busy
  · rintro ⟨hin, hpc⟩
    exact ⟨by rw [hpc, CopyPc.held], hin⟩

theorem Accounted.drained (h : f.Accounted) (hd : f.Drained) : f.written = f.sent :=
  h.written_iff.mpr ⟨hd.2.1, hd.2.2⟩

end BindFlow

namespace BindRelay

variable {buf : ReadBuffer} {s t : BindRelay}

def Accounted (s : BindRelay) : Prop := ∀ d, (s.flow d).Accounted

theorem readEof_step {d : Direction} (hs : s.step buf (.readEof d) = some t) :
    s.returned = false ∧ (s.flow d).Drained ∧ t = { s with returned := true } := by
  simp only [step] at hs
  split at hs
  · next hr =>
      cases hs
      obtain ⟨hpc, hin, hfin⟩ := of_decide_eq_true hr.2
      exact ⟨(Bool.not_eq_true _).mp hr.1, ⟨hfin, hin, hpc⟩, rfl⟩
  · cases hs

-- A step moves one flow on, or it is the read that ends the relay.
theorem step_cases {label : BindLabel} (h : s.step buf label = some t) :
    (∃ d f, t = s.setFlow d f ∧ (((s.flow d).Accounted → f.Accounted) ∧
      (s.returned = true → (s.flow d).Drained → f = s.flow d))) ∨
    ∃ d, label = .readEof d ∧ s.returned = false ∧ (s.flow d).Drained ∧
      t = { s with returned := true } := by
  cases label with
  | send d data =>
      obtain ⟨f, hf, rfl⟩ := Option.map_eq_some_iff.mp h
      refine .inl ⟨d, f, rfl, fun ha => ha.send hf, fun _ hd => ?_⟩
      simp only [BindFlow.send, hd.1, if_true, reduceCtorEq] at hf
  | finish d =>
      cases h
      refine .inl ⟨d, _, rfl, fun ha => ⟨ha.sent, ha.busy⟩, fun _ hd => ?_⟩
      rw [← hd.1]
  | read d n =>
      simp only [step] at h
      split at h
      · cases h
      · next hr =>
          obtain ⟨f, hf, rfl⟩ := Option.map_eq_some_iff.mp h
          exact .inl ⟨d, f, rfl, fun ha => ha.read hf, fun hret => absurd hret hr⟩
  | readEof d =>
      obtain ⟨hopen, hd, ht⟩ := readEof_step h
      exact .inr ⟨d, rfl, hopen, hd, ht⟩
  | write d n =>
      simp only [step] at h
      split at h
      · cases h
      · next hr =>
          obtain ⟨f, hf, rfl⟩ := Option.map_eq_some_iff.mp h
          exact .inl ⟨d, f, rfl, fun ha => ha.write hf, fun hret => absurd hret hr⟩

theorem setFlow_accounted (h : s.Accounted) {d : Direction} {f : BindFlow}
    (hf : (s.flow d).Accounted → f.Accounted) : (s.setFlow d f).Accounted := by
  intro d'
  by_cases hd : d' = d
  · subst hd
    rw [flow_setFlow]
    exact hf (h d')
  · rw [flow_setFlow_of_ne s hd]
    exact h d'

theorem step_accounted {label : BindLabel} (h : s.Accounted) (hs : s.step buf label = some t) :
    t.Accounted := by
  rcases step_cases hs with ⟨d, f, rfl, hf, _⟩ | ⟨d, _, _, _, rfl⟩
  · exact setFlow_accounted h hf
  · intro d'
    cases d'
    · exact h .clientToIncoming
    · exact h .incomingToClient

-- The read that finds the end of one side comes after the other side's end is written too.
def endsDrained (s : BindRelay) : BindLabel → Prop
  | .readEof d => (s.flow d.other).Drained
  | _ => True

def Ended (s : BindRelay) : Prop := s.returned = true → ∀ d, (s.flow d).Drained

theorem step_ended {label : BindLabel} (h : s.Ended)
    (hg : s.returned = false → s.endsDrained label)
    (hs : s.step buf label = some t) : t.Ended := by
  rcases step_cases hs with ⟨d, f, rfl, _, hkeep⟩ | ⟨d, rfl, hopen, hd, rfl⟩
  · intro hr d'
    rw [returned_setFlow] at hr
    by_cases hd : d' = d
    · subst hd
      rw [flow_setFlow, hkeep hr (h hr d')]
      exact h hr d'
    · rw [flow_setFlow_of_ne s hd]
      exact h hr d'
  · intro _ d'
    have hother : (s.flow d.other).Drained := hg hopen
    cases d <;> cases d' <;> first | exact hd | exact hother

theorem new_accounted : new.Accounted := by
  intro d
  cases d <;> exact ⟨rfl, nofun⟩

theorem Ended.delivered (h : s.Ended) (ha : s.Accounted) : s.delivered :=
  fun hr d => (ha d).drained (h hr d)


-- Over every order of the reads and writes and of what the two sides do.
theorem bind_relay_delivers
    (h : Run.Reaches (step buf) (fun s label => s.endsDrained label) new s) : s.delivered := by
  have hboth := h.invariant (I := fun s => s.Accounted ∧ s.Ended)
    (fun s label t hi hg hs => ⟨step_accounted hi.1 hs, step_ended hi.2 (fun _ => hg) hs⟩)
    ⟨new_accounted, nofun⟩
  exact hboth.2.delivered hboth.1

-- Once the relay has returned, only what the sides send can still change.
theorem returned_delivers (h : Run.Reaches (step buf) Run.Any s t) (ha : s.Accounted)
    (he : s.Ended) (hr : s.returned = true) : t.delivered := by
  have hall : t.Accounted ∧ t.Ended ∧ t.returned = true := by
    refine h.invariant (I := fun s => s.Accounted ∧ s.Ended ∧ s.returned = true) ?_ ⟨ha, he, hr⟩
    rintro s label t ⟨ha, he, hr⟩ _ hs
    refine ⟨step_accounted ha hs, step_ended he (fun hopen => ?_) hs, ?_⟩
    · rw [hr] at hopen
      cases hopen
    · rcases step_cases hs with ⟨d, f, rfl, _, _⟩ | ⟨_, _, _, _, rfl⟩
      · rw [returned_setFlow, hr]
      · rfl
  exact hall.2.1.delivered hall.1

-- The condition is exact: where it fails, the relay's end leaves something out.
theorem returns_delivered_iff (ha : s.Accounted) {d : Direction}
    (hs : s.step buf (.readEof d) = some t) :
    (∀ u, Run.Reaches (step buf) Run.Any t u → u.delivered) ↔ (s.flow d.other).Drained := by
  have hat := step_accounted ha hs
  obtain ⟨hopen, hd, rfl⟩ := readEof_step hs
  have hflow : ∀ d', ({ s with returned := true } : BindRelay).flow d' = s.flow d' := by
    intro d'
    cases d' <;> rfl
  constructor
  · intro hall
    have hwritten := hall _ (.refl _) rfl d.other
    rw [hflow] at hwritten
    obtain ⟨hin, hpc⟩ := (ha d.other).written_iff.mp hwritten
    refine ⟨?_, hin, hpc⟩
    -- A side that has not ended may send another byte.
    by_contra hfin
    have hsend : ({ s with returned := true } : BindRelay).step buf (.send d.other [0]) =
        some (({ s with returned := true } : BindRelay).setFlow d.other
          { s.flow d.other with
            inbox := (s.flow d.other).inbox ++ [0], sent := (s.flow d.other).sent ++ [0] }) := by
      simp only [step, hflow, BindFlow.send, hfin, if_false, Option.map_some]
    have hlater := hall _ (Run.Reaches.single trivial hsend) (by rw [returned_setFlow]) d.other
    rw [flow_setFlow] at hlater
    have hlen := congrArg List.length (hwritten.symm.trans hlater)
    rw [List.length_append, List.length_singleton] at hlen
    omega
  · intro hother u hu
    refine returned_delivers hu hat (fun _ d' => ?_) rfl
    rw [hflow]
    cases d <;> cases d' <;> first | exact hd | exact hother

instance (s : BindRelay) (label : BindLabel) : Decidable (s.endsDrained label) :=
  match label with
  | .readEof d => inferInstanceAs (Decidable (s.flow d.other).Drained)
  | .send _ _ | .finish _ | .read _ _ | .write _ _ => .isTrue trivial

def defaultBuffer : ReadBuffer := ⟨64 * 1024, by decide⟩

def relayed : List BindLabel :=
  [.send .clientToIncoming [1], .finish .clientToIncoming, .finish .incomingToClient,
    .read .clientToIncoming 1, .write .clientToIncoming 1, .readEof .incomingToClient]

theorem bind_relay_delivers_both :
    ∃ s, Run.Reaches (step defaultBuffer) (fun s label => s.endsDrained label) new s ∧
      s.returned = true ∧ s.clientToIncoming.sent = [1] ∧ s.delivered := by
  have h : (Run.exec (step defaultBuffer) new relayed).any (fun s => s.returned = true ∧
      s.clientToIncoming.sent = [1]) = true := by decide
  have hg : Run.Guarded (step defaultBuffer) (fun s label => s.endsDrained label) new relayed := by
    decide
  obtain ⟨s, hs, hp⟩ := (Option.any_eq_true _ _).mp h
  obtain ⟨hr, hsent⟩ := of_decide_eq_true hp
  have hreach := Run.exec_guarded hs hg
  exact ⟨s, hreach, hr, hsent, bind_relay_delivers hreach⟩

def cutOff : List BindLabel :=
  [.send .incomingToClient [1], .finish .clientToIncoming, .readEof .clientToIncoming]

-- The client ends first, and what the other side has sent is never read.
theorem client_end_cuts_off :
    ∃ s, Run.Reaches (step defaultBuffer) Run.Any new s ∧ s.returned = true ∧
      s.incomingToClient.sent = [1] ∧ s.incomingToClient.written = [] ∧ ¬ s.delivered := by
  have h : (Run.exec (step defaultBuffer) new cutOff).any (fun s => s.returned = true ∧
      s.incomingToClient.sent = [1] ∧ s.incomingToClient.written = [] ∧ ¬ s.delivered) = true := by
    decide
  obtain ⟨s, hs, hp⟩ := (Option.any_eq_true _ _).mp h
  exact ⟨s, Run.exec_reaches hs, of_decide_eq_true hp⟩

end BindRelay

end Usque
