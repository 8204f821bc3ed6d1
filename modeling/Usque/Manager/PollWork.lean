import Usque.Manager.Counters
import Usque.Manager.Script

namespace Usque

namespace RuntimeState

variable {S : Smoltcp}

-- What keeps the loop polling: nothing here speaks of the timers that smoltcp holds.
def OpenWork (rt : RuntimeState S) : Prop :=
  rt.udpPorts ≠ [] ∨ rt.dnsQueries.entries ≠ [] ∨ rt.dnsGroups.entries ≠ [] ∨
    rt.stack.device.rxQueue ≠ [] ∨ rt.stack.device.txQueue ≠ [] ∨ rt.readyTcpHandles ≠ [] ∨
    ∃ h st, rt.sockets.lookup h = some st ∧
      (st.countedPendingFromClient ∨ st.countedPendingToClient ∨ st.closeRequested ∨
        st.countedConnecting)

theorem tally_pos {rt : RuntimeState S} (hc : Counted rt) :
    (0 < rt.counters.pendingFromClientSockets ∨ 0 < rt.counters.pendingToClientSockets ∨
        0 < rt.counters.closeRequestedSockets ∨ 0 < rt.counters.connectingSockets) ↔
      ∃ h st, rt.sockets.lookup h = some st ∧
        (st.countedPendingFromClient ∨ st.countedPendingToClient ∨ st.closeRequested ∨
          st.countedConnecting) := by
  have hpos : ∀ b : Bool, 0 < b.toNat ↔ b = true := by decide
  simp only [hc.counters, tally, Table.total_pos, hpos]
  constructor
  · rintro (⟨h, st, hl, hf⟩ | ⟨h, st, hl, hf⟩ | ⟨h, st, hl, hf⟩ | ⟨h, st, hl, hf⟩)
    · exact ⟨h, st, hl, .inl hf⟩
    · exact ⟨h, st, hl, .inr (.inl hf)⟩
    · exact ⟨h, st, hl, .inr (.inr (.inl ((hc.closing h st hl).symm.trans hf)))⟩
    · exact ⟨h, st, hl, .inr (.inr (.inr hf))⟩
  · rintro ⟨h, st, hl, hf | hf | hf | hf⟩
    · exact .inl ⟨h, st, hl, hf⟩
    · exact .inr (.inl ⟨h, st, hl, hf⟩)
    · exact .inr (.inr (.inl ⟨h, st, hl, (hc.closing h st hl).trans hf⟩))
    · exact .inr (.inr (.inr ⟨h, st, hl, hf⟩))

theorem hasPollWork_iff {rt : RuntimeState S} (hc : Counted rt) :
    rt.hasPollWork ↔ rt.OpenWork := by
  have hne : ∀ {α : Type} (l : List α), (l.isEmpty = false ↔ l ≠ []) := by
    intro α l
    cases l <;> simp
  have hlen : ∀ {α : Type} (l : List α), 0 < l.length ↔ l ≠ [] := fun _ => List.length_pos_iff
  simp only [OpenWork, ← tally_pos hc, hasPollWork, NetworkStack.queueLengths,
    VirtualDevice.queueLengths]
  split
  · next h =>
      simp only [Bool.or_eq_true, Bool.not_eq_true', hne] at h
      simp only [true_iff]
      tauto
  · next h =>
      simp only [Bool.or_eq_true, Bool.not_eq_true', hne, not_or, not_not] at h
      simp only [Bool.or_eq_true, decide_eq_true_eq, Bool.not_eq_true', hne, hlen, h.1.1, h.1.2,
        h.2, ne_eq, not_true_eq_false, false_or, or_assoc, gt_iff_lt]

-- Nothing waits in the device or for a sweep.
def quiet (rt : RuntimeState S) : Prop :=
  rt.stack.device.rxQueue = [] ∧ rt.stack.device.txQueue = [] ∧ rt.readyTcpHandles = []

instance (rt : RuntimeState S) : Decidable rt.quiet := inferInstanceAs (Decidable (_ ∧ _ ∧ _))

def waitsWhenQuiet (rt : RuntimeState S) : Prop :=
  rt.quiet →
    (rt.stack.pollDelay rt.shared.now = none →
      ActiveTunnel.stackPollDeadline rt = none ∨
        ActiveTunnel.stackPollDeadline rt = some (rt.shared.now + rt.tunables.maxPollInterval)) ∧
    ∀ d, rt.stack.pollDelay rt.shared.now = some d →
      ∀ deadline, ActiveTunnel.stackPollDeadline rt = some deadline →
        rt.shared.now + min d rt.tunables.maxPollInterval ≤ deadline

theorem stackPollDeadline_quiet {rt : RuntimeState S} (hq : rt.quiet) :
    ActiveTunnel.stackPollDeadline rt =
      if rt.hasPollWork then
        some (rt.shared.now +
          min ((rt.stack.pollDelay rt.shared.now).getD 0) rt.tunables.maxPollInterval)
      else none := by
  have hrx : rt.stack.hasRxPackets = false := by
    simp only [NetworkStack.hasRxPackets, NetworkStack.queueLengths, VirtualDevice.queueLengths,
      hq.1, List.length_nil, gt_iff_lt, Nat.lt_irrefl, decide_false]
  simp only [ActiveTunnel.stackPollDeadline, hrx]
  cases rt.hasPollWork <;> rfl

-- Having no delay is read as a delay of zero.
theorem waitsWhenQuiet_iff (rt : RuntimeState S) :
    rt.waitsWhenQuiet ↔
      ¬ (rt.quiet ∧ rt.hasPollWork ∧ rt.stack.pollDelay rt.shared.now = none ∧
        0 < rt.tunables.maxPollInterval) := by
  constructor
  · rintro hwaits ⟨hq, hwork, hdelay, hmax⟩
    have hdeadline : ActiveTunnel.stackPollDeadline rt = some rt.shared.now := by
      rw [stackPollDeadline_quiet hq, if_pos hwork, hdelay, Option.getD_none, Nat.zero_min,
        Nat.add_zero]
    rcases (hwaits hq).1 hdelay with hnone | hlater
    · rw [hdeadline] at hnone
      cases hnone
    · rw [hdeadline, Option.some.injEq] at hlater
      exact Nat.ne_of_lt (Nat.lt_add_of_pos_right hmax) hlater
  · intro hcond hq
    rw [stackPollDeadline_quiet hq]
    cases hwork : rt.hasPollWork with
    | false => exact ⟨fun _ => .inl rfl, nofun⟩
    | true =>
        simp only [if_true]
        constructor
        · intro hdelay
          have hmax : rt.tunables.maxPollInterval = 0 :=
            Nat.eq_zero_of_not_pos fun hpos => hcond ⟨hq, hwork, hdelay, hpos⟩
          exact .inr (by rw [hdelay, hmax, Nat.min_zero])
        · intro d hdelay deadline hdeadline
          rw [hdelay, Option.getD_some, Option.some.injEq] at hdeadline
          exact Nat.le_of_eq hdeadline

end RuntimeState

namespace System

variable {S : Smoltcp} {H : Hickory} {s : System S}

theorem Reachable.counted (hS : S.KeepsSockets) {params : ConnectionParams}
    (h : Reachable H params s) : Counted s.rt :=
  h.invariant hS ⟨rfl, fun _ _ h => by cases h⟩
    (fun _ _ hc hi he => he.counted hc.slotted hi)

theorem deadline_iff_openWork (hS : S.KeepsSockets) {params : ConnectionParams}
    (h : Reachable H params s) {d : Time}
    (hd : s.rt.stack.pollDelay s.rt.shared.now = some d) :
    (∃ deadline, ActiveTunnel.stackPollDeadline s.rt = some deadline ∧
        deadline ≤ s.rt.shared.now + min d s.rt.tunables.maxPollInterval) ↔
      s.rt.OpenWork := by
  rw [← RuntimeState.hasPollWork_iff (h.counted hS)]
  simp only [ActiveTunnel.stackPollDeadline]
  cases hw : s.rt.hasPollWork with
  | false => simp
  | true =>
      simp only [Bool.not_true, Bool.false_eq_true, if_false, iff_true]
      split
      · exact ⟨_, rfl, Nat.le_add_right _ _⟩
      · exact ⟨_, rfl, by rw [hd]; exact Nat.le_refl _⟩

-- Three bytes left smoltcp for the wire and wait for an acknowledgement that may never come.
def unacknowledged : List Label :=
  Script.establish ++ Script.established 5000 0 ++ [.client 0 (.write [1, 2, 3])] ++
    Script.serveEvent ++
    [.manager .advance, .manager .advance, .manager (.transmit []), Script.refresh]

theorem unacknowledged_not_scheduled :
    ∃ s : Script.Reached, Reachable Script.hickory Script.params s ∧ s.pc = .loopHead ∧
      s.rt.stack.pollDelay s.rt.shared.now = some 1000000 ∧
      ActiveTunnel.stackPollDeadline s.rt = none := by
  have h : (Script.run unacknowledged).any (fun s => s.pc = .loopHead ∧
      s.rt.stack.pollDelay s.rt.shared.now = some 1000000 ∧
      ActiveTunnel.stackPollDeadline s.rt = none) = true := by decide +kernel
  obtain ⟨s, hs, hp⟩ := Script.exists_reachable h
  exact ⟨s, hs, of_decide_eq_true hp⟩

theorem deadline_iff_openWork_connecting :
    ∃ s : Script.Reached, (∃ deadline, ActiveTunnel.stackPollDeadline s.rt = some deadline ∧
        deadline ≤ s.rt.shared.now + min 0 s.rt.tunables.maxPollInterval) ∧ s.rt.OpenWork := by
  have h : (Script.run (Script.establish ++ Script.connect 5000 0)).any (fun s =>
      s.rt.stack.pollDelay s.rt.shared.now = some 0 ∧
      ActiveTunnel.stackPollDeadline s.rt = some 0 ∧ s.rt.shared.now = 0) = true := by
    decide +kernel
  obtain ⟨s, hs, hp⟩ := Script.exists_reachable h
  obtain ⟨hd, ht, hn⟩ := of_decide_eq_true hp
  have hdue : ∃ deadline, ActiveTunnel.stackPollDeadline s.rt = some deadline ∧
      deadline ≤ s.rt.shared.now + min 0 s.rt.tunables.maxPollInterval :=
    ⟨0, ht, Nat.zero_le _⟩
  exact ⟨s, hdue, (deadline_iff_openWork Reference.keepsSockets hs hd).mp hdue⟩

-- A UDP session on which nothing happens.
def idleSession : List Label :=
  Script.establish ++ Script.handle (.udpRegister 6000 0) ++ [Script.refresh]

theorem idle_session_spins :
    ∃ s : Script.Reached, Reachable Script.hickory Script.params s ∧ s.pc = .loopHead ∧
      s.rt.quiet ∧ s.rt.stack.pollDelay s.rt.shared.now = none ∧
      ActiveTunnel.stackPollDeadline s.rt = some s.rt.shared.now ∧ ¬ s.rt.waitsWhenQuiet := by
  have h : (Script.run idleSession).any (fun s => s.pc = .loopHead ∧ s.rt.quiet ∧
      s.rt.hasPollWork ∧ s.rt.stack.pollDelay s.rt.shared.now = none ∧
      0 < s.rt.tunables.maxPollInterval ∧
      ActiveTunnel.stackPollDeadline s.rt = some s.rt.shared.now) = true := by decide +kernel
  obtain ⟨s, hs, hp⟩ := Script.exists_reachable h
  obtain ⟨hpc, hq, hwork, hdelay, hmax, hdeadline⟩ := of_decide_eq_true hp
  refine ⟨s, hs, hpc, hq, hdelay, hdeadline, fun hwaits => ?_⟩
  rcases (hwaits hq).1 hdelay with hnone | hlater
  · rw [hdeadline] at hnone
    cases hnone
  · rw [hdeadline, Option.some.injEq] at hlater
    exact Nat.ne_of_lt (Nat.lt_add_of_pos_right hmax) hlater

end System

end Usque
