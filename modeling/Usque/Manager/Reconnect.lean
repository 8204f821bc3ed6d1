import Usque.Lib.Backoff
import Usque.Manager.Requests

namespace Usque

-- The jitter factor is in hundredths.
structure ExponentialBackoff where
  base : Time
  max : Time
  current : Time
  jitterFactor : Nat
deriving DecidableEq, Repr

namespace ExponentialBackoff

def new : ExponentialBackoff := ⟨secs 1, secs 60, secs 1, 50⟩

-- What rounding leaves of the current delay times 1 + jitter, the jitter being at most the factor.
def Jitters (backoff : ExponentialBackoff) (jittered : Time) : Prop :=
  (100 - backoff.jitterFactor) * backoff.current ≤ 100 * jittered ∧
    100 * jittered ≤ (100 + backoff.jitterFactor) * backoff.current

instance (backoff : ExponentialBackoff) (jittered : Time) :
    Decidable (backoff.Jitters jittered) :=
  inferInstanceAs (Decidable (_ ∧ _))

def nextDelay (backoff : ExponentialBackoff) (jittered : Time) : Time × ExponentialBackoff :=
  (Max.max jittered 100000, { backoff with current := min (backoff.current * 2) backoff.max })

def reset (backoff : ExponentialBackoff) : ExponentialBackoff :=
  { backoff with current := backoff.base }

end ExponentialBackoff

-- Where maintain_tunnel is: a connection is being made, a tunnel runs, or it sleeps.
inductive TunnelPhase where
  | connecting
  | running
  | sleeping (wakeAt : Time)
deriving DecidableEq, Repr

inductive MaintainLabel where
  | system (label : Label) (jittered : Time)
  | established (mtu : Nat)
  | failed (jittered : Time)
  | wake
deriving DecidableEq, Repr

-- The manager with the loop that keeps its tunnel up. `failures` counts the delays drawn since the
-- last time the tunnel came up or the start, `downSince` and `asleepSince` are when that was and
-- when the last sleep began.
structure MaintainTunnel (S : Smoltcp) where
  sys : System S
  backoff : ExponentialBackoff
  phase : TunnelPhase
  failures : Nat
  downSince : Time
  asleepSince : Time

namespace MaintainTunnel

variable {S : Smoltcp} (H : Hickory)

def init (S : Smoltcp) (params : ConnectionParams) : MaintainTunnel S where
  sys := .init S params
  backoff := .new
  phase := .connecting
  failures := 0
  downSince := 0
  asleepSince := 0

def now (m : MaintainTunnel S) : Time := m.sys.rt.shared.now

def sleep (m : MaintainTunnel S) (jittered : Time) : Option (MaintainTunnel S) :=
  if m.backoff.Jitters jittered then
    let (delay, backoff) := m.backoff.nextDelay jittered
    some { m with
      backoff
      phase := .sleeping (m.now + delay)
      failures := m.failures + 1
      asleepSince := m.now }
  else none

def isEstablish : Label → Bool
  | .manager (.establish _) => true
  | _ => false

-- A tunnel that is gone is followed by a sleep.
def systemStep (m : MaintainTunnel S) (label : Label) (jittered : Time) :
    Option (MaintainTunnel S) :=
  if isEstablish label then none
  else do
    let sys ← m.sys.step H label
    if m.phase = .running ∧ sys.pc = .disconnected then
      MaintainTunnel.sleep { m with sys, downSince := sys.rt.shared.now } jittered
    else some { m with sys }

def establishStep (m : MaintainTunnel S) (mtu : Nat) : Option (MaintainTunnel S) :=
  (m.sys.step H (.manager (.establish mtu))).map (fun sys =>
    { m with sys, backoff := m.backoff.reset, phase := .running, failures := 0 })

def wakeStep (m : MaintainTunnel S) : Option (MaintainTunnel S) :=
  match m.phase with
  | .sleeping wakeAt => if wakeAt ≤ m.now then some { m with phase := .connecting } else none
  | _ => none

def step (m : MaintainTunnel S) : MaintainLabel → Option (MaintainTunnel S)
  | .system label jittered => m.systemStep H label jittered
  | .established mtu => if m.phase = .connecting then m.establishStep H mtu else none
  | .failed jittered => if m.phase = .connecting then m.sleep jittered else none
  | .wake => m.wakeStep

def Reachable (params : ConnectionParams) (m : MaintainTunnel S) : Prop :=
  Run.Reaches (step H) Run.Any (init S params) m

end MaintainTunnel

namespace ExponentialBackoff

-- The backoff after the given number of delays.
def after (k : Nat) : ExponentialBackoff :=
  { new with current := Backoff.nth (secs 1) (secs 60) k }

theorem after_zero : after 0 = new := by
  rw [after, Backoff.nth_zero (by decide)]
  rfl

theorem reset_after (k : Nat) : (after k).reset = after 0 := by
  rw [after_zero]
  rfl

theorem jitters_after {k : Nat} {jittered : Time} (h : (after k).Jitters jittered) :
    Backoff.nth (secs 1) (secs 60) k ≤ 2 * jittered ∧
      2 * jittered ≤ 3 * Backoff.nth (secs 1) (secs 60) k := by
  obtain ⟨hlow, hhigh⟩ := h
  have halves : ∀ current jittered : Nat, (100 - 50) * current ≤ 100 * jittered →
      100 * jittered ≤ (100 + 50) * current → current ≤ 2 * jittered ∧ 2 * jittered ≤ 3 * current := by
    omega
  exact halves _ _ hlow hhigh

-- The floor of a tenth of a second never takes effect.
theorem nextDelay_after {k : Nat} {jittered : Time} (h : (after k).Jitters jittered) :
    (after k).nextDelay jittered = (jittered, after (k + 1)) := by
  have hbase : secs 1 ≤ Backoff.nth (secs 1) (secs 60) k := Backoff.le_nth (by decide)
  have hfloor : 100000 ≤ jittered := by
    have hlow := hbase.trans (jitters_after h).1
    simp only [secs] at hlow
    exact Nat.le_of_mul_le_mul_left (Nat.le_trans (by decide) hlow) (by decide : 0 < 2)
  rw [nextDelay, Nat.max_eq_left hfloor]
  simp only [after, new, Backoff.nth_succ, Backoff.next]

end ExponentialBackoff

namespace MaintainTunnel

variable {S : Smoltcp} {H : Hickory} {m m' : MaintainTunnel S}

open ExponentialBackoff (after)

def waited (m : MaintainTunnel S) : Nat := Backoff.waited (secs 1) (secs 60) m.failures

-- Twice the times, since a jittered delay is at least half of the drawn one.
structure Paced (m : MaintainTunnel S) : Prop where
  sound : System.Sound m.sys
  backoff : m.backoff = after m.failures
  up : m.phase = .running ↔ m.sys.pc ≠ .disconnected
  running : m.phase = .running → m.failures = 0
  connecting : m.phase = .connecting → 2 * m.downSince + m.waited ≤ 2 * m.now
  sleeping : ∀ wakeAt, m.phase = .sleeping wakeAt → ∃ k, m.failures = k + 1 ∧
    2 * m.downSince + Backoff.waited (secs 1) (secs 60) k ≤ 2 * m.asleepSince ∧
    2 * m.asleepSince + Backoff.nth (secs 1) (secs 60) k ≤ 2 * wakeAt ∧
    2 * wakeAt ≤ 2 * m.asleepSince + 3 * Backoff.nth (secs 1) (secs 60) k ∧
    m.asleepSince ≤ m.now

theorem init_paced (params : ConnectionParams) : (init S params).Paced where
  sound := System.init_sound params
  backoff := ExponentialBackoff.after_zero.symm
  up := ⟨fun h => (by cases h), fun h => absurd rfl h⟩
  running := fun _ => rfl
  connecting := by
    intro _
    simp only [waited, init, Backoff.waited_zero]
    exact Nat.le_refl _
  sleeping := fun _ h => by cases h

-- A sleep begins with the connection attempts so far paced.
theorem sleep_paced {jittered : Time} (hs : System.Sound m.sys) (hb : m.backoff = after m.failures)
    (hdown : m.sys.pc = .disconnected) (hw : 2 * m.downSince + m.waited ≤ 2 * m.now)
    (h : m.sleep jittered = some m') : m'.Paced := by
  simp only [sleep, hb] at h
  split at h
  · next hj =>
      obtain ⟨hlow, hhigh⟩ := ExponentialBackoff.jitters_after hj
      rw [ExponentialBackoff.nextDelay_after hj] at h
      cases h
      refine ⟨hs, rfl, ?_, fun hr => (by cases hr), fun hc => (by cases hc), ?_⟩
      · exact ⟨fun hr => (by cases hr), fun hup => absurd hdown hup⟩
      · intro wakeAt hwake
        cases hwake
        refine ⟨m.failures, rfl, hw, ?_, ?_, Nat.le_refl _⟩
        · rw [Nat.mul_add]
          exact Nat.add_le_add_left hlow _
        · rw [Nat.mul_add]
          exact Nat.add_le_add_left hhigh _
  · cases h

variable (hS : S.KeepsSockets)

-- Without a new tunnel the system stays down.
theorem step_down {s t : System S} {l : Label} (hl : isEstablish l = false)
    (hdown : s.pc = .disconnected) (h : System.step H s l = some t) : t.pc = .disconnected := by
  cases l with
  | manager choice =>
      cases System.managerStep_cases h with
      | establish => cases hl
      | refuse | discard => exact hdown
      | command up | udp up | incoming up | socketEvent up | turn up | teardown up | egress up
      | transmit up | refresh up => exact absurd hdown (Pc.ne_disconnected_of_up up)
      | polled hrun | pollFault hrun | sweep hrun =>
          rw [hrun] at hdown
          cases hdown
  | _ => rw [System.step_pc h (by simp), hdown]

include hS

theorem systemStep_paced {label : Label} {jittered : Time} (hm : m.Paced)
    (h : m.systemStep H label jittered = some m') : m'.Paced := by
  simp only [systemStep] at h
  split at h
  · cases h
  · next hl =>
      obtain ⟨sys, hstep, h⟩ := Option.bind_eq_some_iff.mp h
      have hs := System.step_sound hS hm.sound hstep
      have hnow : m.now ≤ sys.rt.shared.now := System.step_now_le hS hm.sound hstep
      split at h
      · next hlost =>
          refine sleep_paced (m := { m with sys, downSince := sys.rt.shared.now }) hs hm.backoff
            hlost.2 ?_ h
          simp only [waited, hm.running hlost.1, Backoff.waited_zero]
          exact Nat.le_refl _
      · next hkept =>
          cases h
          refine ⟨hs, hm.backoff, ?_, hm.running, fun hc => ?_, fun wakeAt hwake => ?_⟩
          · constructor
            · exact fun hr hd => hkept ⟨hr, hd⟩
            · intro hup
              by_contra hr
              have hdown : m.sys.pc = .disconnected := by
                by_contra hd
                exact hr (hm.up.mpr hd)
              exact hup (step_down (Bool.eq_false_iff.mpr hl) hdown hstep)
          · exact (hm.connecting hc).trans (Nat.mul_le_mul_left 2 hnow)
          · obtain ⟨k, hk, hbefore, hlow, hhigh, hslept⟩ := hm.sleeping wakeAt hwake
            exact ⟨k, hk, hbefore, hlow, hhigh, hslept.trans hnow⟩

theorem step_paced {l : MaintainLabel} (hm : m.Paced) (h : step H m l = some m') : m'.Paced := by
  cases l with
  | system label jittered => exact systemStep_paced hS hm h
  | established mtu =>
      simp only [step] at h
      split at h
      · obtain ⟨sys, hstep, rfl⟩ := Option.map_eq_some_iff.mp h
        refine ⟨System.step_sound hS hm.sound hstep, ?_, ?_, fun _ => rfl,
          fun hc => (by cases hc), fun _ hw => (by cases hw)⟩
        · simp only [hm.backoff, ExponentialBackoff.reset_after]
        · cases System.managerStep_cases hstep with
          | establish => exact ⟨fun _ hd => (by cases hd), fun _ => rfl⟩
          | turn _ _ hc | teardown _ hc => cases hc
      · cases h
  | failed jittered =>
      simp only [step] at h
      split at h
      · next hc =>
          refine sleep_paced hm.sound hm.backoff ?_ (hm.connecting hc) h
          by_contra hd
          rw [hm.up.mpr hd] at hc
          cases hc
      · cases h
  | wake =>
      simp only [step, wakeStep] at h
      split at h
      · next wakeAt hphase =>
          split at h <;> cases h
          next hdue =>
            obtain ⟨k, hk, hbefore, hlow, _, _⟩ := hm.sleeping wakeAt hphase
            refine ⟨hm.sound, hm.backoff, ?_, fun hr => (by cases hr), fun _ => ?_,
              fun _ hw => (by cases hw)⟩
            · have hdown : m.phase ≠ .running := by
                rw [hphase]
                exact fun hr => by cases hr
              exact ⟨fun hr => (by cases hr), fun hup => absurd (hm.up.mpr hup) hdown⟩
            · calc 2 * m.downSince + m.waited
                  = 2 * m.downSince + Backoff.waited (secs 1) (secs 60) k +
                      Backoff.nth (secs 1) (secs 60) k := by
                    rw [waited, hk, Backoff.waited_succ, Nat.add_assoc]
                _ ≤ 2 * m.asleepSince + Backoff.nth (secs 1) (secs 60) k :=
                    Nat.add_le_add_right hbefore _
                _ ≤ 2 * wakeAt := hlow
                _ ≤ 2 * m.now := Nat.mul_le_mul_left 2 hdue
      · cases h

omit hS in
theorem sleep_sys {jittered : Time} (h : m.sleep jittered = some m') : m'.sys = m.sys := by
  simp only [sleep] at h
  split at h <;> cases h
  rfl

omit hS in
-- Each step is at most one of the manager.
theorem step_system {l : MaintainLabel} (h : step H m l = some m') :
    Run.Reaches (System.step H) Run.Any m.sys m'.sys := by
  cases l with
  | system label jittered =>
      simp only [step, systemStep] at h
      split at h
      · cases h
      · obtain ⟨sys, hstep, h⟩ := Option.bind_eq_some_iff.mp h
        split at h
        · rw [sleep_sys h]
          exact .single trivial hstep
        · cases h
          exact .single trivial hstep
  | established mtu =>
      simp only [step] at h
      split at h
      · obtain ⟨sys, hstep, rfl⟩ := Option.map_eq_some_iff.mp h
        exact .single trivial hstep
      · cases h
  | failed jittered =>
      simp only [step] at h
      split at h
      · rw [sleep_sys h]
        exact .refl _
      · cases h
  | wake =>
      simp only [step, wakeStep] at h
      split at h
      · split at h <;> cases h
        exact .refl _
      · cases h

omit hS in
theorem Reachable.system {params : ConnectionParams} (h : m.Reachable H params) :
    System.Reachable H params m.sys :=
  h.map (fun _ _ _ _ => step_system)

-- An outage sees at most seven attempts and one for each thirty seconds of it, and no sleep is
-- longer than ninety.
structure Reconnects (H : Hickory) (params : ConnectionParams) (m : MaintainTunnel S) : Prop where
  system : System.Reachable H params m.sys
  up : m.phase = .running ↔ m.sys.pc ≠ .disconnected
  doubled : m.backoff.current = min (secs 1 * 2 ^ m.failures) (secs 60)
  restarted : m.phase = .running → m.failures = 0
  attempts : m.phase ≠ .running → m.failures ≤ 7 + (m.now - m.downSince) / secs 30
  sleeps : ∀ wakeAt, m.phase = .sleeping wakeAt → m.asleepSince ≤ m.now ∧
    ∃ k, m.failures = k + 1 ∧
      2 * m.asleepSince + min (secs 1 * 2 ^ k) (secs 60) ≤ 2 * wakeAt ∧
      2 * wakeAt ≤ 2 * m.asleepSince + 3 * min (secs 1 * 2 ^ k) (secs 60)
  wakes : ∀ wakeAt, m.phase = .sleeping wakeAt → wakeAt ≤ m.asleepSince + secs 90

omit hS in
theorem attempts_of_waited {k down now : Nat}
    (h : 2 * down + Backoff.waited (secs 1) (secs 60) k ≤ 2 * now) :
    k ≤ 6 + (now - down) / secs 30 := by
  have hk : k ≤ 6 + Backoff.waited (secs 1) (secs 60) k / secs 60 :=
    Backoff.le_of_waited (by decide) (by decide)
  have hhalf : Backoff.waited (secs 1) (secs 60) k / (2 * secs 30) ≤ (now - down) / secs 30 := by
    rw [← Nat.mul_div_mul_left (now - down) (secs 30) (by decide : 0 < 2)]
    exact Nat.div_le_div_right (by omega)
  exact hk.trans (Nat.add_le_add_left hhalf 6)

theorem reconnect_paced {params : ConnectionParams} (h : m.Reachable H params) :
    m.Reconnects H params := by
  have hm : m.Paced :=
    h.invariant (fun _ _ _ hm _ hst => step_paced hS hm hst) (init_paced params)
  refine ⟨h.system, hm.up, by rw [hm.backoff]; rfl, hm.running, fun hdown => ?_,
    fun wakeAt hwake => ?_, fun wakeAt hwake => ?_⟩
  · cases hphase : m.phase with
    | running => exact absurd hphase hdown
    | connecting =>
        exact (attempts_of_waited (hm.connecting hphase)).trans
          (Nat.add_le_add_right (by decide) _)
    | sleeping wakeAt =>
        obtain ⟨k, hk, hbefore, _, _, hslept⟩ := hm.sleeping wakeAt hphase
        have hsofar := attempts_of_waited (hbefore.trans (Nat.mul_le_mul_left 2 hslept))
        rw [hk]
        calc k + 1 ≤ 6 + (m.now - m.downSince) / secs 30 + 1 := Nat.succ_le_succ hsofar
          _ = 7 + (m.now - m.downSince) / secs 30 := Nat.add_right_comm _ _ _
  · obtain ⟨k, hk, _, hlow, hhigh, hslept⟩ := hm.sleeping wakeAt hwake
    exact ⟨hslept, k, hk, hlow, hhigh⟩
  · obtain ⟨k, _, _, _, hhigh, _⟩ := hm.sleeping wakeAt hwake
    have hcap := Nat.mul_le_mul_left 3 (Backoff.nth_le (secs 1) (secs 60) k)
    have hup : 2 * wakeAt ≤ 2 * (m.asleepSince + secs 90) := by
      rw [Nat.mul_add]
      exact hhigh.trans (Nat.add_le_add_left hcap _)
    exact Nat.le_of_mul_le_mul_left hup (by decide)

end MaintainTunnel

namespace Script

-- The first attempt fails, the second brings up a tunnel, and that is lost.
def reconnecting : List MaintainLabel :=
  [.failed 700000, .system (.tick 700000) 0, .wake, .established 1500,
    .system (.manager (.checkAlive false)) 1200000]

end Script

open Script in
theorem MaintainTunnel.reconnect_paced_lost : ∃ m : MaintainTunnel Reference.smoltcp,
    m.phase = .sleeping 1900000 ∧ m.downSince = 700000 ∧
      m.Reconnects hickory Script.params := by
  have h : (Run.exec (step hickory) (init Reference.smoltcp Script.params)
      reconnecting).any (fun m => m.phase = .sleeping 1900000 ∧ m.downSince = 700000) = true := by
    decide +kernel
  obtain ⟨m, hm, hp⟩ := (Option.any_eq_true _ _).mp h
  obtain ⟨hphase, hdown⟩ := of_decide_eq_true hp
  exact ⟨m, hphase, hdown, reconnect_paced Reference.keepsSockets (Run.exec_reaches hm)⟩

end Usque
