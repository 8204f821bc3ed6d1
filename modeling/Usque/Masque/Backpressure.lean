import Usque.Lib.Backoff
import Usque.Manager.Requests
import Usque.Masque.Refinement

namespace Usque

variable {S : Smoltcp} {H : Hickory}

-- The streak counts the refused batches since the last one accepted, up to six; the next try is put
-- off by a delay that doubles with each of them.
structure Pacing (now : Time) (streak : Nat) (blockedUntil : Option Time) : Prop where
  bounded : streak ≤ 6
  blocked : blockedUntil = none ↔ streak = 0
  delay : ∀ deadline, blockedUntil = some deadline →
    deadline ≤ now + Backoff.nth 1000 32000 (streak - 1)

def ActiveTunnel.Paced (now : Time) (tunnel : ActiveTunnel) : Prop :=
  ∃ streak blockedUntil, tunnel = .masque streak blockedUntil ∧ Pacing now streak blockedUntil

namespace Pacing

variable {now now' : Time} {streak : Nat} {blockedUntil : Option Time}

theorem unblocked (now : Time) : Pacing now 0 none :=
  ⟨Nat.zero_le 6, ⟨fun _ => rfl, fun _ => rfl⟩, nofun⟩

theorem later (h : Pacing now streak blockedUntil) (hle : now ≤ now') :
    Pacing now' streak blockedUntil :=
  ⟨h.bounded, h.blocked, fun u hu => (h.delay u hu).trans (Nat.add_le_add_right hle _)⟩

theorem refused (now : Time) (streak : Nat) :
    Pacing now (min (streak + 1) 6)
      (some (now + 1000 * min (2 ^ (min (streak + 1) 6 - 1)) 32)) := by
  refine ⟨Nat.min_le_right _ _, ⟨nofun, fun hzero => absurd hzero (by omega)⟩, fun u hu => ?_⟩
  cases hu
  refine Nat.add_le_add_left ?_ _
  rw [Backoff.nth, ← Nat.mul_min_mul_left]

end Pacing

namespace ActiveTunnel

variable {now : Time}

theorem drainMasque_paced (batchSize fuel budget : Nat) (results : List SendResult) {streak : Nat}
    {blockedUntil : Option Time} (stack : NetworkStack S)
    (h : Pacing now streak blockedUntil) :
    (drainMasque batchSize now fuel budget results streak blockedUntil stack).1.Paced now := by
  induction fuel generalizing budget results streak blockedUntil stack with
  | zero => exact ⟨_, _, rfl, h⟩
  | succ fuel ih =>
      simp only [drainMasque]
      split
      · exact ⟨_, _, rfl, h⟩
      · split
        · exact ih _ _ _ (.unblocked now)
        · exact ⟨_, _, rfl, .refused now streak⟩
        · exact ⟨_, _, rfl, h⟩

theorem Paced.drainStackPackets {tunnel : ActiveTunnel} {rt : RuntimeState S}
    (h : tunnel.Paced rt.shared.now) (results : List SendResult) :
    (tunnel.drainStackPackets rt results).1.Paced rt.shared.now := by
  obtain ⟨streak, blockedUntil, rfl, hpaced⟩ := h
  simp only [ActiveTunnel.drainStackPackets]
  split
  · exact ⟨_, _, rfl, hpaced⟩
  · exact drainMasque_paced _ _ _ _ _ hpaced

theorem Paced.isMasque {tunnel : ActiveTunnel} (h : tunnel.Paced now) : tunnel.isMasque = true := by
  obtain ⟨streak, blockedUntil, rfl, -⟩ := h
  rfl

theorem Paced.later {tunnel : ActiveTunnel} {now' : Time} (h : tunnel.Paced now)
    (hle : now ≤ now') : tunnel.Paced now' := by
  obtain ⟨streak, blockedUntil, rfl, hpaced⟩ := h
  exact ⟨streak, blockedUntil, rfl, hpaced.later hle⟩

theorem Paced.fromConn (tunables : ManagerTunables) (now : Time) :
    (ActiveTunnel.fromConn .masque tunables now).Paced now :=
  ⟨0, none, rfl, .unblocked now⟩

-- While it is blocked, the tunnel wakes the loop no later than the delay allows.
theorem Paced.wakes {tunnel : ActiveTunnel} {start : Time} (h : tunnel.Paced now)
    (hstart : start ≤ now) (hblocked : tunnel.masqueDrainBlocked now = true)
    (maxPollInterval : Time) :
    ∃ deadline, tunnel.blockedSendDeadline start maxPollInterval = some deadline ∧
      deadline ≤ now + 32000 := by
  obtain ⟨streak, blockedUntil, rfl, hpacing⟩ := h
  cases blockedUntil with
  | none => cases hblocked
  | some blockedUntil =>
      have hlt : start < blockedUntil :=
        Nat.lt_of_le_of_lt hstart (of_decide_eq_true hblocked)
      refine ⟨min blockedUntil (start + maxPollInterval), if_pos hlt, ?_⟩
      calc min blockedUntil (start + maxPollInterval) ≤ blockedUntil := Nat.min_le_left _ _
        _ ≤ now + Backoff.nth 1000 32000 (streak - 1) := hpacing.delay _ rfl
        _ ≤ now + 32000 := Nat.add_le_add_left (Backoff.nth_le _ _ _) now

end ActiveTunnel

namespace System

variable {s t : System S} {l : Label}

-- The schedule that the loop sleeps on is one of its tunnel, made no later than now.
def Scheduled (s : System S) : Prop :=
  ∀ schedule, s.pc = .select schedule → ∃ start maxPollInterval, start ≤ s.rt.shared.now ∧
    schedule.blockedSendDeadline = s.tunnel.blockedSendDeadline start maxPollInterval ∧
    schedule.pollDeadline =
      earliest schedule.stackPollDeadline schedule.blockedSendDeadline

theorem scheduled_none (hpc : s.pc.selects = false) : s.Scheduled := by
  intro schedule hselect
  rw [hselect] at hpc
  cases hpc

theorem managerStep_scheduled {choice : Choice} (hs : s.tunnel.isMasque = true)
    (hnow : s.rt.shared.now ≤ t.rt.shared.now) (h : s.managerStep H choice = some t) :
    t.Scheduled := by
  cases managerStep_loop hs h with
  | works _ hpc | connects _ hpc | transmits _ _ hpc => exact scheduled_none hpc
  | schedules htunnel hpc =>
      intro schedule hselect
      rw [hpc] at hselect
      cases hselect
      rw [htunnel]
      exact ⟨_, _, hnow, rfl, rfl⟩

structure Awake (s : System S) : Prop where
  sound : Sound s
  mode : s.params.tunnelMode = .masque
  paced : s.tunnel.Paced s.rt.shared.now
  scheduled : s.Scheduled

theorem io_bystands {event : TransportIoEvent} (h : s.step H (.io event) = some t) :
    t.pc = s.pc ∧ t.tunnel = s.tunnel := by
  simp only [step] at h
  split at h <;> cases h
  exact ⟨rfl, rfl⟩

theorem step_apart (hl : l.ofManager = false) (h : s.step H l = some t) :
    t.pc = s.pc ∧ t.tunnel = s.tunnel := by
  cases hfree : l.masqueFree with
  | true =>
      have hstay := step_bystands hl hfree h
      exact ⟨hstay.pc, hstay.tunnel⟩
  | false =>
      cases l with
      | io event => exact io_bystands h
      | manager choice => cases hl
      | _ => cases hfree

theorem step_awake (hS : S.KeepsSockets) (hs : Awake s) (h : s.step H l = some t) : Awake t := by
  have hnow := step_now_le hS hs.sound h
  have hmode : t.params.tunnelMode = .masque := by
    rw [(step_changed h).1]
    exact hs.mode
  refine ⟨step_sound hS hs.sound h, hmode, ?_, ?_⟩
  · cases hl : l.ofManager with
    | false => exact (step_apart hl h).2 ▸ hs.paced.later hnow
    | true =>
        cases l with
        | manager choice =>
            cases managerStep_loop hs.paced.isMasque h with
            | works he _ | schedules he _ => exact he ▸ hs.paced.later hnow
            | connects he _ =>
                rw [he, hs.mode]
                exact (ActiveTunnel.Paced.fromConn _ _).later hnow
            | transmits results he _ => exact he ▸ (hs.paced.drainStackPackets results).later hnow
        | _ => cases hl
  · cases hl : l.ofManager with
    | false =>
        obtain ⟨hpc, htunnel⟩ := step_apart hl h
        intro schedule hselect
        obtain ⟨start, maxPollInterval, hstart, hblocked, hpoll⟩ :=
          hs.scheduled schedule (hpc ▸ hselect)
        exact ⟨start, maxPollInterval, hstart.trans hnow, htunnel ▸ hblocked, hpoll⟩
    | true =>
        cases l with
        | manager choice => exact managerStep_scheduled hs.paced.isMasque hnow h
        | _ => cases hl

theorem init_awake (params : ConnectionParams) :
    Awake (init S { params with tunnelMode := .masque }) :=
  ⟨init_sound _, rfl, .fromConn params.managerTunables 0, scheduled_none rfl⟩

theorem Reachable.awake (hS : S.KeepsSockets) {params : ConnectionParams}
    (h : Reachable H { params with tunnelMode := .masque } s) : Awake s :=
  Run.Reaches.invariant (I := Awake) (fun _ _ _ hs _ hstep => step_awake hS hs hstep) h
    (init_awake params)

theorem earliest_le {a : Option Time} {deadline : Time} :
    ∃ first, earliest a (some deadline) = some first ∧ first ≤ deadline := by
  cases a with
  | none => exact ⟨deadline, rfl, Nat.le_refl _⟩
  | some a => exact ⟨min a deadline, rfl, Nat.min_le_right _ _⟩

theorem Reachable.wakes (hS : S.KeepsSockets) {params : ConnectionParams}
    (h : Reachable H { params with tunnelMode := .masque } s) :
    s.tunnel.Paced s.rt.shared.now ∧
      ∀ schedule, s.pc = .select schedule →
        s.tunnel.masqueDrainBlocked s.rt.shared.now = true →
          ∃ deadline, schedule.pollDeadline = some deadline ∧
            deadline ≤ s.rt.shared.now + 32000 := by
  have hs := h.awake hS
  refine ⟨hs.paced, fun schedule hpc hblocked => ?_⟩
  obtain ⟨start, maxPollInterval, hstart, hsend, hpoll⟩ := hs.scheduled schedule hpc
  obtain ⟨deadline, hdeadline, hle⟩ := hs.paced.wakes hstart hblocked maxPollInterval
  rw [hpoll, hsend, hdeadline]
  obtain ⟨first, hfirst, hfirstle⟩ := earliest_le
  exact ⟨first, hfirst, hfirstle.trans hle⟩

end System

namespace MasqueSystem

variable {w : MasqueSystem S} {params : ConnectionParams} {ioChannelCapacity : Nat}

theorem Sound.drain_none (hw : Sound w) (hpc : w.sys.pc.selects = true) : w.drain = none := by
  cases hio : w.io with
  | none => exact hw.alone hio
  | some io =>
      cases hd : w.drain with
      | none => rfl
      | some d =>
          obtain ⟨dirtyCycle, hstage⟩ := ((hw.coupled io hio).draining d hd).1.stage
          rw [hstage] at hpc
          cases hpc

-- However often a full channel has sent packets back, a loop that sleeps with its drain blocked has
-- a deadline that is at most 32 ms away.
theorem Reachable.blocked_wakes (hS : S.KeepsSockets)
    (h : Reachable H params ioChannelCapacity w) :
    w.whole.tunnel.Paced w.now ∧
      ∀ schedule, w.sys.pc = .select schedule → w.sys.tunnel.masqueDrainBlocked w.now = true →
        ∃ deadline, schedule.pollDeadline = some deadline ∧ deadline ≤ w.now + 32000 := by
  have hnow : w.whole.rt.shared.now = w.now := by
    simp only [whole, now]
    split <;> rfl
  obtain ⟨hpaced, hwakes⟩ := h.refines_atomic.wakes hS
  rw [hnow] at hpaced hwakes
  refine ⟨hpaced, fun schedule hpc hblocked => ?_⟩
  have hwhole := whole_none (h.sound.drain_none (by rw [hpc]; rfl))
  rw [hwhole] at hwakes
  exact hwakes schedule hpc hblocked

theorem blocked_wakes_full :
    ∃ (w : MasqueScript.Reached) (schedule : LoopSchedule), w.sys.pc = .select schedule ∧
      w.sys.tunnel.masqueDrainBlocked w.now = true ∧
      ∃ deadline, schedule.pollDeadline = some deadline ∧ deadline ≤ w.now + 32000 := by
  have h : (MasqueScript.run (MasqueScript.connect ++ MasqueScript.drain ++
      MasqueScript.attempt 5001 1 ++
      [.beginDrain, .collect, .collect, .trySend, .checkAlive true])).any (fun w =>
        w.sys.pc.selects && w.sys.tunnel.masqueDrainBlocked w.now) = true := by
    decide +kernel
  obtain ⟨w, hw, hp⟩ := MasqueScript.exists_reachable h
  obtain ⟨hselects, hblocked⟩ := Bool.and_eq_true_iff.mp hp
  cases hpc : w.sys.pc with
  | select schedule =>
      obtain ⟨-, hwakes⟩ := hw.blocked_wakes Reference.keepsSockets
      exact ⟨w, schedule, hpc, hblocked, hwakes schedule hpc hblocked⟩
  | _ =>
      rw [hpc] at hselects
      cases hselects

end MasqueSystem

end Usque
