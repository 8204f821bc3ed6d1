import Usque.Manager.Answers
import Usque.Manager.Script

namespace Usque

namespace System

open RuntimeState

variable {S : Smoltcp} {H : Hickory} {s t u : System S} {r : OneshotId}

-- How often a request is still in the command channel, and how often the system has it at all.
def queued (s : System S) (r : OneshotId) : Nat := (s.cmdRx.filterMap ManagerCommand.response).count r

def held (s : System S) (r : OneshotId) : Nat := s.queued r + s.rt.due r

-- A step gains just the requests that it issues; cancelled requests are not counted.
structure Conserves (r : OneshotId) (s t : System S) : Prop where
  closed : r ∈ s.rt.shared.closedReceivers → r ∈ t.rt.shared.closedReceivers
  issued : s.nextOneshot ≤ t.nextOneshot
  held : r ∉ t.rt.shared.closedReceivers →
    t.held r = s.held r + (if s.nextOneshot ≤ r ∧ r < t.nextOneshot then 1 else 0)

namespace Conserves

theorem kept (hclosed : t.rt.shared.closedReceivers = s.rt.shared.closedReceivers)
    (hnext : t.nextOneshot = s.nextOneshot)
    (hheld : r ∉ s.rt.shared.closedReceivers → t.held r = s.held r) : Conserves r s t := by
  refine ⟨fun hr => hclosed ▸ hr, Nat.le_of_eq hnext.symm, fun hr => ?_⟩
  rw [hheld (hclosed ▸ hr), if_neg, Nat.add_zero]
  rintro ⟨hge, hlt⟩
  exact Nat.lt_irrefl r (Nat.lt_of_lt_of_le (hnext ▸ hlt) hge)

theorem same (hrt : t.rt = s.rt) (hq : t.cmdRx = s.cmdRx) (hnext : t.nextOneshot = s.nextOneshot) :
    Conserves r s t :=
  .kept (by rw [hrt]) hnext (fun _ => by simp only [System.held, queued, hrt, hq])

theorem answered (h : Answers r 0 s.rt t.rt) (hq : t.cmdRx = s.cmdRx)
    (hnext : t.nextOneshot = s.nextOneshot) : Conserves r s t :=
  .kept h.closed hnext (fun hr => by simp only [System.held, queued, hq, h.due hr, Nat.add_zero])

theorem taken {cmd : ManagerCommand} (h : Answers r (cmd.response.toList.count r) s.rt t.rt)
    (hq : s.cmdRx = cmd :: t.cmdRx) (hnext : t.nextOneshot = s.nextOneshot) :
    Conserves r s t := by
  refine .kept h.closed hnext (fun hr => ?_)
  simp only [System.held, queued, hq, h.due hr]
  cases hres : cmd.response with
  | none =>
      rw [List.filterMap_cons_none hres, Option.toList_none, List.count_nil, Nat.add_zero]
  | some response =>
      have hcons : (response :: t.cmdRx.filterMap ManagerCommand.response).count r =
          [response].count r + (t.cmdRx.filterMap ManagerCommand.response).count r := by
        rw [← List.count_append]
        rfl
      rw [List.filterMap_cons_some hres, Option.toList_some, hcons]
      omega

theorem sent {cmd : ManagerCommand} (hrt : t.rt = s.rt) (hq : t.cmdRx = s.cmdRx ++ [cmd])
    (hnext : cmd.response = none ∧ t.nextOneshot = s.nextOneshot ∨
      cmd.response = some s.nextOneshot ∧ t.nextOneshot = s.nextOneshot + 1) :
    Conserves r s t := by
  rcases hnext with ⟨hres, hnext⟩ | ⟨hres, hnext⟩
  · refine .kept (by rw [hrt]) hnext (fun _ => ?_)
    simp only [System.held, queued, hrt, hq, List.filterMap_append, List.filterMap_cons, hres,
      List.filterMap_nil, List.append_nil]
  · have hissued : s.nextOneshot = r ↔ s.nextOneshot ≤ r ∧ r < t.nextOneshot := by
      rw [hnext]
      exact ⟨fun he => he ▸ ⟨Nat.le_refl _, Nat.lt_succ_self _⟩,
        fun hb => Nat.le_antisymm hb.1 (Nat.lt_succ_iff.mp hb.2)⟩
    refine ⟨fun hr => hrt ▸ hr, hnext ▸ Nat.le_succ _, fun _ => ?_⟩
    simp only [System.held, queued, hrt, hq, ← hissued, List.filterMap_append,
      List.filterMap_cons, hres, List.filterMap_nil, List.count_append, List.count_singleton,
      beq_iff_eq]
    omega

theorem andThen {α : Type} {o : Outcome α} {k : α → System S}
    (hk : ∀ a, o = .ok a → Conserves r s (k a)) : Conserves r s (s.andThen o k) :=
  andThen_rt (Q := Conserves r s) hk (fun _ => .same rfl rfl rfl)

end Conserves

theorem count_senders (rt : RuntimeState S) (r : OneshotId) :
    (senders rt).count r = rt.waiting r + rt.asking r := by
  rw [senders, List.count_append, List.count_flatten, List.count_flatten, List.map_map,
    List.map_map]
  rfl

theorem teardown_held {s : System S} (hr : r ∉ s.rt.shared.closedReceivers) :
    s.teardown.held r = s.held r := by
  have htold := told_replyAll (s.rt.setStats s.rt.shared.stats.reset)
    (senders (s.rt.setStats s.rt.shared.stats.reset)) .senderDropped hr
  rw [count_senders] at htold
  have hdue : s.teardown.rt.due r = s.rt.told r + (s.rt.waiting r + s.rt.asking r) :=
    (Nat.zero_add _).trans htold
  rw [held, hdue, Nat.add_comm (s.rt.told r)]
  rfl

theorem teardown_conserves (s : System S) (r : OneshotId) : Conserves r s s.teardown :=
  .kept (Answers.replyAll (r := r) (s.rt.setStats s.rt.shared.stats.reset) _ _).closed rfl
    teardown_held

-- The next group id, from a counter that wraps after 2 ^ 32 groups, is not that of a live group.
def FreshGroups (s : System S) : Label → Prop
  | .manager (.command _) => s.rt.dnsGroups.lookup s.rt.shared.statics.dnsGroupId = none
  | _ => True

instance (s : System S) (l : Label) : Decidable (s.FreshGroups l) := by
  unfold FreshGroups
  split <;> infer_instance

-- While no tunnel is up nothing is kept waiting.
def Idle (s : System S) : Prop :=
  s.pc = .disconnected → ∀ r, s.rt.waiting r = 0 ∧ s.rt.asking r = 0

theorem freshRuntime_conserves {mtu : Nat} (hidle : s.Idle) (down : s.pc = .disconnected)
    (hrt : t.rt = freshRuntime S s.params mtu s.rt.session s.rt.shared) (hq : t.cmdRx = s.cmdRx)
    (hnext : t.nextOneshot = s.nextOneshot) : Conserves r s t := by
  obtain ⟨hw, ha⟩ := hidle down r
  refine .kept (by rw [hrt]; rfl) hnext (fun _ => ?_)
  simp only [System.held, queued, hq, RuntimeState.due, hw, ha, hrt]
  rfl

theorem clientStep_conserves {x : StreamId} {op : ClientOp} (h : s.clientStep x op = some t) :
    Conserves r s t := by
  cases clientStep_cases h with
  | op _ _ _ => exact .answered (Answers.putStream _ _ _) rfl rfl
  | close _ => exact .sent rfl rfl (.inl ⟨rfl, rfl⟩)
  | ask _ hresponse _ _ => exact .sent rfl rfl (.inr ⟨hresponse _, rfl⟩)
  | finish _ => exact .same rfl rfl rfl

theorem managerStep_idle {choice : Choice} (hidle : s.Idle)
    (h : s.managerStep H choice = some t) : t.Idle := by
  have hup : ∀ {u : System S}, u.pc.up = true → u.Idle :=
    fun hpc hd => absurd hd (Pc.ne_disconnected_of_up hpc)
  have hfault : ∀ fault, Idle { s with pc := .faulted fault } := fun _ hd => by cases hd
  cases managerStep_cases h with
  | command _ hpc _ | udp _ hpc _ | sweep _ hpc =>
      exact andThen_rt (Q := Idle) (fun _ _ => hup hpc) hfault
  | incoming _ hpc _ => exact andThen_rt (Q := Idle) (fun a _ => hup (hpc a.1)) hfault
  | socketEvent _ hpc _ | turn _ hpc _ | polled _ hpc _ | egress _ hpc _ | transmit _ hpc =>
      exact hup hpc
  | refresh | establish => exact hup rfl
  | pollFault => exact hfault _
  | teardown => exact fun _ _ => ⟨rfl, rfl⟩
  | @refuse cmd _ down _ =>
      intro _ r
      obtain ⟨hw, ha⟩ := hidle down r
      cases cmd with
      | connect _ _ _ reservedSlot _ =>
          simp only [waiting, asking, RuntimeState.handleCommandDisconnected, reply_eq]
          cases reservedSlot <;> exact ⟨hw, ha⟩
      | close _ _ | udpUnregister _ => exact ⟨hw, ha⟩
      | dnsResolve _ _ _ | dnsResolveAll _ _ | udpRegister _ _ | getSocketState _ _ _
      | waitSocketReady _ _ _ =>
          simp only [waiting, asking, RuntimeState.handleCommandDisconnected, reply_eq]
          exact ⟨hw, ha⟩
  | discard down _ => exact fun _ => hidle down

theorem step_idle {l : Label} (hidle : s.Idle) (h : step H s l = some t) : t.Idle := by
  cases l with
  | manager choice => exact managerStep_idle hidle h
  | client x op =>
      intro hd
      rw [step_pc h (by simp)] at hd
      cases clientStep_cases h with
      | op _ _ _ =>
          simp only [setClient, streamOp, putStream_eq]
          exact hidle hd
      | close _ | ask _ _ _ _ | finish _ => exact hidle hd
  | submit cmd =>
      intro hd
      rw [submit_rt h]
      exact hidle (submit_pc h ▸ hd)
  | udpSend _ | io _ =>
      simp only [step] at h
      split at h <;> cases h
      exact hidle
  | evict _ | reserveSlot | releaseSlot | tick _ | statics _ | cancel _ | receiveUdp _
  | closeUdp _ =>
      cases h
      exact hidle

-- Each request that was issued and not cancelled is in the channel, waits, or has its one answer.
structure AnsweredOnce (s : System S) : Prop where
  issued : ∀ r, r ∉ s.rt.shared.closedReceivers → r < s.nextOneshot →
    s.queued r + s.rt.waiting r + s.rt.asking r + s.rt.told r = 1
  unissued : ∀ r, r ∉ s.rt.shared.closedReceivers → s.nextOneshot ≤ r →
    s.queued r + s.rt.waiting r + s.rt.asking r + s.rt.told r = 0
  ended : s.pc = .disconnected → ∀ r, r ∉ s.rt.shared.closedReceivers → r < s.nextOneshot →
    s.queued r + s.rt.told r = 1

structure Ledger (s : System S) : Prop where
  sound : Sound s
  idle : s.Idle
  held : ∀ r, r ∉ s.rt.shared.closedReceivers → s.held r = if r < s.nextOneshot then 1 else 0

theorem init_ledger (params : ConnectionParams) : (init S params).Ledger :=
  ⟨init_sound params, fun _ _ => ⟨rfl, rfl⟩, fun _ _ => rfl⟩

variable (hS : S.KeepsSockets)

include hS

theorem managerStep_conserves {choice : Choice} (hs : Sound s) (hidle : s.Idle)
    (hg : s.FreshGroups (.manager choice)) (h : s.managerStep H choice = some t) :
    Conserves r s t := by
  cases managerStep_cases h with
  | command _ _ hcmd =>
      exact .andThen (fun rt hrt =>
        .taken (Answers.handleCommand hS hs.consistent.slotted hg hrt) hcmd rfl)
  | udp => exact .andThen (fun rt hrt => .answered (Answers.handleUdpSend hrt) rfl rfl)
  | incoming => exact .andThen (fun a ha => .answered (Answers.injectAccepted ha) rfl rfl)
  | socketEvent =>
      refine .answered ?_ rfl rfl
      exact (Answers.handleSocketEvent _ _).after (.same rfl rfl rfl rfl rfl)
  | polled _ _ hpoll =>
      exact .answered (Answers.pollStackCommon hS hs.consistent hpoll) rfl rfl
  | sweep => exact .andThen (fun rt hrt => .answered (Answers.pollTcpSockets hrt) rfl rfl)
  | transmit => exact .answered (Answers.drainStackPackets _ _ _) rfl rfl
  | egress | refresh => exact .answered (.same rfl rfl rfl rfl rfl) rfl rfl
  | teardown => exact teardown_conserves s r
  | establish down => exact freshRuntime_conserves hidle down rfl rfl rfl
  | refuse _ hcmd => exact .taken (Answers.handleCommandDisconnected s.rt _) hcmd rfl
  | turn | pollFault | discard => exact .same rfl rfl rfl

theorem step_conserves {l : Label} (hs : Sound s) (hidle : s.Idle) (hg : s.FreshGroups l)
    (h : step H s l = some t) : Conserves r s t := by
  cases l with
  | client x op => exact clientStep_conserves h
  | submit cmd =>
      rcases submit_cases h with ⟨_, ⟨hres, rfl⟩ | ⟨hres, rfl⟩⟩
      · exact .sent rfl rfl (.inl ⟨hres, rfl⟩)
      · exact .sent rfl rfl (.inr ⟨hres, rfl⟩)
  | manager choice => exact managerStep_conserves hS hs hidle hg h
  | udpSend _ | io _ =>
      simp only [step] at h
      split at h <;> cases h
      exact .same rfl rfl rfl
  | cancel response =>
      cases h
      refine ⟨List.mem_cons_of_mem response, Nat.le_refl _, fun _ => ?_⟩
      rw [if_neg (fun hb => Nat.lt_irrefl r (Nat.lt_of_lt_of_le hb.2 hb.1))]
      rfl
  | evict _ | reserveSlot | releaseSlot | tick _ | statics _ | receiveUdp _ | closeUdp _ =>
      cases h
      exact .kept rfl rfl (fun _ => rfl)

-- Only a tick moves the clock.
theorem managerStep_now {choice : Choice} (hs : Sound s) (h : s.managerStep H choice = some t) :
    t.rt.shared.now = s.rt.shared.now := by
  cases managerStep_cases h with
  | command =>
      exact andThen_rt (Q := fun t => t.rt.shared.now = s.rt.shared.now)
        (fun _ hrt => Answers.handleCommand_now hs.consistent.slotted hrt) (fun _ => rfl)
  | udp =>
      exact andThen_rt (Q := fun t => t.rt.shared.now = s.rt.shared.now)
        (fun _ hrt => (Answers.handleUdpSend (r := 0) hrt).now) (fun _ => rfl)
  | incoming =>
      exact andThen_rt (Q := fun t => t.rt.shared.now = s.rt.shared.now)
        (fun _ ha => (Answers.injectAccepted (r := 0) ha).now) (fun _ => rfl)
  | sweep =>
      exact andThen_rt (Q := fun t => t.rt.shared.now = s.rt.shared.now)
        (fun _ hrt => (Answers.pollTcpSockets (r := 0) hrt).now) (fun _ => rfl)
  | @socketEvent _ event socketEvents =>
      exact (Answers.handleSocketEvent (r := 0) { s.rt with socketEvents } event).now
  | polled _ _ hpoll => exact (Answers.pollStackCommon (r := 0) hS hs.consistent hpoll).now
  | transmit => exact (Answers.drainStackPackets (r := 0) _ _ _).now
  | teardown => exact (Answers.replyAll (r := 0) (s.rt.setStats s.rt.shared.stats.reset) _ _).now
  | @refuse cmd => exact (Answers.handleCommandDisconnected (r := 0) s.rt cmd).now
  | establish | egress | refresh | turn | pollFault | discard => rfl

theorem step_now {l : Label} (hs : Sound s) (h : step H s l = some t) :
    t.rt.shared.now = s.rt.shared.now ∨
      ∃ d, l = .tick d ∧ t.rt.shared.now = s.rt.shared.now + d := by
  cases l with
  | tick d =>
      cases h
      exact .inr ⟨d, rfl, rfl⟩
  | client x op =>
      refine .inl ?_
      cases clientStep_cases h with
      | op _ _ _ => exact (Answers.putStream (r := 0) s.rt x _).now
      | close _ | ask _ _ _ _ | finish _ => rfl
  | submit cmd => exact .inl (by rw [submit_rt h])
  | manager choice => exact .inl (managerStep_now hS hs h)
  | udpSend _ | io _ =>
      simp only [step] at h
      split at h <;> cases h
      exact .inl rfl
  | evict _ | reserveSlot | releaseSlot | statics _ | cancel _ | receiveUdp _ | closeUdp _ =>
      cases h
      exact .inl rfl

theorem step_now_le {l : Label} (hs : Sound s) (h : step H s l = some t) :
    s.rt.shared.now ≤ t.rt.shared.now := by
  rcases step_now hS hs h with he | ⟨d, _, he⟩
  · exact Nat.le_of_eq he.symm
  · rw [he]
    exact Nat.le_add_right _ _

theorem step_ledger {l : Label} (hb : s.Ledger) (hg : s.FreshGroups l)
    (h : step H s l = some t) : t.Ledger := by
  refine ⟨step_sound hS hb.sound h, step_idle hb.idle h, fun r hr => ?_⟩
  obtain ⟨hclosed, hissued, hheld⟩ := step_conserves (r := r) hS hb.sound hb.idle hg h
  rw [hheld hr, hb.held r (mt hclosed hr)]
  rcases Nat.lt_or_ge r s.nextOneshot with hlt | hge
  · rw [if_pos hlt, if_neg (fun hb => Nat.not_lt_of_ge hb.1 hlt),
      if_pos (Nat.lt_of_lt_of_le hlt hissued)]
  · rw [if_neg (Nat.not_lt_of_ge hge), Nat.zero_add]
    exact if_congr ⟨And.right, fun hlt => ⟨hge, hlt⟩⟩ rfl rfl

theorem answered_once {params : ConnectionParams}
    (h : Run.Reaches (step H) FreshGroups (init S params) s) : s.AnsweredOnce := by
  have hb : s.Ledger :=
    h.invariant (fun _ _ _ hb hg hst => step_ledger hS hb hg hst) (init_ledger params)
  have hsum : ∀ r, s.queued r + s.rt.waiting r + s.rt.asking r + s.rt.told r = s.held r := by
    intro r
    rw [held, RuntimeState.due]
    omega
  have hissued : ∀ r, r ∉ s.rt.shared.closedReceivers → r < s.nextOneshot →
      s.queued r + s.rt.waiting r + s.rt.asking r + s.rt.told r = 1 := by
    intro r hr hlt
    rw [hsum, hb.held r hr, if_pos hlt]
  refine ⟨hissued, fun r hr hge => ?_, fun hd r hr hlt => ?_⟩
  · rw [hsum, hb.held r hr, if_neg (Nat.not_lt_of_ge hge)]
  · obtain ⟨hw, ha⟩ := hb.idle hd r
    have hone := hissued r hr hlt
    rwa [hw, ha] at hone

end System

namespace Script

-- A client waits for its connection when the tunnel is lost.
def waiting : List Label :=
  establish ++ connect 5000 0 ++
    [refresh, .client 0 .waitReady, .manager (.checkAlive true), .manager (.command 0)] ++
    skipDrains ++ [.manager .advance, refresh]

end Script

open Script in
theorem System.answered_once_lost : ∃ s : Reached,
    s.pc = .disconnected ∧ s.nextOneshot = 2 ∧ s.rt.told 0 = 1 ∧ s.rt.told 1 = 1 ∧
      s.AnsweredOnce := by
  have hg : Run.Guarded (step hickory) FreshGroups (init Reference.smoltcp Script.params)
      (Script.waiting ++ [.manager (.checkAlive false)]) := by
    decide +kernel
  have h : (run (Script.waiting ++ [.manager (.checkAlive false)])).any (fun s =>
      s.pc = .disconnected ∧ s.nextOneshot = 2 ∧ s.rt.told 0 = 1 ∧ s.rt.told 1 = 1) = true := by
    decide +kernel
  obtain ⟨s, hs, hp⟩ := (Option.any_eq_true _ _).mp h
  obtain ⟨hpc, hnext, htold, htold'⟩ := of_decide_eq_true hp
  exact ⟨s, hpc, hnext, htold, htold',
    answered_once Reference.keepsSockets (Run.exec_guarded hs hg)⟩

end Usque
