import Usque.Socks.TcpRequests

namespace Usque

-- What a request has of the slot it has taken: the slot itself, or the Connect that carries it.
def TcpRequest.permit (r : TcpRequest) : Permit OneshotId :=
  match r.stage with
  | .picked | .resolving _ | .resolved _ | .connecting .. | .binding => .held
  | .awaiting _ response _ => .sent response
  | .timedOut slot => slot
  | .arrived | .racing _ | .serving | .ended => .none

def Reply.resolves (command : Socks5Command) (reply : Reply) : Bool :=
  match command, reply with
  | .tcpConnect, .resolvedAll (.ok _) => true
  | .tcpBind, .resolved (.ok _) => true
  | _, _ => false

theorem Reply.resolves_iff {command : Socks5Command} {reply : Reply} :
    reply.resolves command = true ↔
      (command = .tcpConnect ∧ ∃ ips, reply = .resolvedAll (.ok ips)) ∨
      (command = .tcpBind ∧ ∃ ip, reply = .resolved (.ok ip)) := by
  simp only [Reply.resolves]
  split <;> simp_all

namespace System

variable {S : Smoltcp}

def goesDown (H : Hickory) (s : System S) (l : Label) : Bool :=
  s.connected && (s.step H l).any (fun t => t.pc = .disconnected)

variable {H : Hickory} {s t : System S} {l : Label}

theorem handled_asked {cmd : ManagerCommand} (hq : s.cmdRx = cmd :: t.cmdRx) :
    s.asked = cmd.slot.toList ++ t.asked := by
  simp only [asked, hq, List.filterMap_cons]
  cases cmd.slot <;> rfl

theorem handled_pending {cmd : ManagerCommand}
    (ht : t.rt.tcpSlots = s.rt.tcpSlots ∧ cmd.reservedSlot = false ∨
      ∃ response, cmd.response = some response ∧
        s.rt.tcpSlots.Handled t.rt.tcpSlots cmd.reservedSlot response) :
    t.rt.shared.stats.pendingConnects =
      if cmd.reservedSlot then s.rt.shared.stats.pendingConnects - 1
      else s.rt.shared.stats.pendingConnects := by
  rcases ht with ⟨ht, hr⟩ | ⟨_, _, ht⟩
  · rw [hr]
    exact congrArg TcpSlots.pendingConnects ht
  · refine ht.pendingConnects.trans ?_
    simp only [TcpSlots.finish]
    split_ifs <;> rfl

theorem SlotStep.nextOneshot_le (h : SlotStep s t l) : s.nextOneshot ≤ t.nextOneshot := by
  cases h with
  | kept _ _ hn | reset _ _ _ _ hn | handled _ _ _ _ hn => exact Nat.le_of_eq hn.symm
  | sent _ _ _ _ hn =>
      rcases hn with ⟨_, hn⟩ | ⟨_, hn⟩
      · exact Nat.le_of_eq hn.symm
      · exact hn ▸ Nat.le_succ _

end System

section permitsOf

variable {S : Smoltcp} {H : Hickory} {s t : System S} {l : Label}
  {holders : List (Permit OneshotId)}

-- A manager's permits, in the hands of these holders.
def permitsOf (s : System S) (holders : List (Permit OneshotId)) : Permits OneshotId where
  holders := holders
  queue := s.asked
  used := s.rt.shared.stats.pendingConnects
  live := !s.lost

-- A step of the manager that takes no reserved Connect from elsewhere keeps the permits.
theorem permitsOf_step (h : (permitsOf s holders).Sound) (hstep : s.step H l = some t)
    (hs : System.SlotStep s t l) (hl : ∀ cmd, l = .submit cmd → cmd.slot = none)
    (hdown : s.goesDown H l = true → holders.countP (Permits.counts s.asked) = 0) :
    (permitsOf t holders).Sound := by
  have hlive : (!t.lost) = true → (permitsOf s holders).live = true := by
    intro hrunning
    have ht : t.lost = false := by simpa using hrunning
    show (!s.lost) = true
    cases hlost : s.lost with
    | false => rfl
    | true => rw [System.step_lost hstep hlost] at ht; cases ht
  cases hs with
  | kept hq ht _ =>
      have hp : t.rt.shared.stats.pendingConnects = s.rt.shared.stats.pendingConnects :=
        congrArg TcpSlots.pendingConnects ht
      have ha : t.asked = s.asked := by simp only [System.asked, hq]
      rw [permitsOf, hp, ha]
      exact h.stop hlive
  | reset hconnected hpc hq ht _ =>
      have hnone := hdown (by
        simp only [System.goesDown, hconnected, hstep, Option.any_some, hpc, decide_true,
          Bool.and_self])
      have hp : t.rt.shared.stats.pendingConnects = 0 := congrArg TcpSlots.pendingConnects ht
      have ha : t.asked = s.asked := by simp only [System.asked, hq]
      rw [permitsOf, hp, ha]
      exact (h.reset hnone).stop hlive
  | handled cmd hl hq ht _ =>
      obtain ⟨choice, rfl⟩ := hl
      have hrunning : (permitsOf s holders).live = true := by
        show (!s.lost) = true
        rw [System.step_running hstep]
        rfl
      have ha := System.handled_asked hq
      have hpending := System.handled_pending ht
      cases hslot : cmd.slot with
      | none =>
          rw [hslot, Option.toList_none, List.nil_append] at ha
          rw [ManagerCommand.slot_none hslot] at hpending
          rw [permitsOf, hpending, ← ha]
          exact h.stop hlive
      | some k =>
          rw [hslot, Option.toList_some, List.singleton_append] at ha
          rw [(ManagerCommand.slot_some hslot).1, if_pos rfl] at hpending
          rw [permitsOf, hpending]
          exact (h.handle hrunning ha).stop hlive
  | sent cmd hq ht hsent _ =>
      have hslot : cmd.slot = none := by
        rcases hsent with he | hsource
        · exact hl cmd he
        · cases cmd with
          | connect _ _ _ _ _ => exact absurd rfl hsource
          | _ => rfl
      have hp : t.rt.shared.stats.pendingConnects = s.rt.shared.stats.pendingConnects :=
        congrArg TcpSlots.pendingConnects ht
      have ha : t.asked = s.asked := by
        simp only [System.asked, hq, List.filterMap_append, List.filterMap_cons, hslot,
          List.filterMap_nil, List.append_nil]
      rw [permitsOf, hp, ha]
      exact h.stop hlive

end permitsOf

namespace TcpRequests

variable {S : Smoltcp} {H : Hickory} {s t : TcpRequests S} {m i : Nat} {r : TcpRequest}

def pendingConnects (s : TcpRequests S) (m : Nat) : Nat :=
  (s.managers m).rt.shared.stats.pendingConnects

-- A request holds a slot of a manager while the Connect that has it is not yet handled.
def holds (s : TcpRequests S) (m : Nat) (r : TcpRequest) : Bool :=
  r.manager = m && Permits.counts (s.managers m).asked r.permit

structure Conserved (s : TcpRequests S) : Prop where
  pending : ∀ m, s.pendingConnects m = s.requests.countP (s.holds m)
  idle : (∀ r ∈ s.requests, r.stage = .ended) → ∀ m, s.pendingConnects m = 0

def keepsSlot (s : TcpRequests S) (r : TcpRequest) : RequestOp → Prop
  | .resolve =>
      match r.target with
      | .ip _ => True
      | .domain _ _ => (s.managers r.manager).lost = false
  | .resolved =>
      match r.stage with
      | .resolving response =>
          ((s.managers r.manager).received response).any (Reply.resolves r.command) = true
      | _ => True
  | .start => r.stage ≠ .resolved []
  | .finish =>
      match r.stage with
      | .timedOut slot => Permits.counts (s.managers r.manager).asked slot = false
      | .binding => False
      | _ => True
  | _ => True

def slotsReturned (H : Hickory) (s : TcpRequests S) : RequestLabel → Prop
  | .manager m l => (s.managers m).goesDown H l = true → s.requests.countP (s.holds m) = 0
  | .request i op => ∀ r ∈ s.requests[i]?, s.keepsSlot r op
  | _ => True

def permitAt (m : Nat) (r : TcpRequest) : Permit OneshotId :=
  if r.manager = m then r.permit else .none

def permits (s : TcpRequests S) (m : Nat) : Permits OneshotId where
  holders := s.requests.map (permitAt m)
  queue := (s.managers m).asked
  used := s.pendingConnects m
  live := !(s.managers m).lost

theorem counts_permitAt (queue : List OneshotId) (m : Nat) (r : TcpRequest) :
    Permits.counts queue (permitAt m r) =
      (decide (r.manager = m) && Permits.counts queue r.permit) := by
  simp only [permitAt]
  split_ifs with h
  · simp [h]
  · simp [h, Permits.counts]

theorem countP_holds (s : TcpRequests S) (m : Nat) :
    s.requests.countP (s.holds m) =
      (s.permits m).holders.countP (Permits.counts (s.permits m).queue) := by
  simp only [permits, List.countP_map]
  refine List.countP_congr (fun r _ => ?_)
  rw [Function.comp_apply, counts_permitAt]
  rfl

structure Sound (s : TcpRequests S) : Prop where
  permits : ∀ m, (s.permits m).Sound
  askedOnce : ∀ m, (s.managers m).AskedOnce
  fresh : ∀ r ∈ s.requests, ∀ k, r.permit = .sent k → k < (s.managers r.manager).nextOneshot

theorem Sound.conserved (h : s.Sound) : s.Conserved where
  pending := fun m => (h.permits m).used.trans (s.countP_holds m).symm
  idle := by
    intro hended m
    rw [show s.pendingConnects m = _ from (h.permits m).used, ← countP_holds, List.countP_eq_zero]
    intro r hr
    simp [holds, TcpRequest.permit, hended r hr, Permits.counts]

theorem init_sound (params : ConnectionParams) (workers : Nat) :
    (init S params workers).Sound where
  permits := fun _ => .empty _
  askedOnce := fun _ => .init params
  fresh := fun _ hr => nomatch hr

theorem permitAt_ne (h : r.manager ≠ m) : permitAt m r = .none := if_neg h

theorem permitAt_self (r : TcpRequest) : permitAt r.manager r = r.permit := if_pos rfl

theorem set_of_getElem? {α : Type} {l : List α} {i : Nat} {a : α} (h : l[i]? = some a) :
    l.set i a = l := by
  obtain ⟨hi, rfl⟩ := List.getElem?_eq_some_iff.mp h
  exact List.set_getElem_self hi

theorem Sound.change (h : s.Sound) {sys : System S}
    (hmanagers : t.managers = Function.update s.managers m sys)
    (hothers : ∀ n, n ≠ m → t.requests.map (permitAt n) = s.requests.map (permitAt n))
    (hpermits : Permits.Sound ⟨t.requests.map (permitAt m), sys.asked,
      sys.rt.shared.stats.pendingConnects, !sys.lost⟩)
    (hasked : sys.AskedOnce) (hnext : (s.managers m).nextOneshot ≤ sys.nextOneshot)
    (hfresh : ∀ r ∈ t.requests, r ∈ s.requests ∨
      r.manager = m ∧ ∀ k, r.permit = .sent k → k < sys.nextOneshot) : t.Sound := by
  have hmanager : ∀ n, t.managers n = if n = m then sys else s.managers n := fun n => by
    rw [hmanagers, Function.update_apply]
  constructor
  · intro n
    by_cases hn : n = m
    · subst hn
      simpa only [TcpRequests.permits, pendingConnects, hmanager, if_true] using hpermits
    · have hold := h.permits n
      simpa only [TcpRequests.permits, pendingConnects, hmanager, if_neg hn, hothers n hn]
        using hold
  · intro n
    rw [hmanager]
    split_ifs
    · exact hasked
    · exact h.askedOnce n
  · intro r hr k hk
    rw [hmanager]
    rcases hfresh r hr with hold | ⟨hm, hnew⟩
    · have hlt := h.fresh r hold k hk
      split_ifs with he
      · exact Nat.lt_of_lt_of_le (he ▸ hlt) hnext
      · exact hlt
    · rw [if_pos hm]
      exact hnew k hk

theorem setManager_sound (h : s.Sound) {sys : System S}
    (hpermits : Permits.Sound ⟨(s.permits m).holders, sys.asked,
      sys.rt.shared.stats.pendingConnects, !sys.lost⟩)
    (hasked : sys.AskedOnce) (hnext : (s.managers m).nextOneshot ≤ sys.nextOneshot) :
    (s.setManager m sys).Sound :=
  h.change rfl (fun _ _ => rfl) hpermits hasked hnext (fun _ hr => .inl hr)

-- A step of one request, which changes at most the manager that it picks or has picked.
theorem Sound.update (h : s.Sound) (r' : TcpRequest) {sys : System S}
    (hi : s.requests[i]? = some r) (hr : r.manager = r'.manager ∨ r.permit = .none)
    (hmanagers : t.managers = Function.update s.managers r'.manager sys)
    (hrequests : t.requests = s.requests.set i r')
    (hpermits : Permits.Sound ⟨(s.permits r'.manager).holders.set i r'.permit, sys.asked,
      sys.rt.shared.stats.pendingConnects, !sys.lost⟩)
    (hasked : sys.AskedOnce) (hnext : (s.managers r'.manager).nextOneshot ≤ sys.nextOneshot)
    (hfresh : ∀ k, r'.permit = .sent k → k < sys.nextOneshot) : t.Sound := by
  have hholders : ∀ n, t.requests.map (permitAt n) =
      (s.requests.map (permitAt n)).set i (permitAt n r') := fun n => by
    rw [hrequests, List.map_set]
  refine h.change hmanagers (fun n hn => ?_) ?_ hasked hnext (fun q hq => ?_)
  · have hold : permitAt n r = .none := by
      rcases hr with he | hnone
      · exact permitAt_ne (fun hne => hn (hne.symm.trans he))
      · simp only [permitAt, hnone, ite_self]
    rw [hholders, permitAt_ne (Ne.symm hn)]
    exact set_of_getElem? (by rw [List.getElem?_map, hi, Option.map_some, hold])
  · rw [hholders, permitAt_self]
    exact hpermits
  · rw [hrequests] at hq
    rcases List.mem_or_eq_of_mem_set hq with hq | rfl
    · exact .inl hq
    · exact .inr ⟨rfl, hfresh⟩

theorem managerStep_sound (h : s.Sound) {sys : System S} {l : Label}
    (hstep : (s.managers m).step H l = some sys) (haside : s.asideOfRequests m l = true)
    (hdown : (s.managers m).goesDown H l = true → s.requests.countP (s.holds m) = 0) :
    (s.setManager m sys).Sound := by
  have hs : System.SlotStep (s.managers m) sys l :=
    System.step_slotStep hstep (by rintro rfl; cases haside) (by rintro rfl; cases haside)
  refine setManager_sound h (permitsOf_step (h.permits m) hstep hs ?_ (fun hd => ?_))
    ((h.askedOnce m).step hs) hs.nextOneshot_le
  · rintro cmd rfl
    cases cmd with
    | connect _ _ _ _ _ => cases haside
    | _ => rfl
  · exact (countP_holds s m).symm.trans (hdown hd)

theorem holder (hi : s.requests[i]? = some r) :
    (s.permits r.manager).holders[i]? = some r.permit := by
  simp only [permits, List.getElem?_map, hi, Option.map_some, permitAt_self]

theorem Sound.enter (h : s.Sound) (hi : s.requests[i]? = some r) (r' : TcpRequest)
    (hm : r.manager = r'.manager) (hmanagers : t.managers = s.managers)
    (hrequests : t.requests = s.requests.set i r')
    (hp : r'.permit = r.permit ∨ r'.permit = .none ∧
      Permits.counts (s.managers r.manager).asked r.permit = false) : t.Sound := by
  have hmanagers' : t.managers = Function.update s.managers r'.manager (s.managers r'.manager) := by
    rw [hmanagers, Function.update_eq_self]
  refine h.update r' hi (.inl hm) hmanagers' hrequests ?_ (h.askedOnce r'.manager)
    (Nat.le_refl _) ?_
  · rw [← hm]
    rcases hp with he | ⟨hnone, hcounts⟩
    · rw [he, set_of_getElem? (holder hi)]
      exact h.permits r.manager
    · rw [hnone]
      exact (h.permits r.manager).leave (holder hi) hcounts
  · intro k hk
    rw [← hm]
    rcases hp with he | ⟨hnone, _⟩
    · exact h.fresh r (List.mem_of_getElem? hi) k (he ▸ hk)
    · rw [hnone] at hk
      cases hk

-- What stays of a manager when only its count of slots changes.
theorem askedOnce_setShared {sys : System S} (h : sys.AskedOnce) {shared : Shared}
    (hreplies : shared.replies = sys.rt.shared.replies) : (sys.setShared shared).AskedOnce :=
  h.congr rfl (by simp only [RuntimeState.tcpSlots, System.setShared, hreplies]) rfl

theorem tryReserve_some {sys sys' : System S} {active : Nat}
    (h : sys.tryReserve active = some sys') :
    ∃ shared, sys' = sys.setShared shared ∧ shared.replies = sys.rt.shared.replies ∧
      shared.stats.pendingConnects = sys.rt.shared.stats.pendingConnects + 1 := by
  simp only [System.tryReserve, ManagerRuntimeStats.tryReserveTcpSlot] at h
  cases hroom : ManagerRuntimeStats.hasRoom
      { sys.rt.shared.stats with activeTcpSockets := active } with
  | true =>
      simp only [hroom, if_true] at h
      cases h
      exact ⟨_, rfl, rfl, rfl⟩
  | false =>
      simp only [hroom, Bool.false_eq_true, if_false] at h
      cases h

theorem finishReserved_eq (sys : System S) :
    ∃ shared, sys.finishReserved = sys.setShared shared ∧
      shared.replies = sys.rt.shared.replies ∧
      shared.stats.pendingConnects = sys.rt.shared.stats.pendingConnects - 1 := by
  refine ⟨_, rfl, rfl, ?_⟩
  simp only [ManagerRuntimeStats.finishReservedTcpConnect]
  split_ifs with hz
  · omega
  · rfl

theorem Sound.take (h : s.Sound) (hi : s.requests[i]? = some r) (r' : TcpRequest)
    (hr : r.permit = .none) (hr' : r'.permit = .held) {active : Nat} {sys : System S}
    (hsys : (s.managers r'.manager).tryReserve active = some sys)
    (hmanagers : t.managers = Function.update s.managers r'.manager sys)
    (hrequests : t.requests = s.requests.set i r') : t.Sound := by
  obtain ⟨shared, rfl, hreplies, hpending⟩ := tryReserve_some hsys
  refine h.update r' hi (.inr hr) hmanagers hrequests ?_
    (askedOnce_setShared (h.askedOnce r'.manager) hreplies) (Nat.le_refl _)
    (fun k hk => by rw [hr'] at hk; cases hk)
  have hnone : (s.permits r'.manager).holders[i]? = some .none := by
    simp only [TcpRequests.permits, List.getElem?_map, hi, Option.map_some, permitAt, hr, ite_self]
  have htaken := (h.permits r'.manager).take hnone
  rw [hr']
  show Permits.Sound ⟨_, _, shared.stats.pendingConnects, _⟩
  rw [hpending]
  exact htaken

theorem Sound.giveBack (h : s.Sound) (hi : s.requests[i]? = some r) (r' : TcpRequest)
    (hm : r.manager = r'.manager) (hr' : r'.permit = .none)
    (hcounts : Permits.counts (s.managers r.manager).asked r.permit = true)
    (hlost : (s.managers r.manager).lost = true)
    (hmanagers : t.managers =
      Function.update s.managers r.manager (s.managers r.manager).finishReserved)
    (hrequests : t.requests = s.requests.set i r') : t.Sound := by
  obtain ⟨shared, heq, hreplies, hpending⟩ := finishReserved_eq (s.managers r.manager)
  rw [heq, hm] at hmanagers
  have hback := (h.permits r.manager).giveBack (holder hi) hcounts (fun hlive => by
    simp only [TcpRequests.permits, hlost, Bool.not_true] at hlive
    cases hlive)
  rw [hm] at hback hpending hreplies
  refine h.update r' hi (.inl hm) hmanagers hrequests ?_
    (askedOnce_setShared (h.askedOnce r'.manager) hreplies) (Nat.le_refl _)
    (fun k hk => by rw [hr'] at hk; cases hk)
  rw [hr']
  show Permits.Sound ⟨_, _, shared.stats.pendingConnects, _⟩
  rw [hpending]
  exact hback

theorem submit_some {sys sys' : System S} {cmd : ManagerCommand} {response : OneshotId}
    (hr : cmd.response = some response) (h : sys.submit cmd = some sys') :
    sys' = { sys with cmdRx := sys.cmdRx ++ [cmd], nextOneshot := sys.nextOneshot + 1 } ∧
      response = sys.nextOneshot := by
  simp only [System.submit, hr] at h
  split_ifs at h with _ he
  cases h
  exact ⟨rfl, he⟩

theorem ask_some {cmd : OneshotId → ManagerCommand} {stage : OneshotId → RequestStage}
    (hresponse : ∀ k, (cmd k).response = some k) (h : s.ask i r cmd stage = some t) :
    ∃ sys, System.SlotStep (s.managers r.manager) sys
        (.submit (cmd (s.managers r.manager).nextOneshot)) ∧
      sys.cmdRx = (s.managers r.manager).cmdRx ++ [cmd (s.managers r.manager).nextOneshot] ∧
      sys.nextOneshot = (s.managers r.manager).nextOneshot + 1 ∧
      sys.rt = (s.managers r.manager).rt ∧ sys.lost = (s.managers r.manager).lost ∧
      t = (s.setManager r.manager sys).enter i r (stage (s.managers r.manager).nextOneshot) := by
  obtain ⟨sys, hsys, rfl⟩ := Option.map_eq_some_iff.mp h
  obtain ⟨rfl, _⟩ := submit_some (hresponse _) hsys
  exact ⟨_, System.submit_slotStep hsys, rfl, rfl, rfl, rfl, rfl⟩

-- A question about a name keeps the slot.
theorem Sound.ask (h : s.Sound) (hi : s.requests[i]? = some r)
    {cmd : OneshotId → ManagerCommand} {stage : OneshotId → RequestStage}
    (hresponse : ∀ k, (cmd k).response = some k) (hslot : ∀ k, (cmd k).slot = none)
    (hr : r.permit = .held) (hstage : ∀ k, { r with stage := stage k }.permit = .held)
    (hstep : s.ask i r cmd stage = some t) : t.Sound := by
  obtain ⟨sys, hs, hq, hn, hrt, hlost, rfl⟩ := ask_some hresponse hstep
  refine h.update { r with stage := stage _ } hi (.inl rfl) rfl rfl ?_
    ((h.askedOnce r.manager).step hs) (hs.nextOneshot_le) (fun k hk => by rw [hstage] at hk; cases hk)
  have hasked : sys.asked = (s.managers r.manager).asked := by
    simp only [System.asked, hq, List.filterMap_append, List.filterMap_cons, hslot,
      List.filterMap_nil, List.append_nil]
  rw [hstage, hasked, hrt, hlost, ← hr, set_of_getElem? (holder hi)]
  exact h.permits r.manager

theorem Sound.send (h : s.Sound) (hi : s.requests[i]? = some r)
    {cmd : OneshotId → ManagerCommand} {stage : OneshotId → RequestStage}
    (hslot : ∀ k, (cmd k).slot = some k) (hr : r.permit = .held)
    (hstage : ∀ k, { r with stage := stage k }.permit = .sent k)
    (hstep : s.ask i r cmd stage = some t) : t.Sound := by
  obtain ⟨sys, hs, hq, hn, hrt, hlost, rfl⟩ :=
    ask_some (fun k => (ManagerCommand.slot_some (hslot k)).2) hstep
  refine h.update { r with stage := stage _ } hi (.inl rfl) rfl rfl ?_
    ((h.askedOnce r.manager).step hs) (hs.nextOneshot_le) (fun k hk => ?_)
  · have hasked : sys.asked =
        (s.managers r.manager).asked ++ [(s.managers r.manager).nextOneshot] := by
      simp only [System.asked, hq, List.filterMap_append, List.filterMap_cons, hslot,
        List.filterMap_nil]
    have hfresh : Permit.sent (s.managers r.manager).nextOneshot ∉
        (s.permits r.manager).holders := by
      intro hm
      obtain ⟨q, hq, hk⟩ := List.mem_map.mp hm
      simp only [permitAt] at hk
      split_ifs at hk with he
      have hlt := h.fresh q hq _ hk
      rw [he] at hlt
      exact Nat.lt_irrefl _ hlt
    have hnew : (s.managers r.manager).nextOneshot ∉ (s.permits r.manager).queue := by
      intro hm
      have hlt := (h.askedOnce r.manager).fresh _ (System.asked_subset _ hm)
      exact Nat.lt_irrefl _ hlt
    have hsent := (h.permits r.manager).send (hr ▸ holder hi) hfresh hnew
    rw [hstage, hasked, hrt, hlost]
    exact hsent
  · rw [hstage] at hk
    cases hk
    exact hn ▸ Nat.lt_succ_self _

theorem afterFailure_permit (r : TcpRequest) (attempt : Attempt) (addresses : List IpAddress) :
    { r with stage := afterFailure attempt addresses }.permit = .none := by
  cases attempt <;> rfl

theorem afterSuccess_permit (r : TcpRequest) (attempt : Attempt) (addresses : List IpAddress) :
    { r with stage := afterSuccess attempt addresses }.permit = .none := by
  cases attempt <;> rfl

-- A Connect that has its answer is no longer queued.
theorem received_counts {sys : System S} (h : sys.AskedOnce) {response : OneshotId}
    {reply : Reply} (hreply : sys.received response = some reply)
    (hconnect : reply.isConnect = true) :
    Permits.counts sys.asked (.sent response) = false := by
  obtain ⟨p, hp, rfl⟩ := Option.map_eq_some_iff.mp hreply
  have hfst : p.1 = response := by simpa using List.find?_some hp
  have hmem : response ∈ sys.rt.tcpSlots.answered :=
    List.mem_map.mpr ⟨p, List.mem_filter.mpr ⟨List.mem_of_find?_eq_some hp, hconnect⟩, hfst⟩
  exact decide_eq_false (fun hq => (h.answered response hmem).2 (sys.asked_subset hq))

theorem accept_sound (h : s.Sound) (command : Socks5Command) (target : TargetAddr) :
    Sound { s with requests := s.requests ++ [⟨command, target, 0, .arrived⟩] } where
  permits := fun m => by
    have hjoin := (h.permits m).join
    simp only [TcpRequests.permits, List.map_append, List.map_cons, List.map_nil] at hjoin ⊢
    have hnew : permitAt m ⟨command, target, 0, .arrived⟩ = .none := ite_self _
    rw [hnew]
    exact hjoin
  askedOnce := h.askedOnce
  fresh := fun r hr k hk => by
    rcases List.mem_append.mp hr with hr | hr
    · exact h.fresh r hr k hk
    · rw [List.mem_singleton.mp hr] at hk
      cases hk

section steps

variable (h : s.Sound) (hi : s.requests[i]? = some r)

include h hi

theorem pick_sound {active : Nat} (hstep : s.pick i r m active = some t) : t.Sound := by
  simp only [pick] at hstep
  split_ifs at hstep with hstage
  obtain ⟨sys, hsys, rfl⟩ := Option.map_eq_some_iff.mp hstep
  exact h.take hi { r with manager := m, stage := .picked }
    (by simp only [TcpRequest.permit, hstage.1]) rfl hsys rfl rfl

theorem resolve_sound (hg : s.keepsSlot r .resolve) (hstep : s.resolve i r = some t) :
    t.Sound := by
  simp only [resolve] at hstep
  by_cases hstage : r.stage = .picked
  · rw [if_pos hstage] at hstep
    have hheld : r.permit = .held := by simp only [TcpRequest.permit, hstage]
    cases htarget : r.target with
    | ip addr =>
        cases hcommand : r.command with
        | tcpConnect =>
            simp only [htarget, hcommand] at hstep
            cases hstep
            exact h.enter hi { r with stage := .resolved [stdIpToSmoltcp addr.ip] } rfl rfl rfl
              (.inl hheld.symm)
        | tcpBind =>
            simp only [htarget, hcommand] at hstep
            cases hstep
            exact h.enter hi { r with stage := .binding } rfl rfl rfl (.inl hheld.symm)
    | domain domain port =>
        simp only [keepsSlot, htarget] at hg
        simp only [htarget, hg, Bool.false_eq_true, if_false] at hstep
        refine h.ask hi ?_ ?_ hheld (fun _ => rfl) hstep
        · intro k
          cases r.command <;> rfl
        · intro k
          cases r.command <;> rfl
  · rw [if_neg hstage] at hstep
    cases hstep

theorem resolved_sound {response : OneshotId} (hstage : r.stage = .resolving response)
    (hg : s.keepsSlot r .resolved) (hstep : s.resolved i r response = some t) : t.Sound := by
  have hheld : r.permit = .held := by simp only [TcpRequest.permit, hstage]
  simp only [keepsSlot, hstage] at hg
  simp only [resolved] at hstep
  split at hstep
  · next ips _ hcommand =>
      obtain ⟨addresses, haddresses, _⟩ := interleaveAddresses_ok ips
      rw [haddresses] at hstep
      cases hstep
      exact h.enter hi { r with stage := .resolved addresses } rfl rfl rfl (.inl hheld.symm)
  · next hcommand =>
      cases hstep
      exact h.enter hi { r with stage := .binding } rfl rfl rfl (.inl hheld.symm)
  · next reply hreply hcommand hbind =>
      rw [hreply, Option.any_some] at hg
      rcases Reply.resolves_iff.mp hg with ⟨hc, ips, hips⟩ | ⟨hc, ip, hip⟩
      · exact (hcommand ips hc hips).elim
      · exact (hbind ip hc hip).elim
  · next hnone =>
      rw [hnone] at hg
      cases hg

theorem start_sound (hg : s.keepsSlot r .start) (hstep : s.start i r = some t) : t.Sound := by
  simp only [start] at hstep
  split at hstep
  · next hstage => exact absurd hstage hg
  · next ip addresses hstage =>
      cases hstep
      refine h.enter hi { r with stage := .connecting _ _ _ _ } rfl rfl rfl (.inl ?_)
      simp only [TcpRequest.permit, hstage]
  · cases hstep

theorem attempt_sound {active : Nat} (hstep : s.attempt i r active = some t) : t.Sound := by
  simp only [attempt] at hstep
  split at hstep
  · next ip addresses hstage =>
      have hnone : r.permit = .none := by simp only [TcpRequest.permit, hstage]
      split at hstep
      · next sys hsys =>
          cases hstep
          exact h.take hi { r with stage := .connecting .raced _ ip addresses } hnone rfl hsys rfl rfl
      · cases hstep
        exact h.enter hi { r with stage := .racing addresses } rfl rfl rfl (.inl hnone.symm)
  · cases hstep

theorem send_sound (hstep : s.send i r = some t) : t.Sound := by
  simp only [send] at hstep
  split at hstep
  · next attempt localPort ip addresses hstage =>
      have hheld : r.permit = .held := by simp only [TcpRequest.permit, hstage]
      split at hstep
      · next hlost =>
          cases hstep
          refine h.giveBack hi { r with stage := afterFailure attempt addresses } rfl
            (afterFailure_permit r attempt addresses) ?_ hlost rfl rfl
          rw [hheld]
          rfl
      · exact h.send hi (fun _ => rfl) hheld (fun _ => rfl) hstep
  · cases hstep

theorem receive_sound (hstep : s.receive i r = some t) : t.Sound := by
  simp only [receive] at hstep
  split at hstep
  · next attempt response addresses hstage =>
      have hsent : r.permit = .sent response := by simp only [TcpRequest.permit, hstage]
      split at hstep
      · next handle hreply =>
          cases hstep
          refine h.enter hi { r with stage := afterSuccess attempt addresses } rfl rfl rfl
            (.inr ⟨afterSuccess_permit r attempt addresses, ?_⟩)
          rw [hsent]
          exact received_counts (h.askedOnce r.manager) hreply rfl
      · next error hreply =>
          cases hstep
          refine h.enter hi { r with stage := afterFailure attempt addresses } rfl rfl rfl
            (.inr ⟨afterFailure_permit r attempt addresses, ?_⟩)
          rw [hsent]
          exact received_counts (h.askedOnce r.manager) hreply rfl
      · cases hstep
      · split at hstep
        · next hlost =>
            cases hstep
            refine h.giveBack hi { r with stage := afterFailure attempt addresses } rfl
              (afterFailure_permit r attempt addresses) ?_ hlost.1 rfl rfl
            rw [hsent]
            exact decide_eq_true hlost.2
        · cases hstep
  · cases hstep

theorem timeout_sound (hstep : s.timeout i r = some t) : t.Sound := by
  simp only [timeout] at hstep
  split at hstep
  · next hstage =>
      cases hstep
      refine h.enter hi { r with stage := .timedOut .none } rfl rfl rfl (.inl ?_)
      simp only [TcpRequest.permit, hstage]
  · next hstage =>
      cases hstep
      refine h.enter hi { r with stage := .timedOut .held } rfl rfl rfl (.inl ?_)
      simp only [TcpRequest.permit, hstage]
  · next response addresses hstage =>
      cases hstep
      have hsent : r.permit = .sent response := by simp only [TcpRequest.permit, hstage]
      refine h.update { r with stage := .timedOut (.sent response) } hi (.inl rfl) rfl rfl ?_
        (askedOnce_setShared (h.askedOnce r.manager) rfl) (Nat.le_refl _) (fun k hk => ?_)
      · show Permits.Sound ⟨(s.permits r.manager).holders.set i (.sent response), _, _, _⟩
        rw [← hsent, set_of_getElem? (holder hi)]
        exact h.permits r.manager
      · exact h.fresh r (List.mem_of_getElem? hi) k (hsent.trans hk)
  · cases hstep

theorem finish_sound (hg : s.keepsSlot r .finish)
    (hstep : s.requestStep i r .finish = some t) : t.Sound := by
  simp only [requestStep] at hstep
  simp only [keepsSlot] at hg
  split at hstep
  · next hstage =>
      cases hstep
      refine h.enter hi { r with stage := .ended } rfl rfl rfl (.inl ?_)
      simp only [TcpRequest.permit, hstage]
  · next hstage =>
      rw [hstage] at hg
      exact hg.elim
  · next slot hstage =>
      rw [hstage] at hg
      cases hstep
      refine h.enter hi { r with stage := .ended } rfl rfl rfl (.inr ⟨rfl, ?_⟩)
      simp only [TcpRequest.permit, hstage]
      exact hg
  · cases hstep

theorem requestStep_sound {op : RequestOp} (hg : s.keepsSlot r op)
    (hstep : s.requestStep i r op = some t) : t.Sound := by
  cases op with
  | pick m active => exact pick_sound h hi hstep
  | overloaded =>
      simp only [requestStep] at hstep
      split_ifs at hstep with hstage
      cases hstep
      refine h.enter hi { r with stage := .ended } rfl rfl rfl (.inl ?_)
      simp only [TcpRequest.permit, hstage]
  | resolve => exact resolve_sound h hi hg hstep
  | resolved =>
      simp only [requestStep] at hstep
      split at hstep
      · next response hstage => exact resolved_sound h hi hstage hg hstep
      · cases hstep
  | start => exact start_sound h hi hg hstep
  | send => exact send_sound h hi hstep
  | receive => exact receive_sound h hi hstep
  | attempt active => exact attempt_sound h hi hstep
  | settle won =>
      simp only [requestStep] at hstep
      split at hstep
      · next hstage =>
          cases hstep
          refine h.enter hi { r with stage := if won then .serving else .ended } rfl rfl rfl (.inl ?_)
          cases won <;> simp only [TcpRequest.permit, hstage] <;> rfl
      · cases hstep
  | timeout => exact timeout_sound h hi hstep
  | finish => exact finish_sound h hi hg hstep

end steps

theorem step_sound {l : RequestLabel} (h : s.Sound) (hg : slotsReturned H s l)
    (hstep : step H s l = some t) : t.Sound := by
  cases l with
  | manager m l =>
      simp only [step] at hstep
      split_ifs at hstep with haside
      obtain ⟨sys, hsys, rfl⟩ := Option.map_eq_some_iff.mp hstep
      exact managerStep_sound h hsys haside hg
  | getLocalPort =>
      cases hstep
      exact ⟨h.permits, h.askedOnce, h.fresh⟩
  | accept command target =>
      cases hstep
      exact accept_sound h command target
  | request i op =>
      obtain ⟨r, hr, hstep⟩ := Option.bind_eq_some_iff.mp hstep
      exact requestStep_sound h hr (hg r hr) hstep

-- In a run whose steps all give back the slots that they end, none is lost and none is made up.
theorem slots_conserved {params : ConnectionParams} {workers : Nat}
    (h : Run.Reaches (step H) (slotsReturned H) (init S params workers) s) : s.Conserved :=
  (h.invariant (fun _ _ _ hs hg hstep => step_sound hs hg hstep)
    (init_sound params workers)).conserved

instance decidableKeepsSlot (s : TcpRequests S) (r : TcpRequest) :
    (op : RequestOp) → Decidable (s.keepsSlot r op)
  | .resolve =>
      match h : r.target with
      | .ip _ => .isTrue (by simp only [keepsSlot, h])
      | .domain _ _ =>
          decidable_of_iff ((s.managers r.manager).lost = false) (by simp only [keepsSlot, h])
  | .resolved =>
      match h : r.stage with
      | .resolving response =>
          decidable_of_iff
            (((s.managers r.manager).received response).any (Reply.resolves r.command) = true)
            (by simp only [keepsSlot, h])
      | .arrived | .picked | .resolved _ | .connecting .. | .awaiting .. | .racing _
      | .timedOut _ | .serving | .binding | .ended => .isTrue (by simp only [keepsSlot, h])
  | .start => inferInstanceAs (Decidable (r.stage ≠ .resolved []))
  | .finish =>
      match h : r.stage with
      | .timedOut slot =>
          decidable_of_iff (Permits.counts (s.managers r.manager).asked slot = false)
            (by simp only [keepsSlot, h])
      | .binding => .isFalse (by simp only [keepsSlot, h, not_false_eq_true])
      | .arrived | .picked | .resolving _ | .resolved _ | .connecting .. | .awaiting ..
      | .racing _ | .serving | .ended => .isTrue (by simp only [keepsSlot, h])
  | .pick _ _ | .overloaded | .send | .receive | .attempt _ | .settle _ | .timeout =>
      .isTrue trivial

instance decidableSlotsReturned (s : TcpRequests S) :
    (l : RequestLabel) → Decidable (slotsReturned H s l)
  | .manager m l =>
      inferInstanceAs
        (Decidable ((s.managers m).goesDown H l = true → s.requests.countP (s.holds m) = 0))
  | .request i op => inferInstanceAs (Decidable (∀ r ∈ s.requests[i]?, s.keepsSlot r op))
  | .getLocalPort | .accept _ _ => .isTrue trivial

def web : TargetAddr := .ip ⟨.ipv4 Script.remote, Script.remotePort⟩

def establish : List RequestLabel := Script.establish.map (.manager 0)

def handleNext : List RequestLabel :=
  [.manager 0 (.manager (.checkAlive true)), .manager 0 (.manager (.command 0))] ++
    Script.skipDrains.map (.manager 0) ++
    [.manager 0 (.manager .advance), .manager 0 Script.refresh]

def connectRequest (i : Nat) : List RequestLabel :=
  [.accept .tcpConnect web, .request i (.pick 0 0), .request i .resolve, .request i .start,
    .request i .send]

def served : List RequestLabel :=
  establish ++ connectRequest 0 ++ handleNext ++ [.request 0 .receive, .request 0 .finish] ++
    connectRequest 1

def bound : List RequestLabel :=
  [.accept .tcpBind web, .request 0 (.pick 0 0), .request 0 .resolve, .request 0 .finish]

def unresolved : List RequestLabel :=
  [.accept .tcpConnect (.domain "example.com" 80), .request 0 (.pick 0 0), .request 0 .resolve,
    .manager 0 (.manager .disconnectedCommand), .request 0 .resolved]

def reset : List RequestLabel :=
  establish ++ [.accept .tcpConnect web, .request 0 (.pick 0 0),
    .manager 0 (.manager (.checkAlive false))]

def run (labels : List RequestLabel) : Option (TcpRequests Reference.smoltcp) :=
  Run.exec (step Script.hickory) (init Reference.smoltcp Script.params 1) labels

theorem slots_conserved_served : ∃ s : TcpRequests Reference.smoltcp,
    s.requests.map (fun r => decide (r.stage = .ended)) = [true, false] ∧
      s.pendingConnects 0 = 1 ∧ s.Conserved := by
  have hg : Run.Guarded (step Script.hickory) (slotsReturned Script.hickory)
      (init Reference.smoltcp Script.params 1) served := by
    decide +kernel
  have h : (run served).any (fun s =>
      s.requests.map (fun r => decide (r.stage = .ended)) = [true, false] ∧
        s.pendingConnects 0 = 1) = true := by
    decide +kernel
  obtain ⟨s, hs, hp⟩ := (Option.any_eq_true _ _).mp h
  obtain ⟨hended, hpending⟩ := of_decide_eq_true hp
  exact ⟨s, hended, hpending, slots_conserved (Run.exec_guarded hs hg)⟩

-- A BIND keeps its slot for good, and so does a CONNECT whose name does not resolve; a tunnel that
-- goes down forgets the slots that are still held.
theorem slots_not_conserved :
    (∀ labels ∈ [bound, unresolved], ∃ s : TcpRequests Reference.smoltcp,
      Run.Reaches (step Script.hickory) Run.Any (init Reference.smoltcp Script.params 1) s ∧
        run labels = some s ∧ s.requests.map TcpRequest.stage = [.ended] ∧
        s.pendingConnects 0 = 1 ∧ ¬ s.Conserved) ∧
    ∃ s : TcpRequests Reference.smoltcp,
      Run.Reaches (step Script.hickory) Run.Any (init Reference.smoltcp Script.params 1) s ∧
        run reset = some s ∧ s.requests.countP (s.holds 0) = 1 ∧ s.pendingConnects 0 = 0 ∧
        ¬ s.Conserved := by
  constructor
  · intro labels hl
    have h : (run labels).any (fun s =>
        s.requests.map TcpRequest.stage = [.ended] ∧ s.pendingConnects 0 = 1) = true := by
      revert labels
      decide +kernel
    obtain ⟨s, hs, hp⟩ := (Option.any_eq_true _ _).mp h
    obtain ⟨hstages, hpending⟩ := of_decide_eq_true hp
    refine ⟨s, Run.exec_reaches hs, hs, hstages, hpending, fun hc => ?_⟩
    have hended : ∀ r ∈ s.requests, r.stage = .ended := by
      intro r hr
      have hm : r.stage ∈ s.requests.map TcpRequest.stage := List.mem_map_of_mem hr
      rw [hstages] at hm
      exact List.mem_singleton.mp hm
    have hzero := hc.idle hended 0
    omega
  · have h : (run reset).any (fun s =>
        s.requests.countP (s.holds 0) = 1 ∧ s.pendingConnects 0 = 0) = true := by
      decide +kernel
    obtain ⟨s, hs, hp⟩ := (Option.any_eq_true _ _).mp h
    obtain ⟨hholds, hpending⟩ := of_decide_eq_true hp
    refine ⟨s, Run.exec_reaches hs, hs, hholds, hpending, fun hc => ?_⟩
    have hone := hc.pending 0
    omega

end TcpRequests

end Usque
