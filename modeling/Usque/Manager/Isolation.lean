import Usque.Manager.Handles
import Usque.Manager.Script
import Usque.Manager.Untouched

namespace Usque

namespace System

variable {S : Smoltcp} {H : Hickory} {s t : System S} {l : Label} {h : SocketHandle}

-- Where connection x's handle is kept on its way to the manager.
def carries (s : System S) (x : StreamId) (h : SocketHandle) : Prop :=
  ((s.clients x).phase.acts ∧ (s.rt.stream x).handle = h) ∨
    (∃ cmd ∈ s.cmdRx, cmd.source = some x ∧ cmd.tcpHandle = some h) ∨
    ∃ e ∈ s.rt.socketEvents, e.source = x ∧ e.handle = h

def ownership (s : System S) : Ownership SocketHandle StreamId where
  slots := s.rt.owner
  refs := {p | s.carries p.1 p.2}

def carried (s : System S) (h : SocketHandle) : Prop :=
  (∃ x < s.rt.shared.nextStream, (s.clients x).phase.acts ∧ (s.rt.stream x).handle = h) ∨
    (∃ cmd ∈ s.cmdRx, cmd.tcpHandle = some h) ∨ ∃ e ∈ s.rt.socketEvents, e.handle = h

def opensUncarried (s : System S) (l : Label) : Prop := ∀ h ∈ s.opensTcpAt l, ¬ s.carried h

theorem carries_carried (hs : Sound s) {x : StreamId} (hx : s.carries x h) : s.carried h := by
  rcases hx with ⟨hp, hh⟩ | ⟨cmd, hm, _, hh⟩ | ⟨e, he, _, hh⟩
  · refine .inl ⟨x, hs.born x ?_, hp, hh⟩
    rcases hp with hp | hp <;> rw [hp] <;> simp
  · exact .inr (.inl ⟨cmd, hm, hh⟩)
  · exact .inr (.inr ⟨e, he, hh⟩)

variable (hS : S.KeepsSockets) (hs : Sound s)

include hS hs in
theorem step_evolves (hg : s.opensUncarried l) (hst : step H s l = some t) :
    s.ownership.Evolves t.ownership := by
  have htr := step_traced hS hs hst
  have hsince : ∀ {i x}, Since (s.slotRules l) t.rt i x →
      t.ownership.slots i = none ∨ t.ownership.slots i = some x :=
    fun ho => (since_owner hS ho).symm.imp And.right id
  refine ⟨fun i => ?_, ?_⟩
  · rcases ((step_slots hS hs hst).owners i).cases slotRules_tcp with ho | ⟨hopen, ho⟩ | ho
    · exact .inl ho
    · exact .inr (.inr ⟨ho, fun x hx => hg i hopen (carries_carried hs hx)⟩)
    · exact .inr (.inl ho)
  · intro x i hr
    have hr : t.carries x i := hr
    rcases hr with ⟨hp, hh⟩ | ⟨cmd, hm, hsrc, hh⟩ | ⟨e, he, hsrc, hh⟩
    · rcases Nat.lt_or_ge x s.rt.shared.nextStream with hb | hb
      · rcases step_phase hst htr.next x with hturn | hnew
        · exact .inl (.inl ⟨hturn.acts hp, (htr.link x hb).symm.trans hh⟩)
        · exact absurd hb (Nat.not_lt.mpr hnew.1)
      · rcases step_phase hst htr.next x with hturn | hnew
        · refine absurd hb (Nat.not_le.mpr (hs.born x (hturn.born ?_)))
          rcases hp with hp | hp <;> rw [hp] <;> simp
        · exact .inr (hh ▸ hsince (htr.born x hb hnew.2))
    · rcases step_cmdRx hst hm with hold | hnone | ⟨y, hby⟩
      · exact .inl (.inr (.inl ⟨cmd, hold, hsrc, hh⟩))
      · rw [hnone] at hsrc
        cases hsrc
      · have hy : y = x := Option.some.inj (hby.source.symm.trans hsrc)
        subst hy
        exact .inl (.inl ⟨hby.acts, Option.some.inj (hby.tcpHandle.symm.trans hh)⟩)
    · subst hsrc hh
      rcases htr.events e he with hold | ⟨hx, hh⟩ | ho
      · exact .inl (.inr (.inr ⟨e, hold, rfl, rfl⟩))
      · exact .inl (.inl ⟨.inl hx, hh⟩)
      · exact .inr (hsince ho)

theorem handled_mem {cmd : ManagerCommand} (hc : s.handled l = some cmd) : cmd ∈ s.cmdRx := by
  cases l with
  | manager choice =>
      cases choice with
      | command draw => exact List.mem_of_mem_head? hc
      | _ => cases hc
  | _ => cases hc

structure Asked (s : System S) : Prop where
  commands : ∀ cmd ∈ s.cmdRx, ∀ x, cmd.source = some x →
    ∀ r, cmd.response = some r → s.asker r = some x
  waiters : ∀ i st, s.rt.sockets.lookup i = some st →
    ∀ r ∈ st.readyWaiters, s.asker r = some st.stream
  fresh : ∀ r, s.nextOneshot ≤ r → s.asker r = none

theorem ask_asker {y : StreamId} (hf : ∀ r, s.nextOneshot ≤ r → s.asker r = none) :
    (∀ r x, s.asker r = some x → Function.update s.asker s.nextOneshot (some y) r = some x) ∧
      ∀ r, s.nextOneshot + 1 ≤ r → Function.update s.asker s.nextOneshot (some y) r = none := by
  refine ⟨fun r x hx => ?_, fun r hr => ?_⟩
  · have hne : r ≠ s.nextOneshot := by
      rintro rfl
      rw [hf _ (Nat.le_refl _)] at hx
      cases hx
    exact (Function.update_of_ne hne _ _).trans hx
  · have hlt : s.nextOneshot < r := hr
    exact (Function.update_of_ne (Nat.ne_of_gt hlt) _ _).trans (hf r (Nat.le_of_lt hlt))

theorem step_asker (hf : ∀ r, s.nextOneshot ≤ r → s.asker r = none)
    (hst : step H s l = some t) :
    (∀ r x, s.asker r = some x → t.asker r = some x) ∧
      ∀ r, t.nextOneshot ≤ r → t.asker r = none := by
  have hsame : t.asker = s.asker → s.nextOneshot ≤ t.nextOneshot →
      (∀ r x, s.asker r = some x → t.asker r = some x) ∧
        ∀ r, t.nextOneshot ≤ r → t.asker r = none := by
    intro ha hn
    rw [ha]
    exact ⟨fun _ _ hx => hx, fun r hr => hf r (hn.trans hr)⟩
  cases l with
  | client y op =>
      cases clientStep_cases hst with
      | op _ _ _ | close _ | finish _ => exact hsame rfl (Nat.le_refl _)
      | ask _ _ _ _ => exact ask_asker hf
  | submit cmd =>
      obtain ⟨_, hnext, rfl⟩ := submit_eq hst
      exact hsame rfl hnext
  | manager choice =>
      have hserved := managerStep_served hst
      exact hsame hserved.asker (Nat.le_of_eq hserved.nextOneshot.symm)
  | udpSend _ | io _ =>
      simp only [step] at hst
      split at hst <;> cases hst
      exact hsame rfl (Nat.le_refl _)
  | evict _ | reserveSlot | releaseSlot | tick _ | statics _ | cancel _ | receiveUdp _
  | closeUdp _ =>
      cases hst
      exact hsame rfl (Nat.le_refl _)

include hS hs in
theorem step_asked (hr : s.ownership.Respected) (ha : Asked s) (hst : step H s l = some t) :
    Asked t := by
  obtain ⟨hkeep, hfresh⟩ := step_asker ha.fresh hst
  refine ⟨fun cmd hm x hx r hresp => ?_, fun i st' hl r hr' => ?_, hfresh⟩
  · rcases step_cmdRx hst hm with hold | hnone | ⟨y, hby⟩
    · exact hkeep r x (ha.commands cmd hold x hx r hresp)
    · rw [hnone] at hx
      cases hx
    · rw [← hx, hby.source]
      exact hby.response r hresp
  · have hw := (step_effects hS hs (permits_slotRules s l) hst).waits hS hs.consistent
    rcases hw i st' hl r hr' with ⟨st, hl, hx, hr'⟩ | ⟨handle, source, hcmd, hown⟩
    · rw [← hx]
      exact hkeep r _ (ha.waiters i st hl r hr')
    · have hm := handled_mem hcmd
      have hask := ha.commands _ hm source rfl r rfl
      have hcarry : (source, handle) ∈ s.ownership.refs := .inr (.inl ⟨_, hm, rfl, rfl⟩)
      rw [hr.not_other hcarry hown]
      exact hkeep r source hask

-- The connection whose command or event the manager takes in the step.
def actor (s : System S) : Label → Option StreamId
  | .manager (.command _) => s.cmdRx.head?.bind (·.source)
  | .manager .disconnectedCommand => s.cmdRx.head?.bind (·.source)
  | .manager .socketEvent => s.rt.socketEvents.head?.map (·.source)
  | _ => none

structure Isolated (s : System S) (l : Label) (t : System S) (x : StreamId) : Prop where
  untouched : s.rt.Untouched x t.rt
  replies : ∀ p ∈ t.rt.shared.replies, p ∈ s.rt.shared.replies ∨
    (s.asker p.1 = some x ∧ ∃ i state, s.carries x i ∧ p.2 = .socketState state ∧
      (s.rt.getTcpSocketState i = .ok state ∨
        (state = .closed ∧ (s.pc = .disconnected ∨ s.handled l = some (.close i x)))))

theorem isolated_same {x : StreamId} (h : t.rt = s.rt) : Isolated s l t x := by
  refine ⟨?_, fun p hp => .inl (h ▸ hp)⟩
  rw [h]
  exact .refl x s.rt

theorem command_isolated (hs : Sound s) (hr : s.ownership.Respected) (ha : Asked s)
    {draw : Nat} {x : StreamId} {cmd : ManagerCommand} (hcmd : s.cmdRx.head? = some cmd)
    (hx : cmd.source = some x) (hst : step H s (.manager (.command draw)) = some t) :
    Isolated s (.manager (.command draw)) t x := by
  have hm := List.mem_of_mem_head? hcmd
  obtain ⟨pc, cmd', cmdRx, hcons, rfl⟩ := step_command hst
  rw [hcons] at hcmd
  cases hcmd
  refine andThen_rt (Q := fun t => Isolated s (.manager (.command draw)) t x)
    (fun rt' hrt => ?_) (fun _ => isolated_same rfl)
  have hhead : s.handled (.manager (.command draw)) = some cmd := by rw [handled, hcons]; rfl
  cases cmd with
  | close i source =>
      cases hx
      have hcarry : s.carries x i := .inr (.inl ⟨_, hm, rfl, rfl⟩)
      refine ⟨RuntimeState.closeConnection_untouched hs.consistent (hr x i hcarry) hrt,
        fun p hp => ?_⟩
      rcases RuntimeState.closeConnection_replies hrt hp with hp | ⟨st, hl, r, hr', rfl⟩
      · exact .inl hp
      · refine .inr ⟨?_, i, .closed, hcarry, rfl, .inr ⟨rfl, .inr hhead⟩⟩
        rw [ha.waiters i st hl r hr', hr.not_other hcarry (owner_of_lookup hl)]
  | getSocketState i response source =>
      cases hx
      have hcarry : s.carries x i := .inr (.inl ⟨_, hm, rfl, rfl⟩)
      obtain ⟨state, hstate, rfl⟩ := RuntimeState.getSocketState_ok hrt
      refine ⟨RuntimeState.reply_untouched _ _ _ _, fun p hp => ?_⟩
      rcases RuntimeState.mem_reply hp with hp | rfl
      · exact .inl hp
      · exact .inr ⟨ha.commands _ hm x rfl response rfl, i, state, hcarry, rfl,
          .inl hstate⟩
  | waitSocketReady i response source =>
      cases hx
      have hcarry : s.carries x i := .inr (.inl ⟨_, hm, rfl, rfl⟩)
      rcases RuntimeState.waitSocketReady_ok hrt with ⟨state, hstate, rfl⟩ | ⟨st, hl, rfl⟩
      · refine ⟨RuntimeState.reply_untouched _ _ _ _, fun p hp => ?_⟩
        rcases RuntimeState.mem_reply hp with hp | rfl
        · exact .inl hp
        · exact .inr ⟨ha.commands _ hm x rfl response rfl, i, state, hcarry, rfl,
            .inl hstate⟩
      · have hst := hr.not_other hcarry (owner_of_lookup hl)
        exact ⟨RuntimeState.setSocket_untouched hl hst hst, fun p hp => .inl hp⟩
  | connect _ _ _ _ _ | dnsResolve _ _ _ | dnsResolveAll _ _ | udpRegister _ _
  | udpUnregister _ => cases hx

theorem disconnectedCommand_isolated (ha : Asked s) {x : StreamId} {cmd : ManagerCommand}
    (hcmd : s.cmdRx.head? = some cmd) (hx : cmd.source = some x)
    (hst : step H s (.manager .disconnectedCommand) = some t) :
    Isolated s (.manager .disconnectedCommand) t x := by
  have hm := List.mem_of_mem_head? hcmd
  obtain ⟨hpc, cmd', cmdRx, hcons, rfl⟩ := step_disconnectedCommand hst
  rw [hcons] at hcmd
  cases hcmd
  cases cmd with
  | close i source => exact isolated_same rfl
  | getSocketState i response source | waitSocketReady i response source =>
      cases hx
      refine ⟨RuntimeState.reply_untouched _ _ _ _, fun p hp => ?_⟩
      rcases RuntimeState.mem_reply hp with hp | rfl
      · exact .inl hp
      · exact .inr ⟨ha.commands _ hm x rfl response rfl, i, .closed,
          .inr (.inl ⟨_, hm, rfl, rfl⟩), rfl, .inr ⟨rfl, .inl hpc⟩⟩
  | connect _ _ _ _ _ | dnsResolve _ _ _ | dnsResolveAll _ _ | udpRegister _ _
  | udpUnregister _ => cases hx

theorem socketEvent_isolated (hr : s.ownership.Respected) {e : SocketEvent}
    (he : s.rt.socketEvents.head? = some e) (hst : step H s (.manager .socketEvent) = some t) :
    Isolated s (.manager .socketEvent) t e.source := by
  obtain ⟨pc, e', es, hcons, rfl⟩ := step_socketEvent hst
  rw [hcons] at he
  cases he
  have hcarry : (e.source, e.handle) ∈ s.ownership.refs :=
    .inr (.inr ⟨e, hcons ▸ List.mem_cons_self .., rfl, rfl⟩)
  refine ⟨RuntimeState.handleSocketEvent_untouched (hr e.source e.handle hcarry),
    fun p hp => .inl ?_⟩
  rwa [RuntimeState.handleSocketEvent_shared] at hp

theorem step_isolated (hs : Sound s) (hr : s.ownership.Respected) (ha : Asked s) {x : StreamId}
    (hx : s.actor l = some x) (hst : step H s l = some t) : Isolated s l t x := by
  cases l with
  | manager choice =>
      cases choice with
      | command draw =>
          obtain ⟨cmd, hcmd, hsrc⟩ := Option.bind_eq_some_iff.mp hx
          exact command_isolated hs hr ha hcmd hsrc hst
      | disconnectedCommand =>
          obtain ⟨cmd, hcmd, hsrc⟩ := Option.bind_eq_some_iff.mp hx
          exact disconnectedCommand_isolated ha hcmd hsrc hst
      | socketEvent =>
          obtain ⟨e, he, rfl⟩ := Option.map_eq_some_iff.mp hx
          exact socketEvent_isolated hr he hst
      | _ => cases hx
  | _ => cases hx

theorem init_asked (params : ConnectionParams) : Asked (init S params) := by
  refine ⟨?_, ?_, fun _ _ => rfl⟩
  · intro cmd hm
    cases hm
  · intro i st hl
    cases hl

instance (s : System S) (h : SocketHandle) : Decidable (s.carried h) :=
  inferInstanceAs (Decidable (_ ∨ _ ∨ _))

instance (s : System S) (l : Label) : Decidable (s.opensUncarried l) :=
  inferInstanceAs (Decidable (∀ h ∈ s.opensTcpAt l, ¬ s.carried h))

end System

end Usque
