import Usque.Manager.Handles
import Usque.Manager.Script
import Usque.Manager.Survival

namespace Usque

namespace System

variable {S : Smoltcp} {H : Hickory} {s t : System S} {l : Label} {h : SocketHandle}

-- Where a handle is kept that the manager may later pass to a tcp_* function.
def names (s : System S) (h : SocketHandle) : Prop :=
  (∃ x < s.rt.shared.nextStream, (s.clients x).phase.acts ∧ (s.rt.stream x).handle = h) ∨
    (∃ cmd ∈ s.cmdRx, cmd.closes = some h) ∨ (∃ e ∈ s.rt.socketEvents, e.handle = h) ∨
    h ∈ s.rt.readyTcpHandles

def opensUnnamed (s : System S) (l : Label) : Prop := ∀ h ∈ s.opensUdpAt l, ¬ s.names h

def Typed (s : System S) : Prop := ∀ h, s.names h → s.rt.stack.udpAt h = none

variable (hS : S.KeepsSockets) (hs : Sound s)

include hs in
theorem names_client {x : StreamId} (hx : (s.clients x).phase.acts) :
    s.names (s.rt.stream x).handle := by
  refine .inl ⟨x, hs.born x ?_, hx, rfl⟩
  rcases hx with hx | hx <;> rw [hx] <;> simp

include hS hs in
theorem udpAt_old (ht : Typed s) (hg : s.opensUnnamed l) (hst : step H s l = some t)
    (hn : s.names h) : t.rt.stack.udpAt h = none := by
  rcases ((step_slots hS hs hst).udps h).cases slotRules_udp with hk | ⟨ho, _⟩ | hk
  · rw [hk]
    exact ht h hn
  · exact absurd hn (hg h ho)
  · exact hk

theorem udpAt_owned {rt : RuntimeState S} (hc : Consistent rt) {x : StreamId}
    (ho : rt.owner h = some x) : rt.stack.udpAt h = none := by
  have hk := (hc.slotted.owner_kindAt h).mp (by rw [ho]; exact Option.some_ne_none _)
  rw [NetworkStack.udpAt, hk]
  rfl

include hS in
theorem udpAt_since (hc : Consistent t.rt) {x : StreamId} (ho : Since (s.slotRules l) t.rt h x) :
    t.rt.stack.udpAt h = none := by
  rcases since_owner hS ho with hown | ⟨hfree, _⟩
  · exact udpAt_owned hc hown
  · obtain ⟨rt, hc₀, heff, hown⟩ := ho
    rcases ((heff.slotSteps hS hc₀).udps h).cases slotRules_udp with hk | ⟨hudp, _⟩ | hk
    · rw [hk]
      exact udpAt_owned hc₀ hown
    · exact absurd ⟨hudp, hfree⟩ slotRules_udp
    · exact hk

include hS hs in
theorem step_typed (ht : Typed s) (hg : s.opensUnnamed l) (hst : step H s l = some t) :
    Typed t := by
  have hc := (step_sound hS hs hst).consistent
  have htr := step_traced hS hs hst
  have hold : ∀ {i}, s.names i → t.rt.stack.udpAt i = none := udpAt_old hS hs ht hg hst
  have hsince : ∀ {i x}, Since (s.slotRules l) t.rt i x → t.rt.stack.udpAt i = none :=
    udpAt_since hS hc
  have hclient : ∀ {x}, (s.clients x).phase = .holding →
      t.rt.stack.udpAt (s.rt.stream x).handle = none := fun hx => hold (names_client hs (.inl hx))
  rintro i (⟨x, hlt, hx, rfl⟩ | ⟨cmd, hm, hh⟩ | ⟨e, he, rfl⟩ | hr)
  · rcases Nat.lt_or_ge x s.rt.shared.nextStream with hb | hb
    · rcases step_phase hst htr.next x with hp | hp
      · rw [htr.link x hb]
        exact hold (names_client hs (hp.acts hx))
      · exact absurd hb (Nat.not_lt.mpr hp.1)
    · exact hsince (htr.born x hb hlt)
  · rcases step_cmdRx hst hm with hm | hnone | ⟨x, hby⟩
    · exact hold (.inr (.inl ⟨cmd, hm, hh⟩))
    · have hh' := ManagerCommand.closes_tcpHandle hh
      rw [ManagerCommand.tcpHandle_none hnone] at hh'
      cases hh'
    · have hh' := hby.tcpHandle
      rw [ManagerCommand.closes_tcpHandle hh] at hh'
      rw [Option.some.inj hh']
      exact hold (names_client hs hby.acts)
  · rcases htr.events e he with he | ⟨hx, hh⟩ | ho
    · exact hold (.inr (.inr (.inl ⟨e, he, rfl⟩)))
    · exact hh ▸ hclient hx
    · exact hsince ho
  · rcases htr.ready i hr with hr | ⟨e, he, rfl⟩ | ⟨x, hx, rfl⟩ | ⟨x, ho⟩
    · exact hold (.inr (.inr (.inr hr)))
    · exact hold (.inr (.inr (.inl ⟨e, he, rfl⟩)))
    · exact hclient hx
    · exact hsince ho

theorem notUdp_of_udpAt {st : NetworkStack S} (hu : st.udpAt h = none) : st.notUdp h := by
  refine NetworkStack.notUdp_iff.mpr (fun e hk => ?_)
  rw [NetworkStack.udpAt, hk] at hu
  cases hu

theorem andThen_pc {α : Type} {o : Outcome α} {k : α → System S} (ho : Outcome.Survives o)
    (hk : ∀ a, o = .ok a → (k a).pc ≠ .faulted .panic) : (s.andThen o k).pc ≠ .faulted .panic := by
  cases o with
  | ok a => exact hk a rfl
  | error fault =>
      intro hpc
      cases hpc
      exact ho rfl

include hS hs in
theorem managerStep_survives (ht : Typed s) {choice : Choice}
    (hst : s.managerStep H choice = some t) : t.pc ≠ .faulted .panic := by
  cases managerStep_cases hst with
  | command _ hpc hcmd =>
      refine andThen_pc (RuntimeState.handleCommand_survives hS H hs.consistent _ _ _ _ ?_)
        (fun _ _ => Pc.ne_faulted_of_up hpc _)
      rintro i source rfl
      refine notUdp_of_udpAt (ht i (.inr (.inl ⟨.close i source, ?_, rfl⟩)))
      rw [hcmd]
      exact List.mem_cons_self ..
  | udp _ hpc =>
      refine andThen_pc ?_ (fun _ _ => Pc.ne_faulted_of_up hpc _)
      exact (RuntimeState.handleUdpSend_settles (P := .any) hS hs.consistent.slotted _
        (fun _ _ _ _ => trivial)).survives
  | incoming _ hpc =>
      exact andThen_pc (RuntimeState.handleTransportIoEvent_survives _ _ _ _)
        (fun _ _ => Pc.ne_faulted_of_up (hpc _) _)
  | @pollFault full _ _ _ hpoll =>
      have hsurvives := RuntimeState.pollStackCommon_survives hS H hs.consistent full
      rw [hpoll] at hsurvives
      intro hpc
      cases hpc
      exact hsurvives rfl
  | @sweep fullSweep _ _ _ _ hpc =>
      refine andThen_pc (RuntimeState.pollTcpSockets_survives hS hs.consistent fullSweep
        (fun i hi => ?_)) (fun _ _ => Pc.ne_faulted_of_up hpc _)
      cases fullSweep with
      | true =>
          have hl := (hs.consistent.tracked.handles i).mp hi
          exact .inr ((hs.consistent.slotted.entry i).mp hl)
      | false => exact notUdp_of_udpAt (ht i (.inr (.inr (.inr (List.mem_of_mem_take hi)))))
  | socketEvent _ hpc | turn _ hpc | polled _ hpc | egress _ hpc | transmit _ hpc =>
      exact Pc.ne_faulted_of_up hpc _
  | teardown | refresh | establish => simp [System.teardown]
  | refuse down | discard down => simp [down]

include hS hs in
theorem step_survives (ht : Typed s) (hpc : s.pc ≠ .faulted .panic)
    (hst : step H s l = some t) : t.pc ≠ .faulted .panic := by
  cases l with
  | client x op =>
      rw [clientStep_pc hst]
      exact hpc
  | submit cmd =>
      obtain ⟨_, _, rfl⟩ := submit_eq hst
      exact hpc
  | manager choice => exact managerStep_survives hS hs ht hst
  | udpSend _ | io _ =>
      simp only [step] at hst
      split at hst <;> cases hst
      exact hpc
  | evict _ | reserveSlot | releaseSlot | tick _ | statics _ | cancel _ | receiveUdp _
  | closeUdp _ =>
      cases hst
      exact hpc

theorem init_typed (params : ConnectionParams) : Typed (init S params) := by
  rintro i (⟨x, hx, _⟩ | ⟨_, hm, _⟩ | ⟨_, hm, _⟩ | hm)
  · exact absurd hx (Nat.not_lt_zero x)
  · cases hm
  · cases hm
  · cases hm

theorem handles_typed (hS : S.KeepsSockets) {params : ConnectionParams}
    (hr : Run.Reaches (step H) opensUnnamed (init S params) s) :
    (∀ i, s.names i → i ∉ s.rt.stack.validHandles ∨ s.rt.stack.kindAt i = some .tcp) ∧
    (∀ i ∈ s.rt.tcpHandles, s.rt.stack.kindAt i = some .tcp) ∧
    (∀ port se, s.rt.udpSessions.lookup port = some se →
      ∃ e, s.rt.stack.kindAt se.handle = some (.udp e)) ∧
    (∀ version i, s.rt.dnsSockets.slot version = some i →
      ∃ e, s.rt.stack.kindAt i = some (.udp e)) ∧
    s.pc ≠ .faulted .panic := by
  have hinv : Sound s ∧ Typed s ∧ s.pc ≠ .faulted .panic := by
    refine Run.Reaches.invariant (I := fun s => Sound s ∧ Typed s ∧ s.pc ≠ .faulted .panic)
      (fun s l t ⟨hs, ht, hpc⟩ hg hst => ?_) hr ⟨init_sound params, init_typed params, by simp [init]⟩
    exact ⟨step_sound hS hs hst, step_typed hS hs ht hg hst, step_survives hS hs ht hpc hst⟩
  obtain ⟨hs, ht, hpc⟩ := hinv
  have hsl := hs.consistent.slotted
  refine ⟨fun i hn => ?_, fun i hm => ?_, fun port se hl => ?_, fun version i hd => ?_, hpc⟩
  · rcases notUdp_of_udpAt (ht i hn) with hk | hk
    · exact .inl (fun hv => (hsl.wellFormed i).mp hv hk)
    · exact .inr hk
  · exact (hsl.entry i).mp ((hs.consistent.tracked.handles i).mp hm)
  · obtain ⟨a, _, hk⟩ := hsl.session port se hl
    exact ⟨_, hk⟩
  · obtain ⟨a, port, _, hk⟩ := hsl.dns version i hd
    exact ⟨_, hk⟩

instance (s : System S) (h : SocketHandle) : Decidable (s.names h) :=
  inferInstanceAs (Decidable (_ ∨ _ ∨ _ ∨ _))

instance (s : System S) (l : Label) : Decidable (s.opensUnnamed l) :=
  inferInstanceAs (Decidable (∀ h ∈ s.opensUdpAt l, ¬ s.names h))

-- A session takes the slot of a refused connection.
def register : List Label := Script.handle (.udpRegister 6000 1) ++ [Script.refresh]

def lateClose : List Label := [.client 0 .drop, .client 0 .close, .manager (.checkAlive true)]

theorem handles_typed_late_close :
    ∃ s t : Script.Reached, Reachable Script.hickory Script.params s ∧
      s.cmdRx = [.close 0 0] ∧ 0 ∈ s.rt.stack.validHandles ∧
      s.rt.stack.kindAt 0 = some (.udp (some ⟨.ipv4 0x0a000002#32, 6000⟩)) ∧
      step Script.hickory s (.manager (.command 0)) = some t ∧ t.pc = .faulted .panic := by
  have h : (Script.run (Script.refused ++ register ++ lateClose)).any (fun s =>
      s.cmdRx = [.close 0 0] ∧ 0 ∈ s.rt.stack.validHandles ∧
      s.rt.stack.kindAt 0 = some (.udp (some ⟨.ipv4 0x0a000002#32, 6000⟩)) ∧
      (step Script.hickory s (.manager (.command 0))).any (fun t => t.pc = .faulted .panic) =
        true) = true := by decide +kernel
  obtain ⟨s, hs, hp⟩ := Script.exists_reachable h
  obtain ⟨hcmd, hv, hk, hany⟩ := of_decide_eq_true hp
  obtain ⟨t, ht, hpc⟩ := (Option.any_eq_true _ _).mp hany
  exact ⟨s, t, hs, hcmd, hv, hk, ht, of_decide_eq_true hpc⟩

-- Here the client is done with its handle before the session is registered.
def earlyClose : List Label :=
  Script.refused ++ [.client 0 .drop] ++ Script.serveEvent ++ [.manager .advance, .manager .advance] ++
    [Script.refresh, .client 0 .close, .client 0 .finish, .manager (.checkAlive true),
      .manager (.command 0)] ++ Script.skipDrains ++ [.manager .advance, Script.refresh] ++ register

theorem handles_typed_early_close :
    ∃ s : Script.Reached, s.rt.udpPorts = [6000] ∧ s.pc ≠ .faulted .panic := by
  have hg : Run.Guarded (step Script.hickory) opensUnnamed
      (init Reference.smoltcp Script.params) earlyClose := by decide +kernel
  have h : (Script.run earlyClose).any (fun s => s.rt.udpPorts = [6000]) = true := by
    decide +kernel
  obtain ⟨s, hs, hp⟩ := Script.exists_guarded hg h
  exact ⟨s, of_decide_eq_true hp, (handles_typed Reference.keepsSockets hs).2.2.2.2⟩

end System

end Usque
