import Usque.Socks.AssociateLeases

namespace Usque

namespace Associates

variable {S : Smoltcp} {H : Hickory} {s t : Associates S} {l : AssociateLabel}
  {params : ConnectionParams}

theorem callStep_sys {i : Nat} {c : Associate} {op : AssociateOp}
    (h : s.callStep i c op = some t) :
    t.sys = s.sys ∨ ∃ l, s.sys.step H l = some t.sys := by
  have hsend : ∀ {stage cmd message}, (s.enter i stage).send cmd message = some t →
      t.sys = s.sys ∨ ∃ l, s.sys.step H l = some t.sys := by
    intro stage cmd message hsend
    obtain ⟨sys, hsys, rfl⟩ := Option.map_eq_some_iff.mp hsend
    exact .inr ⟨.submit cmd, hsys⟩
  cases op with
  | register | unregister =>
      simp only [callStep] at h
      split at h
      · exact hsend h
      · cases h
  | registerFailed | replySuccess _ | forwarded | finish | abandon =>
      simp only [callStep] at h
      split at h <;> cases h
      exact .inl rfl

theorem step_sys (h : s.step H l = some t) :
    t.sys = s.sys ∨ ∃ l, s.sys.step H l = some t.sys := by
  cases l with
  | system l =>
      simp only [step] at h
      split at h
      · obtain ⟨u, hu, rfl⟩ := Option.map_eq_some_iff.mp h
        refine .inr ⟨l, hu.trans (congrArg some ?_)⟩
        simp only [systemStep]
        split_ifs <;> rfl
      · cases h
  | getLocalPort | associate =>
      cases h
      exact .inl rfl
  | call i op =>
      obtain ⟨c, _, h⟩ := Option.bind_eq_some_iff.mp h
      exact callStep_sys h

theorem lost_of_step (h : s.step H l = some t) (ht : t.sys.lost = false) :
    s.sys.lost = false := by
  rcases step_sys h with he | ⟨l, hl⟩
  · exact he ▸ ht
  · rw [← Bool.not_eq_true] at ht ⊢
    exact fun hs => ht (System.step_lost hl hs)

-- A port is drawn only when no call that still runs has it, and each success reply is written.
def keepsPorts (s : Associates S) : AssociateLabel → Prop
  | .associate => s.portFree
  | .call _ (.replySuccess written) => written = true
  | _ => True

theorem step_follows (hS : S.KeepsSockets) (h : s.Linked) (hg : s.keepsPorts l)
    (hstep : s.step H l = some t) (hlost : t.sys.lost = false) : Follows s t l := by
  have hbefore := lost_of_step hstep hlost
  cases l with
  | system l =>
      simp only [step] at hstep
      split at hstep
      · next haside =>
          obtain ⟨u, hu, rfl⟩ := Option.map_eq_some_iff.mp hstep
          refine system_follows h hu hS haside ?_
          have hsys : (s.systemStep l u).sys = u := by
            simp only [systemStep]
            split_ifs <;> rfl
          rw [← hsys]
          exact hlost
      · cases hstep
  | getLocalPort =>
      cases hstep
      exact ⟨h.matched, .inl (.refl _)⟩
  | associate => exact associate_follows h hg hstep
  | call i op =>
      obtain ⟨c, hc, hstep⟩ := Option.bind_eq_some_iff.mp hstep
      refine callStep_follows h hbefore hc hstep (fun he => ?_)
      rw [he] at hg
      cases hg

theorem Follows.linked (hS : S.KeepsSockets) (hf : Follows s t l) (h : s.Linked)
    (hstep : s.step H l = some t) : t.Linked := by
  have hsys : t.sys.Sound ∧ t.sys.rt.udpTable.Routed := by
    rcases step_sys hstep with he | ⟨l, hl⟩
    · rw [he]
      exact ⟨h.sound, h.routed⟩
    · obtain ⟨op, hop⟩ := System.step_udpStep hS h.sound hl
      exact ⟨System.step_sound hS h.sound hl, hop.table ▸ h.routed.apply op⟩
  refine ⟨hsys.1, hsys.2, ?_, hf.matched⟩
  rcases hf.leases with hbelow | ⟨op, hop, _, hbelow⟩
  · exact h.leases.below hbelow
  · exact (h.leases.apply hop).below hbelow

theorem Follows.awaited (hf : Follows s t l) (h : s.Linked) (ha : s.leases.Awaited)
    (hfinish : ∀ i, l = .call i .finish → some (.give i) ∉ s.asked) : t.leases.Awaited := by
  rcases hf.leases with hbelow | ⟨op, hop, hl, hbelow⟩
  · exact ha.below hbelow
  · exact (ha.apply h.leases hop (fun i he => hfinish i (hl i he))).below hbelow

theorem init_linked (params : ConnectionParams) : (init S params).Linked where
  sound := System.init_sound params
  routed := ⟨nofun, nofun⟩
  leases :=
    { taken := nofun
      given := nofun
      once := fun _ => Nat.zero_le _
      order := .nil
      distinct := nofun
      later := nofun
      entry := nofun
      own := nofun }
  matched := .nil

theorem linked_of_reaches (hS : S.KeepsSockets)
    (h : Run.Reaches (step H) keepsPorts (init S params) s) : s.sys.lost = true ∨ s.Linked := by
  refine Run.Reaches.invariant (I := fun s => s.sys.lost = true ∨ s.Linked)
    (fun s l t hs hg hstep => ?_) h (.inr (init_linked params))
  cases hlost : t.sys.lost with
  | true => exact .inl rfl
  | false =>
      have hl := hs.resolve_left (by rw [lost_of_step hstep hlost]; nofun)
      exact .inr ((step_follows hS hl hg hstep hlost).linked hS hl hstep)

theorem Linked.unregisters_own (h : s.Linked) {port : UInt16} {i j : Nat}
    (hcmd : s.sys.cmdRx.head? = some (.udpUnregister port))
    (hasked : s.asked.head? = some (some (.give i))) (hj : s.holder port = some j) : j = i := by
  obtain ⟨commands, hcommands⟩ := List.head?_eq_some_iff.mp hcmd
  obtain ⟨asked, hask⟩ := List.head?_eq_some_iff.mp hasked
  have hm := h.matched
  rw [hcommands, hask, List.forall₂_cons] at hm
  obtain ⟨i', he, hport⟩ := hm.1
  cases he
  refine h.leases.own i j (List.mem_of_mem_head? hasked) ?_
  rw [leases_key hport]
  exact hj

theorem holder_of_lost (h : s.sys.lost = true) (port : UInt16) : s.holder port = none := by
  have hconnected : s.sys.connected = false := by
    simp only [System.lost] at h
    simp only [System.connected]
    split at h
    · next hpc => rw [hpc]
    · cases h
  simp only [holder, hconnected, Bool.false_eq_true, if_false]

-- Without the last condition: a call's session is gone once its UdpUnregister is.
theorem session_removed (hS : S.KeepsSockets)
    (h : Run.Reaches (step H) keepsPorts (init S params) s) {i : Nat} {c : Associate}
    (hc : s.calls[i]? = some c) (hreturned : c.stage = .returned)
    (hasked : some (.give i) ∉ s.asked) (port : UInt16) : s.holder port ≠ some i := by
  rcases linked_of_reaches hS h with hlost | hl
  · rw [holder_of_lost hlost]
    nofun
  · refine hl.leases.gone ?_ hasked port
    rw [leases_stage hc, hreturned]
    rfl

def orderly (s : Associates S) : AssociateLabel → Prop
  | .associate => s.portFree
  | .call _ (.replySuccess written) => written = true
  | .call i .finish => some (.give i) ∉ s.asked
  | _ => True

theorem orderly.keepsPorts (h : s.orderly l) : s.keepsPorts l := by
  cases l with
  | system _ | getLocalPort => trivial
  | associate => exact h
  | call i op =>
      cases op with
      | replySuccess written => exact h
      | _ => trivial

theorem awaited_of_reaches (hS : S.KeepsSockets)
    (h : Run.Reaches (step H) orderly (init S params) s) :
    s.sys.lost = true ∨ (s.Linked ∧ s.leases.Awaited) := by
  refine Run.Reaches.invariant (I := fun s => s.sys.lost = true ∨ (s.Linked ∧ s.leases.Awaited))
    (fun s l t hs hg hstep => ?_) h (.inr ⟨init_linked params, fun _ _ => nofun⟩)
  cases hlost : t.sys.lost with
  | true => exact .inl rfl
  | false =>
      obtain ⟨hl, ha⟩ := hs.resolve_left (by rw [lost_of_step hstep hlost]; nofun)
      have hf := step_follows hS hl hg.keepsPorts hstep hlost
      exact .inr ⟨hf.linked hS hl hstep, hf.awaited hl ha (fun i he => by rw [he] at hg; exact hg)⟩

theorem udp_sessions_owned (hS : S.KeepsSockets)
    (h : Run.Reaches (step H) orderly (init S params) s) : s.SessionsOwned := by
  rcases awaited_of_reaches hS h with hlost | ⟨hl, ha⟩
  · constructor
    · intro i c _ _ port
      rw [holder_of_lost hlost]
      nofun
    · intro port i j _ _ hj
      rw [holder_of_lost hlost] at hj
      cases hj
  · constructor
    · intro i c hc hreturned port
      have hdone : s.leases.stage i = .done := by
        rw [leases_stage hc, hreturned]
        rfl
      exact hl.leases.gone hdone (ha i hdone) port
    · intro port i j
      exact hl.unregisters_own

instance (s : Associates S) : Decidable s.portFree :=
  inferInstanceAs (Decidable (∀ c ∈ s.calls, _))

instance (s : Associates S) (l : AssociateLabel) : Decidable (s.orderly l) :=
  match l with
  | .associate => inferInstanceAs (Decidable s.portFree)
  | .call _ (.replySuccess written) => inferInstanceAs (Decidable (written = true))
  | .call i .finish => inferInstanceAs (Decidable (some (.give i) ∉ s.asked))
  | .system _ | .getLocalPort | .call _ .register | .call _ .registerFailed
  | .call _ .forwarded | .call _ .unregister | .call _ .abandon => .isTrue trivial

def establish : List AssociateLabel := Script.establish.map .system

def handleNext : List AssociateLabel :=
  [.system (.manager (.checkAlive true)), .system (.manager (.command 0))] ++
    Script.skipDrains.map .system ++
    [.system (.manager .advance), .system Script.refresh]

def registered (i : Nat) : List AssociateLabel :=
  [.associate, .call i .register] ++ handleNext

def served (i : Nat) : List AssociateLabel :=
  registered i ++ [.call i (.replySuccess true), .call i .forwarded, .call i .unregister] ++
    handleNext ++ [.call i .finish]

def run (labels : List AssociateLabel) : Option (Associates Reference.smoltcp) :=
  Run.exec (step Script.hickory) (init Reference.smoltcp Script.params) labels

theorem udp_sessions_owned_served : ∃ s : Associates Reference.smoltcp,
    s.calls = [⟨49152, .returned⟩, ⟨49153, .answered true⟩] ∧ s.holder 49153 = some 1 ∧
      s.SessionsOwned := by
  have hg : Run.Guarded (step Script.hickory) orderly (init Reference.smoltcp Script.params)
      (establish ++ served 0 ++ registered 1) := by
    decide +kernel
  have h : (run (establish ++ served 0 ++ registered 1)).any (fun s =>
      s.calls = [⟨49152, .returned⟩, ⟨49153, .answered true⟩] ∧ s.holder 49153 = some 1) =
      true := by
    decide +kernel
  obtain ⟨s, hs, hp⟩ := (Option.any_eq_true _ _).mp h
  obtain ⟨hcalls, hholder⟩ := of_decide_eq_true hp
  exact ⟨s, hcalls, hholder, udp_sessions_owned Reference.keepsSockets (Run.exec_guarded hs hg)⟩

theorem draws_reach (s : Associates S) (n : Nat) :
    Run.Reaches (step H) Run.Any s
      { s with localPortCounter := s.localPortCounter + UInt16.ofNat n } := by
  induction n with
  | zero => simpa using Run.Reaches.refl s
  | succ n ih =>
      refine ih.tail (a := .getLocalPort) trivial ?_
      simp only [step, getLocalPort, UInt16.ofNat_add, UInt16.add_assoc]
      rfl

-- The client is gone when the reply is written: the call returns and its session stays. And 16383
-- draws later a second call gets the port of one that still runs, which then unregisters it.
theorem udp_sessions_not_owned :
    (∃ s : Associates Reference.smoltcp,
      Run.Reaches (step Script.hickory) Run.Any (init Reference.smoltcp Script.params) s ∧
        s.calls = [⟨49152, .returned⟩] ∧ s.asked = [] ∧ s.holder 49152 = some 0 ∧
        ¬ s.SessionsOwned) ∧
    ∃ s : Associates Reference.smoltcp,
      Run.Reaches (step Script.hickory) Run.Any (init Reference.smoltcp Script.params) s ∧
        s.calls = [⟨49152, .unregistered⟩, ⟨49152, .answered true⟩] ∧
        s.sys.cmdRx.head? = some (.udpUnregister 49152) ∧
        s.asked.head? = some (some (.give 0)) ∧ s.holder 49152 = some 1 ∧ ¬ s.SessionsOwned := by
  constructor
  · have h : (run (establish ++ registered 0 ++ [.call 0 (.replySuccess false)])).any (fun s =>
        s.calls = [⟨49152, .returned⟩] ∧ s.asked = [] ∧ s.holder 49152 = some 0) = true := by
      decide +kernel
    obtain ⟨s, hs, hp⟩ := (Option.any_eq_true _ _).mp h
    obtain ⟨hcalls, hasked, hholder⟩ := of_decide_eq_true hp
    refine ⟨s, Run.exec_reaches hs, hcalls, hasked, hholder, fun ho => ?_⟩
    exact ho.removed 0 ⟨49152, .returned⟩ (by rw [hcalls]; rfl) rfl 49152 hholder
  · have h : ((run (establish ++ registered 0)).bind (fun s => Run.exec (step Script.hickory)
        { s with localPortCounter := s.localPortCounter + UInt16.ofNat 16383 }
        (registered 1 ++ [.call 0 (.replySuccess true), .call 0 .forwarded,
          .call 0 .unregister]))).any (fun s =>
        s.calls = [⟨49152, .unregistered⟩, ⟨49152, .answered true⟩] ∧
        s.sys.cmdRx.head? = some (.udpUnregister 49152) ∧
        s.asked.head? = some (some (.give 0)) ∧ s.holder 49152 = some 1) = true := by
      decide +kernel
    obtain ⟨t, ht, hp⟩ := (Option.any_eq_true _ _).mp h
    obtain ⟨s, hs, hst⟩ := Option.bind_eq_some_iff.mp ht
    obtain ⟨hcalls, hcmd, hasked, hholder⟩ := of_decide_eq_true hp
    refine ⟨t, ?_, hcalls, hcmd, hasked, hholder, fun ho => ?_⟩
    · exact ((Run.exec_reaches hs).trans (draws_reach s 16383)).trans (Run.exec_reaches hst)
    · exact absurd (ho.unregisters 49152 0 1 hcmd hasked hholder) (by decide)

end Associates

end Usque
