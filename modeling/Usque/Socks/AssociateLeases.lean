import Usque.Socks.UdpAssociate

namespace Usque

def AssociateStage.lease : AssociateStage → LeaseStage
  | .drawn => .drawn
  | .registering => .asked
  | .answered true | .forwarding | .unregistering => .holding
  | .unregistered => .released
  | .answered false | .returned => .done

namespace System

variable {S : Smoltcp} {H : Hickory} {s t : System S} {l : Label}

-- A manager that comes up has no sessions yet.
theorem step_connected (h : step H s l = some t) (ht : t.connected = true) :
    s.connected = true ∨ ∀ port, t.rt.udpTable.sessions port = none := by
  cases l with
  | manager choice =>
      cases managerStep_cases h with
      | establish => exact .inr (fun _ => rfl)
      | refuse down | discard down =>
          rw [connected_iff] at ht
          exact absurd down (Pc.ne_disconnected_of_up ht)
      | command up | udp up | incoming up | socketEvent up | turn up | teardown up | egress up
      | transmit up | refresh up => exact .inl (connected_iff.mpr up)
      | polled hrun | pollFault hrun | sweep hrun =>
          exact .inl (connected_iff.mpr (by rw [hrun]; rfl))
  | _ =>
      left
      simpa only [connected, step_pc h (by simp)] using ht

end System

theorem UdpTable.sessions_of_apply {t : UdpTable} {op : UdpOp}
    (hop : ∀ handle e, op ≠ .register handle e) {port : UInt16} {r : SocketHandle × ChannelId}
    (h : (t.apply op).sessions port = some r) : t.sessions port = some r := by
  cases op with
  | register handle e => exact absurd rfl (hop handle e)
  | rest | dns _ _ => exact h
  | close ports =>
      simp only [apply, cleared] at h
      split_ifs at h
      exact h
  | reset => cases h

namespace Associates

variable {S : Smoltcp} {H : Hickory} {s t : Associates S}

def portOf (s : Associates S) (i : Nat) : Option UInt16 :=
  (s.calls[i]?).map (·.localPort)

def leases (s : Associates S) : Leases UInt16 Nat where
  table := s.holder
  queue := s.asked
  stage i := (s.calls[i]?).elim .idle (·.stage.lease)
  key i := (s.portOf i).getD 0

-- The command that a tagged message is.
def asks (port : Nat → Option UInt16) : ManagerCommand → Option (LeaseMessage Nat) → Prop
  | .udpRegister localPort _, m => ∃ i, m = some (.take i) ∧ port i = some localPort
  | .udpUnregister localPort, m => ∃ i, m = some (.give i) ∧ port i = some localPort
  | _, m => m = none

theorem asks_mono {port port' : Nat → Option UInt16}
    (hport : ∀ i p, port i = some p → port' i = some p) {cmd : ManagerCommand}
    {m : Option (LeaseMessage Nat)} (h : asks port cmd m) : asks port' cmd m := by
  cases cmd with
  | udpRegister _ _ | udpUnregister _ =>
      obtain ⟨i, hm, hi⟩ := h
      exact ⟨i, hm, hport i _ hi⟩
  | _ => exact h

structure Linked (s : Associates S) : Prop where
  sound : s.sys.Sound
  routed : s.sys.rt.udpTable.Routed
  leases : s.leases.Sound
  matched : List.Forall₂ (asks s.portOf) s.sys.cmdRx s.asked

theorem leases_stage {i : Nat} {c : Associate} (hi : s.calls[i]? = some c) :
    s.leases.stage i = c.stage.lease := by
  simp only [leases, hi, Option.elim_some]

theorem portOf_some {i : Nat} {c : Associate} (hi : s.calls[i]? = some c) :
    s.portOf i = some c.localPort := by
  simp only [portOf, hi, Option.map_some]

theorem leases_key {i : Nat} {port : UInt16} (hi : s.portOf i = some port) :
    s.leases.key i = port := by
  simp only [leases, hi, Option.getD_some]

@[simp] theorem enter_portOf (s : Associates S) (i : Nat) (stage : AssociateStage) :
    (s.enter i stage).portOf = s.portOf := by
  funext j
  simp only [portOf, enter, List.getElem?_modify]
  cases s.calls[j]? with
  | none => rfl
  | some c =>
      simp only [Option.map_some]
      split_ifs <;> rfl

theorem enter_leases {i : Nat} {c : Associate} (hi : s.calls[i]? = some c)
    (stage : AssociateStage) : (s.enter i stage).leases = s.leases.enter i stage.lease := by
  have hstage : (s.enter i stage).leases.stage =
      Function.update s.leases.stage i stage.lease := by
    funext j
    rw [Function.update_apply]
    simp only [leases, enter, List.getElem?_modify]
    by_cases hj : j = i
    · subst hj
      simp [hi]
    · rw [if_neg hj]
      cases s.calls[j]? with
      | none => rfl
      | some c' => simp [Ne.symm hj]
  have hkey : (s.enter i stage).leases.key = s.leases.key := by
    simp only [leases, enter_portOf]
  show Leases.mk s.holder s.asked (s.enter i stage).leases.stage (s.enter i stage).leases.key = _
  rw [hstage, hkey]
  rfl

-- One step of the calls or of the manager is at most one step of the leases.
structure Follows (s t : Associates S) (l : AssociateLabel) : Prop where
  matched : List.Forall₂ (asks t.portOf) t.sys.cmdRx t.asked
  leases : t.leases.Below s.leases ∨ ∃ op, s.leases.enabled op ∧
    (∀ i, op = .finish i → l = .call i .finish) ∧ t.leases.Below (s.leases.apply op)


theorem stage_eq_of_lease {i : Nat} {c : Associate} (hi : s.calls[i]? = some c)
    {stage : AssociateStage} (hstage : stage.lease = c.stage.lease) :
    (s.enter i stage).leases = s.leases := by
  rw [enter_leases hi, hstage, ← leases_stage hi]
  simp only [Leases.enter, Function.update_eq_self]

-- A move between two stages that are one to the leases.
theorem Follows.within {l : AssociateLabel} (h : s.Linked) {i : Nat} {c : Associate}
    (hi : s.calls[i]? = some c) {stage : AssociateStage} (hstage : stage.lease = c.stage.lease) :
    Follows s (s.enter i stage) l where
  matched := by
    rw [enter_portOf]
    exact h.matched
  leases := .inl (stage_eq_of_lease hi hstage ▸ .refl _)

theorem holder_congr {u : Associates S} (hpc : u.sys.pc = s.sys.pc) (hrt : u.sys.rt = s.sys.rt)
    (howner : u.owner = s.owner) : u.holder = s.holder := by
  have hconnected : u.sys.connected = s.sys.connected := by
    simp only [System.connected, hpc]
  funext port
  simp only [holder]
  rw [hconnected, hrt, howner]

structure Sends (s t : Associates S) (cmd : ManagerCommand) (message : LeaseMessage Nat) :
    Prop where
  commands : t.sys.cmdRx = s.sys.cmdRx ++ [cmd]
  asked : t.asked = s.asked ++ [some message]
  ports : t.portOf = s.portOf
  leases : t.leases = { s.leases with queue := s.leases.queue ++ [some message] }

theorem send_sends {cmd : ManagerCommand} {message : LeaseMessage Nat}
    (h : s.send cmd message = some t) : Sends s t cmd message := by
  obtain ⟨sys, hsys, rfl⟩ := Option.map_eq_some_iff.mp h
  refine ⟨System.submit_cmdRx hsys, rfl, rfl, ?_⟩
  have hholder : Associates.holder { s with sys, asked := s.asked ++ [some message] } = s.holder :=
    holder_congr (System.submit_pc hsys) (System.submit_rt hsys) rfl
  simp only [leases, hholder, portOf]

theorem Follows.send (h : s.Linked) {l : AssociateLabel} {i : Nat} {c : Associate}
    (hi : s.calls[i]? = some c) {stage : AssociateStage} {cmd : ManagerCommand}
    {message : LeaseMessage Nat} (hsend : (s.enter i stage).send cmd message = some t)
    (hasks : asks s.portOf cmd (some message)) (op : LeaseOp UInt16 Nat)
    (hop : s.leases.enabled op) (hfinish : ∀ j, op ≠ .finish j)
    (happly : s.leases.apply op =
      { s.leases.enter i stage.lease with queue := s.leases.queue ++ [some message] }) :
    Follows s t l := by
  obtain ⟨hcommands, hasked, hports, hleases⟩ := send_sends hsend
  rw [enter_leases hi] at hleases
  constructor
  · rw [hports, enter_portOf, hcommands, hasked]
    exact List.rel_append h.matched (.cons hasks .nil)
  · refine .inr ⟨op, hop, fun j he => absurd he (hfinish j), ?_⟩
    rw [hleases, happly]
    exact .refl _

theorem callStep_follows (h : s.Linked) (hlost : s.sys.lost = false) {i : Nat} {c : Associate}
    (hi : s.calls[i]? = some c) {op : AssociateOp} (hstep : s.callStep i c op = some t)
    (hreply : op ≠ .replySuccess false) : Follows s t (.call i op) := by
  have hlease := leases_stage hi
  cases op with
  | register =>
      simp only [callStep] at hstep
      split at hstep
      · next hstage =>
          rw [hstage] at hlease
          exact .send h hi hstep ⟨i, rfl, portOf_some hi⟩ (.ask i) hlease nofun rfl
      · cases hstep
  | registerFailed =>
      simp only [callStep] at hstep
      split at hstep <;> cases hstep
      next hstage => exact .within h hi (by rw [hstage]; rfl)
  | replySuccess written =>
      simp only [callStep] at hstep
      split at hstep <;> cases hstep
      next hstage =>
        cases written with
        | true => exact .within h hi (by rw [hstage]; rfl)
        | false => exact absurd rfl hreply
  | forwarded =>
      simp only [callStep] at hstep
      split at hstep <;> cases hstep
      next hstage => exact .within h hi (by rw [hstage]; rfl)
  | unregister =>
      simp only [callStep] at hstep
      split at hstep
      · next hstage =>
          rw [hstage] at hlease
          exact .send h hi hstep ⟨i, rfl, portOf_some hi⟩ (.give i) hlease nofun rfl
      · cases hstep
  | finish =>
      simp only [callStep] at hstep
      split at hstep <;> cases hstep
      next hstage =>
        rw [hstage] at hlease
        have hleases := enter_leases hi .returned
        refine ⟨?_, .inr ⟨.finish i, hlease, ?_, ?_⟩⟩
        · rw [enter_portOf]
          exact h.matched
        · intro j he
          cases he
          rfl
        · rw [hleases]
          exact .refl _
  | abandon =>
      simp only [callStep, hlost] at hstep
      cases hstep

-- No call that still runs has the port that the counter gives next.
def portFree (s : Associates S) : Prop :=
  ∀ c ∈ s.calls, c.stage ≠ .returned → c.localPort ≠ (getLocalPort s.localPortCounter).1

theorem running_getElem? {i : Nat} (hi : (s.leases.stage i).running = true) :
    ∃ c, s.calls[i]? = some c := by
  cases hc : s.calls[i]? with
  | some c => exact ⟨c, rfl⟩
  | none =>
      simp only [leases, hc, Option.elim_none, LeaseStage.running] at hi
      cases hi

theorem getElem?_concat (calls : List Associate) (c : Associate) (i : Nat) :
    (calls ++ [c])[i]? = if i = calls.length then some c else calls[i]? := by
  split_ifs with hi
  · rw [hi, List.getElem?_concat_length]
  · rcases Nat.lt_or_gt_of_ne hi with hlt | hgt
    · rw [List.getElem?_append_left hlt]
    · rw [List.getElem?_eq_none (by simp; omega), List.getElem?_eq_none (Nat.le_of_lt hgt)]

theorem associate_leases (s : Associates S) (localPort localPortCounter : UInt16) :
    Associates.leases { s with localPortCounter, calls := s.calls ++ [⟨localPort, .drawn⟩] } =
      s.leases.apply (.start s.calls.length localPort) := by
  have hstage : (fun i => ((s.calls ++ [⟨localPort, .drawn⟩])[i]?).elim LeaseStage.idle
      (·.stage.lease)) = Function.update s.leases.stage s.calls.length .drawn := by
    funext i
    rw [getElem?_concat, Function.update_apply]
    split_ifs <;> rfl
  have hkey : (fun i => (((s.calls ++ [⟨localPort, .drawn⟩])[i]?).map (·.localPort)).getD 0) =
      Function.update s.leases.key s.calls.length localPort := by
    funext i
    rw [getElem?_concat, Function.update_apply]
    split_ifs <;> rfl
  exact congr (congrArg (Leases.mk s.holder s.asked) hstage) hkey

theorem associate_follows (h : s.Linked) (hfree : s.portFree)
    (hstep : s.step H .associate = some t) : Follows s t .associate := by
  cases hstep
  have hidle : s.leases.stage s.calls.length = .idle := by
    simp only [leases, List.getElem?_eq_none (Nat.le_refl _), Option.elim_none]
  have hopen : s.leases.free (getLocalPort s.localPortCounter).1 := by
    intro i hi
    obtain ⟨c, hc⟩ := running_getElem? hi
    rw [leases_key (portOf_some hc)]
    refine hfree c (List.mem_of_getElem? hc) (fun hret => ?_)
    rw [leases_stage hc, hret] at hi
    cases hi
  have hop : s.leases.enabled (.start s.calls.length (getLocalPort s.localPortCounter).1) :=
    ⟨hidle, hopen⟩
  refine ⟨h.matched.imp (fun cmd m hm => ?_), .inr ⟨_, hop, nofun, ?_⟩⟩
  · refine asks_mono (fun i port hi => ?_) hm
    obtain ⟨c, hc, rfl⟩ := Option.map_eq_some_iff.mp hi
    refine portOf_some ?_
    rw [List.getElem?_append_left (List.getElem?_eq_some_iff.mp hc).1]
    exact hc
  · rw [associate_leases]
    exact .refl _

theorem holder_eq_some {port : UInt16} {i : Nat} :
    s.holder port = some i ↔ s.sys.connected = true ∧
      ∃ r, s.sys.rt.udpTable.sessions port = some r ∧ s.owner r.2 = some i := by
  simp only [holder]
  split_ifs with hc
  · simp only [hc, true_and, Option.bind_eq_some_iff]
  · exact iff_of_false nofun (fun h => hc h.1)

section system

variable {l : Label} {u : System S} (h : s.Linked) (hstep : s.sys.step H l = some u)

include hstep in
-- A session that a step leaves in place stays with the call that registered it.
theorem holder_of_step (ht : t.sys = u) {port : UInt16} {i : Nat} (hi : t.holder port = some i)
    (hsessions : ∀ r, u.rt.udpTable.sessions port = some r →
      s.sys.rt.udpTable.sessions port = some r ∧ t.owner r.2 = s.owner r.2) :
    s.holder port = some i := by
  obtain ⟨hc, r, hr, ho⟩ := holder_eq_some.mp hi
  rw [ht] at hc hr
  obtain ⟨hr', ho'⟩ := hsessions r hr
  rcases System.step_connected hstep hc with hs | hnone
  · exact holder_eq_some.mpr ⟨hs, r, hr', ho' ▸ ho⟩
  · rw [hnone] at hr
    cases hr

include h hstep in
theorem sessions_of_step (hS : S.KeepsSockets)
    (hl : ∀ port response, s.sys.handled l ≠ some (.udpRegister port response)) {port : UInt16}
    {r : SocketHandle × ChannelId} (hr : u.rt.udpTable.sessions port = some r) :
    s.sys.rt.udpTable.sessions port = some r := by
  obtain ⟨op, hop⟩ := System.step_udpStep hS h.sound hstep
  rw [hop.table] at hr
  refine UdpTable.sessions_of_apply (fun handle e he => ?_) hr
  obtain ⟨response, hh⟩ := hop.session handle e he
  exact hl _ _ hh

include h hstep in
theorem same_follows (hS : S.KeepsSockets) (hq : u.cmdRx = s.sys.cmdRx)
    (hl : ∀ draw, l ≠ .manager (.command draw)) :
    Follows s (s.systemStep l u) (.system l) := by
  have ht : s.systemStep l u = { s with sys := u } := by
    simp only [systemStep, hq, Nat.lt_irrefl, if_false]
  rw [ht]
  refine ⟨?_, .inl ⟨rfl, rfl, rfl, fun port i hi => ?_⟩⟩
  · rw [hq]
    exact h.matched
  · refine holder_of_step hstep rfl hi (fun r hr => ⟨sessions_of_step h hstep hS ?_ hr, rfl⟩)
    intro port response hh
    cases l with
    | manager choice =>
        cases choice with
        | command draw => exact hl draw rfl
        | _ => cases hh
    | _ => cases hh

include h hstep in
theorem sent_follows {cmd : ManagerCommand}
    (hq : u.cmdRx = s.sys.cmdRx ++ [cmd]) (hrt : u.rt = s.sys.rt) (hcmd : asks s.portOf cmd none) :
    Follows s (s.systemStep l u) (.system l) := by
  have ht : s.systemStep l u = { s with sys := u, asked := s.asked ++ [none] } := by
    simp only [systemStep, hq, List.length_append, List.length_singleton]
    rw [if_neg (by omega), if_pos (by omega)]
  rw [ht]
  refine ⟨?_, .inr ⟨.other, trivial, nofun, ⟨rfl, rfl, rfl, fun port i hi => ?_⟩⟩⟩
  · rw [hq]
    exact List.rel_append h.matched (.cons hcmd .nil)
  · refine holder_of_step hstep rfl hi (fun r hr => ⟨?_, rfl⟩)
    rw [← hrt]
    exact hr

-- The manager has taken the first command; `m` says which call it comes from.
structure Taken (s : Associates S) (u : System S) (cmd : ManagerCommand)
    (m : Option (LeaseMessage Nat)) (rest : List (Option (LeaseMessage Nat))) : Prop where
  commands : s.sys.cmdRx = cmd :: u.cmdRx
  asked : s.asked = m :: rest
  tagged : asks s.portOf cmd m
  matched : List.Forall₂ (asks s.portOf) u.cmdRx rest

include h in
theorem taken_of_head {cmd : ManagerCommand} (hq : s.sys.cmdRx = cmd :: u.cmdRx) :
    ∃ m rest, Taken s u cmd m rest := by
  have hm := h.matched
  rw [hq] at hm
  obtain ⟨m, rest, hcmd, hrest, ha⟩ := List.forall₂_cons_left_iff.mp hm
  exact ⟨m, rest, hq, ha, hcmd, hrest⟩

variable {cmd : ManagerCommand} {m : Option (LeaseMessage Nat)}
  {rest : List (Option (LeaseMessage Nat))}

theorem Taken.systemStep (ht : Taken s u cmd m rest) :
    s.systemStep l u = { s.answer l with sys := u, asked := rest } := by
  have hlen : u.cmdRx.length < s.sys.cmdRx.length := by
    rw [ht.commands]
    exact Nat.lt_succ_self _
  simp only [Associates.systemStep, if_pos hlen, ht.asked, List.tail_cons]

theorem Taken.head (ht : Taken s u cmd m rest) : s.leases.queue.head? = some m := by
  show s.asked.head? = some m
  rw [ht.asked, List.head?_cons]

theorem Taken.tail (ht : Taken s u cmd m rest) : s.leases.queue.tail = rest := by
  show s.asked.tail = rest
  rw [ht.asked, List.tail_cons]

include hstep in
theorem Taken.skip (ht : Taken s u cmd none rest)
    (hsessions : ∀ port r, u.rt.udpTable.sessions port = some r →
      s.sys.rt.udpTable.sessions port = some r) : Follows s (s.systemStep l u) (.system l) := by
  have hanswer : s.answer l = s := by
    simp only [answer, ht.asked, List.head?_cons]
  have hop : s.leases.enabled .skip := ht.head
  rw [ht.systemStep, hanswer]
  refine ⟨ht.matched, .inr ⟨.skip, hop, nofun, ⟨ht.tail.symm, rfl, rfl, fun port i hi => ?_⟩⟩⟩
  exact holder_of_step hstep rfl hi (fun r hr => ⟨hsessions port r hr, rfl⟩)

include hstep in
theorem Taken.revoke {i : Nat} (ht : Taken s u cmd (some (.give i)) rest)
    (hsessions : ∀ port r, u.connected = true → u.rt.udpTable.sessions port = some r →
      s.leases.key i ≠ port ∧ s.sys.rt.udpTable.sessions port = some r) :
    Follows s (s.systemStep l u) (.system l) := by
  have hanswer : s.answer l = s := by
    simp only [answer, ht.asked, List.head?_cons]
  have hop : s.leases.enabled (.revoke i) := ht.head
  rw [ht.systemStep, hanswer]
  refine ⟨ht.matched, .inr ⟨.revoke i, hop, nofun, ⟨ht.tail.symm, rfl, rfl, fun port j hj => ?_⟩⟩⟩
  obtain ⟨hc, r, hr, _⟩ := holder_eq_some.mp hj
  have hne := (hsessions port r hc hr).1
  simp only [Leases.apply]
  rw [Function.update_of_ne (Ne.symm hne)]
  exact holder_of_step hstep rfl hj (fun r hr => ⟨(hsessions port r hc hr).2, rfl⟩)

-- The answer to a registration moves its call and no other.
theorem Taken.answered {i : Nat} {c : Associate} (hi : s.calls[i]? = some c)
    (ht : Taken s u cmd (some (.take i)) rest) {stage : AssociateStage} {op : LeaseOp UInt16 Nat}
    {owner : ChannelId → Option Nat} (hop : s.leases.enabled op) (hfinish : ∀ j, op ≠ .finish j)
    (hqueue : (s.leases.apply op).queue = s.leases.queue.tail)
    (hstage : (s.leases.apply op).stage = (s.leases.enter i stage.lease).stage)
    (hkey : (s.leases.apply op).key = s.leases.key)
    (htable : ∀ port j, Associates.holder { s.enter i stage with sys := u, asked := rest, owner }
      port = some j → (s.leases.apply op).table port = some j) :
    Follows s { s.enter i stage with sys := u, asked := rest, owner } (.system l) where
  matched := by
    show List.Forall₂ (asks (s.enter i stage).portOf) u.cmdRx rest
    rw [enter_portOf]
    exact ht.matched
  leases := by
    have hleases := enter_leases hi stage
    refine .inr ⟨op, hop, fun j he => absurd he (hfinish j), ⟨?_, ?_, ?_, htable⟩⟩
    · exact (hqueue.trans ht.tail).symm
    · exact (congrArg Leases.stage hleases).trans hstage.symm
    · exact (congrArg Leases.key hleases).trans hkey.symm

include hstep in
theorem Taken.refuse {i : Nat} {c : Associate} (hi : s.calls[i]? = some c)
    (ht : Taken s u cmd (some (.take i)) rest) (hregisters : s.sys.registers l = false)
    (hsessions : ∀ port r, u.rt.udpTable.sessions port = some r →
      s.sys.rt.udpTable.sessions port = some r) : Follows s (s.systemStep l u) (.system l) := by
  have hanswer : s.answer l = s.enter i (.answered false) := by
    simp only [answer, ht.asked, List.head?_cons, hregisters, Bool.false_eq_true, if_false]
  have hop : s.leases.enabled (.refuse i) := ht.head
  rw [ht.systemStep, hanswer]
  refine ht.answered hi hop nofun rfl rfl rfl (fun port j hj => ?_)
  exact holder_of_step hstep rfl hj (fun r hr => ⟨hsessions port r hr, rfl⟩)

include h hstep in
theorem Taken.grant {i : Nat} {c : Associate} (hi : s.calls[i]? = some c)
    (ht : Taken s u cmd (some (.take i)) rest) (hregisters : s.sys.registers l = true)
    {handle : SocketHandle} {e : IpEndpoint} (he : e.port = s.leases.key i)
    (htable : u.rt.udpTable = s.sys.rt.udpTable.apply (.register handle e)) :
    Follows s (s.systemStep l u) (.system l) := by
  have hanswer : s.answer l = { s.enter i (.answered true) with
      owner := Function.update s.owner s.sys.rt.shared.nextChannel (some i) } := by
    simp only [answer, ht.asked, List.head?_cons, hregisters, if_true]
  have hop : s.leases.enabled (.grant i) := ht.head
  rw [ht.systemStep, hanswer]
  refine ht.answered hi hop nofun rfl rfl rfl (fun port j hj => ?_)
  obtain ⟨_, r, hr, ho⟩ := holder_eq_some.mp hj
  have hsessions : u.rt.udpTable.sessions port =
      if port = e.port then some (handle, s.sys.rt.shared.nextChannel)
      else s.sys.rt.udpTable.sessions port := by
    rw [htable]
    exact Function.update_apply ..
  show Function.update s.holder (s.leases.key i) (some i) port = some j
  rw [Function.update_apply, ← he]
  split_ifs with hp
  · rw [if_pos hp] at hsessions
    have hr' : r = (handle, s.sys.rt.shared.nextChannel) := by
      have := hr.symm.trans hsessions
      exact Option.some.inj this
    have howner : Function.update s.owner s.sys.rt.shared.nextChannel (some i) r.2 = some j := ho
    rw [hr', Function.update_self] at howner
    exact howner
  · rw [if_neg hp] at hsessions
    refine holder_of_step hstep rfl hj (fun r hr => ?_)
    rw [hsessions] at hr
    refine ⟨hr, ?_⟩
    have hlt : r.2 < s.sys.rt.shared.nextChannel := h.routed.born port r.1 r.2 hr
    exact Function.update_of_ne (Nat.ne_of_lt hlt) ..

include h hstep in
theorem served_follows (hS : S.KeepsSockets) {draw : Nat} (hl : l = .manager (.command draw))
    (ht : Taken s u cmd m rest)
    (hrt : s.sys.rt.handleCommand H s.sys.params.dnsServers s.sys.params.tcpBufferSize draw cmd =
      .ok u.rt) : Follows s (s.systemStep l u) (.system l) := by
  have hhandled : s.sys.handled l = some cmd := by
    rw [hl, System.handled, ht.commands, List.head?_cons]
  have htagged := ht.tagged
  cases cmd with
  | udpRegister port response =>
      obtain ⟨i, rfl, hport⟩ := htagged
      obtain ⟨c, hc, _⟩ := Option.map_eq_some_iff.mp hport
      have hregisters : s.sys.registers l = s.sys.rt.opensSession port := by
        simp only [System.registers, hhandled, Option.any_some]
      have hrt : u.rt = s.sys.rt.registerUdpSession port response := (Except.ok.inj hrt).symm
      rcases RuntimeState.registerUdpSession_udpTable hS s.sys.rt port response with
        ⟨⟨e, he, _⟩, hsame⟩ | ⟨handle, a, stack, hcreate, _, _, htable⟩
      · have hclosed : s.sys.registers l = false := by
          rw [hregisters, ← Bool.not_eq_true, RuntimeState.opensSession_iff]
          rintro ⟨handle, stack, hcreate⟩
          rw [he] at hcreate
          cases hcreate
        refine ht.refuse hstep hc hclosed (fun p r hr => ?_)
        rw [hrt, hsame] at hr
        exact hr
      · have hopen := hregisters.trans (RuntimeState.opensSession_iff.mpr ⟨_, _, hcreate⟩)
        exact ht.grant h hstep hc hopen (leases_key hport).symm (hrt ▸ htable)
  | udpUnregister port =>
      obtain ⟨i, rfl, hport⟩ := htagged
      have htable := RuntimeState.unregisterUdpSession_udpTable h.sound.consistent.slotted hrt
      refine ht.revoke hstep (fun p r _ hr => ?_)
      rw [htable, UdpTable.apply] at hr
      have hr : (if p ∈ [port] then none else s.sys.rt.udpTable.sessions p) = some r := hr
      split_ifs at hr with hp
      rw [leases_key hport]
      exact ⟨fun he => hp (List.mem_singleton.mpr he.symm), hr⟩
  | _ =>
      cases htagged
      refine ht.skip hstep (fun p r hr => sessions_of_step h hstep hS ?_ hr)
      simp [hhandled]

include hstep in
theorem refused_follows (hl : l = .manager .disconnectedCommand) (ht : Taken s u cmd m rest)
    (hrt : u.rt = s.sys.rt.handleCommandDisconnected cmd) :
    Follows s (s.systemStep l u) (.system l) := by
  have hsessions : ∀ p r, u.rt.udpTable.sessions p = some r →
      s.sys.rt.udpTable.sessions p = some r := by
    intro p r hr
    rw [hrt, System.handleCommandDisconnected_udpTable] at hr
    exact hr
  have htagged := ht.tagged
  cases cmd with
  | udpRegister port response =>
      obtain ⟨i, rfl, hport⟩ := htagged
      obtain ⟨c, hc, _⟩ := Option.map_eq_some_iff.mp hport
      exact ht.refuse hstep hc (by rw [hl]; rfl) hsessions
  | udpUnregister port =>
      obtain ⟨i, rfl, _⟩ := htagged
      refine ht.revoke hstep (fun p r hc _ => ?_)
      rw [hl] at hstep
      obtain ⟨down, _, _, _, rfl⟩ := System.step_disconnectedCommand hstep
      rw [System.connected_iff] at hc
      exact absurd down (Pc.ne_disconnected_of_up hc)
  | _ =>
      cases htagged
      exact ht.skip hstep hsessions

theorem asks_none (hl : l = .submit cmd ∨ cmd.source ≠ none) (haside : s.sys.asideOfUdp l = true) :
    asks s.portOf cmd none := by
  cases cmd with
  | udpRegister _ _ | udpUnregister _ =>
      rcases hl with rfl | hsource
      · cases haside
      · exact absurd rfl hsource
  | _ => rfl

include h hstep in
theorem system_follows (hS : S.KeepsSockets) (haside : s.sys.asideOfUdp l = true)
    (hlost : u.lost = false) : Follows s (s.systemStep l u) (.system l) := by
  rcases System.step_queue hstep with ⟨hq, hl⟩ | ⟨cmd, hq, hrt, hl⟩ | ⟨cmd, draw, hl, hq, hrt⟩ |
    ⟨cmd, hl, hq, hrt⟩
  · refine same_follows h hstep hS hq (hl.resolve_right ?_)
    rw [hlost]
    nofun
  · exact sent_follows h hstep hq hrt (asks_none hl haside)
  · obtain ⟨m, rest, ht⟩ := taken_of_head h hq
    exact served_follows h hstep hS hl ht hrt
  · obtain ⟨m, rest, ht⟩ := taken_of_head h hq
    exact refused_follows hstep hl ht hrt

end system

end Associates

end Usque
