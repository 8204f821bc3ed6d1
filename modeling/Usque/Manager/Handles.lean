import Usque.Manager.Traced

namespace Usque

def ManagerCommand.closes : ManagerCommand → Option SocketHandle
  | .close handle _ => some handle
  | _ => none

theorem ManagerCommand.closes_tcpHandle {cmd : ManagerCommand} {h : SocketHandle}
    (hc : cmd.closes = some h) : cmd.tcpHandle = some h := by
  cases cmd <;> first | exact hc | cases hc

theorem ManagerCommand.tcpHandle_none {cmd : ManagerCommand} (h : cmd.source = none) :
    cmd.tcpHandle = none := by
  cases cmd <;> first | rfl | cases h

theorem RuntimeState.opensTcp_mayOpen {S : Smoltcp} {rt : RuntimeState S} {tcpBufferSize : Nat}
    {cmd : ManagerCommand} (h : rt.opensTcp tcpBufferSize cmd = true) : cmd.mayOpen = true := by
  cases cmd <;> first | rfl | cases h

theorem RuntimeState.opensUdp_mayOpen {S : Smoltcp} {rt : RuntimeState S}
    {dnsServers : List IpAddress} {draw : Nat} {cmd : ManagerCommand}
    (h : rt.opensUdp dnsServers draw cmd = true) : cmd.mayOpen = true := by
  cases cmd <;> first | rfl | cases h

namespace System

variable {S : Smoltcp} {H : Hickory} {s t : System S} {l : Label} {h : SocketHandle}

theorem opensTcpAt_handled (ho : s.opensTcpAt l = some h) :
    ∃ cmd, s.handled l = some cmd ∧ cmd.mayOpen = true := by
  cases l with
  | manager choice =>
      cases choice with
      | command draw =>
          simp only [opensTcpAt] at ho
          split at ho
          · next hany =>
              obtain ⟨cmd, hcmd, hopens⟩ := (Option.any_eq_true _ _).mp hany
              exact ⟨cmd, hcmd, RuntimeState.opensTcp_mayOpen hopens⟩
          · cases ho
      | _ => cases ho
  | _ => cases ho

theorem opensUdpAt_handled (ho : s.opensUdpAt l = some h) :
    ∃ cmd, s.handled l = some cmd ∧ cmd.mayOpen = true := by
  cases l with
  | manager choice =>
      cases choice with
      | command draw =>
          simp only [opensUdpAt] at ho
          split at ho
          · next hany =>
              obtain ⟨cmd, hcmd, hopens⟩ := (Option.any_eq_true _ _).mp hany
              exact ⟨cmd, hcmd, RuntimeState.opensUdp_mayOpen hopens⟩
          · cases ho
      | _ => cases ho
  | _ => cases ho

-- What the step really opens and frees, and who acts in it.
def slotRules (s : System S) (l : Label) : Rules S where
  call := fun _ => True
  udp := fun h => s.opensUdpAt l = some h
  free := ∀ cmd, s.handled l = some cmd → cmd.mayOpen = false
  tcp := fun h => s.opensTcpAt l = some h
  connect := fun _ _ => True
  sweep := True
  poll := fun _ => True
  client := fun x => (s.clients x).phase = .holding
  wait := fun x response => ∃ handle source,
    s.handled l = some (.waitSocketReady handle response source) ∧ s.rt.owner handle = some x

theorem permits_slotRules (s : System S) (l : Label) : Permits (s.slotRules l) s l where
  call := fun _ _ => trivial
  send := fun _ _ _ _ _ _ => trivial
  tcp := fun _ ho => ho
  udp := fun _ ho => ho
  connect := fun _ _ _ _ => trivial
  free := id
  sweep := fun _ => trivial
  poll := fun _ => trivial
  client := fun _ _ _ hx => hx
  wait := fun handle _ source hcmd _ hl => ⟨handle, source, hcmd, owner_of_lookup hl⟩

theorem slotRules_tcp : ¬ ((s.slotRules l).tcp h ∧ (s.slotRules l).free) := by
  rintro ⟨ho, hf⟩
  obtain ⟨cmd, hcmd, hopen⟩ := opensTcpAt_handled ho
  rw [hf cmd hcmd] at hopen
  cases hopen

theorem slotRules_udp : ¬ ((s.slotRules l).udp h ∧ (s.slotRules l).free) := by
  rintro ⟨ho, hf⟩
  obtain ⟨cmd, hcmd, hopen⟩ := opensUdpAt_handled ho
  rw [hf cmd hcmd] at hopen
  cases hopen

variable (hS : S.KeepsSockets) (hs : Sound s)

include hs in
theorem slotRules_client (x : StreamId) (hx : (s.slotRules l).client x) :
    x < s.rt.shared.nextStream := by
  have hx : (s.clients x).phase = .holding := hx
  exact hs.born x (by rw [hx]; simp)

include hS hs in
theorem step_slots (h : step H s l = some t) : SlotSteps (s.slotRules l) s.rt t.rt :=
  (step_effects hS hs (permits_slotRules s l) h).slotSteps hS hs.consistent

include hS hs in
theorem step_traced (h : step H s l = some t) : Traced (s.slotRules l) s.rt t.rt :=
  (step_effects hS hs (permits_slotRules s l) h).traced hS (slotRules_client hs) hs.consistent

-- The connection that owned the slot in the step owns it still, or the slot was freed.
include hS in
theorem since_owner {x : StreamId} (ho : Since (s.slotRules l) t.rt h x) :
    t.rt.owner h = some x ∨ ((s.slotRules l).free ∧ t.rt.owner h = none) := by
  obtain ⟨rt, hc, heff, hown⟩ := ho
  have hturn := (heff.slotSteps hS hc).owners h
  rw [hown] at hturn
  exact hturn.of_some slotRules_tcp

-- A command that a client sends carries its own handle, and its reply comes back to the client.
structure SentBy (s t : System S) (x : StreamId) (cmd : ManagerCommand) : Prop where
  acts : (s.clients x).phase.acts
  source : cmd.source = some x
  tcpHandle : cmd.tcpHandle = some (s.rt.stream x).handle
  response : ∀ r, cmd.response = some r → t.asker r = some x

theorem clientStep_cmdRx {x : StreamId} {op : ClientOp} (h : s.clientStep x op = some t)
    {cmd : ManagerCommand} (hc : cmd ∈ t.cmdRx) : cmd ∈ s.cmdRx ∨ SentBy s t x cmd := by
  cases clientStep_cases h with
  | op _ _ _ | finish _ => exact .inl hc
  | close hphase =>
      rcases List.mem_append.mp hc with hc | hc
      · exact .inl hc
      · rw [List.mem_singleton.mp hc]
        exact .inr ⟨hphase, rfl, rfl, fun _ hr => by cases hr⟩
  | ask hphase hresponse hsource hhandle =>
      rcases List.mem_append.mp hc with hc | hc
      · exact .inl hc
      · rw [List.mem_singleton.mp hc]
        refine .inr ⟨hphase, hsource _, hhandle _, fun r hr => ?_⟩
        rw [hresponse] at hr
        cases hr
        exact Function.update_self ..

theorem step_cmdRx (h : step H s l = some t) {cmd : ManagerCommand} (hc : cmd ∈ t.cmdRx) :
    cmd ∈ s.cmdRx ∨ cmd.source = none ∨ ∃ x, SentBy s t x cmd := by
  cases l with
  | client x op => exact (clientStep_cmdRx h hc).imp id (fun hx => .inr ⟨x, hx⟩)
  | submit new =>
      have hsource := (submit_cases h).1
      obtain ⟨_, _, rfl⟩ := submit_eq h
      rcases List.mem_append.mp hc with hc | hc
      · exact .inl hc
      · rw [List.mem_singleton.mp hc]
        exact .inr (.inl hsource)
  | manager choice => exact .inl ((managerStep_served h).commands.subset hc)
  | udpSend _ | io _ =>
      simp only [step] at h
      split at h <;> cases h
      exact .inl hc
  | evict _ | reserveSlot | releaseSlot | tick _ | statics _ | cancel _ | receiveUdp _
  | closeUdp _ =>
      cases h
      exact .inl hc

end System

end Usque
