import Usque.Manager.Runs

namespace Usque

namespace System

variable {S : Smoltcp} {H : Hickory} {s t : System S} {l : Label}

def lost (s : System S) : Bool :=
  match s.pc with
  | .faulted _ => true
  | _ => false

theorem submit_pc {cmd : ManagerCommand} (h : s.submit cmd = some t) : t.pc = s.pc := by
  obtain ⟨_, _, rfl⟩ := submit_eq h
  rfl

theorem step_pc (h : step H s l = some t) (hl : ∀ choice, l ≠ .manager choice) : t.pc = s.pc := by
  cases l with
  | client x op => exact clientStep_pc h
  | submit cmd => exact submit_pc h
  | manager choice => exact absurd rfl (hl choice)
  | udpSend _ | io _ =>
      simp only [step] at h
      split at h <;> cases h
      rfl
  | evict _ | reserveSlot | releaseSlot | tick _ | statics _ | cancel _ | receiveUdp _
  | closeUdp _ =>
      cases h
      rfl

theorem step_running {choice : Choice} (h : step H s (.manager choice) = some t) :
    s.lost = false := by
  have h : s.managerStep H choice = some t := h
  simp only [lost]
  split
  · next fault hpc =>
      simp only [managerStep, hpc] at h
      cases h
  · rfl

theorem step_lost (h : step H s l = some t) (hs : s.lost = true) : t.lost = true := by
  cases l with
  | manager choice =>
      rw [step_running h] at hs
      cases hs
  | _ =>
      simp only [lost, step_pc h (by simp)]
      exact hs

-- What one step does to the command channel: nothing, or a command goes in at the back or is taken
-- from the front.
inductive QueueStep (H : Hickory) (s t : System S) (l : Label) : Prop where
  | same (hq : t.cmdRx = s.cmdRx) (hl : (∀ draw, l ≠ .manager (.command draw)) ∨ t.lost = true)
  | sent (cmd : ManagerCommand) (hq : t.cmdRx = s.cmdRx ++ [cmd]) (hrt : t.rt = s.rt)
      (hl : l = .submit cmd ∨ cmd.source ≠ none)
  | served (cmd : ManagerCommand) (draw : Nat) (hl : l = .manager (.command draw))
      (hq : s.cmdRx = cmd :: t.cmdRx)
      (hrt : s.rt.handleCommand H s.params.dnsServers s.params.tcpBufferSize draw cmd = .ok t.rt)
  | refused (cmd : ManagerCommand) (hl : l = .manager .disconnectedCommand)
      (hq : s.cmdRx = cmd :: t.cmdRx) (hrt : t.rt = s.rt.handleCommandDisconnected cmd)

theorem andThen_cmdRx {α : Type} {o : Outcome α} {k : α → System S}
    (hk : ∀ a, (k a).cmdRx = s.cmdRx) : (s.andThen o k).cmdRx = s.cmdRx :=
  andThen_rt (Q := fun t => t.cmdRx = s.cmdRx) (fun a _ => hk a) (fun _ => rfl)

theorem managerStep_queue {choice : Choice} (h : s.managerStep H choice = some t) :
    QueueStep H s t (.manager choice) := by
  cases managerStep_cases h with
  | @command draw _ cmd _ _ _ hcmd =>
      refine andThen_rt (Q := fun t => QueueStep H s t (.manager (.command draw))) ?_ ?_
      · intro rt hrt
        exact .served cmd draw rfl hcmd hrt
      · intro fault
        exact .same rfl (.inr rfl)
  | refuse _ hcmd => exact .refused _ rfl hcmd rfl
  | udp | incoming | sweep => exact .same (andThen_cmdRx (fun _ => rfl)) (.inl (by simp))
  | turn _ _ hc | teardown _ hc =>
      exact .same rfl (.inl (by simp [Choice.ne_command_of_turns hc]))
  | socketEvent | polled | pollFault | egress | transmit | refresh | establish | discard =>
      exact .same rfl (.inl (by simp))

theorem clientStep_queue {x : StreamId} {op : ClientOp} (h : s.clientStep x op = some t) :
    QueueStep H s t (.client x op) := by
  cases clientStep_cases h with
  | op _ _ _ | finish _ => exact .same rfl (.inl (by simp))
  | close _ => exact .sent _ rfl rfl (.inr (by simp [ManagerCommand.source]))
  | ask _ _ hsource _ => exact .sent _ rfl rfl (.inr (by simp [hsource]))

theorem submit_cmdRx {cmd : ManagerCommand} (h : s.submit cmd = some t) :
    t.cmdRx = s.cmdRx ++ [cmd] := by
  obtain ⟨_, _, rfl⟩ := submit_eq h
  rfl

theorem step_queue (h : step H s l = some t) : QueueStep H s t l := by
  cases l with
  | client x op => exact clientStep_queue h
  | submit cmd => exact .sent cmd (submit_cmdRx h) (submit_rt h) (.inl rfl)
  | manager choice => exact managerStep_queue h
  | udpSend _ | io _ =>
      simp only [step] at h
      split at h <;> cases h
      exact .same rfl (.inl (by simp))
  | evict _ | reserveSlot | releaseSlot | tick _ | statics _ | cancel _ | receiveUdp _
  | closeUdp _ =>
      cases h
      exact .same rfl (.inl (by simp))

end System

end Usque
