import Usque.Manager.Traced

namespace Usque

open Outcome (Survives)

namespace NetworkStack

variable {S : Smoltcp} {st : NetworkStack S} {handle : SocketHandle}

def notUdp (st : NetworkStack S) (handle : SocketHandle) : Prop :=
  st.kindAt handle = none ∨ st.kindAt handle = some .tcp

theorem notUdp_iff : st.notUdp handle ↔ ∀ e, st.kindAt handle ≠ some (.udp e) := by
  simp only [notUdp]
  cases st.kindAt handle with
  | none => simp
  | some k => cases k <;> simp

variable (hw : st.WellFormed) (hu : st.notUdp handle)

include hw hu in
theorem getTcpSocket_total : ∃ o, st.getTcpSocket handle = .ok o := by
  by_cases hv : handle ∈ st.validHandles
  · have hk := hu.resolve_left ((hw handle).mp hv)
    obtain ⟨s, hs⟩ := (hasTcp_iff hw).mpr hk
    exact ⟨_, hs.getTcpSocket⟩
  · exact ⟨_, getTcpSocket_invalid hv⟩

include hw hu in
theorem tcpQuery_total (f : S.TcpSocket → Bool) : ∃ b, tcpQuery f st handle = .ok b := by
  obtain ⟨o, ho⟩ := getTcpSocket_total hw hu
  cases o <;> simp [tcpQuery, ho]

include hw hu in
theorem tcpSend_total (data : List UInt8) : ∃ r, st.tcpSend handle data = .ok r := by
  obtain ⟨o, ho⟩ := getTcpSocket_total hw hu
  cases o <;> simp [tcpSend, ho]

include hw hu in
theorem tcpRecv_total (len : Nat) : ∃ r, st.tcpRecv handle len = .ok r := by
  obtain ⟨o, ho⟩ := getTcpSocket_total hw hu
  cases o <;> simp [tcpRecv, ho]

include hw hu in
theorem tcpClose_total : ∃ st', st.tcpClose handle = .ok st' := by
  have hw' : (st.logCall (.tcpClose handle)).WellFormed := hw
  obtain ⟨o, ho⟩ := getTcpSocket_total hw' hu
  have ho' : ({ st with calls := .tcpClose handle :: st.calls } : NetworkStack S).getTcpSocket
      handle = .ok o := ho
  cases o <;> simp [tcpClose, ho']

include hw hu in
theorem connectTcp_total (remoteIp : IpAddress) (remotePort localPort : UInt16) :
    ∃ r, st.connectTcp handle remoteIp remotePort localPort = .ok r := by
  obtain ⟨o, ho⟩ := getTcpSocket_total hw hu
  cases o with
  | none => simp [connectTcp, ho]
  | some s =>
      simp only [connectTcp, ho, Outcome.ok_bind]
      split <;> exact ⟨_, rfl⟩

include hw hu in
theorem tcpReadiness_total : ∃ state, st.tcpReadiness handle = .ok state := by
  obtain ⟨active, ha⟩ := tcpQuery_total hw hu S.tcpIsActive
  obtain ⟨maySend, hs⟩ := tcpQuery_total hw hu S.tcpMaySend
  obtain ⟨mayRecv, hr⟩ := tcpQuery_total hw hu S.tcpMayRecv
  simp only [tcpReadiness, tcpIsActive, tcpMaySend, tcpMayRecv, ha, hs, hr, Outcome.ok_bind]
  split
  · exact ⟨_, rfl⟩
  · cases maySend <;> cases mayRecv <;> exact ⟨_, rfl⟩

end NetworkStack

open NetworkStack (notUdp Touches)

variable {S : Smoltcp} {handle : SocketHandle} {tcpChunkSize : Nat}

theorem flushPendingToStack_survives (fuel : Nat) {st : NetworkStack S} (hw : st.WellFormed)
    (hu : st.notUdp handle) (c : SocketStreamHandle) :
    Survives (flushPendingToStack handle tcpChunkSize fuel st c) := by
  induction fuel generalizing st c with
  | zero => exact Outcome.survives_hang
  | succ fuel ih =>
      refine .bind (.of_ok (NetworkStack.tcpQuery_total hw hu _)) (fun maySend _ => ?_)
      split
      · exact Outcome.survives_ok _
      · dsimp only
        split
        · exact Outcome.survives_ok _
        · refine .bind (.of_ok (NetworkStack.tcpSend_total hw hu _)) (fun r hr => ?_)
          obtain ⟨accepted, st₁⟩ := r
          have hk := (NetworkStack.tcpSend_touches hr).1.keeps
          have hu₁ : st₁.notUdp handle := by rwa [notUdp, hk.kindAt]
          dsimp only
          split
          · exact Outcome.survives_ok _
          · split
            · exact Outcome.survives_ok _
            · split
              · exact Outcome.survives_ok _
              · exact ih (hk.wellFormed hw) hu₁ _

theorem fillRecvBuffer_survives (fuel : Nat) {st : NetworkStack S} (hw : st.WellFormed)
    (hu : st.notUdp handle) (c : SocketStreamHandle) :
    Survives (fillRecvBuffer handle tcpChunkSize fuel st c) := by
  induction fuel generalizing st c with
  | zero => exact Outcome.survives_hang
  | succ fuel ih =>
      refine .bind (.of_ok (NetworkStack.tcpQuery_total hw hu _)) (fun mayRecv _ => ?_)
      split
      · exact Outcome.survives_ok _
      · refine .bind (.of_ok (NetworkStack.tcpRecv_total hw hu _)) (fun r hr => ?_)
        obtain ⟨received, st₁⟩ := r
        have hk := (NetworkStack.tcpRecv_touches hr).1.keeps
        have hu₁ : st₁.notUdp handle := by rwa [notUdp, hk.kindAt]
        dsimp only
        split
        · exact Outcome.survives_ok _
        · split
          · exact Outcome.survives_ok _
          · split
            · exact Outcome.survives_ok _
            · exact ih (hk.wellFormed hw) hu₁ _

namespace Service

variable {v : Service S}

theorem serviceWrite_survives (hw : v.stack.WellFormed) (hu : v.stack.notUdp handle)
    (should : Bool) : Survives (v.serviceWrite should handle tcpChunkSize) := by
  simp only [serviceWrite]
  split
  · exact .bind (flushPendingToStack_survives _ hw hu _) (fun _ _ => Outcome.survives_ok _)
  · exact Outcome.survives_ok _

theorem serviceRead_survives (hw : v.stack.WellFormed) (hu : v.stack.notUdp handle)
    (should : Bool) : Survives (v.serviceRead should handle tcpChunkSize) := by
  simp only [serviceRead]
  split
  · exact .bind (fillRecvBuffer_survives _ hw hu _) (fun _ _ => Outcome.survives_ok _)
  · exact Outcome.survives_ok _

theorem syncConnecting_survives (hw : v.stack.WellFormed) (hu : v.stack.notUdp handle) :
    Survives (v.syncConnecting handle) :=
  .bind (.of_ok (NetworkStack.tcpQuery_total hw hu _)) (fun _ _ => Outcome.survives_ok _)

theorem closeHalves_survives (hw : v.stack.WellFormed) (hu : v.stack.notUdp handle)
    (past : Bool) : Survives (v.closeHalves handle past) :=
  .bind (.of_ok (NetworkStack.tcpQuery_total hw hu _)) (fun _ _ =>
    .bind (.of_ok (NetworkStack.tcpQuery_total hw hu _)) (fun _ _ => Outcome.survives_ok _))

theorem sendFin_survives (hw : v.stack.WellFormed) (hu : v.stack.notUdp handle) :
    Survives (v.sendFin handle) := by
  refine .bind (.of_ok (NetworkStack.tcpQuery_total hw hu _)) (fun maySend _ => ?_)
  split
  · exact .bind (.of_ok (NetworkStack.tcpClose_total hw hu)) (fun _ _ => Outcome.survives_ok _)
  · exact Outcome.survives_ok _

theorem run_survives (fullSweep : Bool) (hw : v.stack.WellFormed) (hu : v.stack.notUdp handle) :
    Survives (v.run fullSweep handle tcpChunkSize) := by
  have hb : (v.begin fullSweep).stack = v.stack := by cases fullSweep <;> rfl
  rw [← hb] at hw hu
  refine .bind (serviceWrite_survives hw hu _) (fun written hwrite => ?_)
  have hk₁ := (serviceWrite_ok hwrite).1.keeps
  have hw₁ := hk₁.wellFormed hw
  have hu₁ : written.stack.notUdp handle := by rwa [notUdp, hk₁.kindAt]
  refine .bind (serviceRead_survives hw₁ hu₁ _) (fun filled hread => ?_)
  have hk₂ := (serviceRead_ok hread).1.keeps
  have hw₂ : filled.syncPollInterest.stack.WellFormed := hk₂.wellFormed hw₁
  have hu₂ : filled.syncPollInterest.stack.notUdp handle := by
    show filled.stack.notUdp handle
    rwa [notUdp, hk₂.kindAt]
  refine .bind (syncConnecting_survives hw₂ hu₂) (fun r hconn => ?_)
  obtain ⟨past, synced⟩ := r
  obtain ⟨_, hs⟩ := syncConnecting_ok hconn
  have hw₃ : synced.stack.WellFormed := by rw [hs]; exact hw₂
  have hu₃ : synced.stack.notUdp handle := by rw [hs]; exact hu₂
  refine .bind (closeHalves_survives hw₃ hu₃ past) (fun halves hclose => ?_)
  obtain ⟨_, _, _, _, hh⟩ := closeHalves_ok hclose
  exact sendFin_survives (by rw [hh]; exact hw₃) (by rw [hh]; exact hu₃)

end Service

theorem Settles.survives {P : Policy} {rt : RuntimeState S} {o : Outcome (RuntimeState S)}
    (h : Settles P rt o) : Survives o := by
  intro he
  rw [he] at h
  exact h

namespace RuntimeState

variable {rt : RuntimeState S}

theorem notUdp_of_lookup (hs : Slotted rt) {st : SocketState}
    (hl : rt.sockets.lookup handle = some st) : rt.stack.notUdp handle :=
  .inr ((hs.entry handle).mp (by rw [hl]; exact Option.some_ne_none _))

theorem getTcpSocketState_total (hs : Slotted rt) (handle : SocketHandle) :
    ∃ state, rt.getTcpSocketState handle = .ok state := by
  simp only [getTcpSocketState]
  split
  · exact ⟨_, rfl⟩
  · next st hl =>
      split
      · exact ⟨_, rfl⟩
      · exact NetworkStack.tcpReadiness_total hs.wellFormed (notUdp_of_lookup hs hl)

theorem closeConnection_survives (hs : Slotted rt) (hu : rt.stack.notUdp handle) :
    Survives (rt.closeConnection handle) := by
  simp only [closeConnection]
  split
  · exact Outcome.survives_ok _
  · refine .bind (.of_ok (NetworkStack.tcpClose_total hs.wellFormed hu)) (fun stack hc => ?_)
    have hw := (NetworkStack.tcpClose_keeps hc).wellFormed hs.wellFormed
    exact .bind (.of_ok (NetworkStack.removeSocket_total hw handle))
      (fun _ _ => Outcome.survives_ok _)

theorem createConnection_survives (hs : Slotted rt) (remoteIp : IpAddress)
    (remotePort localPort : UInt16) (tcpBufferSize : Nat) (reservedSlot : Bool) :
    Survives (rt.createConnection remoteIp remotePort localPort tcpBufferSize reservedSlot) := by
  simp only [createConnection]
  split
  · exact Outcome.survives_ok _
  · have ho := NetworkStack.createTcpSocketWithBuffer_opens rt.stack tcpBufferSize
    have hw := ho.wellFormed hs.wellFormed
    have hu : (rt.stack.createTcpSocketWithBuffer tcpBufferSize).2.notUdp
        (rt.stack.createTcpSocketWithBuffer tcpBufferSize).1 := .inr (by rw [ho.kindAt, if_pos rfl])
    refine .bind (.of_ok (NetworkStack.connectTcp_total hw hu _ _ _)) (fun r hr => ?_)
    obtain ⟨connected, stack⟩ := r
    have hw' := (NetworkStack.connectTcp_keeps hr).wellFormed hw
    dsimp only
    split
    · exact .bind (.of_ok (NetworkStack.removeSocket_total hw' _))
        (fun _ _ => Outcome.survives_ok _)
    · exact Outcome.survives_ok _

variable (hS : S.KeepsSockets) (H : Hickory)

include hS in
theorem handleCommand_survives (hc : Consistent rt) (dnsServers : List IpAddress)
    (tcpBufferSize draw : Nat) (cmd : ManagerCommand)
    (hu : ∀ h source, cmd = .close h source → rt.stack.notUdp h) :
    Survives (rt.handleCommand H dnsServers tcpBufferSize draw cmd) := by
  have hs := hc.slotted
  have hdns : ∀ domain preferIpv6 resolveAll response responseAll,
      Survives (rt.startDnsQueryFor H domain preferIpv6 resolveAll response responseAll
        dnsServers) := fun _ _ _ _ _ =>
    (startDnsQueryFor_settles (P := .any) hS (fun _ _ => trivial) H hs
      _ _ _ _ _ _ (fun _ => trivial)).survives
  cases cmd with
  | connect remoteIp remotePort localPort reservedSlot response =>
      exact .bind (createConnection_survives hs _ _ _ _ _) (fun _ _ => Outcome.survives_ok _)
  | close handle source => exact closeConnection_survives hs (hu handle source rfl)
  | dnsResolve domain preferIpv6 response =>
      simp only [handleCommand]
      split
      · exact Outcome.survives_ok _
      · exact hdns _ _ _ _ _
  | dnsResolveAll domain response =>
      simp only [handleCommand]
      split
      · exact Outcome.survives_ok _
      · exact hdns _ _ _ _ _
  | udpRegister localPort response => exact Outcome.survives_ok _
  | udpUnregister localPort =>
      exact (unregisterUdpSession_settles (P := .any) trivial hs localPort).survives
  | getSocketState handle response source =>
      exact .bind (.of_ok (getTcpSocketState_total hs handle)) (fun _ _ => Outcome.survives_ok _)
  | waitSocketReady handle response source =>
      refine .bind (.of_ok (getTcpSocketState_total hs handle)) (fun state _ => ?_)
      split
      · exact Outcome.survives_ok _
      · split <;> exact Outcome.survives_ok _

theorem takeReadyWaiters_survives {acc : RuntimeState S × Notifications} (hs : Slotted acc.1)
    (handle : SocketHandle) : Survives (takeReadyWaiters acc handle) := by
  simp only [takeReadyWaiters]
  split
  · exact Outcome.survives_ok _
  · next st hl =>
      split
      · exact Outcome.survives_ok _
      · have hr := NetworkStack.tcpReadiness_total hs.wellFormed (notUdp_of_lookup hs hl)
        refine .bind (.of_ok hr) (fun state _ => ?_)
        split <;> exact Outcome.survives_ok _

include hS in
theorem notifyReadyWaiters_survives (hc : Consistent rt) : Survives rt.notifyReadyWaiters := by
  refine .bind (.run (P := fun acc _ => Consistent acc.1) (fun acc handle _ ha => ?_) hc)
    (fun _ _ => Outcome.survives_ok _)
  refine ⟨takeReadyWaiters_survives ha.slotted handle, fun acc' h => ?_⟩
  exact (takeReadyWaiters_effects (R := Rules.any S) h).consistent hS ha

include hS in
theorem processStateChange_survives (hc : Consistent rt) (changed : Bool) :
    Survives (rt.processStateChange H changed) := by
  simp only [processStateChange]
  split
  · refine .bind (notifyReadyWaiters_survives hS hc) (fun rt₁ h₁ => ?_)
    have hs₁ := ((notifyReadyWaiters_effects (R := Rules.any S) hS hc h₁).consistent hS hc).slotted
    have hd := processDnsResponses_settles (P := .any) hS H hs₁
    refine .bind hd.survives (fun rt₂ h₂ => ?_)
    have hs₂ := (hd.settled h₂).slotted
    have hr := processUdpResponses_settles (P := .any) hS hs₂
    refine .bind hr.survives (fun rt₃ h₃ => ?_)
    have hs₃ := expireDnsGroups_settled (P := .any) (hr.settled h₃).slotted
    exact (expireUdpSessions_settles (P := .any) trivial hs₃.slotted).survives
  · exact Outcome.survives_ok _

include hS in
theorem pollStackCommon_survives (hc : Consistent rt) (fullTcpSweep : Bool) :
    Survives (rt.pollStackCommon H fullTcpSweep) := by
  simp only [pollStackCommon]
  split
  · exact Outcome.survives_ok _
  · next outcome stack hp =>
      have hc' : Consistent { rt with stack } :=
        (Effect.poll (R := Rules.any S) trivial hp).consistent hS hc
      exact .bind (processStateChange_survives hS H hc' _) (fun _ _ => Outcome.survives_ok _)

theorem sweepHandle_survives (fullSweep : Bool) {acc : RuntimeState S × List SocketHandle}
    (hs : Slotted acc.1) (hu : acc.1.stack.notUdp handle) :
    Survives (sweepHandle fullSweep acc handle) := by
  refine .bind (.of_ok (NetworkStack.tcpQuery_total hs.wellFormed hu _)) (fun active _ => ?_)
  split
  · exact Outcome.survives_ok _
  · split
    · exact Outcome.survives_ok _
    · refine .bind ?_ (fun _ _ => Outcome.survives_ok _)
      exact .bind (Service.run_survives fullSweep hs.wellFormed hu)
        (fun _ _ => Outcome.survives_ok _)

theorem retire_survives (hs : Slotted rt) (handle : SocketHandle) : Survives (rt.retire handle) := by
  have hst : (rt.releaseSocket handle).stack = rt.stack := by
    cases hl : rt.sockets.lookup handle with
    | none => simp only [releaseSocket, hl]
    | some st =>
        obtain ⟨replies, he⟩ := releaseSocket_some hl
        rw [he]
        rfl
  refine .bind (.bind (.of_ok ?_) (fun _ _ => Outcome.survives_ok _))
    (fun _ _ => Outcome.survives_ok _)
  rw [hst]
  exact NetworkStack.removeSocket_total hs.wellFormed handle

include hS in
theorem pollTcpSockets_survives (hc : Consistent rt) (fullSweep : Bool)
    (hu : ∀ h ∈ (rt.selectHandles fullSweep).1, rt.stack.notUdp h) :
    Survives (rt.pollTcpSockets fullSweep) := by
  rw [pollTcpSockets_eq]
  have hstack : (rt.selectHandles fullSweep).2.stack = rt.stack := by cases fullSweep <;> rfl
  have hc₁ := selectHandles_consistent hc fullSweep
  let I := fun acc : RuntimeState S × List SocketHandle =>
    Consistent acc.1 ∧ (∀ h ∈ acc.2, acc.1.notUdp h) ∧
      ∀ i, acc.1.stack.kindAt i = rt.stack.kindAt i
  have hI : ∀ acc acc' handle, I acc → sweepHandle fullSweep acc handle = .ok acc' → I acc' := by
    intro acc acc' handle ⟨hca, hua, hka⟩ h
    obtain ⟨heff, hu'⟩ := sweepHandle_effects (R := Rules.any S) trivial hca hua h
    refine ⟨heff.consistent hS hca, hu', fun i => ?_⟩
    rw [← hka]
    obtain ⟨active, _, h⟩ := Outcome.bind_eq_ok.mp h
    split at h
    · cases h
      rfl
    · split at h
      · cases h
        rfl
      · obtain ⟨rt₁, hserv, h⟩ := Outcome.bind_eq_ok.mp h
        cases h
        obtain ⟨v, hv, rfl⟩ := serviceSocket_ok hserv
        exact (Service.run_frame hv).touches.keeps.kindAt i
  have hI₀ : I ((rt.selectHandles fullSweep).2, []) :=
    ⟨hc₁, (fun _ h => by cases h), fun i => by rw [hstack]⟩
  refine .bind (.run (P := fun acc hs => I acc ∧ ∀ h ∈ hs, rt.stack.notUdp h)
    (fun acc handle hs ⟨ha, hm⟩ => ⟨?_, fun acc' h => ?_⟩) ⟨hI₀, hu⟩) (fun acc hsweep => ?_)
  · refine sweepHandle_survives fullSweep ha.1.slotted ?_
    have hk := hm handle (List.mem_cons_self ..)
    rwa [NetworkStack.notUdp, ← ha.2.2] at hk
  · exact ⟨hI _ _ _ ha h, fun i hi => hm i (List.mem_cons_of_mem _ hi)⟩
  · have ha := Outcome.run_invariant (P := I) (fun acc h acc' => hI acc acc' h) hsweep hI₀
    refine .run (P := fun rt hs => Consistent rt ∧ ∀ h ∈ hs, rt.notUdp h)
      (fun rt handle hs ⟨hc, hm⟩ => ⟨retire_survives hc.slotted handle, fun rt' h => ?_⟩)
      ⟨ha.1, ha.2.1⟩
    have hr := retire_retired hc h
    refine ⟨⟨hr.slotted hc.slotted (hm handle (List.mem_cons_self ..)), hr.tracked hc.tracked⟩,
      fun i hi => ?_⟩
    have hmi := hm i (List.mem_cons_of_mem _ hi)
    simp only [RuntimeState.notUdp, hr.frees.kindAt]
    split_ifs
    · exact .inl rfl
    · exact hmi

theorem injectIncoming_survives (rt : RuntimeState S) (packet : Packet) :
    Survives (rt.injectIncoming packet) := by
  have hdrop : ∀ (fuel : Nat) (device : VirtualDevice),
      Survives (VirtualDevice.dropOldest fuel device) := by
    intro fuel
    induction fuel with
    | zero => exact fun _ => Outcome.survives_hang
    | succ fuel ih =>
        intro device
        simp only [VirtualDevice.dropOldest]
        split
        · exact ih _
        · exact Outcome.survives_ok _
  refine .bind (.bind (.bind (hdrop _ _) (fun _ _ => Outcome.survives_ok _))
    (fun _ _ => Outcome.survives_ok _)) (fun _ _ => Outcome.survives_ok _)

theorem handleTransportIoEvent_survives (tunnel : ActiveTunnel) (rt : RuntimeState S)
    (decrypted : Option Packet) (event : TransportIoEvent) :
    Survives (tunnel.handleTransportIoEvent rt decrypted event) := by
  cases event with
  | incoming data =>
      simp only [ActiveTunnel.handleTransportIoEvent, ActiveTunnel.handleIncomingDatagram]
      split
      · exact .bind (injectIncoming_survives rt _) (fun _ _ => Outcome.survives_ok _)
      · split
        · exact Outcome.survives_ok _
        · exact .bind (injectIncoming_survives rt _) (fun _ _ => Outcome.survives_ok _)
  | quicFlush | masqueBlocked => exact Outcome.survives_ok _

end RuntimeState

end Usque
