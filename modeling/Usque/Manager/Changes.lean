import Usque.Manager.DnsExpiry
import Usque.Manager.Handles

namespace Usque

variable {S : Smoltcp} {H : Hickory} {rt rt' : RuntimeState S}

namespace System

-- What one step does to the runtime state, by the function that does it.
inductive Changes (H : Hickory) (s : System S) : RuntimeState S → Prop where
  | kept : Changes H s s.rt
  | command {draw : Nat} {cmd : ManagerCommand} {rt : RuntimeState S}
      (h : s.rt.handleCommand H s.params.dnsServers s.params.tcpBufferSize draw cmd = .ok rt) :
      Changes H s rt
  | udpSend {cmd : UdpSend} {rt : RuntimeState S} (h : s.rt.handleUdpSend cmd = .ok rt) :
      Changes H s rt
  | transport {decrypted : Option Packet} {event : TransportIoEvent} {ingress : Bool}
      {rt : RuntimeState S}
      (h : s.tunnel.handleTransportIoEvent s.rt decrypted event = .ok (ingress, rt)) :
      Changes H s rt
  | socketEvent {e : SocketEvent} {es : List SocketEvent} (h : s.rt.socketEvents = e :: es) :
      Changes H s ({ s.rt with socketEvents := es }.handleSocketEvent e)
  | stream (x : StreamId) (n : SocketStreamHandle.Notified) : Changes H s (s.rt.putStream x n)
  | polled {full : Bool} {sweep : Option Bool} {rt : RuntimeState S}
      (h : s.rt.pollStackCommon H full = .ok (.polled sweep rt)) : Changes H s rt
  | swept {full : Bool} {rt : RuntimeState S} (h : s.rt.pollTcpSockets full = .ok rt) :
      Changes H s rt
  | egress {changed : Bool} {stack : NetworkStack S}
      (h : s.rt.stack.pollEgress s.rt.shared.now = .ok (changed, stack)) :
      Changes H s { s.rt with stack }
  | transmitted (results : List SendResult) :
      Changes H s (s.tunnel.drainStackPackets s.rt results).2
  | refreshed (pending : Nat) : Changes H s (s.rt.refreshRuntimeStats pending)
  | shared (shared : Shared) : Changes H s { s.rt with shared }
  | evicted (dnsCache : DnsCache) : Changes H s { s.rt with dnsCache }
  | disconnected (cmd : ManagerCommand) : Changes H s (s.rt.handleCommandDisconnected cmd)
  | fresh (mtu session : Nat) (shared : Shared) :
      Changes H s (freshRuntime S s.params mtu session shared)

def Changed (H : Hickory) (s t : System S) : Prop := t.params = s.params ∧ Changes H s t.rt

variable {s t : System S}

theorem andThen_changed {α : Type} {o : Outcome α} {k : α → System S}
    (hk : ∀ a, o = .ok a → Changed H s (k a)) : Changed H s (s.andThen o k) :=
  andThen_rt (Q := Changed H s) hk (fun _ => ⟨rfl, .kept⟩)

theorem managerStep_changed {choice : Choice} (h : s.managerStep H choice = some t) :
    Changed H s t := by
  cases managerStep_cases h with
  | command => exact andThen_changed (fun rt hrt => ⟨rfl, .command hrt⟩)
  | udp => exact andThen_changed (fun rt hrt => ⟨rfl, .udpSend hrt⟩)
  | incoming => exact andThen_changed (fun r hr => ⟨rfl, .transport hr⟩)
  | socketEvent _ _ hevents => exact ⟨rfl, .socketEvent hevents⟩
  | polled _ _ hpoll => exact ⟨rfl, .polled hpoll⟩
  | sweep => exact andThen_changed (fun rt hrt => ⟨rfl, .swept hrt⟩)
  | egress _ _ hpoll => exact ⟨rfl, .egress hpoll⟩
  | transmit => exact ⟨rfl, .transmitted _⟩
  | refresh => exact ⟨rfl, .refreshed _⟩
  | teardown | establish => exact ⟨rfl, .fresh _ _ _⟩
  | refuse => exact ⟨rfl, .disconnected _⟩
  | turn | pollFault | discard => exact ⟨rfl, .kept⟩

theorem clientStep_changed {x : StreamId} {op : ClientOp} (h : s.clientStep x op = some t) :
    Changed H s t := by
  cases clientStep_cases h with
  | op _ _ _ => exact ⟨rfl, .stream _ _⟩
  | close _ | ask _ _ _ _ | finish _ => exact ⟨rfl, .kept⟩

theorem step_changed {l : Label} (h : step H s l = some t) : Changed H s t := by
  cases l with
  | client x op => exact clientStep_changed h
  | submit cmd =>
      obtain ⟨_, _, rfl⟩ := submit_eq h
      exact ⟨rfl, .kept⟩
  | udpSend cmd =>
      simp only [step] at h
      split at h <;> cases h
      exact ⟨rfl, .kept⟩
  | io event =>
      simp only [step] at h
      split at h <;> cases h
      exact ⟨rfl, .kept⟩
  | evict domain =>
      cases h
      exact ⟨rfl, .evicted _⟩
  | manager choice => exact managerStep_changed h
  | reserveSlot | releaseSlot | tick _ | statics _ | cancel _ | receiveUdp _ | closeUdp _ =>
      cases h
      exact ⟨rfl, .shared _⟩

end System

namespace RuntimeState

theorem finishReserved_tunables (rt : RuntimeState S) (reservedSlot : Bool) :
    (rt.finishReserved reservedSlot).tunables = rt.tunables := by
  simp only [finishReserved]
  split <;> rfl

theorem reply_tunables (rt : RuntimeState S) (response : OneshotId) (value : Reply) :
    (rt.reply response value).tunables = rt.tunables := by
  rw [reply_eq]
  rfl

theorem putStream_tunables (rt : RuntimeState S) (x : StreamId)
    (n : SocketStreamHandle.Notified) : (rt.putStream x n).tunables = rt.tunables := by
  rw [putStream_eq]
  rfl

theorem enqueueReady_tunables (rt : RuntimeState S) (handle : SocketHandle) :
    (rt.enqueueReadyTcpHandle handle).tunables = rt.tunables := by
  simp only [enqueueReadyTcpHandle]
  split <;> rfl

theorem handleSocketEvent_tunables (rt : RuntimeState S) (e : SocketEvent) :
    (rt.handleSocketEvent e).tunables = rt.tunables := by
  cases hl : rt.sockets.lookup e.handle with
  | none => rw [handleSocketEvent_none _ hl, enqueueReady_tunables]
  | some st => rw [handleSocketEvent_some _ hl, enqueueReady_tunables]

theorem injectIncoming_tunables {packet : Packet} (h : rt.injectIncoming packet = .ok rt') :
    rt'.tunables = rt.tunables := by
  obtain ⟨stack, _, h⟩ := Outcome.bind_eq_ok.mp h
  cases h
  show (rt.noteIncomingTcpHandle packet).tunables = rt.tunables
  simp only [noteIncomingTcpHandle]
  split
  · rfl
  · exact enqueueReady_tunables _ _

theorem createConnection_tunables {remoteIp : IpAddress} {remotePort localPort : UInt16}
    {tcpBufferSize : Nat} {reservedSlot : Bool} {result : Except ManagerError StreamId}
    (h : rt.createConnection remoteIp remotePort localPort tcpBufferSize reservedSlot =
      .ok (result, rt')) : rt'.tunables = rt.tunables := by
  rcases createConnection_ok h with ⟨_, rfl⟩ | ⟨_, _, _, _, _, _, rfl⟩ | ⟨_, _, _, _, rfl⟩
  · exact finishReserved_tunables _ _
  · exact finishReserved_tunables _ _
  · rw [insertConnection_eq, finishReserved_tunables]
    rfl

theorem sendConnected_tunables (rt : RuntimeState S) (response : OneshotId)
    (result : Except ManagerError StreamId) :
    (rt.sendConnected response result).tunables = rt.tunables := by
  cases result with
  | error e => exact reply_tunables _ _ _
  | ok x =>
      simp only [sendConnected]
      split
      · exact putStream_tunables _ _ _
      · exact reply_tunables _ _ _

theorem closeConnection_tunables {handle : SocketHandle}
    (h : rt.closeConnection handle = .ok rt') : rt'.tunables = rt.tunables := by
  cases hl : rt.sockets.lookup handle with
  | none =>
      simp only [closeConnection, hl] at h
      obtain ⟨_, _, h⟩ := Outcome.bind_eq_ok.mp h
      obtain ⟨_, _, h⟩ := Outcome.bind_eq_ok.mp h
      cases h
      rfl
  | some st =>
      obtain ⟨replies, he⟩ := closeConnection_eq hl
      rw [he] at h
      cases h
      exact putStream_tunables _ _ _

variable (hS : S.KeepsSockets)

include hS

theorem handleCommand_tunables (hs : Slotted rt) {dnsServers : List IpAddress}
    {tcpBufferSize draw : Nat} {cmd : ManagerCommand}
    (h : rt.handleCommand H dnsServers tcpBufferSize draw cmd = .ok rt') :
    rt'.tunables = rt.tunables := by
  cases cmd with
  | connect remoteIp remotePort localPort reservedSlot response =>
      obtain ⟨⟨result, rt₁⟩, hcreate, h⟩ := Outcome.bind_eq_ok.mp h
      cases h
      rw [sendConnected_tunables, createConnection_tunables hcreate]
  | close handle source => exact closeConnection_tunables h
  | dnsResolve domain preferIpv6 response =>
      simp only [handleCommand] at h
      split at h
      · cases h
        exact reply_tunables _ _ _
      · exact ((startDnsQueryFor_settles (P := .any) hS (fun _ _ => trivial) H hs _ _ _ _ _ _
          (fun _ => trivial)).settled h).aside.tunables
  | dnsResolveAll domain response =>
      simp only [handleCommand] at h
      split at h
      · cases h
        exact reply_tunables _ _ _
      · exact ((startDnsQueryFor_settles (P := .any) hS (fun _ _ => trivial) H hs _ _ _ _ _ _
          (fun _ => trivial)).settled h).aside.tunables
  | udpRegister localPort response =>
      cases h
      exact (registerUdpSession_settled (P := .any) hS hs localPort response
        (fun _ => trivial)).aside.tunables
  | udpUnregister localPort =>
      exact ((unregisterUdpSession_settles (P := .any) trivial hs localPort).settled
        h).aside.tunables
  | getSocketState handle response source =>
      obtain ⟨_, _, rfl⟩ := getSocketState_ok h
      exact reply_tunables _ _ _
  | waitSocketReady handle response source =>
      rcases waitSocketReady_ok h with ⟨_, _, rfl⟩ | ⟨_, _, rfl⟩
      · exact reply_tunables _ _ _
      · rfl

theorem pollStackCommon_tunables (hc : Consistent rt) {full : Bool} {sweep : Option Bool}
    (h : rt.pollStackCommon H full = .ok (.polled sweep rt')) : rt'.tunables = rt.tunables := by
  simp only [pollStackCommon] at h
  split at h
  · cases h
  · next outcome stack hpoll =>
      obtain ⟨rt₁, h₁, h⟩ := Outcome.bind_eq_ok.mp h
      cases h
      have hpolled : Effect (.any S) rt { rt with stack } := .poll trivial hpoll
      have hc' := hpolled.consistent hS hc
      simp only [processStateChange] at h₁
      split at h₁
      · obtain ⟨rt₂, h₂, h₁⟩ := Outcome.bind_eq_ok.mp h₁
        have hs := ((notifyReadyWaiters_effects (R := .any S) hS hc' h₂).consistent hS hc').slotted
        have hset := (afterNotify_settles (P := .any) hS H trivial hs).settled h₁
        exact hset.aside.tunables.trans (SameTimers.notifyReadyWaiters h₂).tunables
      · cases h₁
        rfl

end RuntimeState

namespace System

open RuntimeState

variable {s t : System S}

theorem Changes.tunables (hS : S.KeepsSockets) (hc : Consistent s.rt) (h : Changes H s rt) :
    rt.tunables = s.rt.tunables ∨ rt.tunables = s.params.managerTunables := by
  cases h with
  | kept | egress _ | shared _ | evicted _ | refreshed _ => exact .inl rfl
  | command h => exact .inl (handleCommand_tunables hS hc.slotted h)
  | @udpSend cmd _ h =>
      have hset := handleUdpSend_settles (P := .any) hS hc.slotted cmd (fun _ _ _ _ => trivial)
      exact .inl (hset.settled h).aside.tunables
  | @transport _ event _ _ h =>
      refine .inl ?_
      cases event with
      | incoming data =>
          simp only [ActiveTunnel.handleTransportIoEvent,
            ActiveTunnel.handleIncomingDatagram] at h
          split at h
          · obtain ⟨rt₁, hi, h⟩ := Outcome.bind_eq_ok.mp h
            cases h
            exact injectIncoming_tunables hi
          · split at h
            · cases h
              rfl
            · obtain ⟨rt₁, hi, h⟩ := Outcome.bind_eq_ok.mp h
              cases h
              exact injectIncoming_tunables hi
      | quicFlush | masqueBlocked =>
          cases h
          rfl
  | socketEvent _ => exact .inl (handleSocketEvent_tunables _ _)
  | stream x n => exact .inl (putStream_tunables _ _ _)
  | polled h => exact .inl (pollStackCommon_tunables hS hc h)
  | swept h => exact .inl (SameTimers.pollTcpSockets h).tunables
  | transmitted results =>
      exact .inl (drainStackPackets_settled (P := .any) hc.slotted _ _).aside.tunables
  | disconnected cmd =>
      exact .inl (handleCommandDisconnected_settled (P := .any) hc.slotted cmd).aside.tunables
  | fresh mtu session shared => exact .inr rfl

-- The runtime keeps the tunables that the manager was given.
def Tuned (s : System S) : Prop := s.rt.tunables = s.params.managerTunables

theorem init_tuned (params : ConnectionParams) : (init S params).Tuned := rfl

theorem Tuned.step (hS : S.KeepsSockets) (hs : Sound s) (ht : s.Tuned) {l : Label}
    (h : System.step H s l = some t) : t.Tuned ∧ t.params = s.params := by
  obtain ⟨hparams, hchanges⟩ := step_changed h
  refine ⟨?_, hparams⟩
  rw [Tuned, hparams]
  rcases hchanges.tunables hS hs.consistent with he | he
  · exact he.trans ht
  · exact he

-- A step adds at most the entry of the connection that it opens.
theorem step_size (hS : S.KeepsSockets) (hs : Sound s) {l : Label} (h : step H s l = some t) :
    Table.size t.rt.sockets ≤ Table.size s.rt.sockets + (s.opensTcpAt l).isSome.toNat := by
  refine Table.size_le_of_lookup (fun i hi => ?_)
  have hone : ∀ u : System S, u.rt.sockets.lookup i = none ↔ u.rt.owner i = none :=
    fun u => Option.map_eq_none_iff.symm
  rw [Ne, hone] at hi ⊢
  rcases ((step_slots hS hs h).owners i).cases slotRules_tcp with he | ⟨hopens, _⟩ | hnone
  · exact .inl (he ▸ hi)
  · exact .inr hopens
  · exact absurd hnone hi

theorem opensTcpAt_some {l : Label} {i : SocketHandle} (h : s.opensTcpAt l = some i) :
    ∃ draw remoteIp remotePort localPort reservedSlot response cmdRx,
      l = .manager (.command draw) ∧
      s.cmdRx = .connect remoteIp remotePort localPort reservedSlot response :: cmdRx ∧
      Table.size s.rt.sockets < s.rt.tunables.managerMaxTcpSocketsPerWorker := by
  cases l with
  | manager choice =>
      cases choice with
      | command draw =>
          simp only [opensTcpAt] at h
          split at h
          · next hany =>
              obtain ⟨cmd, hcmd, hopens⟩ := (Option.any_eq_true _ _).mp hany
              cases cmd with
              | connect remoteIp remotePort localPort reservedSlot response =>
                  obtain ⟨cmdRx, hq⟩ := List.head?_eq_some_iff.mp hcmd
                  simp only [opensTcp, opensConnection, Bool.and_eq_true,
                    decide_eq_true_eq] at hopens
                  exact ⟨draw, _, _, _, _, _, cmdRx, rfl, hq, hopens.1⟩
              | _ => cases hopens
          · cases h
      | _ => cases h
  | _ => cases h

-- More connections are there only after a Connect that found room.
theorem step_opens (hS : S.KeepsSockets) (hs : Sound s) {l : Label} (h : step H s l = some t) :
    Table.size t.rt.sockets ≤ Table.size s.rt.sockets ∨
      Table.size t.rt.sockets ≤ Table.size s.rt.sockets + 1 ∧
        Table.size s.rt.sockets < s.rt.tunables.managerMaxTcpSocketsPerWorker ∧
        ∃ remoteIp remotePort localPort reservedSlot response,
          s.cmdRx = .connect remoteIp remotePort localPort reservedSlot response :: t.cmdRx := by
  have hsize := step_size hS hs h
  cases hopens : s.opensTcpAt l with
  | none =>
      rw [hopens] at hsize
      exact .inl hsize
  | some i =>
      rw [hopens] at hsize
      obtain ⟨draw, _, _, _, _, _, cmdRx, rfl, hq, hroom⟩ := opensTcpAt_some hopens
      obtain ⟨pc, cmd, rest, hcmd, rfl⟩ := step_command h
      rw [hq] at hcmd
      cases hcmd
      generalize s.rt.handleCommand H s.params.dnsServers s.params.tcpBufferSize draw _ = o
        at hsize ⊢
      cases o with
      | ok rt => exact .inr ⟨hsize, hroom, _, _, _, _, _, hq⟩
      | error fault => exact .inl (Nat.le_refl _)

end System

end Usque
