import Usque.Manager.Changes
import Usque.Manager.UdpFamilies

namespace Usque

namespace VirtualDevice

theorem consume_queues (dev : VirtualDevice) (packet : Packet) :
    dev.txQueue <+: (dev.consume packet).txQueue := by
  simp only [consume]
  split
  · exact List.prefix_rfl
  · exact List.prefix_append _ _

theorem consumeAll_queues (dev : VirtualDevice) (packets : List Packet) :
    dev.txQueue <+: (packets.foldl consume dev).txQueue := by
  induction packets generalizing dev with
  | nil => exact List.prefix_rfl
  | cons p packets ih => exact (dev.consume_queues p).trans (ih (dev.consume p))

theorem dropOldest_txQueue {fuel : Nat} {dev dev' : VirtualDevice}
    (h : dropOldest fuel dev = .ok dev') : dev'.txQueue = dev.txQueue := by
  induction fuel generalizing dev with
  | zero => cases h
  | succ fuel ih =>
      simp only [dropOldest] at h
      split at h
      · have hrest := ih h
        exact hrest
      · cases h
        rfl

end VirtualDevice

namespace NetworkStack

variable {S : Smoltcp} {st st' st'' : NetworkStack S} {handle : SocketHandle}

-- Packets are only put at the end of tx_queue.
def Queues (st st' : NetworkStack S) : Prop := st.device.txQueue <+: st'.device.txQueue

namespace Queues

theorem refl (st : NetworkStack S) : Queues st st := List.prefix_rfl

theorem trans (h : Queues st st') (k : Queues st' st'') : Queues st st'' := List.IsPrefix.trans h k

theorem same (h : st'.device = st.device) : Queues st st' := by
  rw [Queues, h]

end Queues

theorem tcpSend_device {data : List UInt8} {r : Except StackError Nat}
    (h : st.tcpSend handle data = .ok (r, st')) : st'.device = st.device := by
  rcases tcpSend_ok h with ⟨_, _, rfl⟩ | ⟨_, _, _, rfl⟩ <;> rfl

theorem tcpRecv_device {len : Nat} {r : Except StackError (List UInt8)}
    (h : st.tcpRecv handle len = .ok (r, st')) : st'.device = st.device := by
  rcases tcpRecv_ok h with ⟨_, _, rfl⟩ | ⟨_, _, _, rfl⟩ <;> rfl

theorem tcpClose_device (h : st.tcpClose handle = .ok st') : st'.device = st.device := by
  rcases tcpClose_ok h with ⟨_, rfl⟩ | ⟨_, _, rfl⟩ <;> rfl

theorem udpSend_device {remoteIp : IpAddress} {remotePort : UInt16} {data : List UInt8}
    {r : Except StackError Unit} (h : st.udpSend handle remoteIp remotePort data = .ok (r, st')) :
    st'.device = st.device := by
  rcases udpSend_ok h with ⟨_, _, rfl⟩ | ⟨_, _, _, rfl⟩ <;> rfl

theorem udpRecv_device {len : Nat} {r : Except StackError (List UInt8 × IpEndpoint)}
    (h : st.udpRecv handle len = .ok (r, st')) : st'.device = st.device := by
  rcases udpRecv_ok h with ⟨_, _, rfl⟩ | ⟨_, _, _, rfl⟩ <;> rfl

theorem connectTcp_device {remoteIp : IpAddress} {remotePort localPort : UInt16}
    {r : Except StackError Unit}
    (h : st.connectTcp handle remoteIp remotePort localPort = .ok (r, st')) :
    st'.device = st.device := by
  rcases connectTcp_ok h with ⟨_, _, rfl⟩ | ⟨_, _, ⟨_, _, rfl⟩ | ⟨_, _, _, _, rfl⟩⟩ <;> rfl

theorem removeSocket_device (h : st.removeSocket handle = .ok st') : st'.device = st.device := by
  simp only [removeSocket] at h
  split at h
  · split at h <;> cases h
    rfl
  · cases h
    rfl

theorem bindUdpSocket_device {localAddr : IpAddress} {localPort : UInt16}
    (h : st.bindUdpSocket localAddr localPort = .ok (handle, st')) : st'.device = st.device := by
  simp only [bindUdpSocket] at h
  split at h <;> cases h
  rfl

theorem createUdpSocketFor_device {localPort : UInt16} {remoteIp : IpAddress}
    (h : st.createUdpSocketFor localPort remoteIp = .ok (handle, st')) :
    st'.device = st.device := by
  simp only [createUdpSocketFor] at h
  split at h
  · cases h
  · exact bindUdpSocket_device h

theorem createUdpSocketDefault_device {localPort : UInt16}
    (h : st.createUdpSocketDefault localPort = .ok (handle, st')) : st'.device = st.device := by
  simp only [createUdpSocketDefault] at h
  split at h
  · cases h
  · exact bindUdpSocket_device h

theorem injectPacketOwned_queues {packet : Packet} (h : st.injectPacketOwned packet = .ok st') :
    Queues st st' := by
  obtain ⟨device, hd, h⟩ := Outcome.bind_eq_ok.mp h
  cases h
  obtain ⟨device, hdrop, hd⟩ := Outcome.bind_eq_ok.mp hd
  cases hd
  rw [Queues, ← VirtualDevice.dropOldest_txQueue hdrop]

theorem pollIngressSingle_queues {now : Time} {r : PollIngressSingleResult}
    (h : st.pollIngressSingle now = .ok (r, st')) : Queues st st' := by
  simp only [pollIngressSingle] at h
  split at h
  · cases h
    exact .refl st
  · next packet device hreceive =>
      have hsame : device.txQueue = st.device.txQueue := (VirtualDevice.receive_some hreceive).2
      split at h
      · cases h
      · next result _ =>
          cases h
          rw [Queues, ← hsame]
          cases result.reply with
          | none => exact List.prefix_rfl
          | some reply => exact device.consume_queues reply

theorem pollIngress_queues {now : Time} {budget : Nat} {outcome outcome' : StackPollOutcome}
    (h : pollIngress now budget st outcome = .ok (outcome', st')) : Queues st st' := by
  induction budget generalizing st outcome with
  | zero =>
      cases h
      exact .refl _
  | succ budget ih =>
      simp only [pollIngress] at h
      split at h
      · cases h
      · next hi =>
          cases h
          exact pollIngressSingle_queues hi
      · next hi => exact (pollIngressSingle_queues hi).trans (ih h)
      · next hi => exact (pollIngressSingle_queues hi).trans (ih h)

theorem pollEgress_queues {now : Time} {changed : Bool}
    (h : st.pollEgress now = .ok (changed, st')) : Queues st st' := by
  simp only [pollEgress] at h
  split at h <;> cases h
  exact VirtualDevice.consumeAll_queues _ _

theorem pollBounded_queues {now : Time} {ingressBudget : Nat} {outcome : StackPollOutcome}
    (h : st.pollBounded now ingressBudget = .ok (outcome, st')) : Queues st st' := by
  simp only [pollBounded] at h
  split at h
  · cases h
  · next hi =>
      split at h
      · cases h
      · next he =>
          cases h
          exact (pollIngress_queues hi).trans (pollEgress_queues he)

end NetworkStack

open NetworkStack

variable {S : Smoltcp} {H : Hickory} {rt rt' : RuntimeState S} {handle : SocketHandle}

theorem flushPendingToStack_device {tcpChunkSize fuel : Nat} {st st' : NetworkStack S}
    {c c' : SocketStreamHandle}
    (h : flushPendingToStack handle tcpChunkSize fuel st c = .ok (st', c')) :
    st'.device = st.device :=
  flushPendingToStack_rule (I := fun st₁ _ => st₁.device = st.device)
    (fun _ _ _ _ _ hd hsend => (tcpSend_device hsend).trans hd) (fun _ _ _ hd => hd) h rfl

theorem fillRecvBuffer_device {tcpChunkSize fuel : Nat} {st st' : NetworkStack S}
    {c c' : SocketStreamHandle}
    (h : fillRecvBuffer handle tcpChunkSize fuel st c = .ok (st', c')) :
    st'.device = st.device :=
  fillRecvBuffer_rule (I := fun st₁ _ => st₁.device = st.device)
    (fun _ _ _ _ _ hd hrecv => (tcpRecv_device hrecv).trans hd) (fun _ _ _ hd => hd) h rfl

namespace Service

variable {fullSweep should : Bool} {tcpChunkSize : Nat} {v v' : Service S}

theorem serviceWrite_device (h : v.serviceWrite should handle tcpChunkSize = .ok v') :
    v'.stack.device = v.stack.device := by
  simp only [serviceWrite] at h
  split at h
  · obtain ⟨⟨stack, stream⟩, hf, h⟩ := Outcome.bind_eq_ok.mp h
    cases h
    exact flushPendingToStack_device hf
  · cases h
    rfl

theorem serviceRead_device (h : v.serviceRead should handle tcpChunkSize = .ok v') :
    v'.stack.device = v.stack.device := by
  simp only [serviceRead] at h
  split at h
  · obtain ⟨⟨stack, stream⟩, hf, h⟩ := Outcome.bind_eq_ok.mp h
    cases h
    exact fillRecvBuffer_device hf
  · cases h
    rfl

theorem sendFin_device (h : v.sendFin handle = .ok v') : v'.stack.device = v.stack.device := by
  obtain ⟨_, _, ⟨_, stack, hclose, rfl⟩ | ⟨_, rfl⟩⟩ := sendFin_ok h
  · exact tcpClose_device hclose
  · rfl

theorem run_device (h : v.run fullSweep handle tcpChunkSize = .ok v') :
    v'.stack.device = v.stack.device := by
  obtain ⟨p⟩ := run_passes h
  obtain ⟨_, hc⟩ := syncConnecting_ok p.connecting
  obtain ⟨mayRecv, maySend, _, _, hh⟩ := closeHalves_ok p.closing
  have hbegin : (v.begin fullSweep).stack = v.stack := by cases fullSweep <;> rfl
  have hhalves : p.halves.stack = p.filled.stack := by
    rw [hh, hc]
    rfl
  rw [sendFin_device p.fin, hhalves, serviceRead_device p.read, serviceWrite_device p.write, hbegin]

end Service

namespace RuntimeState

theorem reply_stack (rt : RuntimeState S) (response : OneshotId) (value : Reply) :
    (rt.reply response value).stack = rt.stack := by
  rw [reply_eq]
  rfl

theorem tryResolveDnsGroup_stack (rt : RuntimeState S) (groupId : UInt32) :
    (rt.tryResolveDnsGroup groupId).stack = rt.stack := by
  cases hl : rt.dnsGroups.lookup groupId with
  | none => rw [tryResolveDnsGroup_none hl]
  | some group =>
      rw [tryResolveDnsGroup_eq hl]
      rfl

theorem dispatchDnsQuery_device {groupId : UInt32} {domain : String} {dnsHandle : SocketHandle}
    {dnsServer : IpAddress} {queryType : DnsRecordType} {logLabel : String}
    (h : rt.dispatchDnsQuery H groupId domain dnsHandle dnsServer queryType logLabel = .ok rt') :
    rt'.stack.device = rt.stack.device := by
  obtain ⟨statics, hbuilt⟩ := buildUniqueDnsQuery_statics H rt domain queryType 65536
  simp only [dispatchDnsQuery] at h
  split at h
  · next e rt₁ he =>
      cases h
      rw [he] at hbuilt
      cases hbuilt
      rw [tryResolveDnsGroup_stack]
      rfl
  · next txId packet rt₁ he =>
      rw [he] at hbuilt
      cases hbuilt
      obtain ⟨⟨sent, stack⟩, hsend, h⟩ := Outcome.bind_eq_ok.mp h
      have hdevice : stack.device = rt.stack.device := udpSend_device hsend
      dsimp only at h
      split at h
      · cases h
        exact hdevice
      · cases h
        rw [tryResolveDnsGroup_stack]
        exact hdevice

theorem startDnsQueryFor_device {domain : String} {preferIpv6 resolveAll : Bool}
    {response responseAll : Option OneshotId} {dnsServers : List IpAddress}
    (h : rt.startDnsQueryFor H domain preferIpv6 resolveAll response responseAll dnsServers =
      .ok rt') : rt'.stack.device = rt.stack.device := by
  have hselect : ∀ (rt : RuntimeState S),
      (rt.selectDnsServer dnsServers preferIpv6).2.stack = rt.stack := fun rt => by
    cases dnsServers <;> rfl
  have hensure : ∀ (rt : RuntimeState S) (server : IpAddress),
      (rt.ensureSocket server).2.stack.device = rt.stack.device := by
    intro rt server
    simp only [ensureSocket]
    split
    · rfl
    · split
      · rfl
      · next hcreate => exact createUdpSocketFor_device hcreate
  simp only [startDnsQueryFor] at h
  generalize hgroup : rt.insertDnsGroup domain preferIpv6 response responseAll = group at h
  have hg : group.2.stack = rt.stack := by
    rw [← hgroup]
    rfl
  generalize hserver : group.2.selectDnsServer dnsServers preferIpv6 = server at h
  have hs : server.2.stack = rt.stack := by
    rw [← hserver, hselect, hg]
  have he := hensure server.2 server.1
  split at h
  · next e rt₁ hsocket =>
      cases h
      rw [hsocket] at he
      rw [failDnsGroup, tryResolveDnsGroup_stack]
      exact he.trans (by rw [hs])
  · next dnsHandle rt₁ hsocket =>
      rw [hsocket] at he
      refine (Outcome.run_invariant (P := fun rt₂ => rt₂.stack.device = rt₁.stack.device)
        (fun _ _ _ hp hd => (dispatchDnsQuery_device hd).trans hp) h rfl).trans (he.trans ?_)
      rw [hs]

theorem open?_device {remoteIp : IpAddress} {remotePort localPort : UInt16} {tcpBufferSize : Nat}
    {r : Except StackError Unit} {stack : NetworkStack S}
    (h : rt.open? remoteIp remotePort localPort tcpBufferSize = .ok (r, stack)) :
    stack.device = rt.stack.device := by
  have hdevice := connectTcp_device h
  exact hdevice

theorem createConnection_device {remoteIp : IpAddress} {remotePort localPort : UInt16}
    {tcpBufferSize : Nat} {reservedSlot : Bool} {result : Except ManagerError StreamId}
    (h : rt.createConnection remoteIp remotePort localPort tcpBufferSize reservedSlot =
      .ok (result, rt')) : rt'.stack.device = rt.stack.device := by
  rcases createConnection_ok h with ⟨_, rfl⟩ | ⟨_, _, stack, ho, hr, _, rfl⟩ |
    ⟨stack, ho, _, _, rfl⟩
  · rw [finishReserved_stack]
  · rw [finishReserved_stack]
    exact (removeSocket_device hr).trans (open?_device ho)
  · rw [insertConnection_eq, finishReserved_stack]
    exact open?_device ho

theorem sendConnected_stack (rt : RuntimeState S) (response : OneshotId)
    (result : Except ManagerError StreamId) :
    (rt.sendConnected response result).stack = rt.stack := by
  cases result with
  | error e => exact reply_stack _ _ _
  | ok x =>
      simp only [sendConnected]
      split
      · exact putStream_stack _ _ _
      · exact reply_stack _ _ _

theorem closeConnection_device (h : rt.closeConnection handle = .ok rt') :
    rt'.stack.device = rt.stack.device := by
  cases hl : rt.sockets.lookup handle with
  | some st => rw [closeConnection_stack hl h]
  | none =>
      simp only [closeConnection, hl] at h
      obtain ⟨stack, hclose, h⟩ := Outcome.bind_eq_ok.mp h
      obtain ⟨stack', hremove, h⟩ := Outcome.bind_eq_ok.mp h
      cases h
      exact (removeSocket_device hremove).trans (tcpClose_device hclose)

theorem registerUdpSession_device (rt : RuntimeState S) (localPort : UInt16)
    (response : OneshotId) :
    (rt.registerUdpSession localPort response).stack.device = rt.stack.device := by
  simp only [registerUdpSession]
  split
  · rw [reply_stack]
  · next hcreate =>
      rw [reply_stack]
      exact createUdpSocketDefault_device hcreate

theorem closeUdpSession_device {localPort : UInt16} (h : rt.closeUdpSession localPort = .ok rt') :
    rt'.stack.device = rt.stack.device := by
  simp only [closeUdpSession] at h
  split at h
  · cases h
    rfl
  · obtain ⟨stack, hremove, h⟩ := Outcome.bind_eq_ok.mp h
    cases h
    exact removeSocket_device hremove

theorem handleCommand_device {dnsServers : List IpAddress} {tcpBufferSize draw : Nat}
    {cmd : ManagerCommand} (h : rt.handleCommand H dnsServers tcpBufferSize draw cmd = .ok rt') :
    rt'.stack.device = rt.stack.device := by
  cases cmd with
  | connect remoteIp remotePort localPort reservedSlot response =>
      obtain ⟨⟨result, rt₁⟩, hcreate, h⟩ := Outcome.bind_eq_ok.mp h
      cases h
      rw [sendConnected_stack]
      exact createConnection_device hcreate
  | close handle source => exact closeConnection_device h
  | dnsResolve domain preferIpv6 response =>
      simp only [handleCommand] at h
      split at h
      · cases h
        rw [reply_stack]
      · exact startDnsQueryFor_device h
  | dnsResolveAll domain response =>
      simp only [handleCommand] at h
      split at h
      · cases h
        rw [reply_stack]
      · exact startDnsQueryFor_device h
  | udpRegister localPort response =>
      cases h
      exact registerUdpSession_device _ _ _
  | udpUnregister localPort =>
      obtain ⟨rt₁, hclose, h⟩ := Outcome.bind_eq_ok.mp h
      have hdevice := closeUdpSession_device hclose
      cases h
      exact hdevice
  | getSocketState handle response source =>
      obtain ⟨_, _, rfl⟩ := getSocketState_ok h
      rw [reply_stack]
  | waitSocketReady handle response source =>
      rcases waitSocketReady_ok h with ⟨_, _, rfl⟩ | ⟨_, _, rfl⟩
      · rw [reply_stack]
      · rfl

theorem handleUdpSend_device {cmd : UdpSend} (h : rt.handleUdpSend cmd = .ok rt') :
    rt'.stack.device = rt.stack.device := by
  simp only [handleUdpSend, sendUdpData] at h
  split at h
  · cases h
    rfl
  · obtain ⟨⟨_, stack⟩, hsend, h⟩ := Outcome.bind_eq_ok.mp h
    cases h
    exact udpSend_device hsend

theorem injectIncoming_queues {packet : Packet} (h : rt.injectIncoming packet = .ok rt') :
    Queues rt.stack rt'.stack := by
  obtain ⟨stack, hinject, h⟩ := Outcome.bind_eq_ok.mp h
  cases h
  have hq := injectPacketOwned_queues hinject
  rwa [noteIncomingTcpHandle_stack] at hq

theorem receiveDnsResponses_device {fuel : Nat}
    (h : receiveDnsResponses H handle fuel rt = .ok rt') :
    rt'.stack.device = rt.stack.device := by
  have haccept : ∀ (rt : RuntimeState S) (data : List UInt8),
      (rt.acceptDnsResponse H data).stack = rt.stack := by
    intro rt data
    rcases acceptDnsResponse_cases H rt data with he | ⟨_, _, query, _, _, he⟩
    · rw [he]
    · rw [he, tryResolveDnsGroup_stack]
      rfl
  induction fuel generalizing rt with
  | zero => cases h
  | succ fuel ih =>
      simp only [receiveDnsResponses] at h
      obtain ⟨can, _, h⟩ := Outcome.bind_eq_ok.mp h
      split_ifs at h
      · cases h
        rfl
      · obtain ⟨⟨received, stack⟩, hrecv, h⟩ := Outcome.bind_eq_ok.mp h
        have hdevice : stack.device = rt.stack.device := udpRecv_device hrecv
        dsimp only at h
        split at h
        · cases h
          exact hdevice
        · split_ifs at h
          · exact (ih h).trans hdevice
          · refine (ih h).trans ?_
            rw [haccept]
            exact hdevice

theorem processUdpResponse_device {localPort : UInt16}
    (h : rt.processUdpResponse localPort = .ok rt') : rt'.stack.device = rt.stack.device := by
  simp only [processUdpResponse] at h
  split at h
  · cases h
    rfl
  · obtain ⟨can, _, h⟩ := Outcome.bind_eq_ok.mp h
    split_ifs at h
    · cases h
      rfl
    · obtain ⟨⟨received, stack⟩, hrecv, h⟩ := Outcome.bind_eq_ok.mp h
      have hdevice : stack.device = rt.stack.device := udpRecv_device hrecv
      dsimp only at h
      split at h
      · cases h
        exact hdevice
      · split_ifs at h <;> cases h <;> exact hdevice

theorem expireDnsGroups_stack (rt : RuntimeState S) : rt.expireDnsGroups.stack = rt.stack := by
  refine List.foldlRecOn (motive := fun rt₁ : RuntimeState S => rt₁.stack = rt.stack) _ _ rfl
    (fun rt₁ h groupId _ => ?_)
  cases hl : rt₁.dnsGroups.lookup groupId with
  | none => rw [expireDnsGroup_none hl, h]
  | some group =>
      rw [expireDnsGroup_eq hl]
      exact h

theorem processStateChange_device {changed : Bool}
    (h : rt.processStateChange H changed = .ok rt') : rt'.stack.device = rt.stack.device := by
  simp only [processStateChange] at h
  split at h
  · obtain ⟨rt₁, h₁, h⟩ := Outcome.bind_eq_ok.mp h
    obtain ⟨rt₂, h₂, h⟩ := Outcome.bind_eq_ok.mp h
    obtain ⟨rt₃, h₃, h⟩ := Outcome.bind_eq_ok.mp h
    obtain ⟨rt₄, h₄, h⟩ := Outcome.bind_eq_ok.mp h
    cases h
    have hd₁ : rt₁.stack.device = rt.stack.device :=
      notifyReadyWaiters_preserves (I := fun rt₁ => rt₁.stack.device = rt.stack.device)
        (fun _ _ _ hp => hp) (fun _ _ _ hp => by rw [replyAll_eq]; exact hp) h₁ rfl
    have hd₂ : rt₂.stack.device = rt₁.stack.device :=
      Outcome.run_invariant (P := fun rt₂ => rt₂.stack.device = rt₁.stack.device)
        (fun _ _ _ hp hr => (receiveDnsResponses_device hr).trans hp) h₂ rfl
    have hd₃ : rt₃.stack.device = rt₂.stack.device :=
      Outcome.run_invariant (P := fun rt₃ => rt₃.stack.device = rt₂.stack.device)
        (fun _ _ _ hp hu => (processUdpResponse_device hu).trans hp) h₃ rfl
    have hd₄ : rt₄.stack.device = rt₃.stack.device :=
      Outcome.run_invariant (P := fun rt₄ => rt₄.stack.device = rt₃.stack.device)
        (fun _ _ _ hp hc => (closeUdpSession_device hc).trans hp) h₄
        (by rw [expireDnsGroups_stack])
    exact hd₄.trans (hd₃.trans (hd₂.trans hd₁))
  · cases h
    rfl

theorem pollStackCommon_queues {full : Bool} {sweep : Option Bool}
    (h : rt.pollStackCommon H full = .ok (.polled sweep rt')) : Queues rt.stack rt'.stack := by
  simp only [pollStackCommon] at h
  split at h
  · cases h
  · next hpoll =>
      obtain ⟨rt₁, h₁, h⟩ := Outcome.bind_eq_ok.mp h
      cases h
      exact (pollBounded_queues hpoll).trans (.same (processStateChange_device h₁))

theorem pollTcpSockets_device {fullSweep : Bool} (h : rt.pollTcpSockets fullSweep = .ok rt') :
    rt'.stack.device = rt.stack.device := by
  refine pollTcpSockets_relation
    (R := fun rt₁ rt₂ : RuntimeState S => rt₂.stack.device = rt₁.stack.device)
    (fun _ => rfl) (fun _ _ _ h₁ h₂ => h₂.trans h₁) (fun rt₁ full => ?_)
    (fun _ _ _ _ _ hs => ?_) (fun _ _ _ hr => removeSocket_device (retire_stack hr)) h
  · cases full <;> rfl
  · obtain ⟨v, hv, rfl⟩ := serviceSocket_ok hs
    exact Service.run_device hv

theorem handleCommandDisconnected_stack (rt : RuntimeState S) (cmd : ManagerCommand) :
    (rt.handleCommandDisconnected cmd).stack = rt.stack := by
  cases cmd with
  | connect remoteIp remotePort localPort reservedSlot response =>
      rw [handleCommandDisconnected, reply_stack, finishReserved_stack]
  | close _ _ | udpUnregister _ => rfl
  | dnsResolve _ _ _ | dnsResolveAll _ _ | udpRegister _ _ | getSocketState _ _ _
  | waitSocketReady _ _ _ => exact reply_stack _ _ _

end RuntimeState

namespace ActiveTunnel

theorem handleTransportIoEvent_queues {tunnel : ActiveTunnel} {decrypted : Option Packet}
    {event : TransportIoEvent} {ingress : Bool}
    (h : tunnel.handleTransportIoEvent rt decrypted event = .ok (ingress, rt')) :
    Queues rt.stack rt'.stack := by
  cases event with
  | incoming data =>
      simp only [handleTransportIoEvent, handleIncomingDatagram] at h
      split at h
      · obtain ⟨rt₁, hinject, h⟩ := Outcome.bind_eq_ok.mp h
        cases h
        exact RuntimeState.injectIncoming_queues hinject
      · split at h
        · cases h
          exact .refl _
        · obtain ⟨rt₁, hinject, h⟩ := Outcome.bind_eq_ok.mp h
          cases h
          exact RuntimeState.injectIncoming_queues hinject
  | quicFlush | masqueBlocked =>
      cases h
      exact .refl _

end ActiveTunnel

def Label.isTransmit : Label → Bool
  | .manager (.transmit _) => true
  | _ => false

namespace System

open RuntimeState

variable {s t : System S} {l : Label}

theorem andThen_queues {α : Type} {o : Outcome α} {k : α → System S}
    (hk : ∀ a, o = .ok a → Queues s.rt.stack (k a).rt.stack) :
    Queues s.rt.stack (s.andThen o k).rt.stack :=
  andThen_rt (Q := fun t => Queues s.rt.stack t.rt.stack) hk (fun _ => .refl _)

theorem managerStep_queues {choice : Choice} (hc : (Label.manager choice).isTransmit = false)
    (hs : s.connected = true) (ht : t.connected = true) (h : s.managerStep H choice = some t) :
    Queues s.rt.stack t.rt.stack := by
  cases managerStep_cases h with
  | command => exact andThen_queues (fun rt hrt => .same (handleCommand_device hrt))
  | udp => exact andThen_queues (fun rt hrt => .same (handleUdpSend_device hrt))
  | incoming =>
      exact andThen_queues (fun r hr => ActiveTunnel.handleTransportIoEvent_queues hr)
  | socketEvent => exact .same (by rw [handleSocketEvent_stack])
  | polled _ _ hpoll => exact pollStackCommon_queues hpoll
  | sweep => exact andThen_queues (fun rt hrt => .same (pollTcpSockets_device hrt))
  | egress _ _ hpoll => exact pollEgress_queues hpoll
  | transmit => cases hc
  | teardown => cases ht
  | establish down | refuse down _ | discard down _ =>
      rw [connected_iff, down] at hs
      cases hs
  | turn | pollFault | refresh => exact .refl _

-- While the tunnel is up only a transmit takes packets out of tx_queue.
theorem step_queues (hl : l.isTransmit = false) (hs : s.connected = true)
    (ht : t.connected = true) (h : step H s l = some t) : Queues s.rt.stack t.rt.stack := by
  cases l with
  | manager choice => exact managerStep_queues hl hs ht h
  | client x op =>
      cases clientStep_cases h with
      | op _ _ _ => exact .same (congrArg _ (putStream_stack s.rt x _))
      | close _ | ask _ _ _ _ | finish _ => exact .refl _
  | submit cmd => exact .same (by rw [submit_rt h])
  | udpSend cmd =>
      simp only [step] at h
      split at h <;> cases h
      exact .refl _
  | io event =>
      simp only [step] at h
      split at h <;> cases h
      exact .refl _
  | evict _ | reserveSlot | releaseSlot | tick _ | statics _ | cancel _ | receiveUdp _
  | closeUdp _ =>
      cases h
      exact .refl _

end System

end Usque
