import Usque.Manager.CommandQueue
import Usque.Manager.DnsForms

namespace Usque

variable {S : Smoltcp} {rt rt' : RuntimeState S} {H : Hickory}

def Reply.isConnect : Reply → Bool
  | .connected _ | .connectFailed _ => true
  | _ => false

-- What the reservations are about: the slots that are taken, and the Connect commands that have got
-- their answer.
structure TcpSlots where
  pendingConnects : Nat
  answered : List OneshotId
deriving DecidableEq

namespace TcpSlots

def finish (t : TcpSlots) (reservedSlot : Bool) : TcpSlots :=
  if reservedSlot then { t with pendingConnects := t.pendingConnects - 1 } else t

-- A Connect command with this response gives back its slot, if it has one, and may be answered.
structure Handled (t t' : TcpSlots) (reservedSlot : Bool) (response : OneshotId) : Prop where
  pendingConnects : t'.pendingConnects = (t.finish reservedSlot).pendingConnects
  answered : ∀ r ∈ t'.answered, r ∈ t.answered ∨ r = response

end TcpSlots

namespace RuntimeState

def tcpSlots (rt : RuntimeState S) : TcpSlots where
  pendingConnects := rt.shared.stats.pendingConnects
  answered := (rt.shared.replies.filter (fun p => p.2.isConnect)).map Prod.fst

theorem tcpSlots_append {l : List (OneshotId × Reply)}
    (hstats : rt'.shared.stats = rt.shared.stats)
    (hreplies : rt'.shared.replies = rt.shared.replies ++ l)
    (hl : ∀ p ∈ l, p.2.isConnect = false) : rt'.tcpSlots = rt.tcpSlots := by
  have hnone : l.filter (fun p => p.2.isConnect) = [] :=
    List.filter_eq_nil_iff.mpr (fun p hp => by rw [hl p hp]; nofun)
  simp only [tcpSlots, hstats, hreplies, List.filter_append, hnone, List.append_nil]

@[simp] theorem putStream_tcpSlots (rt : RuntimeState S) (x : StreamId)
    (n : SocketStreamHandle.Notified) : (rt.putStream x n).tcpSlots = rt.tcpSlots := by
  rw [putStream_eq]
  rfl

theorem reply_tcpSlots (rt : RuntimeState S) (response : OneshotId) {value : Reply}
    (hv : value.isConnect = false) : (rt.reply response value).tcpSlots = rt.tcpSlots := by
  rw [reply_eq]
  refine tcpSlots_append rfl rfl (fun p hp => ?_)
  split_ifs at hp
  · cases hp
  · rw [List.mem_singleton.mp hp]
    exact hv

theorem replyAll_tcpSlots (rt : RuntimeState S) (responses : List OneshotId) {value : Reply}
    (hv : value.isConnect = false) : (rt.replyAll responses value).tcpSlots = rt.tcpSlots := by
  induction responses generalizing rt with
  | nil => rfl
  | cons response responses ih => exact (ih _).trans (reply_tcpSlots rt response hv)

@[simp] theorem finishReserved_tcpSlots (rt : RuntimeState S) (reservedSlot : Bool) :
    (rt.finishReserved reservedSlot).tcpSlots = rt.tcpSlots.finish reservedSlot := by
  cases reservedSlot with
  | false => rfl
  | true =>
      simp only [finishReserved, ManagerRuntimeStats.finishReservedTcpConnect, if_true]
      split_ifs with h
      · simp only [tcpSlots, TcpSlots.finish, setStats, h, if_true]
      · rfl

@[simp] theorem enqueueReadyTcpHandle_tcpSlots (rt : RuntimeState S) (handle : SocketHandle) :
    (rt.enqueueReadyTcpHandle handle).tcpSlots = rt.tcpSlots := by
  simp only [enqueueReadyTcpHandle]
  split <;> rfl

@[simp] theorem syncSocketPollInterest_tcpSlots (rt : RuntimeState S) (handle : SocketHandle) :
    (rt.syncSocketPollInterest handle).tcpSlots = rt.tcpSlots := by
  simp only [syncSocketPollInterest]
  split <;> rfl

theorem handleSocketEvent_tcpSlots (rt : RuntimeState S) (event : SocketEvent) :
    (rt.handleSocketEvent event).tcpSlots = rt.tcpSlots := by
  simp only [handleSocketEvent, enqueueReadyTcpHandle_tcpSlots, syncSocketPollInterest_tcpSlots]
  rfl

theorem injectIncoming_tcpSlots {packet : Packet} (h : rt.injectIncoming packet = .ok rt') :
    rt'.tcpSlots = rt.tcpSlots := by
  obtain ⟨stack, _, h⟩ := Outcome.bind_eq_ok.mp h
  cases h
  show (rt.noteIncomingTcpHandle packet).tcpSlots = rt.tcpSlots
  simp only [noteIncomingTcpHandle]
  split
  · rfl
  · exact enqueueReadyTcpHandle_tcpSlots _ _

theorem handleTransportIoEvent_tcpSlots {tunnel : ActiveTunnel} {decrypted : Option Packet}
    {event : TransportIoEvent} {ingress : Bool}
    (h : tunnel.handleTransportIoEvent rt decrypted event = .ok (ingress, rt')) :
    rt'.tcpSlots = rt.tcpSlots := by
  cases event with
  | incoming data =>
      simp only [ActiveTunnel.handleTransportIoEvent, ActiveTunnel.handleIncomingDatagram] at h
      split at h
      · obtain ⟨rt₁, hi, h⟩ := Outcome.bind_eq_ok.mp h
        cases h
        exact injectIncoming_tcpSlots hi
      · split at h
        · cases h
          rfl
        · obtain ⟨rt₁, hi, h⟩ := Outcome.bind_eq_ok.mp h
          cases h
          exact injectIncoming_tcpSlots hi
  | quicFlush | masqueBlocked =>
      cases h
      rfl

theorem withDns_tcpSlots (rt : RuntimeState S) (queries : Table UInt16 DnsQueryState)
    (groups : Table UInt32 DnsQueryGroup) (cache : DnsCache) {replies : List (OneshotId × Reply)}
    (h : ∀ p ∈ replies, p.2.isConnect = false) :
    (rt.withDns queries groups cache replies).tcpSlots = rt.tcpSlots :=
  tcpSlots_append rfl rfl h

theorem deliver_isConnect {response : OneshotId} {value : Reply} (hv : value.isConnect = false) :
    ∀ p ∈ rt.deliver response value, p.2.isConnect = false := by
  intro p hp
  simp only [deliver] at hp
  split_ifs at hp
  · cases hp
  · rw [List.mem_singleton.mp hp]
    exact hv

theorem tryResolveDnsGroup_tcpSlots (rt : RuntimeState S) (groupId : UInt32) :
    (rt.tryResolveDnsGroup groupId).tcpSlots = rt.tcpSlots := by
  cases hl : rt.dnsGroups.lookup groupId with
  | none => rw [tryResolveDnsGroup_none hl]
  | some group =>
      rw [tryResolveDnsGroup_eq hl]
      refine withDns_tcpSlots rt _ _ _ (fun p hp => ?_)
      rcases List.mem_append.mp hp with hone | hall
      · simp only [oneReplies] at hone
        split at hone
        · exact deliver_isConnect rfl p hone
        · cases hone
      · split_ifs at hall
        · simp only [allReplies] at hall
          split at hall
          · cases hall
          · exact deliver_isConnect rfl p hall
        · cases hall

theorem expireDnsGroup_tcpSlots (rt : RuntimeState S) (groupId : UInt32) :
    (rt.expireDnsGroup groupId).tcpSlots = rt.tcpSlots := by
  cases hl : rt.dnsGroups.lookup groupId with
  | none => rw [expireDnsGroup_none hl]
  | some group =>
      rw [expireDnsGroup_eq hl]
      refine withDns_tcpSlots rt _ _ _ (fun p hp => ?_)
      simp only [timeoutReplies] at hp
      rcases List.mem_append.mp hp with h | h
      · obtain ⟨r, _, hr⟩ := List.mem_flatMap.mp h
        exact deliver_isConnect rfl p hr
      · obtain ⟨r, _, hr⟩ := List.mem_flatMap.mp h
        exact deliver_isConnect rfl p hr

theorem expireDnsGroups_tcpSlots (rt : RuntimeState S) :
    rt.expireDnsGroups.tcpSlots = rt.tcpSlots := by
  simp only [expireDnsGroups]
  refine List.foldlRecOn (motive := fun rt' : RuntimeState S => rt'.tcpSlots = rt.tcpSlots)
    _ _ rfl ?_
  intro rt' h groupId _
  exact (expireDnsGroup_tcpSlots rt' groupId).trans h

theorem buildUniqueDnsQuery_tcpSlots (H : Hickory) (rt : RuntimeState S) (domain : String)
    (recordType : DnsRecordType) (tries : Nat) :
    (rt.buildUniqueDnsQuery H domain recordType tries).2.tcpSlots = rt.tcpSlots := by
  obtain ⟨statics, hstatics⟩ := buildUniqueDnsQuery_statics H rt domain recordType tries
  rw [hstatics]
  rfl

theorem dispatchDnsQuery_tcpSlots {groupId : UInt32} {domain : String} {dnsHandle : SocketHandle}
    {dnsServer : IpAddress} {queryType : DnsRecordType} {logLabel : String}
    (h : rt.dispatchDnsQuery H groupId domain dnsHandle dnsServer queryType logLabel = .ok rt') :
    rt'.tcpSlots = rt.tcpSlots := by
  have hb := buildUniqueDnsQuery_tcpSlots H rt domain queryType 65536
  simp only [dispatchDnsQuery] at h
  split at h
  · next e rt₁ he =>
      rw [he] at hb
      cases h
      exact (tryResolveDnsGroup_tcpSlots _ _).trans hb
  · next txId packet rt₁ he =>
      rw [he] at hb
      obtain ⟨⟨sent, stack⟩, _, h⟩ := Outcome.bind_eq_ok.mp h
      dsimp only at h
      split at h
      · cases h
        exact hb
      · cases h
        exact (tryResolveDnsGroup_tcpSlots _ _).trans hb

theorem selectDnsServer_tcpSlots (rt : RuntimeState S) (dnsServers : List IpAddress)
    (preferIpv6 : Bool) : (rt.selectDnsServer dnsServers preferIpv6).2.tcpSlots = rt.tcpSlots := by
  cases dnsServers <;> rfl

theorem ensureSocket_tcpSlots (rt : RuntimeState S) (server : IpAddress) :
    (rt.ensureSocket server).2.tcpSlots = rt.tcpSlots := by
  simp only [ensureSocket]
  split
  · rfl
  · split <;> rfl

theorem startDnsQueryFor_tcpSlots {domain : String} {preferIpv6 resolveAll : Bool}
    {response responseAll : Option OneshotId} {dnsServers : List IpAddress}
    (h : rt.startDnsQueryFor H domain preferIpv6 resolveAll response responseAll dnsServers =
      .ok rt') : rt'.tcpSlots = rt.tcpSlots := by
  simp only [startDnsQueryFor] at h
  generalize hg : (rt.insertDnsGroup domain preferIpv6 response responseAll).2 = rt₁ at h
  have h₁ : rt₁.tcpSlots = rt.tcpSlots := hg ▸ rfl
  generalize hsel : rt₁.selectDnsServer dnsServers preferIpv6 = sel at h
  have h₂ : sel.2.tcpSlots = rt.tcpSlots := by
    rw [← hsel]
    exact (selectDnsServer_tcpSlots rt₁ dnsServers preferIpv6).trans h₁
  have h₃ := (ensureSocket_tcpSlots sel.2 sel.1).trans h₂
  split at h
  · next e rt₃ he =>
      rw [he] at h₃
      cases h
      exact (tryResolveDnsGroup_tcpSlots _ _).trans h₃
  · next handle rt₃ he =>
      rw [he] at h₃
      exact Outcome.run_invariant (P := fun rt' : RuntimeState S => rt'.tcpSlots = rt.tcpSlots)
        (fun _ _ _ hp hr => (dispatchDnsQuery_tcpSlots hr).trans hp) h h₃

theorem acceptDnsResponse_tcpSlots (H : Hickory) (rt : RuntimeState S) (data : List UInt8) :
    (rt.acceptDnsResponse H data).tcpSlots = rt.tcpSlots := by
  rcases acceptDnsResponse_cases H rt data with he | ⟨_, _, _, _, _, he⟩
  · rw [he]
  · rw [he]
    exact tryResolveDnsGroup_tcpSlots _ _

theorem receiveDnsResponses_tcpSlots {handle : SocketHandle} {fuel : Nat}
    (h : receiveDnsResponses H handle fuel rt = .ok rt') : rt'.tcpSlots = rt.tcpSlots := by
  induction fuel generalizing rt with
  | zero => cases h
  | succ fuel ih =>
      obtain ⟨can, _, h⟩ := Outcome.bind_eq_ok.mp h
      split at h
      · cases h
        rfl
      · obtain ⟨⟨received, stack⟩, _, h⟩ := Outcome.bind_eq_ok.mp h
        dsimp only at h
        split at h
        · cases h
          rfl
        · split at h
          · have hrest := ih h
            exact hrest
          · exact (ih h).trans (acceptDnsResponse_tcpSlots H { rt with stack } _)

theorem processDnsResponses_tcpSlots (h : rt.processDnsResponses H = .ok rt') :
    rt'.tcpSlots = rt.tcpSlots :=
  Outcome.run_invariant (P := fun rt' => rt'.tcpSlots = rt.tcpSlots)
    (fun _ _ _ hp hr => (receiveDnsResponses_tcpSlots hr).trans hp) h rfl

theorem processUdpResponse_tcpSlots {localPort : UInt16}
    (h : rt.processUdpResponse localPort = .ok rt') : rt'.tcpSlots = rt.tcpSlots := by
  simp only [processUdpResponse] at h
  split at h
  · cases h
    rfl
  · obtain ⟨can, _, h⟩ := Outcome.bind_eq_ok.mp h
    split at h
    · cases h
      rfl
    · obtain ⟨⟨received, stack⟩, _, h⟩ := Outcome.bind_eq_ok.mp h
      dsimp only at h
      split at h
      · cases h
        rfl
      · split at h <;> cases h <;> rfl

theorem processUdpResponses_tcpSlots (h : rt.processUdpResponses = .ok rt') :
    rt'.tcpSlots = rt.tcpSlots :=
  Outcome.run_invariant (P := fun rt' => rt'.tcpSlots = rt.tcpSlots)
    (fun _ _ _ hp hr => (processUdpResponse_tcpSlots hr).trans hp) h rfl

theorem closeUdpSession_tcpSlots {localPort : UInt16}
    (h : rt.closeUdpSession localPort = .ok rt') : rt'.tcpSlots = rt.tcpSlots := by
  simp only [closeUdpSession] at h
  split at h
  · cases h
    rfl
  · obtain ⟨stack, _, h⟩ := Outcome.bind_eq_ok.mp h
    cases h
    rfl

theorem expireUdpSessions_tcpSlots (h : rt.expireUdpSessions = .ok rt') :
    rt'.tcpSlots = rt.tcpSlots := by
  obtain ⟨rt₁, h₁, h⟩ := Outcome.bind_eq_ok.mp h
  cases h
  exact Outcome.run_invariant (P := fun rt' => rt'.tcpSlots = rt.tcpSlots)
    (fun _ _ _ hp hr => (closeUdpSession_tcpSlots hr).trans hp) h₁ rfl

theorem notifyReadyWaiters_tcpSlots (h : rt.notifyReadyWaiters = .ok rt') :
    rt'.tcpSlots = rt.tcpSlots := by
  refine notifyReadyWaiters_preserves (I := fun rt' => rt'.tcpSlots = rt.tcpSlots) ?_ ?_ h rfl
  · intro rt₁ handle st hp
    exact hp
  · intro rt₁ responses state hp
    exact (replyAll_tcpSlots rt₁ _ rfl).trans hp

theorem processStateChange_tcpSlots {changed : Bool}
    (h : rt.processStateChange H changed = .ok rt') : rt'.tcpSlots = rt.tcpSlots := by
  simp only [processStateChange] at h
  split at h
  · obtain ⟨rt₁, h₁, h⟩ := Outcome.bind_eq_ok.mp h
    obtain ⟨rt₂, h₂, h⟩ := Outcome.bind_eq_ok.mp h
    obtain ⟨rt₃, h₃, h⟩ := Outcome.bind_eq_ok.mp h
    rw [expireUdpSessions_tcpSlots h, expireDnsGroups_tcpSlots, processUdpResponses_tcpSlots h₃,
      processDnsResponses_tcpSlots h₂, notifyReadyWaiters_tcpSlots h₁]
  · cases h
    rfl

theorem pollStackCommon_tcpSlots {fullTcpSweep : Bool} {sweep : Option Bool}
    (h : rt.pollStackCommon H fullTcpSweep = .ok (.polled sweep rt')) :
    rt'.tcpSlots = rt.tcpSlots := by
  simp only [pollStackCommon] at h
  split at h
  · cases h
  · next outcome stack hpoll =>
      obtain ⟨rt₁, h₁, h⟩ := Outcome.bind_eq_ok.mp h
      cases h
      have hslots := processStateChange_tcpSlots h₁
      exact hslots

theorem serviceSocket_tcpSlots {fullSweep : Bool} {handle : SocketHandle} {st : SocketState}
    (h : rt.serviceSocket fullSweep handle st = .ok rt') : rt'.tcpSlots = rt.tcpSlots := by
  obtain ⟨v, _, rfl⟩ := serviceSocket_ok h
  rfl

theorem closeHandle_tcpSlots {handle : SocketHandle} (h : rt.closeHandle handle = .ok rt') :
    rt'.tcpSlots = rt.tcpSlots := by
  obtain ⟨stack, _, h⟩ := Outcome.bind_eq_ok.mp h
  cases h
  show (rt.releaseSocket handle).tcpSlots = rt.tcpSlots
  simp only [releaseSocket]
  split
  · rfl
  · exact replyAll_tcpSlots _ _ rfl

theorem retire_tcpSlots {handle : SocketHandle} (h : retire rt handle = .ok rt') :
    rt'.tcpSlots = rt.tcpSlots := by
  obtain ⟨rt₁, hclose, h⟩ := Outcome.bind_eq_ok.mp h
  cases h
  have hslots := closeHandle_tcpSlots hclose
  exact hslots

theorem pollTcpSockets_tcpSlots {fullSweep : Bool} (h : rt.pollTcpSockets fullSweep = .ok rt') :
    rt'.tcpSlots = rt.tcpSlots := by
  refine pollTcpSockets_relation (R := fun a b => b.tcpSlots = a.tcpSlots) (fun _ => rfl)
    (fun _ _ _ h k => k.trans h) (fun a fullSweep => ?_) (fun _ _ _ _ _ hs =>
      serviceSocket_tcpSlots hs) (fun _ _ _ hr => retire_tcpSlots hr) h
  cases fullSweep <;> rfl

theorem drainStackPackets_tcpSlots (rt : RuntimeState S) (tunnel : ActiveTunnel)
    (results : List SendResult) :
    (tunnel.drainStackPackets rt results).2.tcpSlots = rt.tcpSlots := by
  simp only [ActiveTunnel.drainStackPackets]
  split
  · rfl
  · split <;> rfl

theorem handleUdpSend_tcpSlots {cmd : UdpSend} (h : rt.handleUdpSend cmd = .ok rt') :
    rt'.tcpSlots = rt.tcpSlots := by
  simp only [handleUdpSend, sendUdpData] at h
  split at h
  · cases h
    rfl
  · obtain ⟨⟨sent, stack⟩, _, h⟩ := Outcome.bind_eq_ok.mp h
    cases h
    rfl

theorem createConnection_tcpSlots {remoteIp : IpAddress} {remotePort localPort : UInt16}
    {tcpBufferSize : Nat} {reservedSlot : Bool} {result : Except ManagerError StreamId}
    (h : rt.createConnection remoteIp remotePort localPort tcpBufferSize reservedSlot =
      .ok (result, rt')) : rt'.tcpSlots = rt.tcpSlots.finish reservedSlot := by
  rcases createConnection_ok h with ⟨_, rfl⟩ | ⟨e, stack, stack', _, _, _, rfl⟩ |
    ⟨stack, _, _, _, rfl⟩
  · exact finishReserved_tcpSlots _ _
  · exact finishReserved_tcpSlots _ _
  · rw [insertConnection_eq, finishReserved_tcpSlots]
    rfl

theorem reply_handled (rt : RuntimeState S) {t : TcpSlots} {reservedSlot : Bool}
    (h : rt.tcpSlots = t.finish reservedSlot) (response : OneshotId) (value : Reply) :
    t.Handled (rt.reply response value).tcpSlots reservedSlot response := by
  have hanswered : rt.tcpSlots.answered = t.answered := by
    rw [h]
    simp only [TcpSlots.finish]
    split_ifs <;> rfl
  constructor
  · rw [← h, reply_eq]
    rfl
  · intro r hr
    rw [reply_eq] at hr
    simp only [tcpSlots, withReplies, List.filter_append, List.map_append] at hr
    rcases List.mem_append.mp hr with hold | hnew
    · exact .inl (hanswered ▸ hold)
    · split_ifs at hnew
      · cases hnew
      · obtain ⟨p, hp, rfl⟩ := List.mem_map.mp hnew
        rw [List.mem_singleton.mp (List.mem_filter.mp hp).1]
        exact .inr rfl

theorem sendConnected_handled (rt : RuntimeState S) {t : TcpSlots} {reservedSlot : Bool}
    (h : rt.tcpSlots = t.finish reservedSlot) (response : OneshotId)
    (result : Except ManagerError StreamId) :
    t.Handled (rt.sendConnected response result).tcpSlots reservedSlot response := by
  cases result with
  | error e => exact reply_handled rt h response _
  | ok x =>
      simp only [sendConnected]
      split_ifs
      · rw [putStream_tcpSlots, h]
        refine ⟨rfl, fun r hr => .inl ?_⟩
        simp only [TcpSlots.finish] at hr
        split_ifs at hr <;> exact hr
      · exact reply_handled rt h response _

theorem closeConnection_tcpSlots {handle : SocketHandle}
    (h : rt.closeConnection handle = .ok rt') : rt'.tcpSlots = rt.tcpSlots := by
  simp only [closeConnection] at h
  split at h
  · cases h
    rw [syncSocketPollInterest_tcpSlots, replyAll_tcpSlots _ _ rfl]
    exact putStream_tcpSlots _ _ _
  · obtain ⟨stack, _, h⟩ := Outcome.bind_eq_ok.mp h
    obtain ⟨stack', _, h⟩ := Outcome.bind_eq_ok.mp h
    cases h
    rfl

theorem waitSocketReady_tcpSlots {handle : SocketHandle} {response : OneshotId}
    (h : rt.waitSocketReady handle response = .ok rt') : rt'.tcpSlots = rt.tcpSlots := by
  rcases waitSocketReady_ok h with ⟨state, _, rfl⟩ | ⟨st, _, rfl⟩
  · exact reply_tcpSlots _ _ rfl
  · rfl

theorem registerUdpSession_tcpSlots (rt : RuntimeState S) (localPort : UInt16)
    (response : OneshotId) :
    (rt.registerUdpSession localPort response).tcpSlots = rt.tcpSlots := by
  simp only [registerUdpSession]
  split
  · exact reply_tcpSlots _ _ rfl
  · exact reply_tcpSlots _ _ rfl

end RuntimeState

namespace ManagerCommand

def reservedSlot : ManagerCommand → Bool
  | .connect _ _ _ reservedSlot _ => reservedSlot
  | _ => false

def slot (cmd : ManagerCommand) : Option OneshotId :=
  if cmd.reservedSlot then cmd.response else none

theorem slot_some {cmd : ManagerCommand} {r : OneshotId} (h : cmd.slot = some r) :
    cmd.reservedSlot = true ∧ cmd.response = some r := by
  simp only [slot] at h
  split_ifs at h with hr
  exact ⟨hr, h⟩

theorem slot_none {cmd : ManagerCommand} (h : cmd.slot = none) : cmd.reservedSlot = false := by
  cases cmd with
  | connect _ _ _ reservedSlot _ =>
      cases reservedSlot with
      | false => rfl
      | true => cases h
  | _ => rfl

end ManagerCommand

namespace RuntimeState

theorem handleCommand_tcpSlots {dnsServers : List IpAddress} {tcpBufferSize draw : Nat}
    {cmd : ManagerCommand}
    (h : rt.handleCommand H dnsServers tcpBufferSize draw cmd = .ok rt') :
    rt'.tcpSlots = rt.tcpSlots ∧ cmd.reservedSlot = false ∨
      ∃ response, cmd.response = some response ∧
        rt.tcpSlots.Handled rt'.tcpSlots cmd.reservedSlot response := by
  cases cmd with
  | connect remoteIp remotePort localPort reservedSlot response =>
      obtain ⟨⟨result, rt₁⟩, h₁, h⟩ := Outcome.bind_eq_ok.mp h
      cases h
      exact .inr ⟨response, rfl,
        sendConnected_handled rt₁ (createConnection_tcpSlots h₁) response result⟩
  | close handle source => exact .inl ⟨closeConnection_tcpSlots h, rfl⟩
  | dnsResolve domain preferIpv6 response =>
      simp only [handleCommand] at h
      split at h
      · cases h
        exact .inl ⟨reply_tcpSlots _ _ rfl, rfl⟩
      · exact .inl ⟨startDnsQueryFor_tcpSlots h, rfl⟩
  | dnsResolveAll domain response =>
      simp only [handleCommand] at h
      split at h
      · cases h
        exact .inl ⟨reply_tcpSlots _ _ rfl, rfl⟩
      · exact .inl ⟨startDnsQueryFor_tcpSlots h, rfl⟩
  | udpRegister localPort response =>
      cases h
      exact .inl ⟨registerUdpSession_tcpSlots _ _ _, rfl⟩
  | udpUnregister localPort =>
      obtain ⟨rt₁, h₁, h⟩ := Outcome.bind_eq_ok.mp h
      cases h
      have hclosed := closeUdpSession_tcpSlots h₁
      exact .inl ⟨hclosed, rfl⟩
  | getSocketState handle response source =>
      obtain ⟨state, _, rfl⟩ := getSocketState_ok h
      exact .inl ⟨reply_tcpSlots _ _ rfl, rfl⟩
  | waitSocketReady handle response source => exact .inl ⟨waitSocketReady_tcpSlots h, rfl⟩

theorem handleCommandDisconnected_tcpSlots (rt : RuntimeState S) (cmd : ManagerCommand) :
    (rt.handleCommandDisconnected cmd).tcpSlots = rt.tcpSlots ∧ cmd.reservedSlot = false ∨
      ∃ response, cmd.response = some response ∧
        rt.tcpSlots.Handled (rt.handleCommandDisconnected cmd).tcpSlots cmd.reservedSlot
          response := by
  cases cmd with
  | connect remoteIp remotePort localPort reservedSlot response =>
      exact .inr ⟨response, rfl, reply_handled _ (finishReserved_tcpSlots _ _) response _⟩
  | close _ _ | udpUnregister _ => exact .inl ⟨rfl, rfl⟩
  | dnsResolve _ _ _ | dnsResolveAll _ _ | udpRegister _ _ | getSocketState _ _ _
  | waitSocketReady _ _ _ => exact .inl ⟨reply_tcpSlots _ _ rfl, rfl⟩

end RuntimeState

namespace System

open RuntimeState

variable {s t : System S} {l : Label}

-- What one step does to the slots and to the command channel.
inductive SlotStep (s t : System S) (l : Label) : Prop where
  | kept (hq : t.cmdRx = s.cmdRx) (ht : t.rt.tcpSlots = s.rt.tcpSlots)
      (hn : t.nextOneshot = s.nextOneshot)
  | reset (hs : s.connected = true) (hpc : t.pc = .disconnected) (hq : t.cmdRx = s.cmdRx)
      (ht : t.rt.tcpSlots = { s.rt.tcpSlots with pendingConnects := 0 })
      (hn : t.nextOneshot = s.nextOneshot)
  | handled (cmd : ManagerCommand) (hl : ∃ choice, l = .manager choice)
      (hq : s.cmdRx = cmd :: t.cmdRx)
      (ht : t.rt.tcpSlots = s.rt.tcpSlots ∧ cmd.reservedSlot = false ∨
        ∃ response, cmd.response = some response ∧
          s.rt.tcpSlots.Handled t.rt.tcpSlots cmd.reservedSlot response)
      (hn : t.nextOneshot = s.nextOneshot)
  | sent (cmd : ManagerCommand) (hq : t.cmdRx = s.cmdRx ++ [cmd])
      (ht : t.rt.tcpSlots = s.rt.tcpSlots) (hl : l = .submit cmd ∨ cmd.source ≠ none)
      (hn : cmd.response = none ∧ t.nextOneshot = s.nextOneshot ∨
        cmd.response = some s.nextOneshot ∧ t.nextOneshot = s.nextOneshot + 1)

theorem andThen_slotStep {α : Type} {o : Outcome α} {k : α → System S}
    (hk : ∀ a, o = .ok a → SlotStep s (k a) l) : SlotStep s (s.andThen o k) l :=
  andThen_rt (Q := fun t => SlotStep s t l) hk (fun _ => .kept rfl rfl rfl)

theorem managerStep_slotStep {choice : Choice} (h : s.managerStep H choice = some t) :
    SlotStep s t (.manager choice) := by
  cases managerStep_cases h with
  | @command _ _ cmd _ _ _ hcmd =>
      exact andThen_slotStep (fun rt hrt =>
        .handled cmd ⟨_, rfl⟩ hcmd (handleCommand_tcpSlots hrt) rfl)
  | udp => exact andThen_slotStep (fun rt hrt => .kept rfl (handleUdpSend_tcpSlots hrt) rfl)
  | incoming =>
      exact andThen_slotStep (fun r hr => .kept rfl (handleTransportIoEvent_tcpSlots hr) rfl)
  | @socketEvent _ event socketEvents =>
      have hevent := handleSocketEvent_tcpSlots { s.rt with socketEvents } event
      exact .kept rfl hevent rfl
  | teardown up =>
      refine .reset (connected_iff.mpr up) rfl rfl ?_ rfl
      exact replyAll_tcpSlots (s.rt.setStats s.rt.shared.stats.reset) _ rfl
  | polled _ _ hpoll => exact .kept rfl (pollStackCommon_tcpSlots hpoll) rfl
  | sweep => exact andThen_slotStep (fun rt hrt => .kept rfl (pollTcpSockets_tcpSlots hrt) rfl)
  | transmit => exact .kept rfl (drainStackPackets_tcpSlots _ _ _) rfl
  | @refuse cmd _ _ hcmd =>
      exact .handled cmd ⟨_, rfl⟩ hcmd (handleCommandDisconnected_tcpSlots s.rt cmd) rfl
  | turn | pollFault | egress | refresh | establish | discard => exact .kept rfl rfl rfl

theorem clientStep_slotStep {x : StreamId} {op : ClientOp} (h : s.clientStep x op = some t) :
    SlotStep s t l := by
  cases clientStep_cases h with
  | op _ _ _ => exact .kept rfl (putStream_tcpSlots s.rt x _) rfl
  | close _ => exact .sent _ rfl rfl (.inr (by simp [ManagerCommand.source])) (.inl ⟨rfl, rfl⟩)
  | ask _ hresponse hsource _ =>
      exact .sent _ rfl rfl (.inr (by simp [hsource])) (.inr ⟨hresponse _, rfl⟩)
  | finish _ => exact .kept rfl rfl rfl

theorem submit_slotStep {cmd : ManagerCommand} (h : s.submit cmd = some t) :
    SlotStep s t (.submit cmd) := by
  rcases submit_cases h with ⟨_, ⟨hresponse, rfl⟩ | ⟨hresponse, rfl⟩⟩
  · exact .sent cmd rfl rfl (.inl rfl) (.inl ⟨hresponse, rfl⟩)
  · exact .sent cmd rfl rfl (.inl rfl) (.inr ⟨hresponse, rfl⟩)

theorem step_slotStep (h : step H s l = some t) (hr : l ≠ .reserveSlot)
    (hf : l ≠ .releaseSlot) : SlotStep s t l := by
  cases l with
  | client x op => exact clientStep_slotStep h
  | submit cmd => exact submit_slotStep h
  | manager choice => exact managerStep_slotStep h
  | udpSend _ | io _ =>
      simp only [step] at h
      split at h <;> cases h
      exact .kept rfl rfl rfl
  | reserveSlot => exact absurd rfl hr
  | releaseSlot => exact absurd rfl hf
  | evict _ | tick _ | statics _ | cancel _ | receiveUdp _ | closeUdp _ =>
      cases h
      exact .kept rfl rfl rfl

-- The responses that the queued commands carry, and those of the Connect commands with a slot.
def awaited (s : System S) : List OneshotId := s.cmdRx.filterMap ManagerCommand.response

def asked (s : System S) : List OneshotId := s.cmdRx.filterMap ManagerCommand.slot

theorem asked_subset (s : System S) {r : OneshotId} (h : r ∈ s.asked) : r ∈ s.awaited := by
  obtain ⟨cmd, hcmd, hr⟩ := List.mem_filterMap.mp h
  exact List.mem_filterMap.mpr ⟨cmd, hcmd, (ManagerCommand.slot_some hr).2⟩

structure AskedOnce (s : System S) : Prop where
  distinct : s.awaited.Nodup
  fresh : ∀ r ∈ s.awaited, r < s.nextOneshot
  answered : ∀ r ∈ s.rt.tcpSlots.answered, r < s.nextOneshot ∧ r ∉ s.awaited

namespace AskedOnce

theorem init (params : ConnectionParams) : (System.init S params).AskedOnce where
  distinct := .nil
  fresh := nofun
  answered := nofun

theorem congr (h : s.AskedOnce) (hq : t.cmdRx = s.cmdRx)
    (ht : t.rt.tcpSlots.answered = s.rt.tcpSlots.answered) (hn : t.nextOneshot = s.nextOneshot) :
    t.AskedOnce where
  distinct := by
    simp only [awaited, hq]
    exact h.distinct
  fresh := by
    simp only [awaited, hq, hn]
    exact h.fresh
  answered := by
    simp only [awaited, hq, hn, ht]
    exact h.answered

theorem step (h : s.AskedOnce) (hstep : SlotStep s t l) : t.AskedOnce := by
  cases hstep with
  | kept hq ht hn => exact h.congr hq (congrArg TcpSlots.answered ht) hn
  | reset _ _ hq ht hn => exact h.congr hq (by rw [ht]) hn
  | handled cmd _ hq ht hn =>
      have hs : s.awaited = cmd.response.toList ++ t.awaited := by
        simp only [awaited, hq, List.filterMap_cons]
        cases cmd.response <;> rfl
      obtain ⟨hd, hf, ha⟩ := h
      rw [hs] at hd hf ha
      have hold : ∀ r ∈ s.rt.tcpSlots.answered, r < t.nextOneshot ∧ r ∉ t.awaited :=
        fun r hr => ⟨hn ▸ (ha r hr).1, fun hm => (ha r hr).2 (List.mem_append_right _ hm)⟩
      refine ⟨(List.nodup_append.mp hd).2.1,
        fun r hr => hn ▸ hf r (List.mem_append_right _ hr), fun r hr => ?_⟩
      rcases ht with ⟨ht, _⟩ | ⟨response, hresponse, ht⟩
      · exact hold r (ht ▸ hr)
      · rcases ht.answered r hr with hr | rfl
        · exact hold r hr
        · have hm : r ∈ cmd.response.toList := by rw [hresponse]; exact List.mem_singleton_self r
          exact ⟨hn ▸ hf r (List.mem_append_left _ hm),
            fun hm' => (List.nodup_append.mp hd).2.2 r hm r hm' rfl⟩
  | sent cmd hq ht _ hn =>
      have hs : t.awaited = s.awaited ++ cmd.response.toList := by
        simp only [awaited, hq, List.filterMap_append, List.filterMap_cons, List.filterMap_nil]
        cases cmd.response <;> rfl
      rcases hn with ⟨hr, hn⟩ | ⟨hr, hn⟩
      · rw [hr, Option.toList_none, List.append_nil] at hs
        exact ⟨hs ▸ h.distinct, hs ▸ hn ▸ h.fresh, ht ▸ hs ▸ hn ▸ h.answered⟩
      · rw [hr, Option.toList_some] at hs
        refine ⟨?_, fun r hm => ?_, fun r hm => ?_⟩
        · rw [hs]
          refine List.nodup_append.mpr ⟨h.distinct, List.nodup_singleton _, ?_⟩
          intro a ha b hb he
          have := h.fresh a ha
          rw [he, List.mem_singleton.mp hb] at this
          exact Nat.lt_irrefl _ this
        · rw [hs] at hm
          rw [hn]
          rcases List.mem_append.mp hm with hm | hm
          · exact Nat.lt_succ_of_lt (h.fresh r hm)
          · rw [List.mem_singleton.mp hm]
            exact Nat.lt_succ_self _
        · rw [ht] at hm
          obtain ⟨hlt, hnew⟩ := h.answered r hm
          rw [hn, hs]
          refine ⟨Nat.lt_succ_of_lt hlt, fun hm' => ?_⟩
          rcases List.mem_append.mp hm' with hm' | hm'
          · exact hnew hm'
          · rw [List.mem_singleton.mp hm'] at hlt
            exact Nat.lt_irrefl _ hlt

end AskedOnce

end System

end Usque
