import Usque.Manager.UdpTable

namespace Usque

variable {S : Smoltcp} {rt rt' : RuntimeState S}

theorem NetworkStack.Keeps.udpAt {st st' : NetworkStack S} (h : NetworkStack.Keeps st st')
    (i : SocketHandle) : st'.udpAt i = st.udpAt i := by
  simp only [NetworkStack.udpAt, h.kindAt]

namespace RuntimeState

def udpTable (rt : RuntimeState S) : UdpTable where
  bound := rt.stack.udpAt
  sessions := fun port => (rt.udpSessions.lookup port).map (fun se => (se.handle, se.toClient))
  ports := rt.udpPorts
  dns := rt.dnsSockets.slot
  nextChannel := rt.shared.nextChannel

theorem udpTable_setStack (rt : RuntimeState S) {stack : NetworkStack S}
    (h : ∀ i, stack.udpAt i = rt.stack.udpAt i) : { rt with stack }.udpTable = rt.udpTable := by
  simp only [udpTable]
  rw [show stack.udpAt = rt.stack.udpAt from funext h]

@[simp] theorem putStream_udpTable (rt : RuntimeState S) (x : StreamId)
    (n : SocketStreamHandle.Notified) : (rt.putStream x n).udpTable = rt.udpTable := by
  simp only [putStream]
  split <;> rfl

@[simp] theorem reply_udpTable (rt : RuntimeState S) (response : OneshotId) (value : Reply) :
    (rt.reply response value).udpTable = rt.udpTable := by
  simp only [reply]
  split <;> rfl

@[simp] theorem replyAll_udpTable (rt : RuntimeState S) (responses : List OneshotId)
    (value : Reply) : (rt.replyAll responses value).udpTable = rt.udpTable := by
  induction responses generalizing rt with
  | nil => rfl
  | cons response responses ih => exact (ih _).trans (reply_udpTable rt response value)

@[simp] theorem finishReserved_udpTable (rt : RuntimeState S) (reservedSlot : Bool) :
    (rt.finishReserved reservedSlot).udpTable = rt.udpTable := by
  simp only [finishReserved]
  split <;> rfl

@[simp] theorem enqueueReadyTcpHandle_udpTable (rt : RuntimeState S) (handle : SocketHandle) :
    (rt.enqueueReadyTcpHandle handle).udpTable = rt.udpTable := by
  simp only [enqueueReadyTcpHandle]
  split <;> rfl

@[simp] theorem syncSocketPollInterest_udpTable (rt : RuntimeState S) (handle : SocketHandle) :
    (rt.syncSocketPollInterest handle).udpTable = rt.udpTable := by
  simp only [syncSocketPollInterest]
  split <;> rfl

@[simp] theorem handleSocketEvent_udpTable (rt : RuntimeState S) (event : SocketEvent) :
    (rt.handleSocketEvent event).udpTable = rt.udpTable := by
  simp only [handleSocketEvent, enqueueReadyTcpHandle_udpTable, syncSocketPollInterest_udpTable]
  rfl

@[simp] theorem noteIncomingTcpHandle_udpTable (rt : RuntimeState S) (packet : Packet) :
    (rt.noteIncomingTcpHandle packet).udpTable = rt.udpTable := by
  simp only [noteIncomingTcpHandle]
  split
  · rfl
  · simp only [markReadyTcpHandle, enqueueReadyTcpHandle_udpTable]
    rfl

theorem injectIncoming_udpTable {packet : Packet} (h : rt.injectIncoming packet = .ok rt') :
    rt'.udpTable = rt.udpTable := by
  obtain ⟨stack, hst, h⟩ := Outcome.bind_eq_ok.mp h
  cases h
  rw [udpTable_setStack _ (NetworkStack.injectPacketOwned_keeps hst).udpAt]
  exact noteIncomingTcpHandle_udpTable rt packet

theorem handleTransportIoEvent_udpTable {tunnel : ActiveTunnel} {decrypted : Option Packet}
    {event : TransportIoEvent} {ingress : Bool}
    (h : tunnel.handleTransportIoEvent rt decrypted event = .ok (ingress, rt')) :
    rt'.udpTable = rt.udpTable := by
  cases event with
  | incoming data =>
      simp only [ActiveTunnel.handleTransportIoEvent, ActiveTunnel.handleIncomingDatagram] at h
      split at h
      · obtain ⟨rt₁, hi, h⟩ := Outcome.bind_eq_ok.mp h
        cases h
        exact injectIncoming_udpTable hi
      · split at h
        · cases h
          rfl
        · obtain ⟨rt₁, hi, h⟩ := Outcome.bind_eq_ok.mp h
          cases h
          exact injectIncoming_udpTable hi
  | quicFlush =>
      cases h
      rfl
  | masqueBlocked =>
      cases h
      rfl

@[simp] theorem sendConnected_udpTable (rt : RuntimeState S) (response : OneshotId)
    (result : Except ManagerError StreamId) :
    (rt.sendConnected response result).udpTable = rt.udpTable := by
  cases result with
  | error e => exact reply_udpTable _ _ _
  | ok x =>
      simp only [sendConnected]
      split
      · exact putStream_udpTable _ _ _
      · exact reply_udpTable _ _ _

theorem removeFresh_udpAt (hw : rt.stack.WellFormed) {stack stack' : NetworkStack S}
    {handle : SocketHandle} (ho : NetworkStack.Opens rt.stack stack handle .tcp)
    (hr : stack.removeSocket handle = .ok stack') (i : SocketHandle) :
    stack'.udpAt i = rt.stack.udpAt i := by
  have hf := NetworkStack.removeSocket_frees (ho.wellFormed hw) hr
  rw [NetworkStack.udpAt, hf.kindAt]
  split_ifs with hi
  · rw [hi, NetworkStack.udpAt, ho.fresh]
  · exact ho.udpAt_tcp i

theorem createConnection_udpTable (hw : rt.stack.WellFormed) {remoteIp : IpAddress}
    {remotePort localPort : UInt16} {tcpBufferSize : Nat} {reservedSlot : Bool}
    {result : Except ManagerError StreamId}
    (h : rt.createConnection remoteIp remotePort localPort tcpBufferSize reservedSlot =
      .ok (result, rt')) : rt'.udpTable = rt.udpTable := by
  rcases createConnection_ok h with ⟨_, rfl⟩ | ⟨e, stack, stack', ho, hr, _, rfl⟩ |
    ⟨stack, ho, _, _, rfl⟩
  · exact finishReserved_udpTable _ _
  · rw [finishReserved_udpTable]
    exact udpTable_setStack _ (removeFresh_udpAt hw (open?_opens ho) hr)
  · rw [insertConnection_eq, finishReserved_udpTable]
    exact udpTable_setStack _ (open?_opens ho).udpAt_tcp

-- Removing a slot that is empty or holds a TCP socket leaves the UDP sockets.
theorem removeTcp_udpAt {st st' : NetworkStack S} {handle : SocketHandle} (hw : st.WellFormed)
    (hn : st.udpAt handle = none) (h : st.removeSocket handle = .ok st') (i : SocketHandle) :
    st'.udpAt i = st.udpAt i := by
  have hf := NetworkStack.removeSocket_frees hw h
  by_cases hi : i = handle
  · rw [hi, hn, NetworkStack.udpAt, hf.kindAt, if_pos rfl]
    rfl
  · rw [NetworkStack.udpAt, NetworkStack.udpAt, hf.kindAt, if_neg hi]

theorem notUdp.udpAt {handle : SocketHandle} (h : rt.notUdp handle) :
    rt.stack.udpAt handle = none := by
  rcases h with hk | hk
  · rw [NetworkStack.udpAt, hk]
    rfl
  · rw [NetworkStack.udpAt, hk]
    rfl

theorem closeConnection_udpTable (hs : Slotted rt) {handle : SocketHandle}
    (h : rt.closeConnection handle = .ok rt') : rt'.udpTable = rt.udpTable := by
  cases hl : rt.sockets.lookup handle with
  | some st =>
      obtain ⟨replies, he⟩ := closeConnection_eq hl
      rw [he] at h
      cases h
      exact putStream_udpTable rt st.stream _
  | none =>
      simp only [closeConnection, hl] at h
      obtain ⟨stack, hclose, h⟩ := Outcome.bind_eq_ok.mp h
      obtain ⟨stack', hr, h⟩ := Outcome.bind_eq_ok.mp h
      cases h
      have hk := NetworkStack.tcpClose_keeps hclose
      have hn : stack.udpAt handle = none := by
        rcases NetworkStack.tcpClose_ok hclose with ⟨hv, _⟩ | ⟨s, hx, _⟩
        · rw [hk.udpAt, NetworkStack.udpAt]
          have : rt.stack.kindAt handle = none := by
            by_contra hne
            exact hv ((hs.wellFormed handle).mpr hne)
          rw [this]
          rfl
        · rw [hk.udpAt, NetworkStack.udpAt, hx.kindAt]
          rfl
      exact udpTable_setStack _ (fun i =>
        (removeTcp_udpAt (hk.wellFormed hs.wellFormed) hn hr i).trans (hk.udpAt i))

theorem serviceSocket_udpTable {fullSweep : Bool} {handle : SocketHandle} {st : SocketState}
    (h : rt.serviceSocket fullSweep handle st = .ok rt') : rt'.udpTable = rt.udpTable := by
  obtain ⟨v, hv, rfl⟩ := serviceSocket_ok h
  exact udpTable_setStack _ (Service.run_frame hv).touches.keeps.udpAt

theorem retire_udpTable (hc : Consistent rt) {handle : SocketHandle} (hu : rt.notUdp handle)
    (h : rt.retire handle = .ok rt') : rt'.udpTable = rt.udpTable := by
  have hr := retire_retired hc h
  have hlists : rt'.udpPorts = rt.udpPorts ∧ rt'.shared.nextChannel = rt.shared.nextChannel := by
    simp only [retire, closeHandle] at h
    obtain ⟨rt₁, h₁, h⟩ := Outcome.bind_eq_ok.mp h
    obtain ⟨stack, _, h₁⟩ := Outcome.bind_eq_ok.mp h₁
    cases h₁
    cases h
    cases hl : rt.sockets.lookup handle with
    | none => simp only [releaseSocket, hl, and_self]
    | some st =>
        obtain ⟨replies, he⟩ := releaseSocket_some hl
        rw [he]
        exact ⟨rfl, rfl⟩
  apply UdpTable.ext
  · intro i
    show rt'.stack.udpAt i = rt.stack.udpAt i
    by_cases hi : i = handle
    · rw [hi, hu.udpAt, NetworkStack.udpAt, hr.frees.kindAt, if_pos rfl]
      rfl
    · rw [NetworkStack.udpAt, NetworkStack.udpAt, hr.frees.kindAt, if_neg hi]
  · intro p
    simp only [udpTable, hr.udpSessions]
  · exact hlists.1
  · intro v
    simp only [udpTable, hr.dnsSockets]
  · exact hlists.2

theorem notUdp.retired {handle i : SocketHandle} (h : rt.notUdp i)
    (hr : Retired handle rt rt') : rt'.notUdp i := by
  have hk := hr.frees.kindAt i
  rcases h with hn | hn
  · exact .inl (by rw [hk, hn, ite_self])
  · by_cases he : i = handle
    · exact .inl (by rw [hk, if_pos he])
    · exact .inr (by rw [hk, if_neg he, hn])

section

variable (hS : S.KeepsSockets) {P : RuntimeState S → RuntimeState S → Prop}
  (hrefl : ∀ a, P a a) (htrans : ∀ a b c, P a b → P b c → P a c)
  (hservice : ∀ a b fullSweep handle st, Consistent a → a.sockets.lookup handle = some st →
    a.serviceSocket fullSweep handle st = .ok b → P a b)
  (hretire : ∀ a b handle, Consistent a → a.notUdp handle → a.retire handle = .ok b → P a b)

include hrefl hservice in
theorem sweepHandle_rule {fullSweep : Bool} {acc acc' : RuntimeState S × List SocketHandle}
    {handle : SocketHandle} (hc : Consistent acc.1)
    (h : sweepHandle fullSweep acc handle = .ok acc') : P acc.1 acc'.1 := by
  obtain ⟨active, _, h⟩ := Outcome.bind_eq_ok.mp h
  split at h
  · cases h
    exact hrefl _
  · split at h
    · cases h
      exact hrefl _
    · next st hl =>
        obtain ⟨rt₁, hserv, h⟩ := Outcome.bind_eq_ok.mp h
        cases h
        exact hservice _ _ _ _ st hc hl hserv

include hS hrefl htrans hservice in
theorem sweepAll_rule {fullSweep : Bool} {handles : List SocketHandle}
    {acc acc' : RuntimeState S × List SocketHandle} (hc : Consistent acc.1)
    (hu : ∀ i ∈ acc.2, acc.1.notUdp i)
    (h : Outcome.run (sweepHandle fullSweep) acc handles = .ok acc') : P acc.1 acc'.1 := by
  induction handles generalizing acc with
  | nil =>
      cases h
      exact hrefl _
  | cons handle handles ih =>
      obtain ⟨acc₁, h₁, h⟩ := Outcome.bind_eq_ok.mp h
      obtain ⟨heff, hu₁⟩ := sweepHandle_effects (R := Rules.any S) trivial hc hu h₁
      have hP := sweepHandle_rule hrefl hservice hc h₁
      exact htrans _ _ _ hP (ih (heff.consistent hS hc) hu₁ h)

include hS hrefl htrans hretire in
theorem retireAll_rule {closed : List SocketHandle} (hc : Consistent rt)
    (hu : ∀ i ∈ closed, rt.notUdp i) (h : Outcome.run retire rt closed = .ok rt') :
    P rt rt' := by
  induction closed generalizing rt with
  | nil =>
      cases h
      exact hrefl _
  | cons handle closed ih =>
      obtain ⟨rt₁, h₁, h⟩ := Outcome.bind_eq_ok.mp h
      have hn := hu handle (List.mem_cons_self ..)
      have heff : Effect (Rules.any S) rt rt₁ := .release trivial trivial hn h₁
      have hP := hretire _ _ handle hc hn h₁
      refine htrans _ _ _ hP (ih (heff.consistent hS hc) (fun i hi => ?_) h)
      have hni : rt.notUdp i := hu i (List.mem_cons_of_mem _ hi)
      exact hni.retired (retire_retired hc h₁)

-- A relation that each pass over a handle and each removal respect holds across a whole sweep.
include hS hrefl htrans hservice hretire in
theorem pollTcpSockets_rule (hselect : ∀ a fullSweep, P a (a.selectHandles fullSweep).2)
    (hc : Consistent rt) {fullSweep : Bool} (h : rt.pollTcpSockets fullSweep = .ok rt') :
    P rt rt' := by
  rw [pollTcpSockets_eq] at h
  obtain ⟨acc, hsweep, h⟩ := Outcome.bind_eq_ok.mp h
  have hsel : Effect (Rules.any S) rt (rt.selectHandles fullSweep).2 := .select trivial fullSweep
  have hc₁ := hsel.consistent hS hc
  obtain ⟨heff, hu⟩ := sweepAll_effects hS (R := Rules.any S) trivial hc₁ (by simp) hsweep
  have hP := sweepAll_rule hS hrefl htrans hservice hc₁ (by simp) hsweep
  exact htrans _ _ _ (hselect rt fullSweep) (htrans _ _ _ hP
    (retireAll_rule hS hrefl htrans hretire (heff.consistent hS hc₁) hu h))

end

theorem pollTcpSockets_udpTable (hS : S.KeepsSockets) (hc : Consistent rt) {fullSweep : Bool}
    (h : rt.pollTcpSockets fullSweep = .ok rt') : rt'.udpTable = rt.udpTable := by
  refine pollTcpSockets_rule hS (P := fun a b => b.udpTable = a.udpTable) (fun _ => rfl)
    (fun _ _ _ h k => k.trans h) (fun _ _ _ _ _ _ _ h => serviceSocket_udpTable h)
    (fun _ _ _ hc hu h => retire_udpTable hc hu h) (fun a fullSweep => ?_) hc h
  cases fullSweep <;> rfl

@[simp] theorem tryResolveDnsGroup_udpTable (rt : RuntimeState S) (groupId : UInt32) :
    (rt.tryResolveDnsGroup groupId).udpTable = rt.udpTable := by
  cases hl : rt.dnsGroups.lookup groupId with
  | none => rw [tryResolveDnsGroup_none hl]
  | some group =>
      rw [tryResolveDnsGroup_eq hl]
      rfl

@[simp] theorem expireDnsGroup_udpTable (rt : RuntimeState S) (groupId : UInt32) :
    (rt.expireDnsGroup groupId).udpTable = rt.udpTable := by
  cases hl : rt.dnsGroups.lookup groupId with
  | none => rw [expireDnsGroup_none hl]
  | some group =>
      rw [expireDnsGroup_eq hl]
      rfl

@[simp] theorem expireDnsGroups_udpTable (rt : RuntimeState S) :
    rt.expireDnsGroups.udpTable = rt.udpTable := by
  simp only [expireDnsGroups]
  refine List.foldlRecOn (motive := fun rt' : RuntimeState S => rt'.udpTable = rt.udpTable) _ _ rfl ?_
  intro rt' h groupId _
  exact (expireDnsGroup_udpTable rt' groupId).trans h

theorem buildUniqueDnsQuery_udpTable (H : Hickory) (rt : RuntimeState S) (domain : String)
    (recordType : DnsRecordType) (tries : Nat) :
    (rt.buildUniqueDnsQuery H domain recordType tries).2.udpTable = rt.udpTable := by
  obtain ⟨statics, hstatics⟩ := buildUniqueDnsQuery_statics H rt domain recordType tries
  rw [hstatics]
  rfl

theorem acceptDnsResponse_udpTable (H : Hickory) (rt : RuntimeState S) (data : List UInt8) :
    (rt.acceptDnsResponse H data).udpTable = rt.udpTable := by
  rcases acceptDnsResponse_cases H rt data with he | ⟨_, _, _, _, _, he⟩
  · rw [he]
  · rw [he]
    exact tryResolveDnsGroup_udpTable _ _

theorem notifyReadyWaiters_udpTable (h : rt.notifyReadyWaiters = .ok rt') :
    rt'.udpTable = rt.udpTable := by
  refine notifyReadyWaiters_preserves (I := fun rt' => rt'.udpTable = rt.udpTable) ?_ ?_ h rfl
  · intro rt₁ handle st hp
    exact hp
  · intro rt₁ responses state hp
    exact (replyAll_udpTable rt₁ _ _).trans hp

-- The sessions keep their sockets and channels, so only the time of use changes.
theorem touch_udpTable (rt : RuntimeState S) {localPort : UInt16} {se : UdpSessionState}
    (hse : rt.udpSessions.lookup localPort = some se) (now : Time) :
    { rt with udpSessions :=
        AList.insert localPort { se with lastActivity := now } rt.udpSessions }.udpTable =
      rt.udpTable := by
  apply UdpTable.ext
  · exact fun _ => rfl
  · intro p
    simp only [udpTable, Table.lookup_insert]
    split_ifs with hp
    · rw [hp, hse]
      rfl
    · rfl
  · rfl
  · exact fun _ => rfl
  · rfl

theorem deliverUdp_udpTable (rt : RuntimeState S) {localPort : UInt16} {se : UdpSessionState}
    (hse : rt.udpSessions.lookup localPort = some se) (data : List UInt8) (remote : IpEndpoint) :
    (rt.deliverUdp localPort se data remote).udpTable = rt.udpTable :=
  touch_udpTable rt hse rt.shared.now

section

variable (hS : S.KeepsSockets)

include hS in
theorem dispatchDnsQuery_udpTable {H : Hickory} {groupId : UInt32} {domain : String}
    {dnsHandle : SocketHandle} {dnsServer : IpAddress} {queryType : DnsRecordType}
    {logLabel : String}
    (h : rt.dispatchDnsQuery H groupId domain dnsHandle dnsServer queryType logLabel = .ok rt') :
    rt'.udpTable = rt.udpTable := by
  have hb := buildUniqueDnsQuery_udpTable H rt domain queryType 65536
  simp only [dispatchDnsQuery] at h
  split at h
  · next e rt₁ he =>
      rw [he] at hb
      cases h
      exact (tryResolveDnsGroup_udpTable _ _).trans hb
  · next txId packet rt₁ he =>
      rw [he] at hb
      obtain ⟨⟨sent, stack⟩, hsend, h⟩ := Outcome.bind_eq_ok.mp h
      have hst := (udpTable_setStack _ (NetworkStack.udpSend_keeps hS hsend).udpAt).trans hb
      dsimp only at h
      split at h
      · cases h
        exact hst
      · cases h
        exact (tryResolveDnsGroup_udpTable _ _).trans hst

include hS in
theorem receiveDnsResponses_udpTable {H : Hickory} {handle : SocketHandle} {fuel : Nat}
    (h : receiveDnsResponses H handle fuel rt = .ok rt') : rt'.udpTable = rt.udpTable := by
  induction fuel generalizing rt with
  | zero => cases h
  | succ fuel ih =>
      obtain ⟨can, _, h⟩ := Outcome.bind_eq_ok.mp h
      split at h
      · cases h
        rfl
      · obtain ⟨⟨received, stack⟩, hrecv, h⟩ := Outcome.bind_eq_ok.mp h
        have hst := udpTable_setStack rt (NetworkStack.udpRecv_keeps hS hrecv).udpAt
        dsimp only at h
        split at h
        · cases h
          exact hst
        · split at h
          · exact (ih h).trans hst
          · exact (ih h).trans ((acceptDnsResponse_udpTable _ _ _).trans hst)

include hS in
theorem processDnsResponses_udpTable {H : Hickory} (h : rt.processDnsResponses H = .ok rt') :
    rt'.udpTable = rt.udpTable :=
  Outcome.run_invariant (P := fun rt' => rt'.udpTable = rt.udpTable)
    (fun _ _ _ hp hr => (receiveDnsResponses_udpTable hS hr).trans hp) h rfl

include hS in
theorem processUdpResponse_udpTable {localPort : UInt16}
    (h : rt.processUdpResponse localPort = .ok rt') : rt'.udpTable = rt.udpTable := by
  simp only [processUdpResponse] at h
  split at h
  · cases h
    rfl
  · next se hse =>
      obtain ⟨can, _, h⟩ := Outcome.bind_eq_ok.mp h
      split at h
      · cases h
        rfl
      · obtain ⟨⟨received, stack⟩, hrecv, h⟩ := Outcome.bind_eq_ok.mp h
        have hst := udpTable_setStack rt (NetworkStack.udpRecv_keeps hS hrecv).udpAt
        dsimp only at h
        split at h
        · cases h
          exact hst
        · split at h
          · cases h
            exact hst
          · cases h
            exact (deliverUdp_udpTable { rt with stack } hse _ _).trans hst

include hS in
theorem processUdpResponses_udpTable (h : rt.processUdpResponses = .ok rt') :
    rt'.udpTable = rt.udpTable :=
  Outcome.run_invariant (P := fun rt' => rt'.udpTable = rt.udpTable)
    (fun _ _ _ hp hr => (processUdpResponse_udpTable hS hr).trans hp) h rfl

include hS in
theorem handleUdpSend_udpTable {cmd : UdpSend} (h : rt.handleUdpSend cmd = .ok rt') :
    rt'.udpTable = rt.udpTable := by
  simp only [handleUdpSend, sendUdpData] at h
  split at h
  · cases h
    rfl
  · next se hse =>
      obtain ⟨⟨sent, stack⟩, hsend, h⟩ := Outcome.bind_eq_ok.mp h
      cases h
      exact (touch_udpTable { rt with stack } hse _).trans
        (udpTable_setStack _ (NetworkStack.udpSend_keeps hS hsend).udpAt)

end

-- Where a query binds the socket it needs, if its family has none.
def dnsEndpoint (rt : RuntimeState S) (dnsServers : List IpAddress) (preferIpv6 : Bool) :
    Option IpEndpoint :=
  let (server, rt) := rt.selectDnsServer dnsServers preferIpv6
  match rt.dnsSockets.slot server.version, rt.stack.localAddrForRemote server with
  | none, .ok a => some ⟨a, (getDnsLocalPort rt.shared.statics).1⟩
  | _, _ => none

def endpointOf (rt : RuntimeState S) (dnsServers : List IpAddress) :
    ManagerCommand → Option IpEndpoint
  | .dnsResolve _ preferIpv6 _ => rt.dnsEndpoint dnsServers preferIpv6
  | .dnsResolveAll _ _ => rt.dnsEndpoint dnsServers true
  | .udpRegister localPort _ => rt.stack.localAddrDefault.toOption.map (fun a => ⟨a, localPort⟩)
  | _ => none

def binds (rt : RuntimeState S) (dnsServers : List IpAddress) (draw : Nat)
    (cmd : ManagerCommand) : Option IpEndpoint :=
  if rt.opensUdp dnsServers draw cmd then rt.endpointOf dnsServers cmd else none

theorem setSlot_slot (d : DnsSockets) (version : IpVersion) (handle : SocketHandle) :
    (d.setSlot version handle).slot = Function.update d.slot version (some handle) := by
  funext v
  rw [slot_setSlot, Function.update_apply]

theorem opens_bound {st st' : NetworkStack S} {handle : SocketHandle} {e : IpEndpoint}
    (h : NetworkStack.Opens st st' handle (.udp (some e))) :
    st.udpAt handle = none ∧ st'.udpAt = Function.update st.udpAt handle (some (some e)) := by
  constructor
  · rw [NetworkStack.udpAt, h.fresh]
    rfl
  · funext i
    rw [NetworkStack.udpAt, h.kindAt, Function.update_apply]
    split_ifs with hi
    · rfl
    · rfl

theorem ensureSocket_udpTable (hS : S.KeepsSockets) (rt : RuntimeState S) (server : IpAddress) :
    (rt.ensureSocket server).2.udpTable = rt.udpTable ∨
      ∃ handle a, rt.dnsSockets.slot a.version = none ∧ rt.stack.udpAt handle = none ∧
        a.version = server.version ∧ rt.stack.localAddrForRemote server = .ok a ∧
        rt.needsDnsSocket server = true ∧
        (rt.ensureSocket server).2.udpTable =
          rt.udpTable.apply (.dns handle ⟨a, (getDnsLocalPort rt.shared.statics).1⟩) := by
  simp only [ensureSocket]
  split
  · exact .inl rfl
  · next hnone =>
      split
      · exact .inl rfl
      · next handle stack hc =>
          obtain ⟨a, ha, ho⟩ := NetworkStack.createUdpSocketFor_opens hS hc
          have hv := NetworkStack.localAddrForRemote_version ha
          obtain ⟨hfresh, hb⟩ := opens_bound ho
          have hc' : rt.stack.createUdpSocketFor (getDnsLocalPort rt.shared.statics).1 server =
              .ok (handle, stack) := hc
          have hneed : rt.needsDnsSocket server = true := by
            simp only [needsDnsSocket, hnone, hc', Option.isNone_none, Except.isOk, Except.toBool,
              Bool.and_self]
          refine .inr ⟨handle, a, hv ▸ hnone, hfresh, hv, ha, hneed, ?_⟩
          simp only [udpTable, UdpTable.apply, setSlot_slot, hv]
          rw [hb]
          rfl

theorem selectDnsServer_udpTable (rt : RuntimeState S) (dnsServers : List IpAddress)
    (preferIpv6 : Bool) :
    (rt.selectDnsServer dnsServers preferIpv6).2.udpTable = rt.udpTable := by
  cases dnsServers <;> rfl

theorem insertDnsGroup_dnsEndpoint (rt : RuntimeState S) (domain : String)
    (preferGroup : Bool) (response responseAll : Option OneshotId) (dnsServers : List IpAddress)
    (preferIpv6 : Bool) :
    (rt.insertDnsGroup domain preferGroup response responseAll).2.dnsEndpoint dnsServers
      preferIpv6 = rt.dnsEndpoint dnsServers preferIpv6 := by
  cases dnsServers <;> rfl

theorem startDnsQueryFor_udpTable (hS : S.KeepsSockets) {H : Hickory} {domain : String}
    {preferIpv6 resolveAll : Bool} {response responseAll : Option OneshotId}
    {dnsServers : List IpAddress}
    (h : rt.startDnsQueryFor H domain preferIpv6 resolveAll response responseAll dnsServers =
      .ok rt') :
    rt'.udpTable = rt.udpTable ∨
      ∃ handle e, rt.udpTable.bound handle = none ∧ rt.udpTable.dns e.addr.version = none ∧
        rt.dnsEndpoint dnsServers preferIpv6 = some e ∧
        rt.opensDnsSocket dnsServers preferIpv6 = true ∧
        rt'.udpTable = rt.udpTable.apply (.dns handle e) := by
  have hend := insertDnsGroup_dnsEndpoint rt domain preferIpv6 response responseAll dnsServers
    preferIpv6
  have hopens := insertDnsGroup_opensDnsSocket rt domain preferIpv6 response responseAll dnsServers
    preferIpv6
  simp only [startDnsQueryFor] at h
  generalize hg : (rt.insertDnsGroup domain preferIpv6 response responseAll).2 = rt₁ at h hend hopens
  have h₁ : rt₁.udpTable = rt.udpTable := hg ▸ rfl
  generalize hsel : rt₁.selectDnsServer dnsServers preferIpv6 = sel at h
  have h₂ : sel.2.udpTable = rt.udpTable := by
    rw [← hsel]
    exact (selectDnsServer_udpTable rt₁ dnsServers preferIpv6).trans h₁
  have hrest : rt'.udpTable = (sel.2.ensureSocket sel.1).2.udpTable := by
    split at h
    · next e rt₃ he =>
        cases h
        rw [he]
        exact tryResolveDnsGroup_udpTable _ _
    · next handle rt₃ he =>
        rw [he]
        exact Outcome.run_invariant (P := fun rt' : RuntimeState S => rt'.udpTable = rt₃.udpTable)
          (fun _ _ _ hp hr => (dispatchDnsQuery_udpTable hS hr).trans hp) h rfl
  rw [hrest]
  rcases ensureSocket_udpTable hS sel.2 sel.1 with he | ⟨handle, a, hslot, hf, hv, ha, hneed, he⟩
  · exact .inl (he.trans h₂)
  · refine .inr ⟨handle, ⟨a, (getDnsLocalPort sel.2.shared.statics).1⟩, ?_, ?_, ?_, ?_,
      by rw [he, h₂]⟩
    · rw [← h₂]
      exact hf
    · rw [← h₂]
      exact hslot
    · rw [← hend]
      simp only [dnsEndpoint, hsel, ← hv, hslot, ha]
    · rw [← hopens]
      simp only [opensDnsSocket, hsel, hneed]

theorem opensSession_iff {localPort : UInt16} :
    rt.opensSession localPort = true ↔
      ∃ handle stack, rt.stack.createUdpSocketDefault localPort = .ok (handle, stack) := by
  simp only [opensSession]
  cases rt.stack.createUdpSocketDefault localPort with
  | error e => simp [Except.isOk, Except.toBool]
  | ok r => exact iff_of_true rfl ⟨r.1, r.2, rfl⟩

theorem registerUdpSession_udpTable (hS : S.KeepsSockets) (rt : RuntimeState S)
    (localPort : UInt16) (response : OneshotId) :
    ((∃ e, rt.stack.createUdpSocketDefault localPort = .error e ∧
        rt.registerUdpSession localPort response = rt.reply response (.udpFailed (.stack e))) ∧
      (rt.registerUdpSession localPort response).udpTable = rt.udpTable) ∨
      ∃ handle a stack, rt.stack.createUdpSocketDefault localPort = .ok (handle, stack) ∧
        rt.stack.localAddrDefault = .ok a ∧ rt.udpTable.bound handle = none ∧
        (rt.registerUdpSession localPort response).udpTable =
          rt.udpTable.apply (.register handle ⟨a, localPort⟩) := by
  simp only [registerUdpSession]
  split
  · next e he => exact .inl ⟨⟨e, he, rfl⟩, reply_udpTable _ _ _⟩
  · next handle stack hc =>
      obtain ⟨a, ha, ho⟩ := NetworkStack.createUdpSocketDefault_opens hS hc
      obtain ⟨hf, hb⟩ := opens_bound ho
      refine .inr ⟨handle, a, stack, hc, ha, hf, ?_⟩
      rw [reply_udpTable]
      apply UdpTable.ext
      · intro i
        exact congrFun hb i
      · intro p
        simp only [udpTable, UdpTable.apply, Table.lookup_insert, Function.update_apply]
        split_ifs <;> rfl
      · rfl
      · exact fun _ => rfl
      · rfl

theorem closeUdpSession_udpTable (hs : Slotted rt) {localPort : UInt16}
    (h : rt.closeUdpSession localPort = .ok rt') :
    rt'.udpTable = rt.udpTable.cleared [localPort] := by
  simp only [closeUdpSession] at h
  split at h
  · next hl =>
      cases h
      have hn : rt.udpTable.sessions localPort = none := by simp only [udpTable, hl, Option.map_none]
      apply UdpTable.ext
      · intro i
        simp [UdpTable.cleared, UdpTable.holds, hn]
      · intro p
        simp only [UdpTable.cleared, List.mem_singleton]
        split_ifs with hp
        · rw [hp, hn]
        · rfl
      · rfl
      · exact fun _ => rfl
      · rfl
  · next se hl =>
      obtain ⟨stack, hr, h⟩ := Outcome.bind_eq_ok.mp h
      cases h
      have hf := NetworkStack.removeSocket_frees hs.wellFormed hr
      apply UdpTable.ext
      · intro i
        have hh : rt.udpTable.holds localPort i ↔ i = se.handle := by
          simp [UdpTable.holds, udpTable, hl, eq_comm]
        simp only [UdpTable.cleared, List.mem_singleton, exists_eq_left, hh]
        simp only [udpTable, NetworkStack.udpAt, hf.kindAt]
        split_ifs <;> rfl
      · intro p
        simp only [udpTable, UdpTable.cleared, Table.lookup_erase, List.mem_singleton]
        split_ifs <;> rfl
      · rfl
      · exact fun _ => rfl
      · rfl

theorem closeUdpSession_slotted (hs : Slotted rt) {localPort : UInt16}
    (h : rt.closeUdpSession localPort = .ok rt') : Slotted rt' :=
  ((closeUdpSession_settles (P := .any) trivial hs localPort).settled h).slotted

theorem closeUdpSessions_udpTable (hs : Slotted rt) {ports : List UInt16}
    (h : Outcome.run closeUdpSession rt ports = .ok rt') :
    rt'.udpTable = rt.udpTable.cleared ports := by
  induction ports generalizing rt with
  | nil =>
      cases h
      exact (UdpTable.cleared_nil _).symm
  | cons localPort ports ih =>
      obtain ⟨rt₁, h₁, h⟩ := Outcome.bind_eq_ok.mp h
      rw [ih (closeUdpSession_slotted hs h₁) h, closeUdpSession_udpTable hs h₁,
        UdpTable.cleared_cons]

theorem filterPorts_udpTable {ports : List UInt16} {t : UdpTable}
    (h : rt.udpTable = t.cleared ports) :
    { rt with udpPorts := rt.udpPorts.filter (· ∉ ports) }.udpTable = t.apply (.close ports) := by
  have hp : rt.udpPorts = t.ports := congrArg UdpTable.ports h
  show { rt.udpTable with ports := rt.udpPorts.filter (· ∉ ports) } = t.apply (.close ports)
  rw [h, hp]
  rfl

theorem unregisterUdpSession_udpTable (hs : Slotted rt) {localPort : UInt16}
    (h : rt.unregisterUdpSession localPort = .ok rt') :
    rt'.udpTable = rt.udpTable.apply (.close [localPort]) := by
  obtain ⟨rt₁, h₁, h⟩ := Outcome.bind_eq_ok.mp h
  cases h
  rw [← filterPorts_udpTable (closeUdpSession_udpTable hs h₁)]
  simp only [List.mem_singleton]

-- The sessions that a poll closes are those that were idle too long.
theorem expireUdpSessions_udpTable (hs : Slotted rt) (h : rt.expireUdpSessions = .ok rt') :
    ∃ ports, rt'.udpTable = rt.udpTable.apply (.close ports) := by
  obtain ⟨rt₁, h₁, h⟩ := Outcome.bind_eq_ok.mp h
  cases h
  exact ⟨_, filterPorts_udpTable (closeUdpSessions_udpTable hs h₁)⟩

theorem processStateChange_udpTable (hS : S.KeepsSockets) {H : Hickory} (hc : Consistent rt)
    {changed : Bool} (h : rt.processStateChange H changed = .ok rt') :
    rt'.udpTable = rt.udpTable ∨
      ∃ ports, rt'.udpTable = rt.udpTable.apply (.close ports) := by
  simp only [processStateChange] at h
  split at h
  · obtain ⟨rt₁, h₁, h⟩ := Outcome.bind_eq_ok.mp h
    obtain ⟨rt₂, h₂, h⟩ := Outcome.bind_eq_ok.mp h
    obtain ⟨rt₃, h₃, h⟩ := Outcome.bind_eq_ok.mp h
    have hs₁ := ((notifyReadyWaiters_effects (R := Rules.any S) hS hc h₁).consistent hS hc).slotted
    have hs₂ := ((processDnsResponses_settles (P := .any) hS H hs₁).settled h₂).slotted
    have hs₃ := ((processUdpResponses_settles (P := .any) hS hs₂).settled h₃).slotted
    have hs₄ := (expireDnsGroups_settled (P := .any) hs₃).slotted
    obtain ⟨ports, he⟩ := expireUdpSessions_udpTable hs₄ h
    refine .inr ⟨ports, ?_⟩
    rw [he, expireDnsGroups_udpTable, processUdpResponses_udpTable hS h₃,
      processDnsResponses_udpTable hS h₂, notifyReadyWaiters_udpTable h₁]
  · cases h
    exact .inl rfl

theorem pollStackCommon_udpTable (hS : S.KeepsSockets) {H : Hickory} (hc : Consistent rt)
    {fullTcpSweep : Bool} {sweep : Option Bool}
    (h : rt.pollStackCommon H fullTcpSweep = .ok (.polled sweep rt')) :
    rt'.udpTable = rt.udpTable ∨
      ∃ ports, rt'.udpTable = rt.udpTable.apply (.close ports) := by
  simp only [pollStackCommon] at h
  split at h
  · cases h
  · next outcome stack hpoll =>
      have heff : Effect (Rules.any S) rt { rt with stack } := .poll trivial hpoll
      have hk := udpTable_setStack rt (NetworkStack.pollBounded_keeps hS hpoll).udpAt
      obtain ⟨rt₁, h₁, h⟩ := Outcome.bind_eq_ok.mp h
      cases h
      rw [← hk]
      exact processStateChange_udpTable hS (heff.consistent hS hc) h₁

theorem drainStackPackets_udpTable (rt : RuntimeState S) (tunnel : ActiveTunnel)
    (results : List SendResult) :
    (tunnel.drainStackPackets rt results).2.udpTable = rt.udpTable := by
  simp only [ActiveTunnel.drainStackPackets]
  split
  · rfl
  · split
    · exact udpTable_setStack _ (drainMasque_kept (P := .any) _ _ _ _ _ _ _ rt.stack).1.udpAt
    · exact udpTable_setStack _ (takePackets_kept (P := .any) _ rt.stack).1.udpAt

end RuntimeState

namespace System

variable {H : Hickory} {s t : System S} {l : Label}

def binds (s : System S) : Label → Option IpEndpoint
  | .manager (.command draw) => s.cmdRx.head?.bind (s.rt.binds s.params.dnsServers draw)
  | _ => none

-- Each step is one operation on the table, and what it binds and closes is what it was asked to.
structure UdpStep (s t : System S) (l : Label) (op : UdpOp) : Prop where
  table : t.rt.udpTable = s.rt.udpTable.apply op
  fresh : s.rt.udpTable.fresh op
  binds : ∀ h e, op.binds = some (h, e) → s.binds l = some e
  session : ∀ h e, op = .register h e →
    ∃ response, s.handled l = some (.udpRegister e.port response)
  dns : ∀ h e, op = .dns h e → s.rt.udpTable.dns e.addr.version = none
  close : ∀ ports, op = .close ports →
    (∃ port, ports = [port] ∧ s.handled l = some (.udpUnregister port)) ∨ s.polls l

namespace UdpStep

theorem rest (h : t.rt.udpTable = s.rt.udpTable) : UdpStep s t l .rest where
  table := h
  fresh := nofun
  binds := nofun
  session := nofun
  dns := nofun
  close := nofun

theorem reset (h : t.rt.udpTable = s.rt.udpTable.apply .reset) : UdpStep s t l .reset where
  table := h
  fresh := nofun
  binds := nofun
  session := nofun
  dns := nofun
  close := nofun

theorem closes {ports : List UInt16} (h : t.rt.udpTable = s.rt.udpTable.apply (.close ports))
    (hc : (∃ port, ports = [port] ∧ s.handled l = some (.udpUnregister port)) ∨ s.polls l) :
    UdpStep s t l (.close ports) where
  table := h
  fresh := nofun
  binds := nofun
  session := nofun
  dns := nofun
  close := by
    intro ports' he
    cases he
    exact hc

theorem opens {h : SocketHandle} {e : IpEndpoint}
    (ht : t.rt.udpTable = s.rt.udpTable.apply (.dns h e)) (hf : s.rt.udpTable.bound h = none)
    (hd : s.rt.udpTable.dns e.addr.version = none) (hb : s.binds l = some e) :
    UdpStep s t l (.dns h e) where
  table := ht
  fresh := by
    intro h' e' he
    cases he
    exact hf
  binds := by
    intro h' e' he
    cases he
    exact hb
  session := nofun
  dns := by
    intro h' e' he
    cases he
    exact hd
  close := nofun

theorem registers {h : SocketHandle} {e : IpEndpoint}
    (ht : t.rt.udpTable = s.rt.udpTable.apply (.register h e))
    (hf : s.rt.udpTable.bound h = none) (hb : s.binds l = some e)
    (hr : ∃ response, s.handled l = some (.udpRegister e.port response)) :
    UdpStep s t l (.register h e) where
  table := ht
  fresh := by
    intro h' e' he
    cases he
    exact hf
  binds := by
    intro h' e' he
    cases he
    exact hb
  session := by
    intro h' e' he
    cases he
    exact hr
  dns := nofun
  close := nofun

end UdpStep

theorem andThen_udpStep {α : Type} {o : Outcome α} {k : α → System S}
    (hk : ∀ a, o = .ok a → ∃ op, UdpStep s (k a) l op) : ∃ op, UdpStep s (s.andThen o k) l op :=
  andThen_rt (Q := fun t => ∃ op, UdpStep s t l op) hk (fun _ => ⟨.rest, .rest rfl⟩)

theorem teardown_udpTable (s : System S) :
    s.teardown.rt.udpTable = s.rt.udpTable.apply .reset := by
  have hn : s.teardown.rt.shared.nextChannel = s.rt.shared.nextChannel :=
    congrArg UdpTable.nextChannel (RuntimeState.replyAll_udpTable
      (s.rt.setStats s.rt.shared.stats.reset) (senders (s.rt.setStats s.rt.shared.stats.reset))
      .senderDropped)
  apply UdpTable.ext
  · exact fun _ => rfl
  · exact fun _ => rfl
  · rfl
  · intro v
    cases v <;> rfl
  · exact hn

theorem freshRuntime_udpTable (params : ConnectionParams) (mtu session : Nat) (shared : Shared)
    (t : UdpTable) (h : shared.nextChannel = t.nextChannel) :
    (freshRuntime S params mtu session shared).udpTable = t.apply .reset := by
  apply UdpTable.ext
  · exact fun _ => rfl
  · exact fun _ => rfl
  · rfl
  · intro v
    cases v <;> rfl
  · exact h

variable (hS : S.KeepsSockets) (hs : Sound s)

include hS hs in
theorem command_udpStep {draw : Nat} {pc : Pc} {cmd : ManagerCommand}
    {cmdRx : List ManagerCommand} (hcmd : s.cmdRx = cmd :: cmdRx) {rt' : RuntimeState S}
    (hrt : s.rt.handleCommand H s.params.dnsServers s.params.tcpBufferSize draw cmd = .ok rt') :
    ∃ op, UdpStep s { s with rt := rt', cmdRx, clients := s.admitted rt', pc }
      (.manager (.command draw)) op := by
  have hb : s.binds (.manager (.command draw)) = s.rt.binds s.params.dnsServers draw cmd := by
    rw [binds, hcmd]
    rfl
  have hh : s.handled (.manager (.command draw)) = some cmd := by rw [handled, hcmd]; rfl
  have hquery : ∀ {domain : String} {preferIpv6 resolveAll : Bool}
      {response responseAll : Option OneshotId},
      s.rt.startDnsQueryFor H domain preferIpv6 resolveAll response responseAll
        s.params.dnsServers = .ok rt' →
      (s.rt.opensDnsSocket s.params.dnsServers preferIpv6 = true →
        s.rt.binds s.params.dnsServers draw cmd =
          s.rt.dnsEndpoint s.params.dnsServers preferIpv6) →
      ∃ op, UdpStep s { s with rt := rt', cmdRx, clients := s.admitted rt', pc }
        (.manager (.command draw)) op := by
    intro domain preferIpv6 resolveAll response responseAll hq he
    rcases RuntimeState.startDnsQueryFor_udpTable hS hq with
      hsame | ⟨handle, e, hf, hd, hep, ho, ht⟩
    · exact ⟨.rest, .rest hsame⟩
    · exact ⟨.dns handle e, .opens ht hf hd (hb.trans ((he ho).trans hep))⟩
  cases cmd with
  | connect remoteIp remotePort localPort reservedSlot response =>
      obtain ⟨⟨result, rt₁⟩, hcreate, hrt⟩ := Outcome.bind_eq_ok.mp hrt
      cases hrt
      exact ⟨.rest, .rest ((RuntimeState.sendConnected_udpTable _ _ _).trans
        (RuntimeState.createConnection_udpTable hs.consistent.slotted.wellFormed hcreate))⟩
  | close handle source =>
      exact ⟨.rest, .rest (RuntimeState.closeConnection_udpTable hs.consistent.slotted hrt)⟩
  | dnsResolve domain preferIpv6 response =>
      simp only [RuntimeState.handleCommand] at hrt
      split at hrt
      · cases hrt
        exact ⟨.rest, .rest (RuntimeState.reply_udpTable _ _ _)⟩
      · next hmiss =>
          refine hquery hrt (fun ho => ?_)
          simp only [RuntimeState.binds, RuntimeState.opensUdp, hmiss, ho, Option.isNone_none,
            Bool.and_self, if_true]
          rfl
  | dnsResolveAll domain response =>
      simp only [RuntimeState.handleCommand] at hrt
      split at hrt
      · cases hrt
        exact ⟨.rest, .rest (RuntimeState.reply_udpTable _ _ _)⟩
      · next hmiss =>
          refine hquery hrt (fun ho => ?_)
          simp only [RuntimeState.binds, RuntimeState.opensUdp, hmiss, ho, Option.isNone_none,
            Bool.and_self, if_true]
          rfl
  | udpRegister localPort response =>
      cases hrt
      rcases RuntimeState.registerUdpSession_udpTable hS s.rt localPort response with
        ⟨_, hsame⟩ | ⟨handle, a, stack, hc, ha, hf, ht⟩
      · exact ⟨.rest, .rest hsame⟩
      · refine ⟨.register handle ⟨a, localPort⟩, .registers ht hf ?_ ⟨response, hh⟩⟩
        have ho : s.rt.opensSession localPort = true :=
          RuntimeState.opensSession_iff.mpr ⟨_, _, hc⟩
        rw [hb]
        simp only [RuntimeState.binds, RuntimeState.opensUdp, ho, if_true,
          RuntimeState.endpointOf, ha]
        rfl
  | udpUnregister localPort =>
      exact ⟨.close [localPort], .closes
        (RuntimeState.unregisterUdpSession_udpTable hs.consistent.slotted hrt)
        (.inl ⟨localPort, rfl, hh⟩)⟩
  | getSocketState handle response source =>
      obtain ⟨state, _, rfl⟩ := RuntimeState.getSocketState_ok hrt
      exact ⟨.rest, .rest (RuntimeState.reply_udpTable _ _ _)⟩
  | waitSocketReady handle response source =>
      rcases RuntimeState.waitSocketReady_ok hrt with ⟨state, _, rfl⟩ | ⟨st, _, rfl⟩
      · exact ⟨.rest, .rest (RuntimeState.reply_udpTable _ _ _)⟩
      · exact ⟨.rest, .rest rfl⟩

theorem handleCommandDisconnected_udpTable (rt : RuntimeState S) (cmd : ManagerCommand) :
    (rt.handleCommandDisconnected cmd).udpTable = rt.udpTable := by
  cases cmd with
  | connect _ _ _ reservedSlot response =>
      exact (RuntimeState.reply_udpTable _ _ _).trans (RuntimeState.finishReserved_udpTable _ _)
  | close _ _ | udpUnregister _ => rfl
  | _ => exact RuntimeState.reply_udpTable _ _ _

include hS hs in
theorem managerStep_udpStep {choice : Choice} (h : s.managerStep H choice = some t) :
    ∃ op, UdpStep s t (.manager choice) op := by
  cases managerStep_cases h with
  | command _ _ hcmd => exact andThen_udpStep (fun rt hrt => command_udpStep hS hs hcmd hrt)
  | udp =>
      exact andThen_udpStep (fun rt hrt =>
        ⟨.rest, .rest (RuntimeState.handleUdpSend_udpTable hS hrt)⟩)
  | incoming =>
      exact andThen_udpStep (fun r hr =>
        ⟨.rest, .rest (RuntimeState.handleTransportIoEvent_udpTable hr)⟩)
  | socketEvent => exact ⟨.rest, .rest (RuntimeState.handleSocketEvent_udpTable _ _)⟩
  | teardown => exact ⟨.reset, .reset (teardown_udpTable s)⟩
  | polled hrun _ hpoll =>
      rcases RuntimeState.pollStackCommon_udpTable hS hs.consistent hpoll with he | ⟨ports, he⟩
      · exact ⟨.rest, .rest he⟩
      · exact ⟨.close ports, .closes he (.inr ⟨_, _, hrun, rfl⟩)⟩
  | sweep =>
      exact andThen_udpStep (fun r hr =>
        ⟨.rest, .rest (RuntimeState.pollTcpSockets_udpTable hS hs.consistent hr)⟩)
  | egress _ _ hpoll =>
      exact ⟨.rest, .rest (RuntimeState.udpTable_setStack s.rt
        (NetworkStack.pollEgress_keeps hS hpoll).udpAt)⟩
  | transmit => exact ⟨.rest, .rest (RuntimeState.drainStackPackets_udpTable _ _ _)⟩
  | establish => exact ⟨.reset, .reset (freshRuntime_udpTable _ _ _ _ _ rfl)⟩
  | refuse => exact ⟨.rest, .rest (handleCommandDisconnected_udpTable _ _)⟩
  | turn | pollFault | refresh | discard => exact ⟨.rest, .rest rfl⟩

theorem clientStep_udpTable {x : StreamId} {op : ClientOp} (h : s.clientStep x op = some t) :
    t.rt.udpTable = s.rt.udpTable := by
  cases clientStep_cases h with
  | op _ _ _ => exact RuntimeState.putStream_udpTable s.rt x _
  | close _ | ask _ _ _ _ | finish _ => rfl

include hS hs in
theorem step_udpStep (h : step H s l = some t) : ∃ op, UdpStep s t l op := by
  cases l with
  | client x op => exact ⟨.rest, .rest (clientStep_udpTable h)⟩
  | submit cmd => exact ⟨.rest, .rest (by rw [submit_rt h])⟩
  | udpSend cmd | io event =>
      simp only [step] at h
      split at h <;> cases h
      exact ⟨.rest, .rest rfl⟩
  | manager choice => exact managerStep_udpStep hS hs h
  | evict _ | reserveSlot | releaseSlot | tick _ | statics _ | cancel _ | receiveUdp _
  | closeUdp _ =>
      cases h
      exact ⟨.rest, .rest rfl⟩

end System

end Usque
