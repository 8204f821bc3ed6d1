import Usque.Manager.Commands

namespace Usque

namespace RuntimeState

variable {S : Smoltcp} (H : Hickory)

def protocolTcp : UInt8 := 6

def flowKeyOf (remoteIp : IpAddress) (tcp : TcpPacket) : TcpFlowKey :=
  ⟨tcp.dstPort, remoteIp, tcp.srcPort⟩

def incomingFlowKey (S : Smoltcp) (packet : Packet) : Option TcpFlowKey :=
  match packet with
  | [] => none
  | first :: _ =>
      match (first >>> 4).toNat with
      | 4 => do
          let ipv4 ← S.parseIpv4 packet
          if ipv4.nextHeader ≠ protocolTcp then none
          else
            let tcp ← S.parseTcp ipv4.payload
            some (flowKeyOf (.ipv4 ipv4.srcAddr) tcp)
      | 6 => do
          let ipv6 ← S.parseIpv6 packet
          if ipv6.nextHeader ≠ protocolTcp then none
          else
            let tcp ← S.parseTcp ipv6.payload
            some (flowKeyOf (.ipv6 ipv6.srcAddr) tcp)
      | _ => none

def classifyIncomingTcpHandle (rt : RuntimeState S) (packet : Packet) : Option SocketHandle :=
  (incomingFlowKey S packet).bind rt.tcpFlowMap.lookup

def noteIncomingTcpHandle (rt : RuntimeState S) (packet : Packet) : RuntimeState S :=
  match rt.classifyIncomingTcpHandle packet with
  | none => rt
  | some handle => rt.markReadyTcpHandle handle ⟨true, true, false⟩

def injectIncoming (rt : RuntimeState S) (packet : Packet) : Outcome (RuntimeState S) := do
  let rt := rt.noteIncomingTcpHandle packet
  let stack ← rt.stack.injectPacketOwned packet
  .ok { rt with stack }

def noteEvent (kind : SocketEventKind) (st : SocketState) : SocketState :=
  { st with
    pendingEvents := st.pendingEvents.union kind.bit
    closeRequested := st.closeRequested || kind = .closed
    writeShutdown := st.writeShutdown || kind = .closed }

def handleSocketEvent (rt : RuntimeState S) (event : SocketEvent) : RuntimeState S :=
  let rt := { rt with sockets := Table.modify event.handle (noteEvent event.kind) rt.sockets }
  (rt.syncSocketPollInterest event.handle).enqueueReadyTcpHandle event.handle

abbrev Notifications := List (List OneshotId × TcpSocketState)

def takeReadyWaiters (acc : RuntimeState S × Notifications) (handle : SocketHandle) :
    Outcome (RuntimeState S × Notifications) :=
  match acc.1.sockets.lookup handle with
  | none => .ok acc
  | some st =>
      if st.readyWaiters.isEmpty then .ok acc
      else do
        let state ← acc.1.stack.tcpReadiness handle
        if state = .connecting then .ok acc
        else
          .ok (acc.1.setSocket handle { st with readyWaiters := [] },
            acc.2 ++ [(st.readyWaiters, state)])

def notifyReadyWaiters (rt : RuntimeState S) : Outcome (RuntimeState S) := do
  let (rt, notifications) ← Outcome.run takeReadyWaiters (rt, []) rt.sockets.keys
  .ok (notifications.foldl (fun rt n => rt.replyAll n.1 (.socketState n.2)) rt)

theorem takeReadyWaiters_cases {acc acc' : RuntimeState S × Notifications} {handle : SocketHandle}
    (h : takeReadyWaiters acc handle = .ok acc') :
    acc' = acc ∨ ∃ st state, acc.1.sockets.lookup handle = some st ∧
      acc.1.stack.tcpReadiness handle = .ok state ∧
      acc' = (acc.1.setSocket handle { st with readyWaiters := [] },
        acc.2 ++ [(st.readyWaiters, state)]) := by
  simp only [takeReadyWaiters] at h
  split at h
  · cases h
    exact .inl rfl
  · next st hl =>
      split at h
      · cases h
        exact .inl rfl
      · obtain ⟨state, hstate, h⟩ := Outcome.bind_eq_ok.mp h
        split at h
        · cases h
          exact .inl rfl
        · cases h
          exact .inr ⟨st, state, hl, hstate, rfl⟩

theorem notifyReadyWaiters_preserves {I : RuntimeState S → Prop} {rt rt' : RuntimeState S}
    (hset : ∀ rt handle st, I rt → I (rt.setSocket handle st))
    (hreply : ∀ rt responses state, I rt → I (rt.replyAll responses (.socketState state)))
    (h : rt.notifyReadyWaiters = .ok rt') (hI : I rt) : I rt' := by
  obtain ⟨⟨rt₁, notifications⟩, hrun, h⟩ := Outcome.bind_eq_ok.mp h
  have h₁ : I rt₁ := by
    refine Outcome.run_invariant (P := fun acc => I acc.1) ?_ hrun hI
    intro acc handle acc' hacc htake
    rcases takeReadyWaiters_cases htake with rfl | ⟨st, state, _, _, rfl⟩
    · exact hacc
    · exact hset _ _ _ hacc
  cases h
  refine List.foldlRecOn notifications _ h₁ ?_
  intro rt₂ h₂ n _
  exact hreply rt₂ _ _ h₂

def acceptDnsResponse (rt : RuntimeState S) (data : List UInt8) : RuntimeState S :=
  match parseDnsResponseWithId H data with
  | .error _ => rt
  | .ok (transactionId, responseResult) =>
      match rt.dnsQueries.lookup transactionId with
      | none => rt
      | some query =>
          let rt := { rt with
            dnsQueries := AList.erase transactionId rt.dnsQueries
            dnsGroups := Table.modify query.groupId
              (fun g => g.record query.queryType responseResult) rt.dnsGroups }
          rt.tryResolveDnsGroup query.groupId

def receiveDnsResponses (handle : SocketHandle) : Nat → RuntimeState S → Outcome (RuntimeState S)
  | 0, _ => .error .hang
  | fuel + 1, rt => do
      if !(← rt.stack.udpCanRecv handle) then .ok rt
      else
        let (received, stack) ← rt.stack.udpRecv handle 4096
        let rt := { rt with stack }
        match received with
        | .error _ => .ok rt
        | .ok (data, _) =>
            if data.isEmpty then receiveDnsResponses handle fuel rt
            else receiveDnsResponses handle fuel (rt.acceptDnsResponse H data)

-- A UDP socket queues at most one datagram per metadata slot, so the fuel is never used up.
def processDnsResponses (rt : RuntimeState S) : Outcome (RuntimeState S) :=
  Outcome.run
    (fun rt handle =>
      receiveDnsResponses H handle (rt.stack.tunables.udpSocketMetadataCapacity + 1) rt)
    rt rt.dnsSockets.handles

def udpSessionChannelCapacity : Nat := 1024

def UdpChannel.trySend (c : UdpChannel) (item : IpAddress × UInt16 × List UInt8) : UdpChannel :=
  if c.closed || c.queue.length ≥ udpSessionChannelCapacity then c
  else { c with queue := c.queue ++ [item] }

def deliverUdp (rt : RuntimeState S) (localPort : UInt16) (session : UdpSessionState)
    (data : List UInt8) (remote : IpEndpoint) : RuntimeState S :=
  let channels := rt.shared.udpChannels
  let channel := UdpChannel.trySend (channels session.toClient) (remote.addr, remote.port, data)
  { rt with
    udpSessions :=
      AList.insert localPort { session with lastActivity := rt.shared.now } rt.udpSessions
    shared := { rt.shared with
      udpChannels := Function.update channels session.toClient channel } }

def processUdpResponse (rt : RuntimeState S) (localPort : UInt16) : Outcome (RuntimeState S) :=
  match rt.udpSessions.lookup localPort with
  | none => .ok rt
  | some session => do
      if !(← rt.stack.udpCanRecv session.handle) then .ok rt
      else
        let (received, stack) ← rt.stack.udpRecv session.handle rt.tunables.udpRecvBufferSize
        let rt := { rt with stack }
        match received with
        | .error _ => .ok rt
        | .ok (data, remote) =>
            if data.isEmpty then .ok rt else .ok (rt.deliverUdp localPort session data remote)

def processUdpResponses (rt : RuntimeState S) : Outcome (RuntimeState S) :=
  Outcome.run processUdpResponse rt rt.udpPorts

def dnsGroupTimeout : Time := secs 5

def expireDnsGroup (rt : RuntimeState S) (groupId : UInt32) : RuntimeState S :=
  match rt.dnsGroups.lookup groupId with
  | none => rt
  | some group =>
      let rt := { rt with
        dnsQueries := Table.retain (fun _ q => q.groupId ≠ groupId) rt.dnsQueries
        dnsGroups := AList.erase groupId rt.dnsGroups }
      let rt := rt.replyAll group.response.toList (.resolved (.error (.dns .timeout)))
      rt.replyAll group.responseAll.toList (.resolvedAll (.error (.dns .timeout)))

def expireDnsGroups (rt : RuntimeState S) : RuntimeState S :=
  let timedOut := rt.dnsGroups.entries.filter
    (fun e => rt.shared.now - e.2.createdAt > dnsGroupTimeout)
  (timedOut.map (·.1)).foldl expireDnsGroup rt

def expireUdpSessions (rt : RuntimeState S) : Outcome (RuntimeState S) := do
  let stale := rt.udpSessions.entries.filter
    (fun e => rt.shared.now - e.2.lastActivity > rt.tunables.udpSessionTimeout)
  let ports := stale.map (·.1)
  let rt ← Outcome.run closeUdpSession rt ports
  .ok { rt with udpPorts := rt.udpPorts.filter (fun p => p ∉ ports) }

def processStateChange (rt : RuntimeState S) (socketStateChanged : Bool) :
    Outcome (RuntimeState S) :=
  if socketStateChanged then do
    let rt ← rt.notifyReadyWaiters
    let rt ← rt.processDnsResponses H
    let rt ← rt.processUdpResponses
    rt.expireDnsGroups.expireUdpSessions
  else .ok rt

inductive PollResult (S : Smoltcp) where
  | failed
  | polled (sweep : Option Bool) (rt : RuntimeState S)

-- The part of poll_stack_common before poll_tcp_sockets; `sweep` is the sweep it then makes.
def pollStackCommon (rt : RuntimeState S) (fullTcpSweep : Bool) : Outcome (PollResult S) :=
  match rt.stack.pollBounded rt.shared.now rt.tunables.stackIngressBudget with
  | .error _ => .ok .failed
  | .ok (outcome, stack) => do
      let rt := { rt with stack }
      let shouldFullTcpSweep :=
        fullTcpSweep && outcome.socketStateChanged && rt.readyTcpHandles.isEmpty
      let shouldTargetedTcpSweep := !rt.readyTcpHandles.isEmpty
      let rt ← rt.processStateChange H outcome.socketStateChanged
      .ok (.polled
        (if shouldFullTcpSweep || shouldTargetedTcpSweep then some shouldFullTcpSweep else none)
        rt)

end RuntimeState

def SocketStreamHandle.storeReceived (c : SocketStreamHandle) (data : List UInt8) :
    Nat × SocketStreamHandle :=
  let (written, recvBuffer) := c.recvBuffer.enqueueSlice data
  let c := { c with recvBuffer }
  (written, if written > 0 then c.wakeRecv else c)

def fillRecvBuffer {S : Smoltcp} (handle : SocketHandle) (tcpChunkSize : Nat) :
    Nat → NetworkStack S → SocketStreamHandle → Outcome (NetworkStack S × SocketStreamHandle)
  | 0, _, _ => .error .hang
  | fuel + 1, stack, c => do
      if c.recvBuffer.remainingCapacity = 0 || !(← stack.tcpMayRecv handle) then .ok (stack, c)
      else
        let readLen := min c.recvBuffer.remainingCapacity tcpChunkSize
        let (received, stack) ← stack.tcpRecv handle readLen
        match received with
        | .error _ => .ok (stack, c)
        | .ok data =>
            if data.isEmpty then .ok (stack, c)
            else
              let (written, c) := c.storeReceived data
              if written < data.length then .ok (stack, c)
              else fillRecvBuffer handle tcpChunkSize fuel stack c

def flushPendingToStack {S : Smoltcp} (handle : SocketHandle) (tcpChunkSize : Nat) :
    Nat → NetworkStack S → SocketStreamHandle → Outcome (NetworkStack S × SocketStreamHandle)
  | 0, _, _ => .error .hang
  | fuel + 1, stack, c => do
      if !(← stack.tcpMaySend handle) then .ok (stack, c)
      else
        let chunk := c.sendBuffer.peekCopy tcpChunkSize
        if chunk.isEmpty then .ok (stack, c)
        else
          let (accepted, stack) ← stack.tcpSend handle chunk
          match accepted with
          | .error _ => .ok (stack, c)
          | .ok sent =>
              if sent = 0 then .ok (stack, c)
              else
                let c := { c with sendBuffer := c.sendBuffer.consume sent }.wakeSend
                if sent < chunk.length then .ok (stack, c)
                else flushPendingToStack handle tcpChunkSize fuel stack c

structure Service (S : Smoltcp) where
  stack : NetworkStack S
  entry : SocketState
  stream : SocketStreamHandle
  counters : PollCounters

namespace Service

variable {S : Smoltcp}

def takeEvents (fullSweep : Bool) (v : Service S) : EventMask × Service S :=
  if fullSweep then
    (⟨true, true, true⟩,
      { v with
        entry := { v.entry with pendingEvents := .empty }
        stream := v.stream.clearAllEvents })
  else
    (v.entry.pendingEvents,
      { v with
        entry := { v.entry with pendingEvents := .empty }
        stream := v.stream.clearEvents v.entry.pendingEvents })

def noteStreamFlags (v : Service S) : Service S :=
  { v with
    entry := { v.entry with
      closeRequested := v.entry.closeRequested || v.stream.socketDropped
      writeShutdown :=
        v.entry.writeShutdown || v.stream.socketDropped || v.stream.writeShutdown } }

def syncPollInterest (v : Service S) : Service S :=
  let (entry, counters) := syncSocketPollInterestCounters v.entry v.stream v.counters
  { v with entry, counters }

def begin (v : Service S) (fullSweep : Bool) : Service S :=
  (v.takeEvents fullSweep).2.noteStreamFlags.syncPollInterest

def shouldServiceWrite (v : Service S) (fullSweep : Bool) : Bool :=
  let mask := (v.takeEvents fullSweep).1
  fullSweep || mask.write || mask.closed || (v.begin fullSweep).entry.closeRequested ||
    (v.begin fullSweep).entry.writeShutdown

def shouldServiceRead (v : Service S) (fullSweep : Bool) : Bool :=
  fullSweep || (v.takeEvents fullSweep).1.read

def serviceWrite (should : Bool) (handle : SocketHandle) (tcpChunkSize : Nat) (v : Service S) :
    Outcome (Service S) :=
  if should then do
    let (stack, stream) ←
      flushPendingToStack handle tcpChunkSize (v.stream.sendBuffer.len + 1) v.stack v.stream
    .ok { v with stack, stream }
  else .ok v

def serviceRead (should : Bool) (handle : SocketHandle) (tcpChunkSize : Nat) (v : Service S) :
    Outcome (Service S) :=
  if should && !v.entry.closeRequested then do
    let (stack, stream) ← fillRecvBuffer handle tcpChunkSize
      (v.stream.recvBuffer.remainingCapacity + 1) v.stack v.stream
    .ok { v with stack, stream }
  else .ok v

def syncConnecting (handle : SocketHandle) (v : Service S) : Outcome (Bool × Service S) := do
  let pastHandshake ← v.stack.tcpIsPastHandshake handle
  let (entry, counters) := syncSocketConnectingCounters v.entry (!pastHandshake) v.counters
  .ok (pastHandshake, { v with entry, counters })

def closeHalves (handle : SocketHandle) (pastHandshake : Bool) (v : Service S) :
    Outcome (Service S) := do
  let mayRecv ← v.stack.tcpMayRecv handle
  let maySend ← v.stack.tcpMaySend handle
  let stream :=
    if pastHandshake && !mayRecv then { v.stream with readClosed := true }.wakeRecv else v.stream
  let stream :=
    if pastHandshake && !maySend then { stream with writeClosed := true }.wakeSend else stream
  .ok { v with stream }

def sendFin (handle : SocketHandle) (v : Service S) : Outcome (Service S) := do
  let maySend ← v.stack.tcpMaySend handle
  if v.entry.closeRequested && !v.entry.finSent && v.stream.sendBuffer.len = 0 && maySend then
    let stack ← v.stack.tcpClose handle
    .ok { v with stack, entry := { v.entry with finSent := true } }
  else
    .ok v

def run (fullSweep : Bool) (handle : SocketHandle) (tcpChunkSize : Nat) (v : Service S) :
    Outcome (Service S) := do
  let w ← (v.begin fullSweep).serviceWrite (v.shouldServiceWrite fullSweep) handle tcpChunkSize
  let w ← w.serviceRead (v.shouldServiceRead fullSweep) handle tcpChunkSize
  let (pastHandshake, w) ← w.syncPollInterest.syncConnecting handle
  let w ← w.closeHalves handle pastHandshake
  w.sendFin handle

end Service

namespace RuntimeState

variable {S : Smoltcp}

def serviceSocket (rt : RuntimeState S) (fullSweep : Bool) (handle : SocketHandle)
    (st : SocketState) : Outcome (RuntimeState S) := do
  let v ← Service.run fullSweep handle rt.tunables.tcpChunkSize
    ⟨rt.stack, st, rt.stream st.stream, rt.counters⟩
  .ok { (rt.setStream st.stream v.stream).setSocket handle v.entry with
    stack := v.stack
    counters := v.counters }

def sweepHandle (fullSweep : Bool) (acc : RuntimeState S × List SocketHandle)
    (handle : SocketHandle) : Outcome (RuntimeState S × List SocketHandle) := do
  if !(← acc.1.stack.tcpIsActive handle) then .ok (acc.1, acc.2 ++ [handle])
  else
    match acc.1.sockets.lookup handle with
    | none => .ok acc
    | some st => do
        let rt ← acc.1.serviceSocket fullSweep handle st
        .ok (rt, acc.2)

def closedStream (c : SocketStreamHandle) : SocketStreamHandle :=
  { c with socketClosed := true, readClosed := true, writeClosed := true }.wakeRecv.wakeSend

def releaseSocket (rt : RuntimeState S) (handle : SocketHandle) : RuntimeState S :=
  match rt.sockets.lookup handle with
  | none => rt
  | some st =>
      let rt := rt.setStream st.stream (closedStream (rt.stream st.stream))
      let rt := { rt with
        sockets := AList.erase handle rt.sockets
        counters := removeSocketPollInterestCounters st rt.counters
        tcpFlowMap := st.flowKey.elim rt.tcpFlowMap (fun key => AList.erase key rt.tcpFlowMap) }
      rt.replyAll st.readyWaiters (.socketState .closed)

def closeHandle (rt : RuntimeState S) (handle : SocketHandle) : Outcome (RuntimeState S) := do
  let rt := rt.releaseSocket handle
  let stack ← rt.stack.removeSocket handle
  .ok { rt with stack, readyTcpSet := rt.readyTcpSet.erase handle }

def targetedBudget (rt : RuntimeState S) : Nat :=
  min (max rt.tunables.targetedTcpSweepBudget 1) (max rt.readyTcpHandles.length 1)

def selectHandles (rt : RuntimeState S) (fullSweep : Bool) : List SocketHandle × RuntimeState S :=
  if fullSweep then (rt.tcpHandles, { rt with readyTcpHandles := [], readyTcpSet := ∅ })
  else
    let handles := rt.readyTcpHandles.take rt.targetedBudget
    (handles,
      { rt with
        readyTcpHandles := rt.readyTcpHandles.drop rt.targetedBudget
        readyTcpSet := rt.readyTcpSet \ handles.toFinset })

def pollTcpSockets (rt : RuntimeState S) (fullSweep : Bool) : Outcome (RuntimeState S) := do
  let (handles, rt) := rt.selectHandles fullSweep
  let (rt, closed) ← Outcome.run (sweepHandle fullSweep) (rt, []) handles
  let rt ← Outcome.run closeHandle rt closed
  .ok { rt with
    tcpHandles := rt.tcpHandles.filter (fun h => h ∉ closed)
    readyTcpHandles := rt.readyTcpHandles.filter (fun h => h ∉ closed) }

def refreshRuntimeStats (rt : RuntimeState S) (transportPendingSendPackets : Nat) :
    RuntimeState S :=
  let pendingToClientBytes :=
    ((Table.values rt.sockets).map (fun st => (rt.stream st.stream).recvBuffer.len)).sum
  rt.setStats (rt.shared.stats.update (Table.size rt.sockets) pendingToClientBytes
    transportPendingSendPackets)

end RuntimeState

end Usque
