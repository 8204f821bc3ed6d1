import Usque.Manager.CommandQueue
import Usque.Manager.DnsExpiry

namespace Usque

variable {S : Smoltcp} {H : Hickory} {rt rt' rt'' : RuntimeState S} {r : OneshotId} {m n : Nat}

def ManagerCommand.asksDns : ManagerCommand → Bool
  | .dnsResolve .. | .dnsResolveAll .. => true
  | _ => false

namespace RuntimeState

-- How often a request waits at a connection, is asked in a DNS group, and has been answered.
def waiting (rt : RuntimeState S) (r : OneshotId) : Nat :=
  Table.total (fun st : SocketState => st.readyWaiters.count r) rt.sockets

def asking (rt : RuntimeState S) (r : OneshotId) : Nat :=
  Table.total (fun g : DnsQueryGroup => g.requesters.count r) rt.dnsGroups

def told (rt : RuntimeState S) (r : OneshotId) : Nat := (rt.shared.replies.map Prod.fst).count r

def due (rt : RuntimeState S) (r : OneshotId) : Nat := rt.waiting r + rt.asking r + rt.told r

theorem told_replyAll (rt : RuntimeState S) (responses : List OneshotId) (value : Reply)
    (hr : r ∉ rt.shared.closedReceivers) :
    (rt.replyAll responses value).told r = rt.told r + responses.count r := by
  rw [replyAll_eq]
  have hsent : ((responses.filter (· ∉ rt.shared.closedReceivers)).map
      (fun q => (q, value))).map Prod.fst = responses.filter (· ∉ rt.shared.closedReceivers) := by
    rw [List.map_map]
    exact List.map_id _
  have hkept : (responses.filter (· ∉ rt.shared.closedReceivers)).count r = responses.count r :=
    List.count_filter (decide_eq_true hr)
  simp only [told, withReplies, List.map_append, List.count_append, hsent, hkept]

end RuntimeState

open RuntimeState

-- The request is held or answered `n` times more; cancelled requests are not counted.
structure Answers (r : OneshotId) (n : Nat) (rt rt' : RuntimeState S) : Prop where
  now : rt'.shared.now = rt.shared.now
  closed : rt'.shared.closedReceivers = rt.shared.closedReceivers
  due : r ∉ rt.shared.closedReceivers → rt'.due r = rt.due r + n

namespace Answers

theorem refl (r : OneshotId) (rt : RuntimeState S) : Answers r 0 rt rt := ⟨rfl, rfl, fun _ => rfl⟩

theorem trans (h : Answers r m rt rt') (k : Answers r n rt' rt'') :
    Answers r (m + n) rt rt'' where
  now := k.now.trans h.now
  closed := k.closed.trans h.closed
  due := by
    intro hr
    rw [k.due (by rwa [h.closed]), h.due hr, Nat.add_assoc]

theorem same (hsockets : rt'.sockets = rt.sockets) (hgroups : rt'.dnsGroups = rt.dnsGroups)
    (hreplies : rt'.shared.replies = rt.shared.replies)
    (hclosed : rt'.shared.closedReceivers = rt.shared.closedReceivers)
    (hnow : rt'.shared.now = rt.shared.now) : Answers r 0 rt rt' := by
  refine ⟨hnow, hclosed, fun _ => ?_⟩
  simp only [RuntimeState.due, waiting, asking, told, hsockets, hgroups, hreplies, Nat.add_zero]

theorem head (h : Answers r 0 rt rt') (k : Answers r n rt' rt'') : Answers r n rt rt'' := by
  have := h.trans k
  rwa [Nat.zero_add] at this

theorem after (k : Answers r n rt' rt'') (h : Answers r 0 rt rt') : Answers r n rt rt'' :=
  h.head k

theorem replyAll (rt : RuntimeState S) (responses : List OneshotId) (value : Reply) :
    Answers r (responses.count r) rt (rt.replyAll responses value) := by
  have htold := told_replyAll (r := r) rt responses value
  rw [replyAll_eq] at htold ⊢
  refine ⟨rfl, rfl, fun hr => ?_⟩
  rw [RuntimeState.due, htold hr, RuntimeState.due]
  exact (Nat.add_assoc _ _ _).symm

theorem reply (rt : RuntimeState S) (response : OneshotId) (value : Reply) :
    Answers r ([response].count r) rt (rt.reply response value) :=
  replyAll rt [response] value

theorem entry {handle : SocketHandle} {st st' : SocketState}
    (hl : rt.sockets.lookup handle = some st)
    (hsockets : rt'.sockets = AList.insert handle st' rt.sockets)
    (hw : st'.readyWaiters = st.readyWaiters) (hgroups : rt'.dnsGroups = rt.dnsGroups)
    (hreplies : rt'.shared.replies = rt.shared.replies)
    (hclosed : rt'.shared.closedReceivers = rt.shared.closedReceivers)
    (hnow : rt'.shared.now = rt.shared.now) : Answers r 0 rt rt' := by
  refine ⟨hnow, hclosed, fun _ => ?_⟩
  have hr := Table.total_replace (fun st : SocketState => st.readyWaiters.count r) hl st'
  simp only [hw] at hr
  simp only [RuntimeState.due, waiting, asking, told, hsockets, hgroups, hreplies]
  omega

theorem putStream (rt : RuntimeState S) (x : StreamId) (c : SocketStreamHandle.Notified) :
    Answers r 0 rt (rt.putStream x c) := by
  rw [putStream_eq]
  exact .same rfl rfl rfl rfl rfl

theorem finishReserved (rt : RuntimeState S) (reservedSlot : Bool) :
    Answers r 0 rt (rt.finishReserved reservedSlot) := by
  cases reservedSlot <;> exact .same rfl rfl rfl rfl rfl

theorem enqueueReady (rt : RuntimeState S) (handle : SocketHandle) :
    Answers r 0 rt (rt.enqueueReadyTcpHandle handle) := by
  simp only [enqueueReadyTcpHandle]
  split <;> exact .same rfl rfl rfl rfl rfl

theorem syncPoll (rt : RuntimeState S) (handle : SocketHandle) :
    Answers r 0 rt (rt.syncSocketPollInterest handle) := by
  cases hl : rt.sockets.lookup handle with
  | none =>
      rw [syncSocketPollInterest_none rt hl]
      exact .refl r rt
  | some st =>
      rw [syncSocketPollInterest_eq st hl]
      exact .entry hl rfl rfl rfl rfl rfl rfl

theorem handleSocketEvent (rt : RuntimeState S) (e : SocketEvent) :
    Answers r 0 rt (rt.handleSocketEvent e) := by
  cases hl : rt.sockets.lookup e.handle with
  | none =>
      rw [handleSocketEvent_none rt hl]
      exact enqueueReady rt e.handle
  | some st =>
      rw [handleSocketEvent_some rt hl]
      exact (enqueueReady _ _).after (.entry hl rfl rfl rfl rfl rfl rfl)

theorem markReady (rt : RuntimeState S) (handle : SocketHandle) (mask : EventMask) :
    Answers r 0 rt (rt.markReadyTcpHandle handle mask) := by
  cases hl : rt.sockets.lookup handle with
  | none =>
      simp only [markReadyTcpHandle, Table.modify_none hl]
      exact enqueueReady _ _
  | some st =>
      simp only [markReadyTcpHandle, Table.modify_some hl]
      exact (enqueueReady _ _).after (.entry hl rfl rfl rfl rfl rfl rfl)

theorem injectIncoming {packet : Packet} (h : rt.injectIncoming packet = .ok rt') :
    Answers r 0 rt rt' := by
  obtain ⟨stack, _, h⟩ := Outcome.bind_eq_ok.mp h
  cases h
  have hnote : Answers r 0 rt (rt.noteIncomingTcpHandle packet) := by
    simp only [noteIncomingTcpHandle]
    split
    · exact .refl r rt
    · exact markReady rt _ _
  exact hnote.head (.same rfl rfl rfl rfl rfl)

theorem insertConnection (rt : RuntimeState S) {handle : SocketHandle} (flowKey : TcpFlowKey)
    (reservedSlot : Bool) (hl : rt.sockets.lookup handle = none) :
    Answers r 0 rt (rt.insertConnection handle flowKey reservedSlot).2 := by
  rw [insertConnection_eq]
  suffices hopen : Answers r 0 rt (rt.withConnection handle flowKey) from
    hopen.head (finishReserved _ reservedSlot)
  refine ⟨rfl, rfl, fun _ => ?_⟩
  have hfresh : Table.total (fun st : SocketState => st.readyWaiters.count r)
      (AList.insert handle (connectingState rt.shared.nextStream flowKey) rt.sockets) =
        0 + Table.total (fun st : SocketState => st.readyWaiters.count r) rt.sockets := by
    rw [Table.total_insert, erase_of_lookup_none hl]
    rfl
  simp only [RuntimeState.due, waiting, asking, told, withConnection, hfresh, newStream,
    setStream]
  omega

theorem createConnection (hs : Slotted rt) {remoteIp : IpAddress}
    {remotePort localPort : UInt16} {tcpBufferSize : Nat} {reservedSlot : Bool}
    {result : Except ManagerError StreamId}
    (h : rt.createConnection remoteIp remotePort localPort tcpBufferSize reservedSlot =
      .ok (result, rt')) : Answers r 0 rt rt' := by
  rcases createConnection_ok h with ⟨_, rfl⟩ | ⟨_, _, _, _, _, _, rfl⟩ | ⟨stack, ho, _, _, rfl⟩
  · exact finishReserved _ _
  · exact (finishReserved _ _).after (.same rfl rfl rfl rfl rfl)
  · have hfree : ({ rt with stack } : RuntimeState S).sockets.lookup
        rt.stack.sockets.lowestFree = none := lookup_opens hs (open?_opens ho)
    exact (insertConnection _ _ _ hfree).after (.same rfl rfl rfl rfl rfl)

theorem sendConnected (rt : RuntimeState S) (response : OneshotId)
    (result : Except ManagerError StreamId) :
    Answers r ([response].count r) rt (rt.sendConnected response result) := by
  cases result with
  | error e => exact reply rt response _
  | ok x =>
      simp only [RuntimeState.sendConnected]
      split
      · next hclosed =>
          obtain ⟨hnow, hrec, hdue⟩ := putStream (r := r) rt x (rt.stream x).drop
          refine ⟨hnow, hrec, fun hr => ?_⟩
          have hne : [response].count r = 0 := by
            rw [List.count_eq_zero, List.mem_singleton]
            rintro rfl
            exact hr hclosed
          rw [hdue hr, hne]
      · exact reply rt response _

theorem closeConnection {handle : SocketHandle} (h : rt.closeConnection handle = .ok rt') :
    Answers r 0 rt rt' := by
  cases hl : rt.sockets.lookup handle with
  | none =>
      simp only [RuntimeState.closeConnection, hl] at h
      obtain ⟨_, _, h⟩ := Outcome.bind_eq_ok.mp h
      obtain ⟨_, _, h⟩ := Outcome.bind_eq_ok.mp h
      cases h
      exact .same rfl rfl rfl rfl rfl
  | some st =>
      simp only [RuntimeState.closeConnection, hl] at h
      cases h
      refine (syncPoll _ handle).after ?_
      obtain ⟨hnow, hclosed, hdue⟩ := putStream (r := r) rt st.stream
        (closingStream (rt.stream st.stream))
      generalize hput : rt.putStream st.stream (closingStream (rt.stream st.stream)) = rt₁
        at hnow hclosed hdue
      have hl₁ : rt₁.sockets.lookup handle = some st := by
        rw [← hput, putStream_eq]
        exact hl
      have hrep := replyAll (r := r) (rt₁.setSocket handle (closingEntry st)) st.readyWaiters
        (.socketState .closed)
      refine ⟨hrep.now.trans hnow, hrep.closed.trans hclosed, fun hr => ?_⟩
      rw [hrep.due (by rwa [← hclosed] at hr), ← hdue hr]
      have hset := Table.total_replace (fun st : SocketState => st.readyWaiters.count r) hl₁
        (closingEntry st)
      simp only [closingEntry, List.count_nil, Nat.add_zero] at hset
      simp only [RuntimeState.due, waiting, asking, told, RuntimeState.setSocket, closingEntry,
        ← hset]
      omega

theorem getSocketState {handle : SocketHandle} {response : OneshotId}
    (h : rt.getSocketState handle response = .ok rt') :
    Answers r ([response].count r) rt rt' := by
  obtain ⟨state, _, rfl⟩ := getSocketState_ok h
  exact reply rt response _

theorem waitSocketReady {handle : SocketHandle} {response : OneshotId}
    (h : rt.waitSocketReady handle response = .ok rt') :
    Answers r ([response].count r) rt rt' := by
  rcases waitSocketReady_ok h with ⟨state, _, rfl⟩ | ⟨st, hl, rfl⟩
  · exact reply rt response _
  · refine ⟨rfl, rfl, fun _ => ?_⟩
    have hset := Table.total_replace (fun st : SocketState => st.readyWaiters.count r) hl
      { st with readyWaiters := st.readyWaiters ++ [response] }
    simp only [List.count_append] at hset
    simp only [RuntimeState.due, waiting, asking, told, RuntimeState.setSocket]
    omega

end Answers

theorem RuntimeState.count_deliver (rt : RuntimeState S) (response : OneshotId) (value : Reply)
    (hr : r ∉ rt.shared.closedReceivers) :
    ((rt.deliver response value).map Prod.fst).count r = [response].count r := by
  simp only [deliver]
  split
  · next hclosed =>
      have hne : r ≠ response := by
        rintro rfl
        exact hr hclosed
      rw [List.map_nil, List.count_nil, List.count_singleton, if_neg (by simpa using hne.symm)]
  · rfl

theorem RuntimeState.count_oneReplies (rt : RuntimeState S) (group : DnsQueryGroup)
    (hr : r ∉ rt.shared.closedReceivers) :
    ((rt.oneReplies group).map Prod.fst).count r + group.afterAnswer.requesters.count r =
      group.requesters.count r := by
  rcases Option.eq_none_or_eq_some group.response with hres | ⟨response, hres⟩
  · simp [oneReplies, DnsQueryGroup.afterAnswer, DnsQueryGroup.answered, hres]
  · rcases Option.eq_none_or_eq_some group.result with hval | ⟨result, hval⟩
    · simp [oneReplies, DnsQueryGroup.afterAnswer, DnsQueryGroup.answered, hres, hval]
    · have hanswered : group.answered = true := by
        rw [DnsQueryGroup.answered, hres, hval]
        rfl
      rw [DnsQueryGroup.afterAnswer, if_pos hanswered]
      simp only [oneReplies, hres, hval, count_deliver rt _ _ hr, DnsQueryGroup.requesters,
        List.count_append, Option.toList_some, Option.toList_none, List.count_nil, Nat.zero_add]

theorem RuntimeState.count_allReplies (rt : RuntimeState S) (group : DnsQueryGroup)
    (hr : r ∉ rt.shared.closedReceivers) :
    ((rt.allReplies group).map Prod.fst).count r = group.responseAll.toList.count r := by
  simp only [allReplies]
  split
  · next hnone =>
      rw [hnone]
      rfl
  · next response hsome => rw [count_deliver rt _ _ hr, hsome, Option.toList_some]

theorem DnsQueryGroup.requesters_afterAnswer {group : DnsQueryGroup}
    (hc : group.complete = true) : group.afterAnswer.requesters = group.responseAll.toList := by
  have hval := DnsQueryGroup.result_of_complete hc
  rcases Option.eq_none_or_eq_some group.response with hres | ⟨response, hres⟩
  · simp [DnsQueryGroup.afterAnswer, DnsQueryGroup.answered, DnsQueryGroup.requesters, hres]
  · simp [DnsQueryGroup.afterAnswer, DnsQueryGroup.answered, DnsQueryGroup.requesters, hres, hval]

theorem RuntimeState.count_timeoutReplies (rt : RuntimeState S) (group : DnsQueryGroup)
    (hr : r ∉ rt.shared.closedReceivers) :
    ((rt.timeoutReplies group).map Prod.fst).count r = group.requesters.count r := by
  have hone : ∀ (o : Option OneshotId) (value : Reply),
      ((o.toList.flatMap (fun q => rt.deliver q value)).map Prod.fst).count r =
        o.toList.count r := by
    intro o value
    cases o with
    | none => rfl
    | some response =>
        rw [Option.toList_some, List.flatMap_singleton]
        exact count_deliver rt _ _ hr
  simp only [timeoutReplies, DnsQueryGroup.requesters, List.map_append, List.count_append, hone]

-- The same of the requests in DNS groups, in a step that leaves the connections alone.
structure Asks (r : OneshotId) (n : Nat) (rt rt' : RuntimeState S) : Prop where
  now : rt'.shared.now = rt.shared.now
  closed : rt'.shared.closedReceivers = rt.shared.closedReceivers
  asked : r ∉ rt.shared.closedReceivers →
    rt'.asking r + rt'.told r = rt.asking r + rt.told r + n

namespace Asks

theorem refl (r : OneshotId) (rt : RuntimeState S) : Asks r 0 rt rt := ⟨rfl, rfl, fun _ => rfl⟩

theorem trans (h : Asks r n rt rt') (k : Asks r 0 rt' rt'') : Asks r n rt rt'' where
  now := k.now.trans h.now
  closed := k.closed.trans h.closed
  asked := by
    intro hr
    rw [k.asked (by rwa [h.closed]), h.asked hr, Nat.add_zero]

theorem answers (h : Asks r n rt rt') (hsockets : rt'.sockets = rt.sockets) :
    Answers r n rt rt' := by
  refine ⟨h.now, h.closed, fun hr => ?_⟩
  have ha := h.asked hr
  simp only [RuntimeState.due, waiting, hsockets]
  omega

theorem same (h : SameDns rt rt') : Asks r 0 rt rt' := by
  refine ⟨h.now, h.closed, fun _ => ?_⟩
  simp only [asking, told, h.groups, h.replies, Nat.add_zero]

theorem takeQuery (rt : RuntimeState S) (txId : UInt16) : Asks r 0 rt (rt.takeQuery txId) :=
  ⟨rfl, rfl, fun _ => rfl⟩

theorem insertQuery (rt : RuntimeState S) (txId : UInt16) (query : DnsQueryState) :
    Asks r 0 rt (rt.insertQuery txId query) :=
  ⟨rfl, rfl, fun _ => rfl⟩

theorem recordResult (rt : RuntimeState S) (groupId : UInt32) (queryType : DnsRecordType)
    (result : DnsResult) : Asks r 0 rt (rt.recordResult groupId queryType result) := by
  refine ⟨rfl, rfl, fun _ => ?_⟩
  have hmod := Table.total_modify (fun g : DnsQueryGroup => g.requesters.count r) rt.dnsGroups
    groupId (g := fun g => g.record queryType result)
    (fun g => by rw [DnsQueryGroup.requesters_record])
  simp only [asking, told, RuntimeState.recordResult, hmod, Nat.add_zero]

theorem tryResolve (rt : RuntimeState S) (groupId : UInt32) :
    Asks r 0 rt (rt.tryResolveDnsGroup groupId) := by
  cases hl : rt.dnsGroups.lookup groupId with
  | none =>
      rw [tryResolveDnsGroup_none hl]
      exact .refl r rt
  | some group =>
      rw [tryResolveDnsGroup_eq hl]
      refine ⟨rfl, rfl, fun hr => ?_⟩
      have hone := count_oneReplies rt group hr
      simp only [asking, told, withDns, resolvedGroups, List.map_append, List.count_append]
      split_ifs with hc ha
      · have hall := count_allReplies rt group hr
        rw [DnsQueryGroup.requesters_afterAnswer hc] at hone
        have herase := Table.total_of_lookup
          (fun g : DnsQueryGroup => g.requesters.count r) hl
        omega
      · have hset := Table.total_replace (fun g : DnsQueryGroup => g.requesters.count r) hl
          group.afterAnswer
        simp only [List.map_nil, List.count_nil]
        omega
      · have hsame : group.afterAnswer = group := by
          rw [DnsQueryGroup.afterAnswer, if_neg ha]
        rw [hsame] at hone
        simp only [List.map_nil, List.count_nil]
        omega

theorem dispatch {groupId : UInt32} {domain : String} {dnsHandle : SocketHandle}
    {dnsServer : IpAddress} {queryType : DnsRecordType} {logLabel : String}
    (h : rt.dispatchDnsQuery H groupId domain dnsHandle dnsServer queryType logLabel = .ok rt') :
    Asks r 0 rt rt' := by
  obtain ⟨rt₁, hsame, ⟨txId, _, rfl⟩ | ⟨e, rfl⟩⟩ := dispatchDnsQuery_cases h
  · exact (same hsame).trans (insertQuery _ _ _)
  · exact ((same hsame).trans (recordResult _ _ _ _)).trans (tryResolve _ _)

theorem openGroup (rt : RuntimeState S) {groupId : UInt32} (group : DnsQueryGroup)
    (hl : rt.dnsGroups.lookup groupId = none) :
    Asks r (group.requesters.count r) rt (rt.openGroup groupId group) := by
  refine ⟨rfl, rfl, fun _ => ?_⟩
  have hfresh : AList.erase groupId rt.dnsGroups = rt.dnsGroups :=
    AList.ext (List.kerase_of_notMem_keys (AList.lookup_eq_none.mp hl))
  simp only [asking, told, RuntimeState.openGroup, Table.total_insert, hfresh]
  omega

theorem started {domain : String} {preferIpv6 resolveAll : Bool}
    {response responseAll : Option OneshotId} {dnsServers : List IpAddress}
    (h : rt.startDnsQueryFor H domain preferIpv6 resolveAll response responseAll dnsServers =
      .ok rt') :
    Asks r 0 (rt.openGroup rt.shared.statics.dnsGroupId
      (rt.newGroup domain preferIpv6 response responseAll)) rt' := by
  obtain ⟨rt₁, hsame, ⟨e, rfl⟩ | ⟨_, _, rt₂, h₂, h₃⟩⟩ := startDnsQueryFor_cases h
  · exact (((same hsame).trans (recordResult _ _ _ _)).trans (recordResult _ _ _ _)).trans
      (tryResolve _ _)
  · exact ((same hsame).trans (dispatch h₂)).trans (dispatch h₃)

theorem start {domain : String} {preferIpv6 resolveAll : Bool}
    {response responseAll : Option OneshotId} {dnsServers : List IpAddress}
    (hl : rt.dnsGroups.lookup rt.shared.statics.dnsGroupId = none)
    (h : rt.startDnsQueryFor H domain preferIpv6 resolveAll response responseAll dnsServers =
      .ok rt') : Asks r ((response.toList ++ responseAll.toList).count r) rt rt' :=
  (openGroup rt _ hl).trans (started h)

theorem accept (H : Hickory) (rt : RuntimeState S) (data : List UInt8) :
    Asks r 0 rt (rt.acceptDnsResponse H data) := by
  rcases acceptDnsResponse_cases H rt data with he | ⟨txId, result, query, _, _, he⟩
  · rw [he]
    exact .refl r rt
  · rw [he]
    exact ((takeQuery rt txId).trans (recordResult _ _ _ _)).trans (tryResolve _ _)

theorem receiveDnsResponses {handle : SocketHandle} {fuel : Nat}
    (h : receiveDnsResponses H handle fuel rt = .ok rt') : Asks r 0 rt rt' := by
  induction fuel generalizing rt with
  | zero => cases h
  | succ fuel ih =>
      simp only [RuntimeState.receiveDnsResponses] at h
      obtain ⟨can, _, h⟩ := Outcome.bind_eq_ok.mp h
      split_ifs at h
      · cases h
        exact .refl r _
      · obtain ⟨⟨received, stack⟩, _, h⟩ := Outcome.bind_eq_ok.mp h
        have hstack : Asks r 0 rt { rt with stack } := ⟨rfl, rfl, fun _ => rfl⟩
        dsimp only at h
        split at h
        · cases h
          exact hstack
        · split_ifs at h
          · exact hstack.trans (ih h)
          · exact (hstack.trans (accept H _ _)).trans (ih h)

theorem processDnsResponses (h : rt.processDnsResponses H = .ok rt') : Asks r 0 rt rt' :=
  Outcome.run_invariant (P := Asks r 0 rt) (fun _ _ _ hp hr => hp.trans (.receiveDnsResponses hr))
    h (.refl r rt)

theorem processUdpResponses (h : rt.processUdpResponses = .ok rt') : Asks r 0 rt rt' := by
  refine Outcome.run_invariant (P := Asks r 0 rt) ?_ h (.refl r rt)
  intro rt₁ port rt₂ h₁ hu
  refine h₁.trans ?_
  simp only [processUdpResponse] at hu
  split at hu
  · cases hu
    exact .refl r rt₁
  · obtain ⟨can, _, hu⟩ := Outcome.bind_eq_ok.mp hu
    split_ifs at hu
    · cases hu
      exact .refl r rt₁
    · obtain ⟨⟨received, stack⟩, _, hu⟩ := Outcome.bind_eq_ok.mp hu
      dsimp only at hu
      split at hu
      · cases hu
        exact ⟨rfl, rfl, fun _ => rfl⟩
      · split_ifs at hu <;> cases hu <;> exact ⟨rfl, rfl, fun _ => rfl⟩

theorem expireDnsGroup (rt : RuntimeState S) (groupId : UInt32) :
    Asks r 0 rt (rt.expireDnsGroup groupId) := by
  cases hl : rt.dnsGroups.lookup groupId with
  | none =>
      rw [expireDnsGroup_none hl]
      exact .refl r rt
  | some group =>
      rw [expireDnsGroup_eq hl]
      refine ⟨rfl, rfl, fun hr => ?_⟩
      have htimeout := count_timeoutReplies rt group hr
      have herase := Table.total_of_lookup (fun g : DnsQueryGroup => g.requesters.count r) hl
      simp only [asking, told, withDns, List.map_append, List.count_append]
      omega

theorem expireDnsGroups (rt : RuntimeState S) : Asks r 0 rt rt.expireDnsGroups :=
  List.foldlRecOn _ _ (.refl r rt) (fun _ h groupId _ => h.trans (expireDnsGroup _ groupId))

theorem expireUdpSessions (h : rt.expireUdpSessions = .ok rt') : Asks r 0 rt rt' := by
  obtain ⟨rt₁, hrun, h⟩ := Outcome.bind_eq_ok.mp h
  cases h
  have hclose : Asks r 0 rt rt₁ := by
    refine Outcome.run_invariant (P := Asks r 0 rt) ?_ hrun (.refl r rt)
    intro rt₂ port rt₃ h₂ hc
    refine h₂.trans ?_
    simp only [closeUdpSession] at hc
    split at hc
    · cases hc
      exact .refl r rt₂
    · obtain ⟨_, _, hc⟩ := Outcome.bind_eq_ok.mp hc
      cases hc
      exact ⟨rfl, rfl, fun _ => rfl⟩
  exact hclose.trans ⟨rfl, rfl, fun _ => rfl⟩

end Asks

namespace RuntimeState

-- What notify_ready_waiters has still to tell the waiters that it took off the connections.
def noted (notes : Notifications) (r : OneshotId) : Nat :=
  (notes.map (fun n => n.1.count r)).sum

structure Moved (r : OneshotId) (rt : RuntimeState S) (acc : RuntimeState S × Notifications) :
    Prop where
  shared : acc.1.shared = rt.shared
  groups : acc.1.dnsGroups = rt.dnsGroups
  waiters : acc.1.waiting r + noted acc.2 r = rt.waiting r

theorem takeReadyWaiters_moved {acc acc' : RuntimeState S × Notifications}
    {handle : SocketHandle} (hm : Moved r rt acc) (h : takeReadyWaiters acc handle = .ok acc') :
    Moved r rt acc' := by
  rcases takeReadyWaiters_cases h with rfl | ⟨st, state, hl, _, rfl⟩
  · exact hm
  · refine ⟨hm.shared, hm.groups, ?_⟩
    have hset := Table.total_replace (fun st : SocketState => st.readyWaiters.count r) hl
      { st with readyWaiters := [] }
    have hw := hm.waiters
    simp only [List.count_nil, Nat.add_zero] at hset
    simp only [waiting, noted, RuntimeState.setSocket, List.map_append, List.sum_append,
      List.map_cons, List.map_nil, List.sum_cons, List.sum_nil] at hset hw ⊢
    omega

end RuntimeState

namespace Answers

theorem notify (notes : Notifications) (rt : RuntimeState S) :
    Answers r (noted notes r) rt
      (notes.foldl (fun rt n => rt.replyAll n.1 (.socketState n.2)) rt) := by
  induction notes generalizing rt with
  | nil => exact .refl r rt
  | cons n notes ih =>
      simp only [noted, List.map_cons, List.sum_cons, List.foldl_cons]
      exact (replyAll rt n.1 (.socketState n.2)).trans (ih _)

theorem notifyReadyWaiters (h : rt.notifyReadyWaiters = .ok rt') : Answers r 0 rt rt' := by
  obtain ⟨acc, hrun, h⟩ := Outcome.bind_eq_ok.mp h
  cases h
  have hm : Moved r rt acc :=
    Outcome.run_invariant (P := Moved r rt) (fun _ _ _ hm => takeReadyWaiters_moved hm) hrun
      ⟨rfl, rfl, rfl⟩
  obtain ⟨hnow, hclosed, hdue⟩ := notify (r := r) acc.2 acc.1
  rw [hm.shared] at hnow hclosed hdue
  refine ⟨hnow, hclosed, fun hr => ?_⟩
  have hw := hm.waiters
  rw [hdue hr]
  simp only [RuntimeState.due, asking, told, hm.shared, hm.groups]
  omega

theorem serviceSocket {fullSweep : Bool} {handle : SocketHandle} {st : SocketState}
    (hl : rt.sockets.lookup handle = some st)
    (h : rt.serviceSocket fullSweep handle st = .ok rt') : Answers r 0 rt rt' := by
  obtain ⟨v, hv, rfl⟩ := serviceSocket_ok h
  exact .entry hl rfl (Service.run_frame hv).task.2.2 rfl rfl rfl rfl

theorem sweepHandle {fullSweep : Bool} {acc acc' : RuntimeState S × List SocketHandle}
    {handle : SocketHandle} (h : RuntimeState.sweepHandle fullSweep acc handle = .ok acc') :
    Answers r 0 acc.1 acc'.1 := by
  obtain ⟨active, _, h⟩ := Outcome.bind_eq_ok.mp h
  split at h
  · cases h
    exact .refl r _
  · split at h
    · cases h
      exact .refl r _
    · next st hl =>
        obtain ⟨rt₁, hserv, h⟩ := Outcome.bind_eq_ok.mp h
        cases h
        exact serviceSocket hl hserv

theorem releaseSocket (rt : RuntimeState S) (handle : SocketHandle) :
    Answers r 0 rt (rt.releaseSocket handle) := by
  cases hl : rt.sockets.lookup handle with
  | none =>
      simp only [RuntimeState.releaseSocket, hl]
      exact .refl r rt
  | some st =>
      simp only [RuntimeState.releaseSocket, hl]
      obtain ⟨hnow, hclosed, hdue⟩ := replyAll (r := r)
        { rt.setStream st.stream (closedStream (rt.stream st.stream)) with
          sockets := AList.erase handle rt.sockets
          counters := removeSocketPollInterestCounters st rt.counters
          tcpFlowMap := st.flowKey.elim rt.tcpFlowMap (fun key => AList.erase key rt.tcpFlowMap) }
        st.readyWaiters (.socketState .closed)
      refine ⟨hnow, hclosed, fun hr => (hdue hr).trans ?_⟩
      have hw := Table.total_of_lookup (fun st : SocketState => st.readyWaiters.count r) hl
      simp only [RuntimeState.due, waiting, asking, told, setStream]
      omega

theorem retire {handle : SocketHandle} (h : RuntimeState.retire rt handle = .ok rt') :
    Answers r 0 rt rt' := by
  obtain ⟨rt₁, hclose, h⟩ := Outcome.bind_eq_ok.mp h
  cases h
  obtain ⟨stack, _, hclose⟩ := Outcome.bind_eq_ok.mp hclose
  cases hclose
  exact (releaseSocket rt handle).head (.same rfl rfl rfl rfl rfl)

theorem pollTcpSockets {fullSweep : Bool} (h : rt.pollTcpSockets fullSweep = .ok rt') :
    Answers r 0 rt rt' := by
  rw [pollTcpSockets_eq] at h
  obtain ⟨acc, hsweep, h⟩ := Outcome.bind_eq_ok.mp h
  have hselect : Answers r 0 rt (rt.selectHandles fullSweep).2 := by
    simp only [selectHandles]
    split_ifs <;> exact .same rfl rfl rfl rfl rfl
  have hswept : Answers r 0 rt acc.1 :=
    Outcome.run_invariant (P := fun acc => Answers r 0 rt acc.1)
      (fun _ _ _ hp hs => hp.trans (sweepHandle hs)) hsweep hselect
  exact Outcome.run_invariant (P := Answers r 0 rt) (fun _ _ _ hp hr => hp.trans (retire hr)) h
    hswept

theorem injectAccepted {tunnel : ActiveTunnel} {decrypted : Option Packet}
    {event : TransportIoEvent} {ingress : Bool}
    (h : tunnel.handleTransportIoEvent rt decrypted event = .ok (ingress, rt')) :
    Answers r 0 rt rt' := by
  cases event with
  | incoming data =>
      simp only [ActiveTunnel.handleTransportIoEvent, ActiveTunnel.handleIncomingDatagram] at h
      split at h
      · obtain ⟨rt₁, hi, h⟩ := Outcome.bind_eq_ok.mp h
        cases h
        exact injectIncoming hi
      · split at h
        · cases h
          exact .refl r rt
        · obtain ⟨rt₁, hi, h⟩ := Outcome.bind_eq_ok.mp h
          cases h
          exact injectIncoming hi
  | quicFlush | masqueBlocked =>
      cases h
      exact .refl r rt

theorem drainStackPackets (tunnel : ActiveTunnel) (rt : RuntimeState S)
    (results : List SendResult) : Answers r 0 rt (tunnel.drainStackPackets rt results).2 := by
  simp only [ActiveTunnel.drainStackPackets]
  split_ifs
  · exact .refl r rt
  · split <;> exact .same rfl rfl rfl rfl rfl

theorem registerUdpSession (rt : RuntimeState S) (localPort : UInt16) (response : OneshotId) :
    Answers r ([response].count r) rt (rt.registerUdpSession localPort response) := by
  simp only [RuntimeState.registerUdpSession]
  split
  · exact reply rt response _
  · exact (reply _ response _).after (.same rfl rfl rfl rfl rfl)

theorem unregisterUdpSession {localPort : UInt16}
    (h : rt.unregisterUdpSession localPort = .ok rt') : Answers r 0 rt rt' := by
  obtain ⟨rt₁, hclose, h⟩ := Outcome.bind_eq_ok.mp h
  cases h
  simp only [closeUdpSession] at hclose
  split at hclose
  · cases hclose
    exact .same rfl rfl rfl rfl rfl
  · obtain ⟨_, _, hclose⟩ := Outcome.bind_eq_ok.mp hclose
    cases hclose
    exact .same rfl rfl rfl rfl rfl

theorem handleUdpSend {cmd : UdpSend} (h : rt.handleUdpSend cmd = .ok rt') :
    Answers r 0 rt rt' := by
  simp only [RuntimeState.handleUdpSend, sendUdpData] at h
  split at h
  · cases h
    exact .refl r rt
  · obtain ⟨_, _, h⟩ := Outcome.bind_eq_ok.mp h
    cases h
    exact .same rfl rfl rfl rfl rfl

theorem handleCommandDisconnected (rt : RuntimeState S) (cmd : ManagerCommand) :
    Answers r (cmd.response.toList.count r) rt (rt.handleCommandDisconnected cmd) := by
  cases cmd with
  | connect remoteIp remotePort localPort reservedSlot response =>
      exact (reply _ response _).after (finishReserved rt reservedSlot)
  | close _ _ | udpUnregister _ => exact .refl r rt
  | dnsResolve _ _ response | dnsResolveAll _ response | udpRegister _ response
  | getSocketState _ response _ | waitSocketReady _ response _ => exact reply rt response _

-- The commands other than the two that start a resolution.
theorem handleOther (hs : Slotted rt) {dnsServers : List IpAddress} {tcpBufferSize draw : Nat}
    {cmd : ManagerCommand} (hcmd : cmd.asksDns = false)
    (h : rt.handleCommand H dnsServers tcpBufferSize draw cmd = .ok rt') :
    Answers r (cmd.response.toList.count r) rt rt' := by
  cases cmd with
  | connect remoteIp remotePort localPort reservedSlot response =>
      obtain ⟨⟨result, rt₁⟩, hcreate, h⟩ := Outcome.bind_eq_ok.mp h
      cases h
      exact (sendConnected _ response result).after (createConnection hs hcreate)
  | close handle source => exact closeConnection h
  | dnsResolve _ _ _ | dnsResolveAll _ _ => cases hcmd
  | udpRegister localPort response =>
      cases h
      exact registerUdpSession rt localPort response
  | udpUnregister localPort => exact unregisterUdpSession h
  | getSocketState handle response source => exact getSocketState h
  | waitSocketReady handle response source => exact waitSocketReady h

theorem handleCommand_now (hs : Slotted rt) {dnsServers : List IpAddress}
    {tcpBufferSize draw : Nat} {cmd : ManagerCommand}
    (h : rt.handleCommand H dnsServers tcpBufferSize draw cmd = .ok rt') :
    rt'.shared.now = rt.shared.now := by
  cases cmd with
  | dnsResolve domain preferIpv6 response =>
      simp only [RuntimeState.handleCommand] at h
      split at h
      · cases h
        exact (reply (r := response) rt response _).now
      · exact (Asks.started (r := response) h).now
  | dnsResolveAll domain response =>
      simp only [RuntimeState.handleCommand] at h
      split at h
      · cases h
        exact (reply (r := response) rt response _).now
      · exact (Asks.started (r := response) h).now
  | connect _ _ _ _ response | udpRegister _ response | getSocketState _ response _
  | waitSocketReady _ response _ => exact (handleOther (r := response) hs rfl h).now
  | close _ _ | udpUnregister _ => exact (handleOther (r := 0) hs rfl h).now

variable (hS : S.KeepsSockets)

include hS

theorem startDns (hs : Slotted rt) {domain : String} {preferIpv6 resolveAll : Bool}
    {response responseAll : Option OneshotId} {dnsServers : List IpAddress}
    (hl : rt.dnsGroups.lookup rt.shared.statics.dnsGroupId = none)
    (h : rt.startDnsQueryFor H domain preferIpv6 resolveAll response responseAll dnsServers =
      .ok rt') : Answers r ((response.toList ++ responseAll.toList).count r) rt rt' :=
  (Asks.start hl h).answers ((startDnsQueryFor_settles (P := .any) hS (fun _ _ => trivial) H hs
    _ _ _ _ _ _ (fun _ => trivial)).settled h).aside.sockets

theorem handleCommand (hs : Slotted rt) {dnsServers : List IpAddress}
    {tcpBufferSize draw : Nat} {cmd : ManagerCommand}
    (hl : rt.dnsGroups.lookup rt.shared.statics.dnsGroupId = none)
    (h : rt.handleCommand H dnsServers tcpBufferSize draw cmd = .ok rt') :
    Answers r (cmd.response.toList.count r) rt rt' := by
  cases cmd with
  | dnsResolve domain preferIpv6 response =>
      simp only [RuntimeState.handleCommand] at h
      split at h
      · cases h
        exact reply rt response _
      · exact startDns hS hs hl h
  | dnsResolveAll domain response =>
      simp only [RuntimeState.handleCommand] at h
      split at h
      · cases h
        exact reply rt response _
      · exact startDns hS hs hl h
  | connect _ _ _ _ _ | close _ _ | udpRegister _ _ | udpUnregister _ | getSocketState _ _ _
  | waitSocketReady _ _ _ => exact handleOther hs rfl h

theorem pollStackCommon (hc : Consistent rt) {full : Bool} {sweep : Option Bool}
    (h : rt.pollStackCommon H full = .ok (.polled sweep rt')) : Answers r 0 rt rt' := by
  simp only [RuntimeState.pollStackCommon] at h
  split at h
  · cases h
  · next outcome stack hpoll =>
      obtain ⟨rt₁, h₁, h⟩ := Outcome.bind_eq_ok.mp h
      cases h
      have hpolled : Answers r 0 rt { rt with stack } := .same rfl rfl rfl rfl rfl
      refine hpolled.head ?_
      have hc' := (Effect.poll (R := .any S) trivial hpoll).consistent hS hc
      simp only [processStateChange] at h₁
      split at h₁
      · obtain ⟨rt₂, h₂, h₁⟩ := Outcome.bind_eq_ok.mp h₁
        have hs := ((notifyReadyWaiters_effects (R := .any S) hS hc' h₂).consistent hS hc').slotted
        have hkept := ((afterNotify_settles (P := .any) hS H trivial hs).settled h₁).aside.sockets
        refine (notifyReadyWaiters h₂).head ?_
        obtain ⟨rt₃, h₃, h₁⟩ := Outcome.bind_eq_ok.mp h₁
        obtain ⟨rt₄, h₄, h₁⟩ := Outcome.bind_eq_ok.mp h₁
        exact ((((Asks.processDnsResponses h₃).trans (.processUdpResponses h₄)).trans
          (.expireDnsGroups rt₄)).trans (.expireUdpSessions h₁)).answers hkept
      · cases h₁
        exact .refl r _

end Answers

end Usque
