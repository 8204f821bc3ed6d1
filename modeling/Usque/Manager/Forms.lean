import Usque.Manager.Aside

namespace Usque

variable {S : Smoltcp} {rt rt' : RuntimeState S}

namespace RuntimeState

@[simp] theorem stream_setStream (rt : RuntimeState S) (x y : StreamId) (c : SocketStreamHandle) :
    (rt.setStream x c).stream y = if y = x then c else rt.stream y := by
  simp only [stream, setStream, Function.update_apply]

theorem putStream_eq (rt : RuntimeState S) (x : StreamId) (n : SocketStreamHandle.Notified) :
    rt.putStream x n =
      { rt.setStream x n.1 with
        socketEvents := rt.socketEvents ++
          if n.1.socketNotifier = rt.session then
            n.2.map (fun kind => ⟨n.1.handle, kind, x⟩)
          else [] } := by
  simp only [putStream]
  split_ifs
  · rfl
  · rw [List.append_nil]
    rfl

@[simp] theorem stream_putStream (rt : RuntimeState S) (x y : StreamId)
    (n : SocketStreamHandle.Notified) :
    (rt.putStream x n).stream y = if y = x then n.1 else rt.stream y := by
  rw [putStream_eq]
  exact stream_setStream rt x y n.1

def withReplies (rt : RuntimeState S) (replies : List (OneshotId × Reply)) : RuntimeState S :=
  { rt with shared := { rt.shared with replies } }

theorem reply_eq (rt : RuntimeState S) (response : OneshotId) (value : Reply) :
    rt.reply response value =
      rt.withReplies (rt.shared.replies ++
        if response ∈ rt.shared.closedReceivers then [] else [(response, value)]) := by
  simp only [reply]
  split_ifs
  · rw [List.append_nil]
    rfl
  · rfl

theorem replyAll_eq (rt : RuntimeState S) (responses : List OneshotId) (value : Reply) :
    rt.replyAll responses value =
      rt.withReplies (rt.shared.replies ++
        (responses.filter (· ∉ rt.shared.closedReceivers)).map (fun r => (r, value))) := by
  induction responses generalizing rt with
  | nil =>
      rw [List.filter_nil, List.map_nil, List.append_nil]
      rfl
  | cons response responses ih =>
      show (rt.reply response value).replyAll responses value = _
      rw [ih, reply_eq]
      by_cases hm : response ∈ rt.shared.closedReceivers
      · simp [hm, withReplies]
      · simp [hm, withReplies]

theorem syncSocketPollInterest_eq {handle : SocketHandle} (st : SocketState)
    (hl : rt.sockets.lookup handle = some st) :
    rt.syncSocketPollInterest handle =
      { rt with
        sockets := AList.insert handle
          (syncSocketPollInterestCounters st (rt.stream st.stream) rt.counters).1 rt.sockets
        counters := (syncSocketPollInterestCounters st (rt.stream st.stream) rt.counters).2 } := by
  simp only [syncSocketPollInterest, hl]
  rfl

theorem syncSocketPollInterest_none (rt : RuntimeState S) {handle : SocketHandle}
    (hl : rt.sockets.lookup handle = none) : rt.syncSocketPollInterest handle = rt := by
  simp only [syncSocketPollInterest, hl]

theorem setSocket_sync (rt : RuntimeState S) (handle : SocketHandle) (st : SocketState) :
    (rt.setSocket handle st).syncSocketPollInterest handle =
      { rt with
        sockets := AList.insert handle
          (syncSocketPollInterestCounters st (rt.stream st.stream) rt.counters).1 rt.sockets
        counters := (syncSocketPollInterestCounters st (rt.stream st.stream) rt.counters).2 } := by
  rw [syncSocketPollInterest_eq st (AList.lookup_insert _)]
  simp only [setSocket, AList.insert_insert]
  rfl

theorem closeConnection_eq {handle : SocketHandle} {st : SocketState}
    (hl : rt.sockets.lookup handle = some st) :
    ∃ replies, rt.closeConnection handle =
      .ok ({ rt.putStream st.stream (closingStream (rt.stream st.stream)) with
        sockets := AList.insert handle
          (syncSocketPollInterestCounters (closingEntry st)
            (closingStream (rt.stream st.stream)).1 rt.counters).1 rt.sockets
        counters := (syncSocketPollInterestCounters (closingEntry st)
            (closingStream (rt.stream st.stream)).1 rt.counters).2 }.withReplies replies) := by
  simp only [closeConnection, hl]
  generalize hn : closingStream (rt.stream st.stream) = n
  rw [replyAll_eq]
  generalize (((rt.putStream st.stream n).setSocket handle (closingEntry st)).shared.replies ++
    _ : List (OneshotId × Reply)) = replies
  have hx : ((rt.putStream st.stream n).withReplies replies).stream (closingEntry st).stream =
      n.1 := by
    show (rt.putStream st.stream n).stream st.stream = n.1
    rw [stream_putStream, if_pos rfl]
  have hs := setSocket_sync ((rt.putStream st.stream n).withReplies replies) handle
    (closingEntry st)
  rw [hx] at hs
  refine ⟨replies, congrArg Except.ok (hs.trans ?_)⟩
  rw [putStream_eq]
  rfl

theorem handleSocketEvent_none (rt : RuntimeState S) {e : SocketEvent}
    (hl : rt.sockets.lookup e.handle = none) :
    rt.handleSocketEvent e = rt.enqueueReadyTcpHandle e.handle := by
  simp only [handleSocketEvent, Table.modify, hl]
  rw [syncSocketPollInterest_none { rt with sockets := rt.sockets } hl]

theorem handleSocketEvent_some (rt : RuntimeState S) {e : SocketEvent} {st : SocketState}
    (hl : rt.sockets.lookup e.handle = some st) :
    rt.handleSocketEvent e =
      { rt with
        sockets := AList.insert e.handle
          (syncSocketPollInterestCounters (noteEvent e.kind st) (rt.stream st.stream)
            rt.counters).1 rt.sockets
        counters := (syncSocketPollInterestCounters (noteEvent e.kind st) (rt.stream st.stream)
            rt.counters).2 }.enqueueReadyTcpHandle e.handle := by
  simp only [handleSocketEvent, Table.modify, hl]
  exact congrArg (fun rt : RuntimeState S => rt.enqueueReadyTcpHandle e.handle)
    (setSocket_sync rt e.handle (noteEvent e.kind st))

theorem setSocket_syncConnecting (rt : RuntimeState S) (handle : SocketHandle)
    (st : SocketState) (isConnecting : Bool) :
    (rt.setSocket handle st).syncSocketConnectingState handle isConnecting =
      { rt with
        sockets := AList.insert handle
          (syncSocketConnectingCounters st isConnecting rt.counters).1 rt.sockets
        counters := (syncSocketConnectingCounters st isConnecting rt.counters).2 } := by
  have hl : (rt.setSocket handle st).sockets.lookup handle = some st := AList.lookup_insert _
  simp only [syncSocketConnectingState, hl]
  simp only [setSocket, AList.insert_insert]

def connectingState (x : StreamId) (flowKey : TcpFlowKey) : SocketState :=
  { newSocketState x flowKey with countedConnecting := true }

def newControl (rt : RuntimeState S) (handle : SocketHandle) : SocketStreamHandle :=
  .new handle rt.tunables.maxPendingData rt.tunables.maxPendingToClient rt.session

theorem stream_newStream (rt : RuntimeState S) (handle : SocketHandle) (y : StreamId) :
    (rt.newStream handle).2.stream y =
      if y = rt.shared.nextStream then rt.newControl handle else rt.stream y :=
  stream_setStream rt rt.shared.nextStream y (rt.newControl handle)

theorem sync_newSocketState (x : StreamId) (flowKey : TcpFlowKey) (rt : RuntimeState S)
    (handle : SocketHandle) (n : PollCounters) :
    syncSocketPollInterestCounters (newSocketState x flowKey) (rt.newControl handle) n =
      (newSocketState x flowKey, n) := by
  simp [syncSocketPollInterestCounters, newControl, SocketStreamHandle.new, newSocketState,
    syncCount]

def withConnection (rt : RuntimeState S) (handle : SocketHandle) (flowKey : TcpFlowKey) :
    RuntimeState S :=
  { (rt.newStream handle).2 with
    sockets := AList.insert handle (connectingState rt.shared.nextStream flowKey) rt.sockets
    counters := { rt.counters with connectingSockets := rt.counters.connectingSockets + 1 }
    tcpFlowMap := AList.insert flowKey handle rt.tcpFlowMap
    tcpHandles := rt.tcpHandles ++ [handle] }

theorem lookup_withConnection (rt : RuntimeState S) (handle : SocketHandle)
    (flowKey : TcpFlowKey) (i : SocketHandle) :
    (rt.withConnection handle flowKey).sockets.lookup i =
      if i = handle then some (connectingState rt.shared.nextStream flowKey)
      else rt.sockets.lookup i :=
  Table.lookup_insert _ _ _ _

theorem stream_withConnection (rt : RuntimeState S) (handle : SocketHandle)
    (flowKey : TcpFlowKey) (y : StreamId) :
    (rt.withConnection handle flowKey).stream y =
      if y = rt.shared.nextStream then rt.newControl handle else rt.stream y :=
  stream_newStream rt handle y

theorem insertConnection_eq (rt : RuntimeState S) (handle : SocketHandle) (flowKey : TcpFlowKey)
    (reservedSlot : Bool) :
    (rt.insertConnection handle flowKey reservedSlot).2 =
      (rt.withConnection handle flowKey).finishReserved reservedSlot := by
  have hs : (((rt.newStream handle).2.setSocket handle
      (newSocketState rt.shared.nextStream flowKey)).syncSocketPollInterest handle) =
      (rt.newStream handle).2.setSocket handle
        (newSocketState rt.shared.nextStream flowKey) := by
    rw [setSocket_sync, stream_newStream,
      show (newSocketState rt.shared.nextStream flowKey).stream = rt.shared.nextStream from rfl,
      if_pos rfl, sync_newSocketState]
    rfl
  have hc := setSocket_syncConnecting (rt.newStream handle).2 handle
    (newSocketState rt.shared.nextStream flowKey) true
  simp only [insertConnection]
  rw [show (rt.newStream handle).1 = rt.shared.nextStream from rfl, hs, hc]
  rfl

theorem releaseSocket_some {handle : SocketHandle} {st : SocketState}
    (hl : rt.sockets.lookup handle = some st) :
    ∃ replies, rt.releaseSocket handle =
      { rt.setStream st.stream (closedStream (rt.stream st.stream)) with
        sockets := AList.erase handle rt.sockets
        counters := removeSocketPollInterestCounters st rt.counters
        tcpFlowMap := st.flowKey.elim rt.tcpFlowMap
          (fun key => AList.erase key rt.tcpFlowMap) }.withReplies replies := by
  simp only [releaseSocket, hl]
  rw [replyAll_eq]
  exact ⟨_, rfl⟩

-- closeHandle, with the handle taken off the two lists at once instead of after the loop.
def retire (rt : RuntimeState S) (handle : SocketHandle) : Outcome (RuntimeState S) := do
  let rt ← rt.closeHandle handle
  .ok { rt with
    tcpHandles := rt.tcpHandles.filter (· ≠ handle)
    readyTcpHandles := rt.readyTcpHandles.filter (· ≠ handle) }

def withLists (rt : RuntimeState S) (tcpHandles readyTcpHandles : List SocketHandle) :
    RuntimeState S :=
  { rt with tcpHandles, readyTcpHandles }

theorem withLists_closeHandle (rt : RuntimeState S) (handle : SocketHandle)
    (handles ready : List SocketHandle) :
    (rt.withLists handles ready).closeHandle handle =
      rt.closeHandle handle >>= fun rt => .ok (rt.withLists handles ready) := by
  simp only [closeHandle]
  have hr : (rt.withLists handles ready).releaseSocket handle =
      (rt.releaseSocket handle).withLists handles ready := by
    cases hl : rt.sockets.lookup handle with
    | none =>
        have hl' : (rt.withLists handles ready).sockets.lookup handle = none := hl
        simp only [releaseSocket, hl, hl']
    | some st =>
        have hl' : (rt.withLists handles ready).sockets.lookup handle = some st := hl
        simp only [releaseSocket, hl, hl']
        rw [replyAll_eq, replyAll_eq]
        rfl
  rw [hr]
  show ((rt.releaseSocket handle).stack.removeSocket handle >>= _) = _
  cases (rt.releaseSocket handle).stack.removeSocket handle <;> rfl

theorem closeHandle_lists {handle : SocketHandle} (h : rt.closeHandle handle = .ok rt') :
    rt'.tcpHandles = rt.tcpHandles ∧ rt'.readyTcpHandles = rt.readyTcpHandles := by
  simp only [closeHandle] at h
  obtain ⟨stack, _, hs⟩ := Outcome.bind_eq_ok.mp h
  cases hs
  cases hl : rt.sockets.lookup handle with
  | none => simp only [releaseSocket, hl, and_self]
  | some st =>
      obtain ⟨replies, he⟩ := releaseSocket_some hl
      rw [he]
      exact ⟨rfl, rfl⟩

theorem run_withLists (rt : RuntimeState S) (closed handles ready : List SocketHandle) :
    Outcome.run closeHandle (rt.withLists handles ready) closed =
      Outcome.run closeHandle rt closed >>= fun rt => .ok (rt.withLists handles ready) := by
  induction closed generalizing rt with
  | nil => rfl
  | cons handle closed ih =>
      simp only [Outcome.run, withLists_closeHandle]
      cases rt.closeHandle handle with
      | error fault => rfl
      | ok rt₁ => exact ih rt₁

theorem run_closeHandle_lists {closed : List SocketHandle}
    (h : Outcome.run closeHandle rt closed = .ok rt') :
    rt'.tcpHandles = rt.tcpHandles ∧ rt'.readyTcpHandles = rt.readyTcpHandles :=
  Outcome.run_invariant (P := fun rt₁ => rt₁.tcpHandles = rt.tcpHandles ∧
      rt₁.readyTcpHandles = rt.readyTcpHandles)
    (fun _ _ _ hp hc =>
      ⟨(closeHandle_lists hc).1.trans hp.1, (closeHandle_lists hc).2.trans hp.2⟩) h ⟨rfl, rfl⟩

theorem filter_cons_notMem (handle : SocketHandle) (closed l : List SocketHandle) :
    l.filter (fun h => h ∉ handle :: closed) =
      (l.filter (· ≠ handle)).filter (fun h => h ∉ closed) := by
  rw [List.filter_filter]
  refine List.filter_congr (fun h _ => ?_)
  by_cases he : h = handle <;> simp [he]

theorem run_retire (rt : RuntimeState S) (closed : List SocketHandle) :
    (Outcome.run closeHandle rt closed >>= fun rt => .ok (rt.withLists
        (rt.tcpHandles.filter (fun h => h ∉ closed))
        (rt.readyTcpHandles.filter (fun h => h ∉ closed)))) =
      Outcome.run retire rt closed := by
  induction closed generalizing rt with
  | nil =>
      simp only [Outcome.run, Outcome.ok_bind, List.not_mem_nil, not_false_eq_true, decide_true,
        List.filter_true]
      rfl
  | cons handle closed ih =>
      simp only [Outcome.run, retire]
      cases rt.closeHandle handle with
      | error fault => rfl
      | ok rt₁ =>
          simp only [Outcome.ok_bind]
          rw [show ({ rt₁ with
              tcpHandles := rt₁.tcpHandles.filter (· ≠ handle)
              readyTcpHandles := rt₁.readyTcpHandles.filter (· ≠ handle) }) =
            rt₁.withLists (rt₁.tcpHandles.filter (· ≠ handle))
              (rt₁.readyTcpHandles.filter (· ≠ handle)) from rfl, ← ih, run_withLists]
          cases hr : Outcome.run closeHandle rt₁ closed with
          | error fault => rfl
          | ok rt₂ =>
              obtain ⟨h₁, h₂⟩ := run_closeHandle_lists hr
              simp only [Outcome.ok_bind, h₁, h₂, filter_cons_notMem]
              rfl

theorem pollTcpSockets_eq (rt : RuntimeState S) (fullSweep : Bool) :
    rt.pollTcpSockets fullSweep =
      Outcome.run (sweepHandle fullSweep) ((rt.selectHandles fullSweep).2, [])
        (rt.selectHandles fullSweep).1 >>= fun acc => Outcome.run retire acc.1 acc.2 := by
  simp only [pollTcpSockets]
  cases Outcome.run (sweepHandle fullSweep) ((rt.selectHandles fullSweep).2, [])
      (rt.selectHandles fullSweep).1 with
  | error fault => rfl
  | ok acc => exact run_retire acc.1 acc.2

section sweep

variable {R : RuntimeState S → RuntimeState S → Prop} (hrefl : ∀ a, R a a)
  (htrans : ∀ a b c, R a b → R b c → R a c)
  (hselect : ∀ a fullSweep, R a (RuntimeState.selectHandles a fullSweep).2)
  (hservice : ∀ a b fullSweep handle st,
    RuntimeState.serviceSocket a fullSweep handle st = .ok b → R a b)
  (hretire : ∀ a b handle, retire a handle = .ok b → R a b)

include hrefl hservice in
theorem sweepHandle_relation {fullSweep : Bool} {acc acc' : RuntimeState S × List SocketHandle}
    {handle : SocketHandle} (h : sweepHandle fullSweep acc handle = .ok acc') :
    R acc.1 acc'.1 := by
  obtain ⟨active, _, h⟩ := Outcome.bind_eq_ok.mp h
  split at h
  · cases h
    exact hrefl _
  · split at h
    · cases h
      exact hrefl _
    · obtain ⟨rt₁, hserv, h⟩ := Outcome.bind_eq_ok.mp h
      cases h
      exact hservice _ _ _ _ _ hserv

-- A relation that each pass over a handle and each removal respect, with nothing assumed of the
-- state they start in.
include hrefl htrans hselect hservice hretire in
theorem pollTcpSockets_relation {rt rt' : RuntimeState S} {fullSweep : Bool}
    (h : rt.pollTcpSockets fullSweep = .ok rt') : R rt rt' := by
  rw [pollTcpSockets_eq] at h
  obtain ⟨acc, hsweep, h⟩ := Outcome.bind_eq_ok.mp h
  have hswept : R rt acc.1 :=
    Outcome.run_invariant (P := fun acc => R rt acc.1)
      (fun _ _ _ hp hs => htrans _ _ _ hp (sweepHandle_relation hrefl hservice hs)) hsweep
      (hselect rt fullSweep)
  exact Outcome.run_invariant (P := fun rt' => R rt rt')
    (fun _ _ _ hp hr => htrans _ _ _ hp (hretire _ _ _ hr)) h hswept

end sweep

end RuntimeState

section loops

variable {handle : SocketHandle} {tcpChunkSize fuel : Nat} {st st' : NetworkStack S}
  {c c' : SocketStreamHandle} {I : NetworkStack S → SocketStreamHandle → Prop}

theorem flushPendingToStack_rule
    (hsend : ∀ st st' c r data, I st c → st.tcpSend handle data = .ok (r, st') → I st' c)
    (hsent : ∀ st c n, I st c →
      I st { c with sendBuffer := c.sendBuffer.consume n }.wakeSend)
    (h : flushPendingToStack handle tcpChunkSize fuel st c = .ok (st', c')) (hi : I st c) :
    I st' c' := by
  induction fuel generalizing st c with
  | zero => cases h
  | succ fuel ih =>
      obtain ⟨maySend, _, h⟩ := Outcome.bind_eq_ok.mp h
      split at h
      · cases h
        exact hi
      · dsimp only at h
        split at h
        · cases h
          exact hi
        · obtain ⟨⟨accepted, st₁⟩, htcp, h⟩ := Outcome.bind_eq_ok.mp h
          have hi₁ := hsend _ _ _ _ _ hi htcp
          dsimp only at h
          split at h
          · cases h
            exact hi₁
          · next sent =>
              split at h
              · cases h
                exact hi₁
              · have hi₂ := hsent _ _ sent hi₁
                split at h
                · cases h
                  exact hi₂
                · exact ih h hi₂

theorem fillRecvBuffer_rule
    (hrecv : ∀ st st' c r len, I st c → st.tcpRecv handle len = .ok (r, st') → I st' c)
    (hstore : ∀ st c data, I st c → I st (c.storeReceived data).2)
    (h : fillRecvBuffer handle tcpChunkSize fuel st c = .ok (st', c')) (hi : I st c) :
    I st' c' := by
  induction fuel generalizing st c with
  | zero => cases h
  | succ fuel ih =>
      obtain ⟨mayRecv, _, h⟩ := Outcome.bind_eq_ok.mp h
      split at h
      · cases h
        exact hi
      · obtain ⟨⟨received, st₁⟩, htcp, h⟩ := Outcome.bind_eq_ok.mp h
        have hi₁ := hrecv _ _ _ _ _ hi htcp
        dsimp only at h
        split at h
        · cases h
          exact hi₁
        · next data =>
            split at h
            · cases h
              exact hi₁
            · have hi₂ := hstore _ _ data hi₁
              split at h
              · cases h
                exact hi₂
              · exact ih h hi₂

end loops

namespace Service

variable {fullSweep : Bool} {handle : SocketHandle} {tcpChunkSize : Nat} {v v' : Service S}

structure Passes (v : Service S) (fullSweep : Bool) (handle : SocketHandle) (tcpChunkSize : Nat)
    (v' : Service S) where
  written : Service S
  filled : Service S
  pastHandshake : Bool
  synced : Service S
  halves : Service S
  write : (v.begin fullSweep).serviceWrite (v.shouldServiceWrite fullSweep) handle tcpChunkSize =
    .ok written
  read : written.serviceRead (v.shouldServiceRead fullSweep) handle tcpChunkSize = .ok filled
  connecting : filled.syncPollInterest.syncConnecting handle = .ok (pastHandshake, synced)
  closing : synced.closeHalves handle pastHandshake = .ok halves
  fin : halves.sendFin handle = .ok v'

theorem run_passes (h : v.run fullSweep handle tcpChunkSize = .ok v') :
    Nonempty (Passes v fullSweep handle tcpChunkSize v') := by
  obtain ⟨written, hw, h⟩ := Outcome.bind_eq_ok.mp h
  obtain ⟨filled, hr, h⟩ := Outcome.bind_eq_ok.mp h
  obtain ⟨⟨past, synced⟩, hc, h⟩ := Outcome.bind_eq_ok.mp h
  obtain ⟨halves, hh, h⟩ := Outcome.bind_eq_ok.mp h
  exact ⟨⟨written, filled, past, synced, halves, hw, hr, hc, hh, h⟩⟩

end Service

end Usque
