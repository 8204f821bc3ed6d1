import Usque.Manager.Counters
import Usque.Manager.Script

namespace Usque

variable {S : Smoltcp} {rt rt' : RuntimeState S}

-- The debug_assert before a `-= 1`: the counter that the code is about to lower is positive.
def decrementAsserts (want counted : Bool) (n : Nat) : Prop := want = false → counted = true → 0 < n

def syncAsserts (st : SocketState) (c : SocketStreamHandle) (n : PollCounters) : Prop :=
  decrementAsserts (c.sendBuffer.len > 0) st.countedPendingFromClient
      n.pendingFromClientSockets ∧
    decrementAsserts (c.recvBuffer.len > 0) st.countedPendingToClient n.pendingToClientSockets ∧
    decrementAsserts st.closeRequested st.countedCloseRequested n.closeRequestedSockets

def removeAsserts (st : SocketState) (n : PollCounters) : Prop :=
  decrementAsserts false st.countedPendingFromClient n.pendingFromClientSockets ∧
    decrementAsserts false st.countedPendingToClient n.pendingToClientSockets ∧
    decrementAsserts false st.countedCloseRequested n.closeRequestedSockets ∧
    decrementAsserts false st.countedConnecting n.connectingSockets

def connectingAsserts (st : SocketState) (isConnecting : Bool) (n : PollCounters) : Prop :=
  decrementAsserts isConnecting st.countedConnecting n.connectingSockets

theorem decrementAsserts_plus (want counted : Bool) (n : Nat) :
    decrementAsserts want counted (n + counted.toNat) := by
  intro _ hc
  simp [hc]

theorem syncAsserts_plus {st st' : SocketState} (h : st'.counted = st.counted)
    (c : SocketStreamHandle) (n : PollCounters) : syncAsserts st' c (n.plus st) := by
  rw [← PollCounters.plus_congr h]
  exact ⟨decrementAsserts_plus _ _ _, decrementAsserts_plus _ _ _, decrementAsserts_plus _ _ _⟩

theorem removeAsserts_plus (st : SocketState) (n : PollCounters) : removeAsserts st (n.plus st) :=
  ⟨decrementAsserts_plus _ _ _, decrementAsserts_plus _ _ _, decrementAsserts_plus _ _ _,
    decrementAsserts_plus _ _ _⟩

theorem connectingAsserts_plus (st : SocketState) (isConnecting : Bool) (n : PollCounters) :
    connectingAsserts st isConnecting (n.plus st) :=
  decrementAsserts_plus _ _ _

namespace Service

def asserts (fullSweep : Bool) (handle : SocketHandle) (tcpChunkSize : Nat) (v : Service S) :
    Prop :=
  let noted := (v.takeEvents fullSweep).2.noteStreamFlags
  syncAsserts noted.entry noted.stream noted.counters ∧
    ∀ written filled, (v.begin fullSweep).serviceWrite (v.shouldServiceWrite fullSweep) handle
        tcpChunkSize = .ok written →
      written.serviceRead (v.shouldServiceRead fullSweep) handle tcpChunkSize = .ok filled →
      syncAsserts filled.entry filled.stream filled.counters ∧
        ∀ past, filled.stack.tcpIsPastHandshake handle = .ok past →
          connectingAsserts filled.syncPollInterest.entry (!past) filled.syncPollInterest.counters

theorem asserts_of_plus {fullSweep : Bool} {handle : SocketHandle} {tcpChunkSize : Nat}
    {v : Service S} {n : PollCounters} (h : v.counters = n.plus v.entry) :
    v.asserts fullSweep handle tcpChunkSize := by
  have hn : (v.takeEvents fullSweep).2.noteStreamFlags.counters = n.plus v.entry := by
    cases fullSweep <;> exact h
  have hcounted : (v.takeEvents fullSweep).2.noteStreamFlags.entry.counted = v.entry.counted := by
    cases fullSweep <;> rfl
  refine ⟨?_, fun written filled hw hr => ?_⟩
  · rw [hn]
    exact syncAsserts_plus hcounted _ n
  · obtain ⟨_, _, _, hew, hcw⟩ := serviceWrite_ok hw
    obtain ⟨_, _, _, her, hcr⟩ := serviceRead_ok hr
    have hfilled : filled.counters = n.plus filled.entry := by
      rw [hcr, her, hcw, hew]
      exact begin_counted h
    refine ⟨?_, fun past _ => ?_⟩
    · rw [hfilled]
      exact syncAsserts_plus rfl _ n
    · rw [syncPollInterest_counted hfilled]
      exact connectingAsserts_plus _ _ n

end Service

namespace RuntimeState

def syncPollInterestAsserts (rt : RuntimeState S) (handle : SocketHandle) : Prop :=
  ∀ st, rt.sockets.lookup handle = some st → syncAsserts st (rt.stream st.stream) rt.counters

def insertConnectionAsserts (rt : RuntimeState S) (handle : SocketHandle)
    (flowKey : TcpFlowKey) : Prop :=
  let (x, rt) := rt.newStream handle
  let rt := rt.setSocket handle (newSocketState x flowKey)
  rt.syncPollInterestAsserts handle ∧
    ∀ st, (rt.syncSocketPollInterest handle).sockets.lookup handle = some st →
      connectingAsserts st true (rt.syncSocketPollInterest handle).counters

def createConnectionAsserts (rt : RuntimeState S) (remoteIp : IpAddress)
    (remotePort localPort : UInt16) (tcpBufferSize : Nat) : Prop :=
  ∀ stack, rt.open? remoteIp remotePort localPort tcpBufferSize = .ok (.ok (), stack) →
    { rt with stack }.insertConnectionAsserts rt.stack.sockets.lowestFree
      ⟨localPort, remoteIp, remotePort⟩

def closeConnectionAsserts (rt : RuntimeState S) (handle : SocketHandle) : Prop :=
  ∀ st, rt.sockets.lookup handle = some st →
    (((rt.putStream st.stream (closingStream (rt.stream st.stream))).setSocket handle
      (closingEntry st)).replyAll st.readyWaiters (.socketState .closed)).syncPollInterestAsserts
        handle

def handleSocketEventAsserts (rt : RuntimeState S) (e : SocketEvent) : Prop :=
  { rt with
    sockets := Table.modify e.handle (noteEvent e.kind) rt.sockets }.syncPollInterestAsserts
      e.handle

def sweepAsserts (rt : RuntimeState S) (fullSweep : Bool) : Prop :=
  ∀ before handle after acc st, (rt.selectHandles fullSweep).1 = before ++ handle :: after →
    Outcome.run (sweepHandle fullSweep) ((rt.selectHandles fullSweep).2, []) before = .ok acc →
    acc.1.sockets.lookup handle = some st →
    Service.asserts fullSweep handle acc.1.tunables.tcpChunkSize
      ⟨acc.1.stack, st, acc.1.stream st.stream, acc.1.counters⟩

def closeAsserts (rt : RuntimeState S) (fullSweep : Bool) : Prop :=
  ∀ acc before handle after rt' st,
    Outcome.run (sweepHandle fullSweep) ((rt.selectHandles fullSweep).2, [])
      (rt.selectHandles fullSweep).1 = .ok acc →
    acc.2 = before ++ handle :: after → Outcome.run closeHandle acc.1 before = .ok rt' →
    rt'.sockets.lookup handle = some st → removeAsserts st rt'.counters

structure Asserted (rt : RuntimeState S) : Prop where
  createConnection : ∀ remoteIp remotePort localPort tcpBufferSize,
    rt.createConnectionAsserts remoteIp remotePort localPort tcpBufferSize
  closeConnection : ∀ handle, rt.closeConnectionAsserts handle
  handleSocketEvent : ∀ e, rt.handleSocketEventAsserts e
  sweep : ∀ fullSweep, rt.sweepAsserts fullSweep
  close : ∀ fullSweep, rt.closeAsserts fullSweep

structure Bookkept (rt : RuntimeState S) : Prop where
  pendingFromClient :
    rt.counters.pendingFromClientSockets = Table.count (·.countedPendingFromClient) rt.sockets
  pendingToClient :
    rt.counters.pendingToClientSockets = Table.count (·.countedPendingToClient) rt.sockets
  closeRequested :
    rt.counters.closeRequestedSockets = Table.count (·.countedCloseRequested) rt.sockets
  connecting : rt.counters.connectingSockets = Table.count (·.countedConnecting) rt.sockets
  handles : ∀ h, h ∈ rt.tcpHandles ↔ h ∈ rt.sockets.keys
  handlesNodup : rt.tcpHandles.Nodup
  valid : ∀ h ∈ rt.sockets.keys, h ∈ rt.stack.validHandles
  readyNodup : rt.readyTcpHandles.Nodup
  readySet : ∀ h, h ∈ rt.readyTcpHandles ↔ h ∈ rt.readyTcpSet

theorem mem_keys_iff {κ ν : Type} [DecidableEq κ] (t : Table κ ν) (k : κ) :
    k ∈ t.keys ↔ t.lookup k ≠ none := by
  rw [ne_eq, AList.lookup_eq_none, not_not]
  exact Iff.rfl

theorem bookkept (hc : Consistent rt) (hn : Counted rt) : Bookkept rt where
  pendingFromClient := by rw [hn.counters]; exact Table.total_toNat _ _
  pendingToClient := by rw [hn.counters]; exact Table.total_toNat _ _
  closeRequested := by rw [hn.counters]; exact Table.total_toNat _ _
  connecting := by rw [hn.counters]; exact Table.total_toNat _ _
  handles := fun h => (hc.tracked.handles h).trans (mem_keys_iff rt.sockets h).symm
  handlesNodup := hc.tracked.handlesNodup
  valid := fun h hm => by
    have hk := (hc.slotted.entry h).mp ((mem_keys_iff rt.sockets h).mp hm)
    refine (hc.slotted.wellFormed h).mpr ?_
    rw [hk]
    exact Option.some_ne_none _
  readyNodup := hc.tracked.readyNodup
  readySet := fun h => (hc.tracked.readySet h).symm

theorem sync_asserts {handle : SocketHandle} {st st' : SocketState} (hn : Counted rt)
    (hl : rt.sockets.lookup handle = some st) (hst : st'.counted = st.counted)
    (c : SocketStreamHandle) : syncAsserts st' c rt.counters := by
  rw [hn.counters, tally_of_lookup hl]
  exact syncAsserts_plus hst c _

theorem insertConnection_asserts (rt : RuntimeState S) (handle : SocketHandle)
    (flowKey : TcpFlowKey) : rt.insertConnectionAsserts handle flowKey := by
  constructor
  · intro st hl
    have hst : newSocketState (rt.newStream handle).1 flowKey = st :=
      Option.some.inj ((AList.lookup_insert _).symm.trans hl)
    rw [← hst]
    exact ⟨fun _ h => (by cases h), fun _ h => (by cases h), fun _ h => (by cases h)⟩
  · intro st _ hwant
    cases hwant

theorem closeConnection_asserts (hn : Counted rt) (handle : SocketHandle) :
    rt.closeConnectionAsserts handle := by
  intro st hl st' hl'
  rw [replyAll_eq, putStream_eq] at hl' ⊢
  have hst : closingEntry st = st' := Option.some.inj ((AList.lookup_insert _).symm.trans hl')
  have hcounted : (closingEntry st).counted = st.counted := rfl
  rw [← hst]
  exact sync_asserts hn hl hcounted _

theorem handleSocketEvent_asserts (hn : Counted rt) (e : SocketEvent) :
    rt.handleSocketEventAsserts e := by
  intro st' hl'
  cases hl : rt.sockets.lookup e.handle with
  | none =>
      rw [Table.modify_none hl, hl] at hl'
      cases hl'
  | some st =>
      rw [Table.modify_some hl, AList.lookup_insert] at hl'
      cases hl'
      have hcounted : (noteEvent e.kind st).counted = st.counted := rfl
      exact sync_asserts hn hl hcounted _

section poll

variable (hS : S.KeepsSockets) (hc : Consistent rt) (hn : Counted rt) (fullSweep : Bool)

include hS hc hn in
theorem sweep_counted {handles : List SocketHandle} {acc : RuntimeState S × List SocketHandle}
    (h : Outcome.run (sweepHandle fullSweep) ((rt.selectHandles fullSweep).2, []) handles =
      .ok acc) : Counted acc.1 := by
  have hsel : Effect (Rules.any S) rt (rt.selectHandles fullSweep).2 := .select trivial fullSweep
  have hc₁ := hsel.consistent hS hc
  have heff := (sweepAll_effects (R := Rules.any S) hS trivial hc₁ (by simp) h).1
  exact (heff.invariant hS (fun _ _ ha hi he => he.counted ha.slotted hi) hc₁
    (hsel.counted hc.slotted hn)).2

include hS hc hn in
theorem sweep_asserts : rt.sweepAsserts fullSweep := by
  intro before handle after acc st _ hrun hl
  have hacc := sweep_counted hS hc hn fullSweep hrun
  exact Service.asserts_of_plus (hacc.counters.trans (tally_of_lookup hl))

include hS hc hn in
theorem close_asserts : rt.closeAsserts fullSweep := by
  intro acc before handle after rt' st hrun _ hclose hl
  have hacc := sweep_counted hS hc hn fullSweep hrun
  have hrt' : Counted rt' :=
    Outcome.run_invariant (P := Counted) (fun _ _ _ hp h => closeHandle_counted hp h) hclose hacc
  rw [hrt'.counters, tally_of_lookup hl]
  exact removeAsserts_plus st _

include hS hc hn in
theorem asserted : Asserted rt where
  createConnection := fun _ _ _ _ _ _ => insertConnection_asserts _ _ _
  closeConnection := closeConnection_asserts hn
  handleSocketEvent := handleSocketEvent_asserts hn
  sweep := sweep_asserts hS hc hn
  close := close_asserts hS hc hn

end poll

def withBudget (rt : RuntimeState S) (targetedTcpSweepBudget : Nat) : RuntimeState S :=
  { rt with tunables := { rt.tunables with targetedTcpSweepBudget } }

-- The five functions with any arguments; `other` is whatever else the manager or a client does.
inductive Bookkeeps : RuntimeState S → RuntimeState S → Prop where
  | createConnection {rt rt' : RuntimeState S} {remoteIp : IpAddress}
      {remotePort localPort : UInt16} {tcpBufferSize : Nat} {reservedSlot : Bool}
      {result : Except ManagerError StreamId}
      (h : rt.createConnection remoteIp remotePort localPort tcpBufferSize reservedSlot =
        .ok (result, rt')) : Bookkeeps rt rt'
  | closeConnection {rt rt' : RuntimeState S} {handle : SocketHandle}
      (h : rt.closeConnection handle = .ok rt') : Bookkeeps rt rt'
  | handleSocketEvent (rt : RuntimeState S) (e : SocketEvent) :
      Bookkeeps rt (rt.handleSocketEvent e)
  | markReadyTcpHandle (rt : RuntimeState S) (handle : SocketHandle) (mask : EventMask) :
      Bookkeeps rt (rt.markReadyTcpHandle handle mask)
  | pollTcpSockets {rt rt' : RuntimeState S} {fullSweep : Bool} {budget : Nat}
      (h : (rt.withBudget budget).pollTcpSockets fullSweep = .ok rt') : Bookkeeps rt rt'
  | other {rt rt' : RuntimeState S} (h : Effect (Rules.any S) rt rt') : Bookkeeps rt rt'

theorem withBudget_consistent (hc : Consistent rt) (budget : Nat) :
    Consistent (rt.withBudget budget) :=
  hc.carry (.refl _) rfl rfl rfl ⟨hc.tracked.readyNodup, hc.tracked.readySet⟩ (.refl _) rfl
    ⟨rfl, rfl, fun _ => .refl _, fun _ he => .inl he⟩

theorem createConnection_effects (hc : Consistent rt) {remoteIp : IpAddress}
    {remotePort localPort : UInt16} {tcpBufferSize : Nat} {reservedSlot : Bool}
    {result : Except ManagerError StreamId}
    (h : rt.createConnection remoteIp remotePort localPort tcpBufferSize reservedSlot =
      .ok (result, rt')) : Effects (Rules.any S) rt rt' := by
  rcases createConnection_ok h with ⟨_, rfl⟩ | ⟨e, stack, stack', ho, hr, _, rfl⟩ |
    ⟨stack, ho, _, _, rfl⟩
  · exact .settled (finishReserved_settled hc.slotted reservedSlot)
  · have hset := failedOpen_settled (R := Rules.any S) (fun _ _ => trivial) hc.slotted ho hr
    exact .settled (hset.trans (finishReserved_settled hset.slotted reservedSlot))
  · exact .single (.openTcp reservedSlot trivial trivial ho)

theorem Bookkeeps.preserves (hS : S.KeepsSockets) (h : Bookkeeps rt rt') (hc : Consistent rt)
    (hn : Counted rt) : Consistent rt' ∧ Counted rt' := by
  have heffects : ∀ {a b : RuntimeState S}, Effects (Rules.any S) a b → Consistent a → Counted a →
      Consistent b ∧ Counted b := fun he ha hi =>
    he.invariant hS (fun _ _ ha hi he => he.counted ha.slotted hi) ha hi
  cases h with
  | createConnection h => exact heffects (createConnection_effects hc h) hc hn
  | closeConnection h =>
      exact heffects (closeConnection_effects (fun _ _ => trivial) hc h) hc hn
  | handleSocketEvent e =>
      exact ⟨handleSocketEvent_consistent hc e, handleSocketEvent_counted hn e⟩
  | markReadyTcpHandle handle mask =>
      exact ⟨markReadyTcpHandle_consistent hc handle mask,
        markReadyTcpHandle_counted hn handle mask⟩
  | @pollTcpSockets _ fullSweep budget h =>
      have hb := withBudget_consistent hc budget
      exact heffects (pollTcpSockets_effects hS trivial trivial hb h) hb (hn.same rfl rfl)
  | other h => exact ⟨h.consistent hS hc, h.counted hc.slotted hn⟩

end RuntimeState

namespace System

open RuntimeState

theorem bookkeeping (hS : S.KeepsSockets) {params : ConnectionParams}
    (h : Relation.ReflTransGen Bookkeeps (init S params).rt rt) : Bookkept rt ∧ Asserted rt := by
  have hboth : Consistent rt ∧ Counted rt := by
    induction h with
    | refl => exact ⟨(init_sound params).consistent, rfl, fun _ _ h => by cases h⟩
    | tail _ hs ih => exact hs.preserves hS ih.1 ih.2
  exact ⟨bookkept hboth.1 hboth.2, asserted hS hboth.1 hboth.2⟩

theorem Reachable.bookkeeps (hS : S.KeepsSockets) {H : Hickory} {params : ConnectionParams}
    {s : System S} (h : Reachable H params s) :
    Relation.ReflTransGen Bookkeeps (init S params).rt s.rt :=
  h.invariant hS .refl (fun _ _ _ hi he => hi.tail (.other he))

theorem bookkeeping_connecting :
    ∃ s : Script.Reached, s.rt.counters = ⟨0, 0, 0, 1⟩ ∧ Bookkept s.rt ∧ Asserted s.rt := by
  have h : (Script.run (Script.establish ++ Script.connect 5000 0)).any (fun s =>
      s.rt.counters = ⟨0, 0, 0, 1⟩) = true := by decide +kernel
  obtain ⟨s, hs, hp⟩ := Script.exists_reachable h
  exact ⟨s, of_decide_eq_true hp,
    bookkeeping Reference.keepsSockets (hs.bookkeeps Reference.keepsSockets)⟩

end System

end Usque
