import Usque.Manager.Serviced
import Usque.Manager.System

namespace Usque

variable {S : Smoltcp} {rt rt' rt'' : RuntimeState S}

structure Tracked (rt : RuntimeState S) : Prop where
  handles : ∀ h, h ∈ rt.tcpHandles ↔ rt.sockets.lookup h ≠ none
  handlesNodup : rt.tcpHandles.Nodup
  readyNodup : rt.readyTcpHandles.Nodup
  readySet : ∀ h, h ∈ rt.readyTcpSet ↔ h ∈ rt.readyTcpHandles
  handle : ∀ h st, rt.sockets.lookup h = some st → (rt.stream st.stream).handle = h
  notifier : ∀ h st, rt.sockets.lookup h = some st →
    (rt.stream st.stream).socketNotifier = rt.session
  born : ∀ h st, rt.sockets.lookup h = some st → st.stream < rt.shared.nextStream
  flow : ∀ key h, rt.tcpFlowMap.lookup key = some h →
    ∃ st, rt.sockets.lookup h = some st ∧ st.flowKey = some key
  events : ∀ e ∈ rt.socketEvents, e.source < rt.shared.nextStream ∧
    (rt.stream e.source).handle = e.handle ∧ (rt.stream e.source).socketNotifier = rt.session
  sessions : ∀ x < rt.shared.nextStream, (rt.stream x).socketNotifier ≤ rt.session

structure Consistent (rt : RuntimeState S) : Prop where
  slotted : Slotted rt
  tracked : Tracked rt

namespace Aside

variable {P : Policy}

theorem stream (h : Aside P rt rt') (x : StreamId) : rt'.stream x = rt.stream x := by
  simp only [RuntimeState.stream, h.streams]

theorem tracked (h : Aside P rt rt') (ht : Tracked rt) : Tracked rt' where
  handles := by rw [h.handles, h.sockets]; exact ht.handles
  handlesNodup := by rw [h.handles]; exact ht.handlesNodup
  readyNodup := by rw [h.readyHandles]; exact ht.readyNodup
  readySet := by rw [h.readySet, h.readyHandles]; exact ht.readySet
  handle := by simp only [h.sockets, h.stream]; exact ht.handle
  notifier := by simp only [h.sockets, h.stream, h.session]; exact ht.notifier
  born := by simp only [h.sockets, h.nextStream]; exact ht.born
  flow := by simp only [h.sockets, h.flows]; exact ht.flow
  events := by simp only [h.events, h.nextStream, h.stream, h.session]; exact ht.events
  sessions := by simp only [h.nextStream, h.stream, h.session]; exact ht.sessions

end Aside

namespace RuntimeState

def open? (rt : RuntimeState S) (remoteIp : IpAddress) (remotePort localPort : UInt16)
    (tcpBufferSize : Nat) : Outcome (Except StackError Unit × NetworkStack S) :=
  (rt.stack.createTcpSocketWithBuffer tcpBufferSize).2.connectTcp
    (rt.stack.createTcpSocketWithBuffer tcpBufferSize).1 remoteIp remotePort localPort

end RuntimeState

-- What a step may do besides: which connections it may open and in which slots, whether it may
-- sweep or poll, which clients may act, and who may begin to wait for a connection.
structure Rules (S : Smoltcp) extends Policy where
  tcp : SocketHandle → Prop
  connect : RuntimeState S → TcpFlowKey → Prop
  sweep : Prop
  poll : RuntimeState S → Prop
  client : StreamId → Prop
  wait : StreamId → OneshotId → Prop

def RuntimeState.owner (rt : RuntimeState S) (handle : SocketHandle) : Option StreamId :=
  (rt.sockets.lookup handle).map (·.stream)

inductive Effect (R : Rules S) : RuntimeState S → RuntimeState S → Prop where
  | aside {rt rt' : RuntimeState S} (h : Settled R.toPolicy rt rt') : Effect R rt rt'
  | openTcp {rt : RuntimeState S} {remoteIp : IpAddress} {remotePort localPort : UInt16}
      {tcpBufferSize : Nat} {stack : NetworkStack S} (reservedSlot : Bool)
      (hf : R.tcp rt.stack.sockets.lowestFree)
      (hk : R.connect rt ⟨localPort, remoteIp, remotePort⟩)
      (h : rt.open? remoteIp remotePort localPort tcpBufferSize = .ok (.ok (), stack)) :
      Effect R rt ({ rt with stack }.insertConnection rt.stack.sockets.lowestFree
        ⟨localPort, remoteIp, remotePort⟩ reservedSlot).2
  | requestClose {rt rt' : RuntimeState S} {handle : SocketHandle} {st : SocketState}
      (hl : rt.sockets.lookup handle = some st) (h : rt.closeConnection handle = .ok rt') :
      Effect R rt rt'
  | waiters {rt : RuntimeState S} {handle : SocketHandle} {st : SocketState}
      {waiters : List OneshotId} (hl : rt.sockets.lookup handle = some st)
      (hw : ∀ r ∈ waiters, r ∈ st.readyWaiters ∨ R.wait st.stream r) :
      Effect R rt (rt.setSocket handle { st with readyWaiters := waiters })
  | event {rt : RuntimeState S} {e : SocketEvent} {es : List SocketEvent}
      (h : rt.socketEvents = e :: es) :
      Effect R rt ({ rt with socketEvents := es }.handleSocketEvent e)
  | incoming {rt rt' : RuntimeState S} {packet : Packet} (h : rt.injectIncoming packet = .ok rt') :
      Effect R rt rt'
  | poll {rt : RuntimeState S} {outcome : StackPollOutcome} {stack : NetworkStack S}
      (hp : R.poll rt)
      (h : rt.stack.pollBounded rt.shared.now rt.tunables.stackIngressBudget =
        .ok (outcome, stack)) : Effect R rt { rt with stack }
  | egress {rt : RuntimeState S} {changed : Bool} {stack : NetworkStack S}
      (h : rt.stack.pollEgress rt.shared.now = .ok (changed, stack)) :
      Effect R rt { rt with stack }
  | select {rt : RuntimeState S} (hw : R.sweep) (fullSweep : Bool) :
      Effect R rt (rt.selectHandles fullSweep).2
  | service {rt rt' : RuntimeState S} {handle : SocketHandle} {st : SocketState} (hw : R.sweep)
      (fullSweep : Bool) (hl : rt.sockets.lookup handle = some st)
      (h : rt.serviceSocket fullSweep handle st = .ok rt') : Effect R rt rt'
  | release {rt rt' : RuntimeState S} {handle : SocketHandle} (hw : R.sweep) (hf : R.free)
      (hk : rt.stack.kindAt handle = none ∨ rt.stack.kindAt handle = some .tcp)
      (h : rt.retire handle = .ok rt') : Effect R rt rt'
  | client {rt : RuntimeState S} {x : StreamId} {n : SocketStreamHandle.Notified}
      (hx : x < rt.shared.nextStream)
      (hr : R.client x ∨ rt.owner (rt.stream x).handle = some x)
      (h : StreamOp (rt.stream x) n) : Effect R rt (rt.putStream x n)
  | reset {rt : RuntimeState S} (hf : R.free) (params : ConnectionParams) (mtu session : Nat)
      (shared : Shared) (hs : rt.session ≤ session) (hx : shared.streams = rt.shared.streams)
      (hn : shared.nextStream = rt.shared.nextStream) :
      Effect R rt (System.freshRuntime S params mtu session shared)

def SocketState.link (st : SocketState) : StreamId × Option TcpFlowKey := (st.stream, st.flowKey)

def sameLinks (t t' : Table SocketHandle SocketState) : Prop :=
  ∀ h, (t'.lookup h).map SocketState.link = (t.lookup h).map SocketState.link

namespace sameLinks

variable {t t' t'' : Table SocketHandle SocketState}

theorem refl (t : Table SocketHandle SocketState) : sameLinks t t := fun _ => rfl

theorem trans (h : sameLinks t t') (k : sameLinks t' t'') : sameLinks t t'' :=
  fun i => (k i).trans (h i)

theorem insert {handle : SocketHandle} {st st' : SocketState} (hl : t.lookup handle = some st)
    (h : st'.link = st.link) : sameLinks t (AList.insert handle st' t) := by
  intro i
  rw [Table.lookup_insert]
  split_ifs with hi
  · rw [hi, hl, Option.map_some, Option.map_some, h]
  · rfl

theorem modify (handle : SocketHandle) {f : SocketState → SocketState}
    (hf : ∀ st, (f st).link = st.link) (t : Table SocketHandle SocketState) :
    sameLinks t (Table.modify handle f t) := by
  intro i
  rw [Table.lookup_modify]
  split_ifs with hi
  · rw [hi, Option.map_map]
    exact congrArg (fun g => Option.map g _) (funext hf)
  · rfl

theorem none_iff (h : sameLinks t t') (i : SocketHandle) :
    t'.lookup i = none ↔ t.lookup i = none := by
  simpa using congrArg (fun o => o = none) (h i)

theorem some (h : sameLinks t t') {i : SocketHandle} {st' : SocketState}
    (hl : t'.lookup i = some st') :
    ∃ st, t.lookup i = some st ∧ st.stream = st'.stream ∧ st.flowKey = st'.flowKey := by
  have := h i
  rw [hl, Option.map_some, eq_comm, Option.map_eq_some_iff] at this
  obtain ⟨st, hst, he⟩ := this
  exact ⟨st, hst, congrArg Prod.fst he, congrArg Prod.snd he⟩

end sameLinks

theorem Slotted.carry (hs : Slotted rt) (hk : NetworkStack.Keeps rt.stack rt'.stack)
    (hu : rt'.udpSessions = rt.udpSessions) (hd : rt'.dnsSockets = rt.dnsSockets)
    (hl : sameLinks rt.sockets rt'.sockets) : Slotted rt' where
  wellFormed := hk.wellFormed hs.wellFormed
  entry := fun i => by
    rw [hk.kindAt, ← hs.entry]
    exact not_congr (hl.none_iff i)
  session := fun port se h => by
    rw [hk.kindAt, RuntimeState.localAddrDefault_keeps hk.localIpv4 hk.localIpv6]
    exact hs.session port se (hu ▸ h)
  dns := fun version i h => by
    obtain ⟨a, port, ha, hka⟩ := hs.dns version i (hd ▸ h)
    exact ⟨a, port, ha, (hk.kindAt i).trans hka⟩
  apart := fun port se version h => by
    rw [hd]
    exact hs.apart port se version (hu ▸ h)

structure ReadyOk (rt : RuntimeState S) : Prop where
  nodup : rt.readyTcpHandles.Nodup
  set : ∀ h, h ∈ rt.readyTcpSet ↔ h ∈ rt.readyTcpHandles

theorem Tracked.readyOk (ht : Tracked rt) : ReadyOk rt := ⟨ht.readyNodup, ht.readySet⟩

structure SameStreams (rt rt' : RuntimeState S) : Prop where
  session : rt'.session = rt.session
  nextStream : rt'.shared.nextStream = rt.shared.nextStream
  link : ∀ x, (rt.stream x).SameLink (rt'.stream x)
  events : ∀ e ∈ rt'.socketEvents, e ∈ rt.socketEvents ∨
    (e.source < rt.shared.nextStream ∧ (rt.stream e.source).handle = e.handle ∧
      (rt.stream e.source).socketNotifier = rt.session)

theorem SameStreams.refl (rt : RuntimeState S) : SameStreams rt rt :=
  ⟨rfl, rfl, fun _ => ⟨rfl, rfl⟩, fun _ he => .inl he⟩

theorem SameStreams.trans (h : SameStreams rt rt') (k : SameStreams rt' rt'') :
    SameStreams rt rt'' where
  session := k.session.trans h.session
  nextStream := k.nextStream.trans h.nextStream
  link := fun x => ⟨(k.link x).1.trans (h.link x).1, (k.link x).2.trans (h.link x).2⟩
  events := fun e he => by
    rcases k.events e he with he | ⟨hb, hh, hn⟩
    · exact h.events e he
    · exact .inr ⟨h.nextStream ▸ hb, (h.link _).1.symm.trans hh,
        (h.link _).2.symm.trans (hn.trans h.session)⟩

theorem Tracked.carry (ht : Tracked rt) (hh : rt'.tcpHandles = rt.tcpHandles) (hr : ReadyOk rt')
    (hl : sameLinks rt.sockets rt'.sockets) (hf : rt'.tcpFlowMap = rt.tcpFlowMap)
    (hx : SameStreams rt rt') : Tracked rt' where
  handles := fun i => by
    rw [hh, ht.handles]
    exact not_congr (hl.none_iff i).symm
  handlesNodup := hh ▸ ht.handlesNodup
  readyNodup := hr.nodup
  readySet := hr.set
  handle := fun i st' hi => by
    obtain ⟨st, hst, he, _⟩ := hl.some hi
    rw [← he, (hx.link _).1]
    exact ht.handle i st hst
  notifier := fun i st' hi => by
    obtain ⟨st, hst, he, _⟩ := hl.some hi
    rw [← he, (hx.link _).2, hx.session]
    exact ht.notifier i st hst
  born := fun i st' hi => by
    obtain ⟨st, hst, he, _⟩ := hl.some hi
    rw [← he, hx.nextStream]
    exact ht.born i st hst
  flow := fun key i hi => by
    obtain ⟨st, hst, hk⟩ := ht.flow key i (hf ▸ hi)
    have := hl i
    rw [hst, Option.map_some, Option.map_eq_some_iff] at this
    obtain ⟨st', hst', he⟩ := this
    exact ⟨st', hst', (congrArg Prod.snd he).trans hk⟩
  events := fun e he => by
    rw [hx.nextStream, (hx.link _).1, (hx.link _).2, hx.session]
    rcases hx.events e he with he | he
    · exact ht.events e he
    · exact he
  sessions := fun x hlt => by
    rw [(hx.link x).2, hx.session]
    exact ht.sessions x (hx.nextStream ▸ hlt)

theorem Consistent.carry (hc : Consistent rt) (hk : NetworkStack.Keeps rt.stack rt'.stack)
    (hu : rt'.udpSessions = rt.udpSessions) (hd : rt'.dnsSockets = rt.dnsSockets)
    (hh : rt'.tcpHandles = rt.tcpHandles) (hr : ReadyOk rt')
    (hl : sameLinks rt.sockets rt'.sockets) (hf : rt'.tcpFlowMap = rt.tcpFlowMap)
    (hx : SameStreams rt rt') : Consistent rt' :=
  ⟨hc.slotted.carry hk hu hd hl, hc.tracked.carry hh hr hl hf hx⟩

namespace RuntimeState

theorem putStream_sameStreams {x : StreamId} {n : SocketStreamHandle.Notified}
    (hx : x < rt.shared.nextStream) (hn : (rt.stream x).SameLink n.1) :
    SameStreams rt (rt.putStream x n) := by
  rw [putStream_eq]
  refine ⟨rfl, rfl, fun y => ?_, fun e he => ?_⟩
  · show (rt.stream y).SameLink ((rt.setStream x n.1).stream y)
    rw [stream_setStream]
    split_ifs with hy
    · rw [hy]
      exact hn
    · exact ⟨rfl, rfl⟩
  · rcases List.mem_append.mp he with he | he
    · exact .inl he
    · split_ifs at he with hs
      · obtain ⟨kind, _, rfl⟩ := List.mem_map.mp he
        exact .inr ⟨hx, hn.1.symm, hn.2.symm.trans hs⟩
      · cases he

theorem enqueueReadyTcpHandle_readyOk (hr : ReadyOk rt) (handle : SocketHandle) :
    ReadyOk (rt.enqueueReadyTcpHandle handle) := by
  simp only [enqueueReadyTcpHandle]
  split
  · exact hr
  · next hm =>
      rw [hr.set] at hm
      refine ⟨List.nodup_append.mpr ⟨hr.nodup, by simp, ?_⟩, fun i => ?_⟩
      · intro a ha b hb
        rw [List.mem_singleton.mp hb]
        exact fun he => hm (he ▸ ha)
      · simp only [Finset.mem_insert, List.mem_append, List.mem_singleton, hr.set]
        exact or_comm

theorem selectHandles_readyOk (hr : ReadyOk rt) (fullSweep : Bool) :
    ReadyOk (rt.selectHandles fullSweep).2 := by
  cases fullSweep with
  | true => exact ⟨List.nodup_nil, by simp [selectHandles]⟩
  | false =>
      refine ⟨hr.nodup.sublist (List.drop_sublist _ _), fun i => ?_⟩
      show i ∈ rt.readyTcpSet \ (rt.readyTcpHandles.take rt.targetedBudget).toFinset ↔
        i ∈ rt.readyTcpHandles.drop rt.targetedBudget
      rw [Finset.mem_sdiff, List.mem_toFinset, hr.set]
      have hsplit := List.take_append_drop rt.targetedBudget rt.readyTcpHandles
      have hn := hr.nodup
      rw [← hsplit, List.nodup_append] at hn
      constructor
      · rintro ⟨hm, ht⟩
        rw [← hsplit] at hm
        exact (List.mem_append.mp hm).resolve_left ht
      · intro hd
        exact ⟨List.mem_of_mem_drop hd, fun ht => hn.2.2 i ht i hd rfl⟩

theorem open?_opens {remoteIp : IpAddress} {remotePort localPort : UInt16} {tcpBufferSize : Nat}
    {r : Except StackError Unit} {stack : NetworkStack S}
    (h : rt.open? remoteIp remotePort localPort tcpBufferSize = .ok (r, stack)) :
    NetworkStack.Opens rt.stack stack rt.stack.sockets.lowestFree .tcp :=
  (NetworkStack.createTcpSocketWithBuffer_opens rt.stack tcpBufferSize).keeps
    (NetworkStack.connectTcp_keeps h)

theorem stream_withConnection_lt (rt : RuntimeState S) (handle : SocketHandle)
    (flowKey : TcpFlowKey) {x : StreamId} (hx : x < rt.shared.nextStream) :
    (rt.withConnection handle flowKey).stream x = rt.stream x := by
  rw [stream_withConnection, if_neg (Nat.ne_of_lt hx)]

theorem lookup_opens (hs : Slotted rt) {stack : NetworkStack S} {handle : SocketHandle}
    {k : Smoltcp.SocketKind} (ho : NetworkStack.Opens rt.stack stack handle k) :
    rt.sockets.lookup handle = none := by
  by_contra hne
  have hk := (hs.entry handle).mp hne
  rw [ho.fresh] at hk
  cases hk

variable {stack : NetworkStack S} {handle : SocketHandle}

theorem withConnection_slotted (hs : Slotted rt)
    (ho : NetworkStack.Opens rt.stack stack handle .tcp) (flowKey : TcpFlowKey) :
    Slotted ({ rt with stack }.withConnection handle flowKey) where
  wellFormed := ho.wellFormed hs.wellFormed
  entry := fun i => by
    have hk : ({ rt with stack }.withConnection handle flowKey).stack.kindAt i =
        if i = handle then some .tcp else rt.stack.kindAt i := ho.kindAt i
    rw [lookup_withConnection, hk]
    split_ifs with hi
    · simp
    · exact hs.entry i
  session := fun port se hse => by
    obtain ⟨a, ha, hk⟩ := hs.session port se hse
    exact ⟨a, (localAddrDefault_keeps ho.localIpv4 ho.localIpv6).trans ha, opens_kindAt ho hk⟩
  dns := fun version i hi => by
    obtain ⟨a, port, ha, hk⟩ := hs.dns version i hi
    exact ⟨a, port, ha, opens_kindAt ho hk⟩
  apart := hs.apart

theorem withConnection_tracked (ht : Tracked rt) (hfree : rt.sockets.lookup handle = none)
    (flowKey : TcpFlowKey) : Tracked (rt.withConnection handle flowKey) where
  handles := fun i => by
    have hm : i ∈ (rt.withConnection handle flowKey).tcpHandles ↔
        i ∈ rt.tcpHandles ∨ i = handle := List.mem_append.trans (or_congr_right List.mem_singleton)
    rw [hm, lookup_withConnection, ht.handles]
    split_ifs with hi <;> simp [hi]
  handlesNodup := by
    refine List.nodup_append.mpr ⟨ht.handlesNodup, List.nodup_singleton _, fun a ha b hb => ?_⟩
    rw [List.mem_singleton.mp hb]
    rintro rfl
    exact (ht.handles a).mp ha hfree
  readyNodup := ht.readyNodup
  readySet := ht.readySet
  handle := fun i st hi => by
    rw [lookup_withConnection] at hi
    split_ifs at hi with he
    · cases hi
      exact (congrArg SocketStreamHandle.handle
        ((stream_withConnection _ _ _ _).trans (if_pos rfl))).trans he.symm
    · rw [stream_withConnection_lt rt _ _ (ht.born i st hi)]
      exact ht.handle i st hi
  notifier := fun i st hi => by
    rw [lookup_withConnection] at hi
    split_ifs at hi with he
    · cases hi
      exact congrArg SocketStreamHandle.socketNotifier
        ((stream_withConnection _ _ _ _).trans (if_pos rfl))
    · rw [stream_withConnection_lt rt _ _ (ht.born i st hi)]
      exact ht.notifier i st hi
  born := fun i st hi => by
    rw [lookup_withConnection] at hi
    split_ifs at hi with he
    · cases hi
      exact Nat.lt_succ_self _
    · exact Nat.lt_succ_of_lt (ht.born i st hi)
  flow := fun key i hi => by
    have hf : (rt.withConnection handle flowKey).tcpFlowMap.lookup key =
        if key = flowKey then some handle else rt.tcpFlowMap.lookup key :=
      Table.lookup_insert _ _ _ _
    rw [hf] at hi
    split_ifs at hi with he
    · cases hi
      exact ⟨_, by rw [lookup_withConnection, if_pos rfl], by rw [he]; rfl⟩
    · obtain ⟨st, hst, hk⟩ := ht.flow key i hi
      refine ⟨st, ?_, hk⟩
      rw [lookup_withConnection, if_neg, hst]
      rintro rfl
      rw [hfree] at hst
      cases hst
  events := fun e he => by
    obtain ⟨hlt, hh, hn⟩ := ht.events e he
    rw [stream_withConnection_lt rt _ _ hlt]
    exact ⟨Nat.lt_succ_of_lt hlt, hh, hn⟩
  sessions := fun x hx => by
    rcases Nat.lt_succ_iff_lt_or_eq.mp hx with hlt | rfl
    · rw [stream_withConnection_lt rt _ _ hlt]
      exact ht.sessions x hlt
    · exact Nat.le_of_eq (congrArg SocketStreamHandle.socketNotifier
        ((stream_withConnection _ _ _ _).trans (if_pos rfl)))

theorem setStack_tracked (ht : Tracked rt) (stack : NetworkStack S) :
    Tracked { rt with stack } :=
  ⟨ht.handles, ht.handlesNodup, ht.readyNodup, ht.readySet, ht.handle, ht.notifier, ht.born,
    ht.flow, ht.events, ht.sessions⟩

theorem insertConnection_consistent (hc : Consistent rt)
    (ho : NetworkStack.Opens rt.stack stack handle .tcp) (flowKey : TcpFlowKey)
    (reservedSlot : Bool) :
    Consistent ({ rt with stack }.insertConnection handle flowKey reservedSlot).2 := by
  rw [insertConnection_eq]
  have hs := withConnection_slotted hc.slotted ho flowKey
  have hf := finishReserved_settled (P := .any) hs reservedSlot
  have ht := withConnection_tracked (setStack_tracked hc.tracked stack)
    (lookup_opens hc.slotted ho) flowKey
  exact ⟨hf.slotted, hf.aside.tracked ht⟩

theorem closingStream_link (c : SocketStreamHandle) : c.SameLink (closingStream c).1 :=
  SocketStreamHandle.notify_link
    { c with writeShutdown := true, sendWaker := c.sendWaker.wake } .closed

theorem withReplies_settled (hs : Slotted rt) (replies : List (OneshotId × Reply)) :
    Settled .any rt (rt.withReplies replies) :=
  setShared_settled hs rfl rfl

theorem withReplies_consistent (hc : Consistent rt) (replies : List (OneshotId × Reply)) :
    Consistent (rt.withReplies replies) := by
  have h := withReplies_settled hc.slotted replies
  exact ⟨h.slotted, h.aside.tracked hc.tracked⟩

theorem sync_link (st : SocketState) (c : SocketStreamHandle) (n : PollCounters) :
    (syncSocketPollInterestCounters st c n).1.link = st.link := rfl

theorem closingEntry_link (st : SocketState) : (closingEntry st).link = st.link := rfl

theorem noteEvent_link (kind : SocketEventKind) (st : SocketState) :
    (noteEvent kind st).link = st.link := rfl

theorem closeConnection_consistent (hc : Consistent rt) {handle : SocketHandle} {st : SocketState}
    (hl : rt.sockets.lookup handle = some st) (h : rt.closeConnection handle = .ok rt') :
    Consistent rt' := by
  obtain ⟨replies, he⟩ := closeConnection_eq hl
  rw [he] at h
  cases h
  have hlink := (sync_link (closingEntry st) (closingStream (rt.stream st.stream)).1
    rt.counters).trans (closingEntry_link st)
  refine withReplies_consistent (hc.carry ?_ ?_ ?_ ?_ ?_ (sameLinks.insert hl hlink) ?_ ?_) replies
  · rw [putStream_eq]
    exact .refl _
  · rw [putStream_eq]
    rfl
  · rw [putStream_eq]
    rfl
  · rw [putStream_eq]
    rfl
  · rw [putStream_eq]
    exact ⟨hc.tracked.readyNodup, hc.tracked.readySet⟩
  · rw [putStream_eq]
    rfl
  · have hx := putStream_sameStreams (hc.tracked.born handle st hl)
      (closingStream_link (rt.stream st.stream))
    exact ⟨hx.session, hx.nextStream, hx.link, hx.events⟩

theorem enqueueReadyTcpHandle_consistent (hc : Consistent rt) (handle : SocketHandle) :
    Consistent (rt.enqueueReadyTcpHandle handle) := by
  have hr := enqueueReadyTcpHandle_readyOk hc.tracked.readyOk handle
  simp only [enqueueReadyTcpHandle] at hr ⊢
  split_ifs at hr ⊢ with hm
  · exact hc
  · exact hc.carry (.refl _) rfl rfl rfl hr (.refl _) rfl
      ⟨rfl, rfl, fun _ => .refl _, fun _ he => .inl he⟩

theorem popEvent_consistent (hc : Consistent rt) {e : SocketEvent} {es : List SocketEvent}
    (h : rt.socketEvents = e :: es) : Consistent { rt with socketEvents := es } :=
  hc.carry (.refl _) rfl rfl rfl ⟨hc.tracked.readyNodup, hc.tracked.readySet⟩ (.refl _) rfl
    ⟨rfl, rfl, fun _ => .refl _, fun _ he => .inl (h ▸ List.mem_cons_of_mem _ he)⟩

theorem setEntry_consistent (hc : Consistent rt) {handle : SocketHandle} {st st' : SocketState}
    (hl : rt.sockets.lookup handle = some st) (h : st'.link = st.link) (counters : PollCounters) :
    Consistent { rt with sockets := AList.insert handle st' rt.sockets, counters } :=
  hc.carry (.refl _) rfl rfl rfl ⟨hc.tracked.readyNodup, hc.tracked.readySet⟩ (.insert hl h) rfl
    ⟨rfl, rfl, fun _ => .refl _, fun _ he => .inl he⟩

theorem handleSocketEvent_consistent (hc : Consistent rt) (e : SocketEvent) :
    Consistent (rt.handleSocketEvent e) := by
  cases hl : rt.sockets.lookup e.handle with
  | none =>
      rw [handleSocketEvent_none _ hl]
      exact enqueueReadyTcpHandle_consistent hc _
  | some st =>
      rw [handleSocketEvent_some _ hl]
      have hlink := (sync_link (noteEvent e.kind st) (rt.stream st.stream) rt.counters).trans
        (noteEvent_link e.kind st)
      exact enqueueReadyTcpHandle_consistent (setEntry_consistent hc hl hlink _) _

theorem setStack_consistent (hc : Consistent rt) {stack : NetworkStack S}
    (hk : NetworkStack.Keeps rt.stack stack) : Consistent { rt with stack } :=
  hc.carry hk rfl rfl rfl ⟨hc.tracked.readyNodup, hc.tracked.readySet⟩ (.refl _) rfl
    ⟨rfl, rfl, fun _ => .refl _, fun _ he => .inl he⟩

theorem markReadyTcpHandle_consistent (hc : Consistent rt) (handle : SocketHandle)
    (mask : EventMask) : Consistent (rt.markReadyTcpHandle handle mask) := by
  have hl := sameLinks.modify handle
    (f := fun st => { st with pendingEvents := st.pendingEvents.union mask }) (fun _ => rfl)
    rt.sockets
  have hm : Consistent
      { rt with
        sockets := Table.modify handle
          (fun st => { st with pendingEvents := st.pendingEvents.union mask }) rt.sockets } :=
    hc.carry (.refl _) rfl rfl rfl ⟨hc.tracked.readyNodup, hc.tracked.readySet⟩ hl rfl
      ⟨rfl, rfl, fun _ => .refl _, fun _ he => .inl he⟩
  exact enqueueReadyTcpHandle_consistent hm handle

theorem noteIncomingTcpHandle_consistent (hc : Consistent rt) (packet : Packet) :
    Consistent (rt.noteIncomingTcpHandle packet) := by
  simp only [noteIncomingTcpHandle]
  split
  · exact hc
  · exact markReadyTcpHandle_consistent hc _ _

theorem injectIncoming_consistent (hc : Consistent rt) {packet : Packet}
    (h : rt.injectIncoming packet = .ok rt') : Consistent rt' := by
  obtain ⟨stack, hi, h⟩ := Outcome.bind_eq_ok.mp h
  cases h
  exact setStack_consistent (noteIncomingTcpHandle_consistent hc packet)
    (NetworkStack.injectPacketOwned_keeps hi)

theorem selectHandles_consistent (hc : Consistent rt) (fullSweep : Bool) :
    Consistent (rt.selectHandles fullSweep).2 := by
  have hr := selectHandles_readyOk hc.tracked.readyOk fullSweep
  cases fullSweep <;>
    exact hc.carry (.refl _) rfl rfl rfl hr (.refl _) rfl
      ⟨rfl, rfl, fun _ => .refl _, fun _ he => .inl he⟩

theorem serviceSocket_ok {fullSweep : Bool} {handle : SocketHandle} {st : SocketState}
    (h : rt.serviceSocket fullSweep handle st = .ok rt') :
    ∃ v, Service.run fullSweep handle rt.tunables.tcpChunkSize
        ⟨rt.stack, st, rt.stream st.stream, rt.counters⟩ = .ok v ∧
      rt' = { (rt.setStream st.stream v.stream).setSocket handle v.entry with
        stack := v.stack
        counters := v.counters } := by
  obtain ⟨v, hv, h⟩ := Outcome.bind_eq_ok.mp h
  exact ⟨v, hv, (Outcome.ok_iff.mp h).symm⟩

theorem setStream_sameStreams (rt : RuntimeState S) {x : StreamId} {c : SocketStreamHandle}
    (hc : (rt.stream x).SameLink c) : SameStreams rt (rt.setStream x c) := by
  refine ⟨rfl, rfl, fun y => ?_, fun _ he => .inl he⟩
  rw [stream_setStream]
  split_ifs with hy
  · rw [hy]
    exact hc
  · exact .refl _

theorem serviceSocket_consistent (hc : Consistent rt) {fullSweep : Bool} {handle : SocketHandle}
    {st : SocketState} (hl : rt.sockets.lookup handle = some st)
    (h : rt.serviceSocket fullSweep handle st = .ok rt') : Consistent rt' := by
  obtain ⟨v, hv, rfl⟩ := serviceSocket_ok h
  have hf := Service.run_frame hv
  have hx := setStream_sameStreams rt hf.link
  exact hc.carry hf.touches.keeps rfl rfl rfl ⟨hc.tracked.readyNodup, hc.tracked.readySet⟩
    (.insert hl (Prod.ext hf.task.1 hf.task.2.1)) rfl
    ⟨hx.session, hx.nextStream, hx.link, hx.events⟩

theorem putStream_consistent (hc : Consistent rt) {x : StreamId}
    {n : SocketStreamHandle.Notified} (hx : x < rt.shared.nextStream)
    (hn : (rt.stream x).SameLink n.1) : Consistent (rt.putStream x n) := by
  have hs := putStream_sameStreams hx hn
  rw [putStream_eq] at hs ⊢
  exact hc.carry (.refl _) rfl rfl rfl ⟨hc.tracked.readyNodup, hc.tracked.readySet⟩ (.refl _) rfl
    hs

structure Retired (handle : SocketHandle) (rt rt' : RuntimeState S) : Prop where
  sockets : rt'.sockets = AList.erase handle rt.sockets
  frees : NetworkStack.Frees rt.stack rt'.stack handle
  udpSessions : rt'.udpSessions = rt.udpSessions
  dnsSockets : rt'.dnsSockets = rt.dnsSockets
  handles : rt'.tcpHandles = rt.tcpHandles.filter (· ≠ handle)
  ready : rt'.readyTcpHandles = rt.readyTcpHandles.filter (· ≠ handle)
  readySet : rt'.readyTcpSet = rt.readyTcpSet.erase handle
  flow : ∀ key i, rt'.tcpFlowMap.lookup key = some i →
    rt.tcpFlowMap.lookup key = some i ∧ i ≠ handle
  events : rt'.socketEvents = rt.socketEvents
  streams : SameStreams rt rt'

theorem erase_of_lookup_none {t : Table SocketHandle SocketState} {handle : SocketHandle}
    (h : t.lookup handle = none) : AList.erase handle t = t := by
  have hm : handle ∉ t.entries.keys := AList.lookup_eq_none.mp h
  exact AList.ext (List.kerase_of_notMem_keys hm)

theorem closedStream_link (c : SocketStreamHandle) : c.SameLink (closedStream c) := ⟨rfl, rfl⟩

theorem retire_retired (hc : Consistent rt) {handle : SocketHandle}
    (h : rt.retire handle = .ok rt') : Retired handle rt rt' := by
  obtain ⟨rt₁, h₁, h⟩ := Outcome.bind_eq_ok.mp h
  cases h
  obtain ⟨stack, hr, h₁⟩ := Outcome.bind_eq_ok.mp h₁
  cases h₁
  have hflow : ∀ key i, rt.tcpFlowMap.lookup key = some i → rt.sockets.lookup i ≠ none := by
    intro key i hi
    obtain ⟨st, hst, _⟩ := hc.tracked.flow key i hi
    rw [hst]
    exact Option.some_ne_none _
  cases hl : rt.sockets.lookup handle with
  | none =>
      have he : rt.releaseSocket handle = rt := by simp only [releaseSocket, hl]
      rw [he] at hr ⊢
      refine ⟨(erase_of_lookup_none hl).symm,
        NetworkStack.removeSocket_frees hc.slotted.wellFormed hr, rfl, rfl, rfl, rfl, rfl,
        fun key i hi => ⟨hi, ?_⟩, rfl, ⟨rfl, rfl, fun _ => .refl _, fun _ h => .inl h⟩⟩
      rintro rfl
      exact hflow key i hi hl
  | some st =>
      obtain ⟨replies, he⟩ := releaseSocket_some hl
      rw [he] at hr ⊢
      have hs := setStream_sameStreams _ (closedStream_link (rt.stream st.stream))
      refine ⟨rfl, NetworkStack.removeSocket_frees hc.slotted.wellFormed hr, rfl, rfl, rfl, rfl,
        rfl, fun key i hi => ?_, rfl, ⟨hs.session, hs.nextStream, hs.link, hs.events⟩⟩
      have hi' : (st.flowKey.elim rt.tcpFlowMap
          (fun key => AList.erase key rt.tcpFlowMap)).lookup key = some i := hi
      cases hk : st.flowKey with
      | none =>
          rw [hk] at hi'
          refine ⟨hi', ?_⟩
          rintro rfl
          obtain ⟨st', hst', hk'⟩ := hc.tracked.flow key i hi'
          rw [hl] at hst'
          cases hst'
          rw [hk] at hk'
          cases hk'
      | some key' =>
          rw [hk] at hi'
          have hi'' : (AList.erase key' rt.tcpFlowMap).lookup key = some i := hi'
          rw [Table.lookup_erase] at hi''
          split_ifs at hi'' with hkey
          refine ⟨hi'', ?_⟩
          rintro rfl
          obtain ⟨st', hst', hk'⟩ := hc.tracked.flow key i hi''
          rw [hl] at hst'
          cases hst'
          rw [hk] at hk'
          exact hkey (Option.some.inj hk').symm

namespace Retired

variable {handle : SocketHandle}

theorem lookup (h : Retired handle rt rt') (i : SocketHandle) :
    rt'.sockets.lookup i = if i = handle then none else rt.sockets.lookup i := by
  rw [h.sockets, Table.lookup_erase]

theorem lookup_some (h : Retired handle rt rt') {i : SocketHandle} {st : SocketState}
    (hi : rt'.sockets.lookup i = some st) : i ≠ handle ∧ rt.sockets.lookup i = some st := by
  rw [h.lookup] at hi
  split_ifs at hi with he
  exact ⟨he, hi⟩

theorem slotted (h : Retired handle rt rt') (hs : Slotted rt)
    (hk : rt.stack.kindAt handle = none ∨ rt.stack.kindAt handle = some .tcp) : Slotted rt' := by
  have hudp : ∀ i e, rt.stack.kindAt i = some (.udp e) → rt'.stack.kindAt i = some (.udp e) := by
    intro i e hi
    rw [h.frees.kindAt, if_neg]
    · exact hi
    · rintro rfl
      rw [hi] at hk
      simp at hk
  refine ⟨h.frees.wellFormed hs.wellFormed, fun i => ?_, fun port se hse => ?_,
    fun version i hi => ?_, ?_⟩
  · rw [h.lookup, h.frees.kindAt]
    split_ifs
    · simp
    · exact hs.entry i
  · obtain ⟨a, ha, hka⟩ := hs.session port se (h.udpSessions ▸ hse)
    exact ⟨a, (localAddrDefault_keeps h.frees.localIpv4 h.frees.localIpv6).trans ha,
      hudp _ _ hka⟩
  · obtain ⟨a, port, ha, hka⟩ := hs.dns version i (h.dnsSockets ▸ hi)
    exact ⟨a, port, ha, hudp _ _ hka⟩
  · rw [h.udpSessions, h.dnsSockets]
    exact hs.apart

theorem tracked (h : Retired handle rt rt') (ht : Tracked rt) : Tracked rt' where
  handles := fun i => by
    rw [h.handles, List.mem_filter, ht.handles, h.lookup]
    split_ifs with hi <;> simp [hi]
  handlesNodup := by
    rw [h.handles]
    exact ht.handlesNodup.filter _
  readyNodup := by
    rw [h.ready]
    exact ht.readyNodup.filter _
  readySet := fun i => by
    rw [h.readySet, h.ready, Finset.mem_erase, List.mem_filter, ht.readySet, decide_eq_true_eq]
    exact and_comm
  handle := fun i st hi => by
    rw [(h.streams.link _).1]
    exact ht.handle i st (h.lookup_some hi).2
  notifier := fun i st hi => by
    rw [(h.streams.link _).2, h.streams.session]
    exact ht.notifier i st (h.lookup_some hi).2
  born := fun i st hi => by
    rw [h.streams.nextStream]
    exact ht.born i st (h.lookup_some hi).2
  flow := fun key i hi => by
    obtain ⟨hi, hne⟩ := h.flow key i hi
    obtain ⟨st, hst, hk⟩ := ht.flow key i hi
    exact ⟨st, by rw [h.lookup, if_neg hne]; exact hst, hk⟩
  events := fun e he => by
    rw [h.streams.nextStream, (h.streams.link _).1, (h.streams.link _).2, h.streams.session]
    rcases h.streams.events e he with he | he
    · exact ht.events e he
    · exact he
  sessions := fun x hx => by
    rw [(h.streams.link x).2, h.streams.session]
    exact ht.sessions x (h.streams.nextStream ▸ hx)

end Retired

theorem freshRuntime_slotted (params : ConnectionParams) (mtu session : Nat)
    (shared : Shared) : Slotted (System.freshRuntime S params mtu session shared) where
  wellFormed := fun i => by
    simp [System.freshRuntime, RuntimeState.new, System.freshStack, NetworkStack.new,
      NetworkStack.kindAt, Smoltcp.kindAt]
  entry := fun i => by
    simp [System.freshRuntime, RuntimeState.new, System.freshStack, NetworkStack.new,
      NetworkStack.kindAt, Smoltcp.kindAt]
  session := fun _ _ h => by simp [System.freshRuntime, RuntimeState.new] at h
  dns := fun v _ h => by cases v <;> cases h
  apart := fun _ _ _ h => by simp [System.freshRuntime, RuntimeState.new] at h

theorem freshRuntime_consistent (params : ConnectionParams) (mtu session : Nat)
    (shared : Shared)
    (h : ∀ x < shared.nextStream, (shared.streams x).socketNotifier ≤ session) :
    Consistent (System.freshRuntime S params mtu session shared) where
  slotted := freshRuntime_slotted params mtu session shared
  tracked :=
    { handles := fun _ => by simp [System.freshRuntime, RuntimeState.new]
      handlesNodup := List.nodup_nil
      readyNodup := List.nodup_nil
      readySet := fun _ => by simp [System.freshRuntime, RuntimeState.new]
      handle := fun _ _ h => by simp [System.freshRuntime, RuntimeState.new] at h
      notifier := fun _ _ h => by simp [System.freshRuntime, RuntimeState.new] at h
      born := fun _ _ h => by simp [System.freshRuntime, RuntimeState.new] at h
      flow := fun _ _ h => by simp [System.freshRuntime, RuntimeState.new] at h
      events := fun _ h => by cases h
      sessions := h }

end RuntimeState

theorem Effect.consistent {R : Rules S} (hS : S.KeepsSockets) (h : Effect R rt rt')
    (hc : Consistent rt) : Consistent rt' := by
  cases h with
  | aside h => exact ⟨h.slotted, h.aside.tracked hc.tracked⟩
  | openTcp reservedSlot _ _ h =>
      exact RuntimeState.insertConnection_consistent hc (RuntimeState.open?_opens h) _ _
  | requestClose hl h => exact RuntimeState.closeConnection_consistent hc hl h
  | @waiters _ st waiters hl _ =>
      have hlink : ({ st with readyWaiters := waiters } : SocketState).link = st.link := rfl
      exact RuntimeState.setEntry_consistent hc hl hlink rt.counters
  | event h =>
      exact RuntimeState.handleSocketEvent_consistent (RuntimeState.popEvent_consistent hc h) _
  | incoming h => exact RuntimeState.injectIncoming_consistent hc h
  | poll _ h => exact RuntimeState.setStack_consistent hc (NetworkStack.pollBounded_keeps hS h)
  | egress h => exact RuntimeState.setStack_consistent hc (NetworkStack.pollEgress_keeps hS h)
  | select _ fullSweep => exact RuntimeState.selectHandles_consistent hc fullSweep
  | service _ fullSweep hl h => exact RuntimeState.serviceSocket_consistent hc hl h
  | release _ _ hk h =>
      have hr := RuntimeState.retire_retired hc h
      exact ⟨hr.slotted hc.slotted hk, hr.tracked hc.tracked⟩
  | client hx _ h => exact RuntimeState.putStream_consistent hc hx h.link
  | reset _ params mtu session shared hs hx hn =>
      refine RuntimeState.freshRuntime_consistent params mtu session shared (fun x hlt => ?_)
      rw [hx]
      exact (hc.tracked.sessions x (hn ▸ hlt)).trans hs

end Usque
