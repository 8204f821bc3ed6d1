import Usque.Manager.DnsExpiry
import Usque.Manager.UdpTableSteps
import Usque.Stack.Datagrams

namespace Usque

variable {S : Smoltcp} {received : S.UdpSocket → List (List UInt8 × IpEndpoint)}
  {rt rt' rt'' : RuntimeState S}

open RuntimeState

def UdpChannel.room (c : UdpChannel) : Nat :=
  if c.closed then 0 else udpSessionChannelCapacity - c.queue.length

theorem foldl_trySend (items : List (IpAddress × UInt16 × List UInt8)) (c : UdpChannel) :
    items.foldl RuntimeState.UdpChannel.trySend c =
      { c with queue := c.queue ++ items.take c.room } := by
  induction items generalizing c with
  | nil => simp
  | cons item items ih =>
      rw [List.foldl_cons, ih]
      simp only [RuntimeState.UdpChannel.trySend, Bool.or_eq_true, decide_eq_true_eq]
      split_ifs with hfull
      · have hroom : c.room = 0 := by
          simp only [UdpChannel.room]
          split_ifs
          · rfl
          · rcases hfull with h | h
            · contradiction
            · omega
        simp [hroom]
      · obtain ⟨hopen, hlen⟩ := not_or.mp hfull
        have hroom : c.room = { c with queue := c.queue ++ [item] }.room + 1 := by
          simp only [UdpChannel.room, if_neg hopen, List.length_append, List.length_singleton]
          omega
        rw [hroom]
        simp

-- What process_udp_responses passes on: not an empty datagram and not one longer than its buffer.
def deliverable (n : Nat) (d : List UInt8 × IpEndpoint) : Bool :=
  !d.1.isEmpty && decide (d.1.length ≤ n)

def clientItem (d : List UInt8 × IpEndpoint) : IpAddress × UInt16 × List UInt8 :=
  (d.2.addr, d.2.port, d.1)

theorem clientItem_injective : Function.Injective clientItem := by
  rintro ⟨data, addr, port⟩ ⟨data', addr', port'⟩ h
  cases h
  rfl

-- A session as the delivery of its datagrams sees it.
structure Feed where
  queue : List (List UInt8 × IpEndpoint)
  channel : UdpChannel
  lastActivity : Time
deriving DecidableEq

namespace Feed

def visit (now : Time) (n : Nat) (f : Feed) : Feed :=
  match f.queue with
  | [] => f
  | d :: queue =>
      if deliverable n d then ⟨queue, UdpChannel.trySend f.channel (clientItem d), now⟩
      else { f with queue }

variable {now : Time} {n : Nat}

theorem visits_queue (k : Nat) (f : Feed) : ((visit now n)^[k] f).queue = f.queue.drop k := by
  induction k generalizing f with
  | zero => rfl
  | succ k ih =>
      rw [Function.iterate_succ_apply, ih]
      cases hq : f.queue with
      | nil => simp [visit, hq]
      | cons d ds =>
          simp only [visit, hq]
          split <;> rfl

theorem visits_channel (k : Nat) (f : Feed) :
    ((visit now n)^[k] f).channel =
      (((f.queue.take k).filter (deliverable n)).map clientItem).foldl UdpChannel.trySend
        f.channel := by
  induction k generalizing f with
  | zero => simp
  | succ k ih =>
      rw [Function.iterate_succ_apply, ih]
      cases hq : f.queue with
      | nil => simp [visit, hq]
      | cons d ds =>
          simp only [visit, hq, List.take_succ_cons, List.filter_cons]
          split <;> rfl

theorem visits_lastActivity (k : Nat) (f : Feed) :
    ((visit now n)^[k] f).lastActivity =
      if (f.queue.take k).any (deliverable n) then now else f.lastActivity := by
  induction k generalizing f with
  | zero => simp
  | succ k ih =>
      rw [Function.iterate_succ_apply, ih]
      cases hq : f.queue with
      | nil => simp [visit, hq]
      | cons d ds =>
          have hany : (f.queue.take (k + 1)).any (deliverable n) =
              (deliverable n d || (ds.take k).any (deliverable n)) := by
            rw [hq, List.take_succ_cons, List.any_cons]
          rw [← hq, hany]
          simp only [visit, hq]
          by_cases hd : deliverable n d = true
          · rw [if_pos hd, hd, Bool.true_or, if_pos rfl]
            exact ite_self _
          · rw [if_neg hd, Bool.eq_false_iff.mpr hd, Bool.false_or]

end Feed

theorem map_take_filter_iff {α β : Type} {f : α → β} (hf : Function.Injective f) (p : α → Bool)
    (room k : Nat) (l : List α) :
    (((l.take k).filter p).map f).take room = (l.map f).take room ↔
      (∀ a ∈ l.take room, p a = true) ∧ min room l.length ≤ k := by
  rw [← List.map_take, ← List.map_take, (List.map_injective_iff.mpr hf).eq_iff]
  constructor
  · intro h
    have hall : ∀ a ∈ l.take room, p a = true := by
      intro a ha
      rw [← h] at ha
      exact (List.mem_filter.mp (List.mem_of_mem_take ha)).2
    refine ⟨hall, ?_⟩
    have hlen := congrArg List.length h
    have hle := List.length_filter_le p (l.take k)
    simp only [List.length_take] at hlen hle
    omega
  · rintro ⟨hall, hk⟩
    by_cases hrl : room ≤ l.length
    · have hsplit : l.take k = l.take room ++ (l.drop room).take (k - room) := by
        rw [Nat.min_eq_left hrl] at hk
        conv_lhs => rw [← Nat.add_sub_cancel' hk]
        exact List.take_add
      rw [hsplit, List.filter_append, List.filter_eq_self.mpr hall]
      exact List.take_left' (by rw [List.length_take, Nat.min_eq_left hrl])
    · have hl : l.length ≤ room := Nat.le_of_not_le hrl
      rw [List.take_of_length_le hl] at hall ⊢
      rw [Nat.min_eq_right hl] at hk
      rw [List.take_of_length_le hk, List.filter_eq_self.mpr hall, List.take_of_length_le hl]

namespace NetworkStack

def udp? (st : NetworkStack S) (handle : SocketHandle) : Option S.UdpSocket :=
  match st.sockets.get? handle with
  | some (.udp u) => some u
  | _ => none

def receivedAt (received : S.UdpSocket → List (List UInt8 × IpEndpoint)) (st : NetworkStack S)
    (handle : SocketHandle) : List (List UInt8 × IpEndpoint) :=
  (st.udp? handle).elim [] received

variable {st st' : NetworkStack S} {handle : SocketHandle}

theorem udp?_of_get? {i : SocketHandle} (h : st'.sockets.get? i = st.sockets.get? i) :
    st'.udp? i = st.udp? i := by
  simp only [udp?, h]

theorem HasUdp.udp? {u : S.UdpSocket} (h : st.HasUdp handle u) : st.udp? handle = some u := by
  simp only [NetworkStack.udp?, h.2]

theorem udp?_none (h : st.udpAt handle = none) : st.udp? handle = none := by
  simp only [udpAt, NetworkStack.kindAt, Smoltcp.kindAt] at h
  simp only [udp?]
  cases hg : st.sockets.get? handle with
  | none => rfl
  | some s =>
      cases s with
      | tcp => rfl
      | udp => rw [hg] at h; cases h

theorem udp?_tcp (h : st.kindAt handle = some .tcp) : st.udp? handle = none :=
  udp?_none (by rw [udpAt, h]; rfl)

theorem udp?_free (h : st.kindAt handle = none) : st.udp? handle = none :=
  udp?_none (by rw [udpAt, h]; rfl)

theorem udp?_putUdp {s u : S.UdpSocket} (h : st.HasUdp handle s) (i : SocketHandle) :
    (st.putUdp handle u).udp? i = if i = handle then some u else st.udp? i := by
  simp only [udp?, putUdp, Slots.get?_put h.2]
  split_ifs <;> rfl

theorem udpRecv_others {len : Nat} {r : Except StackError (List UInt8 × IpEndpoint)}
    (h : st.udpRecv handle len = .ok (r, st')) {i : SocketHandle} (hi : i ≠ handle) :
    st'.udp? i = st.udp? i := by
  rcases udpRecv_ok h with ⟨_, _, rfl⟩ | ⟨s, hs, _, rfl⟩
  · rfl
  · rw [udp?_putUdp hs, if_neg hi]

theorem removeSocket_udp? (h : st.removeSocket handle = .ok st') (i : SocketHandle) :
    i ≠ handle → st'.udp? i = st.udp? i := by
  intro hi
  simp only [removeSocket] at h
  split at h
  · split at h
    · cases h
      exact udp?_of_get? (by rw [Slots.get?_remove, if_neg hi])
    · cases h
  · cases h
    rfl

end NetworkStack

-- The parts of a poll that leave the sessions, their channels and their sockets alone.
structure Still (rt rt' : RuntimeState S) : Prop where
  sessions : rt'.udpSessions = rt.udpSessions
  ports : rt'.udpPorts = rt.udpPorts
  channels : rt'.shared.udpChannels = rt.shared.udpChannels
  now : rt'.shared.now = rt.shared.now
  tunables : rt'.tunables = rt.tunables
  dnsSockets : rt'.dnsSockets = rt.dnsSockets
  sockets : ∀ h, (∀ v, rt.dnsSockets.slot v ≠ some h) → rt'.stack.udp? h = rt.stack.udp? h

namespace Still

theorem refl (rt : RuntimeState S) : Still rt rt :=
  ⟨rfl, rfl, rfl, rfl, rfl, rfl, fun _ _ => rfl⟩

theorem trans (h : Still rt rt') (k : Still rt' rt'') : Still rt rt'' where
  sessions := k.sessions.trans h.sessions
  ports := k.ports.trans h.ports
  channels := k.channels.trans h.channels
  now := k.now.trans h.now
  tunables := k.tunables.trans h.tunables
  dnsSockets := k.dnsSockets.trans h.dnsSockets
  sockets := fun i hi => (k.sockets i (by rw [h.dnsSockets]; exact hi)).trans (h.sockets i hi)

theorem replyAll (rt : RuntimeState S) (responses : List OneshotId) (value : Reply) :
    Still rt (rt.replyAll responses value) := by
  rw [replyAll_eq]
  exact ⟨rfl, rfl, rfl, rfl, rfl, rfl, fun _ _ => rfl⟩

theorem notifyReadyWaiters (h : rt.notifyReadyWaiters = .ok rt') : Still rt rt' := by
  refine notifyReadyWaiters_preserves (I := Still rt) ?_ ?_ h (.refl rt)
  · intro rt₁ handle st h₁
    exact h₁.trans ⟨rfl, rfl, rfl, rfl, rfl, rfl, fun _ _ => rfl⟩
  · intro rt₁ responses state h₁
    exact h₁.trans (.replyAll rt₁ _ _)

theorem withDns (rt : RuntimeState S) (queries : Table UInt16 DnsQueryState)
    (groups : Table UInt32 DnsQueryGroup) (cache : DnsCache) (replies : List (OneshotId × Reply)) :
    Still rt (rt.withDns queries groups cache replies) :=
  ⟨rfl, rfl, rfl, rfl, rfl, rfl, fun _ _ => rfl⟩

theorem tryResolve (rt : RuntimeState S) (groupId : UInt32) :
    Still rt (rt.tryResolveDnsGroup groupId) := by
  cases hl : rt.dnsGroups.lookup groupId with
  | none =>
      rw [tryResolveDnsGroup_none hl]
      exact .refl _
  | some group =>
      rw [tryResolveDnsGroup_eq hl]
      exact .withDns rt _ _ _ _

theorem accept (H : Hickory) (rt : RuntimeState S) (data : List UInt8) :
    Still rt (rt.acceptDnsResponse H data) := by
  rcases acceptDnsResponse_cases H rt data with he | ⟨txId, result, query, _, _, he⟩
  · rw [he]
    exact .refl rt
  · rw [he]
    have hrecord : Still rt ((rt.takeQuery txId).recordResult query.groupId query.queryType result) :=
      ⟨rfl, rfl, rfl, rfl, rfl, rfl, fun _ _ => rfl⟩
    exact hrecord.trans (.tryResolve _ _)

theorem receiveDnsResponses {H : Hickory} {handle : SocketHandle} {fuel : Nat}
    (hd : ∃ v, rt.dnsSockets.slot v = some handle)
    (h : RuntimeState.receiveDnsResponses H handle fuel rt = .ok rt') : Still rt rt' := by
  induction fuel generalizing rt with
  | zero => cases h
  | succ fuel ih =>
      obtain ⟨can, _, h⟩ := Outcome.bind_eq_ok.mp h
      split at h
      · cases h
        exact .refl _
      · obtain ⟨⟨result, stack⟩, hrecv, h⟩ := Outcome.bind_eq_ok.mp h
        have hst : Still rt { rt with stack } := by
          refine ⟨rfl, rfl, rfl, rfl, rfl, rfl, fun i hi => ?_⟩
          obtain ⟨v, hv⟩ := hd
          exact NetworkStack.udpRecv_others hrecv (fun he => hi v (he ▸ hv))
        dsimp only at h
        split at h
        · cases h
          exact hst
        · split at h
          · exact hst.trans (ih hd h)
          · have ha := Still.accept H { rt with stack } ‹_›
            exact hst.trans (ha.trans (ih (by rw [ha.dnsSockets]; exact hd) h))

theorem processDnsResponses {H : Hickory} (h : rt.processDnsResponses H = .ok rt') :
    Still rt rt' := by
  suffices hall : ∀ (handles : List SocketHandle) (rt : RuntimeState S),
      (∀ i ∈ handles, ∃ v, rt.dnsSockets.slot v = some i) →
      Outcome.run (fun rt handle => RuntimeState.receiveDnsResponses H handle
        (rt.stack.tunables.udpSocketMetadataCapacity + 1) rt) rt handles = .ok rt' →
      Still rt rt' from hall _ _ (fun i hi => slot_of_mem_handles hi) h
  intro handles
  induction handles with
  | nil =>
      intro rt _ h
      cases h
      exact .refl _
  | cons handle handles ih =>
      intro rt hd h
      obtain ⟨rt₁, h₁, h⟩ := Outcome.bind_eq_ok.mp h
      have hs := Still.receiveDnsResponses (hd handle (List.mem_cons_self ..)) h₁
      refine hs.trans (ih rt₁ (fun i hi => ?_) h)
      rw [hs.dnsSockets]
      exact hd i (List.mem_cons_of_mem _ hi)

theorem expireDnsGroups (rt : RuntimeState S) : Still rt rt.expireDnsGroups := by
  simp only [RuntimeState.expireDnsGroups]
  refine List.foldlRecOn (motive := fun rt' : RuntimeState S => Still rt rt') _ _ (.refl rt) ?_
  intro rt' h groupId _
  refine h.trans ?_
  cases hl : rt'.dnsGroups.lookup groupId with
  | none =>
      rw [expireDnsGroup_none hl]
      exact .refl rt'
  | some group =>
      rw [expireDnsGroup_eq hl]
      exact .withDns rt' _ _ _ _

theorem serviceSocket (hc : Consistent rt) {fullSweep : Bool} {handle : SocketHandle}
    {st : SocketState} (hl : rt.sockets.lookup handle = some st)
    (h : rt.serviceSocket fullSweep handle st = .ok rt') : Still rt rt' := by
  obtain ⟨v, hv, rfl⟩ := serviceSocket_ok h
  have ht := (Service.run_frame hv).touches
  refine ⟨rfl, rfl, rfl, rfl, rfl, rfl, fun i _ => ?_⟩
  by_cases hi : i = handle
  · subst hi
    have hk : rt.stack.kindAt i = some .tcp := (hc.slotted.entry i).mp (by simp [hl])
    rw [NetworkStack.udp?_tcp hk]
    exact NetworkStack.udp?_tcp ((ht.keeps.kindAt i).trans hk)
  · exact NetworkStack.udp?_of_get? (ht.others i hi)

theorem retire (hc : Consistent rt) {handle : SocketHandle} (hu : rt.notUdp handle)
    (h : rt.retire handle = .ok rt') : Still rt rt' := by
  have hr := retire_retired hc h
  obtain ⟨rt₁, h₁, h⟩ := Outcome.bind_eq_ok.mp h
  obtain ⟨stack, hst, h₁⟩ := Outcome.bind_eq_ok.mp h₁
  cases h₁
  cases h
  have hrel : Still rt (rt.releaseSocket handle) ∧ (rt.releaseSocket handle).stack = rt.stack := by
    cases hl : rt.sockets.lookup handle with
    | none =>
        have he : rt.releaseSocket handle = rt := by simp only [releaseSocket, hl]
        rw [he]
        exact ⟨.refl rt, rfl⟩
    | some st =>
        obtain ⟨replies, he⟩ := releaseSocket_some hl
        rw [he]
        exact ⟨⟨rfl, rfl, rfl, rfl, rfl, rfl, fun _ _ => rfl⟩, rfl⟩
  rw [hrel.2] at hst
  refine ⟨hrel.1.sessions, hrel.1.ports, hrel.1.channels, hrel.1.now, hrel.1.tunables,
    hrel.1.dnsSockets, fun i _ => ?_⟩
  by_cases hi : i = handle
  · rw [hi, NetworkStack.udp?_none hu.udpAt]
    have hk := hr.frees.kindAt handle
    rw [if_pos rfl] at hk
    exact NetworkStack.udp?_free hk
  · exact NetworkStack.removeSocket_udp? hst i hi

theorem pollTcpSockets (hS : S.KeepsSockets) (hc : Consistent rt) {fullSweep : Bool}
    (h : rt.pollTcpSockets fullSweep = .ok rt') : Still rt rt' := by
  refine pollTcpSockets_rule hS (P := Still) .refl (fun _ _ _ h k => h.trans k)
    (fun _ _ _ _ _ hc hl h => .serviceSocket hc hl h) (fun _ _ _ hc hu h => .retire hc hu h)
    (fun a fullSweep => ?_) hc h
  cases fullSweep <;> exact ⟨rfl, rfl, rfl, rfl, rfl, rfl, fun _ _ => rfl⟩

end Still

namespace RuntimeState

def feed (received : S.UdpSocket → List (List UInt8 × IpEndpoint)) (rt : RuntimeState S)
    (port : UInt16) : Option Feed :=
  (rt.udpSessions.lookup port).map (fun se =>
    ⟨rt.stack.receivedAt received se.handle, rt.shared.udpChannels se.toClient, se.lastActivity⟩)

theorem feed_some {port : UInt16} {se : UdpSessionState}
    (h : rt.udpSessions.lookup port = some se) :
    rt.feed received port = some ⟨rt.stack.receivedAt received se.handle,
      rt.shared.udpChannels se.toClient, se.lastActivity⟩ := by
  simp only [feed, h, Option.map_some]

theorem feed_none {port : UInt16} (h : rt.udpSessions.lookup port = none) :
    rt.feed received port = none := by
  simp only [feed, h, Option.map_none]

theorem feed_still (h : Still rt rt') (hs : Slotted rt) (port : UInt16) :
    rt'.feed received port = rt.feed received port := by
  cases hl : rt.udpSessions.lookup port with
  | none => rw [feed_none hl, feed_none (by rw [h.sessions, hl])]
  | some se =>
      have hh := h.sockets se.handle (fun v => hs.apart port se v hl)
      rw [feed_some hl, feed_some (by rw [h.sessions, hl]), h.channels]
      simp only [NetworkStack.receivedAt, hh]

theorem session_handle_ne (hs : Slotted rt) {port port' : UInt16} {se se' : UdpSessionState}
    (hl : rt.udpSessions.lookup port = some se) (hl' : rt.udpSessions.lookup port' = some se')
    (hne : port' ≠ port) : se'.handle ≠ se.handle := by
  intro he
  obtain ⟨a, _, hk⟩ := hs.session port se hl
  obtain ⟨a', _, hk'⟩ := hs.session port' se' hl'
  rw [he, hk] at hk'
  cases hk'
  exact hne rfl

theorem session_channel_ne (ht : rt.udpTable.Routed) {port port' : UInt16}
    {se se' : UdpSessionState} (hl : rt.udpSessions.lookup port = some se)
    (hl' : rt.udpSessions.lookup port' = some se') (hne : port' ≠ port) :
    se'.toClient ≠ se.toClient := by
  intro he
  have hp : rt.udpTable.sessions port = some (se.handle, se.toClient) := by
    simp only [udpTable, hl, Option.map_some]
  have hp' : rt.udpTable.sessions port' = some (se'.handle, se.toClient) := by
    simp only [udpTable, hl', Option.map_some, he]
  exact hne (ht.apart port' port _ _ _ hp' hp)

def takeFirst (rt : RuntimeState S) (handle : SocketHandle) (u : S.UdpSocket) : RuntimeState S :=
  { rt with
    stack := rt.stack.putUdp handle (S.udpRecvSlice u rt.tunables.udpRecvBufferSize).2 }

theorem takeFirst_udpTable (hS : S.KeepsSockets) {handle : SocketHandle} {u : S.UdpSocket}
    (hu : rt.stack.HasUdp handle u) : (rt.takeFirst handle u).udpTable = rt.udpTable :=
  udpTable_setStack _ (hu.keeps_put (hS.recv u _)).udpAt

-- Receiving on a session's socket takes the first datagram from it and from no other.
theorem takeFirst_feed (hR : S.ReceivesInOrder received) (hs : Slotted rt) {port : UInt16}
    {se : UdpSessionState} (hl : rt.udpSessions.lookup port = some se) {u : S.UdpSocket}
    (hu : rt.stack.HasUdp se.handle u) {d : List UInt8 × IpEndpoint}
    {rest : List (List UInt8 × IpEndpoint)} (hq : received u = d :: rest) (p : UInt16) :
    (rt.takeFirst se.handle u).feed received p =
      if p = port then some ⟨rest, rt.shared.udpChannels se.toClient, se.lastActivity⟩
      else rt.feed received p := by
  have hput : ∀ i, (rt.takeFirst se.handle u).stack.udp? i = _ :=
    NetworkStack.udp?_putUdp hu (u := (S.udpRecvSlice u rt.tunables.udpRecvBufferSize).2)
  have hsessions : (rt.takeFirst se.handle u).udpSessions = rt.udpSessions := rfl
  split_ifs with hp
  · rw [hp, feed_some (by rw [hsessions, hl])]
    simp only [NetworkStack.receivedAt, hput, if_true, Option.elim_some, hR.pops u _ d rest hq]
    rfl
  · cases hl' : rt.udpSessions.lookup p with
    | none =>
        rw [feed_none hl']
        exact feed_none (by rw [hsessions, hl'])
    | some se' =>
        rw [feed_some hl', feed_some (by rw [hsessions, hl'])]
        have hne := session_handle_ne hs hl hl' hp
        simp only [NetworkStack.receivedAt, hput, if_neg hne]
        rfl

theorem deliverUdp_feed (received : S.UdpSocket → List (List UInt8 × IpEndpoint))
    (ht : rt.udpTable.Routed) {port : UInt16} {se : UdpSessionState}
    (hl : rt.udpSessions.lookup port = some se) (data : List UInt8) (remote : IpEndpoint)
    (p : UInt16) :
    (rt.deliverUdp port se data remote).feed received p =
      if p = port then
        some ⟨rt.stack.receivedAt received se.handle,
          UdpChannel.trySend (rt.shared.udpChannels se.toClient) (clientItem (data, remote)),
          rt.shared.now⟩
      else rt.feed received p := by
  split_ifs with hp
  · have hld : (rt.deliverUdp port se data remote).udpSessions.lookup p =
        some { se with lastActivity := rt.shared.now } := by
      simp only [deliverUdp]
      rw [Table.lookup_insert, if_pos hp]
    rw [feed_some hld]
    simp only [deliverUdp, Function.update_self, clientItem]
  · cases hl' : rt.udpSessions.lookup p with
    | none =>
        rw [feed_none hl']
        exact feed_none (by simp only [deliverUdp]; rw [Table.lookup_insert, if_neg hp, hl'])
    | some se' =>
        have hne := session_channel_ne ht hl hl' hp
        have hld : (rt.deliverUdp port se data remote).udpSessions.lookup p = some se' := by
          simp only [deliverUdp]
          rw [Table.lookup_insert, if_neg hp, hl']
        rw [feed_some hl', feed_some hld]
        simp only [deliverUdp, Function.update_of_ne hne]

structure Delivers (received : S.UdpSocket → List (List UInt8 × IpEndpoint))
    (rt rt' : RuntimeState S) (visits : UInt16 → Nat) : Prop where
  now : rt'.shared.now = rt.shared.now
  tunables : rt'.tunables = rt.tunables
  ports : rt'.udpPorts = rt.udpPorts
  table : rt'.udpTable = rt.udpTable
  slotted : Slotted rt'
  feed : ∀ p, rt'.feed received p =
    (rt.feed received p).map (Feed.visit rt.shared.now rt.tunables.udpRecvBufferSize)^[visits p]

theorem Delivers.none (hs : Slotted rt) : Delivers received rt rt (fun _ => 0) :=
  ⟨rfl, rfl, rfl, rfl, hs, fun p => by simp⟩

theorem Delivers.trans {visits visits' : UInt16 → Nat} (h : Delivers received rt rt' visits)
    (k : Delivers received rt' rt'' visits') :
    Delivers received rt rt'' (fun p => visits p + visits' p) where
  now := k.now.trans h.now
  tunables := k.tunables.trans h.tunables
  ports := k.ports.trans h.ports
  table := k.table.trans h.table
  slotted := k.slotted
  feed := fun p => by
    rw [k.feed, h.feed, h.now, h.tunables, Option.map_map, Nat.add_comm, Function.iterate_add]

theorem processUdpResponse_cases (hR : S.ReceivesInOrder received) {port : UInt16}
    {se : UdpSessionState} (hl : rt.udpSessions.lookup port = some se) {u : S.UdpSocket}
    (hu : rt.stack.HasUdp se.handle u) (h : rt.processUdpResponse port = .ok rt') :
    (received u = [] ∧ rt' = rt) ∨ ∃ d rest, received u = d :: rest ∧
      rt' = if deliverable rt.tunables.udpRecvBufferSize d then
          (rt.takeFirst se.handle u).deliverUdp port se d.1 d.2
        else rt.takeFirst se.handle u := by
  simp only [processUdpResponse, hl, hu.udpCanRecv, Outcome.ok_bind, hR.canRecv] at h
  cases hr : received u with
  | nil =>
      rw [hr] at h
      cases h
      exact .inl ⟨rfl, rfl⟩
  | cons d rest =>
      obtain ⟨data, remote⟩ := d
      rw [hr] at h
      simp only [List.isEmpty_cons, Bool.not_false, Bool.not_true, Bool.false_eq_true,
        if_false] at h
      obtain ⟨⟨result, stack⟩, hrecv, h⟩ := Outcome.bind_eq_ok.mp h
      rcases NetworkStack.udpRecv_ok hrecv with ⟨hv, _⟩ | ⟨u', hu', hresult, hstack⟩
      · exact absurd hu.1 hv
      · have he : u' = u := by simpa using hu'.2.symm.trans hu.2
        rw [he] at hresult hstack
        refine .inr ⟨(data, remote), rest, rfl, ?_⟩
        by_cases hlen : data.length ≤ rt.tunables.udpRecvBufferSize
        · rw [hR.fits u _ data remote rest hr hlen] at hresult
          rw [hresult, hstack] at h
          simp only [Result.mapError_ok] at h
          cases hempty : data.isEmpty with
          | true =>
              rw [hempty] at h
              cases h
              simp [deliverable, hempty, takeFirst]
          | false =>
              rw [hempty] at h
              cases h
              simp [deliverable, hempty, hlen, takeFirst]
        · obtain ⟨e, he⟩ := hR.truncated u rt.tunables.udpRecvBufferSize data remote rest hr
            (Nat.lt_of_not_le hlen)
          rw [he] at hresult
          rw [hresult, hstack] at h
          cases h
          simp [deliverable, hlen, takeFirst]

theorem processUdpResponse_delivers (hS : S.KeepsSockets) (hR : S.ReceivesInOrder received)
    (hs : Slotted rt) (ht : rt.udpTable.Routed) {port : UInt16}
    (h : rt.processUdpResponse port = .ok rt') :
    Delivers received rt rt' (fun p => if p = port then 1 else 0) := by
  have htable := processUdpResponse_udpTable hS h
  have hslotted := ((processUdpResponse_settles (P := .any) hS hs port).settled h).slotted
  -- It is enough to know what becomes of the port's own session and that the others stay.
  have hfeed : rt'.feed received port = (rt.feed received port).map
        (Feed.visit rt.shared.now rt.tunables.udpRecvBufferSize) →
      (∀ p, p ≠ port → rt'.feed received p = rt.feed received p) → ∀ p, rt'.feed received p =
      (rt.feed received p).map (Feed.visit rt.shared.now rt.tunables.udpRecvBufferSize)^[
        if p = port then 1 else 0] := by
    intro hown hothers p
    by_cases hp : p = port
    · rw [if_pos hp, Function.iterate_one, hp, hown]
    · rw [if_neg hp, Function.iterate_zero, Option.map_id, id, hothers p hp]
  cases hl : rt.udpSessions.lookup port with
  | none =>
      simp only [processUdpResponse, hl] at h
      cases h
      exact ⟨rfl, rfl, rfl, rfl, hs, hfeed (by rw [feed_none hl, Option.map_none]) (fun _ _ => rfl)⟩
  | some se =>
      obtain ⟨u, a, hu, _, _⟩ := hasUdp_session hs hl
      have hstart : rt.feed received port =
          some ⟨received u, rt.shared.udpChannels se.toClient, se.lastActivity⟩ := by
        rw [feed_some hl, NetworkStack.receivedAt, hu.udp?, Option.elim_some]
      rcases processUdpResponse_cases hR hl hu h with ⟨hnil, rfl⟩ | ⟨d, rest, hq, he⟩
      · refine ⟨rfl, rfl, rfl, rfl, hs, hfeed ?_ (fun _ _ => rfl)⟩
        rw [hstart, hnil]
        rfl
      · have hfirst := takeFirst_feed hR hs hl hu hq
        rw [hq] at hstart
        by_cases hd : deliverable rt.tunables.udpRecvBufferSize d = true
        · rw [if_pos hd] at he
          have htaken : (rt.takeFirst se.handle u).udpTable.Routed :=
            (takeFirst_udpTable hS hu).symm ▸ ht
          have hltaken : (rt.takeFirst se.handle u).udpSessions.lookup port = some se := hl
          have hdeliver := deliverUdp_feed received htaken hltaken d.1 d.2
          subst he
          refine ⟨rfl, rfl, rfl, htable, hslotted, hfeed ?_ (fun p hp => ?_)⟩
          · have hrest := hfirst port
            rw [if_pos rfl, feed_some hltaken] at hrest
            have hqueue := congrArg Feed.queue (Option.some.inj hrest)
            dsimp only at hqueue
            rw [hdeliver, if_pos rfl, hstart, hqueue]
            simp only [Option.map_some, Feed.visit, hd, if_true]
            rfl
          · rw [hdeliver, if_neg hp, hfirst, if_neg hp]
        · rw [if_neg hd] at he
          subst he
          refine ⟨rfl, rfl, rfl, htable, hslotted, hfeed ?_ (fun p hp => ?_)⟩
          · rw [hfirst, if_pos rfl, hstart]
            simp only [Option.map_some, Feed.visit, if_neg hd]
          · rw [hfirst, if_neg hp]

theorem processUdpResponses_delivers (hS : S.KeepsSockets) (hR : S.ReceivesInOrder received)
    (hs : Slotted rt) (ht : rt.udpTable.Routed) (h : rt.processUdpResponses = .ok rt') :
    Delivers received rt rt' (fun p => rt.udpPorts.count p) := by
  suffices hall : ∀ (ports : List UInt16) (rt : RuntimeState S), Slotted rt →
      rt.udpTable.Routed → Outcome.run processUdpResponse rt ports = .ok rt' →
      Delivers received rt rt' (fun p => ports.count p) from hall _ _ hs ht h
  intro ports
  induction ports with
  | nil =>
      intro rt hs _ h
      cases h
      simpa using Delivers.none hs
  | cons port ports ih =>
      intro rt hs ht h
      obtain ⟨rt₁, h₁, h⟩ := Outcome.bind_eq_ok.mp h
      have hd := processUdpResponse_delivers hS hR hs ht h₁
      have hrest := hd.trans (ih rt₁ hd.slotted (hd.table.symm ▸ ht) h)
      refine ⟨hrest.now, hrest.tunables, hrest.ports, hrest.table, hrest.slotted, fun p => ?_⟩
      have hcount : (port :: ports).count p = (if p = port then 1 else 0) + ports.count p := by
        rw [List.count_cons, Nat.add_comm]
        simp only [beq_iff_eq, @eq_comm _ port p]
      rw [hrest.feed, hcount]

end RuntimeState

end Usque
