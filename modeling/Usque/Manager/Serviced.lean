import Usque.Manager.Forms
import Usque.Manager.StreamOps

namespace Usque

namespace NetworkStack

variable {S : Smoltcp} {st st' st'' : NetworkStack S} {handle : SocketHandle}

structure Touches (handle : SocketHandle) (st st' : NetworkStack S) : Prop where
  keeps : Keeps st st'
  others : ∀ h, h ≠ handle → st'.sockets.get? h = st.sockets.get? h
  logged : st.UdpLogged → st'.UdpLogged
  rx : st'.device.rxQueue = st.device.rxQueue

namespace Touches

theorem refl (handle : SocketHandle) (st : NetworkStack S) : Touches handle st st :=
  ⟨.refl _, fun _ _ => rfl, id, rfl⟩

theorem trans (h : Touches handle st st') (k : Touches handle st' st'') :
    Touches handle st st'' :=
  ⟨h.keeps.trans k.keeps, fun i hi => (k.others i hi).trans (h.others i hi),
    k.logged ∘ h.logged, k.rx.trans h.rx⟩

theorem hasTcp (h : Touches handle st st') {i : SocketHandle} (hi : i ≠ handle)
    (s : S.TcpSocket) : st'.HasTcp i s ↔ st.HasTcp i s := by
  simp only [HasTcp, h.keeps.validHandles, h.others i hi]

end Touches

theorem HasTcp.put_drains {s : S.TcpSocket} (h : st.HasTcp handle s) (s' : S.TcpSocket) :
    S.UdpDrains st.sockets (st.putTcp handle s').sockets :=
  drains_of_get? (fun i u hu => by
    simp only [putTcp, Slots.get?_put h.2] at hu
    split_ifs at hu
    · cases hu
    · exact hu)

theorem HasTcp.touches_put {s : S.TcpSocket} (h : st.HasTcp handle s) (s' : S.TcpSocket) :
    Touches handle st (st.putTcp handle s') := by
  refine ⟨h.keeps_put s', fun i hi => ?_, fun hl => hl.drains (h.put_drains s') (fun _ hc => hc),
    rfl⟩
  simp only [putTcp, Slots.get?_put h.2, if_neg hi]

theorem HasTcp.put {s : S.TcpSocket} (h : st.HasTcp handle s) (s' : S.TcpSocket) :
    (st.putTcp handle s').HasTcp handle s' := by
  refine ⟨h.1, ?_⟩
  simp only [putTcp, Slots.get?_put h.2, if_true]

theorem tcpSend_touches {data : List UInt8} {r : Except StackError Nat}
    (h : st.tcpSend handle data = .ok (r, st')) :
    Touches handle st st' ∧ st'.calls = st.calls := by
  rcases tcpSend_ok h with ⟨_, _, rfl⟩ | ⟨s, hs, _, rfl⟩
  · exact ⟨.refl _ _, rfl⟩
  · exact ⟨hs.touches_put _, rfl⟩

theorem tcpRecv_touches {len : Nat} {r : Except StackError (List UInt8)}
    (h : st.tcpRecv handle len = .ok (r, st')) :
    Touches handle st st' ∧ st'.calls = st.calls := by
  rcases tcpRecv_ok h with ⟨_, _, rfl⟩ | ⟨s, hs, _, rfl⟩
  · exact ⟨.refl _ _, rfl⟩
  · exact ⟨hs.touches_put _, rfl⟩

theorem tcpClose_touches (h : st.tcpClose handle = .ok st') :
    Touches handle st st' ∧ st'.calls = .tcpClose handle :: st.calls := by
  have hlog : Touches handle st (st.logCall (.tcpClose handle)) :=
    ⟨.logCall _ _, fun _ _ => rfl,
      fun hl => hl.drains (drains_of_get? (fun _ _ hu => hu)) (fun _ hc => .tail _ hc), rfl⟩
  rcases tcpClose_ok h with ⟨_, rfl⟩ | ⟨s, hs, rfl⟩
  · exact ⟨hlog, rfl⟩
  · exact ⟨hlog.trans ((hs.logCall _).touches_put _), rfl⟩

end NetworkStack

open NetworkStack (Touches)

variable {S : Smoltcp} {handle : SocketHandle} {tcpChunkSize : Nat}

-- What a flush may do to the stream: only its send side moves.
structure FlushedStream (c c' : SocketStreamHandle) : Prop where
  eq : c' = { c with sendBuffer := c'.sendBuffer, sendWaker := c'.sendWaker }

structure FilledStream (c c' : SocketStreamHandle) : Prop where
  eq : c' = { c with recvBuffer := c'.recvBuffer, recvWaker := c'.recvWaker }

theorem FlushedStream.trans {c c' c'' : SocketStreamHandle} (h : FlushedStream c c')
    (k : FlushedStream c' c'') : FlushedStream c c'' := by
  refine ⟨?_⟩
  rw [k.eq, h.eq]

theorem flushPendingToStack_ok {fuel : Nat} {st st' : NetworkStack S} {c c' : SocketStreamHandle}
    (h : flushPendingToStack handle tcpChunkSize fuel st c = .ok (st', c')) :
    (Touches handle st st' ∧ st'.calls = st.calls) ∧ FlushedStream c c' := by
  refine flushPendingToStack_rule
    (I := fun st₁ d => (Touches handle st st₁ ∧ st₁.calls = st.calls) ∧ FlushedStream c d)
    ?_ ?_ h ⟨⟨.refl _ _, rfl⟩, ⟨rfl⟩⟩
  · rintro st₁ st₂ d r data ⟨⟨htouches, hcalls⟩, hd⟩ hsend
    obtain ⟨ht, hc⟩ := NetworkStack.tcpSend_touches hsend
    exact ⟨⟨htouches.trans ht, hc.trans hcalls⟩, hd⟩
  · rintro st₁ d n ⟨hst, hd⟩
    exact ⟨hst, hd.trans ⟨rfl⟩⟩

theorem storeReceived_filled (c : SocketStreamHandle) (data : List UInt8) :
    FilledStream c (c.storeReceived data).2 := by
  simp only [SocketStreamHandle.storeReceived]
  split <;> exact ⟨rfl⟩

theorem FilledStream.trans {c c' c'' : SocketStreamHandle} (h : FilledStream c c')
    (k : FilledStream c' c'') : FilledStream c c'' := by
  refine ⟨?_⟩
  rw [k.eq, h.eq]

theorem fillRecvBuffer_ok {fuel : Nat} {st st' : NetworkStack S} {c c' : SocketStreamHandle}
    (h : fillRecvBuffer handle tcpChunkSize fuel st c = .ok (st', c')) :
    (Touches handle st st' ∧ st'.calls = st.calls) ∧ FilledStream c c' := by
  refine fillRecvBuffer_rule
    (I := fun st₁ d => (Touches handle st st₁ ∧ st₁.calls = st.calls) ∧ FilledStream c d)
    ?_ ?_ h ⟨⟨.refl _ _, rfl⟩, ⟨rfl⟩⟩
  · rintro st₁ st₂ d r len ⟨⟨htouches, hcalls⟩, hd⟩ hrecv
    obtain ⟨ht, hc⟩ := NetworkStack.tcpRecv_touches hrecv
    exact ⟨⟨htouches.trans ht, hc.trans hcalls⟩, hd⟩
  · rintro st₁ d data ⟨hst, hd⟩
    exact ⟨hst, hd.trans (storeReceived_filled d data)⟩

theorem FlushedStream.link {c c' : SocketStreamHandle} (h : FlushedStream c c') :
    c.SameLink c' := by
  rw [h.eq]
  exact ⟨rfl, rfl⟩

theorem FilledStream.link {c c' : SocketStreamHandle} (h : FilledStream c c') :
    c.SameLink c' := by
  rw [h.eq]
  exact ⟨rfl, rfl⟩

namespace SocketStreamHandle

theorem SameLink.refl (c : SocketStreamHandle) : c.SameLink c := ⟨rfl, rfl⟩

theorem SameLink.trans {c c' c'' : SocketStreamHandle} (h : c.SameLink c')
    (k : c'.SameLink c'') : c.SameLink c'' := ⟨k.1.trans h.1, k.2.trans h.2⟩

theorem clearEvents_link (c : SocketStreamHandle) (mask : EventMask) :
    c.SameLink (c.clearEvents mask) := by
  obtain ⟨r, w, d⟩ := mask
  cases r <;> cases w <;> cases d <;> exact ⟨rfl, rfl⟩

end SocketStreamHandle

def SocketState.sameTask (st st' : SocketState) : Prop :=
  st'.stream = st.stream ∧ st'.flowKey = st.flowKey ∧ st'.readyWaiters = st.readyWaiters

namespace Service

variable {fullSweep should past : Bool} {v v' v'' : Service S}

structure Frame (handle : SocketHandle) (v v' : Service S) : Prop where
  touches : Touches handle v.stack v'.stack
  task : v.entry.sameTask v'.entry
  link : v.stream.SameLink v'.stream

namespace Frame

theorem trans (h : Frame handle v v') (k : Frame handle v' v'') : Frame handle v v'' where
  touches := h.touches.trans k.touches
  task := ⟨k.task.1.trans h.task.1, k.task.2.1.trans h.task.2.1, k.task.2.2.trans h.task.2.2⟩
  link := h.link.trans k.link

theorem refl (handle : SocketHandle) (v : Service S) : Frame handle v v :=
  ⟨.refl _ _, ⟨rfl, rfl, rfl⟩, .refl _⟩

end Frame

theorem begin_frame (handle : SocketHandle) (v : Service S) (fullSweep : Bool) :
    Frame handle v (v.begin fullSweep) := by
  cases fullSweep with
  | true => exact ⟨.refl _ _, ⟨rfl, rfl, rfl⟩, ⟨rfl, rfl⟩⟩
  | false => exact ⟨.refl _ _, ⟨rfl, rfl, rfl⟩, v.stream.clearEvents_link _⟩

theorem serviceWrite_ok (h : v.serviceWrite should handle tcpChunkSize = .ok v') :
    Touches handle v.stack v'.stack ∧ v'.stack.calls = v.stack.calls ∧
      FlushedStream v.stream v'.stream ∧ v'.entry = v.entry ∧ v'.counters = v.counters := by
  simp only [serviceWrite] at h
  split at h
  · obtain ⟨⟨stack, stream⟩, hf, h⟩ := Outcome.bind_eq_ok.mp h
    cases h
    obtain ⟨⟨ht, hc⟩, hs⟩ := flushPendingToStack_ok hf
    exact ⟨ht, hc, hs, rfl, rfl⟩
  · cases h
    exact ⟨.refl _ _, rfl, ⟨rfl⟩, rfl, rfl⟩

theorem serviceRead_ok (h : v.serviceRead should handle tcpChunkSize = .ok v') :
    Touches handle v.stack v'.stack ∧ v'.stack.calls = v.stack.calls ∧
      FilledStream v.stream v'.stream ∧ v'.entry = v.entry ∧ v'.counters = v.counters := by
  simp only [serviceRead] at h
  split at h
  · obtain ⟨⟨stack, stream⟩, hf, h⟩ := Outcome.bind_eq_ok.mp h
    cases h
    obtain ⟨⟨ht, hc⟩, hs⟩ := fillRecvBuffer_ok hf
    exact ⟨ht, hc, hs, rfl, rfl⟩
  · cases h
    exact ⟨.refl _ _, rfl, ⟨rfl⟩, rfl, rfl⟩

theorem syncConnecting_ok (h : v.syncConnecting handle = .ok (past, v')) :
    v.stack.tcpIsPastHandshake handle = .ok past ∧
      v' = { v with
        entry := (syncSocketConnectingCounters v.entry (!past) v.counters).1
        counters := (syncSocketConnectingCounters v.entry (!past) v.counters).2 } := by
  obtain ⟨b, hb, h⟩ := Outcome.bind_eq_ok.mp h
  cases h
  exact ⟨hb, rfl⟩

def closedHalves (past mayRecv maySend : Bool) (c : SocketStreamHandle) : SocketStreamHandle :=
  let c := if past && !mayRecv then { c with readClosed := true }.wakeRecv else c
  if past && !maySend then { c with writeClosed := true }.wakeSend else c

theorem closeHalves_ok (h : v.closeHalves handle past = .ok v') :
    ∃ mayRecv maySend, v.stack.tcpMayRecv handle = .ok mayRecv ∧
      v.stack.tcpMaySend handle = .ok maySend ∧
      v' = { v with stream := closedHalves past mayRecv maySend v.stream } := by
  obtain ⟨mayRecv, hr, h⟩ := Outcome.bind_eq_ok.mp h
  obtain ⟨maySend, hs, h⟩ := Outcome.bind_eq_ok.mp h
  cases h
  exact ⟨mayRecv, maySend, hr, hs, rfl⟩

theorem closedHalves_link (past mayRecv maySend : Bool) (c : SocketStreamHandle) :
    c.SameLink (closedHalves past mayRecv maySend c) := by
  cases past <;> cases mayRecv <;> cases maySend <;> exact ⟨rfl, rfl⟩

def wantsFin (v : Service S) (maySend : Bool) : Bool :=
  v.entry.closeRequested && !v.entry.finSent && v.stream.sendBuffer.len = 0 && maySend

theorem sendFin_ok (h : v.sendFin handle = .ok v') :
    ∃ maySend, v.stack.tcpMaySend handle = .ok maySend ∧
      ((v.wantsFin maySend ∧ ∃ stack, v.stack.tcpClose handle = .ok stack ∧
          v' = { v with stack, entry := { v.entry with finSent := true } }) ∨
        (v.wantsFin maySend = false ∧ v' = v)) := by
  obtain ⟨maySend, hs, h⟩ := Outcome.bind_eq_ok.mp h
  refine ⟨maySend, hs, ?_⟩
  split at h
  · next hw =>
      obtain ⟨stack, hc, h⟩ := Outcome.bind_eq_ok.mp h
      cases h
      exact .inl ⟨hw, stack, hc, rfl⟩
  · next hw =>
      cases h
      exact .inr ⟨Bool.eq_false_iff.mpr hw, rfl⟩

theorem sendFin_frame (h : v.sendFin handle = .ok v') : Frame handle v v' := by
  obtain ⟨_, _, ⟨_, stack, hc, rfl⟩ | ⟨_, rfl⟩⟩ := sendFin_ok h
  · exact ⟨(NetworkStack.tcpClose_touches hc).1, ⟨rfl, rfl, rfl⟩, .refl _⟩
  · exact .refl _ _

theorem run_frame (h : v.run fullSweep handle tcpChunkSize = .ok v') : Frame handle v v' := by
  obtain ⟨p⟩ := run_passes h
  obtain ⟨htw, _, hsw, hew, _⟩ := serviceWrite_ok p.write
  obtain ⟨htr, _, hsr, her, _⟩ := serviceRead_ok p.read
  obtain ⟨_, hc⟩ := syncConnecting_ok p.connecting
  obtain ⟨mayRecv, maySend, _, _, hh⟩ := closeHalves_ok p.closing
  have hwrite : Frame handle (v.begin fullSweep) p.written :=
    ⟨htw, by rw [hew]; exact ⟨rfl, rfl, rfl⟩, hsw.link⟩
  have hread : Frame handle p.written p.filled :=
    ⟨htr, by rw [her]; exact ⟨rfl, rfl, rfl⟩, hsr.link⟩
  have hsync : Frame handle p.filled p.synced := by
    rw [hc]
    exact ⟨.refl _ _, ⟨rfl, rfl, rfl⟩, .refl _⟩
  have hhalves : Frame handle p.synced p.halves := by
    rw [hh]
    exact ⟨.refl _ _, ⟨rfl, rfl, rfl⟩, closedHalves_link _ _ _ _⟩
  exact (begin_frame handle v fullSweep).trans
    (hwrite.trans (hread.trans (hsync.trans (hhalves.trans (sendFin_frame p.fin)))))

theorem run_calls (h : v.run fullSweep handle tcpChunkSize = .ok v') :
    v'.stack.calls = v.stack.calls ∨ v'.stack.calls = .tcpClose handle :: v.stack.calls := by
  obtain ⟨p⟩ := run_passes h
  obtain ⟨_, hcw, _⟩ := serviceWrite_ok p.write
  obtain ⟨_, hcr, _⟩ := serviceRead_ok p.read
  obtain ⟨_, hc⟩ := syncConnecting_ok p.connecting
  obtain ⟨mayRecv, maySend, _, _, hh⟩ := closeHalves_ok p.closing
  have hhalves : p.halves.stack.calls = v.stack.calls := by
    rw [hh, hc]
    exact hcr.trans (hcw.trans (by cases fullSweep <;> rfl))
  obtain ⟨_, _, ⟨_, stack, hclose, hv⟩ | ⟨_, hv⟩⟩ := sendFin_ok p.fin
  · refine .inr ?_
    rw [hv, ← hhalves]
    exact (NetworkStack.tcpClose_touches hclose).2
  · refine .inl ?_
    rw [hv, hhalves]

end Service

namespace PollCounters

def plus (n : PollCounters) (st : SocketState) : PollCounters where
  pendingFromClientSockets := n.pendingFromClientSockets + st.countedPendingFromClient.toNat
  pendingToClientSockets := n.pendingToClientSockets + st.countedPendingToClient.toNat
  closeRequestedSockets := n.closeRequestedSockets + st.countedCloseRequested.toNat
  connectingSockets := n.connectingSockets + st.countedConnecting.toNat

end PollCounters

theorem syncCount_plus (want counted : Bool) (n : Nat) :
    syncCount want counted (n + counted.toNat) = n + want.toNat := by
  cases want <;> cases counted <;> simp [syncCount]

theorem uncount_plus (counted : Bool) (n : Nat) : uncount counted (n + counted.toNat) = n := by
  cases counted <;> simp [uncount]

theorem syncPoll_plus (st : SocketState) (c : SocketStreamHandle) (n : PollCounters) :
    (syncSocketPollInterestCounters st c (n.plus st)).2 =
      n.plus (syncSocketPollInterestCounters st c (n.plus st)).1 := by
  simp [syncSocketPollInterestCounters, PollCounters.plus, syncCount_plus]

theorem syncConnecting_plus (st : SocketState) (b : Bool) (n : PollCounters) :
    (syncSocketConnectingCounters st b (n.plus st)).2 =
      n.plus (syncSocketConnectingCounters st b (n.plus st)).1 := by
  simp [syncSocketConnectingCounters, PollCounters.plus, syncCount_plus]

theorem remove_plus (st : SocketState) (n : PollCounters) :
    removeSocketPollInterestCounters st (n.plus st) = n := by
  simp [removeSocketPollInterestCounters, PollCounters.plus, uncount_plus]

namespace Service

variable {fullSweep : Bool} {v v' : Service S} {n : PollCounters}

theorem syncPollInterest_counted (h : v.counters = n.plus v.entry) :
    v.syncPollInterest.counters = n.plus v.syncPollInterest.entry := by
  simp only [syncPollInterest, h]
  exact syncPoll_plus _ _ _

theorem begin_counted (h : v.counters = n.plus v.entry) :
    (v.begin fullSweep).counters = n.plus (v.begin fullSweep).entry := by
  refine syncPollInterest_counted ?_
  cases fullSweep <;> exact h

theorem run_counted (h : v.run fullSweep handle tcpChunkSize = .ok v')
    (hn : v.counters = n.plus v.entry) : v'.counters = n.plus v'.entry := by
  obtain ⟨p⟩ := run_passes h
  obtain ⟨_, _, _, hew, hcw⟩ := serviceWrite_ok p.write
  obtain ⟨_, _, _, her, hcr⟩ := serviceRead_ok p.read
  obtain ⟨_, hc⟩ := syncConnecting_ok p.connecting
  obtain ⟨mayRecv, maySend, _, _, hh⟩ := closeHalves_ok p.closing
  have hfilled : p.filled.counters = n.plus p.filled.entry := by
    rw [hcr, her, hcw, hew]
    exact begin_counted hn
  have hsynced : p.synced.counters = n.plus p.synced.entry := by
    rw [hc, syncPollInterest_counted hfilled]
    exact syncConnecting_plus _ _ _
  have hhalves : p.halves.counters = n.plus p.halves.entry := by
    rw [hh]
    exact hsynced
  obtain ⟨_, _, ⟨_, stack, _, hv⟩ | ⟨_, hv⟩⟩ := sendFin_ok p.fin <;> rw [hv] <;> exact hhalves

end Service

end Usque
