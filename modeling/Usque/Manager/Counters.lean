import Usque.Manager.Runs

namespace Usque

variable {S : Smoltcp} {rt rt' : RuntimeState S}

def tally (t : Table SocketHandle SocketState) : PollCounters where
  pendingFromClientSockets := Table.total (·.countedPendingFromClient.toNat) t
  pendingToClientSockets := Table.total (·.countedPendingToClient.toNat) t
  closeRequestedSockets := Table.total (·.countedCloseRequested.toNat) t
  connectingSockets := Table.total (·.countedConnecting.toNat) t

section tally

variable {t : Table SocketHandle SocketState} {handle : SocketHandle} {st st' : SocketState}

theorem tally_insert (t : Table SocketHandle SocketState) (handle : SocketHandle)
    (st : SocketState) :
    tally (AList.insert handle st t) = (tally (AList.erase handle t)).plus st := by
  simp only [tally, PollCounters.plus, Table.total_insert, Nat.add_comm]

theorem tally_of_lookup (hl : t.lookup handle = some st) :
    tally t = (tally (AList.erase handle t)).plus st := by
  simp only [tally, PollCounters.plus, Table.total_of_lookup _ hl, Nat.add_comm]

theorem tally_fresh (hl : t.lookup handle = none) (st : SocketState) :
    tally (AList.insert handle st t) = (tally t).plus st := by
  rw [tally_insert, RuntimeState.erase_of_lookup_none hl]

theorem tally_update (hl : t.lookup handle = some st) {f : PollCounters → PollCounters}
    (hf : ∀ n : PollCounters, f (n.plus st) = n.plus st') :
    tally (AList.insert handle st' t) = f (tally t) := by
  rw [tally_insert, tally_of_lookup hl, hf]

end tally

def SocketState.counted (st : SocketState) : Bool × Bool × Bool × Bool :=
  (st.countedPendingFromClient, st.countedPendingToClient, st.countedCloseRequested,
    st.countedConnecting)

theorem PollCounters.plus_congr {st st' : SocketState} (h : st'.counted = st.counted)
    (n : PollCounters) : n.plus st' = n.plus st := by
  simp only [SocketState.counted, Prod.mk.injEq] at h
  simp only [PollCounters.plus, h]

structure Counted (rt : RuntimeState S) : Prop where
  counters : rt.counters = tally rt.sockets
  closing : ∀ h st, rt.sockets.lookup h = some st → st.countedCloseRequested = st.closeRequested

namespace Counted

variable {handle : SocketHandle} {st st' : SocketState}

theorem same (h : Counted rt) (hs : rt'.sockets = rt.sockets) (hn : rt'.counters = rt.counters) :
    Counted rt' :=
  ⟨by rw [hs, hn, h.counters], hs ▸ h.closing⟩

theorem closing_insert (h : Counted rt) (hc : st'.countedCloseRequested = st'.closeRequested)
    (i : SocketHandle) (w : SocketState)
    (hi : (AList.insert handle st' rt.sockets).lookup i = some w) :
    w.countedCloseRequested = w.closeRequested := by
  rw [Table.lookup_insert] at hi
  split_ifs at hi
  · cases hi
    exact hc
  · exact h.closing i w hi

-- An entry is replaced and the counters follow: `f` is what the code does to them.
theorem replace (h : Counted rt) (hl : rt.sockets.lookup handle = some st)
    (hs : rt'.sockets = AList.insert handle st' rt.sockets)
    {f : PollCounters → PollCounters} (hf : ∀ n : PollCounters, f (n.plus st) = n.plus st')
    (hn : rt'.counters = f rt.counters) (hc : st'.countedCloseRequested = st'.closeRequested) :
    Counted rt' where
  counters := by rw [hn, hs, h.counters, tally_update hl hf]
  closing := by
    rw [hs]
    exact h.closing_insert hc

theorem relabel (h : Counted rt) (hl : rt.sockets.lookup handle = some st)
    (hs : rt'.sockets = AList.insert handle st' rt.sockets) (hn : rt'.counters = rt.counters)
    (hst : st'.counted = st.counted) (hc : st'.closeRequested = st.closeRequested) :
    Counted rt' := by
  have hcount : st'.countedCloseRequested = st.countedCloseRequested :=
    congrArg (fun c => c.2.2.1) hst
  exact h.replace (f := id) hl hs (fun n => (PollCounters.plus_congr hst n).symm) hn
    (by rw [hcount, hc, h.closing handle st hl])

theorem fresh (h : Counted rt) (hl : rt.sockets.lookup handle = none)
    (hs : rt'.sockets = AList.insert handle st rt.sockets)
    (hn : rt'.counters = rt.counters.plus st)
    (hc : st.countedCloseRequested = st.closeRequested) : Counted rt' where
  counters := by rw [hn, hs, h.counters, tally_fresh hl]
  closing := by
    rw [hs]
    exact h.closing_insert hc

theorem erase (h : Counted rt) (hl : rt.sockets.lookup handle = some st)
    (hs : rt'.sockets = AList.erase handle rt.sockets)
    (hn : rt'.counters = removeSocketPollInterestCounters st rt.counters) : Counted rt' where
  counters := by rw [hn, hs, h.counters, tally_of_lookup hl, remove_plus]
  closing := fun i w hi => by
    rw [hs, Table.lookup_erase] at hi
    split_ifs at hi
    exact h.closing i w hi

end Counted

theorem syncPoll_replace {st st' : SocketState} (h : st'.counted = st.counted)
    (c : SocketStreamHandle) (n : PollCounters) :
    (syncSocketPollInterestCounters st' c (n.plus st)).2 =
      n.plus (syncSocketPollInterestCounters st' c (n.plus st)).1 := by
  rw [← PollCounters.plus_congr h]
  exact syncPoll_plus st' c n

namespace Service

variable {fullSweep : Bool} {handle : SocketHandle} {tcpChunkSize : Nat} {v v' : Service S}

theorem run_closing (h : v.run fullSweep handle tcpChunkSize = .ok v') :
    v'.entry.countedCloseRequested = v'.entry.closeRequested := by
  obtain ⟨p⟩ := run_passes h
  obtain ⟨_, hc⟩ := syncConnecting_ok p.connecting
  obtain ⟨mayRecv, maySend, _, _, hh⟩ := closeHalves_ok p.closing
  have hsynced : p.synced.entry.countedCloseRequested = p.synced.entry.closeRequested := by
    rw [hc]
    rfl
  obtain ⟨_, _, ⟨_, stack, _, hv⟩ | ⟨_, hv⟩⟩ := sendFin_ok p.fin <;> rw [hv, hh] <;>
    exact hsynced

end Service

namespace RuntimeState

theorem enqueueReadyTcpHandle_counted (h : Counted rt) (handle : SocketHandle) :
    Counted (rt.enqueueReadyTcpHandle handle) := by
  simp only [enqueueReadyTcpHandle]
  split
  · exact h
  · exact h.same rfl rfl

theorem closeHandle_counted (hc : Counted rt) {handle : SocketHandle}
    (h : rt.closeHandle handle = .ok rt') : Counted rt' := by
  obtain ⟨stack, _, h⟩ := Outcome.bind_eq_ok.mp h
  cases h
  cases hl : rt.sockets.lookup handle with
  | none =>
      have he : rt.releaseSocket handle = rt := by simp only [releaseSocket, hl]
      rw [he]
      exact hc.same rfl rfl
  | some st =>
      obtain ⟨replies, he⟩ := releaseSocket_some hl
      rw [he]
      exact hc.erase hl rfl rfl

theorem retire_counted (hc : Counted rt) {handle : SocketHandle}
    (h : rt.retire handle = .ok rt') : Counted rt' := by
  obtain ⟨rt₁, h₁, h⟩ := Outcome.bind_eq_ok.mp h
  cases h
  exact (closeHandle_counted hc h₁).same rfl rfl

theorem markReadyTcpHandle_counted (h : Counted rt) (handle : SocketHandle) (mask : EventMask) :
    Counted (rt.markReadyTcpHandle handle mask) := by
  refine enqueueReadyTcpHandle_counted ?_ handle
  cases hl : rt.sockets.lookup handle with
  | none => exact h.same (Table.modify_none hl _) rfl
  | some st => exact h.relabel hl (Table.modify_some hl _) rfl rfl rfl

theorem noteIncomingTcpHandle_counted (h : Counted rt) (packet : Packet) :
    Counted (rt.noteIncomingTcpHandle packet) := by
  simp only [noteIncomingTcpHandle]
  split
  · exact h
  · exact markReadyTcpHandle_counted h _ _

theorem handleSocketEvent_counted (h : Counted rt) (e : SocketEvent) :
    Counted (rt.handleSocketEvent e) := by
  cases hl : rt.sockets.lookup e.handle with
  | none =>
      rw [handleSocketEvent_none rt hl]
      exact enqueueReadyTcpHandle_counted h e.handle
  | some st =>
      rw [handleSocketEvent_some rt hl]
      refine enqueueReadyTcpHandle_counted ?_ e.handle
      exact h.replace hl rfl (f := fun n => (syncSocketPollInterestCounters _ _ n).2)
        (fun n => syncPoll_replace rfl _ n) rfl rfl

theorem finishReserved_counted (h : Counted rt) (reservedSlot : Bool) :
    Counted (rt.finishReserved reservedSlot) := by
  simp only [finishReserved]
  split
  · exact h.same rfl rfl
  · exact h

end RuntimeState

open RuntimeState in
theorem Effect.counted {R : Rules S} (h : Effect R rt rt') (hs : Slotted rt) (hc : Counted rt) :
    Counted rt' := by
  cases h with
  | aside h => exact hc.same h.aside.sockets h.aside.counters
  | openTcp reservedSlot _ _ h =>
      rw [insertConnection_eq]
      exact finishReserved_counted
        (hc.fresh (lookup_opens hs (open?_opens h)) rfl rfl rfl) reservedSlot
  | requestClose hl h =>
      obtain ⟨replies, he⟩ := closeConnection_eq hl
      rw [he] at h
      cases h
      exact hc.replace hl rfl (f := fun n => (syncSocketPollInterestCounters _ _ n).2)
        (fun n => syncPoll_replace rfl _ n) rfl rfl
  | waiters hl _ => exact hc.relabel hl rfl rfl rfl rfl
  | @event e es h =>
      have hpop : Counted { rt with socketEvents := es } := hc.same rfl rfl
      exact handleSocketEvent_counted hpop e
  | incoming h =>
      obtain ⟨stack, _, h⟩ := Outcome.bind_eq_ok.mp h
      cases h
      exact (noteIncomingTcpHandle_counted hc _).same rfl rfl
  | poll _ h => exact hc.same rfl rfl
  | egress h => exact hc.same rfl rfl
  | select _ fullSweep => cases fullSweep <;> exact hc.same rfl rfl
  | @service _ handle st _ fullSweep hl h =>
      obtain ⟨v, hv, rfl⟩ := serviceSocket_ok h
      have hn : v.counters = (tally (AList.erase handle rt.sockets)).plus v.entry :=
        Service.run_counted hv (hc.counters.trans (tally_of_lookup hl))
      refine ⟨hn.trans (tally_insert rt.sockets handle v.entry).symm, ?_⟩
      exact hc.closing_insert (Service.run_closing hv)
  | release _ _ _ h => exact retire_counted hc h
  | client hx _ h =>
      rw [putStream_eq]
      exact hc.same rfl rfl
  | reset _ params mtu session shared hs hx hn => exact ⟨rfl, fun _ _ h => by cases h⟩

end Usque
