import Usque.Manager.Traced

namespace Usque

namespace AtomicWaker

variable {w w' w'' : AtomicWaker}

-- A registration stays until the waker is woken.
structure Later (w w' : AtomicWaker) : Prop where
  wakes : w.wakes ≤ w'.wakes
  kept : w.registered = true → w'.wakes = w.wakes → w' = w

theorem Later.refl (w : AtomicWaker) : Later w w := ⟨Nat.le_refl _, fun _ _ => rfl⟩

theorem Later.trans (h : Later w w') (k : Later w' w'') : Later w w'' := by
  refine ⟨h.wakes.trans k.wakes, fun hr he => ?_⟩
  have hw := h.kept hr (Nat.le_antisymm (he ▸ k.wakes) h.wakes)
  subst hw
  exact k.kept hr he

theorem later_register (w : AtomicWaker) : Later w w.register := by
  refine ⟨Nat.le_refl _, fun hr _ => ?_⟩
  cases w
  cases hr
  rfl

theorem later_wake (w : AtomicWaker) : Later w w.wake := by
  obtain ⟨registered, wakes⟩ := w
  cases registered with
  | false => exact .refl _
  | true => exact ⟨Nat.le_succ _, fun _ he => absurd he (Nat.succ_ne_self _)⟩

-- The waker is woken if it holds a registration.
def Woken (w w' : AtomicWaker) : Prop := w.registered = true → w'.wakes ≠ w.wakes

theorem woken_wake (w : AtomicWaker) : Woken w w.wake := by
  intro hr
  simp only [wake, hr, if_true]
  exact Nat.succ_ne_self _

theorem Woken.later (h : Woken w w') (k : Later w' w'') (hl : Later w w') : Woken w w'' := by
  intro hr he
  exact h hr (Nat.le_antisymm (he ▸ k.wakes) hl.wakes)

end AtomicWaker

open AtomicWaker (Later Woken)

def Sealed (c : SocketStreamHandle) : Prop :=
  c.socketClosed = true → c.readClosed = true ∧ c.writeClosed = true

-- What the operations on a stream leave: flags only rise, and a flag that rises wakes the task
-- that it concerns.
structure Signals (c c' : SocketStreamHandle) : Prop where
  notifier : c'.socketNotifier = c.socketNotifier
  socketClosed : c.socketClosed = true → c'.socketClosed = true
  readClosed : c.readClosed = true → c'.readClosed = true
  writeClosed : c.writeClosed = true → c'.writeClosed = true
  recv : Later c.recvWaker c'.recvWaker
  send : Later c.sendWaker c'.sendWaker
  reader : (c'.socketClosed = c.socketClosed ∧ c'.readClosed = c.readClosed) ∨
    Woken c.recvWaker c'.recvWaker
  closing : c'.socketClosed = true → c.socketClosed = true ∨ c'.readClosed = true ∧
    c'.writeClosed = true

namespace Signals

variable {c c' c'' : SocketStreamHandle}

theorem refl (c : SocketStreamHandle) : Signals c c :=
  ⟨rfl, id, id, id, .refl _, .refl _, .inl ⟨rfl, rfl⟩, .inl⟩

theorem trans (h : Signals c c') (k : Signals c' c'') : Signals c c'' where
  notifier := k.notifier.trans h.notifier
  socketClosed := k.socketClosed ∘ h.socketClosed
  readClosed := k.readClosed ∘ h.readClosed
  writeClosed := k.writeClosed ∘ h.writeClosed
  recv := h.recv.trans k.recv
  send := h.send.trans k.send
  reader := by
    rcases h.reader with ⟨hs, hr⟩ | hw
    · rcases k.reader with ⟨ks, kr⟩ | kw
      · exact .inl ⟨ks.trans hs, kr.trans hr⟩
      · refine .inr (fun hreg he => ?_)
        have hwaker := h.recv.kept hreg (Nat.le_antisymm (he ▸ k.recv.wakes) h.recv.wakes)
        rw [hwaker] at kw
        exact kw hreg he
    · exact .inr (hw.later k.recv h.recv)
  closing := fun hs => by
    rcases k.closing hs with hs' | hc
    · exact (h.closing hs').imp id (fun hc => ⟨k.readClosed hc.1, k.writeClosed hc.2⟩)
    · exact .inr hc

theorem isSealed (h : Signals c c') (hc : Sealed c) : Sealed c' := by
  intro hs
  rcases h.closing hs with hs' | hc'
  · exact ⟨h.readClosed (hc hs').1, h.writeClosed (hc hs').2⟩
  · exact hc'

-- An operation that touches neither the flags nor the wakers.
theorem quiet (hn : c'.socketNotifier = c.socketNotifier) (hs : c'.socketClosed = c.socketClosed)
    (hr : c'.readClosed = c.readClosed) (hw : c'.writeClosed = c.writeClosed)
    (hrecv : Later c.recvWaker c'.recvWaker) (hsend : Later c.sendWaker c'.sendWaker) :
    Signals c c' :=
  ⟨hn, fun h => hs.trans h, fun h => hr.trans h, fun h => hw.trans h, hrecv, hsend,
    .inl ⟨hs, hr⟩, fun h => .inl (hs.symm.trans h)⟩

end Signals

namespace SocketStreamHandle

variable (c : SocketStreamHandle)

theorem notify_signals (kind : SocketEventKind) : Signals c (c.notify kind).1 := by
  simp only [notify]
  split
  · exact .refl c
  · cases kind <;> exact .quiet rfl rfl rfl rfl (.refl _) (.refl _)

theorem wakeRecv_signals : Signals c c.wakeRecv :=
  .quiet rfl rfl rfl rfl (AtomicWaker.later_wake _) (.refl _)

theorem wakeSend_signals : Signals c c.wakeSend :=
  .quiet rfl rfl rfl rfl (.refl _) (AtomicWaker.later_wake _)

theorem registerRecv_signals : Signals c { c with recvWaker := c.recvWaker.register } :=
  .quiet rfl rfl rfl rfl (AtomicWaker.later_register _) (.refl _)

theorem registerSend_signals : Signals c { c with sendWaker := c.sendWaker.register } :=
  .quiet rfl rfl rfl rfl (.refl _) (AtomicWaker.later_register _)

theorem recvBuffer_signals (recvBuffer : TcpRingBuffer) : Signals c { c with recvBuffer } :=
  .quiet rfl rfl rfl rfl (.refl _) (.refl _)

theorem sendBuffer_signals (sendBuffer : TcpRingBuffer) : Signals c { c with sendBuffer } :=
  .quiet rfl rfl rfl rfl (.refl _) (.refl _)

theorem readBytes_signals (n : Nat) : Signals c (c.readBytes n).2.1 := by
  simp only [readBytes]
  have h := c.recvBuffer_signals (c.recvBuffer.dequeueSlice n).2
  split
  · exact h.trans (notify_signals _ _)
  · exact h

theorem writeBytes_signals (buf : List UInt8) : Signals c (c.writeBytes buf).2.1 := by
  simp only [writeBytes]
  have h := c.sendBuffer_signals (c.sendBuffer.enqueueSlice buf).2
  split
  · exact h.trans (notify_signals _ _)
  · exact h

theorem pollRead_signals (n : Nat) : Signals c (c.pollRead n).2.1 := by
  have h := c.registerRecv_signals
  simp only [pollRead]
  split
  · split <;> exact h
  · exact c.readBytes_signals n

theorem pollWrite_signals (buf : List UInt8) : Signals c (c.pollWrite buf).2.1 := by
  simp only [pollWrite]
  split
  · exact .refl c
  · split
    · exact c.registerSend_signals
    · exact c.writeBytes_signals buf

theorem pollFlush_signals : Signals c c.pollFlush.2.1 := by
  simp only [pollFlush]
  split
  · exact .refl c
  · have h := (c.notify_signals .writeReady).trans (registerSend_signals _)
    split <;> exact h

theorem pollShutdown_signals : Signals c c.pollShutdown.2.1 := by
  have h := c.pollFlush_signals
  simp only [pollShutdown]
  split
  · next hp =>
      rw [hp] at h
      exact h
  · next c' events hp =>
      rw [hp] at h
      split
      · exact h
      · have hset : Signals c' { c' with writeShutdown := true } :=
          .quiet rfl rfl rfl rfl (.refl _) (.refl _)
        exact h.trans (hset.trans (notify_signals _ _))

theorem drop_signals : Signals c c.drop.1 := by
  have h : Signals c ({ c with
      socketDropped := true, readClosed := true, writeClosed := true }.wakeRecv.wakeSend) :=
    ⟨rfl, id, fun _ => rfl, fun _ => rfl, AtomicWaker.later_wake _, AtomicWaker.later_wake _,
      .inr (AtomicWaker.woken_wake _), .inl⟩
  exact h.trans (notify_signals _ _)

theorem clearEvents_signals (mask : EventMask) : Signals c (c.clearEvents mask) := by
  obtain ⟨r, w, d⟩ := mask
  cases r <;> cases w <;> cases d <;> exact .quiet rfl rfl rfl rfl (.refl _) (.refl _)

theorem closingStream_signals : Signals c (RuntimeState.closingStream c).1 := by
  have h : Signals c ({ c with writeShutdown := true }.wakeSend) :=
    .quiet rfl rfl rfl rfl (.refl _) (AtomicWaker.later_wake _)
  exact h.trans (notify_signals _ _)

theorem closedStream_signals : Signals c (RuntimeState.closedStream c) :=
  ⟨rfl, fun _ => rfl, fun _ => rfl, fun _ => rfl, AtomicWaker.later_wake _,
    AtomicWaker.later_wake _, .inr (AtomicWaker.woken_wake _), fun _ => .inr ⟨rfl, rfl⟩⟩

theorem storeReceived_signals (data : List UInt8) : Signals c (c.storeReceived data).2 := by
  have h := c.recvBuffer_signals (c.recvBuffer.enqueueSlice data).2
  simp only [storeReceived]
  split
  · exact h.trans (wakeRecv_signals _)
  · exact h

theorem consume_signals (n : Nat) :
    Signals c { c with sendBuffer := c.sendBuffer.consume n }.wakeSend :=
  (c.sendBuffer_signals (c.sendBuffer.consume n)).trans (wakeSend_signals _)

end SocketStreamHandle

theorem StreamOp.signals {c : SocketStreamHandle} {n : SocketStreamHandle.Notified}
    (h : StreamOp c n) : Signals c n.1 := by
  cases h with
  | read n => exact c.pollRead_signals n
  | write buf => exact c.pollWrite_signals buf
  | flush => exact c.pollFlush_signals
  | shutdown => exact c.pollShutdown_signals
  | drop => exact c.drop_signals

variable {S : Smoltcp} {handle : SocketHandle} {tcpChunkSize fuel : Nat}
  {st st' : NetworkStack S} {c c' : SocketStreamHandle}

theorem flushPendingToStack_signals
    (h : flushPendingToStack handle tcpChunkSize fuel st c = .ok (st', c')) : Signals c c' :=
  flushPendingToStack_rule (I := fun _ d => Signals c d)
    (fun _ _ _ _ _ hd _ => hd)
    (fun _ d n hd => hd.trans (d.consume_signals n))
    h (.refl _)

theorem fillRecvBuffer_signals
    (h : fillRecvBuffer handle tcpChunkSize fuel st c = .ok (st', c')) : Signals c c' :=
  fillRecvBuffer_rule (I := fun _ d => Signals c d)
    (fun _ _ _ _ _ hd _ => hd)
    (fun _ d data hd => hd.trans (d.storeReceived_signals data))
    h (.refl _)

namespace Service

variable {fullSweep should past : Bool} {v v' : Service S}

theorem begin_signals (v : Service S) (fullSweep : Bool) :
    Signals v.stream (v.begin fullSweep).stream := by
  cases fullSweep with
  | true => exact .quiet rfl rfl rfl rfl (.refl _) (.refl _)
  | false => exact v.stream.clearEvents_signals _

theorem serviceWrite_signals (h : v.serviceWrite should handle tcpChunkSize = .ok v') :
    Signals v.stream v'.stream := by
  simp only [serviceWrite] at h
  split at h
  · obtain ⟨⟨stack, stream⟩, hf, h⟩ := Outcome.bind_eq_ok.mp h
    cases h
    exact flushPendingToStack_signals hf
  · cases h
    exact .refl _

theorem serviceRead_signals (h : v.serviceRead should handle tcpChunkSize = .ok v') :
    Signals v.stream v'.stream := by
  simp only [serviceRead] at h
  split at h
  · obtain ⟨⟨stack, stream⟩, hf, h⟩ := Outcome.bind_eq_ok.mp h
    cases h
    exact fillRecvBuffer_signals hf
  · cases h
    exact .refl _

theorem closedHalves_signals (past mayRecv maySend : Bool) (c : SocketStreamHandle) :
    Signals c (closedHalves past mayRecv maySend c) := by
  have hread : ∀ c : SocketStreamHandle, Signals c { c with readClosed := true }.wakeRecv :=
    fun c => ⟨rfl, id, fun _ => rfl, id, AtomicWaker.later_wake _, .refl _,
      .inr (AtomicWaker.woken_wake _), .inl⟩
  have hwrite : ∀ c : SocketStreamHandle, Signals c { c with writeClosed := true }.wakeSend :=
    fun c => ⟨rfl, id, id, fun _ => rfl, .refl _, AtomicWaker.later_wake _, .inl ⟨rfl, rfl⟩, .inl⟩
  simp only [closedHalves]
  split <;> split
  · exact (hread c).trans (hwrite _)
  · exact hwrite c
  · exact hread c
  · exact .refl c

theorem sendFin_stream (h : v.sendFin handle = .ok v') : v'.stream = v.stream := by
  obtain ⟨_, _, ⟨_, stack, _, rfl⟩ | ⟨_, rfl⟩⟩ := sendFin_ok h <;> rfl

theorem run_signals (h : v.run fullSweep handle tcpChunkSize = .ok v') :
    Signals v.stream v'.stream := by
  obtain ⟨p⟩ := run_passes h
  obtain ⟨_, hc⟩ := syncConnecting_ok p.connecting
  obtain ⟨mayRecv, maySend, _, _, hh⟩ := closeHalves_ok p.closing
  have hhalves : Signals p.filled.stream p.halves.stream := by
    rw [hh, hc]
    exact closedHalves_signals _ _ _ _
  rw [sendFin_stream p.fin]
  exact (begin_signals v fullSweep).trans ((serviceWrite_signals p.write).trans
    ((serviceRead_signals p.read).trans hhalves))

end Service

namespace RuntimeState

variable {rt rt' : RuntimeState S}

structure StreamSignals (rt rt' : RuntimeState S) : Prop where
  streams : ∀ x, Signals (rt.stream x) (rt'.stream x) ∨
    rt.shared.nextStream ≤ x ∧ Sealed (rt'.stream x)

theorem StreamSignals.signals (h : StreamSignals rt rt') {x : StreamId}
    (hx : x < rt.shared.nextStream) : Signals (rt.stream x) (rt'.stream x) :=
  (h.streams x).resolve_right (fun hn => absurd hx (Nat.not_lt.mpr hn.1))

theorem StreamSignals.isSealed (h : StreamSignals rt rt') {x : StreamId}
    (hx : Sealed (rt.stream x)) : Sealed (rt'.stream x) := by
  rcases h.streams x with hs | ⟨_, hs⟩
  · exact hs.isSealed hx
  · exact hs

theorem streamSignals_same (h : ∀ x, rt'.stream x = rt.stream x) : StreamSignals rt rt' :=
  ⟨fun x => .inl (h x ▸ .refl _)⟩

theorem StreamSignals.trans {rt'' : RuntimeState S} (h : StreamSignals rt rt')
    (k : StreamSignals rt' rt'') (hn : rt.shared.nextStream ≤ rt'.shared.nextStream) :
    StreamSignals rt rt'' := by
  refine ⟨fun x => ?_⟩
  rcases k.streams x with hk | ⟨hle, hk⟩
  · rcases h.streams x with hh | ⟨hle, hh⟩
    · exact .inl (hh.trans hk)
    · exact .inr ⟨hle, hk.isSealed hh⟩
  · exact .inr ⟨hn.trans hle, hk⟩

theorem streamSignals_setStream {x : StreamId} {c : SocketStreamHandle}
    (hc : Signals (rt.stream x) c) (h : ∀ y, rt'.stream y = if y = x then c else rt.stream y) :
    StreamSignals rt rt' := by
  refine ⟨fun y => .inl ?_⟩
  rw [h]
  split_ifs with hy
  · exact hy ▸ hc
  · exact .refl _

theorem stream_finishReserved (rt : RuntimeState S) (reservedSlot : Bool) (x : StreamId) :
    (rt.finishReserved reservedSlot).stream x = rt.stream x := by
  simp only [finishReserved]
  split <;> rfl

theorem stream_enqueueReady (rt : RuntimeState S) (handle : SocketHandle) (x : StreamId) :
    (rt.enqueueReadyTcpHandle handle).stream x = rt.stream x := by
  simp only [enqueueReadyTcpHandle]
  split <;> rfl

theorem stream_handleSocketEvent (rt : RuntimeState S) (e : SocketEvent) (x : StreamId) :
    (rt.handleSocketEvent e).stream x = rt.stream x := by
  cases hl : rt.sockets.lookup e.handle with
  | none =>
      rw [handleSocketEvent_none _ hl]
      exact stream_enqueueReady ..
  | some st =>
      rw [handleSocketEvent_some _ hl]
      exact stream_enqueueReady ..

theorem stream_noteIncoming (rt : RuntimeState S) (packet : Packet) (x : StreamId) :
    (rt.noteIncomingTcpHandle packet).stream x = rt.stream x := by
  simp only [noteIncomingTcpHandle]
  split
  · rfl
  · exact stream_enqueueReady ..

theorem retire_signals {handle : SocketHandle}
    (h : rt.retire handle = .ok rt') : StreamSignals rt rt' := by
  obtain ⟨rt₁, h₁, h⟩ := Outcome.bind_eq_ok.mp h
  cases h
  obtain ⟨stack, _, h₁⟩ := Outcome.bind_eq_ok.mp h₁
  cases h₁
  cases hl : rt.sockets.lookup handle with
  | none =>
      have he : rt.releaseSocket handle = rt := by simp only [releaseSocket, hl]
      rw [he]
      exact streamSignals_same (fun _ => rfl)
  | some st =>
      obtain ⟨replies, he⟩ := releaseSocket_some hl
      rw [he]
      exact streamSignals_setStream (rt.stream st.stream).closedStream_signals
        (fun y => stream_setStream rt st.stream y _)

end RuntimeState

section effect

open RuntimeState

variable {rt rt' : RuntimeState S} {R : Rules S}

theorem Effect.signals (h : Effect R rt rt') : StreamSignals rt rt' := by
  cases h with
  | aside h => exact streamSignals_same h.aside.stream
  | openTcp reservedSlot _ _ h =>
      refine ⟨fun x => ?_⟩
      rw [insertConnection_eq, stream_finishReserved, stream_withConnection]
      split_ifs with hx
      · exact .inr ⟨Nat.le_of_eq hx.symm, fun hs => by cases hs⟩
      · exact .inl (.refl _)
  | @requestClose _ _ st hl h =>
      obtain ⟨replies, he⟩ := closeConnection_eq hl
      rw [he] at h
      cases h
      exact streamSignals_setStream (rt.stream st.stream).closingStream_signals
        (fun y => stream_putStream rt st.stream y _)
  | waiters hl _ => exact streamSignals_same (fun _ => rfl)
  | @event e es h =>
      exact streamSignals_same (stream_handleSocketEvent { rt with socketEvents := es } e)
  | incoming h =>
      obtain ⟨stack, _, h⟩ := Outcome.bind_eq_ok.mp h
      cases h
      exact streamSignals_same (fun x => stream_noteIncoming rt _ x)
  | poll _ h => exact streamSignals_same (fun _ => rfl)
  | egress h => exact streamSignals_same (fun _ => rfl)
  | select _ fullSweep => exact streamSignals_same (fun _ => by cases fullSweep <;> rfl)
  | service _ fullSweep hl h =>
      obtain ⟨v, hv, rfl⟩ := serviceSocket_ok h
      exact streamSignals_setStream (Service.run_signals hv) (fun y => stream_setStream rt _ y _)
  | release _ _ _ h => exact retire_signals h
  | client _ _ h => exact streamSignals_setStream h.signals (fun y => stream_putStream rt _ y _)
  | reset _ params mtu session shared hs hx hn =>
      exact streamSignals_same (fun x => congrFun hx x)

theorem Effects.signals (hS : S.KeepsSockets) (h : Effects R rt rt')
    (hc : Consistent rt) : StreamSignals rt rt' := by
  have hboth : StreamSignals rt rt' ∧ rt.shared.nextStream ≤ rt'.shared.nextStream := by
    refine (h.invariant
      (I := fun b => StreamSignals rt b ∧ rt.shared.nextStream ≤ b.shared.nextStream) hS
      (fun a b ha hi he => ?_) hc ⟨streamSignals_same (fun _ => rfl), Nat.le_refl _⟩).2
    exact ⟨hi.1.trans he.signals hi.2, hi.2.trans (he.nextStream_le ha)⟩
  exact hboth.1

end effect

end Usque
