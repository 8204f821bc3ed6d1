import Usque.Lib.Fifo
import Usque.Lib.Run
import Usque.Manager.Phases
import Usque.Stack.Kinds

namespace Usque

namespace TcpRingBuffer

structure Pops (rb rb' : TcpRingBuffer) (bytes : List UInt8) : Prop where
  capacity : rb'.capacity = rb.capacity
  front : bytes = rb.contents.take bytes.length
  contents : rb'.contents = rb.contents.drop bytes.length
  le : bytes.length ≤ rb.len

structure Pushes (rb rb' : TcpRingBuffer) (bytes : List UInt8) : Prop where
  capacity : rb'.capacity = rb.capacity
  contents : rb'.contents = rb.contents ++ bytes

theorem Pops.refl (rb : TcpRingBuffer) : Pops rb rb [] := ⟨rfl, rfl, rfl, Nat.zero_le _⟩

theorem Pushes.refl (rb : TcpRingBuffer) : Pushes rb rb [] := ⟨rfl, (List.append_nil _).symm⟩

theorem dequeueSlice_pops (rb : TcpRingBuffer) (n : Nat) :
    Pops rb (rb.dequeueSlice n).2 (rb.dequeueSlice n).1 := by
  rw [dequeueSlice_eq]
  have hl : (rb.contents.take n).length = min n rb.len := by
    rw [List.length_take, length_contents]
  constructor
  · rfl
  · rw [hl, ← length_contents, ← List.take_eq_take_min]
  · rw [hl]
    exact contents_advance (Nat.min_le_right ..)
  · rw [hl]
    exact Nat.min_le_right ..

theorem enqueueSlice_pushes (rb : TcpRingBuffer) (data : List UInt8) :
    Pushes rb (rb.enqueueSlice data).2 (data.take (rb.enqueueSlice data).1) :=
  ⟨capacity_enqueueSlice rb data, contents_enqueueSlice rb data⟩

theorem remainingCapacity_add (rb : TcpRingBuffer) :
    rb.contents.length + rb.remainingCapacity = rb.capacity - 1 := by
  have := rb.len_lt
  simp only [length_contents, remainingCapacity]
  omega

theorem Pops.remaining {rb rb' : TcpRingBuffer} {bytes : List UInt8} (h : Pops rb rb' bytes) :
    rb.remainingCapacity ≤ rb'.remainingCapacity := by
  have h₁ := rb.remainingCapacity_add
  have h₂ := rb'.remainingCapacity_add
  rw [h.contents, List.length_drop, h.capacity] at h₂
  omega

end TcpRingBuffer

open TcpRingBuffer

def bytesRead : Poll (List UInt8) → List UInt8
  | .ready bytes => bytes
  | .pending => []

def bytesWritten (buf : List UInt8) : Poll SocketStreamHandle.WriteResult → List UInt8
  | .ready (.written n) => buf.take n
  | _ => []

namespace SocketStreamHandle

variable (c : SocketStreamHandle)

structure SameBuffers (c c' : SocketStreamHandle) : Prop where
  recv : c'.recvBuffer = c.recvBuffer
  send : c'.sendBuffer = c.sendBuffer

theorem notify_buffers (kind : SocketEventKind) : SameBuffers c (c.notify kind).1 := by
  simp only [notify]
  split
  · exact ⟨rfl, rfl⟩
  · cases kind <;> exact ⟨rfl, rfl⟩

theorem pollRead_pops (n : Nat) :
    Pops c.recvBuffer (c.pollRead n).2.1.recvBuffer (bytesRead (c.pollRead n).1) ∧
      (c.pollRead n).2.1.sendBuffer = c.sendBuffer := by
  have hread : ∀ c : SocketStreamHandle,
      Pops c.recvBuffer (c.readBytes n).2.1.recvBuffer (bytesRead (c.readBytes n).1) ∧
        (c.readBytes n).2.1.sendBuffer = c.sendBuffer := by
    intro c
    simp only [readBytes, bytesRead]
    split
    · obtain ⟨hr, hs⟩ := notify_buffers
        { c with recvBuffer := (c.recvBuffer.dequeueSlice n).2 } .readReady
      rw [notifyReadReady, hr, hs]
      exact ⟨dequeueSlice_pops c.recvBuffer n, rfl⟩
    · exact ⟨dequeueSlice_pops c.recvBuffer n, rfl⟩
  simp only [pollRead]
  split
  · split
    · exact ⟨.refl _, rfl⟩
    · exact ⟨.refl _, rfl⟩
  · exact hread c

theorem pollWrite_pushes (buf : List UInt8) :
    Pushes c.sendBuffer (c.pollWrite buf).2.1.sendBuffer (bytesWritten buf (c.pollWrite buf).1) ∧
      (c.pollWrite buf).2.1.recvBuffer = c.recvBuffer := by
  have hwrite : ∀ c : SocketStreamHandle,
      Pushes c.sendBuffer (c.writeBytes buf).2.1.sendBuffer
          (bytesWritten buf (c.writeBytes buf).1) ∧
        (c.writeBytes buf).2.1.recvBuffer = c.recvBuffer := by
    intro c
    simp only [writeBytes, bytesWritten]
    split
    · obtain ⟨hr, hs⟩ := notify_buffers
        { c with sendBuffer := (c.sendBuffer.enqueueSlice buf).2 } .writeReady
      rw [notifyWriteReady, hr, hs]
      exact ⟨enqueueSlice_pushes c.sendBuffer buf, rfl⟩
    · exact ⟨enqueueSlice_pushes c.sendBuffer buf, rfl⟩
  simp only [pollWrite]
  split
  · exact ⟨.refl _, rfl⟩
  · split
    · exact ⟨.refl _, rfl⟩
    · exact hwrite c

theorem pollFlush_buffers : SameBuffers c c.pollFlush.2.1 := by
  simp only [pollFlush]
  split
  · exact ⟨rfl, rfl⟩
  · obtain ⟨hr, hs⟩ := c.notify_buffers .writeReady
    split <;> exact ⟨hr, hs⟩

theorem pollShutdown_buffers : SameBuffers c c.pollShutdown.2.1 := by
  have h := c.pollFlush_buffers
  simp only [pollShutdown]
  split
  · next hp =>
      rw [hp] at h
      exact h
  · next c' events hp =>
      rw [hp] at h
      split
      · exact h
      · obtain ⟨hr, hs⟩ := notify_buffers { c' with writeShutdown := true } .writeReady
        exact ⟨hr.trans h.recv, hs.trans h.send⟩

theorem drop_buffers : SameBuffers c c.drop.1 := by
  obtain ⟨hr, hs⟩ := notify_buffers
    { c with
      socketDropped := true
      readClosed := true
      writeClosed := true
      recvWaker := c.recvWaker.wake
      sendWaker := c.sendWaker.wake } .closed
  exact ⟨hr, hs⟩

theorem storeReceived_full {data : List UInt8}
    (h : data.length ≤ c.recvBuffer.remainingCapacity) :
    (c.storeReceived data).1 = data.length := by
  simp only [storeReceived, enqueueSlice_fst]
  exact Nat.min_eq_left h

theorem storeReceived_pushes (data : List UInt8) :
    Pushes c.recvBuffer (c.storeReceived data).2.recvBuffer
        (data.take (c.storeReceived data).1) ∧
      (c.storeReceived data).2.sendBuffer = c.sendBuffer := by
  simp only [storeReceived]
  split <;> exact ⟨enqueueSlice_pushes c.recvBuffer data, rfl⟩

end SocketStreamHandle

-- Where the manager is in flush_pending_to_stack or fill_recv_buffer.
inductive Transfer where
  | idle
  | flushing
  | offering (chunk : List UInt8)
  | accepted (chunk : List UInt8) (sent : Nat)
  | filling
  | requesting (readLen : Nat)
  | storing (data : List UInt8)
deriving DecidableEq, Repr

structure ByteFlow where
  stream : SocketStreamHandle
  tcpChunkSize : Nat
  transfer : Transfer
  written : List UInt8
  sent : List UInt8
  received : List UInt8
  read : List UInt8

-- The client's calls, the loops of the two manager functions, and what smoltcp answers them.
inductive FlowLabel where
  | read (n : Nat)
  | write (buf : List UInt8)
  | flush
  | shutdown
  | drop
  | mark (socketClosed readClosed writeClosed : Bool)
  | startFlush
  | flushHead (maySend : Bool)
  | sendResult (result : Except StackError Nat)
  | consume
  | startFill
  | fillHead (mayRecv : Bool)
  | recvResult (result : Except StackError (List UInt8))
  | store

namespace ByteFlow

def init (handle : SocketHandle) (sendCapacity recvCapacity socketNotifier tcpChunkSize : Nat) :
    ByteFlow where
  stream := .new handle sendCapacity recvCapacity socketNotifier
  tcpChunkSize := tcpChunkSize
  transfer := .idle
  written := []
  sent := []
  received := []
  read := []

def step (f : ByteFlow) (label : FlowLabel) : Option ByteFlow :=
  let c := f.stream
  match label, f.transfer with
  | .read n, _ =>
      some { f with
        stream := (c.pollRead n).2.1
        read := f.read ++ bytesRead (c.pollRead n).1 }
  | .write buf, _ =>
      some { f with
        stream := (c.pollWrite buf).2.1
        written := f.written ++ bytesWritten buf (c.pollWrite buf).1 }
  | .flush, _ => some { f with stream := c.pollFlush.2.1 }
  | .shutdown, _ => some { f with stream := c.pollShutdown.2.1 }
  | .drop, _ => some { f with stream := c.drop.1 }
  | .mark socketClosed readClosed writeClosed, _ =>
      some { f with
        stream := { c with
          socketClosed := c.socketClosed || socketClosed
          readClosed := c.readClosed || readClosed
          writeClosed := c.writeClosed || writeClosed }.wakeRecv.wakeSend }
  | .startFlush, .idle => some { f with transfer := .flushing }
  | .flushHead maySend, .flushing =>
      if !maySend then some { f with transfer := .idle }
      else
        let chunk := c.sendBuffer.peekCopy f.tcpChunkSize
        if chunk.isEmpty then some { f with transfer := .idle }
        else some { f with transfer := .offering chunk }
  | .sendResult result, .offering chunk =>
      match result with
      | .error _ => some { f with transfer := .idle }
      | .ok sent =>
          if sent > chunk.length then none
          else if sent = 0 then some { f with transfer := .idle }
          else some { f with
            transfer := .accepted chunk sent
            sent := f.sent ++ chunk.take sent }
  | .consume, .accepted chunk sent =>
      some { f with
        stream := { c with sendBuffer := c.sendBuffer.consume sent }.wakeSend
        transfer := if sent < chunk.length then .idle else .flushing }
  | .startFill, .idle => some { f with transfer := .filling }
  | .fillHead mayRecv, .filling =>
      if c.recvBuffer.remainingCapacity = 0 || !mayRecv then some { f with transfer := .idle }
      else some { f with transfer := .requesting (min c.recvBuffer.remainingCapacity f.tcpChunkSize) }
  | .recvResult result, .requesting readLen =>
      match result with
      | .error _ => some { f with transfer := .idle }
      | .ok data =>
          if data.length > readLen then none
          else if data.isEmpty then some { f with transfer := .idle }
          else some { f with transfer := .storing data, received := f.received ++ data }
  | .store, .storing data =>
      some { f with
        stream := (c.storeReceived data).2
        transfer := if (c.storeReceived data).1 < data.length then .idle else .filling }
  | _, _ => none

-- The stack has accepted these bytes, but consume has not removed them from the buffer yet.
def accepted (f : ByteFlow) : Nat :=
  match f.transfer with
  | .accepted _ sent => sent
  | _ => 0

-- The stack has returned these bytes, but enqueue_slice has not stored them yet.
def inHand (f : ByteFlow) : List UInt8 :=
  match f.transfer with
  | .storing data => data
  | _ => []

def unsent (f : ByteFlow) : List UInt8 := f.stream.sendBuffer.contents.drop f.accepted

def unread (f : ByteFlow) : List UInt8 := f.stream.recvBuffer.contents ++ f.inHand

def outbound (f : ByteFlow) : Fifo UInt8 := ⟨f.written, f.sent, f.unsent⟩

def inbound (f : ByteFlow) : Fifo UInt8 := ⟨f.received, f.read, f.unread⟩

structure Ok (f : ByteFlow) : Prop where
  offering : ∀ chunk, f.transfer = .offering chunk →
    chunk = f.stream.sendBuffer.contents.take chunk.length
  accepted : f.accepted ≤ f.stream.sendBuffer.contents.length
  requesting : ∀ readLen, f.transfer = .requesting readLen →
    readLen ≤ f.stream.recvBuffer.remainingCapacity
  inHand : f.inHand.length ≤ f.stream.recvBuffer.remainingCapacity

-- What the client does to the two buffers between two steps of the manager.
structure ClientMove (f g : ByteFlow) : Prop where
  transfer : g.transfer = f.transfer
  sent : g.sent = f.sent
  received : g.received = f.received
  recv : ∃ bytes, Pops f.stream.recvBuffer g.stream.recvBuffer bytes ∧ g.read = f.read ++ bytes
  send : ∃ bytes, Pushes f.stream.sendBuffer g.stream.sendBuffer bytes ∧
    g.written = f.written ++ bytes

variable {f g : ByteFlow}

theorem clientMove_same {c : SocketStreamHandle} (h : f.stream.SameBuffers c) :
    ClientMove f { f with stream := c } := by
  constructor
  · rfl
  · rfl
  · rfl
  · refine ⟨[], ?_, (List.append_nil _).symm⟩
    show Pops f.stream.recvBuffer c.recvBuffer []
    exact h.recv ▸ Pops.refl _
  · refine ⟨[], ?_, (List.append_nil _).symm⟩
    show Pushes f.stream.sendBuffer c.sendBuffer []
    exact h.send ▸ Pushes.refl _

theorem clientMove_read (n : Nat) :
    ClientMove f { f with
      stream := (f.stream.pollRead n).2.1
      read := f.read ++ bytesRead (f.stream.pollRead n).1 } := by
  obtain ⟨hr, hs⟩ := f.stream.pollRead_pops n
  constructor
  · rfl
  · rfl
  · rfl
  · exact ⟨_, hr, rfl⟩
  · refine ⟨[], ?_, (List.append_nil _).symm⟩
    show Pushes f.stream.sendBuffer (f.stream.pollRead n).2.1.sendBuffer []
    exact hs ▸ Pushes.refl _

theorem clientMove_write (buf : List UInt8) :
    ClientMove f { f with
      stream := (f.stream.pollWrite buf).2.1
      written := f.written ++ bytesWritten buf (f.stream.pollWrite buf).1 } := by
  obtain ⟨hs, hr⟩ := f.stream.pollWrite_pushes buf
  constructor
  · rfl
  · rfl
  · rfl
  · refine ⟨[], ?_, (List.append_nil _).symm⟩
    show Pops f.stream.recvBuffer (f.stream.pollWrite buf).2.1.recvBuffer []
    exact hr ▸ Pops.refl _
  · exact ⟨_, hs, rfl⟩

theorem ClientMove.accepted (h : ClientMove f g) : g.accepted = f.accepted := by
  rw [ByteFlow.accepted, ByteFlow.accepted, h.transfer]

theorem ClientMove.inHand (h : ClientMove f g) : g.inHand = f.inHand := by
  rw [ByteFlow.inHand, ByteFlow.inHand, h.transfer]

theorem ClientMove.ok (h : ClientMove f g) (hf : f.Ok) : g.Ok := by
  obtain ⟨_, hr, _⟩ := h.recv
  obtain ⟨bytes, hs, _⟩ := h.send
  constructor
  · intro chunk hc
    have hp := hf.offering chunk (h.transfer ▸ hc)
    have hl : chunk.length ≤ f.stream.sendBuffer.contents.length := by
      have := congrArg List.length hp
      rw [List.length_take] at this
      omega
    rw [hs.contents, List.take_append_of_le_length hl]
    exact hp
  · rw [h.accepted, hs.contents, List.length_append]
    exact Nat.le_add_right_of_le hf.accepted
  · intro readLen hl
    exact (hf.requesting readLen (h.transfer ▸ hl)).trans hr.remaining
  · rw [h.inHand]
    exact hf.inHand.trans hr.remaining

structure Moves (f g : ByteFlow) : Prop where
  outbound : f.outbound.Move (f.stream.sendBuffer.capacity - 1) g.outbound
  inbound : f.inbound.Move (f.stream.recvBuffer.capacity - 1) g.inbound
  sendCapacity : g.stream.sendBuffer.capacity = f.stream.sendBuffer.capacity
  recvCapacity : g.stream.recvBuffer.capacity = f.stream.recvBuffer.capacity

theorem ClientMove.outbound (h : ClientMove f g) (hf : f.Ok) :
    f.outbound.Move (f.stream.sendBuffer.capacity - 1) g.outbound := by
  obtain ⟨bytes, hs, hw⟩ := h.send
  have hg : g.outbound = f.outbound.push bytes := by
    simp only [ByteFlow.outbound, Fifo.push, unsent, h.accepted, h.sent, hw, hs.contents]
    rw [List.drop_append_of_le_length hf.accepted]
  rw [hg]
  apply Fifo.Move.push
  have hb := g.stream.sendBuffer.remainingCapacity_add
  rw [hs.contents, List.length_append, hs.capacity] at hb
  simp only [ByteFlow.outbound, unsent, List.length_drop]
  omega

theorem ClientMove.inbound (h : ClientMove f g) :
    f.inbound.Move (f.stream.recvBuffer.capacity - 1) g.inbound := by
  obtain ⟨bytes, hr, hd⟩ := h.recv
  have hl : bytes.length ≤ f.stream.recvBuffer.contents.length := by
    rw [length_contents]
    exact hr.le
  have hg : g.inbound = f.inbound.pop bytes.length := by
    simp only [ByteFlow.inbound, Fifo.pop, unread, h.inHand, h.received, hd, hr.contents]
    rw [List.take_append_of_le_length hl, List.drop_append_of_le_length hl, ← hr.front]
  rw [hg]
  apply Fifo.Move.pop
  simp only [ByteFlow.inbound, unread, List.length_append]
  omega

theorem ClientMove.moves (h : ClientMove f g) (hf : f.Ok) : Moves f g := by
  obtain ⟨_, hr, _⟩ := h.recv
  obtain ⟨_, hs, _⟩ := h.send
  exact ⟨h.outbound hf, h.inbound, hs.capacity, hr.capacity⟩

def AtRest (t : Transfer) : Prop := t = .idle ∨ t = .flushing ∨ t = .filling

def turn (f : ByteFlow) (t : Transfer) : ByteFlow := { f with transfer := t }

def accept (f : ByteFlow) (chunk : List UInt8) (n : Nat) : ByteFlow :=
  { f with transfer := .accepted chunk n, sent := f.sent ++ chunk.take n }

def consume (f : ByteFlow) (n : Nat) (t : Transfer) : ByteFlow :=
  { f with
    stream := { f.stream with sendBuffer := f.stream.sendBuffer.consume n }.wakeSend
    transfer := t }

def receive (f : ByteFlow) (data : List UInt8) : ByteFlow :=
  { f with transfer := .storing data, received := f.received ++ data }

def store (f : ByteFlow) (data : List UInt8) (t : Transfer) : ByteFlow :=
  { f with stream := (f.stream.storeReceived data).2, transfer := t }

inductive ManagerMove (f : ByteFlow) : ByteFlow → Prop where
  | turn (t : Transfer) (ha : f.accepted = 0) (hi : f.inHand = []) (ht : AtRest t) :
      ManagerMove f (f.turn t)
  | offer (ht : f.transfer = .flushing) :
      ManagerMove f (f.turn (.offering (f.stream.sendBuffer.peekCopy f.tcpChunkSize)))
  | accept (chunk : List UInt8) (n : Nat) (ht : f.transfer = .offering chunk)
      (hn : n ≤ chunk.length) : ManagerMove f (f.accept chunk n)
  | consume (chunk : List UInt8) (n : Nat) (t : Transfer) (ht : f.transfer = .accepted chunk n)
      (hr : AtRest t) : ManagerMove f (f.consume n t)
  | request (ht : f.transfer = .filling) :
      ManagerMove f (f.turn
        (.requesting (min f.stream.recvBuffer.remainingCapacity f.tcpChunkSize)))
  | receive (readLen : Nat) (data : List UInt8) (ht : f.transfer = .requesting readLen)
      (hd : data.length ≤ readLen) : ManagerMove f (f.receive data)
  | store (data : List UInt8) (t : Transfer) (ht : f.transfer = .storing data) (hr : AtRest t) :
      ManagerMove f (f.store data t)

theorem AtRest.quiet {t : Transfer} (h : AtRest t) (ht : g.transfer = t) :
    g.accepted = 0 ∧ g.inHand = [] := by
  rcases h with rfl | rfl | rfl <;> exact ⟨by rw [accepted, ht], by rw [inHand, ht]⟩

theorem AtRest.ok {t : Transfer} (h : AtRest t) (ht : g.transfer = t) : g.Ok := by
  obtain ⟨ha, hi⟩ := h.quiet ht
  constructor
  · intro chunk hc
    rcases h with rfl | rfl | rfl <;> cases ht.symm.trans hc
  · omega
  · intro readLen hl
    rcases h with rfl | rfl | rfl <;> cases ht.symm.trans hl
  · rw [hi]
    exact Nat.zero_le _

theorem idle_atRest : AtRest .idle := .inl rfl

theorem flushing_atRest : AtRest .flushing := .inr (.inl rfl)

theorem filling_atRest : AtRest .filling := .inr (.inr rfl)

theorem step_manager {label : FlowLabel} (h : f.step label = some g) :
    ClientMove f g ∨ ManagerMove f g := by
  cases label with
  | read n =>
      cases h
      exact .inl (clientMove_read n)
  | write buf =>
      cases h
      exact .inl (clientMove_write buf)
  | flush =>
      cases h
      exact .inl (clientMove_same f.stream.pollFlush_buffers)
  | shutdown =>
      cases h
      exact .inl (clientMove_same f.stream.pollShutdown_buffers)
  | drop =>
      cases h
      exact .inl (clientMove_same f.stream.drop_buffers)
  | mark =>
      cases h
      exact .inl (clientMove_same ⟨rfl, rfl⟩)
  | startFlush =>
      cases ht : f.transfer <;> simp only [step, ht] at h <;> cases h
      exact .inr (.turn _ (by rw [accepted, ht]) (by rw [inHand, ht]) flushing_atRest)
  | flushHead maySend =>
      cases ht : f.transfer <;> simp only [step, ht] at h <;> try cases h
      split at h
      · cases h
        exact .inr (.turn _ (by rw [accepted, ht]) (by rw [inHand, ht]) idle_atRest)
      · split at h <;> cases h
        · exact .inr (.turn _ (by rw [accepted, ht]) (by rw [inHand, ht]) idle_atRest)
        · exact .inr (.offer ht)
  | sendResult result =>
      cases ht : f.transfer <;> simp only [step, ht] at h <;> try cases h
      have hidle : ManagerMove f { f with transfer := .idle } :=
        .turn _ (by rw [accepted, ht]) (by rw [inHand, ht]) idle_atRest
      cases result with
      | error e =>
          cases h
          exact .inr hidle
      | ok n =>
          simp only at h
          split at h
          · cases h
          · split at h <;> cases h
            · exact .inr hidle
            · exact .inr (.accept _ n ht (by omega))
  | consume =>
      cases ht : f.transfer <;> simp only [step, ht] at h <;> cases h
      refine .inr (.consume _ _ _ ht ?_)
      split
      · exact idle_atRest
      · exact flushing_atRest
  | startFill =>
      cases ht : f.transfer <;> simp only [step, ht] at h <;> cases h
      exact .inr (.turn _ (by rw [accepted, ht]) (by rw [inHand, ht]) filling_atRest)
  | fillHead mayRecv =>
      cases ht : f.transfer <;> simp only [step, ht] at h <;> try cases h
      split at h <;> cases h
      · exact .inr (.turn _ (by rw [accepted, ht]) (by rw [inHand, ht]) idle_atRest)
      · exact .inr (.request ht)
  | recvResult result =>
      cases ht : f.transfer <;> simp only [step, ht] at h <;> try cases h
      have hidle : ManagerMove f { f with transfer := .idle } :=
        .turn _ (by rw [accepted, ht]) (by rw [inHand, ht]) idle_atRest
      cases result with
      | error e =>
          cases h
          exact .inr hidle
      | ok data =>
          simp only at h
          split at h
          · cases h
          · split at h <;> cases h
            · exact .inr hidle
            · exact .inr (.receive _ data ht (by omega))
  | store =>
      cases ht : f.transfer <;> simp only [step, ht] at h <;> cases h
      refine .inr (.store _ _ ht ?_)
      split
      · exact idle_atRest
      · exact filling_atRest

theorem ManagerMove.ok (h : ManagerMove f g) (hf : f.Ok) : g.Ok := by
  cases h with
  | turn t ha hi ht => exact ht.ok rfl
  | offer ht =>
      constructor
      · intro chunk hc
        obtain rfl := Transfer.offering.inj hc
        show f.stream.sendBuffer.peekCopy _ = f.stream.sendBuffer.contents.take _
        rw [length_peekCopy, peekCopy_eq, ← length_contents, ← List.take_eq_take_min]
      · exact Nat.zero_le _
      · intro readLen hl
        cases hl
      · exact Nat.zero_le _
  | accept chunk n ht hn =>
      constructor
      · intro chunk hc
        cases hc
      · have hl := congrArg List.length (hf.offering chunk ht)
        rw [List.length_take] at hl
        show n ≤ f.stream.sendBuffer.contents.length
        omega
      · intro readLen hl
        cases hl
      · exact Nat.zero_le _
  | consume chunk n t ht hr => exact hr.ok rfl
  | request ht =>
      constructor
      · intro chunk hc
        cases hc
      · exact Nat.zero_le _
      · intro readLen hl
        obtain rfl := Transfer.requesting.inj hl
        exact Nat.min_le_left ..
      · exact Nat.zero_le _
  | receive readLen data ht hd =>
      constructor
      · intro chunk hc
        cases hc
      · exact Nat.zero_le _
      · intro readLen hl
        cases hl
      · exact hd.trans (hf.requesting readLen ht)
  | store data t ht hr => exact hr.ok rfl

theorem moves_turn {t : Transfer} (ha : (f.turn t).accepted = f.accepted)
    (hi : (f.turn t).inHand = f.inHand) : Moves f (f.turn t) := by
  have ho : (f.turn t).outbound = f.outbound := by
    rw [outbound, unsent, ha]
    rfl
  have hin : (f.turn t).inbound = f.inbound := by
    rw [inbound, unread, hi]
    rfl
  constructor
  · rw [ho]
    exact .rest _
  · rw [hin]
    exact .rest _
  · rfl
  · rfl

theorem moves_accept {chunk : List UInt8} {n : Nat} (hf : f.Ok)
    (ht : f.transfer = .offering chunk) (hn : n ≤ chunk.length) : Moves f (f.accept chunk n) := by
  have ha : f.accepted = 0 := by rw [accepted, ht]
  have hi : f.inHand = [] := by rw [inHand, ht]
  have hu : f.unsent = f.stream.sendBuffer.contents := by rw [unsent, ha, List.drop_zero]
  have hp := hf.offering chunk ht
  have hl := congrArg List.length hp
  rw [List.length_take] at hl
  have hc : chunk.take n = f.unsent.take n := by
    rw [hu, hp, List.take_take, Nat.min_eq_left hn]
  have ho : (f.accept chunk n).outbound = f.outbound.pop n := by
    rw [outbound, outbound, Fifo.pop, ← hc, hu]
    rfl
  have hin : (f.accept chunk n).inbound = f.inbound := by
    rw [inbound, inbound, unread, unread, hi]
    rfl
  constructor
  · rw [ho]
    apply Fifo.Move.pop
    simp only [outbound, hu]
    omega
  · rw [hin]
    exact .rest _
  · rfl
  · rfl

theorem moves_consume {chunk : List UInt8} {n : Nat} {t : Transfer}
    (ht : f.transfer = .accepted chunk n) (hr : AtRest t) : Moves f (f.consume n t) := by
  obtain ⟨ha', hi'⟩ := hr.quiet (g := f.consume n t) rfl
  have ha : f.accepted = n := by rw [accepted, ht]
  have hi : f.inHand = [] := by rw [inHand, ht]
  have ho : (f.consume n t).outbound = f.outbound := by
    rw [outbound, outbound, unsent, unsent, ha', ha, List.drop_zero, ← contents_consume]
    rfl
  have hin : (f.consume n t).inbound = f.inbound := by
    rw [inbound, inbound, unread, unread, hi', hi]
    rfl
  constructor
  · rw [ho]
    exact .rest _
  · rw [hin]
    exact .rest _
  · show (f.stream.sendBuffer.consume n).capacity = f.stream.sendBuffer.capacity
    rw [consume_eq]
    rfl
  · rfl

theorem moves_receive {readLen : Nat} {data : List UInt8} (hf : f.Ok)
    (ht : f.transfer = .requesting readLen) (hd : data.length ≤ readLen) :
    Moves f (f.receive data) := by
  have ha : f.accepted = 0 := by rw [accepted, ht]
  have hi : f.inHand = [] := by rw [inHand, ht]
  have ho : (f.receive data).outbound = f.outbound := by
    rw [outbound, outbound, unsent, unsent, ha]
    rfl
  have hin : (f.receive data).inbound = f.inbound.push data := by
    rw [inbound, inbound, unread, unread, hi, List.append_nil]
    rfl
  constructor
  · rw [ho]
    exact .rest _
  · rw [hin]
    apply Fifo.Move.push
    have hroom := hf.requesting readLen ht
    have hb := f.stream.recvBuffer.remainingCapacity_add
    simp only [inbound, unread, hi, List.append_nil]
    omega
  · rfl
  · rfl

theorem moves_store {data : List UInt8} {t : Transfer} (hf : f.Ok)
    (ht : f.transfer = .storing data) (hr : AtRest t) : Moves f (f.store data t) := by
  obtain ⟨ha', hi'⟩ := hr.quiet (g := f.store data t) rfl
  obtain ⟨hpush, hsend⟩ := f.stream.storeReceived_pushes data
  have ha : f.accepted = 0 := by rw [accepted, ht]
  have hi : f.inHand = data := by rw [inHand, ht]
  have hfull := f.stream.storeReceived_full (hi ▸ hf.inHand)
  have hc : (f.store data t).stream.recvBuffer.contents =
      f.stream.recvBuffer.contents ++ data := by
    have := hpush.contents
    rwa [hfull, List.take_length] at this
  have ho : (f.store data t).outbound = f.outbound := by
    rw [outbound, outbound, unsent, unsent, ha', ha]
    show Fifo.mk _ _ ((f.stream.storeReceived data).2.sendBuffer.contents.drop 0) = _
    rw [hsend]
    rfl
  have hin : (f.store data t).inbound = f.inbound := by
    rw [inbound, inbound, unread, unread, hi', hi, hc, List.append_nil]
    rfl
  constructor
  · rw [ho]
    exact .rest _
  · rw [hin]
    exact .rest _
  · exact congrArg TcpRingBuffer.capacity hsend
  · exact hpush.capacity

theorem ManagerMove.moves (h : ManagerMove f g) (hf : f.Ok) : Moves f g := by
  cases h with
  | turn t ha hi ht =>
      obtain ⟨ha', hi'⟩ := ht.quiet (g := f.turn t) rfl
      exact moves_turn (ha'.trans ha.symm) (hi'.trans hi.symm)
  | offer ht =>
      exact moves_turn (by rw [accepted, accepted, ht]; rfl) (by rw [inHand, inHand, ht]; rfl)
  | accept chunk n ht hn => exact moves_accept hf ht hn
  | consume chunk n t ht hr => exact moves_consume ht hr
  | request ht =>
      exact moves_turn (by rw [accepted, accepted, ht]; rfl) (by rw [inHand, inHand, ht]; rfl)
  | receive readLen data ht hd => exact moves_receive hf ht hd
  | store data t ht hr => exact moves_store hf ht hr

theorem step_ok {label : FlowLabel} (hf : f.Ok) (h : f.step label = some g) :
    g.Ok ∧ Moves f g := by
  rcases step_manager h with hc | hm
  · exact ⟨hc.ok hf, hc.moves hf⟩
  · exact ⟨hm.ok hf, hm.moves hf⟩

def Reachable (f : ByteFlow) : Prop :=
  ∃ handle sendCapacity recvCapacity socketNotifier tcpChunkSize,
    Run.Reaches step Run.Any
      (init handle sendCapacity recvCapacity socketNotifier tcpChunkSize) f

structure Sound (f : ByteFlow) : Prop where
  ok : f.Ok
  outbound : f.outbound.Conserved
  inbound : f.inbound.Conserved

theorem init_sound (handle : SocketHandle)
    (sendCapacity recvCapacity socketNotifier tcpChunkSize : Nat) :
    (init handle sendCapacity recvCapacity socketNotifier tcpChunkSize).Sound := by
  have hnew : ∀ capacity, (TcpRingBuffer.new capacity).contents = [] := by
    intro capacity
    rw [← List.length_eq_zero_iff, length_contents, len_new]
  constructor
  · exact idle_atRest.ok rfl
  · show [] = [] ++ (TcpRingBuffer.new (sendCapacity + 1)).contents.drop 0
    rw [hnew]
    rfl
  · show [] = [] ++ ((TcpRingBuffer.new (recvCapacity + 1)).contents ++ [])
    rw [hnew]
    rfl

theorem Reachable.sound (h : f.Reachable) : f.Sound := by
  obtain ⟨handle, sendCapacity, recvCapacity, socketNotifier, tcpChunkSize, hr⟩ := h
  refine hr.invariant ?_ (init_sound handle sendCapacity recvCapacity socketNotifier tcpChunkSize)
  intro f label g hf _ hs
  obtain ⟨hok, hm⟩ := step_ok hf.ok hs
  exact ⟨hok, hm.outbound.conserved hf.outbound, hm.inbound.conserved hf.inbound⟩

structure FlowExact (f : ByteFlow) : Prop where
  written : f.written = f.sent ++ f.unsent
  received : f.received = f.read ++ f.unread
  unsent : f.accepted = 0 → f.unsent = f.stream.sendBuffer.contents
  unread : f.inHand = [] → f.unread = f.stream.recvBuffer.contents
  neverSaturated : ∀ data, f.transfer = .storing data →
    ¬ (f.stream.storeReceived data).1 < data.length

theorem flow_exact (h : f.Reachable) : f.FlowExact := by
  have hs := h.sound
  constructor
  · exact hs.outbound
  · exact hs.inbound
  · intro ha
    rw [ByteFlow.unsent, ha, List.drop_zero]
  · intro hi
    rw [ByteFlow.unread, hi, List.append_nil]
  · intro data ht
    have hi : f.inHand = data := by rw [inHand, ht]
    rw [f.stream.storeReceived_full (hi ▸ hs.ok.inHand)]
    exact Nat.lt_irrefl _

-- A short accept, a client that writes and reads between peek, accept and consume, and a failure.
def partialRun : List FlowLabel :=
  [.write [1, 2], .startFlush, .flushHead true, .write [3, 4], .sendResult (.ok 1), .write [5],
    .consume, .startFill, .fillHead true, .recvResult (.ok [7, 8]), .read 4, .store, .fillHead true,
    .recvResult (.error (.socketError "finished")), .read 1]

theorem flow_exact_partial : ∃ f : ByteFlow, f.Reachable ∧ f.FlowExact ∧
    f.written = [1, 2, 3] ∧ f.sent = [1] ∧ f.stream.sendBuffer.contents = [2, 3] ∧
      f.received = [7, 8] ∧ f.read = [7] ∧ f.stream.recvBuffer.contents = [8] := by
  have h : (Run.exec step (init 0 3 3 0 2) partialRun).any (fun f =>
      f.written = [1, 2, 3] ∧ f.sent = [1] ∧ f.stream.sendBuffer.contents = [2, 3] ∧
        f.received = [7, 8] ∧ f.read = [7] ∧ f.stream.recvBuffer.contents = [8]) = true := by
    decide +kernel
  obtain ⟨f, hf, hp⟩ := (Option.any_eq_true _ _).mp h
  have hr : f.Reachable := ⟨0, 3, 3, 0, 2, Run.exec_reaches hf⟩
  exact ⟨f, hr, flow_exact hr, of_decide_eq_true hp⟩

end ByteFlow

-- smoltcp takes no more bytes than it is offered and returns no more than it is asked for.
structure Smoltcp.CountsInRange (S : Smoltcp) : Prop where
  send : ∀ s data n, (S.tcpSendSlice s data).1 = .ok n → n ≤ data.length
  recv : ∀ s len data, (S.tcpRecvSlice s len).1 = .ok data → data.length ≤ len

namespace NetworkStack

variable {S : Smoltcp} {st st' : NetworkStack S} {handle : SocketHandle}

theorem tcpSend_le (hS : S.CountsInRange) {data : List UInt8} {n : Nat}
    (h : st.tcpSend handle data = .ok (.ok n, st')) : n ≤ data.length := by
  rcases tcpSend_ok h with ⟨_, hr, _⟩ | ⟨s, _, hr, _⟩
  · cases hr
  · cases hs : (S.tcpSendSlice s data).1 with
    | error e =>
        rw [hs] at hr
        cases hr
    | ok m =>
        rw [hs] at hr
        cases hr
        exact hS.send s data _ hs

theorem tcpRecv_le (hS : S.CountsInRange) {len : Nat} {data : List UInt8}
    (h : st.tcpRecv handle len = .ok (.ok data, st')) : data.length ≤ len := by
  rcases tcpRecv_ok h with ⟨_, hr, _⟩ | ⟨s, _, hr, _⟩
  · cases hr
  · cases hs : (S.tcpRecvSlice s len).1 with
    | error e =>
        rw [hs] at hr
        cases hr
    | ok d =>
        rw [hs] at hr
        cases hr
        exact hS.recv s len _ hs

end NetworkStack

namespace ByteFlow

variable {f : ByteFlow}

abbrev Runs (f g : ByteFlow) : Prop := Run.Reaches step Run.Any f g

theorem runs_flushHead_stop (maySend : Bool) (ht : f.transfer = .flushing)
    (h : maySend = false ∨ (f.stream.sendBuffer.peekCopy f.tcpChunkSize).isEmpty = true) :
    Runs f (f.turn .idle) := by
  refine .single (a := .flushHead maySend) trivial ?_
  rcases h with rfl | h
  · simp [step, ht, turn]
  · cases maySend <;> simp [step, ht, turn, h]

theorem runs_offer (ht : f.transfer = .flushing)
    (h : ¬ (f.stream.sendBuffer.peekCopy f.tcpChunkSize).isEmpty = true) :
    Runs f (f.turn (.offering (f.stream.sendBuffer.peekCopy f.tcpChunkSize))) :=
  .single (a := .flushHead true) trivial (by simp [step, ht, turn, h])

theorem runs_refused {chunk : List UInt8} {result : Except StackError Nat}
    (h : result = .ok 0 ∨ ∃ e, result = .error e) :
    Runs (f.turn (.offering chunk)) (f.turn .idle) := by
  refine .single (a := .sendResult result) trivial ?_
  rcases h with rfl | ⟨e, rfl⟩ <;> simp [step, turn]

theorem runs_consume {chunk : List UInt8} {n : Nat} (h0 : n ≠ 0) (hn : n ≤ chunk.length) :
    Runs (f.turn (.offering chunk)) ((f.accept chunk n).consume n
      (if n < chunk.length then .idle else .flushing)) := by
  have haccept : Runs (f.turn (.offering chunk)) (f.accept chunk n) :=
    .single (a := .sendResult (.ok n)) trivial
      (by simp [step, turn, accept, h0, Nat.not_lt.mpr hn])
  exact haccept.tail (a := .consume) trivial rfl

theorem runs_fillHead_stop {mayRecv : Bool} (ht : f.transfer = .filling)
    (h : (decide (f.stream.recvBuffer.remainingCapacity = 0) || !mayRecv) = true) :
    Runs f (f.turn .idle) :=
  .single (a := .fillHead mayRecv) trivial (by simp only [step, ht, h, if_true, turn])

theorem runs_request {mayRecv : Bool} (ht : f.transfer = .filling)
    (h : ¬ (decide (f.stream.recvBuffer.remainingCapacity = 0) || !mayRecv) = true) :
    Runs f (f.turn (.requesting (min f.stream.recvBuffer.remainingCapacity f.tcpChunkSize))) :=
  .single (a := .fillHead mayRecv) trivial (by simp only [step, ht, if_neg h, turn])

theorem runs_nothing {readLen : Nat} {result : Except StackError (List UInt8)}
    (h : result = .ok [] ∨ ∃ e, result = .error e) :
    Runs (f.turn (.requesting readLen)) (f.turn .idle) := by
  refine .single (a := .recvResult result) trivial ?_
  rcases h with rfl | ⟨e, rfl⟩ <;> simp [step, turn]

theorem runs_store {readLen : Nat} {data : List UInt8} (h0 : ¬ data.isEmpty = true)
    (hd : data.length ≤ readLen) :
    Runs (f.turn (.requesting readLen)) ((f.receive data).store data
      (if (f.stream.storeReceived data).1 < data.length then .idle else .filling)) := by
  have hreceive : Runs (f.turn (.requesting readLen)) (f.receive data) :=
    .single (a := .recvResult (.ok data)) trivial
      (by simp [step, turn, receive, h0, Nat.not_lt.mpr hd])
  exact hreceive.tail (a := .store) trivial rfl

variable {S : Smoltcp} {stack stack' : NetworkStack S} {handle : SocketHandle} {fuel : Nat}
  {c' : SocketStreamHandle}

-- A call of flush_pending_to_stack is a run of the machine in which the client takes no step.
theorem flushPendingToStack_runs (hS : S.CountsInRange) (hf : f.transfer = .flushing)
    (h : flushPendingToStack handle f.tcpChunkSize fuel stack f.stream = .ok (stack', c')) :
    ∃ g, Runs f g ∧ g.transfer = .idle ∧ g.stream = c' := by
  induction fuel generalizing stack f with
  | zero => cases h
  | succ fuel ih =>
      obtain ⟨maySend, _, h⟩ := Outcome.bind_eq_ok.mp h
      split at h
      · next hsend =>
          cases h
          exact ⟨_, runs_flushHead_stop _ hf (.inl (Bool.not_eq_true' _ ▸ hsend)), rfl, rfl⟩
      · dsimp only at h
        split at h
        · next hempty =>
            cases h
            exact ⟨_, runs_flushHead_stop maySend hf (.inr hempty), rfl, rfl⟩
        · next hempty =>
            have hoffer := runs_offer hf hempty
            obtain ⟨⟨result, stack₁⟩, hsend, h⟩ := Outcome.bind_eq_ok.mp h
            cases result with
            | error e =>
                cases h
                exact ⟨_, hoffer.trans (runs_refused (.inr ⟨e, rfl⟩)), rfl, rfl⟩
            | ok n =>
                have hn := NetworkStack.tcpSend_le hS hsend
                dsimp only at h
                split at h
                · next h0 =>
                    cases h
                    exact ⟨_, hoffer.trans (runs_refused (.inl (congrArg _ h0))), rfl, rfl⟩
                · next h0 =>
                    have hmove := hoffer.trans (runs_consume h0 hn)
                    split at h
                    · next hlt =>
                        cases h
                        rw [if_pos hlt] at hmove
                        exact ⟨_, hmove, rfl, rfl⟩
                    · next hlt =>
                        rw [if_neg hlt] at hmove
                        obtain ⟨g, hg, hi, hc⟩ := ih
                          (f := (f.accept (f.stream.sendBuffer.peekCopy f.tcpChunkSize) n).consume
                            n .flushing) rfl h
                        exact ⟨g, hmove.trans hg, hi, hc⟩

theorem fillRecvBuffer_runs (hS : S.CountsInRange) (hf : f.transfer = .filling)
    (h : fillRecvBuffer handle f.tcpChunkSize fuel stack f.stream = .ok (stack', c')) :
    ∃ g, Runs f g ∧ g.transfer = .idle ∧ g.stream = c' := by
  induction fuel generalizing stack f with
  | zero => cases h
  | succ fuel ih =>
      obtain ⟨mayRecv, _, h⟩ := Outcome.bind_eq_ok.mp h
      split at h
      · next hstop =>
          cases h
          exact ⟨_, runs_fillHead_stop hf hstop, rfl, rfl⟩
      · next hgo =>
          have hrequest := runs_request hf hgo
          obtain ⟨⟨result, stack₁⟩, hrecv, h⟩ := Outcome.bind_eq_ok.mp h
          cases result with
          | error e =>
              cases h
              exact ⟨_, hrequest.trans (runs_nothing (.inr ⟨e, rfl⟩)), rfl, rfl⟩
          | ok data =>
              have hd := NetworkStack.tcpRecv_le hS hrecv
              dsimp only at h
              split at h
              · next h0 =>
                  cases h
                  exact ⟨_, hrequest.trans (runs_nothing (.inl (congrArg _ (List.isEmpty_iff.mp h0)))),
                    rfl, rfl⟩
              · next h0 =>
                  have hmove := hrequest.trans (runs_store h0 hd)
                  split at h
                  · next hlt =>
                      cases h
                      rw [if_pos hlt] at hmove
                      exact ⟨_, hmove, rfl, rfl⟩
                  · next hlt =>
                      rw [if_neg hlt] at hmove
                      obtain ⟨g, hg, hi, hc⟩ := ih
                        (f := (f.receive data).store data .filling) rfl h
                      exact ⟨g, hmove.trans hg, hi, hc⟩

end ByteFlow

end Usque
