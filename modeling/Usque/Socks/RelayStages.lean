import Usque.Socks.Relay

namespace Usque

-- A write of these bytes is accepted at once and whole.
structure Fits (data : List UInt8) (c : SocketStreamHandle) : Prop where
  room : data.length ≤ c.sendBuffer.remainingCapacity
  unclosed : c.writeClosed = false
  unshut : c.writeShutdown = false

theorem Fits.notFull {data : List UInt8} {c : SocketStreamHandle} (h : Fits data c)
    (hd : data ≠ []) : c.sendBuffer.isFull = false := by
  have hpos := List.length_pos_iff.mpr hd
  have hroom := h.room
  simp only [TcpRingBuffer.isFull, decide_eq_false_iff_not]
  omega

namespace PollPc

-- The stages of a poll_read for which `room` is room enough.
def Reads (room : Nat) : PollPc → Prop
  | .returned _ => True
  | .readTest n | .readRegister n | .readRetest n | .loadSocketClosed n | .loadReadClosed n
  | .readDequeue n => 0 < n ∧ n ≤ room
  | .swapEvent _ next | .sendEvent _ next =>
      ∃ n data, next = .returned (some (.read n (.ready data))) ∧ data ≠ [] ∧ data.length ≤ room
  | _ => False

-- The stages of a poll_write that neither fails nor waits.
def Writes (data : List UInt8) (c : SocketStreamHandle) : PollPc → Prop
  | .returned _ => Fits data c
  | .loadWriteClosed buf | .loadWriteShutdown buf | .writeTest buf | .loadWasEmpty buf
  | .writeEnqueue buf _ => buf = data ∧ Fits data c
  | .swapEvent _ next | .sendEvent _ next =>
      next = .returned (some (.write (.ready (.written data.length))))
  | _ => False

theorem Writes.mono {data : List UInt8} {c c' : SocketStreamHandle} {pc : PollPc}
    (h : pc.Writes data c) (hf : Fits data c → Fits data c') : pc.Writes data c' := by
  unfold Writes at h ⊢
  split at h
  · exact hf h
  · exact ⟨h.1, hf h.2⟩
  · exact ⟨h.1, hf h.2⟩
  · exact ⟨h.1, hf h.2⟩
  · exact ⟨h.1, hf h.2⟩
  · exact ⟨h.1, hf h.2⟩
  · exact h
  · exact h
  · exact h.elim

theorem Reads.mono {room room' : Nat} {pc : PollPc} (h : pc.Reads room) (hr : room ≤ room') :
    pc.Reads room' := by
  unfold Reads at h ⊢
  split at h
  · trivial
  · exact ⟨h.1, Nat.le_trans h.2 hr⟩
  · exact ⟨h.1, Nat.le_trans h.2 hr⟩
  · exact ⟨h.1, Nat.le_trans h.2 hr⟩
  · exact ⟨h.1, Nat.le_trans h.2 hr⟩
  · exact ⟨h.1, Nat.le_trans h.2 hr⟩
  · exact ⟨h.1, Nat.le_trans h.2 hr⟩
  · obtain ⟨n, data, he, hd, hlen⟩ := h
    exact ⟨n, data, he, hd, Nat.le_trans hlen hr⟩
  · obtain ⟨n, data, he, hd, hlen⟩ := h
    exact ⟨n, data, he, hd, Nat.le_trans hlen hr⟩
  · exact h.elim

-- The stages of a poll_shutdown that finds nothing to flush.
def Shuts : PollPc → Prop
  | .returned _ | .flushTest true | .swapShutdown => True
  | .swapEvent _ next | .sendEvent _ next => next = .returned (some (.shutdown (.ready ())))
  | _ => False

-- The stages of a poll_write and of a poll_shutdown that wait for the send buffer.
def StallsWrite (data : List UInt8) : PollPc → Prop
  | .returned _ => True
  | .loadWriteClosed buf | .loadWriteShutdown buf | .writeTest buf | .writeRegister buf
  | .writeRetest buf => buf = data
  | _ => False

def StallsShutdown : PollPc → Prop
  | .returned _ | .flushTest true | .flushRegister true | .flushRetest true => True
  | .swapEvent _ next | .sendEvent _ next => next = .flushRegister true
  | _ => False

-- A poll_read that will return bytes.
def taking (c : SocketStreamHandle) : PollPc → Bool
  | .readTest _ | .readRegister _ | .readRetest _ => !c.recvBuffer.isEmpty
  | .readDequeue _ | .swapEvent _ _ | .sendEvent _ _ => true
  | _ => false

def Quiet : PollPc → Prop
  | .returned last => last ≠ some .dropped ∧ last.any PollReturn.sendPending = false
  | _ => True

theorem quiet_of_busy {pc : PollPc} (h : pc.isReturned = false) : pc.Quiet := by
  cases pc with
  | returned last => cases h
  | _ => trivial

end PollPc

namespace SweepPc

def closesWrite : SweepPc → Bool
  | .storeWriteClosed | .retireWriteClosed | .closeStore => true
  | _ => false

theorem touch_sendBuffer (pc : SweepPc) (c : SocketStreamHandle) :
    (pc.touch c).sendBuffer = c.sendBuffer ∨
      ∃ n, (pc.touch c).sendBuffer = c.sendBuffer.consume n := by
  cases pc with
  | clearRead mask | clearWrite mask | clearClosed mask =>
      left
      simp only [touch]
      split <;> rfl
  | flushConsume mask offered sent => exact .inr ⟨sent, rfl⟩
  | _ => exact .inl rfl

theorem touch_writeOpen {pc : SweepPc} (c : SocketStreamHandle) (h : pc.closesWrite = false) :
    (pc.touch c).writeClosed = c.writeClosed ∧ (pc.touch c).writeShutdown = c.writeShutdown := by
  cases pc with
  | clearRead mask | clearWrite mask | clearClosed mask =>
      simp only [touch]
      split <;> exact ⟨rfl, rfl⟩
  | storeWriteClosed | retireWriteClosed | closeStore => cases h
  | _ => exact ⟨rfl, rfl⟩

theorem touch_fits {pc : SweepPc} {c : SocketStreamHandle} {data : List UInt8}
    (hf : Fits data c) (h : pc.closesWrite = false) : Fits data (pc.touch c) := by
  obtain ⟨hclosed, hshut⟩ := touch_writeOpen c h
  refine ⟨?_, hclosed.trans hf.unclosed, hshut.trans hf.unshut⟩
  have hroom := hf.room
  rcases touch_sendBuffer pc c with hs | ⟨n, hs⟩
  · rw [hs]
    exact hroom
  · have hcap : (c.sendBuffer.consume n).capacity = c.sendBuffer.capacity := by
      rw [TcpRingBuffer.consume_eq]
      rfl
    rw [hs]
    simp only [TcpRingBuffer.remainingCapacity, hcap, TcpRingBuffer.len_consume] at hroom ⊢
    omega

theorem touch_sendEmpty {pc : SweepPc} {c : SocketStreamHandle}
    (h : c.sendBuffer.isEmpty = true) : (pc.touch c).sendBuffer.isEmpty = true := by
  rcases touch_sendBuffer pc c with hs | ⟨n, hs⟩
  · rwa [hs]
  · rw [hs, TcpRingBuffer.isEmpty_iff, TcpRingBuffer.len_consume,
      (TcpRingBuffer.isEmpty_iff _).mp h, Nat.zero_sub]

end SweepPc

namespace SocketStreamHandle

variable {c c' : SocketStreamHandle} {events : List SocketEventKind} {pc pc' : PollPc}

-- One access of a poll_read changes nothing of the send side, and either the call goes on or it
-- returns in one of three ways.
structure ReadOn (room : Nat) (c c' : SocketStreamHandle) (pc pc' : PollPc) : Prop where
  sendBuffer : c'.sendBuffer = c.sendBuffer
  writeClosed : c'.writeClosed = c.writeClosed
  writeShutdown : c'.writeShutdown = c.writeShutdown
  next : (pc'.isReturned = false ∧ pc'.Reads room ∧ (pc.taking c = true → pc'.taking c' = true)) ∨
    (∃ n, pc' = .returned (some (.read n .pending)) ∧ pc.taking c = false ∧
      c'.recvBuffer = c.recvBuffer) ∨
    (∃ n, pc' = .returned (some (.read n (.ready []))) ∧ 0 < n ∧ pc.taking c = false ∧
      c'.recvBuffer = c.recvBuffer ∧ (c'.socketClosed = true ∨ c'.readClosed = true)) ∨
    ∃ n data, pc' = .returned (some (.read n (.ready data))) ∧ data ≠ [] ∧ data.length ≤ room

theorem reads_pollStep {room : Nat} (hr : pc.Reads room) (hb : pc.isReturned = false)
    (hfull : ∀ n, pc = .readDequeue n → c.recvBuffer.isEmpty = false)
    (h : c.pollStep pc = some (c', events, pc')) : ReadOn room c c' pc pc' := by
  cases pc with
  | returned last => cases hb
  | readTest n =>
      cases h
      refine ⟨rfl, rfl, rfl, .inl ?_⟩
      cases he : c.recvBuffer.isEmpty
      · exact ⟨rfl, hr, fun _ => rfl⟩
      · exact ⟨rfl, hr, fun ht => by simp [PollPc.taking, he] at ht⟩
  | readRegister n =>
      cases h
      exact ⟨rfl, rfl, rfl, .inl ⟨rfl, hr, id⟩⟩
  | readRetest n =>
      cases h
      refine ⟨rfl, rfl, rfl, .inl ?_⟩
      cases he : c.recvBuffer.isEmpty
      · exact ⟨rfl, hr, fun _ => rfl⟩
      · exact ⟨rfl, hr, fun ht => by simp [PollPc.taking, he] at ht⟩
  | loadSocketClosed n =>
      cases h
      refine ⟨rfl, rfl, rfl, ?_⟩
      cases hc : c.socketClosed
      · exact .inl ⟨rfl, hr, id⟩
      · exact .inr (.inr (.inl ⟨n, rfl, hr.1, rfl, rfl, .inl rfl⟩))
  | loadReadClosed n =>
      cases h
      refine ⟨rfl, rfl, rfl, ?_⟩
      cases hc : c.readClosed
      · exact .inr (.inl ⟨n, rfl, rfl, rfl⟩)
      · exact .inr (.inr (.inl ⟨n, rfl, hr.1, rfl, rfl, .inr rfl⟩))
  | readDequeue n =>
      simp only [pollStep, Option.some.injEq, Prod.mk.injEq] at h
      obtain ⟨rfl, -, rfl⟩ := h
      have hlen : (c.recvBuffer.dequeueSlice n).1.length = min n c.recvBuffer.len := by
        rw [TcpRingBuffer.dequeueSlice_eq, List.length_take, TcpRingBuffer.length_contents]
      have hpos := TcpRingBuffer.len_pos (hfull n rfl)
      have hbytes : 0 < (c.recvBuffer.dequeueSlice n).1.length := by
        rw [hlen]
        exact Nat.lt_min.mpr ⟨hr.1, hpos⟩
      rw [if_pos hbytes]
      refine ⟨rfl, rfl, rfl, .inl ⟨rfl, ⟨n, _, rfl, List.length_pos_iff.mp hbytes, ?_⟩, fun _ => rfl⟩⟩
      rw [hlen]
      exact Nat.le_trans (Nat.min_le_left ..) hr.2
  | swapEvent kind next =>
      obtain ⟨n, data, rfl, hd, hlen⟩ := hr
      simp only [pollStep, Option.some.injEq, Prod.mk.injEq] at h
      obtain ⟨rfl, -, rfl⟩ := h
      refine ⟨?_, ?_, ?_, ?_⟩
      · cases kind <;> rfl
      · cases kind <;> rfl
      · cases kind <;> rfl
      · split
        · exact .inr (.inr (.inr ⟨n, data, rfl, hd, hlen⟩))
        · exact .inl ⟨rfl, ⟨n, data, rfl, hd, hlen⟩, fun _ => rfl⟩
  | sendEvent kind next =>
      obtain ⟨n, data, rfl, hd, hlen⟩ := hr
      cases h
      exact ⟨rfl, rfl, rfl, .inr (.inr (.inr ⟨n, data, rfl, hd, hlen⟩))⟩
  | _ => exact hr.elim

-- One access of a poll_write that fits.
theorem writes_pollStep {data : List UInt8} (hw : pc.Writes data c) (hd : data ≠ [])
    (hb : pc.isReturned = false) (h : c.pollStep pc = some (c', events, pc')) :
    (pc'.isReturned = false ∧ pc'.Writes data c') ∨
      pc' = .returned (some (.write (.ready (.written data.length)))) := by
  cases pc with
  | returned last => cases hb
  | loadWriteClosed buf =>
      obtain ⟨rfl, hf⟩ := hw
      cases h
      rw [hf.unclosed]
      exact .inl ⟨rfl, rfl, hf⟩
  | loadWriteShutdown buf =>
      obtain ⟨rfl, hf⟩ := hw
      cases h
      rw [hf.unshut]
      exact .inl ⟨rfl, rfl, hf⟩
  | writeTest buf =>
      obtain ⟨rfl, hf⟩ := hw
      cases h
      rw [hf.notFull hd]
      exact .inl ⟨rfl, rfl, hf⟩
  | loadWasEmpty buf =>
      cases h
      exact .inl ⟨rfl, hw⟩
  | writeEnqueue buf wasEmpty =>
      obtain ⟨rfl, hf⟩ := hw
      simp only [pollStep, Option.some.injEq, Prod.mk.injEq] at h
      obtain ⟨rfl, -, rfl⟩ := h
      have hn : (c.sendBuffer.enqueueSlice buf).1 = buf.length := by
        rw [TcpRingBuffer.enqueueSlice_fst, Nat.min_eq_left hf.room]
      rw [hn]
      split
      · exact .inl ⟨rfl, rfl⟩
      · exact .inr rfl
  | swapEvent kind next =>
      obtain rfl : next = _ := hw
      simp only [pollStep, Option.some.injEq, Prod.mk.injEq] at h
      obtain ⟨-, -, rfl⟩ := h
      split
      · exact .inr rfl
      · exact .inl ⟨rfl, rfl⟩
  | sendEvent kind next =>
      obtain rfl : next = _ := hw
      cases h
      exact .inr rfl
  | _ => exact hw.elim

-- One access of a poll_shutdown that finds the send buffer empty.
theorem shuts_pollStep (hs : pc.Shuts) (he : c.sendBuffer.isEmpty = true)
    (hb : pc.isReturned = false) (h : c.pollStep pc = some (c', events, pc')) :
    c'.sendBuffer = c.sendBuffer ∧
      ((pc'.isReturned = false ∧ pc'.Shuts) ∨
        pc' = .returned (some (.shutdown (.ready ())))) := by
  cases pc with
  | returned last => cases hb
  | flushTest shutdown =>
      cases shutdown with
      | false => exact hs.elim
      | true =>
          cases h
          rw [he]
          exact ⟨rfl, .inl ⟨rfl, trivial⟩⟩
  | swapShutdown =>
      cases h
      refine ⟨rfl, ?_⟩
      split
      · exact .inr rfl
      · exact .inl ⟨rfl, rfl⟩
  | swapEvent kind next =>
      obtain rfl : next = _ := hs
      simp only [pollStep, Option.some.injEq, Prod.mk.injEq] at h
      obtain ⟨rfl, -, rfl⟩ := h
      refine ⟨by cases kind <;> rfl, ?_⟩
      split
      · exact .inr rfl
      · exact .inl ⟨rfl, rfl⟩
  | sendEvent kind next =>
      obtain rfl : next = _ := hs
      cases h
      exact ⟨rfl, .inr rfl⟩
  | _ => exact hs.elim

theorem stallsWrite_pollStep {data : List UInt8} (hw : pc.StallsWrite data)
    (hfull : c.sendBuffer.isFull = true) (hclosed : c.writeClosed = false)
    (hshut : c.writeShutdown = false) (h : c.pollStep pc = some (c', events, pc')) :
    c'.sendBuffer = c.sendBuffer ∧ c'.writeClosed = false ∧ c'.writeShutdown = false ∧
      pc'.StallsWrite data ∧ ∀ last, pc' = .returned (some last) → last.sendPending = true := by
  cases pc with
  | returned last => cases h
  | loadWriteClosed buf =>
      cases h
      rw [hclosed]
      exact ⟨rfl, rfl, hshut, hw, nofun⟩
  | loadWriteShutdown buf =>
      cases h
      rw [hshut]
      exact ⟨rfl, hclosed, rfl, hw, nofun⟩
  | writeTest buf =>
      cases h
      rw [hfull]
      exact ⟨rfl, hclosed, hshut, hw, nofun⟩
  | writeRegister buf =>
      cases h
      exact ⟨rfl, hclosed, hshut, hw, nofun⟩
  | writeRetest buf =>
      cases h
      rw [hfull]
      refine ⟨rfl, hclosed, hshut, trivial, ?_⟩
      rintro last ⟨⟩
      rfl
  | _ => exact hw.elim

theorem stallsShutdown_pollStep (hw : pc.StallsShutdown) (hfull : c.sendBuffer.isEmpty = false)
    (h : c.pollStep pc = some (c', events, pc')) :
    c'.sendBuffer = c.sendBuffer ∧ pc'.StallsShutdown ∧
      ∀ last, pc' = .returned (some last) → last.sendPending = true := by
  cases pc with
  | returned last => cases h
  | flushTest shutdown =>
      cases shutdown with
      | false => exact hw.elim
      | true =>
          cases h
          rw [hfull]
          exact ⟨rfl, rfl, (by simp)⟩
  | flushRegister shutdown =>
      cases shutdown with
      | false => exact hw.elim
      | true =>
          cases h
          exact ⟨rfl, trivial, (by simp)⟩
  | flushRetest shutdown =>
      cases shutdown with
      | false => exact hw.elim
      | true =>
          cases h
          rw [hfull]
          refine ⟨rfl, trivial, ?_⟩
          rintro last ⟨⟩
          rfl
  | swapEvent kind next =>
      obtain rfl : next = _ := hw
      simp only [pollStep, Option.some.injEq, Prod.mk.injEq] at h
      obtain ⟨rfl, -, rfl⟩ := h
      refine ⟨by cases kind <;> rfl, ?_⟩
      split
      · exact ⟨trivial, (by simp)⟩
      · exact ⟨rfl, (by simp)⟩
  | sendEvent kind next =>
      obtain rfl : next = _ := hw
      cases h
      exact ⟨rfl, trivial, (by simp)⟩
  | _ => exact hw.elim

end SocketStreamHandle

namespace Relay

def tunnelOver (s : Relay) : Bool :=
  s.tunnelEof || s.pc = .flushClient || s.pc = .shutdownClient

def clientOver (s : Relay) : Bool := s.clientEof || s.pc = .shutdownTunnel

def Stage (s : Relay) : Prop :=
  match s.pc with
  | .select => s.tunnel.poll.Reads s.client.room ∧ (s.idle = false → s.tunnelEof = false)
  | .toClient data => s.idle = true ∧ data ≠ [] ∧ data.length ≤ s.client.room
  | .toTunnel data => data ≠ [] ∧ s.tunnel.poll.Writes data s.stream
  | .shutdownTunnel => s.stream.sendBuffer.isEmpty = true ∧ s.tunnel.poll.Shuts
  | .flushClient | .shutdownClient | .done => s.idle = true

structure Ends (s : Relay) : Prop where
  ordered : s.tunnel.Ordered
  quiet : s.tunnel.poll.Quiet
  tunnelOver : s.tunnelOver = true → s.stream.recvBuffer.isEmpty = true ∧
    (s.stream.socketClosed = true ∨ s.stream.readClosed = true)
  clientOver : s.clientOver = true → s.client.inbox = [] ∧ s.client.finished = true

-- What a relay that takes only what the other side has room for keeps.
structure Clear (s : Relay) : Prop extends Ends s where
  stage : s.Stage

-- The relay reads from one side what the other side takes at once; its end of file finds nothing
-- left to flush; the tunnel ends in order, and not in the middle of a write.
def TakesWhatFits (s : Relay) (label : RelayLabel) : Prop :=
  match label with
  | .call room => s.pc = .select → room ≤ s.client.room
  | .readClient n =>
      if n = 0 then s.stream.sendBuffer.isEmpty = true
      else n ≤ s.stream.sendBuffer.remainingCapacity ∧ s.stream.writeClosed = false ∧
        s.stream.writeShutdown = false
  | .manager _ =>
      (s.tunnel.socket.pc.endsRead s.tunnel.poll = true → s.stream.recvBuffer.isEmpty = true) ∧
        (s.tunnel.socket.pc.fills = true → s.stream.readClosed = false) ∧
        (s.tunnel.socket.pc.closesWrite = true → ∀ data, s.pc ≠ .toTunnel data)
  | _ => True

variable {s t : Relay}

theorem idle_returned (h : s.idle = true) : ∃ last, s.tunnel.poll = .returned last := by
  simp only [idle] at h
  cases hp : s.tunnel.poll with
  | returned last => exact ⟨last, rfl⟩
  | _ =>
      rw [hp] at h
      cases h

theorem Starts.clear (h : Starts s) : Clear s := by
  obtain ⟨tunnel, capacity, htunnel, rfl⟩ := h
  have hordered := htunnel.ordered
  obtain ⟨handle, sendCapacity, recvCapacity, socketNotifier, tcpChunkSize, rfl⟩ := htunnel
  refine ⟨⟨hordered, ⟨nofun, rfl⟩, nofun, nofun⟩, trivial, ?_⟩
  intro h
  cases h

theorem Clear.manager (h : Clear s) {job : SocketWork} {w : ManagedSocket}
    (hg : TakesWhatFits s (.manager job)) (hw : s.tunnel.socket.Worked w) :
    Clear { s with tunnel := s.tunnel.served w } := by
  obtain ⟨hends, hfills, hcloses⟩ := hg
  have hstream : w.stream = s.tunnel.socket.pc.touch s.stream := hw.stream
  have hflags := touch_flags s.tunnel.socket.pc s.stream
  have hends : StreamRun.EndsInOrder s.tunnel (.manager job) := ⟨hends, fun hf _ => hfills hf⟩
  have hordered := h.ordered.served hw hends
  refine ⟨⟨hordered, h.quiet, fun hover => ?_, h.clientOver⟩, ?_⟩
  · obtain ⟨hempty, hclosed⟩ := h.tunnelOver hover
    show w.stream.recvBuffer.isEmpty = true ∧ (w.stream.socketClosed = true ∨
      w.stream.readClosed = true)
    rw [hstream]
    refine ⟨?_, hclosed.imp hflags.socketClosed hflags.readClosed⟩
    rcases StreamRun.touch_recvBuffer s.tunnel.socket.pc s.stream with hsame | ⟨data, hp, _⟩
    · rw [hsame]
      exact hempty
    · exfalso
      rcases hclosed with hsock | hread
      · have hlevel := h.ordered.socketClosed hsock
        rw [hp] at hlevel
        cases hlevel
      · rw [hfills (by rw [hp]; rfl)] at hread
        cases hread
  · have hstage := h.stage
    simp only [Stage] at hstage ⊢
    cases hpc : s.pc with
    | toTunnel data =>
        simp only [hpc] at hstage ⊢
        have hopen : s.tunnel.socket.pc.closesWrite = false :=
          eq_false_of_ne_true (fun hc => hcloses hc data hpc)
        refine ⟨hstage.1, hstage.2.mono (fun hf => ?_)⟩
        show Fits data w.stream
        rw [hstream]
        exact SweepPc.touch_fits hf hopen
    | shutdownTunnel =>
        simp only [hpc] at hstage ⊢
        refine ⟨?_, hstage.2⟩
        show w.stream.sendBuffer.isEmpty = true
        rw [hstream]
        exact SweepPc.touch_sendEmpty hstage.1
    | _ =>
        simp only [hpc] at hstage ⊢
        exact hstage

theorem call_begun {room : Nat} (ht : s.call room = some t) :
    ∃ op pc, s.op room = some op ∧ s.idle = true ∧ PollPc.start op = some pc ∧
      t = { s with tunnel := s.tunnel.begun op pc } := by
  obtain ⟨op, hop, ht⟩ := Option.bind_eq_some_iff.mp ht
  obtain ⟨tunnel, hstart, rfl⟩ := Option.map_eq_some_iff.mp ht
  have hstep : s.tunnel.step (.start op) = some tunnel := hstart
  rcases StreamRun.step_cases hstep with ⟨op', pc, last, hl, hp, _, hpc, rfl⟩ |
    ⟨_, _, _, hl, _, _⟩ | ⟨_, _, hl, _, _⟩
  · cases hl
    refine ⟨op, pc, hop, ?_, hpc, rfl⟩
    rw [idle, hp]
    rfl
  · cases hl
  · cases hl

theorem Clear.call (h : Clear s) {room : Nat} (hg : s.pc = .select → room ≤ s.client.room)
    (ht : s.call room = some t) : Clear t := by
  obtain ⟨op, pc, hop, hidle, hpc, rfl⟩ := call_begun ht
  have hstage := h.stage
  refine ⟨⟨h.ordered.begun hpc, ?_, h.tunnelOver, h.clientOver⟩, ?_⟩
  · cases op <;> cases hpc <;> trivial
  · simp only [Stage, Relay.op] at hstage hop ⊢
    cases hs : s.pc with
    | select =>
        simp only [hs] at hstage hop hg ⊢
        split at hop
        · cases hop
        · next hopen =>
            cases hop
            cases hpc
            simp only [Bool.or_eq_true, decide_eq_true_eq, not_or] at hopen
            exact ⟨⟨Nat.pos_of_ne_zero hopen.2, hg trivial⟩, fun _ => Bool.eq_false_iff.mpr hopen.1⟩
    | toTunnel data =>
        simp only [hs] at hstage hop ⊢
        cases hop
        cases hpc
        refine ⟨hstage.1, rfl, ?_⟩
        obtain ⟨last, hp⟩ := idle_returned hidle
        have hw := hstage.2
        rw [hp] at hw
        exact hw
    | shutdownTunnel =>
        simp only [hs] at hstage hop ⊢
        cases hop
        cases hpc
        exact ⟨hstage.1, trivial⟩
    | toClient data | flushClient | shutdownClient | done =>
        simp only [hs] at hop
        cases hop

theorem Clear.readClient (h : Clear s) {n : Nat} (hg : TakesWhatFits s (.readClient n))
    (ht : s.readClient n = some t) : Clear t := by
  simp only [Relay.readClient] at ht
  split at ht
  · next hs =>
      obtain ⟨hpc, hidle, heof⟩ := hs
      obtain ⟨last, hp⟩ := idle_returned hidle
      have hover : s.tunnelOver = s.tunnelEof := by simp [Relay.tunnelOver, hpc]
      split at ht
      · next hn =>
          split at ht
          · next hend =>
              cases ht
              simp only [TakesWhatFits, if_pos hn] at hg
              refine ⟨⟨h.ordered, h.quiet, fun ho => h.tunnelOver ?_, fun _ => hend⟩, hg, ?_⟩
              · rw [hover]
                simpa [Relay.tunnelOver] using ho
              · show s.tunnel.poll.Shuts
                rw [hp]
                trivial
          · cases ht
      · next hn =>
          split at ht
          · next hle =>
              cases ht
              simp only [TakesWhatFits, if_neg hn] at hg
              have hlen : (s.client.inbox.take n).length = n := List.length_take_of_le hle
              refine ⟨⟨h.ordered, h.quiet, fun ho => h.tunnelOver ?_, fun ho => ?_⟩, ?_, ?_⟩
              · rw [hover]
                simpa [Relay.tunnelOver] using ho
              · simp [Relay.clientOver, heof] at ho
              · exact List.ne_nil_of_length_pos (by rw [hlen]; exact Nat.pos_of_ne_zero hn)
              · show s.tunnel.poll.Writes (s.client.inbox.take n) s.stream
                rw [hp]
                exact ⟨by rw [hlen]; exact hg.1, hg.2.1, hg.2.2⟩
          · cases ht
  · cases ht

theorem Ends.loopHead (h : Ends s) (hidle : s.idle = true) : Clear s.loopHead := by
  refine ⟨⟨h.ordered, h.quiet, fun ho => h.tunnelOver ?_, fun ho => h.clientOver ?_⟩, ?_⟩
  · simp only [Relay.loopHead, Relay.tunnelOver] at ho ⊢
    split at ho <;> simp_all
  · simp only [Relay.loopHead, Relay.clientOver] at ho ⊢
    split at ho <;> simp_all
  · simp only [Relay.loopHead]
    split
    · exact hidle
    · obtain ⟨last, hp⟩ := idle_returned hidle
      refine ⟨?_, fun hbusy => ?_⟩
      · show s.tunnel.poll.Reads s.client.room
        rw [hp]
        trivial
      · have hbusy : s.idle = false := hbusy
        rw [hidle] at hbusy
        cases hbusy

theorem Ends.done (h : Ends s) (hidle : s.idle = true) : Clear { s with pc := .done } := by
  refine ⟨⟨h.ordered, h.quiet, fun ho => h.tunnelOver ?_, fun ho => h.clientOver ?_⟩, hidle⟩
  · simp only [Relay.tunnelOver] at ho ⊢
    simp_all
  · simp only [Relay.clientOver] at ho ⊢
    simp_all

theorem Clear.writeClient (h : Clear s) {n : Nat} (ht : s.writeClient n = some t) : Clear t := by
  have hstage := h.stage
  simp only [Relay.writeClient] at ht
  split at ht
  · next data hpc =>
      split at ht
      · next hn =>
          simp only [Stage, hpc] at hstage
          have hends : Ends { s with
              client := { s.client with outbox := s.client.outbox ++ data.take n }
              delivered := s.delivered ++ data.take n } :=
            ⟨h.ordered, h.quiet, h.tunnelOver, h.clientOver⟩
          split at ht
          · cases ht
            exact hends.loopHead hstage.1
          · next hrest =>
              cases ht
              have htaken : (data.take n).length = n := List.length_take_of_le hn.2.1
              refine ⟨⟨h.ordered, h.quiet, fun ho => h.tunnelOver ?_, fun ho => h.clientOver ?_⟩,
                hstage.1, ?_, ?_⟩
              · simpa [Relay.tunnelOver, hpc] using ho
              · simpa [Relay.clientOver, hpc] using ho
              · simpa using hrest
              · have hroom := hstage.2.2
                simp only [ClientSocket.room, List.length_append, htaken, List.length_drop] at hroom ⊢
                omega
      · cases ht
  · cases ht

theorem Clear.finishClient (h : Clear s) (ht : s.finishClient = some t) : Clear t := by
  have hstage := h.stage
  simp only [Relay.finishClient] at ht
  split at ht
  · next hpc =>
      cases ht
      simp only [Stage, hpc] at hstage
      refine ⟨⟨h.ordered, h.quiet, fun _ => h.tunnelOver ?_, ?_⟩, hstage⟩
      · simp [Relay.tunnelOver, hpc]
      · simpa [Relay.clientOver, hpc] using h.clientOver
  · next hpc =>
      cases ht
      simp only [Stage, hpc] at hstage
      have hends : Ends { s with tunnelEof := true } := by
        refine ⟨h.ordered, h.quiet, fun _ => h.tunnelOver ?_, h.clientOver⟩
        simp [Relay.tunnelOver, hpc]
      exact hends.loopHead hstage
  · cases ht

theorem Clear.gone (h : Clear s) (hs : s.failClient = some t ∨ s.timeout = some t) : Clear t := by
  have hidle : s.idle = true ∧ t = { s with pc := .done } := by
    rcases hs with hs | hs
    · simp only [Relay.failClient] at hs
      split at hs
      · split at hs
        · next hidle =>
            cases hs
            exact ⟨(Bool.and_eq_true_iff.mp hidle).1, rfl⟩
        · cases hs
      · next data hpc =>
          cases hs
          have hstage := h.stage
          simp only [Stage, hpc] at hstage
          exact ⟨hstage.1, rfl⟩
      · cases hs
    · simp only [Relay.timeout] at hs
      split at hs
      · next hidle =>
          cases hs
          exact ⟨hidle.1, rfl⟩
      · cases hs
  rw [hidle.2]
  exact h.done hidle.1

theorem Clear.environment (h : Clear s) {label : RelayLabel}
    (hl : (∃ data, label = .clientSends data) ∨ label = .clientFinishes ∨
      ∃ n, label = .clientTakes n) (ht : s.step label = some t) : Clear t := by
  have hstage := h.stage
  rcases hl with ⟨data, rfl⟩ | rfl | ⟨n, rfl⟩
  · simp only [step] at ht
    split at ht
    · cases ht
    · next hopen =>
        cases ht
        exact ⟨⟨h.ordered, h.quiet, h.tunnelOver,
          fun ho => absurd (h.clientOver ho).2 hopen⟩, hstage⟩
  · cases ht
    exact ⟨⟨h.ordered, h.quiet, h.tunnelOver, fun ho => ⟨(h.clientOver ho).1, rfl⟩⟩, hstage⟩
  · cases ht
    refine ⟨⟨h.ordered, h.quiet, h.tunnelOver, h.clientOver⟩, ?_⟩
    have hroom : s.client.room ≤ { s.client with outbox := s.client.outbox.drop n }.room := by
      simp only [ClientSocket.room, List.length_drop]
      omega
    simp only [Stage] at hstage ⊢
    cases hpc : s.pc with
    | select =>
        simp only [hpc] at hstage ⊢
        exact ⟨hstage.1.mono hroom, hstage.2⟩
    | toClient data =>
        simp only [hpc] at hstage ⊢
        exact ⟨hstage.1, hstage.2.1, Nat.le_trans hstage.2.2 hroom⟩
    | _ =>
        simp only [hpc] at hstage ⊢
        exact hstage

section polls

variable {c : SocketStreamHandle} {events : List SocketEventKind} {pc : PollPc}

theorem poll_eq (hs : s.stream.pollStep s.tunnel.poll = some (c, events, pc)) :
    s.poll = some (s.polled (s.tunnel.polled c events pc)) := by
  have hp : s.tunnel.pollStep = some (s.tunnel.polled c events pc) := by
    simp only [StreamRun.pollStep]
    rw [show s.tunnel.stream = s.stream from rfl, hs]
    rfl
  rw [poll, hp]
  rfl

theorem polled_busy (tunnel : StreamRun) (h : tunnel.poll.isReturned = false) :
    s.polled tunnel = { s with tunnel } := by
  simp only [polled]
  split
  · next last hp =>
      rw [hp] at h
      cases h
  · rfl

theorem polled_returned (tunnel : StreamRun) {last : PollReturn}
    (h : tunnel.poll = .returned (some last)) :
    s.polled tunnel = { s with tunnel }.answer last := by
  simp only [polled, h]

theorem answer_read {data : List UInt8} (hd : data ≠ []) (n : Nat) :
    s.answer (.read n (.ready data)) = { s with pc := .toClient data } := by
  have hne : data.isEmpty = false := by simpa using hd
  simp [answer, hne]

theorem Ends.polled (h : Ends s) (hs : s.stream.pollStep s.tunnel.poll = some (c, events, pc))
    (hrecv : c.recvBuffer = s.stream.recvBuffer) (hq : pc.Quiet) :
    Ends { s with tunnel := s.tunnel.polled c events pc } := by
  have hflags := pollStep_flags hs
  refine ⟨h.ordered.polled hs, hq, fun hover => ?_, h.clientOver⟩
  obtain ⟨hempty, hclosed⟩ := h.tunnelOver hover
  refine ⟨?_, hclosed.imp hflags.socketClosed hflags.readClosed⟩
  show c.recvBuffer.isEmpty = true
  rw [hrecv]
  exact hempty

def taking (s : Relay) : Bool := s.tunnel.poll.taking s.stream

structure SelectPolled (s t : Relay) : Prop where
  same : t = { s with tunnel := t.tunnel, pc := t.pc }
  sendBuffer : t.stream.sendBuffer = s.stream.sendBuffer
  writeClosed : t.stream.writeClosed = s.stream.writeClosed
  writeShutdown : t.stream.writeShutdown = s.stream.writeShutdown
  next : (t.pc = .select ∧ t.idle = false ∧ (s.taking = true → t.taking = true) ∧
      (t.taking = true ∨ t.stream.recvBuffer = s.stream.recvBuffer)) ∨
    (t.pc = .select ∧ t.idle = true ∧ s.taking = false ∧
      t.stream.recvBuffer = s.stream.recvBuffer) ∨
    (∃ data, t.pc = .toClient data) ∨
    (t.pc = .flushClient ∧ s.taking = false ∧ s.stream.recvBuffer.isEmpty = true)

theorem Clear.select_poll (h : Clear s) (hpc : s.pc = .select) (hidle : s.idle = false) :
    ∃ t, s.poll = some t ∧ Clear t ∧ SelectPolled s t ∧
      t.tunnel.poll.stepsLeft < s.tunnel.poll.stepsLeft := by
  obtain ⟨⟨c, events, pc⟩, hs⟩ := Option.isSome_iff_exists.mp
    (SocketStreamHandle.pollStep_isSome (c := s.stream) hidle)
  refine ⟨_, poll_eq hs, ?_⟩
  have hstage := h.stage
  simp only [Stage, hpc] at hstage
  have heof := hstage.2 hidle
  have hread := SocketStreamHandle.reads_pollStep hstage.1 hidle h.ordered.readDequeue hs
  have hordered := h.ordered.polled hs
  have hless := SocketStreamHandle.pollStep_stepsLeft hs
  have hclient : s.clientEof = true → s.clientOver = true := by
    intro ho
    simp [Relay.clientOver, ho]
  have hrecv : s.tunnel.poll.taking s.stream = false → c.recvBuffer = s.stream.recvBuffer := by
    intro ht
    rcases SocketStreamHandle.pollStep_recvBuffer hs with hsame | ⟨n, hn, _⟩
    · exact hsame
    · rw [hn] at ht
      cases ht
  rcases hread.next with ⟨hbusy, hreads, htaking⟩ | ⟨n, rfl, hnot, hsame⟩ |
    ⟨n, rfl, hpos, hnot, hsame, hclosed⟩ | ⟨n, data, rfl, hd, hlen⟩
  · rw [polled_busy (s.tunnel.polled c events pc) hbusy]
    refine ⟨⟨⟨hordered, ?_, ?_, h.clientOver⟩, ?_⟩, ⟨rfl, hread.sendBuffer, hread.writeClosed,
      hread.writeShutdown, .inl ⟨hpc, hbusy, htaking, ?_⟩⟩, hless⟩
    · exact PollPc.quiet_of_busy hbusy
    · intro ho
      simp [Relay.tunnelOver, hpc, heof] at ho
    · simp only [Stage, hpc]
      exact ⟨hreads, fun _ => heof⟩
    · cases ht : s.tunnel.poll.taking s.stream with
      | true => exact .inl (htaking ht)
      | false => exact .inr (hrecv ht)
  · rw [polled_returned (s.tunnel.polled c events _) rfl]
    refine ⟨⟨⟨hordered, ⟨nofun, rfl⟩, ?_, h.clientOver⟩, ?_⟩, ⟨rfl, hread.sendBuffer,
      hread.writeClosed, hread.writeShutdown, .inr (.inl ⟨hpc, rfl, hnot, hsame⟩)⟩, hless⟩
    · intro ho
      simp [Relay.answer, Relay.tunnelOver, hpc, heof] at ho
    · simp only [Relay.answer, Stage, hpc]
      exact ⟨trivial, fun _ => heof⟩
  · rw [polled_returned (s.tunnel.polled c events _) rfl]
    have hempty := (h.ordered.ended hs (by cases n with
      | zero => cases hpos
      | succ n => rfl)).1
    refine ⟨⟨⟨hordered, ⟨nofun, rfl⟩, fun _ => ⟨hempty, hclosed⟩,
      fun ho => h.clientOver (hclient (by simpa [Relay.answer, Relay.clientOver] using ho))⟩,
      rfl⟩, ⟨rfl, hread.sendBuffer,
      hread.writeClosed, hread.writeShutdown, .inr (.inr (.inr ⟨rfl, hnot, ?_⟩))⟩, hless⟩
    show s.tunnel.stream.recvBuffer.isEmpty = true
    rw [← hsame]
    exact hempty
  · rw [polled_returned (s.tunnel.polled c events _) rfl]
    rw [answer_read hd]
    refine ⟨⟨⟨hordered, ⟨nofun, rfl⟩, ?_,
      fun ho => h.clientOver (hclient (by simpa [Relay.clientOver] using ho))⟩, rfl, hd, hlen⟩,
      ⟨rfl, hread.sendBuffer, hread.writeClosed, hread.writeShutdown,
        .inr (.inr (.inl ⟨data, rfl⟩))⟩, hless⟩
    intro ho
    simp [Relay.tunnelOver, heof] at ho

structure KeepsInbound (s t : Relay) : Prop where
  recvBuffer : t.stream.recvBuffer = s.stream.recvBuffer
  client : t.client = s.client
  delivered : t.delivered = s.delivered
  tunnelEof : t.tunnelEof = s.tunnelEof

theorem KeepsInbound.trans {u : Relay} (h : KeepsInbound s t) (k : KeepsInbound t u) :
    KeepsInbound s u :=
  ⟨k.recvBuffer.trans h.recvBuffer, k.client.trans h.client, k.delivered.trans h.delivered,
    k.tunnelEof.trans h.tunnelEof⟩

-- A write that fits goes on, or has passed on everything.
theorem Clear.write_poll (h : Clear s) {data : List UInt8} (hpc : s.pc = .toTunnel data)
    (hidle : s.idle = false) : ∃ t, s.poll = some t ∧ Clear t ∧
      t.tunnel.poll.stepsLeft < s.tunnel.poll.stepsLeft ∧ KeepsInbound s t ∧
      ((t.pc = .toTunnel data ∧ t.idle = false ∧ t.forwarded = s.forwarded) ∨
        (t.pc = (if s.clientEof && s.tunnelEof then .done else .select) ∧ t.idle = true ∧
          t.forwarded = s.forwarded ++ data)) := by
  obtain ⟨⟨c, events, pc⟩, hs⟩ := Option.isSome_iff_exists.mp
    (SocketStreamHandle.pollStep_isSome (c := s.stream) hidle)
  refine ⟨_, poll_eq hs, ?_⟩
  have hstage := h.stage
  simp only [Stage, hpc] at hstage
  have hwrite := SocketStreamHandle.writes_pollStep hstage.2 hstage.1 hidle hs
  have hless := SocketStreamHandle.pollStep_stepsLeft hs
  have hrecv : c.recvBuffer = s.stream.recvBuffer := by
    rcases SocketStreamHandle.pollStep_recvBuffer hs with hsame | ⟨n, hn, _⟩
    · exact hsame
    · rw [hn] at hstage
      exact hstage.2.elim
  rcases hwrite with ⟨hbusy, hw⟩ | rfl
  · rw [polled_busy (s.tunnel.polled c events pc) hbusy]
    have hends := h.toEnds.polled hs hrecv (PollPc.quiet_of_busy hbusy)
    refine ⟨⟨hends, ?_⟩, hless, ⟨hrecv, rfl, rfl, rfl⟩, .inl ⟨hpc, hbusy, rfl⟩⟩
    simp only [Stage, hpc]
    exact ⟨hstage.1, hw⟩
  · rw [polled_returned (s.tunnel.polled c events _) rfl]
    have hpos : data.length ≠ 0 := fun h0 => hstage.1 (List.eq_nil_of_length_eq_zero h0)
    have hanswer : ∀ tunnel : StreamRun, ({ s with tunnel } : Relay).answer
        (.write (.ready (.written data.length))) =
        { s with tunnel, forwarded := s.forwarded ++ data }.loopHead := by
      intro tunnel
      simp [Relay.answer, Relay.wrote, hpc, hstage.1]
    rw [hanswer]
    have hends := h.toEnds.polled hs hrecv ⟨nofun, rfl⟩
    have hgrown : Ends { s with
        tunnel := s.tunnel.polled c events (.returned (some (.write (.ready (.written data.length)))))
        forwarded := s.forwarded ++ data } :=
      ⟨hends.ordered, hends.quiet, hends.tunnelOver, hends.clientOver⟩
    exact ⟨hgrown.loopHead rfl, hless, ⟨hrecv, rfl, rfl, rfl⟩, .inr ⟨rfl, rfl, rfl⟩⟩

theorem Clear.shutdown_poll (h : Clear s) (hpc : s.pc = .shutdownTunnel)
    (hidle : s.idle = false) : ∃ t, s.poll = some t ∧ Clear t ∧
      t.tunnel.poll.stepsLeft < s.tunnel.poll.stepsLeft ∧ KeepsInbound s t ∧
      ((t.pc = .shutdownTunnel ∧ t.idle = false) ∨
        (t.pc = (if s.tunnelEof then .done else .select) ∧ t.idle = true)) := by
  obtain ⟨⟨c, events, pc⟩, hs⟩ := Option.isSome_iff_exists.mp
    (SocketStreamHandle.pollStep_isSome (c := s.stream) hidle)
  refine ⟨_, poll_eq hs, ?_⟩
  have hstage := h.stage
  simp only [Stage, hpc] at hstage
  obtain ⟨hsend, hshut⟩ := SocketStreamHandle.shuts_pollStep hstage.2 hstage.1 hidle hs
  have hless := SocketStreamHandle.pollStep_stepsLeft hs
  have hrecv : c.recvBuffer = s.stream.recvBuffer := by
    rcases SocketStreamHandle.pollStep_recvBuffer hs with hsame | ⟨n, hn, _⟩
    · exact hsame
    · rw [hn] at hstage
      exact hstage.2.elim
  have hover : s.client.inbox = [] ∧ s.client.finished = true :=
    h.clientOver (by simp [Relay.clientOver, hpc])
  rcases hshut with ⟨hbusy, hshuts⟩ | rfl
  · rw [polled_busy (s.tunnel.polled c events pc) hbusy]
    have hends := h.toEnds.polled hs hrecv (PollPc.quiet_of_busy hbusy)
    refine ⟨⟨hends, ?_⟩, hless, ⟨hrecv, rfl, rfl, rfl⟩, .inl ⟨hpc, hbusy⟩⟩
    simp only [Stage, hpc]
    refine ⟨?_, hshuts⟩
    show c.sendBuffer.isEmpty = true
    rw [hsend]
    exact hstage.1
  · rw [polled_returned (s.tunnel.polled c events _) rfl]
    have hends := h.toEnds.polled hs hrecv ⟨nofun, rfl⟩
    have hfinal : Ends { s with
        tunnel := s.tunnel.polled c events (.returned (some (.shutdown (.ready ()))))
        clientEof := true } :=
      ⟨hends.ordered, hends.quiet, hends.tunnelOver, fun _ => hover⟩
    exact ⟨hfinal.loopHead rfl, hless, ⟨hrecv, rfl, rfl, rfl⟩, .inr ⟨rfl, rfl⟩⟩

theorem Clear.poll (h : Clear s) (ht : s.poll = some t) : Clear t := by
  have hbusy : s.idle = false := by
    cases hi : s.idle with
    | false => rfl
    | true =>
        obtain ⟨last, hp⟩ := idle_returned hi
        simp [Relay.poll, StreamRun.pollStep, hp, SocketStreamHandle.pollStep] at ht
  have hstage := h.stage
  cases hpc : s.pc with
  | select =>
      obtain ⟨t', ht', hclear, _⟩ := h.select_poll hpc hbusy
      rw [ht] at ht'
      cases ht'
      exact hclear
  | toTunnel data =>
      obtain ⟨t', ht', hclear, _⟩ := h.write_poll hpc hbusy
      rw [ht] at ht'
      cases ht'
      exact hclear
  | shutdownTunnel =>
      obtain ⟨t', ht', hclear, _⟩ := h.shutdown_poll hpc hbusy
      rw [ht] at ht'
      cases ht'
      exact hclear
  | toClient data =>
      simp only [Stage, hpc, hbusy] at hstage
      cases hstage.1
  | flushClient | shutdownClient | done =>
      simp only [Stage, hpc, hbusy] at hstage
      cases hstage

end polls

theorem clear_step {label : RelayLabel} (h : Clear s) (hg : TakesWhatFits s label)
    (ht : s.step label = some t) : Clear t := by
  cases label with
  | call room => exact h.call hg ht
  | poll => exact h.poll ht
  | readClient n => exact h.readClient hg ht
  | writeClient n => exact h.writeClient ht
  | finishClient => exact h.finishClient ht
  | failClient => exact h.gone (.inl ht)
  | timeout => exact h.gone (.inr ht)
  | manager job =>
      obtain ⟨w, hw, rfl⟩ := Option.map_eq_some_iff.mp ht
      exact h.manager hg (ManagedSocket.work_worked hw)
  | clientSends data => exact h.environment (.inl ⟨data, rfl⟩) ht
  | clientFinishes => exact h.environment (.inr (.inl rfl)) ht
  | clientTakes n => exact h.environment (.inr (.inr ⟨n, rfl⟩)) ht

theorem Reachable.clear (h : Reachable TakesWhatFits s) : Clear s :=
  h.invariant (fun _ => Starts.clear) (fun _ _ _ hi hg ht => clear_step hi hg ht)

end Relay

end Usque
