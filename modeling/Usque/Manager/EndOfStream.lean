import Usque.Manager.ByteFlow
import Usque.Manager.PollStages

namespace Usque

def PollReturn.endOfStream : PollReturn → Bool
  | .read (_ + 1) (.ready []) => true
  | _ => false

namespace PollPc

-- poll_read is past its second emptiness test and has still to load a closed flag.
def pastTests : PollPc → Bool
  | .loadSocketClosed _ => true
  | .loadReadClosed _ => true
  | _ => false

def endOfStream : PollPc → Bool
  | .returned last => last.any PollReturn.endOfStream
  | .swapEvent _ (.returned last) => last.any PollReturn.endOfStream
  | .sendEvent _ (.returned last) => last.any PollReturn.endOfStream
  | _ => false

def inRead : PollPc → Bool
  | .loadSocketClosed _ | .loadReadClosed _ | .readDequeue _ => true
  | _ => false

end PollPc

-- The manager's next step stores a flag that poll_read, past its tests, has still to load.
def SweepPc.endsRead : SweepPc → PollPc → Bool
  | .retireSocketClosed, .loadSocketClosed _ => true
  | .retireReadClosed, .loadSocketClosed _ => true
  | .retireReadClosed, .loadReadClosed _ => true
  | .storeReadClosed, .loadSocketClosed _ => true
  | .storeReadClosed, .loadReadClosed _ => true
  | _, _ => false

def SweepPc.fills : SweepPc → Bool
  | .fillStore _ => true
  | _ => false

namespace StreamRun

-- While a poll_read is past its tests the manager closes the read side of no stream with bytes to
-- read, and enqueues none behind a closed flag.
def EndsInOrder (s : StreamRun) (label : StreamLabel) : Prop :=
  match label with
  | .manager _ =>
      (s.socket.pc.endsRead s.poll = true → s.stream.recvBuffer.isEmpty = true) ∧
        (s.socket.pc.fills = true → s.poll.pastTests = true → s.stream.readClosed = false)
  | _ => True

structure Ordered (s : StreamRun) : Prop where
  sane : s.poll.Sane
  conserved : s.received = s.read ++ s.stream.recvBuffer.contents
  socketClosed : s.stream.socketClosed = true → 1 ≤ s.socket.pc.retireLevel
  loadSocketClosed : ∀ n, s.poll = .loadSocketClosed n → s.stream.recvBuffer.isEmpty = true ∨
    (s.stream.socketClosed = false ∧ s.stream.readClosed = false)
  loadReadClosed : ∀ n, s.poll = .loadReadClosed n → s.stream.recvBuffer.isEmpty = true ∨
    s.stream.readClosed = false
  readDequeue : ∀ n, s.poll = .readDequeue n → s.stream.recvBuffer.isEmpty = false
  unended : s.poll.isReturned = false → s.poll.endOfStream = false

variable {s t : StreamRun}

theorem Starts.ordered (h : Starts s) : Ordered s := by
  obtain ⟨handle, sendCapacity, recvCapacity, socketNotifier, tcpChunkSize, rfl⟩ := h
  constructor
  · trivial
  · have hlen := TcpRingBuffer.length_contents (.new (recvCapacity + 1))
    rw [TcpRingBuffer.len_new] at hlen
    exact (List.eq_nil_of_length_eq_zero hlen).symm
  · nofun
  · nofun
  · nofun
  · nofun
  · nofun

theorem start_read {op : ClientOp} {pc : PollPc} (h : PollPc.start op = some pc) :
    (∀ n, pc ≠ .loadSocketClosed n) ∧ (∀ n, pc ≠ .loadReadClosed n) ∧
      (∀ n, pc ≠ .readDequeue n) ∧ pc.endOfStream = false := by
  cases op <;> cases h <;> exact ⟨nofun, nofun, nofun, rfl⟩

theorem Ordered.begun (h : Ordered s) {op : ClientOp} {pc : PollPc}
    (hop : PollPc.start op = some pc) : Ordered (s.begun op pc) := by
  obtain ⟨h₁, h₂, h₃, h₄⟩ := start_read hop
  exact ⟨PollPc.sane_start hop, h.conserved, h.socketClosed, fun n hn => absurd hn (h₁ n),
    fun n hn => absurd hn (h₂ n), fun n hn => absurd hn (h₃ n), fun _ => h₄⟩

end StreamRun

namespace SocketStreamHandle

variable {c c' : SocketStreamHandle} {events : List SocketEventKind} {pc pc' : PollPc}

theorem pollStep_socketClosed (h : c.pollStep pc = some (c', events, pc')) :
    c'.socketClosed = c.socketClosed := by
  cases pc with
  | returned last => cases h
  | swapEvent kind next => cases h; cases kind <;> rfl
  | _ => cases h; rfl

theorem pollStep_contents (h : c.pollStep pc = some (c', events, pc')) :
    c.recvBuffer.contents = pc.dequeued c ++ c'.recvBuffer.contents := by
  cases pc with
  | returned last => cases h
  | readDequeue n =>
      cases h
      have hpops := TcpRingBuffer.dequeueSlice_pops c.recvBuffer n
      show c.recvBuffer.contents =
        (c.recvBuffer.dequeueSlice n).1 ++ (c.recvBuffer.dequeueSlice n).2.contents
      conv_rhs => rw [hpops.front, hpops.contents]
      exact (List.take_append_drop _ _).symm
  | swapEvent kind next => cases h; cases kind <;> rfl
  | _ => cases h; rfl

-- What the owner found before its last loads and before its dequeue.
structure ReadFrom (c : SocketStreamHandle) (pc pc' : PollPc) : Prop where
  loadSocketClosed : ∀ n, pc' = .loadSocketClosed n → c.recvBuffer.isEmpty = true
  loadReadClosed : ∀ n, pc' = .loadReadClosed n → pc = .loadSocketClosed n
  readDequeue : ∀ n, pc' = .readDequeue n → c.recvBuffer.isEmpty = false

theorem readFrom_other {c : SocketStreamHandle} (pc : PollPc) (h : pc'.inRead = false) :
    ReadFrom c pc pc' := by
  constructor <;> rintro n rfl <;> cases h

theorem readFrom_follows {c : SocketStreamHandle} {kind : SocketEventKind} {next : PollPc}
    (pc : PollPc) (h : PollPc.followsEvent kind next = true) : ReadFrom c pc next := by
  rcases PollPc.followsEvent_cases h with ⟨_, shutdown, rfl⟩ | ⟨last, rfl, _⟩
  · exact readFrom_other pc rfl
  · exact readFrom_other pc rfl

theorem pollStep_readFrom (hs : pc.Sane) (h : c.pollStep pc = some (c', events, pc')) :
    ReadFrom c pc pc' := by
  cases pc with
  | returned last => cases h
  | readTest n =>
      cases h
      split
      · exact readFrom_other _ rfl
      · next he => exact ⟨(by simp), (by simp), fun _ _ => eq_false_of_ne_true he⟩
  | readRetest n =>
      cases h
      split
      · next he => exact ⟨fun _ _ => he, (by simp), (by simp)⟩
      · next he => exact ⟨(by simp), (by simp), fun _ _ => eq_false_of_ne_true he⟩
  | loadSocketClosed n =>
      cases h
      split
      · exact readFrom_other _ rfl
      · refine ⟨(by simp), fun m hm => ?_, (by simp)⟩
        cases hm
        rfl
  | swapEvent kind next =>
      cases h
      split
      · exact readFrom_follows _ hs
      · exact readFrom_other _ rfl
  | sendEvent kind next =>
      cases h
      exact readFrom_follows _ hs
  | flushTest shutdown | flushRetest shutdown =>
      cases h
      split <;> cases shutdown <;> exact readFrom_other _ rfl
  | loadWriteClosed | loadWriteShutdown | writeTest | writeRetest | swapShutdown | readDequeue
  | writeEnqueue =>
      cases h
      split <;> exact readFrom_other _ rfl
  | _ =>
      cases h
      exact readFrom_other _ rfl

theorem dequeueSlice_nil {rb : TcpRingBuffer} {n : Nat} (h : (rb.dequeueSlice (n + 1)).1 = []) :
    rb.isEmpty = true ∧ (rb.dequeueSlice (n + 1)).2 = rb := by
  have hlen : rb.len = 0 := by
    rw [TcpRingBuffer.dequeueSlice_eq] at h
    have hl := congrArg List.length h
    rw [List.length_take, TcpRingBuffer.length_contents, List.length_nil] at hl
    omega
  refine ⟨(TcpRingBuffer.isEmpty_iff rb).mpr hlen, ?_⟩
  simp [TcpRingBuffer.dequeueSlice, hlen]

theorem endOfStream_of_follows {kind : SocketEventKind} {next : PollPc}
    (h : PollPc.followsEvent kind next = true) (he : next.endOfStream = true) :
    (PollPc.swapEvent kind next).endOfStream = true ∧
      (PollPc.sendEvent kind next).endOfStream = true := by
  rcases PollPc.followsEvent_cases h with ⟨_, shutdown, rfl⟩ | ⟨last, rfl, _⟩
  · cases he
  · exact ⟨he, he⟩

-- poll_read ends with no bytes only after a load of a set flag, or with an empty destination.
theorem pollStep_endOfStream (hs : pc.Sane) (h : c.pollStep pc = some (c', events, pc'))
    (he : pc'.endOfStream = true) :
    c'.recvBuffer = c.recvBuffer ∧
      ((∃ n, pc = .loadSocketClosed n ∧ c.socketClosed = true) ∨
        (∃ n, pc = .loadReadClosed n ∧ c.readClosed = true) ∨
        (∃ n, pc = .readDequeue n ∧ c.recvBuffer.isEmpty = true) ∨ pc.endOfStream = true) := by
  cases pc with
  | returned last => cases h
  | loadSocketClosed n =>
      cases h
      split at he
      · next hc => exact ⟨rfl, .inl ⟨n, rfl, hc⟩⟩
      · cases he
  | loadReadClosed n =>
      cases h
      refine ⟨rfl, .inr (.inl ⟨n, rfl, ?_⟩)⟩
      cases hc : c.readClosed with
      | true => rfl
      | false =>
          rw [hc] at he
          cases n <;> cases he
  | readDequeue n =>
      cases h
      have hend : (PollReturn.read n (.ready (c.recvBuffer.dequeueSlice n).1)).endOfStream =
          true := by
        dsimp only at he
        split at he <;> exact he
      cases n with
      | zero => cases hend
      | succ n =>
          cases hb : (c.recvBuffer.dequeueSlice (n + 1)).1 with
          | cons b bytes =>
              rw [hb] at hend
              cases hend
          | nil =>
              obtain ⟨hempty, hsame⟩ := dequeueSlice_nil hb
              exact ⟨hsame, .inr (.inr (.inl ⟨n + 1, rfl, hempty⟩))⟩
  | swapEvent kind next =>
      cases h
      refine ⟨by cases kind <;> rfl, .inr (.inr (.inr ?_))⟩
      split at he
      · exact (endOfStream_of_follows hs he).1
      · rcases PollPc.followsEvent_cases hs with ⟨_, shutdown, rfl⟩ | ⟨last, rfl, _⟩ <;> exact he
  | sendEvent kind next =>
      cases h
      exact ⟨rfl, .inr (.inr (.inr (endOfStream_of_follows hs he).2))⟩
  | flushTest shutdown | flushRetest shutdown =>
      cases h
      split at he <;> cases shutdown <;> cases he
  | readTest | readRetest | loadWriteClosed | loadWriteShutdown | writeTest | writeRetest
  | swapShutdown | writeEnqueue =>
      cases h
      split at he <;> cases he
  | _ =>
      cases h
      cases he

end SocketStreamHandle

namespace StreamRun

variable {s t : StreamRun} {c : SocketStreamHandle} {events : List SocketEventKind} {pc : PollPc}

-- A poll_read that reports the end of the stream finds nothing left to read.
theorem Ordered.ended (h : Ordered s) (hs : s.stream.pollStep s.poll = some (c, events, pc))
    (he : pc.endOfStream = true) : c.recvBuffer.isEmpty = true ∧ pc.isReturned = true := by
  obtain ⟨hsame, hcases⟩ := SocketStreamHandle.pollStep_endOfStream h.sane hs he
  rw [hsame]
  rcases hcases with ⟨n, hn, hc⟩ | ⟨n, hn, hc⟩ | ⟨n, hn, hempty⟩ | hend
  · rcases h.loadSocketClosed n hn with hempty | ⟨hno, _⟩
    · refine ⟨hempty, ?_⟩
      rw [hn] at hs
      simp only [SocketStreamHandle.pollStep, hc, if_true, Option.some.injEq,
        Prod.mk.injEq] at hs
      rw [← hs.2.2]
      rfl
    · rw [hc] at hno
      cases hno
  · rcases h.loadReadClosed n hn with hempty | hno
    · refine ⟨hempty, ?_⟩
      rw [hn] at hs
      cases hs
      rfl
    · rw [hc] at hno
      cases hno
  · rw [h.readDequeue n hn] at hempty
    cases hempty
  · have hr : s.poll.isReturned = false := by
      cases hp : s.poll with
      | returned last =>
          rw [hp] at hs
          cases hs
      | _ => rfl
    rw [h.unended hr] at hend
    cases hend

theorem Ordered.polled (h : Ordered s) (hs : s.stream.pollStep s.poll = some (c, events, pc)) :
    Ordered (s.polled c events pc) := by
  have hflags := pollStep_flags hs
  have hread := SocketStreamHandle.pollStep_readFrom h.sane hs
  have hbuf := SocketStreamHandle.pollStep_recvBuffer hs
  have hsock := SocketStreamHandle.pollStep_socketClosed hs
  constructor
  · exact SocketStreamHandle.pollStep_sane h.sane hs
  · show s.received = s.read ++ s.poll.dequeued s.stream ++ c.recvBuffer.contents
    rw [h.conserved, SocketStreamHandle.pollStep_contents hs, List.append_assoc]
  · intro hc
    exact h.socketClosed (hsock ▸ hc)
  · intro n hn
    left
    have hempty := hread.loadSocketClosed n hn
    rcases hbuf with hsame | ⟨m, hm, _⟩
    · exact hsame ▸ hempty
    · rw [h.readDequeue m hm] at hempty
      cases hempty
  · intro n hn
    have hp := hread.loadReadClosed n hn
    have hold := (h.loadSocketClosed n hp).imp id And.right
    rw [hp] at hs
    cases hs
    exact hold
  · intro n hn
    have hfull := hread.readDequeue n hn
    rcases hbuf with hsame | ⟨m, hm, _⟩
    · exact hsame ▸ hfull
    · obtain rfl : pc = .readDequeue n := hn
      rw [hm] at hs
      simp only [SocketStreamHandle.pollStep, Option.some.injEq, Prod.mk.injEq] at hs
      have hpc := hs.2.2
      split at hpc <;> cases hpc
  · intro hr
    refine eq_false_of_ne_true (fun he => ?_)
    rw [show (s.polled c events pc).poll = pc from rfl, (h.ended hs he).2] at hr
    cases hr

theorem touch_recvBuffer (pc : SweepPc) (c : SocketStreamHandle) :
    (pc.touch c).recvBuffer = c.recvBuffer ∨ ∃ data, pc = .fillStore data ∧
      (pc.touch c).recvBuffer = (c.recvBuffer.enqueueSlice data).2 := by
  cases pc with
  | clearRead mask | clearWrite mask | clearClosed mask =>
      left
      simp only [SweepPc.touch]
      split <;> rfl
  | fillStore data => exact .inr ⟨data, rfl, rfl⟩
  | _ => exact .inl rfl

theorem touch_contents (pc : SweepPc) (c : SocketStreamHandle) :
    (pc.touch c).recvBuffer.contents = c.recvBuffer.contents ++ pc.enqueued c := by
  cases pc with
  | clearRead mask | clearWrite mask | clearClosed mask =>
      simp only [SweepPc.touch, SweepPc.enqueued, List.append_nil]
      split <;> rfl
  | fillStore data => exact TcpRingBuffer.contents_enqueueSlice c.recvBuffer data
  | _ => exact (List.append_nil _).symm

theorem touch_socketClosed (pc : SweepPc) (c : SocketStreamHandle)
    (h : (pc.touch c).socketClosed = true) : c.socketClosed = true ∨ pc = .retireSocketClosed := by
  cases pc with
  | clearRead mask | clearWrite mask | clearClosed mask =>
      simp only [SweepPc.touch] at h
      split at h <;> exact .inl h
  | retireSocketClosed => exact .inr rfl
  | _ => exact .inl h

theorem touch_readClosed (pc : SweepPc) (c : SocketStreamHandle)
    (h : (pc.touch c).readClosed = true) :
    c.readClosed = true ∨ pc = .retireReadClosed ∨ pc = .storeReadClosed := by
  cases pc with
  | clearRead mask | clearWrite mask | clearClosed mask =>
      simp only [SweepPc.touch] at h
      split at h <;> exact .inl h
  | retireReadClosed => exact .inr (.inl rfl)
  | storeReadClosed => exact .inr (.inr rfl)
  | _ => exact .inl h

theorem Ordered.filling (h : Ordered s) {data : List UInt8} (hp : s.socket.pc = .fillStore data)
    (hr : s.stream.readClosed = false) :
    (s.socket.pc.touch s.stream).socketClosed = false ∧
      (s.socket.pc.touch s.stream).readClosed = false := by
  constructor <;> refine eq_false_of_ne_true (fun hc => ?_)
  · rcases touch_socketClosed _ _ hc with hold | hpc
    · have hl := h.socketClosed hold
      rw [hp] at hl
      cases hl
    · rw [hp] at hpc
      cases hpc
  · rcases touch_readClosed _ _ hc with hold | hpc | hpc
    · rw [hr] at hold
      cases hold
    · rw [hp] at hpc
      cases hpc
    · rw [hp] at hpc
      cases hpc

theorem Ordered.loadSocketClosed_served (h : Ordered s) {job : SocketWork}
    (hg : EndsInOrder s (.manager job)) {n : Nat} (hn : s.poll = .loadSocketClosed n) :
    (s.socket.pc.touch s.stream).recvBuffer.isEmpty = true ∨
      ((s.socket.pc.touch s.stream).socketClosed = false ∧
        (s.socket.pc.touch s.stream).readClosed = false) := by
  obtain ⟨hends, hfills⟩ := hg
  rw [hn] at hends hfills
  rcases touch_recvBuffer s.socket.pc s.stream with hsame | ⟨data, hp, _⟩
  · rw [hsame]
    by_cases he : s.stream.recvBuffer.isEmpty = true
    · exact .inl he
    · right
      have hold := (h.loadSocketClosed n hn).resolve_left he
      constructor <;> refine eq_false_of_ne_true (fun hc => ?_)
      · rcases touch_socketClosed _ _ hc with hc | hp
        · rw [hold.1] at hc
          cases hc
        · exact he (hends (by rw [hp]; rfl))
      · rcases touch_readClosed _ _ hc with hc | hp | hp
        · rw [hold.2] at hc
          cases hc
        · exact he (hends (by rw [hp]; rfl))
        · exact he (hends (by rw [hp]; rfl))
  · exact .inr (h.filling hp (hfills (by rw [hp]; rfl) rfl))

theorem Ordered.loadReadClosed_served (h : Ordered s) {job : SocketWork}
    (hg : EndsInOrder s (.manager job)) {n : Nat} (hn : s.poll = .loadReadClosed n) :
    (s.socket.pc.touch s.stream).recvBuffer.isEmpty = true ∨
      (s.socket.pc.touch s.stream).readClosed = false := by
  obtain ⟨hends, hfills⟩ := hg
  rw [hn] at hends hfills
  rcases touch_recvBuffer s.socket.pc s.stream with hsame | ⟨data, hp, _⟩
  · rw [hsame]
    by_cases he : s.stream.recvBuffer.isEmpty = true
    · exact .inl he
    · right
      have hold := (h.loadReadClosed n hn).resolve_left he
      refine eq_false_of_ne_true (fun hc => ?_)
      rcases touch_readClosed _ _ hc with hc | hp | hp
      · rw [hold] at hc
        cases hc
      · exact he (hends (by rw [hp]; rfl))
      · exact he (hends (by rw [hp]; rfl))
  · exact .inr (h.filling hp (hfills (by rw [hp]; rfl) rfl)).2

theorem Ordered.served (h : Ordered s) {w : ManagedSocket} (hw : s.socket.Worked w)
    {job : SocketWork} (hg : EndsInOrder s (.manager job)) : Ordered (s.served w) := by
  have hstream := hw.stream
  constructor
  · exact h.sane
  · show s.received ++ s.socket.pc.enqueued s.stream = s.read ++ w.stream.recvBuffer.contents
    rw [hstream, touch_contents, h.conserved, List.append_assoc]
    rfl
  · intro hc
    have hl : s.socket.pc.retireLevel ≤ w.pc.retireLevel := hw.retireLevel.1
    rw [show (s.served w).stream = s.socket.pc.touch s.stream from hstream] at hc
    rcases touch_socketClosed _ _ hc with hold | hp
    · exact Nat.le_trans (h.socketClosed hold) hl
    · rw [hp] at hl
      exact hl
  · intro n hn
    rw [show (s.served w).stream = s.socket.pc.touch s.stream from hstream]
    exact h.loadSocketClosed_served hg hn
  · intro n hn
    rw [show (s.served w).stream = s.socket.pc.touch s.stream from hstream]
    exact h.loadReadClosed_served hg hn
  · intro n hn
    have hfull := h.readDequeue n hn
    show w.stream.recvBuffer.isEmpty = false
    rw [hstream]
    rcases touch_recvBuffer s.socket.pc s.socket.stream with hsame | ⟨data, _, hgrown⟩
    · rw [hsame]
      exact hfull
    · rw [hgrown]
      exact TcpRingBuffer.not_isEmpty_grown data hfull
  · exact h.unended

theorem ordered_step {label : StreamLabel} (h : Ordered s) (hg : EndsInOrder s label)
    (hs : s.step label = some t) : Ordered t := by
  rcases step_cases hs with ⟨op, pc, last, rfl, _, _, hop, rfl⟩ | ⟨c, events, pc, rfl, hp, rfl⟩ |
    ⟨job, w, rfl, hw, rfl⟩
  · exact h.begun hop
  · exact h.polled hp
  · exact h.served hw hg

structure Delivered (s : StreamRun) : Prop where
  empty : s.stream.recvBuffer.isEmpty = true
  all : s.read = s.received

theorem Ordered.delivered (h : Ordered s) (hempty : s.stream.recvBuffer.isEmpty = true) :
    Delivered s := by
  refine ⟨hempty, ?_⟩
  have hlen := (TcpRingBuffer.isEmpty_iff _).mp hempty
  have hnil : s.stream.recvBuffer.contents = [] :=
    List.eq_nil_of_length_eq_zero (by rw [TcpRingBuffer.length_contents, hlen])
  rw [h.conserved, hnil, List.append_nil]

theorem Reachable.ordered (h : Reachable EndsInOrder s) : Ordered s :=
  h.invariant (fun _ => Starts.ordered) (fun _ _ _ hi hg hs => ordered_step hi hg hs)

theorem eof_after_data (h : Reachable EndsInOrder s) (hs : s.step .poll = some t) {n : Nat}
    (hn : 0 < n) (hp : t.poll = .returned (some (.read n (.ready [])))) : Delivered t := by
  have hordered := h.ordered
  obtain ⟨⟨c, events, pc⟩, hstep, rfl⟩ := Option.map_eq_some_iff.mp hs
  obtain rfl : pc = .returned (some (.read n (.ready []))) := hp
  refine (hordered.polled hstep).delivered (hordered.ended hstep ?_).1
  cases n with
  | zero => cases hn
  | succ n => rfl

structure Truncates (s : StreamRun) (n : Nat) : Prop where
  run : ∃ t u, Run.Reaches step Run.Any s t ∧ t.step .poll = some u ∧
    u.poll = .returned (some (.read n (.ready []))) ∧ u.stream.recvBuffer.isEmpty = false

theorem truncates_loadReadClosed {n : Nat} (hp : s.poll = .loadReadClosed n)
    (hr : s.stream.readClosed = true) (he : s.stream.recvBuffer.isEmpty = false) :
    Truncates s n := by
  refine ⟨s, s.polled s.stream [] (.returned (some (.read n (.ready [])))), .refl s, ?_, rfl, he⟩
  simp only [step, pollStep, hp, SocketStreamHandle.pollStep, hr, if_true, Option.map_some]

theorem truncates_socketClosed {n : Nat} (hp : s.poll = .loadSocketClosed n)
    (hc : s.stream.socketClosed = true) (he : s.stream.recvBuffer.isEmpty = false) :
    Truncates s n := by
  refine ⟨s, s.polled s.stream [] (.returned (some (.read n (.ready [])))), .refl s, ?_, rfl, he⟩
  simp only [step, pollStep, hp, SocketStreamHandle.pollStep, hc, if_true, Option.map_some]

theorem truncates_loadSocketClosed {n : Nat} (hp : s.poll = .loadSocketClosed n)
    (hr : s.stream.readClosed = true) (he : s.stream.recvBuffer.isEmpty = false) :
    Truncates s n := by
  cases hc : s.stream.socketClosed with
  | true => exact truncates_socketClosed hp hc he
  | false =>
      have hstep : s.step .poll = some (s.polled s.stream [] (.loadReadClosed n)) := by
        simp only [step, pollStep, hp, SocketStreamHandle.pollStep, hc, Bool.false_eq_true,
          if_false, Option.map_some]
      obtain ⟨t, u, ht, hu⟩ := (truncates_loadReadClosed
        (s := s.polled s.stream [] (.loadReadClosed n)) rfl hr he).run
      exact ⟨t, u, (Run.Reaches.single (a := .poll) trivial hstep).trans ht, hu⟩

-- The condition is exact: a flag stored early over unread bytes makes that poll_read end the stream
-- before them.
theorem early_close_truncates {n : Nat} (hc : s.socket.pc.endsRead s.poll = true)
    (he : s.stream.recvBuffer.isEmpty = false)
    (hn : s.poll = .loadSocketClosed n ∨ s.poll = .loadReadClosed n) : Truncates s n := by
  have hrun : ∀ w, s.socket.go .none = some w → Truncates (s.served w) n → Truncates s n := by
    rintro w hw ⟨t, u, ht, hu⟩
    refine ⟨t, u, (Run.Reaches.single (a := .manager (.go .none)) trivial ?_).trans ht, hu⟩
    simp only [step, ManagedSocket.work, hw, Option.map_some]
  rcases hn with hn | hn
  · cases hp : s.socket.pc with
    | retireSocketClosed =>
        refine hrun _ (by simp only [ManagedSocket.go, hp]; rfl) ?_
        exact truncates_socketClosed hn rfl he
    | retireReadClosed | storeReadClosed =>
        refine hrun _ (by simp only [ManagedSocket.go, hp]; rfl) ?_
        exact truncates_loadSocketClosed hn rfl he
    | _ =>
        rw [hp, hn] at hc
        cases hc
  · cases hp : s.socket.pc with
    | retireReadClosed | storeReadClosed =>
        refine hrun _ (by simp only [ManagedSocket.go, hp]; rfl) ?_
        exact truncates_loadReadClosed hn rfl he
    | _ =>
        rw [hp, hn] at hc
        cases hc

section runs

instance (s : StreamRun) (label : StreamLabel) : Decidable (EndsInOrder s label) :=
  match label with
  | .start _ => .isTrue trivial
  | .poll => .isTrue trivial
  | .manager _ => inferInstanceAs (Decidable (_ ∧ _))

def fillAndEnd : List StreamLabel :=
  .manager (.sweep true) :: replies ([.flag true, .none, .none, .none, .none, .none, .none,
    .flag false, .flag true, .none, .received (.ok [7]), .none, .none, .flag true,
    .flag true, .flag false, .none, .none, .flag true, .flag true])

theorem eof_after_data_closed : ∃ s t, Reachable EndsInOrder s ∧ s.step .poll = some t ∧
    t.poll = .returned (some (.read 4 (.ready []))) ∧ t.received = [7] ∧ Delivered t := by
  have hrun : (Run.exec step small (fillAndEnd ++ call (.read 4) 4 ++ call (.read 4) 4)).any
      (fun s => (s.step .poll).any (fun t =>
        decide (t.poll = .returned (some (.read 4 (.ready [])))) &&
          decide (t.received = [7]))) = true := by
    decide +kernel
  have hguarded : Run.Guarded step EndsInOrder small
      (fillAndEnd ++ call (.read 4) 4 ++ call (.read 4) 4) := by
    decide +kernel
  obtain ⟨s, hs, hp⟩ := (Option.any_eq_true _ _).mp hrun
  obtain ⟨t, ht, hp⟩ := (Option.any_eq_true _ _).mp hp
  simp only [Bool.and_eq_true, decide_eq_true_eq] at hp
  have hr : Reachable EndsInOrder s :=
    ⟨small, ⟨0, 1, 1, 0, 64, rfl⟩, Run.exec_guarded hs hguarded⟩
  exact ⟨s, t, hr, ht, hp.1, hp.2, eof_after_data hr ht (by decide) hp.1⟩

-- The manager stores the last bytes and then read_closed between poll_read's second emptiness test
-- and its loads of the two flags.
theorem eof_before_data : ∃ s t, Reachable Run.Any s ∧ s.step .poll = some t ∧
    t.poll = .returned (some (.read 4 (.ready []))) ∧ t.stream.socketDropped = false ∧
    t.stream.recvBuffer.isEmpty = false ∧ t.received = [7] ∧ t.read = [] := by
  have hrun : (Run.exec step small (call (.read 4) 3 ++ fillAndEnd ++ [.poll])).any
      (fun s => (s.step .poll).any (fun t =>
        decide (t.poll = .returned (some (.read 4 (.ready [])))) && !t.stream.socketDropped &&
          !t.stream.recvBuffer.isEmpty && decide (t.received = [7]) &&
          decide (t.read = []))) = true := by
    decide +kernel
  obtain ⟨s, hs, hp⟩ := (Option.any_eq_true _ _).mp hrun
  obtain ⟨t, ht, hp⟩ := (Option.any_eq_true _ _).mp hp
  simp only [Bool.and_eq_true, decide_eq_true_eq, Bool.not_eq_true'] at hp
  obtain ⟨⟨⟨⟨hend, hdropped⟩, hfull⟩, hreceived⟩, hread⟩ := hp
  exact ⟨s, t, ⟨small, ⟨0, 1, 1, 0, 64, rfl⟩, Run.exec_reaches hs⟩, ht, hend, hdropped, hfull,
    hreceived, hread⟩

end runs

end StreamRun

end Usque
