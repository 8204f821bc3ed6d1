import Usque.Manager.StreamRuns

namespace Usque

namespace PollPc

-- What a poll_write past its loads of the two flags has yet to enqueue.
def unwritten (c : SocketStreamHandle) : PollPc → Option (List UInt8)
  | .loadWriteShutdown buf => if c.writeShutdown then none else some buf
  | .writeTest buf => some buf
  | .writeRegister buf => some buf
  | .writeRetest buf => some buf
  | .loadWasEmpty buf => some buf
  | .writeEnqueue buf _ => some buf
  | _ => none

def readStage : PollPc → Bool
  | .readTest _ | .readRegister _ | .readRetest _ | .loadSocketClosed _ | .loadReadClosed _ => true
  | _ => false

def sendStage : PollPc → Bool
  | .loadWriteClosed _ | .loadWriteShutdown _ | .writeTest _ | .writeRegister _ | .writeRetest _ =>
      true
  | .flushTest _ | .flushRegister _ | .flushRetest _ => true
  | .swapEvent _ (.flushRegister _) | .sendEvent _ (.flushRegister _) => true
  | _ => false

def readArmed : PollPc → Bool
  | .readRetest _ | .loadSocketClosed _ | .loadReadClosed _ => true
  | _ => false

def sendArmed : PollPc → Bool
  | .writeRetest _ | .flushRetest _ => true
  | _ => false

def followsEvent : SocketEventKind → PollPc → Bool
  | .readReady, .returned (some (.read _ (.ready _))) => true
  | .writeReady, .flushRegister _ => true
  | .writeReady, .returned (some (.write (.ready _))) => true
  | .writeReady, .returned (some (.shutdown (.ready _))) => true
  | .closed, .returned (some .dropped) => true
  | _, _ => false

def Sane : PollPc → Prop
  | .swapEvent kind next => followsEvent kind next = true
  | .sendEvent kind next => followsEvent kind next = true
  | _ => True

def dropping : PollPc → Bool
  | .storeDropped | .storeReadClosed | .storeWriteClosed | .wakeReader | .wakeWriter => true
  | .swapEvent .closed _ | .sendEvent .closed _ => true
  | .returned (some .dropped) => true
  | _ => false

-- A bound on the owner's remaining steps in its call.
def stepsLeft : PollPc → Nat
  | .returned _ => 0
  | .readTest _ => 6
  | .readRegister _ => 5
  | .readRetest _ => 4
  | .loadSocketClosed _ => 2
  | .loadReadClosed _ => 1
  | .readDequeue _ => 3
  | .loadWriteClosed _ => 9
  | .loadWriteShutdown _ => 8
  | .writeTest _ => 7
  | .writeRegister _ => 6
  | .writeRetest _ => 5
  | .loadWasEmpty _ => 4
  | .writeEnqueue _ _ => 3
  | .flushTest _ => 8
  | .flushRegister _ => 5
  | .flushRetest _ => 4
  | .swapShutdown => 3
  | .storeDropped => 7
  | .storeReadClosed => 6
  | .storeWriteClosed => 5
  | .wakeReader => 4
  | .wakeWriter => 3
  | .swapEvent _ next => next.stepsLeft + 2
  | .sendEvent _ next => next.stepsLeft + 1

end PollPc

namespace PollPc

theorem followsEvent_cases {kind : SocketEventKind} {pc : PollPc}
    (h : followsEvent kind pc = true) :
    (kind = .writeReady ∧ ∃ shutdown, pc = .flushRegister shutdown) ∨
      ∃ last, pc = .returned (some last) ∧ last.readPending = false ∧ last.sendPending = false ∧
        (kind = .closed ↔ last = .dropped) := by
  cases pc with
  | returned last =>
      right
      rcases last with _ | last
      · cases kind <;> cases h
      · refine ⟨last, rfl, ?_⟩
        rcases last with ⟨n, _ | _⟩ | (_ | _) | (_ | _) | (_ | _) | _ <;> cases kind <;>
          first | (cases h; done) | exact ⟨rfl, rfl, by decide⟩ | exact ⟨rfl, rfl, by simp⟩
  | flushRegister shutdown =>
      left
      cases kind <;> first | exact ⟨rfl, shutdown, rfl⟩ | cases h
  | _ => cases kind <;> cases h

section follows

variable {kind : SocketEventKind} {pc : PollPc} (h : followsEvent kind pc = true)
include h

theorem sane_of_followsEvent : pc.Sane := by
  rcases followsEvent_cases h with ⟨_, shutdown, rfl⟩ | ⟨last, rfl, _⟩ <;> trivial

theorem not_pending_of_followsEvent : pc.readPending = false ∧ pc.sendPending = false := by
  rcases followsEvent_cases h with ⟨_, shutdown, rfl⟩ | ⟨last, rfl, hr, hs, _⟩
  · exact ⟨rfl, rfl⟩
  · exact ⟨hr, hs⟩

theorem not_dropping_of_followsEvent (hk : kind ≠ .closed) : pc.dropping = false := by
  rcases followsEvent_cases h with ⟨_, shutdown, rfl⟩ | ⟨last, rfl, _, _, hd⟩
  · rfl
  · cases last with
    | dropped => exact absurd (hd.mpr rfl) hk
    | _ => rfl

theorem unwritten_of_followsEvent (c : SocketStreamHandle) : pc.unwritten c = none := by
  rcases followsEvent_cases h with ⟨_, shutdown, rfl⟩ | ⟨last, rfl, _⟩ <;> rfl

end follows

theorem not_dropping_of_last {last : Option PollReturn} (h : last ≠ some .dropped) :
    (PollPc.returned last).dropping = false := by
  rcases last with _ | last
  · rfl
  · cases last <;> first | rfl | exact absurd rfl h

theorem sane_flushed (shutdown : Bool) : (flushed shutdown).Sane := by
  cases shutdown <;> trivial

theorem sane_start {op : ClientOp} {pc : PollPc} (h : PollPc.start op = some pc) : pc.Sane := by
  cases op <;> cases h <;> trivial

end PollPc

theorem TcpRingBuffer.not_empty_of_full {rb : TcpRingBuffer} (h : rb.isFull = true) :
    rb.isEmpty = false := by
  have := rb.two_le_capacity
  have := rb.len_lt
  refine eq_false_of_ne_true (fun he => ?_)
  rw [TcpRingBuffer.isEmpty_iff] at he
  have hr : rb.capacity - rb.len - 1 = 0 := of_decide_eq_true h
  omega

theorem TcpRingBuffer.not_isEmpty_of_len {rb : TcpRingBuffer} (h : 0 < rb.len) :
    rb.isEmpty = false := by
  refine eq_false_of_ne_true (fun he => ?_)
  rw [TcpRingBuffer.isEmpty_iff] at he
  omega

theorem TcpRingBuffer.len_pos {rb : TcpRingBuffer} (h : rb.isEmpty = false) : 0 < rb.len := by
  refine Nat.pos_of_ne_zero (fun h0 => ?_)
  rw [(TcpRingBuffer.isEmpty_iff rb).mpr h0] at h
  cases h

theorem TcpRingBuffer.not_isEmpty_enqueue {rb : TcpRingBuffer} {buf : List UInt8}
    (h : buf.isEmpty = false) :
    (rb.enqueueSlice buf).2.isEmpty = false := by
  refine eq_false_of_ne_true (fun he => ?_)
  have hpos : 0 < buf.length := by
    cases buf with
    | nil => cases h
    | cons _ _ => exact Nat.succ_pos _
  have := rb.two_le_capacity
  have := rb.len_lt
  rw [TcpRingBuffer.isEmpty_iff, TcpRingBuffer.len_enqueueSlice,
    TcpRingBuffer.enqueueSlice_fst] at he
  simp only [TcpRingBuffer.remainingCapacity] at he
  omega

theorem TcpRingBuffer.not_isEmpty_grown {rb : TcpRingBuffer} (buf : List UInt8)
    (h : rb.isEmpty = false) : (rb.enqueueSlice buf).2.isEmpty = false := by
  have := TcpRingBuffer.len_pos h
  apply TcpRingBuffer.not_isEmpty_of_len
  rw [TcpRingBuffer.len_enqueueSlice]
  omega

namespace SocketStreamHandle

variable {c c' : SocketStreamHandle} {events : List SocketEventKind} {pc pc' : PollPc}

theorem pollStep_sane (hs : pc.Sane) (h : c.pollStep pc = some (c', events, pc')) : pc'.Sane := by
  cases pc with
  | returned last => cases h
  | swapEvent kind next =>
      cases h
      split
      · exact PollPc.sane_of_followsEvent hs
      · exact hs
  | sendEvent kind next =>
      cases h
      exact PollPc.sane_of_followsEvent hs
  | flushTest shutdown =>
      cases h
      split
      · exact PollPc.sane_flushed shutdown
      · rfl
  | flushRetest shutdown =>
      cases h
      split
      · exact PollPc.sane_flushed shutdown
      · trivial
  | _ =>
      cases h
      first
        | trivial
        | split <;> trivial

theorem pollStep_stepsLeft (h : c.pollStep pc = some (c', events, pc')) :
    pc'.stepsLeft < pc.stepsLeft := by
  cases pc with
  | returned last => cases h
  | flushTest shutdown =>
      cases h
      split
      · cases shutdown <;> decide
      · simp [PollPc.stepsLeft]
  | flushRetest shutdown =>
      cases h
      split
      · cases shutdown <;> decide
      · simp [PollPc.stepsLeft, PollPc.unflushed]
  | swapEvent kind next =>
      cases h
      split
      · exact Nat.lt_add_of_pos_right (by decide)
      · exact Nat.lt_succ_self _
  | _ =>
      cases h
      first
        | simp [PollPc.stepsLeft]; done
        | split <;> simp [PollPc.stepsLeft]

theorem pollStep_isSome (hr : pc.isReturned = false) : (c.pollStep pc).isSome = true := by
  cases pc <;> first | rfl | cases hr

theorem pollStep_dropping (hs : pc.Sane) (h : c.pollStep pc = some (c', events, pc'))
    (hd : pc.dropping = true) : pc'.dropping = true := by
  cases pc with
  | returned last => cases h
  | swapEvent kind next =>
      cases kind with
      | closed =>
          rcases PollPc.followsEvent_cases hs with ⟨hk, _⟩ | ⟨last, rfl, _, _, hk⟩
          · cases hk
          · obtain rfl := hk.mp rfl
            cases h
            split <;> rfl
      | readReady | writeReady => cases hd
  | sendEvent kind next =>
      cases kind with
      | closed =>
          rcases PollPc.followsEvent_cases hs with ⟨hk, _⟩ | ⟨last, rfl, _, _, hk⟩
          · cases hk
          · obtain rfl := hk.mp rfl
            cases h
            rfl
      | readReady | writeReady => cases hd
  | storeDropped | storeReadClosed | storeWriteClosed | wakeReader | wakeWriter =>
      cases h
      rfl
  | _ => cases hd

theorem pollStep_not_dropping (hs : pc.Sane) (h : c.pollStep pc = some (c', events, pc'))
    (hd : pc.dropping = false) : pc'.dropping = false := by
  cases pc with
  | returned last => cases h
  | swapEvent kind next =>
      cases kind with
      | closed => cases hd
      | readReady | writeReady =>
          cases h
          split
          · exact PollPc.not_dropping_of_followsEvent hs (by decide)
          · rfl
  | sendEvent kind next =>
      cases kind with
      | closed => cases hd
      | readReady | writeReady =>
          cases h
          exact PollPc.not_dropping_of_followsEvent hs (by decide)
  | flushTest shutdown | flushRetest shutdown =>
      cases h
      split <;> cases shutdown <;> rfl
  | storeDropped | storeReadClosed | storeWriteClosed | wakeReader | wakeWriter => cases hd
  | _ =>
      cases h
      first
        | rfl
        | split <;> rfl

theorem pollStep_unwritten_left (h : c.pollStep pc = some (c', events, pc')) {buf : List UInt8}
    (hb : pc.unwritten c = some buf) (hn : buf.isEmpty = false) :
    c'.sendBuffer.isEmpty = false ∨ ∃ buf, pc'.unwritten c' = some buf ∧ buf.isEmpty = false := by
  cases pc with
  | returned last => cases h
  | loadWriteShutdown bytes =>
      cases h
      cases hw : c.writeShutdown with
      | true => simp [PollPc.unwritten, hw] at hb
      | false =>
          simp only [PollPc.unwritten, hw, Bool.false_eq_true, if_false, Option.some.injEq] at hb
          subst hb
          exact .inr ⟨bytes, rfl, hn⟩
  | writeTest bytes =>
      cases hb
      cases h
      right
      split <;> exact ⟨buf, rfl, hn⟩
  | writeRegister bytes =>
      cases hb
      cases h
      exact .inr ⟨buf, rfl, hn⟩
  | writeRetest bytes =>
      cases hb
      cases h
      split
      · next hf => exact .inl (TcpRingBuffer.not_empty_of_full hf)
      · exact .inr ⟨buf, rfl, hn⟩
  | loadWasEmpty bytes =>
      cases hb
      cases h
      exact .inr ⟨buf, rfl, hn⟩
  | writeEnqueue bytes wasEmpty =>
      cases hb
      cases h
      exact .inl (TcpRingBuffer.not_isEmpty_enqueue hn)
  | _ => cases hb

theorem unarmed_of_dropping (hd : pc.dropping = true) : pc.sendArmed = false := by
  cases pc <;> first | rfl | cases hd

-- Only the last load of poll_read can make it return Pending.
theorem pollStep_readPending (hs : pc.Sane) (h : c.pollStep pc = some (c', events, pc'))
    (hp : pc'.readPending = true) : ∃ n, pc = .loadReadClosed n ∧ c.readClosed = false := by
  cases pc with
  | returned last => cases h
  | loadReadClosed n =>
      cases h
      cases hc : c.readClosed with
      | true => simp [hc, PollPc.readPending, PollReturn.readPending] at hp
      | false => exact ⟨n, rfl, rfl⟩
  | swapEvent kind next =>
      cases h
      split at hp
      · rw [(PollPc.not_pending_of_followsEvent hs).1] at hp
        cases hp
      · cases hp
  | sendEvent kind next =>
      cases h
      rw [(PollPc.not_pending_of_followsEvent hs).1] at hp
      cases hp
  | flushTest shutdown =>
      cases h
      split at hp
      · cases shutdown <;> cases hp
      · cases hp
  | flushRetest shutdown =>
      cases h
      split at hp <;> cases shutdown <;> cases hp
  | _ =>
      cases h
      first
        | cases hp
        | split at hp <;> cases hp

-- poll_write returns Pending on its second test of a full buffer, poll_flush and poll_shutdown on
-- their second test of a non-empty one.
theorem pollStep_sendPending (hs : pc.Sane) (h : c.pollStep pc = some (c', events, pc'))
    (hp : pc'.sendPending = true) : pc.sendArmed = true ∧ c.sendBuffer.isEmpty = false := by
  cases pc with
  | returned last => cases h
  | writeRetest buf =>
      cases h
      split at hp
      · next hf => exact ⟨rfl, TcpRingBuffer.not_empty_of_full hf⟩
      · cases hp
  | flushRetest shutdown =>
      cases h
      split at hp
      · cases shutdown <;> cases hp
      · next he => exact ⟨rfl, eq_false_of_ne_true he⟩
  | swapEvent kind next =>
      cases h
      split at hp
      · rw [(PollPc.not_pending_of_followsEvent hs).2] at hp
        cases hp
      · cases hp
  | sendEvent kind next =>
      cases h
      rw [(PollPc.not_pending_of_followsEvent hs).2] at hp
      cases hp
  | flushTest shutdown =>
      cases h
      split at hp
      · cases shutdown <;> cases hp
      · cases hp
  | _ =>
      cases h
      first
        | cases hp
        | split at hp <;> cases hp

theorem pollStep_unwritten (hs : pc.Sane) (h : c.pollStep pc = some (c', events, pc'))
    {buf : List UInt8} (hb : pc'.unwritten c' = some buf) :
    pc.unwritten c = some buf ∨ (pc = .loadWriteClosed buf ∧ c.writeClosed = false) := by
  cases pc with
  | returned last => cases h
  | loadWriteClosed bytes =>
      cases h
      cases hc : c.writeClosed with
      | true => simp [hc, PollPc.unwritten] at hb
      | false =>
          have heq : bytes = buf := by
            simp only [hc, Bool.false_eq_true, if_false, PollPc.unwritten] at hb
            split at hb
            · cases hb
            · exact Option.some.inj hb
          exact .inr ⟨heq ▸ rfl, rfl⟩
  | loadWriteShutdown bytes =>
      cases h
      cases hc : c.writeShutdown with
      | true => simp [hc, PollPc.unwritten] at hb
      | false =>
          left
          simpa [PollPc.unwritten, hc] using hb
  | writeTest bytes =>
      cases h
      left
      split at hb <;> exact hb
  | writeRegister bytes =>
      cases h
      exact .inl hb
  | writeRetest bytes =>
      cases h
      left
      split at hb
      · cases hb
      · exact hb
  | loadWasEmpty bytes =>
      cases h
      exact .inl hb
  | swapEvent kind next =>
      cases h
      split at hb
      · rw [PollPc.unwritten_of_followsEvent hs] at hb
        cases hb
      · cases hb
  | sendEvent kind next =>
      cases h
      rw [PollPc.unwritten_of_followsEvent hs] at hb
      cases hb
  | flushTest shutdown =>
      cases h
      split at hb
      · cases shutdown <;> cases hb
      · cases hb
  | flushRetest shutdown =>
      cases h
      split at hb <;> cases shutdown <;> cases hb
  | _ =>
      cases h
      first
        | cases hb
        | split at hb <;> cases hb

structure StageFrom (pc pc' : PollPc) : Prop where
  readStage : pc'.readStage = true → pc.readStage = true
  sendStage : pc'.sendStage = true → pc.sendStage = true
  readArmed : pc'.readArmed = true → pc.readArmed = true ∨ pc.registersRecv = true
  sendArmed : pc'.sendArmed = true → pc.registersSend = true

theorem stageFrom_done {pc' : PollPc} (pc : PollPc) (hr : pc'.readStage = false)
    (hs : pc'.sendStage = false) (hra : pc'.readArmed = false) (hsa : pc'.sendArmed = false) :
    StageFrom pc pc' := by
  constructor <;> intro h
  · rw [hr] at h; cases h
  · rw [hs] at h; cases h
  · rw [hra] at h; cases h
  · rw [hsa] at h; cases h

theorem stageFrom_returned (pc : PollPc) (last : Option PollReturn) :
    StageFrom pc (.returned last) := stageFrom_done pc rfl rfl rfl rfl

theorem stageFrom_flushed (pc : PollPc) (shutdown : Bool) : StageFrom pc (.flushed shutdown) := by
  cases shutdown <;> exact stageFrom_done pc rfl rfl rfl rfl

theorem pollStep_stage (hs : pc.Sane) (h : c.pollStep pc = some (c', events, pc')) :
    StageFrom pc pc' := by
  cases pc with
  | returned last => cases h
  | swapEvent kind next =>
      cases h
      rcases PollPc.followsEvent_cases hs with ⟨_, shutdown, rfl⟩ | ⟨last, rfl, _⟩
      · split <;> exact ⟨id, id, .inl, nofun⟩
      · split
        · exact stageFrom_returned _ _
        · exact stageFrom_done _ rfl rfl rfl rfl
  | sendEvent kind next =>
      cases h
      rcases PollPc.followsEvent_cases hs with ⟨_, shutdown, rfl⟩ | ⟨last, rfl, _⟩
      · exact ⟨id, id, .inl, nofun⟩
      · exact stageFrom_returned _ _
  | flushTest shutdown =>
      cases h
      split
      · exact stageFrom_flushed _ shutdown
      · exact ⟨nofun, fun _ => rfl, nofun, nofun⟩
  | flushRetest shutdown =>
      cases h
      split
      · exact stageFrom_flushed _ shutdown
      · exact stageFrom_returned _ _
  | readTest n =>
      cases h
      split
      · exact ⟨fun _ => rfl, nofun, nofun, nofun⟩
      · exact stageFrom_done _ rfl rfl rfl rfl
  | readRegister n =>
      cases h
      exact ⟨fun _ => rfl, nofun, fun _ => .inr rfl, nofun⟩
  | readRetest n =>
      cases h
      split
      · exact ⟨fun _ => rfl, nofun, fun _ => .inl rfl, nofun⟩
      · exact stageFrom_done _ rfl rfl rfl rfl
  | loadSocketClosed n =>
      cases h
      split
      · exact stageFrom_returned _ _
      · exact ⟨fun _ => rfl, nofun, fun _ => .inl rfl, nofun⟩
  | loadWriteClosed buf =>
      cases h
      split
      · exact stageFrom_returned _ _
      · exact ⟨nofun, fun _ => rfl, nofun, nofun⟩
  | loadWriteShutdown buf =>
      cases h
      split
      · exact stageFrom_returned _ _
      · exact ⟨nofun, fun _ => rfl, nofun, nofun⟩
  | writeTest buf =>
      cases h
      split
      · exact ⟨nofun, fun _ => rfl, nofun, nofun⟩
      · exact stageFrom_done _ rfl rfl rfl rfl
  | writeRegister buf =>
      cases h
      exact ⟨nofun, fun _ => rfl, nofun, fun _ => rfl⟩
  | flushRegister shutdown =>
      cases h
      exact ⟨nofun, fun _ => rfl, nofun, fun _ => rfl⟩
  | _ =>
      cases h
      first
        | exact stageFrom_done _ rfl rfl rfl rfl
        | split <;> exact stageFrom_done _ rfl rfl rfl rfl

theorem register_stage (pc : PollPc) :
    (pc.registersRecv = true → pc.readStage = true) ∧
      (pc.registersSend = true → pc.sendStage = true) := by
  cases pc with
  | readRegister n => exact ⟨fun _ => rfl, nofun⟩
  | writeRegister buf => exact ⟨nofun, fun _ => rfl⟩
  | flushRegister shutdown => exact ⟨nofun, fun _ => rfl⟩
  | _ => exact ⟨nofun, nofun⟩

end SocketStreamHandle

structure SweepPc.Stored (pc : SweepPc) (c : SocketStreamHandle) : Prop where
  socketClosed : 2 ≤ pc.retireLevel → c.socketClosed = true
  readClosed : 3 ≤ pc.retireLevel → c.readClosed = true
  writeClosed : 4 ≤ pc.retireLevel → c.writeClosed = true

theorem SweepPc.Stored.flags {pc : SweepPc} {c c' : SocketStreamHandle} (h : pc.Stored c)
    (hf : FlagsKept c c') : pc.Stored c' :=
  ⟨hf.socketClosed ∘ h.socketClosed, hf.readClosed ∘ h.readClosed, hf.writeClosed ∘ h.writeClosed⟩

theorem stored_worked {w w' : ManagedSocket} (h : w.pc.Stored w.stream) (hw : w.Worked w') :
    w'.pc.Stored w'.stream := by
  have hf := touch_flags w.pc w.stream
  obtain ⟨h₁, h₂, h₃, -⟩ := touch_retire w.pc w.stream
  have hl := hw.retireLevel.2
  rw [hw.stream]
  constructor
  · intro hk
    rcases Nat.lt_or_ge w.pc.retireLevel 2 with hlt | hge
    · rw [h₁ (by omega)]
    · exact hf.socketClosed (h.socketClosed hge)
  · intro hk
    rcases Nat.lt_or_ge w.pc.retireLevel 3 with hlt | hge
    · rw [h₂ (by omega)]
    · exact hf.readClosed (h.readClosed hge)
  · intro hk
    rcases Nat.lt_or_ge w.pc.retireLevel 4 with hlt | hge
    · rw [h₃ (by omega)]
    · exact hf.writeClosed (h.writeClosed hge)

theorem touch_retired (pc : SweepPc) (c : SocketStreamHandle) (h : 3 ≤ pc.retireLevel) :
    (pc.touch c).sendBuffer = c.sendBuffer ∧ (pc.touch c).writeShutdown = c.writeShutdown := by
  cases pc <;> first | exact ⟨rfl, rfl⟩ | simp [SweepPc.retireLevel] at h

theorem retireWriteClosed_of_level {pc : SweepPc} (h : pc.retireLevel = 3) :
    pc = .retireWriteClosed := by
  cases pc <;> first | rfl | simp [SweepPc.retireLevel] at h

theorem unwritten_congr {c c' : SocketStreamHandle} (h : c'.writeShutdown = c.writeShutdown)
    (pc : PollPc) : pc.unwritten c' = pc.unwritten c := by
  cases pc <;> first | rfl | simp only [PollPc.unwritten, h]

namespace StreamRun

variable {s : StreamRun}

-- Nothing is left to send and no poll_write is past its loads with bytes to enqueue.
def emptied (s : StreamRun) : Bool :=
  s.stream.sendBuffer.isEmpty && (s.poll.unwritten s.stream).all List.isEmpty

theorem emptied_begun {op : ClientOp} {pc : PollPc} (hop : PollPc.start op = some pc)
    (he : s.emptied = true) : (s.begun op pc).emptied = true := by
  have hnone : pc.unwritten s.stream = none := by
    cases op <;> cases hop <;> rfl
  simp only [emptied, Bool.and_eq_true] at he ⊢
  refine ⟨he.1, ?_⟩
  show (pc.unwritten s.stream).all List.isEmpty = true
  rw [hnone]
  rfl

theorem emptied_polled {c : SocketStreamHandle} {events : List SocketEventKind} {pc : PollPc}
    (hsane : s.poll.Sane) (hw : s.stream.writeClosed = true)
    (hs : s.stream.pollStep s.poll = some (c, events, pc)) (he : s.emptied = true) :
    (s.polled c events pc).emptied = true := by
  simp only [emptied, Bool.and_eq_true, Option.all_eq_true] at he ⊢
  constructor
  · rcases SocketStreamHandle.pollStep_sendBuffer hs with hb | ⟨buf, wasEmpty, hp, hb⟩
    · exact hb ▸ he.1
    · have hnil := he.2 buf (by rw [hp]; rfl)
      show c.sendBuffer.isEmpty = true
      rw [hb, List.isEmpty_iff.mp hnil]
      simpa [TcpRingBuffer.enqueueSlice] using he.1
  · intro buf hb
    rcases SocketStreamHandle.pollStep_unwritten hsane hs hb with hu | ⟨_, hno⟩
    · exact he.2 buf hu
    · rw [hw] at hno
      cases hno

theorem emptied_served {w : ManagedSocket} (hw : s.socket.Worked w)
    (hl : 3 ≤ s.socket.pc.retireLevel) (he : s.emptied = true) : (s.served w).emptied = true := by
  obtain ⟨hb, hs⟩ := touch_retired s.socket.pc s.socket.stream hl
  rw [← hw.stream] at hb hs
  simp only [emptied, served, stream, hb, unwritten_congr hs] at he ⊢
  exact he

end StreamRun

end Usque
