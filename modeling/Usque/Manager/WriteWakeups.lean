import Usque.Manager.PollStages

namespace Usque

namespace PollPc

def inWrite : PollPc → Bool
  | .loadWriteClosed _ | .loadWriteShutdown _ | .writeTest _ | .writeRegister _ | .writeRetest _ =>
      true
  | .loadWasEmpty _ | .writeEnqueue _ _ => true
  | .swapEvent .writeReady (.returned _) | .sendEvent .writeReady (.returned _) => true
  | _ => false

-- poll_write is about to notify of the bytes it has enqueued.
def announcing : PollPc → Bool
  | .swapEvent .writeReady (.returned _) | .sendEvent .writeReady (.returned _) => true
  | _ => false

-- poll_write found the buffer non-empty and is about to enqueue bytes without notifying.
def unannounced : PollPc → Bool
  | .writeEnqueue (_ :: _) false => true
  | _ => false

def sendsWrite : PollPc → Bool
  | .sendEvent .writeReady _ => true
  | _ => false

end PollPc

namespace SweepPc

def beforeTake : SweepPc → Bool
  | .isActive _ | .takeEvents _ => true
  | _ => false

-- The WRITE bit is taken and its flag not yet cleared.
def takenWrite : SweepPc → Bool
  | .clearRead mask | .clearWrite mask => mask.write
  | _ => false

def willFlush : SweepPc → Bool
  | .clearRead mask | .clearWrite mask | .clearClosed mask => mask.write
  | .loadDropped mask | .loadShutdown mask => mask.write
  | .flushHead _ | .flushPeek _ | .flushSend _ _ | .flushConsume _ _ _ | .flushWake _ _ => true
  | _ => false

def peeks : SweepPc → Bool
  | .flushPeek _ => true
  | _ => false

def inSweep : SweepPc → Bool
  | .resting | .closeStore | .closeWake | .closeSwap | .closeSend | .retired => false
  | _ => true

end SweepPc

namespace ManagedSocket

variable {w w' : ManagedSocket}

def Pending (w : ManagedSocket) : Prop :=
  w.side.pendingEvents.write = true → w.ready = true ∨ w.pc.beforeTake = true ∨
    1 ≤ w.pc.retireLevel

def Owed (w : ManagedSocket) : Prop :=
  .writeReady ∈ w.events ∨ w.side.pendingEvents.write = true ∨ w.refused = true ∨
    w.pc.willFlush = true

def Queued (w : ManagedSocket) : Prop :=
  .writeReady ∈ w.events ∨ w.side.pendingEvents.write = true ∨ w.pc.takenWrite = true

def drains (w : ManagedSocket) : Bool :=
  w.pc.peeks && (w.stream.sendBuffer.peekCopy w.tcpChunkSize).isEmpty

theorem goPeek_keeps (w : ManagedSocket) (mask : EventMask) :
    (w.goPeek mask).side = w.side ∧ (w.goPeek mask).ready = w.ready ∧
      (w.goPeek mask).events = w.events := by
  simp only [goPeek]
  split <;> exact ⟨rfl, rfl, rfl⟩

theorem goSend_keeps (w : ManagedSocket) (mask : EventMask) (chunk : List UInt8)
    (result : Except StackError Nat) :
    (w.goSend mask chunk result).side = w.side ∧ (w.goSend mask chunk result).ready = w.ready ∧
      (w.goSend mask chunk result).events = w.events := by
  cases result with
  | error e => exact ⟨rfl, rfl, rfl⟩
  | ok sent =>
      simp only [goSend]
      split <;> exact ⟨rfl, rfl, rfl⟩

theorem owed_keep (ho : w.Owed) (he : w'.events = w.events)
    (hside : w'.side.pendingEvents = w.side.pendingEvents) (hr : w'.refused = w.refused)
    (hw : w.pc.willFlush = true → w'.pc.willFlush = true) : w'.Owed := by
  rcases ho with h | h | h | h
  · exact .inl (he ▸ h)
  · exact .inr (.inl (hside ▸ h))
  · exact .inr (.inr (.inl (hr ▸ h)))
  · exact .inr (.inr (.inr (hw h)))

theorem owed_refused (h : w'.refused = true) : w'.Owed := .inr (.inr (.inl h))

theorem owed_flushes (h : w'.pc.willFlush = true) : w'.Owed := .inr (.inr (.inr h))

theorem owed_take (ho : w.Owed) (fullSweep : Bool) (hp : w.pc = .takeEvents fullSweep) :
    (w.goTake fullSweep).Owed := by
  rcases ho with h | h | h | h
  · exact .inl h
  · refine owed_flushes ?_
    cases fullSweep with
    | true => rfl
    | false => exact h
  · exact owed_refused h
  · rw [hp] at h
    cases h

theorem owed_loadShutdown (ho : w.Owed) (mask : EventMask) (hp : w.pc = .loadShutdown mask) :
    (w.goLoadShutdown mask).Owed := by
  refine owed_keep ho rfl rfl rfl (fun hw => ?_)
  rw [hp] at hw
  simp only [goLoadShutdown, SocketSide.afterLoads]
  rw [if_pos (by simp [show mask.write = true from hw])]
  rfl

theorem owed_peek (mask : EventMask) (hp : w.pc = .flushPeek mask) (hd : w.drains = false) :
    (w.goPeek mask).Owed := by
  simp only [drains, hp, SweepPc.peeks, Bool.true_and] at hd
  simp only [goPeek, hd, Bool.false_eq_true, if_false]
  exact owed_flushes rfl

theorem owed_send (mask : EventMask) (chunk : List UInt8) (result : Except StackError Nat) :
    (w.goSend mask chunk result).Owed := by
  cases result with
  | error e => exact owed_refused rfl
  | ok sent =>
      simp only [goSend]
      split
      · exact owed_refused rfl
      · exact owed_flushes rfl

theorem go_owed {reply : StackReply} (h : w.go reply = some w') (ho : w.Owed)
    (hl : w'.pc.retireLevel = 0) (hd : w.drains = false) : w'.Owed := by
  cases hp : w.pc <;> cases reply <;> simp only [go, hp, reduceCtorEq] at h <;> cases h
  case takeEvents fullSweep => exact owed_take ho fullSweep hp
  case loadShutdown mask => exact owed_loadShutdown ho mask hp
  case flushHead mask maySend =>
    cases maySend with
    | true => exact owed_flushes rfl
    | false => exact owed_refused rfl
  case flushPeek mask => exact owed_peek mask hp hd
  case flushSend mask chunk result => exact owed_send mask chunk result
  case flushConsume => exact owed_flushes rfl
  case flushWake mask stop =>
    cases stop with
    | true => exact owed_refused rfl
    | false => exact owed_flushes rfl
  case fillRecv readLen result =>
    cases result <;> exact owed_keep ho rfl rfl rfl (fun hw => by rw [hp] at hw; cases hw)
  case closeSend =>
    rcases ho with h | h | h | h
    · exact .inl (List.mem_append_left _ h)
    · exact .inr (.inl h)
    · exact owed_refused h
    · rw [hp] at h
      cases h
  case clearRead | clearWrite | clearClosed | loadDropped =>
    exact owed_keep ho rfl rfl rfl (fun hw => by rw [hp] at hw; exact hw)
  all_goals exact owed_keep ho rfl rfl rfl (fun hw => by rw [hp] at hw; cases hw)

theorem worked_owed (h : Worked w w') (ho : w.Owed) (hl : w'.pc.retireLevel = 0)
    (hd : w.drains = false) : w'.Owed := by
  cases h with
  | go h => exact go_owed h ho hl hd
  | @received kind events hp he =>
      rcases ho with h | h | h | h
      · rw [he] at h
        rcases List.mem_cons.mp h with hk | h
        · right; left
          simp [receive, SocketSide.noteEvent, ← hk, SocketEventKind.bit, EventMask.socketEventWrite]
        · exact .inl h
      · right; left
        simp [receive, SocketSide.noteEvent, h]
      · exact owed_refused h
      · rw [hp] at h
        cases h
  | marked hp => exact .inr (.inl (by simp [markIncoming, SocketSide.mark]))
  | closing hp => exact owed_keep ho rfl rfl rfl (fun hw => by rw [hp] at hw; cases hw)
  | sweeping hp _ => exact owed_keep ho rfl rfl rfl (fun hw => by rw [hp] at hw; cases hw)
  | discarded hp _ =>
      have hl : w.pc.retireLevel = 0 := hl
      rw [hp] at hl
      cases hl

theorem Queued.owed (h : w.Queued) : w.Owed := by
  rcases h with h | h | h
  · exact .inl h
  · exact .inr (.inl h)
  · refine owed_flushes ?_
    cases hp : w.pc with
    | clearRead mask | clearWrite mask =>
        rw [hp] at h
        exact h
    | _ =>
        rw [hp] at h
        cases h

theorem queued_keep (hq : w.Queued) (he : w'.events = w.events)
    (hside : w'.side.pendingEvents = w.side.pendingEvents)
    (ht : w.pc.takenWrite = true → w'.pc.takenWrite = true) : w'.Queued := by
  rcases hq with h | h | h
  · exact .inl (he ▸ h)
  · exact .inr (.inl (hside ▸ h))
  · exact .inr (.inr (ht h))

theorem touch_writeEventQueued (pc : SweepPc) (c : SocketStreamHandle)
    (h : (pc.touch c).writeEventQueued = true) :
    c.writeEventQueued = true ∧ ∀ mask, pc = .clearWrite mask → mask.write = false := by
  cases pc with
  | clearWrite mask =>
      cases hm : mask.write with
      | true =>
          simp only [SweepPc.touch, hm, if_true] at h
          cases h
      | false =>
          simp only [SweepPc.touch, hm, Bool.false_eq_true, if_false] at h
          exact ⟨h, fun _ he => by cases he; exact hm⟩
  | clearRead mask | clearClosed mask =>
      simp only [SweepPc.touch] at h
      split at h <;> exact ⟨h, by simp⟩
  | _ => exact ⟨h, by simp⟩

theorem go_queued {reply : StackReply} (h : w.go reply = some w') (hq : w.Queued)
    (hc : ∀ mask, w.pc = .clearWrite mask → mask.write = false)
    (hl : w'.pc.retireLevel = 0) : w'.Queued := by
  cases hp : w.pc <;> cases reply <;> simp only [go, hp, reduceCtorEq] at h <;> cases h
  case takeEvents fullSweep =>
    rcases hq with h | h | h
    · exact .inl h
    · refine .inr (.inr ?_)
      cases fullSweep with
      | true => rfl
      | false => exact h
    · rw [hp] at h
      cases h
  case clearRead mask => exact queued_keep hq rfl rfl (fun ht => by rw [hp] at ht; exact ht)
  case clearWrite mask =>
    refine queued_keep hq rfl rfl (fun ht => ?_)
    rw [hp] at ht
    have hno := hc mask hp
    rw [show mask.write = true from ht] at hno
    cases hno
  case closeSend =>
    rcases hq with h | h | h
    · exact .inl (List.mem_append_left _ h)
    · exact .inr (.inl h)
    · rw [hp] at h
      cases h
  case flushPeek mask =>
    obtain ⟨hside, _, hevents⟩ := w.goPeek_keeps mask
    exact queued_keep hq hevents (congrArg _ hside) (fun ht => by rw [hp] at ht; cases ht)
  case flushSend mask chunk result =>
    obtain ⟨hside, _, hevents⟩ := w.goSend_keeps mask chunk result
    exact queued_keep hq hevents (congrArg _ hside) (fun ht => by rw [hp] at ht; cases ht)
  case flushHead mask b | flushWake mask b =>
    cases b <;> exact queued_keep hq rfl rfl (fun ht => by rw [hp] at ht; cases ht)
  case fillRecv readLen result =>
    cases result <;> exact queued_keep hq rfl rfl (fun ht => by rw [hp] at ht; cases ht)
  all_goals exact queued_keep hq rfl rfl (fun ht => by rw [hp] at ht; cases ht)

theorem worked_queued (h : Worked w w') (hl : w'.pc.retireLevel = 0) (hq : w.Queued)
    (hf : w'.stream.writeEventQueued = true) : w'.Queued := by
  rw [h.stream] at hf
  cases h with
  | go h => exact go_queued h hq (touch_writeEventQueued _ _ hf).2 hl
  | @received kind events hp he =>
      rcases hq with h | h | h
      · rw [he] at h
        rcases List.mem_cons.mp h with hk | h
        · right; left
          simp [receive, SocketSide.noteEvent, ← hk, SocketEventKind.bit,
            EventMask.socketEventWrite]
        · exact .inl h
      · right; left
        simp [receive, SocketSide.noteEvent, h]
      · rw [hp] at h
        cases h
  | marked hp => exact .inr (.inl (by simp [markIncoming, SocketSide.mark]))
  | closing hp => exact queued_keep hq rfl rfl (fun ht => by rw [hp] at ht; cases ht)
  | sweeping hp _ => exact queued_keep hq rfl rfl (fun ht => by rw [hp] at ht; cases ht)
  | discarded hp _ =>
      have hl : w.pc.retireLevel = 0 := hl
      rw [hp] at hl
      cases hl

theorem pending_keep (hw : w.Pending) (hside : w'.side.pendingEvents = w.side.pendingEvents)
    (hready : w'.ready = w.ready) (hb : w.pc.beforeTake = false)
    (hl : w.pc.retireLevel ≤ w'.pc.retireLevel) : w'.Pending := by
  intro h
  rcases hw (hside ▸ h) with hr | ht | hk
  · exact .inl (hready ▸ hr)
  · rw [hb] at ht
    cases ht
  · exact .inr (.inr (Nat.le_trans hk hl))

theorem go_pending {reply : StackReply} (h : w.go reply = some w') (hw : w.Pending) :
    w'.Pending := by
  have hl := (go_retireLevel h).1
  cases hp : w.pc <;> cases reply <;> simp only [go, hp, reduceCtorEq] at h <;> cases h
  case isActive fullSweep active =>
    cases active with
    | true => exact fun _ => .inr (.inl rfl)
    | false => exact fun _ => .inr (.inr (Nat.le_refl 1))
  case takeEvents =>
    intro hk
    cases hk
  case retireSocketClosed => exact fun _ => .inr (.inr (by decide : 1 ≤ 2))
  case flushPeek mask =>
    obtain ⟨hside, hready, _⟩ := w.goPeek_keeps mask
    exact pending_keep hw (congrArg _ hside) hready (by rw [hp]; rfl) hl
  case flushSend mask chunk result =>
    obtain ⟨hside, hready, _⟩ := w.goSend_keeps mask chunk result
    exact pending_keep hw (congrArg _ hside) hready (by rw [hp]; rfl) hl
  case flushHead mask b | flushWake mask b =>
    cases b <;> exact pending_keep hw rfl rfl (by rw [hp]; rfl) hl
  case fillRecv readLen result =>
    cases result <;> exact pending_keep hw rfl rfl (by rw [hp]; rfl) hl
  all_goals exact pending_keep hw rfl rfl (by rw [hp]; rfl) hl

theorem worked_pending (h : Worked w w') (hw : w.Pending) : w'.Pending := by
  cases h with
  | go h => exact go_pending h hw
  | received => exact fun _ => .inl rfl
  | marked => exact fun _ => .inl rfl
  | closing hp => exact pending_keep hw rfl rfl (by rw [hp]; rfl) (by rw [hp]; exact Nat.zero_le _)
  | sweeping => exact fun _ => .inr (.inl rfl)
  | discarded hp => exact pending_keep hw rfl rfl (by rw [hp]; rfl) (Nat.le_refl _)

end ManagedSocket

namespace SocketStreamHandle

variable {c c' : SocketStreamHandle} {events : List SocketEventKind} {pc pc' : PollPc}

theorem pollStep_writeEventQueued (h : c.pollStep pc = some (c', events, pc')) :
    (∃ next, pc = .swapEvent .writeReady next) ∨ c'.writeEventQueued = c.writeEventQueued := by
  cases pc with
  | returned last => cases h
  | swapEvent kind next =>
      cases kind with
      | writeReady => exact .inl ⟨next, rfl⟩
      | readReady | closed => cases h; exact .inr rfl
  | _ => cases h; exact .inr rfl

theorem unannounced_of_follows {kind : SocketEventKind} {next : PollPc}
    (h : PollPc.followsEvent kind next = true) : next.unannounced = false := by
  rcases PollPc.followsEvent_cases h with ⟨_, shutdown, rfl⟩ | ⟨last, rfl, _⟩ <;> rfl

theorem enqueueSlice_none {rb : TcpRingBuffer} {data : List UInt8}
    (h : (rb.enqueueSlice data).1 = 0) : (rb.enqueueSlice data).2 = rb := by
  rw [TcpRingBuffer.enqueueSlice_fst] at h
  simp only [TcpRingBuffer.enqueueSlice, h, if_true]

-- poll_write is the only call that enqueues, and it announces what it put in an empty buffer.
theorem pollStep_enqueued {buf : List UInt8} {wasEmpty : Bool}
    (h : c.pollStep (.writeEnqueue buf wasEmpty) = some (c', events, pc')) :
    c'.sendBuffer = c.sendBuffer ∨ (PollPc.writeEnqueue buf wasEmpty).unannounced = true ∨
      pc'.announcing = true := by
  simp only [pollStep, Option.some.injEq, Prod.mk.injEq] at h
  obtain ⟨rfl, -, rfl⟩ := h
  by_cases hn : (c.sendBuffer.enqueueSlice buf).1 = 0
  · exact .inl (enqueueSlice_none hn)
  · right
    cases wasEmpty with
    | true =>
        right
        rw [if_pos (by simpa using Nat.pos_of_ne_zero hn)]
        rfl
    | false =>
        left
        cases buf with
        | nil => simp [TcpRingBuffer.enqueueSlice_fst] at hn
        | cons b bytes => rfl

theorem pollStep_unannounced (hs : pc.Sane) (h : c.pollStep pc = some (c', events, pc'))
    (hu : pc'.unannounced = true) : c.sendBuffer.isEmpty = false := by
  cases pc with
  | returned last => cases h
  | loadWasEmpty buf =>
      cases h
      cases he : c.sendBuffer.isEmpty with
      | false => rfl
      | true =>
          rw [he] at hu
          cases buf <;> cases hu
  | swapEvent kind next =>
      cases h
      split at hu
      · rw [unannounced_of_follows hs] at hu
        cases hu
      · cases hu
  | sendEvent kind next =>
      cases h
      rw [unannounced_of_follows hs] at hu
      cases hu
  | flushTest shutdown | flushRetest shutdown =>
      cases h
      split at hu <;> cases shutdown <;> cases hu
  | readTest | readRetest | loadSocketClosed | loadWriteClosed | loadWriteShutdown | writeTest
  | writeRetest | swapShutdown | writeEnqueue | readDequeue =>
      cases h
      split at hu <;> cases hu
  | _ =>
      cases h
      cases hu

end SocketStreamHandle

namespace StreamRun

-- A flush offers at least one byte and does not find the buffer empty while a poll_write that found
-- it non-empty is about to enqueue; a removal leaves nothing to send.
def KeepsWakeups (s : StreamRun) (label : StreamLabel) : Prop :=
  match label with
  | .manager _ =>
      (s.socket.pc.peeks = true → 0 < s.socket.tcpChunkSize ∧
        (s.stream.sendBuffer.isEmpty = true → s.poll.unannounced = false)) ∧
      (s.socket.pc = .retireWriteClosed → s.emptied = true)
  | _ => True

def toSend (s : StreamRun) : Bool :=
  !s.stream.sendBuffer.isEmpty || s.poll.unannounced

structure Wakes (s : StreamRun) : Prop where
  sane : s.poll.Sane
  stored : s.socket.pc.Stored s.stream
  emptied : 4 ≤ s.socket.pc.retireLevel → s.emptied = true
  pending : s.socket.Pending
  queued : s.socket.pc.retireLevel = 0 → s.stream.writeEventQueued = true →
    s.socket.Queued ∨ s.poll.sendsWrite = true
  owed : s.socket.pc.retireLevel = 0 → s.toSend = true → s.socket.Owed ∨ s.poll.announcing = true

variable {s t : StreamRun}

theorem Starts.wakes (h : Starts s) : Wakes s := by
  obtain ⟨handle, sendCapacity, recvCapacity, socketNotifier, tcpChunkSize, rfl⟩ := h
  constructor
  · trivial
  · constructor <;> intro hk <;> simp [init, SweepPc.retireLevel] at hk
  · intro hk
    simp [init, SweepPc.retireLevel] at hk
  · rintro ⟨⟩
  · rintro - ⟨⟩
  · intro _ ht
    have hempty : (TcpRingBuffer.new (sendCapacity + 1)).isEmpty = true :=
      (TcpRingBuffer.isEmpty_iff _).mpr (TcpRingBuffer.len_new _)
    simp [toSend, init, stream, SocketStreamHandle.new, hempty, PollPc.unannounced] at ht

theorem Wakes.begun (h : Wakes s) {op : ClientOp} {pc : PollPc} {last : Option PollReturn}
    (hp : s.poll = .returned last) (hop : PollPc.start op = some pc) : Wakes (s.begun op pc) := by
  have hquiet : pc.unannounced = false := by
    cases op <;> cases hop <;> rfl
  constructor
  · exact PollPc.sane_start hop
  · exact h.stored
  · exact fun hk => emptied_begun hop (h.emptied hk)
  · exact h.pending
  · intro hk hf
    left
    refine (h.queued hk hf).resolve_right ?_
    rw [hp]
    nofun
  · intro hk ht
    left
    refine (h.owed hk ?_).resolve_right ?_
    · simp only [toSend, show (s.begun op pc).poll = pc from rfl, hquiet, Bool.or_false] at ht
      simp only [toSend, Bool.or_eq_true]
      exact .inl ht
    · rw [hp]
      nofun

section polled

variable {c : SocketStreamHandle} {events : List SocketEventKind} {pc : PollPc}

theorem owed_polled (h : s.socket.Owed) : (s.polled c events pc).socket.Owed := by
  rcases h with h | h | h | h
  · exact .inl (List.mem_append_left _ h)
  · exact .inr (.inl h)
  · exact .inr (.inr (.inl h))
  · exact .inr (.inr (.inr h))

theorem queued_polled (h : s.socket.Queued) : (s.polled c events pc).socket.Queued := by
  rcases h with h | h | h
  · exact .inl (List.mem_append_left _ h)
  · exact .inr (.inl h)
  · exact .inr (.inr h)

theorem Wakes.queued_polled (h : Wakes s) (hs : s.stream.pollStep s.poll = some (c, events, pc))
    (hk : s.socket.pc.retireLevel = 0) (hf : c.writeEventQueued = true) :
    (s.polled c events pc).socket.Queued ∨ pc.sendsWrite = true := by
  by_cases hsend : s.poll.sendsWrite = true
  · left; left
    cases hp : s.poll with
    | sendEvent kind next =>
        rw [hp] at hs hsend
        cases kind with
        | writeReady =>
            cases hs
            exact List.mem_append_right _ (List.mem_singleton.mpr rfl)
        | readReady | closed => cases hsend
    | _ =>
        rw [hp] at hsend
        cases hsend
  · rcases SocketStreamHandle.pollStep_writeEventQueued hs with ⟨next, hp⟩ | hsame
    · rw [hp] at hs
      cases hq : s.stream.writeEventQueued with
      | true => exact .inl (StreamRun.queued_polled ((h.queued hk hq).resolve_right hsend))
      | false =>
          right
          simp only [SocketStreamHandle.pollStep, SocketStreamHandle.eventQueued, hq,
            Bool.false_eq_true, if_false, Option.some.injEq, Prod.mk.injEq] at hs
          rw [← hs.2.2]
          rfl
    · rw [hsame] at hf
      exact .inl (StreamRun.queued_polled ((h.queued hk hf).resolve_right hsend))

theorem Wakes.announced_polled (h : Wakes s)
    (hs : s.stream.pollStep s.poll = some (c, events, pc)) (hk : s.socket.pc.retireLevel = 0)
    (ha : s.poll.announcing = true) : (s.polled c events pc).socket.Owed ∨ pc.announcing = true := by
  cases hp : s.poll with
  | swapEvent kind next =>
      rw [hp] at hs ha
      cases kind with
      | writeReady =>
          cases next with
          | returned last =>
              cases hq : s.stream.writeEventQueued with
              | true =>
                  refine .inl (StreamRun.owed_polled ?_)
                  refine ((h.queued hk hq).resolve_right ?_).owed
                  rw [hp]
                  nofun
              | false =>
                  right
                  simp only [SocketStreamHandle.pollStep, SocketStreamHandle.eventQueued, hq,
                    Bool.false_eq_true, if_false, Option.some.injEq, Prod.mk.injEq] at hs
                  rw [← hs.2.2]
                  rfl
          | _ => cases ha
      | readReady | closed => cases ha
  | sendEvent kind next =>
      rw [hp] at hs ha
      cases kind with
      | writeReady =>
          cases hs
          exact .inl (.inl (List.mem_append_right _ (List.mem_singleton.mpr rfl)))
      | readReady | closed => cases ha
  | _ =>
      rw [hp] at ha
      cases ha

theorem Wakes.owed_polled (h : Wakes s) (hs : s.stream.pollStep s.poll = some (c, events, pc))
    (hk : s.socket.pc.retireLevel = 0) (ht : (s.polled c events pc).toSend = true) :
    (s.polled c events pc).socket.Owed ∨ pc.announcing = true := by
  by_cases ha : s.poll.announcing = true
  · exact h.announced_polled hs hk ha
  · by_cases hold : s.toSend = true
    · exact .inl (StreamRun.owed_polled ((h.owed hk hold).resolve_right ha))
    · right
      have hold := eq_false_of_ne_true hold
      simp only [toSend, Bool.or_eq_false_iff, Bool.not_eq_false'] at hold
      have hbuf : c.sendBuffer.isEmpty = false := by
        refine eq_false_of_ne_true (fun he => ?_)
        simp only [toSend, polled, stream, he, Bool.not_true, Bool.false_or] at ht
        rw [SocketStreamHandle.pollStep_unannounced h.sane hs ht] at hold
        cases hold.1
      rcases SocketStreamHandle.pollStep_sendBuffer hs with hsame | ⟨buf, wasEmpty, hp, _⟩
      · rw [hsame, hold.1] at hbuf
        cases hbuf
      · rw [hp] at hs hold
        rcases SocketStreamHandle.pollStep_enqueued hs with hsame | hu | hann
        · rw [hsame, hold.1] at hbuf
          cases hbuf
        · rw [hold.2] at hu
          cases hu
        · exact hann

theorem Wakes.polled (h : Wakes s) (hs : s.stream.pollStep s.poll = some (c, events, pc)) :
    Wakes (s.polled c events pc) := by
  constructor
  · exact SocketStreamHandle.pollStep_sane h.sane hs
  · exact h.stored.flags (pollStep_flags hs)
  · exact fun hk => emptied_polled h.sane (h.stored.writeClosed hk) hs (h.emptied hk)
  · exact h.pending
  · exact h.queued_polled hs
  · exact h.owed_polled hs

end polled

theorem touch_sendBuffer (pc : SweepPc) (c : SocketStreamHandle)
    (h : (pc.touch c).sendBuffer.isEmpty = false) : c.sendBuffer.isEmpty = false := by
  cases pc with
  | clearRead mask | clearWrite mask | clearClosed mask =>
      simp only [SweepPc.touch] at h
      split at h <;> exact h
  | flushConsume mask offered sent =>
      have hlen := TcpRingBuffer.len_pos h
      apply TcpRingBuffer.not_isEmpty_of_len
      simp only [SweepPc.touch, TcpRingBuffer.len_consume] at hlen
      omega
  | _ => exact h

theorem retireLevel_zero {w : ManagedSocket} (hw : s.socket.Worked w)
    (hk : (s.served w).socket.pc.retireLevel = 0) : s.socket.pc.retireLevel = 0 :=
  Nat.le_zero.mp (hk ▸ hw.retireLevel.1)

theorem Wakes.owed_served (h : Wakes s) {w : ManagedSocket} (hw : s.socket.Worked w)
    {job : SocketWork} (hg : KeepsWakeups s (.manager job))
    (hk : (s.served w).socket.pc.retireLevel = 0) (ht : (s.served w).toSend = true) :
    w.Owed ∨ s.poll.announcing = true := by
  have hold : s.toSend = true := by
    simp only [toSend, Bool.or_eq_true, Bool.not_eq_true'] at ht ⊢
    refine ht.imp (fun he => ?_) id
    rw [show (s.served w).stream = w.stream from rfl, hw.stream] at he
    exact touch_sendBuffer _ _ he
  refine (h.owed (retireLevel_zero hw hk) hold).imp (fun ho => ?_) id
  refine ManagedSocket.worked_owed hw ho hk (eq_false_of_ne_true (fun hd => ?_))
  simp only [ManagedSocket.drains, Bool.and_eq_true] at hd
  obtain ⟨hchunk, hquiet⟩ := hg.1 hd.1
  have hlen := congrArg List.length (List.isEmpty_iff.mp hd.2)
  rw [TcpRingBuffer.length_peekCopy, List.length_nil] at hlen
  have hempty : s.stream.sendBuffer.isEmpty = true :=
    (TcpRingBuffer.isEmpty_iff _).mpr (show s.socket.stream.sendBuffer.len = 0 by omega)
  simp [toSend, hempty, hquiet hempty] at hold

theorem Wakes.served (h : Wakes s) {w : ManagedSocket} (hw : s.socket.Worked w)
    {job : SocketWork} (hg : KeepsWakeups s (.manager job)) : Wakes (s.served w) := by
  constructor
  · exact h.sane
  · exact stored_worked h.stored hw
  · intro hk
    have hl : w.pc.retireLevel ≤ s.socket.pc.retireLevel + 1 := hw.retireLevel.2
    have hk : 4 ≤ w.pc.retireLevel := hk
    refine emptied_served hw (by omega) ?_
    rcases Nat.lt_or_ge s.socket.pc.retireLevel 4 with hlt | hge
    · exact hg.2 (retireWriteClosed_of_level (by omega))
    · exact h.emptied hge
  · exact ManagedSocket.worked_pending hw h.pending
  · intro hk hf
    have hold := hf
    rw [show (s.served w).stream = w.stream from rfl, hw.stream] at hold
    have hold := (ManagedSocket.touch_writeEventQueued _ _ hold).1
    exact (h.queued (retireLevel_zero hw hk) hold).imp
      (fun hq => ManagedSocket.worked_queued hw hk hq hf) id
  · exact h.owed_served hw hg

theorem wakes_step {label : StreamLabel} (h : Wakes s) (hg : KeepsWakeups s label)
    (hs : s.step label = some t) : Wakes t := by
  rcases step_cases hs with ⟨op, pc, last, rfl, hp, _, hop, rfl⟩ | ⟨c, events, pc, rfl, hp, rfl⟩ |
    ⟨job, w, rfl, hw, rfl⟩
  · exact h.begun hp hop
  · exact h.polled hp
  · exact h.served hw hg

def WakeupKept (s : StreamRun) : Prop :=
  s.poll.inWrite = false → s.socket.pc.inSweep = false → s.stream.sendBuffer.isEmpty = false →
    .writeReady ∈ s.socket.events ∨
      (s.socket.ready = true ∧ s.socket.side.pendingEvents.write = true) ∨ s.socket.refused = true

theorem unannounced_inWrite (pc : PollPc) (h : pc.inWrite = false) :
    pc.announcing = false ∧ pc.unannounced = false := by
  cases pc with
  | swapEvent kind next | sendEvent kind next =>
      cases kind <;> cases next <;> first | exact ⟨rfl, rfl⟩ | cases h
  | _ => first | exact ⟨rfl, rfl⟩ | cases h

theorem outside_sweep {pc : SweepPc} (h : pc.inSweep = false) :
    pc.willFlush = false ∧ pc.beforeTake = false ∧
      (pc.retireLevel = 0 ∨ pc.retireLevel = 6) := by
  cases pc <;> first | exact ⟨rfl, rfl, .inl rfl⟩ | exact ⟨rfl, rfl, .inr rfl⟩ | cases h

theorem Wakes.kept (h : Wakes s) : WakeupKept s := by
  intro hwrite hsweep hfull
  obtain ⟨hann, _⟩ := unannounced_inWrite _ hwrite
  obtain ⟨hflush, htake, hk | hk⟩ := outside_sweep hsweep
  · have hsend : s.toSend = true := by simp [toSend, hfull]
    rcases h.owed hk hsend with (ho | ho | ho | ho) | ho
    · exact .inl ho
    · refine .inr (.inl ⟨?_, ho⟩)
      rcases h.pending ho with hr | ht | hl
      · exact hr
      · rw [htake] at ht
        cases ht
      · omega
    · exact .inr (.inr ho)
    · rw [hflush] at ho
      cases ho
    · rw [hann] at ho
      cases ho
  · have hempty := h.emptied (by omega)
    simp [StreamRun.emptied, hfull] at hempty

theorem wakeup_kept (h : Reachable KeepsWakeups s) : WakeupKept s := by
  have hwakes : Wakes s :=
    h.invariant (fun _ => Starts.wakes) (fun _ _ _ hi hg hs => wakes_step hi hg hs)
  exact hwakes.kept

theorem runs_go {w : ManagedSocket} (reply : StackReply) (h : s.socket.go reply = some w) :
    Run.Reaches step Run.Any s (s.served w) := by
  refine .single (a := .manager (.go reply)) trivial ?_
  simp only [step, ManagedSocket.work, h, Option.map_some]

-- A sweep past its flush can end without another access to the stream.
theorem sweep_ends (side : SocketSide) {mask : EventMask}
    (hp : s.socket.pc = side.afterFlush mask) : ∃ t, Run.Reaches step Run.Any s t ∧
      t.poll = s.poll ∧ t.stream = s.stream ∧ t.socket.events = s.socket.events ∧
      t.socket.side.pendingEvents = s.socket.side.pendingEvents ∧
      t.socket.refused = s.socket.refused ∧ t.socket.pc = .resting := by
  have hpast : ∃ t, Run.Reaches step Run.Any s t ∧ t.poll = s.poll ∧
      t.socket = s.socket.turn .pastHandshake := by
    simp only [SocketSide.afterFlush] at hp
    split at hp
    · refine ⟨_, runs_go (.flag false) (w := s.socket.turn .pastHandshake) ?_, rfl, rfl⟩
      simp [ManagedSocket.go, hp]
    · refine ⟨s, .refl s, rfl, ?_⟩
      rw [ManagedSocket.turn, ← hp]
  obtain ⟨t, ht, hpoll, hsocket⟩ := hpast
  have hfin : t.socket.go (.flag false) = some (t.socket.turn .sendFin) := by
    rw [hsocket]
    rfl
  refine ⟨(t.served (t.socket.turn .sendFin)).served (t.socket.goFin false),
    ht.trans ((runs_go (.flag false) hfin).trans (runs_go (.flag false) ?_)), hpoll, ?_, ?_, ?_, ?_,
    rfl⟩
  · rw [hsocket]
    rfl
  · show t.socket.stream = s.socket.stream
    rw [hsocket]
    rfl
  · show t.socket.events = s.socket.events
    rw [hsocket]
    rfl
  · show t.socket.side.pendingEvents = s.socket.side.pendingEvents
    rw [hsocket]
    rfl
  · show t.socket.refused = s.socket.refused
    rw [hsocket]
    rfl

-- The condition is exact: if the last flush finds the buffer empty there and nothing else makes the
-- manager flush again, the bytes are left without a wakeup.
theorem drained_loses {mask : EventMask} {b : UInt8} {bytes : List UInt8}
    (hp : s.socket.pc = .flushPeek mask) (hw : s.poll = .writeEnqueue (b :: bytes) false)
    (hempty : s.stream.sendBuffer.isEmpty = true) (he : .writeReady ∉ s.socket.events)
    (hn : s.socket.side.pendingEvents.write = false) :
    ∃ t, Run.Reaches step Run.Any s t ∧ ¬ WakeupKept t := by
  have hpeek : s.socket.go .none = some (s.socket.stopFlush false mask) := by
    have hlen : s.socket.stream.sendBuffer.len = 0 := (TcpRingBuffer.isEmpty_iff _).mp hempty
    have hnil : (s.socket.stream.sendBuffer.peekCopy s.socket.tcpChunkSize).isEmpty = true := by
      simp [TcpRingBuffer.peekCopy, hlen]
    simp only [ManagedSocket.go, hp, ManagedSocket.goPeek, hnil, if_true]
  obtain ⟨t, ht, hpoll, hstream, hevents, hside, hrefused, hrest⟩ :=
    sweep_ends (s := s.served (s.socket.stopFlush false mask)) s.socket.side rfl
  have hfull : (t.stream.sendBuffer.enqueueSlice (b :: bytes)).2.isEmpty = false :=
    TcpRingBuffer.not_isEmpty_enqueue rfl
  let c := { t.stream with sendBuffer := (t.stream.sendBuffer.enqueueSlice (b :: bytes)).2 }
  let last : PollReturn := .write (.ready (.written (t.stream.sendBuffer.enqueueSlice (b :: bytes)).1))
  have hwrite : t.step .poll = some (t.polled c [] (.returned (some last))) := by
    simp only [step, pollStep, show t.poll = .writeEnqueue (b :: bytes) false from hpoll.trans hw,
      SocketStreamHandle.pollStep, Bool.false_and, Bool.false_eq_true, if_false, Option.map_some]
    rfl
  refine ⟨_, (runs_go .none hpeek).trans (ht.tail (a := .poll) trivial hwrite), fun hk => ?_⟩
  have hsweep : t.socket.pc.inSweep = false := by
    rw [hrest]
    rfl
  rcases hk rfl hsweep hfull with h | h | h
  · have h : .writeReady ∈ t.socket.events ++ [] := h
    rw [List.append_nil, hevents] at h
    exact he h
  · have h : t.socket.side.pendingEvents.write = true := h.2
    rw [hside] at h
    exact absurd (hn.symm.trans h) Bool.false_ne_true
  · have h : t.socket.refused = true := h
    rw [hrefused] at h
    cases h

section runs

instance (s : StreamRun) (label : StreamLabel) : Decidable (KeepsWakeups s label) :=
  match label with
  | .start _ => .isTrue trivial
  | .poll => .isTrue trivial
  | .manager _ => inferInstanceAs (Decidable (_ ∧ _))

def roomy : StreamRun := init 0 4 1 0 64

def toFlush : List StreamLabel :=
  .manager .socketEvent :: .manager (.sweep false) ::
    replies [.flag true, .none, .none, .none, .none, .none, .none]

def flushAll : List StreamLabel :=
  replies [.flag true, .none, .sent (.ok 1), .none, .none, .flag true, .none,
    .flag true, .flag true, .flag true, .flag true]

theorem wakeup_kept_second : ∃ s, Reachable KeepsWakeups s ∧ WakeupKept s ∧
    s.poll = .returned (some (.write (.ready (.written 1)))) ∧ s.socket.pc = .resting ∧
    s.stream.sendBuffer.isEmpty = false := by
  have hrun : (Run.exec step roomy (call (.write [1]) 7 ++ toFlush ++ flushAll ++
      call (.write [2]) 7)).any (fun s =>
        decide (s.poll = .returned (some (.write (.ready (.written 1))))) &&
          decide (s.socket.pc = .resting) && !s.stream.sendBuffer.isEmpty) = true := by
    decide +kernel
  have hguarded : Run.Guarded step KeepsWakeups roomy
      (call (.write [1]) 7 ++ toFlush ++ flushAll ++ call (.write [2]) 7) := by
    decide +kernel
  obtain ⟨s, hs, hp⟩ := (Option.any_eq_true _ _).mp hrun
  simp only [Bool.and_eq_true, decide_eq_true_eq, Bool.not_eq_true'] at hp
  have hr : Reachable KeepsWakeups s :=
    ⟨roomy, ⟨0, 4, 1, 0, 64, rfl⟩, Run.exec_guarded hs hguarded⟩
  exact ⟨s, hr, wakeup_kept hr, hp.1.1, hp.1.2, hp.2⟩

-- poll_write finds the first byte in the buffer, the flush sends that byte and finds the buffer
-- empty, and poll_write then enqueues the second byte.
theorem wakeup_lost : ∃ s, Reachable Run.Any s ∧ ¬ WakeupKept s := by
  have hrun : (Run.exec step roomy (call (.write [1]) 7 ++ toFlush ++ call (.write [2]) 4 ++
      flushAll ++ [.poll])).any (fun s =>
        !s.poll.inWrite && !s.socket.pc.inSweep && !s.stream.sendBuffer.isEmpty &&
          decide (.writeReady ∉ s.socket.events) && !s.socket.ready && !s.socket.refused) =
        true := by
    decide +kernel
  obtain ⟨s, hs, hp⟩ := (Option.any_eq_true _ _).mp hrun
  simp only [Bool.and_eq_true, decide_eq_true_eq, Bool.not_eq_true'] at hp
  obtain ⟨⟨⟨⟨⟨hwrite, hsweep⟩, hfull⟩, hevents⟩, hready⟩, hrefused⟩ := hp
  refine ⟨s, ⟨roomy, ⟨0, 4, 1, 0, 64, rfl⟩, Run.exec_reaches hs⟩, fun hk => ?_⟩
  rcases hk hwrite hsweep hfull with h | h | h
  · exact hevents h
  · rw [hready] at h
    cases h.1
  · rw [hrefused] at h
    cases h

end runs

end StreamRun

end Usque
