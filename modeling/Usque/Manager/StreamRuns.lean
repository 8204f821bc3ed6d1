import Usque.Manager.SweepSteps

namespace Usque

namespace AtomicWaker

-- `mark` is the number of wakes at a registration: since then the waker is still registered, or
-- it has been woken.
structure Armed (w : AtomicWaker) (mark : Nat) : Prop where
  le : mark ≤ w.wakes
  held : w.registered = true ∨ mark < w.wakes

def Fired (w : AtomicWaker) (mark : Nat) : Prop := mark < w.wakes

theorem armed_register (w : AtomicWaker) : w.register.Armed w.wakes :=
  ⟨Nat.le_refl _, .inl rfl⟩

theorem wakes_le_wake (w : AtomicWaker) : w.wakes ≤ w.wake.wakes := by
  simp only [wake]
  split
  · exact Nat.le_succ _
  · exact Nat.le_refl _

variable {w : AtomicWaker} {mark : Nat}

theorem Armed.fired_wake (h : w.Armed mark) : w.wake.Fired mark := by
  rcases h.held with hr | hm
  · simp only [Fired, wake, hr, if_true]
    exact Nat.lt_succ_of_le h.le
  · exact Nat.lt_of_lt_of_le hm w.wakes_le_wake

theorem Fired.armed (h : w.Fired mark) : w.Armed mark := ⟨Nat.le_of_lt h, .inr h⟩

theorem Fired.wake (h : w.Fired mark) : w.wake.Fired mark := Nat.lt_of_lt_of_le h w.wakes_le_wake

theorem Armed.wake (h : w.Armed mark) : w.wake.Armed mark := h.fired_wake.armed

end AtomicWaker

namespace PollReturn

def readPending : PollReturn → Bool
  | .read _ .pending => true
  | _ => false

def sendPending : PollReturn → Bool
  | .write .pending => true
  | .flush .pending => true
  | .shutdown .pending => true
  | _ => false

end PollReturn

namespace PollPc

def readPending : PollPc → Bool
  | .returned last => last.any PollReturn.readPending
  | _ => false

def sendPending : PollPc → Bool
  | .returned last => last.any PollReturn.sendPending
  | _ => false

def isReturned : PollPc → Bool
  | .returned _ => true
  | _ => false

def registersRecv : PollPc → Bool
  | .readRegister _ => true
  | _ => false

def registersSend : PollPc → Bool
  | .writeRegister _ => true
  | .flushRegister _ => true
  | _ => false

end PollPc

def ClientOp.usesRead : ClientOp → Bool
  | .read _ => true
  | .drop => true
  | _ => false

def ClientOp.usesSend : ClientOp → Bool
  | .read _ => false
  | _ => true

-- How far the manager is in closing the stream of a removed socket.
def SweepPc.retireLevel : SweepPc → Nat
  | .retireSocketClosed => 1
  | .retireReadClosed => 2
  | .retireWriteClosed => 3
  | .retireWakeReader => 4
  | .retireWakeWriter => 5
  | .retired => 6
  | _ => 0

-- The flags of a removed socket's stream are stored.
def SweepPc.flagsStored (pc : SweepPc) : Bool := 4 ≤ pc.retireLevel

-- What the manager's next step does to the stream.
def SweepPc.touch (pc : SweepPc) (c : SocketStreamHandle) : SocketStreamHandle :=
  match pc with
  | .clearRead mask => if mask.read then c.clearReadEvent else c
  | .clearWrite mask => if mask.write then c.clearWriteEvent else c
  | .clearClosed mask => if mask.closed then c.clearCloseEvent else c
  | .flushConsume _ _ sent => { c with sendBuffer := c.sendBuffer.consume sent }
  | .flushWake _ _ => c.wakeSend
  | .fillStore data => { c with recvBuffer := (c.recvBuffer.enqueueSlice data).2 }
  | .fillWake _ => c.wakeRecv
  | .storeReadClosed => { c with readClosed := true }
  | .wakeReader => c.wakeRecv
  | .storeWriteClosed => { c with writeClosed := true }
  | .wakeWriter => c.wakeSend
  | .closeStore => { c with writeShutdown := true }
  | .closeWake => c.wakeSend
  | .closeSwap => c.setEventQueued .closed true
  | .retireSocketClosed => { c with socketClosed := true }
  | .retireReadClosed => { c with readClosed := true }
  | .retireWriteClosed => { c with writeClosed := true }
  | .retireWakeReader => c.wakeRecv
  | .retireWakeWriter => c.wakeSend
  | _ => c

def PollPc.dequeued (pc : PollPc) (c : SocketStreamHandle) : List UInt8 :=
  match pc with
  | .readDequeue n => (c.recvBuffer.dequeueSlice n).1
  | _ => []

def SweepPc.enqueued (pc : SweepPc) (c : SocketStreamHandle) : List UInt8 :=
  match pc with
  | .fillStore data => data.take (c.recvBuffer.enqueueSlice data).1
  | _ => []

-- The fields after `poll` are ghost: the bytes that the manager has enqueued and those that the
-- owner has dequeued, whether the last poll of a half returned Pending, the wakes counted when its
-- waker was last registered, and whether the poll began after the flags of the removed socket were
-- stored.
structure StreamRun where
  socket : ManagedSocket
  poll : PollPc
  received : List UInt8
  read : List UInt8
  readParked : Bool
  sendParked : Bool
  recvMark : Nat
  sendMark : Nat
  late : Bool

inductive StreamLabel where
  | start (op : ClientOp)
  | poll
  | manager (job : SocketWork)

namespace ManagedSocket

variable {w w' : ManagedSocket}

theorem afterFlush_retireLevel (side : SocketSide) (mask : EventMask) :
    (side.afterFlush mask).retireLevel = 0 := by
  simp only [SocketSide.afterFlush]
  split <;> rfl

theorem afterLoads_retireLevel (side : SocketSide) (mask : EventMask) :
    (side.afterLoads mask).retireLevel = 0 := by
  simp only [SocketSide.afterLoads]
  split
  · rfl
  · exact afterFlush_retireLevel side mask

@[simp] theorem goPeek_stream (w : ManagedSocket) (mask : EventMask) :
    (w.goPeek mask).stream = w.stream := by
  simp only [goPeek]
  split <;> rfl

@[simp] theorem goSend_stream (w : ManagedSocket) (mask : EventMask) (chunk : List UInt8)
    (result : Except StackError Nat) : (w.goSend mask chunk result).stream = w.stream := by
  cases result with
  | error e => rfl
  | ok sent =>
      simp only [goSend]
      split <;> rfl

@[simp] theorem goRecv_stream (w : ManagedSocket) (result : Except StackError (List UInt8)) :
    (w.goRecv result).stream = w.stream := by
  cases result <;> rfl

theorem go_stream {reply : StackReply} (h : w.go reply = some w') :
    w'.stream = w.pc.touch w.stream := by
  cases hp : w.pc <;> cases reply <;> simp only [go, hp, reduceCtorEq] at h <;> cases h <;>
    simp [SweepPc.touch, store, turn, goTake, goLoadDropped, goLoadShutdown, goStore, goFin,
      stopFlush, apply_ite ManagedSocket.stream]

theorem goPeek_retireLevel (w : ManagedSocket) (mask : EventMask) :
    (w.goPeek mask).pc.retireLevel = 0 := by
  simp only [goPeek]
  split
  · exact afterFlush_retireLevel w.side mask
  · rfl

theorem goSend_retireLevel (w : ManagedSocket) (mask : EventMask) (chunk : List UInt8)
    (result : Except StackError Nat) : (w.goSend mask chunk result).pc.retireLevel = 0 := by
  cases result with
  | error e => exact afterFlush_retireLevel w.side mask
  | ok sent =>
      simp only [goSend]
      split
      · exact afterFlush_retireLevel w.side mask
      · rfl

theorem goRecv_retireLevel (w : ManagedSocket) (result : Except StackError (List UInt8)) :
    (w.goRecv result).pc.retireLevel = 0 := by
  cases result with
  | error e => rfl
  | ok data =>
      simp only [goRecv, turn]
      split <;> rfl

theorem go_retireLevel {reply : StackReply} (h : w.go reply = some w') :
    w.pc.retireLevel ≤ w'.pc.retireLevel ∧ w'.pc.retireLevel ≤ w.pc.retireLevel + 1 := by
  cases hp : w.pc <;> cases reply <;> simp only [go, hp, reduceCtorEq] at h <;> cases h <;>
    simp only [apply_ite ManagedSocket.pc, apply_ite SweepPc.retireLevel, turn, store, stopFlush,
      goTake, goLoadDropped, goLoadShutdown, goStore, goFin, afterFlush_retireLevel,
      afterLoads_retireLevel, goPeek_retireLevel, goSend_retireLevel, goRecv_retireLevel] <;>
    simp [SweepPc.retireLevel]
  split <;> simp

inductive Worked (w : ManagedSocket) : ManagedSocket → Prop where
  | go {reply : StackReply} {w' : ManagedSocket} (h : w.go reply = some w') : Worked w w'
  | received {kind : SocketEventKind} {events : List SocketEventKind} (hp : w.pc = .resting)
      (he : w.events = kind :: events) : Worked w (w.receive kind events)
  | marked (hp : w.pc = .resting) : Worked w w.markIncoming
  | closing (hp : w.pc = .resting) : Worked w w.beginClose
  | sweeping {fullSweep : Bool} (hp : w.pc = .resting) (hs : (fullSweep || w.ready) = true) :
      Worked w (w.beginSweep fullSweep)
  | discarded {kind : SocketEventKind} {events : List SocketEventKind} (hp : w.pc = .retired)
      (he : w.events = kind :: events) : Worked w { w with events }

theorem work_worked {job : SocketWork} (h : w.work job = some w') : Worked w w' := by
  simp only [work] at h
  split at h
  · next hp =>
      split at h
      · cases h
      · next kind events he =>
          cases h
          exact .received hp he
  · next hp =>
      split at h
      · cases h
      · next kind events he =>
          cases h
          exact .discarded hp he
  · next hp =>
      cases h
      exact .marked hp
  · next hp =>
      cases h
      exact .closing hp
  · next hp =>
      split at h
      · next hs =>
          cases h
          exact .sweeping hp hs
      · cases h
  · exact .go h
  · cases h

theorem Worked.stream (h : Worked w w') : w'.stream = w.pc.touch w.stream := by
  cases h with
  | go h => exact go_stream h
  | received hp _ => rw [hp]; rfl
  | marked hp => rw [hp]; rfl
  | closing hp => rw [hp]; rfl
  | sweeping hp _ => rw [hp]; rfl
  | discarded hp _ => rw [hp]; rfl

theorem Worked.retireLevel (h : Worked w w') :
    w.pc.retireLevel ≤ w'.pc.retireLevel ∧ w'.pc.retireLevel ≤ w.pc.retireLevel + 1 := by
  cases h with
  | go h => exact go_retireLevel h
  | received => exact ⟨Nat.le_refl _, Nat.le_succ _⟩
  | marked => exact ⟨Nat.le_refl _, Nat.le_succ _⟩
  | closing hp => rw [hp]; exact ⟨Nat.zero_le _, Nat.zero_le _⟩
  | sweeping hp => rw [hp]; exact ⟨Nat.zero_le _, Nat.zero_le _⟩
  | discarded => exact ⟨Nat.le_refl _, Nat.le_succ _⟩

end ManagedSocket

-- No function of either side resets a flag of the stream.
structure FlagsKept (c c' : SocketStreamHandle) : Prop where
  dropped : c.socketDropped = true → c'.socketDropped = true
  socketClosed : c.socketClosed = true → c'.socketClosed = true
  readClosed : c.readClosed = true → c'.readClosed = true
  writeClosed : c.writeClosed = true → c'.writeClosed = true
  writeShutdown : c.writeShutdown = true → c'.writeShutdown = true

theorem FlagsKept.refl (c : SocketStreamHandle) : FlagsKept c c := ⟨id, id, id, id, id⟩

theorem setEventQueued_flags (c : SocketStreamHandle) (kind : SocketEventKind) (b : Bool) :
    FlagsKept c (c.setEventQueued kind b) := by
  cases kind <;> exact ⟨id, id, id, id, id⟩

theorem touch_flags (pc : SweepPc) (c : SocketStreamHandle) : FlagsKept c (pc.touch c) := by
  cases pc with
  | clearRead mask =>
      simp only [SweepPc.touch]
      split
      · exact setEventQueued_flags c .readReady false
      · exact .refl c
  | clearWrite mask =>
      simp only [SweepPc.touch]
      split
      · exact setEventQueued_flags c .writeReady false
      · exact .refl c
  | clearClosed mask =>
      simp only [SweepPc.touch]
      split
      · exact setEventQueued_flags c .closed false
      · exact .refl c
  | storeReadClosed => exact ⟨id, id, fun _ => rfl, id, id⟩
  | storeWriteClosed => exact ⟨id, id, id, fun _ => rfl, id⟩
  | closeStore => exact ⟨id, id, id, id, fun _ => rfl⟩
  | retireSocketClosed => exact ⟨id, fun _ => rfl, id, id, id⟩
  | retireReadClosed => exact ⟨id, id, fun _ => rfl, id, id⟩
  | retireWriteClosed => exact ⟨id, id, id, fun _ => rfl, id⟩
  | _ => exact ⟨id, id, id, id, id⟩

theorem pollStep_flags {c c' : SocketStreamHandle} {events : List SocketEventKind}
    {pc pc' : PollPc} (h : c.pollStep pc = some (c', events, pc')) : FlagsKept c c' := by
  cases pc with
  | returned last => cases h
  | swapShutdown => cases h; exact ⟨id, id, id, id, fun _ => rfl⟩
  | storeDropped => cases h; exact ⟨fun _ => rfl, id, id, id, id⟩
  | storeReadClosed => cases h; exact ⟨id, id, fun _ => rfl, id, id⟩
  | storeWriteClosed => cases h; exact ⟨id, id, id, fun _ => rfl, id⟩
  | swapEvent kind next => cases h; exact setEventQueued_flags c kind true
  | _ => cases h; exact ⟨id, id, id, id, id⟩

namespace SocketStreamHandle

variable {c c' : SocketStreamHandle} {events : List SocketEventKind} {pc pc' : PollPc}

theorem pollStep_recvWaker (h : c.pollStep pc = some (c', events, pc')) :
    (pc.registersRecv = true ∧ c'.recvWaker = c.recvWaker.register) ∨
      (pc.registersRecv = false ∧
        (c'.recvWaker = c.recvWaker ∨ c'.recvWaker = c.recvWaker.wake)) := by
  cases pc with
  | returned last => cases h
  | readRegister n => cases h; exact .inl ⟨rfl, rfl⟩
  | wakeReader => cases h; exact .inr ⟨rfl, .inr rfl⟩
  | swapEvent kind next => cases h; cases kind <;> exact .inr ⟨rfl, .inl rfl⟩
  | _ => cases h; exact .inr ⟨rfl, .inl rfl⟩

theorem pollStep_sendWaker (h : c.pollStep pc = some (c', events, pc')) :
    (pc.registersSend = true ∧ c'.sendWaker = c.sendWaker.register) ∨
      (pc.registersSend = false ∧
        (c'.sendWaker = c.sendWaker ∨ c'.sendWaker = c.sendWaker.wake)) := by
  cases pc with
  | returned last => cases h
  | writeRegister buf => cases h; exact .inl ⟨rfl, rfl⟩
  | flushRegister shutdown => cases h; exact .inl ⟨rfl, rfl⟩
  | wakeWriter => cases h; exact .inr ⟨rfl, .inr rfl⟩
  | swapEvent kind next => cases h; cases kind <;> exact .inr ⟨rfl, .inl rfl⟩
  | _ => cases h; exact .inr ⟨rfl, .inl rfl⟩

theorem pollStep_sendBuffer (h : c.pollStep pc = some (c', events, pc')) :
    c'.sendBuffer = c.sendBuffer ∨
      ∃ buf wasEmpty, pc = .writeEnqueue buf wasEmpty ∧
        c'.sendBuffer = (c.sendBuffer.enqueueSlice buf).2 := by
  cases pc with
  | returned last => cases h
  | writeEnqueue buf wasEmpty => cases h; exact .inr ⟨buf, wasEmpty, rfl, rfl⟩
  | swapEvent kind next => cases h; cases kind <;> exact .inl rfl
  | _ => cases h; exact .inl rfl

theorem pollStep_recvBuffer (h : c.pollStep pc = some (c', events, pc')) :
    c'.recvBuffer = c.recvBuffer ∨
      ∃ n, pc = .readDequeue n ∧ c'.recvBuffer = (c.recvBuffer.dequeueSlice n).2 := by
  cases pc with
  | returned last => cases h
  | readDequeue n => cases h; exact .inr ⟨n, rfl, rfl⟩
  | swapEvent kind next => cases h; cases kind <;> exact .inl rfl
  | _ => cases h; exact .inl rfl

end SocketStreamHandle

theorem touch_recvWaker (pc : SweepPc) (c : SocketStreamHandle) :
    (pc.touch c).recvWaker = c.recvWaker ∨ (pc.touch c).recvWaker = c.recvWaker.wake := by
  cases pc with
  | clearRead mask => left; simp only [SweepPc.touch]; split <;> rfl
  | clearWrite mask => left; simp only [SweepPc.touch]; split <;> rfl
  | clearClosed mask => left; simp only [SweepPc.touch]; split <;> rfl
  | fillWake | wakeReader | retireWakeReader => right; rfl
  | _ => left; rfl

theorem touch_sendWaker (pc : SweepPc) (c : SocketStreamHandle) :
    (pc.touch c).sendWaker = c.sendWaker ∨ (pc.touch c).sendWaker = c.sendWaker.wake := by
  cases pc with
  | clearRead mask => left; simp only [SweepPc.touch]; split <;> rfl
  | clearWrite mask => left; simp only [SweepPc.touch]; split <;> rfl
  | clearClosed mask => left; simp only [SweepPc.touch]; split <;> rfl
  | flushWake | wakeWriter | closeWake | retireWakeWriter => right; rfl
  | _ => left; rfl

-- The last steps of a removal, level by level.
theorem touch_retire (pc : SweepPc) (c : SocketStreamHandle) :
    (pc.retireLevel = 1 → pc.touch c = { c with socketClosed := true }) ∧
      (pc.retireLevel = 2 → pc.touch c = { c with readClosed := true }) ∧
      (pc.retireLevel = 3 → pc.touch c = { c with writeClosed := true }) ∧
      (pc.retireLevel = 4 → pc.touch c = c.wakeRecv) ∧
      (pc.retireLevel = 5 → pc.touch c = c.wakeSend) ∧
      (pc.retireLevel = 6 → pc.touch c = c) := by
  cases pc <;> simp [SweepPc.retireLevel, SweepPc.touch]

namespace StreamRun

def init (handle : SocketHandle) (sendCapacity recvCapacity socketNotifier tcpChunkSize : Nat) :
    StreamRun where
  socket := {
    tcpChunkSize := tcpChunkSize
    side := .new
    stream := .new handle sendCapacity recvCapacity socketNotifier
    events := []
    ready := false
    pc := .resting
    refused := false }
  poll := .returned none
  received := []
  read := []
  readParked := false
  sendParked := false
  recvMark := 0
  sendMark := 0
  late := false

def stream (s : StreamRun) : SocketStreamHandle := s.socket.stream

def begun (s : StreamRun) (op : ClientOp) (pc : PollPc) : StreamRun :=
  { s with
    poll := pc
    readParked := s.readParked && !op.usesRead
    sendParked := s.sendParked && !op.usesSend
    late := s.socket.pc.flagsStored }

def polled (s : StreamRun) (c : SocketStreamHandle) (events : List SocketEventKind)
    (pc : PollPc) : StreamRun :=
  { s with
    socket := { s.socket with stream := c, events := s.socket.events ++ events }
    poll := pc
    read := s.read ++ s.poll.dequeued s.stream
    readParked := s.readParked || pc.readPending
    sendParked := s.sendParked || pc.sendPending
    recvMark := if s.poll.registersRecv then s.stream.recvWaker.wakes else s.recvMark
    sendMark := if s.poll.registersSend then s.stream.sendWaker.wakes else s.sendMark }

def served (s : StreamRun) (socket : ManagedSocket) : StreamRun :=
  { s with socket, received := s.received ++ s.socket.pc.enqueued s.stream }

def startStep (s : StreamRun) (op : ClientOp) : Option StreamRun :=
  match s.poll with
  | .returned last =>
      if last = some .dropped then none else (PollPc.start op).map (s.begun op)
  | _ => none

def pollStep (s : StreamRun) : Option StreamRun :=
  (s.stream.pollStep s.poll).map (fun (c, events, pc) => s.polled c events pc)

def step (s : StreamRun) : StreamLabel → Option StreamRun
  | .start op => s.startStep op
  | .poll => s.pollStep
  | .manager job => (s.socket.work job).map s.served

def Starts (s : StreamRun) : Prop :=
  ∃ handle sendCapacity recvCapacity socketNotifier tcpChunkSize,
    s = init handle sendCapacity recvCapacity socketNotifier tcpChunkSize

def Reachable (guard : StreamRun → StreamLabel → Prop) (s : StreamRun) : Prop :=
  ∃ s₀, Starts s₀ ∧ Run.Reaches step guard s₀ s

theorem Reachable.invariant {guard : StreamRun → StreamLabel → Prop} {I : StreamRun → Prop}
    {s : StreamRun} (h : Reachable guard s) (hinit : ∀ s, Starts s → I s)
    (hstep : ∀ s a t, I s → guard s a → step s a = some t → I t) : I s := by
  obtain ⟨s₀, h₀, hr⟩ := h
  exact hr.invariant hstep (hinit s₀ h₀)

-- A step is the start of a call, one of the owner's accesses, or one of the manager's steps.
theorem step_cases {s t : StreamRun} {label : StreamLabel} (h : s.step label = some t) :
    (∃ op pc last, label = .start op ∧ s.poll = .returned last ∧ last ≠ some .dropped ∧
        PollPc.start op = some pc ∧ t = s.begun op pc) ∨
      (∃ c events pc, label = .poll ∧ s.stream.pollStep s.poll = some (c, events, pc) ∧
        t = s.polled c events pc) ∨
      (∃ job w, label = .manager job ∧ s.socket.Worked w ∧ t = s.served w) := by
  cases label with
  | start op =>
      left
      simp only [step, startStep] at h
      split at h
      · next last hp =>
          split at h
          · cases h
          · next hlast =>
              obtain ⟨pc, hpc, ht⟩ := Option.map_eq_some_iff.mp h
              exact ⟨op, pc, last, rfl, hp, hlast, hpc, ht.symm⟩
      · cases h
  | poll =>
      right; left
      obtain ⟨⟨c, events, pc⟩, hs, ht⟩ := Option.map_eq_some_iff.mp h
      exact ⟨c, events, pc, rfl, hs, ht.symm⟩
  | manager job =>
      right; right
      obtain ⟨w, hw, ht⟩ := Option.map_eq_some_iff.mp h
      exact ⟨job, w, rfl, ManagedSocket.work_worked hw, ht.symm⟩

def call (op : ClientOp) (polls : Nat) : List StreamLabel :=
  .start op :: List.replicate polls .poll

def replies (answers : List StackReply) : List StreamLabel :=
  answers.map (fun reply => .manager (.go reply))

def small : StreamRun := init 0 1 1 0 64

end StreamRun

end Usque
