import Usque.Manager.Stream
import Usque.Manager.System

namespace Usque

open SocketStreamHandle (WriteResult)

inductive PollReturn where
  | read (room : Nat) (result : Poll (List UInt8))
  | write (result : Poll WriteResult)
  | flush (result : Poll Unit)
  | shutdown (result : Poll Unit)
  | dropped
deriving DecidableEq, Repr

-- Where the owner of a SocketStream is inside one of its functions. Every access to what the owner
-- shares with the manager is a step of its own.
inductive PollPc where
  | returned (last : Option PollReturn)
  | readTest (n : Nat)
  | readRegister (n : Nat)
  | readRetest (n : Nat)
  | loadSocketClosed (n : Nat)
  | loadReadClosed (n : Nat)
  | readDequeue (n : Nat)
  | loadWriteClosed (buf : List UInt8)
  | loadWriteShutdown (buf : List UInt8)
  | writeTest (buf : List UInt8)
  | writeRegister (buf : List UInt8)
  | writeRetest (buf : List UInt8)
  | loadWasEmpty (buf : List UInt8)
  | writeEnqueue (buf : List UInt8) (wasEmpty : Bool)
  | flushTest (shutdown : Bool)
  | flushRegister (shutdown : Bool)
  | flushRetest (shutdown : Bool)
  | swapShutdown
  | storeDropped
  | storeReadClosed
  | storeWriteClosed
  | wakeReader
  | wakeWriter
  | swapEvent (kind : SocketEventKind) (next : PollPc)
  | sendEvent (kind : SocketEventKind) (next : PollPc)
deriving DecidableEq, Repr

namespace PollPc

def start : ClientOp → Option PollPc
  | .read n => some (.readTest n)
  | .write buf => some (.loadWriteClosed buf)
  | .flush => some (.flushTest false)
  | .shutdown => some (.flushTest true)
  | .drop => some .storeDropped
  | _ => none

def flushed (shutdown : Bool) : PollPc :=
  if shutdown then .swapShutdown else .returned (some (.flush (.ready ())))

def unflushed (shutdown : Bool) : PollPc :=
  .returned (some (if shutdown then .shutdown .pending else .flush .pending))

end PollPc

namespace SocketStreamHandle

abbrev Polled := SocketStreamHandle × List SocketEventKind × PollPc

def pollStep (c : SocketStreamHandle) : PollPc → Option Polled
  | .returned _ => none
  | .readTest n => some (c, [], if c.recvBuffer.isEmpty then .readRegister n else .readDequeue n)
  | .readRegister n => some ({ c with recvWaker := c.recvWaker.register }, [], .readRetest n)
  | .readRetest n =>
      some (c, [], if c.recvBuffer.isEmpty then .loadSocketClosed n else .readDequeue n)
  | .loadSocketClosed n =>
      some (c, [], if c.socketClosed then .returned (some (.read n (.ready [])))
        else .loadReadClosed n)
  | .loadReadClosed n =>
      some (c, [], .returned (some (.read n (if c.readClosed then .ready [] else .pending))))
  | .readDequeue n =>
      let (bytes, recvBuffer) := c.recvBuffer.dequeueSlice n
      let done := PollPc.returned (some (.read n (.ready bytes)))
      some ({ c with recvBuffer }, [],
        if bytes.length > 0 then .swapEvent .readReady done else done)
  | .loadWriteClosed buf =>
      some (c, [], if c.writeClosed then .returned (some (.write (.ready .brokenPipe)))
        else .loadWriteShutdown buf)
  | .loadWriteShutdown buf =>
      some (c, [], if c.writeShutdown then .returned (some (.write (.ready .brokenPipe)))
        else .writeTest buf)
  | .writeTest buf =>
      some (c, [], if c.sendBuffer.isFull then .writeRegister buf else .loadWasEmpty buf)
  | .writeRegister buf => some ({ c with sendWaker := c.sendWaker.register }, [], .writeRetest buf)
  | .writeRetest buf =>
      some (c, [], if c.sendBuffer.isFull then .returned (some (.write .pending))
        else .loadWasEmpty buf)
  | .loadWasEmpty buf => some (c, [], .writeEnqueue buf c.sendBuffer.isEmpty)
  | .writeEnqueue buf wasEmpty =>
      let (n, sendBuffer) := c.sendBuffer.enqueueSlice buf
      let done := PollPc.returned (some (.write (.ready (.written n))))
      some ({ c with sendBuffer }, [],
        if wasEmpty && n > 0 then .swapEvent .writeReady done else done)
  | .flushTest shutdown =>
      some (c, [], if c.sendBuffer.isEmpty then .flushed shutdown
        else .swapEvent .writeReady (.flushRegister shutdown))
  | .flushRegister shutdown =>
      some ({ c with sendWaker := c.sendWaker.register }, [], .flushRetest shutdown)
  | .flushRetest shutdown =>
      some (c, [], if c.sendBuffer.isEmpty then .flushed shutdown else .unflushed shutdown)
  | .swapShutdown =>
      let done := PollPc.returned (some (.shutdown (.ready ())))
      some ({ c with writeShutdown := true }, [],
        if c.writeShutdown then done else .swapEvent .writeReady done)
  | .storeDropped => some ({ c with socketDropped := true }, [], .storeReadClosed)
  | .storeReadClosed => some ({ c with readClosed := true }, [], .storeWriteClosed)
  | .storeWriteClosed => some ({ c with writeClosed := true }, [], .wakeReader)
  | .wakeReader => some (c.wakeRecv, [], .wakeWriter)
  | .wakeWriter => some (c.wakeSend, [], .swapEvent .closed (.returned (some .dropped)))
  | .swapEvent kind next =>
      some (c.setEventQueued kind true, [], if c.eventQueued kind then next else .sendEvent kind next)
  | .sendEvent kind next => some (c, [kind], next)

-- The owner's steps while the manager takes none.
inductive Alone : SocketStreamHandle → PollPc → List SocketEventKind → SocketStreamHandle →
    PollPc → Prop where
  | refl (c : SocketStreamHandle) (pc : PollPc) : Alone c pc [] c pc
  | head {c c' c'' : SocketStreamHandle} {pc pc' pc'' : PollPc}
      {events more : List SocketEventKind} (h : c.pollStep pc = some (c', events, pc'))
      (k : Alone c' pc' more c'' pc'') : Alone c pc (events ++ more) c'' pc''

namespace Alone

variable {c c' c'' : SocketStreamHandle} {pc pc' pc'' : PollPc}
  {events more : List SocketEventKind}

theorem trans (h : Alone c pc events c' pc') (k : Alone c' pc' more c'' pc'') :
    Alone c pc (events ++ more) c'' pc'' := by
  induction h with
  | refl => exact k
  | head hs _ ih =>
      rw [List.append_assoc]
      exact .head hs (ih k)

theorem single (h : c.pollStep pc = some (c', events, pc')) : Alone c pc events c' pc' := by
  have hs := Alone.head h (.refl c' pc')
  rwa [List.append_nil] at hs

theorem quiet {d : SocketStreamHandle} {q : PollPc} (h : c.pollStep pc = some (d, [], q))
    (k : Alone d q more c'' pc'') : Alone c pc more c'' pc'' := .head h k

end Alone

variable (c : SocketStreamHandle)

theorem setEventQueued_self {kind : SocketEventKind} (h : c.eventQueued kind = true) :
    c.setEventQueued kind true = c := by
  cases kind <;> simp only [eventQueued] at h <;> simp only [setEventQueued, ← h]

theorem alone_notify (kind : SocketEventKind) (next : PollPc) :
    Alone c (.swapEvent kind next) (c.notify kind).2 (c.notify kind).1 next := by
  simp only [notify]
  cases he : c.eventQueued kind with
  | true =>
      refine .single ?_
      simp only [pollStep, he, if_true, c.setEventQueued_self he]
  | false =>
      refine .quiet (d := c.setEventQueued kind true) (q := .sendEvent kind next) ?_ (.single rfl)
      simp only [pollStep, he, Bool.false_eq_true, if_false]

theorem alone_dequeue (n : Nat) :
    Alone c (.readDequeue n) (c.readBytes n).2.2 (c.readBytes n).2.1
      (.returned (some (.read n (c.readBytes n).1))) := by
  cases hd : c.recvBuffer.dequeueSlice n with
  | mk bytes recvBuffer =>
      by_cases hp : bytes.length > 0
      · have hread : c.readBytes n =
            (.ready bytes, { c with recvBuffer := recvBuffer }.notify .readReady) := by
          simp only [readBytes, hd, if_pos hp, notifyReadReady]
        rw [hread]
        refine .quiet (d := { c with recvBuffer := recvBuffer })
          (q := .swapEvent .readReady (.returned (some (.read n (.ready bytes)))))
          (by simp only [pollStep, hd, if_pos hp]) ?_
        exact alone_notify _ .readReady _
      · have hread : c.readBytes n =
            (.ready bytes, { c with recvBuffer := recvBuffer }, []) := by
          simp only [readBytes, hd, if_neg hp]
        rw [hread]
        exact .single (by simp only [pollStep, hd, if_neg hp])

theorem alone_pollRead (n : Nat) :
    Alone c (.readTest n) (c.pollRead n).2.2 (c.pollRead n).2.1
      (.returned (some (.read n (c.pollRead n).1))) := by
  simp only [pollRead]
  cases he : c.recvBuffer.isEmpty with
  | false =>
      refine .quiet (d := c) (q := .readDequeue n) (by simp [pollStep, he]) ?_
      exact c.alone_dequeue n
  | true =>
      refine .quiet (d := c) (q := .readRegister n) (by simp [pollStep, he]) ?_
      refine .quiet (d := { c with recvWaker := c.recvWaker.register }) rfl ?_
      refine .quiet (d := { c with recvWaker := c.recvWaker.register })
        (q := .loadSocketClosed n) (by simp [pollStep, he]) ?_
      cases hs : c.socketClosed with
      | true => exact .single (by simp [pollStep])
      | false =>
          refine .quiet (d := { c with recvWaker := c.recvWaker.register })
            (q := .loadReadClosed n) (by simp [pollStep, hs]) ?_
          cases hr : c.readClosed <;> exact .single (by simp [pollStep, hs])

theorem alone_enqueue (buf : List UInt8) :
    Alone c (.loadWasEmpty buf) (c.writeBytes buf).2.2 (c.writeBytes buf).2.1
      (.returned (some (.write (c.writeBytes buf).1))) := by
  refine .quiet rfl ?_
  cases hq : c.sendBuffer.enqueueSlice buf with
  | mk n sendBuffer =>
      by_cases hp : (c.sendBuffer.isEmpty && decide (n > 0)) = true
      · have hwrite : c.writeBytes buf =
            (.ready (.written n), { c with sendBuffer := sendBuffer }.notify .writeReady) := by
          simp only [writeBytes, hq, if_pos hp, notifyWriteReady]
        rw [hwrite]
        refine .quiet (d := { c with sendBuffer := sendBuffer })
          (q := .swapEvent .writeReady (.returned (some (.write (.ready (.written n))))))
          (by simp only [pollStep, hq, if_pos hp]) ?_
        exact alone_notify _ .writeReady _
      · have hwrite : c.writeBytes buf =
            (.ready (.written n), { c with sendBuffer := sendBuffer }, []) := by
          simp only [writeBytes, hq, if_neg hp]
        rw [hwrite]
        exact .single (by simp only [pollStep, hq, if_neg hp])

theorem alone_pollWrite (buf : List UInt8) :
    Alone c (.loadWriteClosed buf) (c.pollWrite buf).2.2 (c.pollWrite buf).2.1
      (.returned (some (.write (c.pollWrite buf).1))) := by
  simp only [pollWrite]
  cases hc : c.writeClosed with
  | true => exact .single (by simp [pollStep, hc])
  | false =>
      refine .quiet (d := c) (q := .loadWriteShutdown buf) (by simp [pollStep, hc]) ?_
      cases hs : c.writeShutdown with
      | true => exact .single (by simp [pollStep, hs])
      | false =>
          refine .quiet (d := c) (q := .writeTest buf) (by simp [pollStep, hs]) ?_
          cases hf : c.sendBuffer.isFull with
          | false =>
              refine .quiet (d := c) (q := .loadWasEmpty buf) (by simp [pollStep, hf]) ?_
              exact c.alone_enqueue buf
          | true =>
              refine .quiet (d := c) (q := .writeRegister buf) (by simp [pollStep, hf]) ?_
              refine .quiet rfl ?_
              exact .single (by simp [pollStep, hc, hs, hf])

theorem notify_sendBuffer (kind : SocketEventKind) :
    (c.notify kind).1.sendBuffer = c.sendBuffer := by
  simp only [notify]
  split
  · rfl
  · cases kind <;> rfl

theorem pollFlush_pending (he : c.sendBuffer.isEmpty = false) : c.pollFlush.1 = .pending := by
  have hbuf := c.notify_sendBuffer .writeReady
  simp [pollFlush, notifyWriteReady, he, hbuf]

theorem alone_flush (shutdown : Bool) :
    Alone c (.flushTest shutdown) c.pollFlush.2.2 c.pollFlush.2.1
      (match c.pollFlush.1 with
        | .ready () => .flushed shutdown
        | .pending => .unflushed shutdown) := by
  simp only [pollFlush]
  cases he : c.sendBuffer.isEmpty with
  | true => exact .single (by simp [pollStep, he])
  | false =>
      refine .quiet (d := c) (q := .swapEvent .writeReady (.flushRegister shutdown))
        (by simp [pollStep, he]) ?_
      have hn := c.alone_notify .writeReady (.flushRegister shutdown)
      have hbuf := c.notify_sendBuffer .writeReady
      have hrest : Alone (c.notify .writeReady).1 (.flushRegister shutdown) []
          { (c.notify .writeReady).1 with
            sendWaker := (c.notify .writeReady).1.sendWaker.register } (.unflushed shutdown) :=
        .quiet rfl (.single (by simp [pollStep, hbuf, he]))
      have hall := hn.trans hrest
      rw [List.append_nil] at hall
      simpa [notifyWriteReady, hbuf, he] using hall

theorem alone_pollFlush :
    Alone c (.flushTest false) c.pollFlush.2.2 c.pollFlush.2.1
      (.returned (some (.flush c.pollFlush.1))) := by
  have h := c.alone_flush false
  cases hp : c.pollFlush.1 <;> simpa [hp, PollPc.flushed, PollPc.unflushed] using h

theorem alone_pollShutdown :
    Alone c (.flushTest true) c.pollShutdown.2.2 c.pollShutdown.2.1
      (.returned (some (.shutdown c.pollShutdown.1))) := by
  have h := c.alone_flush true
  simp only [pollShutdown]
  split
  · next hp =>
      rw [hp] at h
      exact h
  · next c' events hp =>
      rw [hp] at h
      cases hs : c'.writeShutdown with
      | true =>
          have hlast : Alone c' .swapShutdown [] { c' with writeShutdown := true }
              (.returned (some (.shutdown (.ready ())))) := .single (by simp [pollStep, hs])
          have hsame : { c' with writeShutdown := true } = c' := by rw [← hs]
          rw [hsame] at hlast
          simpa using h.trans hlast
      | false =>
          have hswap : Alone c' .swapShutdown []
              { c' with writeShutdown := true }
              (.swapEvent .writeReady (.returned (some (.shutdown (.ready ()))))) :=
            .single (by simp [pollStep, hs])
          have hall := h.trans (hswap.trans (alone_notify _ .writeReady _))
          rw [List.nil_append] at hall
          simpa only [Bool.false_eq_true, if_false, notifyWriteReady] using hall

theorem alone_drop :
    Alone c .storeDropped c.drop.2 c.drop.1 (.returned (some .dropped)) := by
  refine .quiet rfl (.quiet rfl (.quiet rfl (.quiet rfl (.quiet rfl ?_))))
  exact alone_notify _ .closed _

end SocketStreamHandle

end Usque
