import Usque.Manager.RingBuffer
import Usque.Stack.Smoltcp

namespace Usque

abbrev StreamId := Nat

inductive SocketEventKind where
  | readReady
  | writeReady
  | closed
deriving DecidableEq, Repr

structure EventMask where
  read : Bool
  write : Bool
  closed : Bool
deriving DecidableEq, Repr

namespace EventMask

def empty : EventMask := ⟨false, false, false⟩

def socketEventRead : EventMask := ⟨true, false, false⟩

def socketEventWrite : EventMask := ⟨false, true, false⟩

def socketEventClosed : EventMask := ⟨false, false, true⟩

def union (a b : EventMask) : EventMask :=
  ⟨a.read || b.read, a.write || b.write, a.closed || b.closed⟩

@[simp] theorem union_read (a b : EventMask) : (a.union b).read = (a.read || b.read) := rfl

@[simp] theorem union_write (a b : EventMask) : (a.union b).write = (a.write || b.write) := rfl

@[simp] theorem union_closed (a b : EventMask) : (a.union b).closed = (a.closed || b.closed) := rfl

end EventMask

def SocketEventKind.bit : SocketEventKind → EventMask
  | .readReady => .socketEventRead
  | .writeReady => .socketEventWrite
  | .closed => .socketEventClosed

-- `source` is a ghost field: no manager function reads it.
structure SocketEvent where
  handle : SocketHandle
  kind : SocketEventKind
  source : StreamId
deriving DecidableEq, Repr

inductive Poll (α : Type) where
  | ready (a : α)
  | pending
deriving DecidableEq, Repr

structure AtomicWaker where
  registered : Bool
  wakes : Nat
deriving DecidableEq, Repr

namespace AtomicWaker

def new : AtomicWaker := ⟨false, 0⟩

def register (w : AtomicWaker) : AtomicWaker := { w with registered := true }

def wake (w : AtomicWaker) : AtomicWaker :=
  if w.registered then ⟨false, w.wakes + 1⟩ else w

end AtomicWaker

structure SocketStreamHandle where
  handle : SocketHandle
  recvBuffer : TcpRingBuffer
  recvWaker : AtomicWaker
  sendBuffer : TcpRingBuffer
  sendWaker : AtomicWaker
  socketDropped : Bool
  socketClosed : Bool
  readClosed : Bool
  writeClosed : Bool
  writeShutdown : Bool
  socketNotifier : Nat
  readEventQueued : Bool
  writeEventQueued : Bool
  closeEventQueued : Bool

namespace SocketStreamHandle

def new (handle : SocketHandle) (sendCapacity recvCapacity socketNotifier : Nat) :
    SocketStreamHandle where
  handle := handle
  recvBuffer := .new (recvCapacity + 1)
  recvWaker := .new
  sendBuffer := .new (sendCapacity + 1)
  sendWaker := .new
  socketDropped := false
  socketClosed := false
  readClosed := false
  writeClosed := false
  writeShutdown := false
  socketNotifier := socketNotifier
  readEventQueued := false
  writeEventQueued := false
  closeEventQueued := false

def eventQueued (c : SocketStreamHandle) : SocketEventKind → Bool
  | .readReady => c.readEventQueued
  | .writeReady => c.writeEventQueued
  | .closed => c.closeEventQueued

def setEventQueued (c : SocketStreamHandle) (kind : SocketEventKind) (b : Bool) :
    SocketStreamHandle :=
  match kind with
  | .readReady => { c with readEventQueued := b }
  | .writeReady => { c with writeEventQueued := b }
  | .closed => { c with closeEventQueued := b }

abbrev Notified := SocketStreamHandle × List SocketEventKind

def notify (c : SocketStreamHandle) (kind : SocketEventKind) : Notified :=
  if c.eventQueued kind then (c, []) else (c.setEventQueued kind true, [kind])

def notifyReadReady (c : SocketStreamHandle) : Notified := c.notify .readReady

def notifyWriteReady (c : SocketStreamHandle) : Notified := c.notify .writeReady

def notifyClosed (c : SocketStreamHandle) : Notified := c.notify .closed

def clearReadEvent (c : SocketStreamHandle) : SocketStreamHandle :=
  c.setEventQueued .readReady false

def clearWriteEvent (c : SocketStreamHandle) : SocketStreamHandle :=
  c.setEventQueued .writeReady false

def clearCloseEvent (c : SocketStreamHandle) : SocketStreamHandle :=
  c.setEventQueued .closed false

def clearAllEvents (c : SocketStreamHandle) : SocketStreamHandle :=
  c.clearReadEvent.clearWriteEvent.clearCloseEvent

def clearEvents (c : SocketStreamHandle) (mask : EventMask) : SocketStreamHandle :=
  let c := if mask.read then c.clearReadEvent else c
  let c := if mask.write then c.clearWriteEvent else c
  if mask.closed then c.clearCloseEvent else c

def wakeRecv (c : SocketStreamHandle) : SocketStreamHandle :=
  { c with recvWaker := c.recvWaker.wake }

def wakeSend (c : SocketStreamHandle) : SocketStreamHandle :=
  { c with sendWaker := c.sendWaker.wake }

def drop (c : SocketStreamHandle) : Notified :=
  let c := { c with socketDropped := true, readClosed := true, writeClosed := true }
  c.wakeRecv.wakeSend.notifyClosed

def readBytes (c : SocketStreamHandle) (n : Nat) : Poll (List UInt8) × Notified :=
  let (bytes, recvBuffer) := c.recvBuffer.dequeueSlice n
  let c := { c with recvBuffer }
  (.ready bytes, if bytes.length > 0 then c.notifyReadReady else (c, []))

def pollRead (c : SocketStreamHandle) (n : Nat) : Poll (List UInt8) × Notified :=
  if c.recvBuffer.isEmpty then
    let c := { c with recvWaker := c.recvWaker.register }
    if c.recvBuffer.isEmpty then
      if c.socketClosed || c.readClosed then (.ready [], c, []) else (.pending, c, [])
    else c.readBytes n
  else c.readBytes n

inductive WriteResult where
  | written (n : Nat)
  | brokenPipe
deriving DecidableEq, Repr

def writeBytes (c : SocketStreamHandle) (buf : List UInt8) : Poll WriteResult × Notified :=
  let wasEmpty := c.sendBuffer.isEmpty
  let (n, sendBuffer) := c.sendBuffer.enqueueSlice buf
  let c := { c with sendBuffer }
  (.ready (.written n), if wasEmpty && n > 0 then c.notifyWriteReady else (c, []))

def pollWrite (c : SocketStreamHandle) (buf : List UInt8) : Poll WriteResult × Notified :=
  if c.writeClosed || c.writeShutdown then (.ready .brokenPipe, c, [])
  else if c.sendBuffer.isFull then
    let c := { c with sendWaker := c.sendWaker.register }
    if c.sendBuffer.isFull then (.pending, c, []) else c.writeBytes buf
  else c.writeBytes buf

def pollFlush (c : SocketStreamHandle) : Poll Unit × Notified :=
  if c.sendBuffer.isEmpty then (.ready (), c, [])
  else
    let (c, events) := c.notifyWriteReady
    let c := { c with sendWaker := c.sendWaker.register }
    if c.sendBuffer.isEmpty then (.ready (), c, events) else (.pending, c, events)

def pollShutdown (c : SocketStreamHandle) : Poll Unit × Notified :=
  match c.pollFlush with
  | (.pending, notified) => (.pending, notified)
  | (.ready (), c, events) =>
      if c.writeShutdown then (.ready (), c, events)
      else
        let (c, more) := { c with writeShutdown := true }.notifyWriteReady
        (.ready (), c, events ++ more)

end SocketStreamHandle

end Usque
