import Usque.Lib.Run
import Usque.Manager.Phases
import Usque.Manager.PollSteps

namespace Usque

-- What the manager's functions for one socket read and write of its SocketState.
structure SocketSide where
  pendingEvents : EventMask
  closeRequested : Bool
  writeShutdown : Bool
  finSent : Bool
deriving DecidableEq, Repr

def SocketState.side (st : SocketState) : SocketSide :=
  ⟨st.pendingEvents, st.closeRequested, st.writeShutdown, st.finSent⟩

namespace SocketSide

def new : SocketSide := ⟨.empty, false, false, false⟩

def noteEvent (kind : SocketEventKind) (side : SocketSide) : SocketSide :=
  { side with
    pendingEvents := side.pendingEvents.union kind.bit
    closeRequested := side.closeRequested || kind = .closed
    writeShutdown := side.writeShutdown || kind = .closed }

def mark (mask : EventMask) (side : SocketSide) : SocketSide :=
  { side with pendingEvents := side.pendingEvents.union mask }

end SocketSide

-- Where the manager is in its work on one socket. Every access to what it shares with the owner
-- of the stream, and every answer of the stack, is a step of its own.
inductive SweepPc where
  | resting
  | isActive (fullSweep : Bool)
  | takeEvents (fullSweep : Bool)
  | clearRead (mask : EventMask)
  | clearWrite (mask : EventMask)
  | clearClosed (mask : EventMask)
  | loadDropped (mask : EventMask)
  | loadShutdown (mask : EventMask)
  | flushHead (mask : EventMask)
  | flushPeek (mask : EventMask)
  | flushSend (mask : EventMask) (chunk : List UInt8)
  | flushConsume (mask : EventMask) (offered sent : Nat)
  | flushWake (mask : EventMask) (stop : Bool)
  | fillHead
  | fillLen
  | fillRecv (readLen : Nat)
  | fillStore (data : List UInt8)
  | fillWake (stop : Bool)
  | pastHandshake
  | mayRecv
  | storeReadClosed
  | wakeReader
  | maySend
  | storeWriteClosed
  | wakeWriter
  | sendFin
  | closeStore
  | closeWake
  | closeSwap
  | closeSend
  | retireSocketClosed
  | retireReadClosed
  | retireWriteClosed
  | retireWakeReader
  | retireWakeWriter
  | retired
deriving DecidableEq, Repr

inductive StackReply where
  | none
  | flag (b : Bool)
  | sent (result : Except StackError Nat)
  | received (result : Except StackError (List UInt8))

inductive SocketWork where
  | socketEvent
  | incoming
  | close
  | sweep (fullSweep : Bool)
  | go (reply : StackReply)

-- `refused` is a ghost field: why the last flush_pending_to_stack stopped.
structure ManagedSocket where
  tcpChunkSize : Nat
  side : SocketSide
  stream : SocketStreamHandle
  events : List SocketEventKind
  ready : Bool
  pc : SweepPc
  refused : Bool

namespace SocketSide

def afterFlush (side : SocketSide) (mask : EventMask) : SweepPc :=
  if mask.read && !side.closeRequested then .fillHead else .pastHandshake

def afterLoads (side : SocketSide) (mask : EventMask) : SweepPc :=
  if mask.write || mask.closed || side.closeRequested || side.writeShutdown then .flushHead mask
  else side.afterFlush mask

end SocketSide

namespace ManagedSocket

def turn (w : ManagedSocket) (pc : SweepPc) : ManagedSocket := { w with pc }

def store (w : ManagedSocket) (stream : SocketStreamHandle) (pc : SweepPc) : ManagedSocket :=
  { w with stream, pc }

def stopFlush (w : ManagedSocket) (refused : Bool) (mask : EventMask) : ManagedSocket :=
  { w with refused, pc := w.side.afterFlush mask }

def goTake (w : ManagedSocket) (fullSweep : Bool) : ManagedSocket :=
  let mask := if fullSweep then ⟨true, true, true⟩ else w.side.pendingEvents
  { w with side := { w.side with pendingEvents := .empty }, pc := .clearRead mask }

def goLoadDropped (w : ManagedSocket) (mask : EventMask) : ManagedSocket :=
  { w with
    side := { w.side with
      closeRequested := w.side.closeRequested || w.stream.socketDropped
      writeShutdown := w.side.writeShutdown || w.stream.socketDropped }
    pc := .loadShutdown mask }

def goLoadShutdown (w : ManagedSocket) (mask : EventMask) : ManagedSocket :=
  let side := { w.side with writeShutdown := w.side.writeShutdown || w.stream.writeShutdown }
  { w with side, pc := side.afterLoads mask }

def goPeek (w : ManagedSocket) (mask : EventMask) : ManagedSocket :=
  let chunk := w.stream.sendBuffer.peekCopy w.tcpChunkSize
  if chunk.isEmpty then w.stopFlush false mask else w.turn (.flushSend mask chunk)

def goSend (w : ManagedSocket) (mask : EventMask) (chunk : List UInt8) :
    Except StackError Nat → ManagedSocket
  | .error _ => w.stopFlush true mask
  | .ok sent =>
      if sent = 0 then w.stopFlush true mask
      else w.turn (.flushConsume mask chunk.length sent)

def goRecv (w : ManagedSocket) : Except StackError (List UInt8) → ManagedSocket
  | .error _ => w.turn .pastHandshake
  | .ok data => w.turn (if data.isEmpty then .pastHandshake else .fillStore data)

def goStore (w : ManagedSocket) (data : List UInt8) : ManagedSocket :=
  let (written, recvBuffer) := w.stream.recvBuffer.enqueueSlice data
  w.store { w.stream with recvBuffer }
    (if written > 0 then .fillWake (written < data.length) else .pastHandshake)

def goFin (w : ManagedSocket) (maySend : Bool) : ManagedSocket :=
  let closes := w.side.closeRequested && !w.side.finSent &&
    decide (w.stream.sendBuffer.len = 0) && maySend
  { w with side := { w.side with finSent := w.side.finSent || closes }, pc := .resting }

def go (w : ManagedSocket) (reply : StackReply) : Option ManagedSocket :=
  let c := w.stream
  match w.pc, reply with
  | .isActive fullSweep, .flag active =>
      some (w.turn (if active then .takeEvents fullSweep else .retireSocketClosed))
  | .takeEvents fullSweep, .none => some (w.goTake fullSweep)
  | .clearRead mask, .none =>
      some (w.store (if mask.read then c.clearReadEvent else c) (.clearWrite mask))
  | .clearWrite mask, .none =>
      some (w.store (if mask.write then c.clearWriteEvent else c) (.clearClosed mask))
  | .clearClosed mask, .none =>
      some (w.store (if mask.closed then c.clearCloseEvent else c) (.loadDropped mask))
  | .loadDropped mask, .none => some (w.goLoadDropped mask)
  | .loadShutdown mask, .none => some (w.goLoadShutdown mask)
  | .flushHead mask, .flag maySend =>
      some (if maySend then w.turn (.flushPeek mask) else w.stopFlush true mask)
  | .flushPeek mask, .none => some (w.goPeek mask)
  | .flushSend mask chunk, .sent result => some (w.goSend mask chunk result)
  | .flushConsume mask offered sent, .none =>
      some (w.store { c with sendBuffer := c.sendBuffer.consume sent }
        (.flushWake mask (sent < offered)))
  | .flushWake mask stop, .none =>
      let w := w.store c.wakeSend (.flushHead mask)
      some (if stop then w.stopFlush true mask else w)
  | .fillHead, .flag mayRecv =>
      some (w.turn (if c.recvBuffer.remainingCapacity > 0 && mayRecv then .fillLen
        else .pastHandshake))
  | .fillLen, .none =>
      some (w.turn (.fillRecv (min c.recvBuffer.remainingCapacity w.tcpChunkSize)))
  | .fillRecv _, .received result => some (w.goRecv result)
  | .fillStore data, .none => some (w.goStore data)
  | .fillWake stop, .none => some (w.store c.wakeRecv (if stop then .pastHandshake else .fillHead))
  | .pastHandshake, .flag past => some (w.turn (if past then .mayRecv else .sendFin))
  | .mayRecv, .flag mayRecv => some (w.turn (if mayRecv then .maySend else .storeReadClosed))
  | .storeReadClosed, .none => some (w.store { c with readClosed := true } .wakeReader)
  | .wakeReader, .none => some (w.store c.wakeRecv .maySend)
  | .maySend, .flag maySend => some (w.turn (if maySend then .sendFin else .storeWriteClosed))
  | .storeWriteClosed, .none => some (w.store { c with writeClosed := true } .wakeWriter)
  | .wakeWriter, .none => some (w.store c.wakeSend .sendFin)
  | .sendFin, .flag maySend => some (w.goFin maySend)
  | .closeStore, .none => some (w.store { c with writeShutdown := true } .closeWake)
  | .closeWake, .none => some (w.store c.wakeSend .closeSwap)
  | .closeSwap, .none =>
      some (w.store (c.setEventQueued .closed true)
        (if c.eventQueued .closed then .resting else .closeSend))
  | .closeSend, .none => some { w with events := w.events ++ [.closed], pc := .resting }
  | .retireSocketClosed, .none =>
      some { w.store { c with socketClosed := true } .retireReadClosed with ready := false }
  | .retireReadClosed, .none => some (w.store { c with readClosed := true } .retireWriteClosed)
  | .retireWriteClosed, .none => some (w.store { c with writeClosed := true } .retireWakeReader)
  | .retireWakeReader, .none => some (w.store c.wakeRecv .retireWakeWriter)
  | .retireWakeWriter, .none => some (w.store c.wakeSend .retired)
  | _, _ => none

def receive (w : ManagedSocket) (kind : SocketEventKind) (events : List SocketEventKind) :
    ManagedSocket :=
  { w with side := w.side.noteEvent kind, events, ready := true }

def markIncoming (w : ManagedSocket) : ManagedSocket :=
  { w with side := w.side.mark ⟨true, true, false⟩, ready := true }

def beginClose (w : ManagedSocket) : ManagedSocket :=
  { w with side := { w.side with closeRequested := true, writeShutdown := true }, pc := .closeStore }

def beginSweep (w : ManagedSocket) (fullSweep : Bool) : ManagedSocket :=
  { w with ready := false, pc := .isActive fullSweep }

-- A targeted sweep takes the handle from the ready queue; a full one empties the queue first.
def work (w : ManagedSocket) (job : SocketWork) : Option ManagedSocket :=
  match job, w.pc with
  | .socketEvent, .resting =>
      match w.events with
      | [] => none
      | kind :: events => some (w.receive kind events)
  | .socketEvent, .retired =>
      match w.events with
      | [] => none
      | _ :: events => some { w with events }
  | .incoming, .resting => some w.markIncoming
  | .close, .resting => some w.beginClose
  | .sweep fullSweep, .resting =>
      if fullSweep || w.ready then some (w.beginSweep fullSweep) else none
  | .go reply, _ => w.go reply
  | _, _ => none

abbrev Goes (w w' : ManagedSocket) : Prop :=
  Run.Reaches (fun w reply => go w reply) Run.Any w w'

theorem goes_head {w u v : ManagedSocket} (reply : StackReply) (h : w.go reply = some u)
    (k : Goes u v) : Goes w v :=
  (Run.Reaches.single trivial h).trans k

section uninterleaved

variable {S : Smoltcp} {handle : SocketHandle} {fuel : Nat} {stack stack' : NetworkStack S}
  {c' : SocketStreamHandle} {w : ManagedSocket} {mask : EventMask}

theorem goes_flush (mask : EventMask)
    (h : flushPendingToStack handle w.tcpChunkSize fuel stack w.stream = .ok (stack', c')) :
    ∃ refused, Goes (w.turn (.flushHead mask)) ({ w with stream := c' }.stopFlush refused mask) := by
  induction fuel generalizing stack w with
  | zero => cases h
  | succ fuel ih =>
      obtain ⟨maySend, _, h⟩ := Outcome.bind_eq_ok.mp h
      split at h
      · next hsend =>
          cases h
          exact ⟨true, goes_head (.flag false) rfl (.refl _)⟩
      · dsimp only at h
        have hpeek : Goes (w.turn (.flushHead mask)) (w.turn (.flushPeek mask)) :=
          goes_head (.flag true) rfl (.refl _)
        split at h
        · next hempty =>
            cases h
            refine ⟨false, hpeek.trans (goes_head .none ?_ (.refl _))⟩
            exact congrArg some (if_pos hempty)
        · next hempty =>
            have hsend : Goes (w.turn (.flushHead mask))
                (w.turn (.flushSend mask (w.stream.sendBuffer.peekCopy w.tcpChunkSize))) := by
              refine hpeek.trans (goes_head .none ?_ (.refl _))
              exact congrArg some (if_neg hempty)
            obtain ⟨⟨result, stack₁⟩, _, h⟩ := Outcome.bind_eq_ok.mp h
            cases result with
            | error e =>
                cases h
                exact ⟨true, hsend.trans (goes_head (.sent (.error e)) rfl (.refl _))⟩
            | ok n =>
                dsimp only at h
                split at h
                · next h0 =>
                    cases h
                    refine ⟨true, hsend.trans (goes_head (.sent (.ok n)) ?_ (.refl _))⟩
                    exact congrArg some (if_pos h0)
                · next h0 =>
                    have hconsume : Goes (w.turn (.flushHead mask))
                        (w.turn (.flushConsume mask
                          (w.stream.sendBuffer.peekCopy w.tcpChunkSize).length n)) := by
                      refine hsend.trans (goes_head (.sent (.ok n)) ?_ (.refl _))
                      exact congrArg some (if_neg h0)
                    split at h
                    · next hlt =>
                        cases h
                        refine ⟨true, hconsume.trans (goes_head .none rfl
                          (goes_head .none ?_ (.refl _)))⟩
                        exact congrArg some (if_pos (decide_eq_true hlt))
                    · next hlt =>
                        obtain ⟨refused, hrest⟩ := ih
                          (w := { w with
                            stream := { w.stream with
                              sendBuffer := w.stream.sendBuffer.consume n }.wakeSend }) h
                        refine ⟨refused, hconsume.trans (goes_head .none rfl
                          (goes_head .none ?_ hrest))⟩
                        exact congrArg some (if_neg (by simpa using hlt))

theorem goStore_eq {data : List UInt8} {written : Nat} {recvBuffer : TcpRingBuffer}
    (hq : w.stream.recvBuffer.enqueueSlice data = (written, recvBuffer)) :
    w.goStore data = w.store { w.stream with recvBuffer }
      (if written > 0 then .fillWake (written < data.length) else .pastHandshake) := by
  simp only [goStore, hq]

theorem goes_fill
    (h : fillRecvBuffer handle w.tcpChunkSize fuel stack w.stream = .ok (stack', c')) :
    Goes (w.turn .fillHead) (w.store c' .pastHandshake) := by
  induction fuel generalizing stack w with
  | zero => cases h
  | succ fuel ih =>
      obtain ⟨mayRecv, _, h⟩ := Outcome.bind_eq_ok.mp h
      split at h
      · next hstop =>
          cases h
          refine goes_head (.flag mayRecv) ?_ (.refl _)
          have hno : ¬ (0 < w.stream.recvBuffer.remainingCapacity ∧ mayRecv = true) := by
            intro hgo
            simp [hgo.2, Nat.pos_iff_ne_zero.mp hgo.1] at hstop
          exact congrArg (fun pc => some (w.turn pc)) (if_neg (by simpa [turn] using hno))
      · next hgo =>
          simp only [Bool.or_eq_true, decide_eq_true_eq, Bool.not_eq_true', not_or,
            Bool.not_eq_false] at hgo
          have hlen : Goes (w.turn .fillHead) (w.turn (.fillRecv
              (min w.stream.recvBuffer.remainingCapacity w.tcpChunkSize))) := by
            refine goes_head (.flag mayRecv) (u := w.turn .fillLen) ?_
              (goes_head .none rfl (.refl _))
            exact congrArg (fun pc => some (w.turn pc))
              (if_pos (by simp [turn, Nat.pos_iff_ne_zero.mpr hgo.1, hgo.2]))
          obtain ⟨⟨result, stack₁⟩, _, h⟩ := Outcome.bind_eq_ok.mp h
          cases result with
          | error e =>
              cases h
              exact hlen.trans (goes_head (.received (.error e)) rfl (.refl _))
          | ok data =>
              dsimp only at h
              split at h
              · next h0 =>
                  cases h
                  refine hlen.trans (goes_head (.received (.ok data)) ?_ (.refl _))
                  exact congrArg (fun pc => some (w.turn pc)) (if_pos h0)
              · next h0 =>
                  have hdata : Goes (w.turn .fillHead) (w.turn (.fillStore data)) := by
                    refine hlen.trans (goes_head (.received (.ok data)) ?_ (.refl _))
                    exact congrArg (fun pc => some (w.turn pc)) (if_neg h0)
                  cases hq : w.stream.recvBuffer.enqueueSlice data with
                  | mk written recvBuffer =>
                      by_cases hw : written > 0
                      · have hput : w.stream.storeReceived data =
                            (written, { w.stream with recvBuffer := recvBuffer }.wakeRecv) := by
                          simp only [SocketStreamHandle.storeReceived, hq, if_pos hw]
                        have hwake : Goes (w.turn .fillHead)
                            (w.store { w.stream with recvBuffer := recvBuffer }
                              (.fillWake (written < data.length))) := by
                          refine hdata.trans (goes_head .none ?_ (.refl _))
                          exact congrArg some ((goStore_eq hq).trans
                            (congrArg (w.store _) (if_pos hw)))
                        rw [hput] at h
                        split at h
                        · next hlt =>
                            cases h
                            refine hwake.trans (goes_head .none ?_ (.refl _))
                            exact congrArg (fun pc => some (w.store _ pc))
                              (if_pos (decide_eq_true hlt))
                        · next hlt =>
                            refine hwake.trans (goes_head .none ?_ (ih
                              (w := { w with
                                stream := { w.stream with recvBuffer := recvBuffer }.wakeRecv })
                              h))
                            exact congrArg (fun pc => some (w.store _ pc))
                              (if_neg (by simpa using hlt))
                      · have hput : w.stream.storeReceived data =
                            (written, { w.stream with recvBuffer := recvBuffer }) := by
                          simp only [SocketStreamHandle.storeReceived, hq, if_neg hw]
                        have hpos : 0 < data.length := by
                          cases data with
                          | nil => simp at h0
                          | cons _ _ => simp
                        rw [hput, if_pos (by omega)] at h
                        cases h
                        refine hdata.trans (goes_head .none ?_ (.refl _))
                        exact congrArg some ((goStore_eq hq).trans
                          (congrArg (w.store _) (if_neg hw)))

variable {v v' : Service S}

theorem goes_closeHalves {pastHandshake : Bool} (hw : w.stream = v.stream)
    (h : v.closeHalves handle pastHandshake = .ok v') :
    Goes (w.turn .pastHandshake) (w.store v'.stream .sendFin) ∧ v'.entry = v.entry := by
  obtain ⟨mayRecv, _, h⟩ := Outcome.bind_eq_ok.mp h
  obtain ⟨maySend, _, h⟩ := Outcome.bind_eq_ok.mp h
  cases h
  refine ⟨?_, rfl⟩
  cases pastHandshake with
  | false =>
      refine goes_head (.flag false) rfl ?_
      simp only [Bool.false_and, Bool.false_eq_true, if_false, ← hw]
      exact .refl _
  | true =>
      refine goes_head (.flag true) rfl ?_
      simp only [Bool.true_and, ← hw]
      have hread : Goes (w.turn .mayRecv) (w.store
          (if (!mayRecv) = true then { w.stream with readClosed := true }.wakeRecv else w.stream)
          .maySend) := by
        cases mayRecv with
        | true => exact goes_head (.flag true) rfl (.refl _)
        | false =>
            exact goes_head (.flag false) rfl (goes_head .none rfl
              (goes_head .none rfl (.refl _)))
      refine hread.trans ?_
      cases maySend with
      | true => exact goes_head (.flag true) rfl (.refl _)
      | false =>
          exact goes_head (.flag false) rfl (goes_head .none rfl
            (goes_head .none rfl (.refl _)))

theorem goes_sendFin (hw : w.stream = v.stream) (hs : w.side = v.entry.side)
    (h : v.sendFin handle = .ok v') :
    Goes (w.turn .sendFin) { w with side := v'.entry.side, pc := .resting } ∧
      v'.stream = v.stream := by
  obtain ⟨maySend, _, h⟩ := Outcome.bind_eq_ok.mp h
  refine ⟨goes_head (.flag maySend) (u := w.goFin maySend) rfl ?_, ?_⟩
  · split at h
    · next hclose =>
        obtain ⟨stack, _, h⟩ := Outcome.bind_eq_ok.mp h
        cases h
        simp only [goFin, hw, hs, SocketState.side, hclose, Bool.or_true]
        exact .refl _
    · next hclose =>
        cases h
        simp only [goFin, hw, hs, SocketState.side, eq_false_of_ne_true hclose, Bool.or_false]
        exact .refl _
  · split at h
    · obtain ⟨stack, _, h⟩ := Outcome.bind_eq_ok.mp h
      cases h
      rfl
    · cases h
      rfl

theorem goes_begin (fullSweep : Bool) (hw : w.stream = v.stream) (hs : w.side = v.entry.side) :
    Goes (w.turn (.takeEvents fullSweep))
      { w with
        side := (v.begin fullSweep).entry.side
        stream := (v.begin fullSweep).stream
        pc := (v.begin fullSweep).entry.side.afterLoads (v.takeEvents fullSweep).1 } := by
  refine goes_head .none rfl (goes_head .none rfl
    (goes_head .none rfl (goes_head .none rfl
      (goes_head .none rfl (goes_head .none rfl ?_)))))
  cases fullSweep with
  | true =>
      simp [goTake, goLoadDropped, goLoadShutdown, store, turn, hw, hs]
      exact .refl _
  | false =>
      simp [goTake, goLoadDropped, goLoadShutdown, store, turn, hw, hs]
      exact .refl _

theorem goes_serviceWrite (hw : w.stream = v.stream) {should : Bool}
    (hshould : should = (mask.write || mask.closed || w.side.closeRequested || w.side.writeShutdown))
    (h : v.serviceWrite should handle w.tcpChunkSize = .ok v') :
    ∃ refused, Goes (w.turn (w.side.afterLoads mask))
        ({ w with stream := v'.stream }.stopFlush refused mask) ∧ v'.entry = v.entry := by
  simp only [Service.serviceWrite] at h
  simp only [SocketSide.afterLoads, ← hshould]
  split at h
  · next hgo =>
      obtain ⟨⟨stack, stream⟩, hf, h⟩ := Outcome.bind_eq_ok.mp h
      cases h
      rw [← hw] at hf
      obtain ⟨refused, hflush⟩ := goes_flush mask hf
      rw [if_pos hgo]
      exact ⟨refused, hflush, rfl⟩
  · next hgo =>
      cases h
      rw [if_neg hgo]
      refine ⟨w.refused, ?_, rfl⟩
      rw [← hw]
      exact .refl _

theorem goes_serviceRead (hw : w.stream = v.stream) (hs : w.side = v.entry.side)
    (h : v.serviceRead mask.read handle w.tcpChunkSize = .ok v') :
    Goes (w.turn (w.side.afterFlush mask)) (w.store v'.stream .pastHandshake) ∧
      v'.entry = v.entry := by
  simp only [Service.serviceRead, ← show w.side.closeRequested = v.entry.closeRequested from
    congrArg SocketSide.closeRequested hs] at h
  simp only [SocketSide.afterFlush]
  split at h
  · next hgo =>
      obtain ⟨⟨stack, stream⟩, hf, h⟩ := Outcome.bind_eq_ok.mp h
      cases h
      rw [← hw] at hf
      rw [if_pos hgo]
      exact ⟨goes_fill hf, rfl⟩
  · next hgo =>
      cases h
      rw [if_neg hgo, ← hw]
      exact ⟨.refl _, rfl⟩

theorem shouldServiceWrite_eq (v : Service S) (fullSweep : Bool) :
    v.shouldServiceWrite fullSweep = ((v.takeEvents fullSweep).1.write ||
      (v.takeEvents fullSweep).1.closed || (v.begin fullSweep).entry.side.closeRequested ||
      (v.begin fullSweep).entry.side.writeShutdown) := by
  cases fullSweep with
  | true => rfl
  | false => simp only [Service.shouldServiceWrite, Bool.false_or, SocketState.side]

theorem shouldServiceRead_eq (v : Service S) (fullSweep : Bool) :
    v.shouldServiceRead fullSweep = (v.takeEvents fullSweep).1.read := by
  cases fullSweep with
  | true => rfl
  | false => simp only [Service.shouldServiceRead, Bool.false_or]

theorem syncConnecting_same {pastHandshake : Bool}
    (h : v.syncPollInterest.syncConnecting handle = .ok (pastHandshake, v')) :
    v'.stream = v.stream ∧ v'.entry.side = v.entry.side := by
  obtain ⟨past, _, h⟩ := Outcome.bind_eq_ok.mp h
  cases h
  exact ⟨rfl, rfl⟩

-- A socket's service in poll_tcp_sockets is these steps, taken without the owner.
theorem goes_service {fullSweep : Bool} (hw : w.stream = v.stream) (hs : w.side = v.entry.side)
    (h : v.run fullSweep handle w.tcpChunkSize = .ok v') :
    ∃ refused, Goes (w.turn (.takeEvents fullSweep))
      { w with side := v'.entry.side, stream := v'.stream, refused, pc := .resting } := by
  have hbegin := goes_begin fullSweep hw hs
  obtain ⟨v₁, h₁, h⟩ := Outcome.bind_eq_ok.mp h
  obtain ⟨v₂, h₂, h⟩ := Outcome.bind_eq_ok.mp h
  obtain ⟨⟨past, v₃⟩, h₃, h⟩ := Outcome.bind_eq_ok.mp h
  obtain ⟨v₄, h₄, h₅⟩ := Outcome.bind_eq_ok.mp h
  rw [shouldServiceWrite_eq] at h₁
  rw [shouldServiceRead_eq] at h₂
  obtain ⟨refused, hwrite, he₁⟩ := goes_serviceWrite
    (w := { w with
      side := (v.begin fullSweep).entry.side
      stream := (v.begin fullSweep).stream }) rfl rfl h₁
  obtain ⟨hread, he₂⟩ := goes_serviceRead
    (w := { w with
      side := (v.begin fullSweep).entry.side
      stream := v₁.stream
      refused := refused }) rfl (congrArg SocketState.side he₁.symm) h₂
  obtain ⟨hs₃, he₃⟩ := syncConnecting_same h₃
  obtain ⟨hclose, he₄⟩ := goes_closeHalves
    (w := { w with
      side := (v.begin fullSweep).entry.side
      stream := v₂.stream
      refused := refused }) hs₃.symm h₄
  have hside : (v.begin fullSweep).entry.side = v₄.entry.side := by
    rw [he₄, he₃, he₂, he₁]
  obtain ⟨hfin, hs₅⟩ := goes_sendFin
    (w := { w with
      side := (v.begin fullSweep).entry.side
      stream := v₄.stream
      refused := refused }) rfl hside h₅
  refine ⟨refused, ?_⟩
  rw [hs₅]
  exact hbegin.trans (hwrite.trans (hread.trans (hclose.trans hfin)))

theorem goes_retire (hready : w.ready = false) :
    Goes (w.turn .retireSocketClosed)
      (w.store (RuntimeState.closedStream w.stream) .retired) := by
  refine goes_head .none rfl (goes_head .none rfl
    (goes_head .none rfl (goes_head .none rfl
      (goes_head .none rfl ?_))))
  simp only [turn, store, RuntimeState.closedStream, ← hready]
  exact .refl _

-- close_connection without its owner's steps in between.
theorem goes_close :
    Goes (w.turn .closeStore)
      { w with
        stream := (RuntimeState.closingStream w.stream).1
        events := w.events ++ (RuntimeState.closingStream w.stream).2
        pc := .resting } := by
  let c := { w.stream with writeShutdown := true }.wakeSend
  have hswap : Goes (w.turn .closeStore) (w.store (c.setEventQueued .closed true)
      (if c.eventQueued .closed then .resting else .closeSend)) :=
    goes_head .none rfl (goes_head .none rfl
      (goes_head .none rfl (.refl _)))
  refine hswap.trans ?_
  simp only [RuntimeState.closingStream, SocketStreamHandle.notifyClosed,
    SocketStreamHandle.notify]
  cases hq : c.eventQueued .closed with
  | true =>
      simp only [if_true, c.setEventQueued_self hq, List.append_nil]
      exact .refl _
  | false =>
      simp only [Bool.false_eq_true, if_false]
      exact goes_head .none rfl (.refl _)

end uninterleaved

end ManagedSocket

end Usque
