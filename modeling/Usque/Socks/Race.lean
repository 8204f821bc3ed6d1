import Usque.Lib.Run
import Usque.Manager.Runtime

namespace Usque

inductive Socks5Error where
  | connectionFailed (message : String)
  | protocolError (message : String)
  | tunnelError (e : ManagerError)
  | timeout
deriving DecidableEq, Repr

inductive RaceOutcome where
  | winner (handle : SocketHandle)
  | failed (error : Socks5Error)
  | timedOut
deriving DecidableEq, Repr

inductive RacePc where
  | start
  | connectingFirst (ip : IpAddress)
  | entering
  | head
  | select (hasMoreAddresses : Bool)
  | connecting (ip : IpAddress)
  | closingLosers (winner : SocketHandle)
  | closingFailed (handle : SocketHandle) (hasMoreAddresses : Bool)
  | cleanup
  | ended (outcome : RaceOutcome)
deriving DecidableEq, Repr

-- handle_tcp_connect_racing with its race. The tasks that wait for a socket are in waiting, the
-- notifications that they have sent in ready.
structure Race where
  addrIter : List IpAddress
  pending : List SocketHandle
  lastError : Option Socks5Error
  waiting : List SocketHandle
  ready : List (SocketHandle × TcpSocketState)
  nextAttempt : Bool
  pc : RacePc
  -- What was tried and started, what the waits have said, and where a close was sent or the stream
  -- dropped.
  attempts : List (IpAddress × Option SocketHandle)
  started : List SocketHandle
  reported : List (SocketHandle × TcpSocketState)
  closed : List SocketHandle
  dropped : List SocketHandle
deriving DecidableEq, Repr

inductive RaceLabel where
  | advance
  | connected (handle : SocketHandle)
  | refused (e : ManagerError)
  | report (handle : SocketHandle) (state : TcpSocketState)
  | recv
  | elapse
  | attempt
  | close (sent : Bool)
  | timeout (cutOff : Option SocketHandle)
deriving DecidableEq, Repr

namespace Race

def readyCapacity : Nat := 16

def new (addresses : List IpAddress) : Race where
  addrIter := addresses
  pending := []
  lastError := none
  waiting := []
  ready := []
  nextAttempt := false
  pc := .start
  attempts := []
  started := []
  reported := []
  closed := []
  dropped := []

def advance (s : Race) : Option Race :=
  match s.pc with
  | .start =>
      match s.addrIter with
      | ip :: addrIter => some { s with addrIter, pc := .connectingFirst ip }
      | [] => some { s with pc := .entering }
  | .entering => some { s with waiting := s.pending, nextAttempt := false, pc := .head }
  | .head =>
      if s.pending.isEmpty && s.addrIter.isEmpty then
        let error := s.lastError.getD (.connectionFailed "All connection attempts failed")
        some { s with pc := .ended (.failed error) }
      else some { s with pc := .select (!s.addrIter.isEmpty) }
  | .closingLosers winner =>
      if s.pending.isEmpty then some { s with pc := .ended (.winner winner) } else none
  | .cleanup => if s.pending.isEmpty then some { s with pc := .ended .timedOut } else none
  | _ => none

def connected (s : Race) (handle : SocketHandle) : Option Race :=
  match s.pc with
  | .connectingFirst ip =>
      some { s with
        pending := s.pending ++ [handle]
        pc := .entering
        attempts := s.attempts ++ [(ip, some handle)]
        started := s.started ++ [handle] }
  | .connecting ip =>
      some { s with
        pending := s.pending ++ [handle]
        waiting := s.waiting ++ [handle]
        nextAttempt := false
        pc := .head
        attempts := s.attempts ++ [(ip, some handle)]
        started := s.started ++ [handle] }
  | _ => none

def refused (s : Race) (e : ManagerError) : Option Race :=
  match s.pc with
  | .connectingFirst ip =>
      some { s with
        lastError := some (.tunnelError e)
        pc := .entering
        attempts := s.attempts ++ [(ip, none)] }
  | .connecting ip =>
      some { s with
        lastError := some (.tunnelError e)
        nextAttempt := false
        pc := .head
        attempts := s.attempts ++ [(ip, none)] }
  | _ => none

def report (s : Race) (handle : SocketHandle) (state : TcpSocketState) : Option Race :=
  if handle ∈ s.waiting ∧ s.ready.length < readyCapacity then
    some { s with
      waiting := s.waiting.erase handle
      ready := s.ready ++ [(handle, state)]
      reported := s.reported ++ [(handle, state)] }
  else none

-- The pattern of a removed failure drops its stream before the close is sent.
def notified (s : Race) (handle : SocketHandle) (state : TcpSocketState)
    (hasMoreAddresses : Bool) : Race :=
  match state with
  | .established =>
      if handle ∈ s.pending then
        { s with pending := s.pending.erase handle, pc := .closingLosers handle }
      else { s with pc := .head }
  | .closed =>
      if handle ∈ s.pending then
        { s with
          pending := s.pending.erase handle
          pc := .closingFailed handle hasMoreAddresses
          dropped := s.dropped ++ [handle] }
      else { s with pc := .head }
  | .connecting => { s with pc := .head }

def recv (s : Race) : Option Race :=
  match s.pc, s.ready with
  | .select hasMoreAddresses, (handle, state) :: ready =>
      some ({ s with ready }.notified handle state hasMoreAddresses)
  | _, _ => none

-- The timer's branch: it is biased behind the notifications and needs addresses.
def attempt (s : Race) : Option Race :=
  match s.pc, s.ready with
  | .select true, [] =>
      if s.nextAttempt then
        match s.addrIter with
        | ip :: addrIter => some { s with addrIter, pc := .connecting ip }
        | [] => some { s with nextAttempt := false, pc := .head }
      else none
  | _, _ => none

def closeFirst (s : Race) (sent : Bool) : Option Race :=
  match s.pending with
  | handle :: pending =>
      some { s with
        pending
        closed := if sent then s.closed ++ [handle] else s.closed
        dropped := s.dropped ++ [handle] }
  | [] => none

def close (s : Race) (sent : Bool) : Option Race :=
  match s.pc with
  | .closingLosers _ | .cleanup => s.closeFirst sent
  | .closingFailed handle hasMoreAddresses =>
      some { s with
        lastError := some (.connectionFailed "Connection closed")
        nextAttempt := s.nextAttempt || s.pending.isEmpty && hasMoreAddresses
        pc := .head
        closed := if sent then s.closed ++ [handle] else s.closed }
  | _ => none

-- The overall timeout drops the race where it waits: a connection whose answer was not awaited, the
-- winner whose losers were being closed, and what was left of them.
def timeout (s : Race) (cutOff : Option SocketHandle) : Option Race :=
  match s.pc with
  | .select _ | .closingFailed _ _ => some { s with pc := .cleanup }
  | .connecting _ =>
      some { s with
        pc := .cleanup
        started := s.started ++ cutOff.toList
        dropped := s.dropped ++ cutOff.toList }
  | .closingLosers winner =>
      some { s with
        pending := []
        pc := .cleanup
        dropped := s.dropped ++ winner :: s.pending }
  | _ => none

def step (s : Race) : RaceLabel → Option Race
  | .advance => s.advance
  | .connected handle => s.connected handle
  | .refused e => s.refused e
  | .report handle state => s.report handle state
  | .recv => s.recv
  | .elapse => some { s with nextAttempt := true }
  | .attempt => s.attempt
  | .close sent => s.close sent
  | .timeout cutOff => s.timeout cutOff

-- The manager's handles are distinct, and a wait ends with Established or Closed.
def managerAnswers (s : Race) : RaceLabel → Prop
  | .connected handle => handle ∉ s.started
  | .report _ state => state ≠ .connecting
  | _ => True

end Race

end Usque
