import Usque.Lib.Leases
import Usque.Manager.CommandQueue
import Usque.Manager.UdpEndpoints

namespace Usque

-- Where a call of handle_udp_associate stands, from its draw of a port on.
inductive AssociateStage where
  | drawn
  | registering
  | answered (registered : Bool)
  | forwarding
  | unregistering
  | unregistered
  | returned
deriving DecidableEq, Repr

structure Associate where
  localPort : UInt16
  stage : AssociateStage
deriving DecidableEq, Repr

inductive AssociateOp where
  | register
  | registerFailed
  | replySuccess (written : Bool)
  | forwarded
  | unregister
  | finish
  | abandon
deriving DecidableEq, Repr

inductive AssociateLabel where
  | system (l : Label)
  | getLocalPort
  | associate
  | call (i : Nat) (op : AssociateOp)
deriving DecidableEq, Repr

-- The calls run beside the manager. `asked` names the call that each queued command comes from, and
-- `owner` the call whose registration made a session's channel.
structure Associates (S : Smoltcp) where
  sys : System S
  localPortCounter : UInt16
  calls : List Associate
  asked : List (Option (LeaseMessage Nat))
  owner : ChannelId → Option Nat

namespace System

variable {S : Smoltcp}

-- Only the calls register and unregister sessions, and each keeps its response_rx while it waits.
def asideOfUdp (s : System S) : Label → Bool
  | .submit (.udpRegister _ _) | .submit (.udpUnregister _) => false
  | .cancel response =>
      !s.cmdRx.any (fun
        | .udpRegister _ r => r = response
        | _ => false)
  | _ => true

def registers (s : System S) (l : Label) : Bool :=
  (s.handled l).any (fun
    | .udpRegister localPort _ => s.rt.opensSession localPort
    | _ => false)

end System

namespace Associates

variable {S : Smoltcp} {H : Hickory}

def init (S : Smoltcp) (params : ConnectionParams) : Associates S where
  sys := .init S params
  localPortCounter := 0
  calls := []
  asked := []
  owner := fun _ => none

def enter (s : Associates S) (i : Nat) (stage : AssociateStage) : Associates S :=
  { s with calls := s.calls.modify i (fun c => { c with stage }) }

-- The call whose UdpRegister the manager has handled gets its answer.
def answer (s : Associates S) (l : Label) : Associates S :=
  match s.asked.head? with
  | some (some (.take i)) =>
      if s.sys.registers l then
        { s.enter i (.answered true) with
          owner := Function.update s.owner s.sys.rt.shared.nextChannel (some i) }
      else s.enter i (.answered false)
  | _ => s

def systemStep (s : Associates S) (l : Label) (t : System S) : Associates S :=
  if t.cmdRx.length < s.sys.cmdRx.length then
    { s.answer l with sys := t, asked := s.asked.tail }
  else if s.sys.cmdRx.length < t.cmdRx.length then
    { s with sys := t, asked := s.asked ++ [none] }
  else { s with sys := t }

def send (s : Associates S) (cmd : ManagerCommand) (message : LeaseMessage Nat) :
    Option (Associates S) :=
  (s.sys.submit cmd).map (fun sys => { s with sys, asked := s.asked ++ [some message] })

def callStep (s : Associates S) (i : Nat) (c : Associate) : AssociateOp → Option (Associates S)
  | .register =>
      if c.stage = .drawn then
        (s.enter i .registering).send (.udpRegister c.localPort s.sys.nextOneshot) (.take i)
      else none
  | .registerFailed => if c.stage = .answered false then some (s.enter i .returned) else none
  | .replySuccess written =>
      if c.stage = .answered true then
        some (s.enter i (if written then .forwarding else .returned))
      else none
  | .forwarded => if c.stage = .forwarding then some (s.enter i .unregistering) else none
  | .unregister =>
      if c.stage = .unregistering then
        (s.enter i .unregistered).send (.udpUnregister c.localPort) (.give i)
      else none
  | .finish => if c.stage = .unregistered then some (s.enter i .returned) else none
  -- The manager's task is gone, and with it the other ends of the channels that the call waits on.
  | .abandon =>
      if s.sys.lost ∧ c.stage ∈ [.drawn, .registering, .unregistering] then
        some (s.enter i .returned)
      else none

def step (H : Hickory) (s : Associates S) : AssociateLabel → Option (Associates S)
  | .system l => if s.sys.asideOfUdp l then (s.sys.step H l).map (s.systemStep l) else none
  | .getLocalPort =>
      some { s with localPortCounter := (Usque.getLocalPort s.localPortCounter).2 }
  | .associate =>
      let (localPort, localPortCounter) := Usque.getLocalPort s.localPortCounter
      some { s with localPortCounter, calls := s.calls ++ [⟨localPort, .drawn⟩] }
  | .call i op => s.calls[i]?.bind (fun c => s.callStep i c op)

-- The call whose session stands on a port; without a tunnel the manager has no sessions.
def holder (s : Associates S) (localPort : UInt16) : Option Nat :=
  if s.sys.connected then (s.sys.rt.udpTable.sessions localPort).bind (fun r => s.owner r.2)
  else none

structure SessionsOwned (s : Associates S) : Prop where
  removed : ∀ i c, s.calls[i]? = some c → c.stage = .returned → ∀ port, s.holder port ≠ some i
  unregisters : ∀ port i j, s.sys.cmdRx.head? = some (.udpUnregister port) →
    s.asked.head? = some (some (.give i)) → s.holder port = some j → j = i

end Associates

end Usque
