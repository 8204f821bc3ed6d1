import Usque.Lib.Permits
import Usque.Manager.TcpSlots
import Usque.Manager.UdpEndpoints
import Usque.Socks.Interleave
import Usque.Socks.Resolve

namespace Usque

inductive Socks5Command where
  | tcpConnect
  | tcpBind
deriving DecidableEq, Repr

-- A connection is tried alone, as the first of a race, or by the race, which may time out.
inductive Attempt where
  | single
  | first
  | raced
deriving DecidableEq, Repr

inductive RequestStage where
  | arrived
  | picked
  | resolving (response : OneshotId)
  | resolved (addresses : List IpAddress)
  | connecting (attempt : Attempt) (localPort : UInt16) (ip : IpAddress)
      (addresses : List IpAddress)
  | awaiting (attempt : Attempt) (response : OneshotId) (addresses : List IpAddress)
  | racing (addresses : List IpAddress)
  | timedOut (slot : Permit OneshotId)
  | serving
  | binding
  | ended
deriving DecidableEq

-- A client's CONNECT or BIND, from handle_client on.
structure TcpRequest where
  command : Socks5Command
  target : TargetAddr
  manager : Nat
  stage : RequestStage
deriving DecidableEq

inductive RequestOp where
  | pick (manager active : Nat)
  | overloaded
  | resolve
  | resolved
  | start
  | send
  | receive
  | attempt (active : Nat)
  | settle (won : Bool)
  | timeout
  | finish
deriving DecidableEq, Repr

inductive RequestLabel where
  | manager (m : Nat) (l : Label)
  | getLocalPort
  | accept (command : Socks5Command) (target : TargetAddr)
  | request (i : Nat) (op : RequestOp)
deriving DecidableEq

namespace System

variable {S : Smoltcp}

-- try_reserve_tcp_slot, with the value of active_tcp_sockets that it has loaded.
def tryReserve (s : System S) (active : Nat) : Option (System S) :=
  let stats := s.rt.shared.stats
  let (reserved, taken) := { stats with activeTcpSockets := active }.tryReserveTcpSlot
  if reserved then
    some (s.setShared { s.rt.shared with
      stats := { stats with pendingConnects := taken.pendingConnects } })
  else none

def finishReserved (s : System S) : System S :=
  s.setShared { s.rt.shared with stats := s.rt.shared.stats.finishReservedTcpConnect }

def received (s : System S) (response : OneshotId) : Option Reply :=
  (s.rt.shared.replies.find? (fun p => p.1 = response)).map Prod.snd

end System

def TargetAddr.port : TargetAddr → UInt16
  | .ip addr => addr.port
  | .domain _ port => port

-- The pool's managers and the requests that run beside them.
structure TcpRequests (S : Smoltcp) where
  workers : Nat
  managers : Nat → System S
  localPortCounter : UInt16
  requests : List TcpRequest

namespace TcpRequests

variable {S : Smoltcp} {H : Hickory}

def init (S : Smoltcp) (params : ConnectionParams) (workers : Nat) : TcpRequests S where
  workers := workers
  managers := fun _ => .init S params
  localPortCounter := 0
  requests := []

def setManager (s : TcpRequests S) (m : Nat) (sys : System S) : TcpRequests S :=
  { s with managers := Function.update s.managers m sys }

def enter (s : TcpRequests S) (i : Nat) (r : TcpRequest) (stage : RequestStage) : TcpRequests S :=
  { s with requests := s.requests.set i { r with stage } }

def afterFailure (attempt : Attempt) (addresses : List IpAddress) : RequestStage :=
  match attempt with
  | .single => .ended
  | .first | .raced => .racing addresses

def afterSuccess (attempt : Attempt) (addresses : List IpAddress) : RequestStage :=
  match attempt with
  | .single => .serving
  | .first | .raced => .racing addresses

-- A command goes to the request's manager, and the request waits for its answer.
def ask (s : TcpRequests S) (i : Nat) (r : TcpRequest) (cmd : OneshotId → ManagerCommand)
    (stage : OneshotId → RequestStage) : Option (TcpRequests S) :=
  let response := (s.managers r.manager).nextOneshot
  ((s.managers r.manager).submit (cmd response)).map
    (fun sys => (s.setManager r.manager sys).enter i r (stage response))

def pick (s : TcpRequests S) (i : Nat) (r : TcpRequest) (m active : Nat) :
    Option (TcpRequests S) :=
  if r.stage = .arrived ∧ m < s.workers then
    ((s.managers m).tryReserve active).map
      (fun sys => (s.setManager m sys).enter i { r with manager := m } .picked)
  else none

def resolve (s : TcpRequests S) (i : Nat) (r : TcpRequest) : Option (TcpRequests S) :=
  if r.stage = .picked then
    match r.target, r.command with
    | .ip addr, .tcpConnect => some (s.enter i r (.resolved [stdIpToSmoltcp addr.ip]))
    | .ip _, .tcpBind => some (s.enter i r .binding)
    | .domain domain _, command =>
        if (s.managers r.manager).lost then some (s.enter i r .ended)
        else
          s.ask i r
            (match command with
              | .tcpConnect => .dnsResolveAll domain
              | .tcpBind => .dnsResolve domain true)
            .resolving
  else none

def resolved (s : TcpRequests S) (i : Nat) (r : TcpRequest) (response : OneshotId) :
    Option (TcpRequests S) :=
  match (s.managers r.manager).received response, r.command with
  | some (.resolvedAll (.ok ips)), .tcpConnect =>
      match interleaveAddresses ips with
      | .ok addresses => some (s.enter i r (.resolved addresses))
      | .error _ => some (s.enter i r .ended)
  | some (.resolved (.ok _)), .tcpBind => some (s.enter i r .binding)
  | some _, _ => some (s.enter i r .ended)
  | none, _ => if (s.managers r.manager).lost then some (s.enter i r .ended) else none

def start (s : TcpRequests S) (i : Nat) (r : TcpRequest) : Option (TcpRequests S) :=
  match r.stage with
  | .resolved [] => some (s.enter i r .ended)
  | .resolved (ip :: addresses) =>
      let (localPort, localPortCounter) := Usque.getLocalPort s.localPortCounter
      let attempt := if addresses.isEmpty then .single else .first
      some ({ s with localPortCounter }.enter i r (.connecting attempt localPort ip addresses))
  | _ => none

def attempt (s : TcpRequests S) (i : Nat) (r : TcpRequest) (active : Nat) :
    Option (TcpRequests S) :=
  match r.stage with
  | .racing (ip :: addresses) =>
      let (localPort, localPortCounter) := Usque.getLocalPort s.localPortCounter
      let s := { s with localPortCounter }
      match (s.managers r.manager).tryReserve active with
      | some sys =>
          some ((s.setManager r.manager sys).enter i r (.connecting .raced localPort ip addresses))
      | none => some (s.enter i r (.racing addresses))
  | _ => none

-- connect_inner up to the send, and from the response on. A Connect's sender is dropped only with
-- the manager's task, while the command is still queued or being handled.
def send (s : TcpRequests S) (i : Nat) (r : TcpRequest) : Option (TcpRequests S) :=
  match r.stage with
  | .connecting attempt localPort ip addresses =>
      let sys := s.managers r.manager
      if sys.lost then
        some ((s.setManager r.manager sys.finishReserved).enter i r
          (afterFailure attempt addresses))
      else
        s.ask i r (.connect ip r.target.port localPort true)
          (fun response => .awaiting attempt response addresses)
  | _ => none

def receive (s : TcpRequests S) (i : Nat) (r : TcpRequest) : Option (TcpRequests S) :=
  match r.stage with
  | .awaiting attempt response addresses =>
      let sys := s.managers r.manager
      match sys.received response with
      | some (.connected _) => some (s.enter i r (afterSuccess attempt addresses))
      | some (.connectFailed _) => some (s.enter i r (afterFailure attempt addresses))
      | some _ => none
      | none =>
          if sys.lost ∧ response ∈ sys.asked then
            some ((s.setManager r.manager sys.finishReserved).enter i r
              (afterFailure attempt addresses))
          else none
  | _ => none

-- The race's timeout drops what the race waits in.
def timeout (s : TcpRequests S) (i : Nat) (r : TcpRequest) : Option (TcpRequests S) :=
  match r.stage with
  | .racing _ => some (s.enter i r (.timedOut .none))
  | .connecting .raced _ _ _ => some (s.enter i r (.timedOut .held))
  | .awaiting .raced response _ =>
      let sys := s.managers r.manager
      let closedReceivers := response :: sys.rt.shared.closedReceivers
      some ((s.setManager r.manager (sys.setShared { sys.rt.shared with closedReceivers })).enter
        i r (.timedOut (.sent response)))
  | _ => none

def requestStep (s : TcpRequests S) (i : Nat) (r : TcpRequest) :
    RequestOp → Option (TcpRequests S)
  | .pick m active => s.pick i r m active
  | .overloaded => if r.stage = .arrived then some (s.enter i r .ended) else none
  | .resolve => s.resolve i r
  | .resolved =>
      match r.stage with
      | .resolving response => s.resolved i r response
      | _ => none
  | .start => s.start i r
  | .send => s.send i r
  | .receive => s.receive i r
  | .attempt active => s.attempt i r active
  | .settle won =>
      match r.stage with
      | .racing _ => some (s.enter i r (if won then .serving else .ended))
      | _ => none
  | .timeout => s.timeout i r
  | .finish =>
      match r.stage with
      | .serving | .binding | .timedOut _ => some (s.enter i r .ended)
      | _ => none

-- Only the requests take slots and open connections, and each keeps its receiver while it waits.
def asideOfRequests (s : TcpRequests S) (m : Nat) : Label → Bool
  | .submit (.connect ..) | .reserveSlot | .releaseSlot => false
  | .cancel response =>
      !s.requests.any (fun r => r.manager = m &&
        match r.stage with
        | .resolving awaited | .awaiting _ awaited _ => awaited = response
        | _ => false)
  | _ => true

def step (H : Hickory) (s : TcpRequests S) : RequestLabel → Option (TcpRequests S)
  | .manager m l =>
      if s.asideOfRequests m l then ((s.managers m).step H l).map (s.setManager m) else none
  | .getLocalPort =>
      some { s with localPortCounter := (Usque.getLocalPort s.localPortCounter).2 }
  | .accept command target =>
      some { s with requests := s.requests ++ [⟨command, target, 0, .arrived⟩] }
  | .request i op => s.requests[i]?.bind (fun r => s.requestStep i r op)

end TcpRequests

end Usque
