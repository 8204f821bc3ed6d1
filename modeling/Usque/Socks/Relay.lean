import Usque.Manager.EndOfStream

namespace Usque

-- The client's socket: bytes on their way to the relay, and bytes it has accepted for the client.
structure ClientSocket where
  inbox : List UInt8
  finished : Bool
  outbox : List UInt8
  capacity : Nat
deriving DecidableEq, Repr

def ClientSocket.room (c : ClientSocket) : Nat := c.capacity - c.outbox.length

-- Where forward_tcp_data is: at its select, or in the handler of a read that has returned.
inductive RelayPc where
  | select
  | toClient (data : List UInt8)
  | flushClient
  | shutdownClient
  | toTunnel (data : List UInt8)
  | shutdownTunnel
  | done
deriving DecidableEq, Repr

-- The call in progress on the tunnel's stream is `tunnel.poll`. The last two fields are ghost: what
-- the client's socket and the tunnel's stream have accepted.
structure Relay where
  tunnel : StreamRun
  client : ClientSocket
  pc : RelayPc
  clientEof : Bool
  tunnelEof : Bool
  delivered : List UInt8
  forwarded : List UInt8

-- read_buf reads into whatever spare capacity its BytesMut has, which is never none.
inductive RelayLabel where
  | call (room : Nat)
  | poll
  | readClient (n : Nat)
  | writeClient (n : Nat)
  | finishClient
  | failClient
  | timeout
  | manager (job : SocketWork)
  | clientSends (data : List UInt8)
  | clientFinishes
  | clientTakes (n : Nat)

namespace RelayLabel

def own : RelayLabel → Bool
  | .call _ | .poll | .readClient _ | .writeClient _ | .finishClient => true
  | _ => false

end RelayLabel

namespace Relay

def init (tunnel : StreamRun) (capacity : Nat) : Relay where
  tunnel := tunnel
  client := ⟨[], false, [], capacity⟩
  pc := .select
  clientEof := false
  tunnelEof := false
  delivered := []
  forwarded := []

def stream (s : Relay) : SocketStreamHandle := s.tunnel.stream

def idle (s : Relay) : Bool := s.tunnel.poll.isReturned

def loopHead (s : Relay) : Relay :=
  { s with pc := if s.clientEof && s.tunnelEof then .done else .select }

def wrote (s : Relay) (n : Nat) : Relay :=
  match s.pc with
  | .toTunnel data =>
      let s := { s with forwarded := s.forwarded ++ data.take n }
      if n = 0 then { s with pc := .done }
      else if (data.drop n).isEmpty then s.loopHead
      else { s with pc := .toTunnel (data.drop n) }
  | _ => s

def answer (s : Relay) : PollReturn → Relay
  | .read _ (.ready data) =>
      { s with pc := if data.isEmpty then .flushClient else .toClient data }
  | .write (.ready (.written n)) => s.wrote n
  | .write (.ready .brokenPipe) => { s with pc := .done }
  | .shutdown (.ready ()) => { s with clientEof := true }.loopHead
  | _ => s

def op (s : Relay) (room : Nat) : Option ClientOp :=
  match s.pc with
  | .select => if s.tunnelEof || room = 0 then none else some (.read room)
  | .toTunnel data => some (.write data)
  | .shutdownTunnel => some .shutdown
  | _ => none

def call (s : Relay) (room : Nat) : Option Relay :=
  (s.op room).bind (fun op => (s.tunnel.startStep op).map (fun tunnel => { s with tunnel }))

def polled (s : Relay) (tunnel : StreamRun) : Relay :=
  match tunnel.poll with
  | .returned (some last) => { s with tunnel }.answer last
  | _ => { s with tunnel }

def poll (s : Relay) : Option Relay := s.tunnel.pollStep.map s.polled

-- The select polls its two arms one after the other.
def readClient (s : Relay) (n : Nat) : Option Relay :=
  if s.pc = .select ∧ s.idle ∧ s.clientEof = false then
    if n = 0 then
      if s.client.inbox = [] ∧ s.client.finished then some { s with pc := .shutdownTunnel }
      else none
    else if n ≤ s.client.inbox.length then
      some { s with
        client := { s.client with inbox := s.client.inbox.drop n }
        pc := .toTunnel (s.client.inbox.take n) }
    else none
  else none

def writeClient (s : Relay) (n : Nat) : Option Relay :=
  match s.pc with
  | .toClient data =>
      if 0 < n ∧ n ≤ data.length ∧ n ≤ s.client.room then
        let s := { s with
          client := { s.client with outbox := s.client.outbox ++ data.take n }
          delivered := s.delivered ++ data.take n }
        some (if (data.drop n).isEmpty then s.loopHead
          else { s with pc := .toClient (data.drop n) })
      else none
  | _ => none

-- A TcpStream has nothing to flush, and its shutdown does not wait.
def finishClient (s : Relay) : Option Relay :=
  match s.pc with
  | .flushClient => some { s with pc := .shutdownClient }
  | .shutdownClient => some { s with tunnelEof := true }.loopHead
  | _ => none

def failClient (s : Relay) : Option Relay :=
  match s.pc with
  | .select => if s.idle && !s.clientEof then some { s with pc := .done } else none
  | .toClient _ => some { s with pc := .done }
  | _ => none

def timeout (s : Relay) : Option Relay :=
  if s.idle ∧ s.pc ≠ .done then some { s with pc := .done } else none

def step (s : Relay) : RelayLabel → Option Relay
  | .call room => s.call room
  | .poll => s.poll
  | .readClient n => s.readClient n
  | .writeClient n => s.writeClient n
  | .finishClient => s.finishClient
  | .failClient => s.failClient
  | .timeout => s.timeout
  | .manager job => (s.tunnel.socket.work job).map (fun w => { s with tunnel := s.tunnel.served w })
  | .clientSends data =>
      if s.client.finished then none
      else some { s with client := { s.client with inbox := s.client.inbox ++ data } }
  | .clientFinishes => some { s with client := { s.client with finished := true } }
  | .clientTakes n =>
      some { s with client := { s.client with outbox := s.client.outbox.drop n } }

def Starts (s : Relay) : Prop :=
  ∃ tunnel capacity, StreamRun.Starts tunnel ∧ s = init tunnel capacity

def Reachable (guard : Relay → RelayLabel → Prop) (s : Relay) : Prop :=
  ∃ s₀, Starts s₀ ∧ Run.Reaches step guard s₀ s

theorem Reachable.invariant {guard : Relay → RelayLabel → Prop} {I : Relay → Prop} {s : Relay}
    (h : Reachable guard s) (hinit : ∀ s, Starts s → I s)
    (hstep : ∀ s a t, I s → guard s a → step s a = some t → I t) : I s := by
  obtain ⟨s₀, h₀, hr⟩ := h
  exact hr.invariant hstep (hinit s₀ h₀)

-- What the relay reaches by itself.
abbrev Alone (s t : Relay) : Prop := Run.Reaches step (fun _ label => label.own = true) s t

def TunnelReadable (s : Relay) : Prop := s.stream.recvBuffer.isEmpty = false

def ClientAccepts (s : Relay) : Prop := 0 < s.client.room

def ClientReadable (s : Relay) : Prop := s.client.inbox ≠ []

def TunnelAccepts (s : Relay) : Prop :=
  s.stream.sendBuffer.isFull = false ∧ s.stream.writeClosed = false ∧
    s.stream.writeShutdown = false

def Delivers (s : Relay) : Prop := ∃ t, Alone s t ∧ s.delivered.length < t.delivered.length

def Forwards (s : Relay) : Prop := ∃ t, Alone s t ∧ s.forwarded.length < t.forwarded.length

-- The relay waits until one side takes its bytes, and leaves that side's bytes unread.
def WaitsOnTunnel (s : Relay) : Prop :=
  s.tunnel.poll.sendPending = true ∧ s.TunnelReadable

def WaitsOnClient (s : Relay) : Prop :=
  (∃ data, s.pc = .toClient data) ∧ ¬ s.ClientAccepts ∧ s.ClientReadable

structure FullDuplex (s : Relay) : Prop where
  inbound : s.pc ≠ .done → s.TunnelReadable → s.ClientAccepts → s.Delivers
  outbound : s.pc ≠ .done → s.ClientReadable → s.TunnelAccepts → s.Forwards
  tunnel : s.pc ≠ .done → ¬ s.WaitsOnTunnel
  client : s.pc ≠ .done → ¬ s.WaitsOnClient

end Relay

end Usque
