import Usque.Manager.Runs
import Usque.Stack.Reference

namespace Usque

namespace Script

abbrev Reached := System Reference.smoltcp

def hickory : Hickory where
  Name := String
  nameFromStr := .ok
  queryToBytes := fun _ _ _ => .ok [1]
  messageFromBytes := fun _ => .error "malformed message"

def params : ConnectionParams where
  ipv4 := some (some 0x0a000002#32)
  ipv6 := none
  dnsServers := []
  tcpBufferSize := 64
  tunnelMode := .masque
  managerTunables := { maxPendingData := 16, maxPendingToClient := 16 }
  stackTunables := {}

def remote : Ipv4Address := 0x01020304#32

def remotePort : UInt16 := 80

def segment (localPort : UInt16) (flags : Nat) (payload : List UInt8) : Packet :=
  Reference.ipv4Segment remote 0x0a000002#32 remotePort localPort flags payload

def skipDrains : List Label := List.replicate 4 (.manager .nextPhase)

def handle (cmd : ManagerCommand) : List Label :=
  [.submit cmd, .manager (.checkAlive true), .manager (.command 0)] ++ skipDrains ++
    [.manager .advance]

def connect (localPort : UInt16) (response : OneshotId) : List Label :=
  handle (.connect (.ipv4 remote) remotePort localPort false response)

def timerPoll : List Label :=
  [.manager (.checkAlive true), .manager .pollTimer, .manager .advance]

def receive (packet : Packet) : List Label :=
  [.io (.incoming packet), .manager (.checkAlive true), .manager (.incoming none)] ++
    skipDrains ++ [.manager .advance]

def serveEvent : List Label :=
  [.manager (.checkAlive true), .manager .socketEvent] ++ skipDrains ++ [.manager .advance]

def refresh : Label := .manager (.refresh 0)

def sweepAndSend : List Label := [.manager .advance, .manager (.transmit [])]

def establish : List Label := [.manager (.establish 1500)]

-- A connection whose handshake is done: SYN out, SYN and ACK in, ACK out.
def established (localPort : UInt16) (response : OneshotId) : List Label :=
  connect localPort response ++ [refresh] ++ timerPoll ++ sweepAndSend ++
    receive (segment localPort (Reference.tcpSyn + Reference.tcpAck) []) ++
    [.manager .advance, .manager .advance, refresh] ++ timerPoll ++ sweepAndSend

-- The peer refuses the connection and a sweep removes its socket.
def refused : List Label :=
  establish ++ connect 5000 0 ++ [refresh] ++ timerPoll ++ sweepAndSend ++
    receive (segment 5000 (Reference.tcpRst + Reference.tcpAck) []) ++
    [.manager .advance, .manager .advance, refresh] ++ timerPoll ++ sweepAndSend

def run (labels : List Label) : Option Reached :=
  Run.exec (System.step hickory) (System.init Reference.smoltcp params) labels

theorem run_reachable {labels : List Label} {s : Reached}
    (h : run labels = some s) : System.Reachable hickory params s :=
  Run.exec_reaches h

theorem exists_reachable {labels : List Label} {p : Reached → Bool}
    (h : (run labels).any p = true) : ∃ s, System.Reachable hickory params s ∧ p s = true := by
  obtain ⟨s, hs, hp⟩ := (Option.any_eq_true _ _).mp h
  exact ⟨s, run_reachable hs, hp⟩

theorem exists_guarded {guard : Reached → Label → Prop} {labels : List Label}
    {p : Reached → Bool}
    (hg : Run.Guarded (System.step hickory) guard (System.init Reference.smoltcp params) labels)
    (h : (run labels).any p = true) :
    ∃ s, Run.Reaches (System.step hickory) guard (System.init Reference.smoltcp params) s ∧
      p s = true := by
  obtain ⟨s, hs, hp⟩ := (Option.any_eq_true _ _).mp h
  exact ⟨s, Run.exec_guarded hs hg, hp⟩

end Script

end Usque
