import Usque.Manager.Script
import Usque.Wireguard.System

namespace Usque

namespace Reference

inductive WgMessage where
  | initiation
  | response
  | data (packet : Packet)
deriving DecidableEq, Repr

-- The Tunn of an initiator whose messages are not encrypted: packets wait for the handshake.
structure WgTunn where
  handshake : Option Time
  waiting : List Packet
deriving DecidableEq, Repr

namespace WgMessage

def intoPacket : WgMessage → Packet
  | .initiation => [1, 0, 0, 0] ++ List.replicate 144 0
  | .response => [2, 0, 0, 0] ++ List.replicate 88 0
  | .data packet => [4, 0, 0, 0] ++ packet

def tryIntoWg : Packet → Except String WgMessage
  | 1 :: 0 :: 0 :: 0 :: _ => .ok .initiation
  | 2 :: 0 :: 0 :: 0 :: _ => .ok .response
  | 4 :: 0 :: 0 :: 0 :: packet => .ok (.data packet)
  | _ => .error "invalid packet"

end WgMessage

namespace WgTunn

def handleOutgoingPacket (tunn : WgTunn) (packet : Packet) : Option WgMessage × WgTunn :=
  match tunn.handshake with
  | some _ => (some (.data packet), tunn)
  | none => (some .initiation, { tunn with waiting := tunn.waiting ++ [packet] })

def handleIncomingPacket (now : Time) (tunn : WgTunn) :
    WgMessage → TunnResult WgMessage × WgTunn
  | .initiation => (.writeToNetwork .response, tunn)
  | .response => (.done, { tunn with handshake := some now })
  | .data packet => (.writeToTunnel packet, tunn)

def nextQueuedPacket (tunn : WgTunn) : Option WgMessage × WgTunn :=
  match tunn.handshake, tunn.waiting with
  | some _, packet :: waiting => (some (.data packet), { tunn with waiting })
  | _, _ => (none, tunn)

theorem nextQueued_lt {tunn tunn' : WgTunn} {wg : WgMessage}
    (h : tunn.nextQueuedPacket = (some wg, tunn')) :
    tunn'.waiting.length < tunn.waiting.length := by
  simp only [nextQueuedPacket] at h
  split at h
  · next hwaiting =>
      cases h
      rw [hwaiting]
      exact Nat.lt_succ_self _
  · cases h

end WgTunn

def gotatun : Gotatun where
  Tunn := WgTunn
  WgKind := WgMessage
  pooledLen := 4096
  intoPacket := WgMessage.intoPacket
  tryIntoWg := WgMessage.tryIntoWg
  formatHandshakeInitiation := fun _ tunn _ => (some .initiation, tunn)
  handleOutgoingPacket := fun _ tunn packet => tunn.handleOutgoingPacket packet
  handleIncomingPacket := fun now tunn wg => tunn.handleIncomingPacket now wg
  nextQueuedPacket := fun _ tunn => tunn.nextQueuedPacket
  updateTimers := fun _ tunn => (.ok none, tunn)
  timeSinceLastHandshake := fun now tunn => tunn.handshake.map (now - ·)
  isExpired := fun _ => false
  queuedPackets := fun tunn => tunn.waiting.length
  nextQueued_lt := fun _ _ _ _ h => WgTunn.nextQueued_lt h

end Reference

namespace WgScript

abbrev Reached := WgSystem Reference.smoltcp Reference.gotatun

def wgParams : WgParams := ⟨⟨[7, 8, 9], rfl⟩, 0⟩

def establish : List (WgLabel Reference.gotatun) :=
  [.establish ⟨none, []⟩ [] 0 0 [(0, .recv Reference.WgMessage.response.intoPacket)]]

-- A connection attempt whose SYN is encrypted and offered to the socket.
def connect : List (WgLabel Reference.gotatun) :=
  [.system (.submit (.connect (.ipv4 Script.remote) Script.remotePort 5000 false 0)), .checkAlive,
    .system (.manager (.command 0))] ++ List.replicate 4 (.system (.manager .nextPhase)) ++
  [.system (.manager .advance), .refresh, .checkAlive, .pollTimer, .system (.manager .advance),
    .system (.manager .advance), .transmit]

-- The timers' next tick is due.
def due : List (WgLabel Reference.gotatun) := [.checkAlive, .system (.tick 250000)]

def run (labels : List (WgLabel Reference.gotatun)) : Option Reached :=
  Run.exec (WgSystem.step Script.hickory)
    (WgSystem.init Reference.smoltcp Reference.gotatun Script.params wgParams) labels

theorem exists_reachable {labels : List (WgLabel Reference.gotatun)} {p : Reached → Bool}
    (h : (run labels).any p = true) :
    ∃ w, WgSystem.Reachable Script.hickory Script.params wgParams w ∧ p w = true := by
  obtain ⟨w, hw, hp⟩ := (Option.any_eq_true _ _).mp h
  exact ⟨w, Run.exec_reaches hw, hp⟩

end WgScript

end Usque
