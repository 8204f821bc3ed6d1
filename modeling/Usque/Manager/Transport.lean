import Usque.Manager.Phases

namespace Usque

inductive TunnelMode where
  | masque
  | wireguard
deriving DecidableEq, Repr

inductive ActiveTunnel where
  | masque (blockedStreak : Nat) (blockedUntil : Option Time)
  | wg (nextTimerAt : Time)
deriving DecidableEq, Repr

inductive TransportIoEvent where
  | incoming (data : Packet)
  | quicFlush
  | masqueBlocked
deriving DecidableEq, Repr

inductive SendResult where
  | sent
  | full
  | closed
deriving DecidableEq, Repr

structure LoopSchedule where
  stackPollDeadline : Option Time
  blockedSendDeadline : Option Time
  pollDeadline : Option Time
  maintenanceDeadline : Option Time
deriving DecidableEq, Repr

def earliest : Option Time → Option Time → Option Time
  | some a, some b => some (min a b)
  | some a, none => some a
  | none, b => b

namespace ActiveTunnel

variable {S : Smoltcp}

def fromConn (mode : TunnelMode) (tunables : ManagerTunables) (now : Time) : ActiveTunnel :=
  match mode with
  | .masque => .masque 0 none
  | .wireguard => .wg (now + tunables.wgTimerInterval)

def stackPollDeadline (rt : RuntimeState S) : Option Time :=
  if !rt.hasPollWork then none
  else if rt.stack.hasRxPackets then some rt.shared.now
  else
    some (rt.shared.now +
      min ((rt.stack.pollDelay rt.shared.now).getD 0) rt.tunables.maxPollInterval)

def blockedSendDeadline (tunnel : ActiveTunnel) (now maxPollInterval : Time) : Option Time :=
  match tunnel with
  | .masque _ (some blockedUntil) =>
      if now < blockedUntil then some (min blockedUntil (now + maxPollInterval)) else none
  | _ => none

def maintenanceDeadline : ActiveTunnel → Option Time
  | .wg nextTimerAt => some nextTimerAt
  | .masque _ _ => none

def computeLoopSchedule (tunnel : ActiveTunnel) (rt : RuntimeState S) : LoopSchedule :=
  let stackPollDeadline := stackPollDeadline rt
  let blockedSendDeadline := tunnel.blockedSendDeadline rt.shared.now rt.tunables.maxPollInterval
  { stackPollDeadline
    blockedSendDeadline
    pollDeadline := earliest stackPollDeadline blockedSendDeadline
    maintenanceDeadline := tunnel.maintenanceDeadline }

def runMaintenanceTick (tunnel : ActiveTunnel) (tunables : ManagerTunables) (now : Time) :
    ActiveTunnel :=
  match tunnel with
  | .wg _ => .wg (now + tunables.wgTimerInterval)
  | .masque streak blockedUntil => .masque streak blockedUntil

def stackDrainBudget (tunnel : ActiveTunnel) (tunables : ManagerTunables) : Nat :=
  match tunnel with
  | .masque _ _ => tunables.masqueStackDrainBudget
  | .wg _ => tunables.wgStackDrainBudget

def masqueDrainBlocked (tunnel : ActiveTunnel) (now : Time) : Bool :=
  match tunnel with
  | .masque _ (some blockedUntil) => now < blockedUntil
  | _ => false

def takePackets : Nat → NetworkStack S → List Packet × NetworkStack S
  | 0, stack => ([], stack)
  | n + 1, stack =>
      match stack.takePacket with
      | none => ([], stack)
      | some (packet, stack) =>
          let (packets, stack) := takePackets n stack
          (packet :: packets, stack)

def requeuePackets (stack : NetworkStack S) (packets : List Packet) : NetworkStack S :=
  packets.reverse.foldl NetworkStack.requeuePacketFront stack

-- Every batch holds a packet, so a fuel equal to the budget covers all of them.
def drainMasque (batchSize : Nat) (now : Time) :
    Nat → Nat → List SendResult → Nat → Option Time → NetworkStack S → ActiveTunnel × NetworkStack S
  | 0, _, _, streak, blockedUntil, stack => (.masque streak blockedUntil, stack)
  | fuel + 1, budget, results, streak, blockedUntil, stack =>
      match takePackets (min (max batchSize 1) budget) stack with
      | ([], stack) => (.masque streak blockedUntil, stack)
      | (packets, stack) =>
          match results.headD .sent with
          | .sent =>
              drainMasque batchSize now fuel (budget - packets.length) results.tail 0 none stack
          | .full =>
              let streak := min (streak + 1) 6
              (.masque streak (some (now + 1000 * min (2 ^ (streak - 1)) 32)),
                requeuePackets stack packets)
          | .closed => (.masque streak blockedUntil, requeuePackets stack packets)

def drainStackPackets (tunnel : ActiveTunnel) (rt : RuntimeState S) (results : List SendResult) :
    ActiveTunnel × RuntimeState S :=
  let budget := tunnel.stackDrainBudget rt.tunables
  if tunnel.masqueDrainBlocked rt.shared.now then (tunnel, rt)
  else
    match tunnel with
    | .masque streak blockedUntil =>
        let batchSize := min rt.tunables.masqueSendBatchSize (max budget 1)
        let (tunnel, stack) :=
          drainMasque batchSize rt.shared.now budget budget results streak blockedUntil rt.stack
        (tunnel, { rt with stack })
    | .wg nextTimerAt =>
        let (_, stack) := takePackets budget rt.stack
        (.wg nextTimerAt, { rt with stack })

-- `decrypted` is what decrypt_incoming makes of the datagram; only WireGuard asks for it.
def handleIncomingDatagram (tunnel : ActiveTunnel) (rt : RuntimeState S) (data : Packet)
    (decrypted : Option Packet) : Outcome (Bool × RuntimeState S) :=
  match tunnel with
  | .masque _ _ => do
      let rt ← rt.injectIncoming data
      .ok (true, rt)
  | .wg _ =>
      match decrypted with
      | none => .ok (false, rt)
      | some packet => do
          let rt ← rt.injectIncoming packet
          .ok (true, rt)

def handleTransportIoEvent (tunnel : ActiveTunnel) (rt : RuntimeState S)
    (decrypted : Option Packet) : TransportIoEvent → Outcome (Bool × RuntimeState S)
  | .incoming data => tunnel.handleIncomingDatagram rt data decrypted
  | .quicFlush => .ok (false, rt)
  | .masqueBlocked => .ok (false, rt)

end ActiveTunnel

end Usque
