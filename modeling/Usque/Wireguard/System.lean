import Usque.Manager.Runs
import Usque.Wireguard.Tunnel

namespace Usque

namespace WgTunnel

variable {G : Gotatun}

def flushTransportSideEffects (t : WgTunnel G) (now : Time) : WgTunnel G :=
  let t := (t.drainQueuedToSendQueue now).2
  if t.pendingSendPackets > 0 then (t.flushSendQueue now).2 else t

def flushPending (t : WgTunnel G) (now : Time) : WgTunnel G :=
  if t.pendingSendPackets > 0 then t.flushTransportSideEffects now else t

def encryptPackets (t : WgTunnel G) (now : Time) (packets : List Packet) : Outcome (WgTunnel G) :=
  Outcome.run (fun t packet => t.encryptIpPacket now packet) t packets

def drainStackPackets (t : WgTunnel G) (now : Time) (packets : List Packet) :
    Outcome (WgTunnel G) := do
  let t ← t.encryptPackets now packets
  .ok (if packets.length > 0 ∨ t.pendingSendPackets > 0 then (t.flushSendQueue now).2 else t)

def maintain (t : WgTunnel G) (now : Time) : WgTunnel G :=
  (t.tickTimers now).2.flushTransportSideEffects now

end WgTunnel

structure WgParams where
  clientId : ClientId
  mtu : UInt16

namespace WgParams

def stackMtu (wg : WgParams) : Nat := if wg.mtu = 0 then 1280 else wg.mtu.toNat

end WgParams

-- The labels that leave the WireGuard tunnel alone.
def Label.tunnelFree : Label → Bool
  | .manager (.establish _) | .manager (.checkAlive _) | .manager (.incoming _)
  | .manager .maintenance | .manager .pollTimer | .manager (.transmit _)
  | .manager (.refresh _) => false
  | _ => true

def Label.isManager : Label → Bool
  | .manager _ => true
  | _ => false

inductive WgLabel (G : Gotatun) where
  | system (label : Label)
  | outcomes (outcomes : List Bool)
  | establish (tunn : G.Tunn) (outcomes : List Bool) (initiated start : Time)
      (events : List (Time × HandshakeEvent))
  | checkAlive
  | incoming
  | maintenance
  | pollTimer
  | transmit
  | refresh

-- The manager's run with its WireGuard tunnel. A panic of the encryption ends the manager task.
structure WgSystem (S : Smoltcp) (G : Gotatun) where
  wg : WgParams
  sys : System S
  tunnel : Option (WgTunnel G)
  panicked : Bool

namespace WgSystem

variable {S : Smoltcp} {G : Gotatun} (H : Hickory)

def init (S : Smoltcp) (G : Gotatun) (params : ConnectionParams) (wg : WgParams) :
    WgSystem S G where
  wg := wg
  sys := .init S { params with tunnelMode := .wireguard }
  tunnel := none
  panicked := false

def now (w : WgSystem S G) : Time := w.sys.rt.shared.now

-- The tunnel is dropped with the loop that holds it.
def advance (w : WgSystem S G) (choice : Choice) (tunnel : System S → WgTunnel G) :
    Option (WgSystem S G) :=
  (w.sys.step H (.manager choice)).map (fun sys =>
    { w with sys, tunnel := if sys.connected then some (tunnel sys) else none })

def systemStep (w : WgSystem S G) (label : Label) : Option (WgSystem S G) :=
  if label.tunnelFree ∧ (label.isManager → w.panicked = false) then
    (w.sys.step H label).map (fun sys =>
      { w with sys, tunnel := if sys.connected then w.tunnel else none })
  else none

def stackPackets (w : WgSystem S G) : List Packet :=
  (ActiveTunnel.takePackets (w.sys.tunnel.stackDrainBudget w.sys.rt.tunables) w.sys.rt.stack).1

-- poll_active_tunnel ends with flush_transport_side_effects.
def polled (now : Time) (t : WgTunnel G) (sys : System S) : WgTunnel G :=
  if sys.pc = .loopHead then t.flushPending now else t

def transmitStep (w : WgSystem S G) (t : WgTunnel G) : Option (WgSystem S G) :=
  match t.drainStackPackets w.now w.stackPackets with
  | .ok t => w.advance H (.transmit []) (polled w.now t)
  | .error _ =>
      (w.sys.step H (.manager (.transmit []))).map (fun _ =>
        { w with tunnel := none, panicked := true })

def incomingStep (w : WgSystem S G) (t : WgTunnel G) : Option (WgSystem S G) :=
  match w.sys.incomingRx with
  | .incoming data :: _ =>
      let (decrypted, t) := t.decryptIncoming w.now data
      w.advance H (.incoming decrypted) (fun _ => t)
  | _ => w.advance H (.incoming none) (fun _ => t)

def refreshStep (w : WgSystem S G) (t : WgTunnel G) : Option (WgSystem S G) :=
  let t := t.flushPending w.now
  w.advance H (.refresh t.pendingSendPackets) (fun _ => t)

def tunnelStep (w : WgSystem S G) (t : WgTunnel G) : WgLabel G → Option (WgSystem S G)
  | .outcomes outcomes =>
      some { w with tunnel := some { t with socket := { t.socket with outcomes } } }
  | .checkAlive => w.advance H (.checkAlive (!t.isExpired)) (fun _ => t)
  | .incoming => w.incomingStep H t
  | .maintenance => w.advance H .maintenance (fun _ => t.maintain w.now)
  | .pollTimer => w.advance H .pollTimer (polled w.now t)
  | .transmit => w.transmitStep H t
  | .refresh => w.refreshStep H t
  | _ => none

def handshakeTimeout : Time := secs 30

def newTunnel (w : WgSystem S G) (tunn : G.Tunn) (outcomes : List Bool) : WgTunnel G :=
  { WgTunnel.new tunn w.wg.clientId with socket := { WgSocket.new with outcomes } }

def establishStep (w : WgSystem S G) (tunn : G.Tunn) (outcomes : List Bool)
    (initiated start : Time) (events : List (Time × HandshakeEvent)) : Option (WgSystem S G) :=
  match (w.newTunnel tunn outcomes).establish initiated start handshakeTimeout events with
  | (some (.ok ()), t) => w.advance H (.establish w.wg.stackMtu) (fun _ => t)
  | _ => none

def step (w : WgSystem S G) (label : WgLabel G) : Option (WgSystem S G) :=
  match label, w.tunnel with
  | .system label, _ => w.systemStep H label
  | .establish tunn outcomes initiated start events, none =>
      if w.panicked then none else w.establishStep H tunn outcomes initiated start events
  | label, some t => if w.panicked then none else w.tunnelStep H t label
  | _, none => none

def Reachable (params : ConnectionParams) (wg : WgParams) (w : WgSystem S G) : Prop :=
  Run.Reaches (step H) Run.Any (init S G params wg) w

end WgSystem

end Usque
