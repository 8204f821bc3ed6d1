import Usque.Lib.Run
import Usque.Masque.Datagram

namespace Usque

inductive TunnResult (WgKind : Type) where
  | done
  | err (e : String)
  | writeToNetwork (response : WgKind)
  | writeToTunnel (packet : Packet)

-- gotatun's Tunn with its index table, rate limiter and timers, and the length of a pooled packet.
structure Gotatun where
  Tunn : Type
  WgKind : Type
  pooledLen : Nat
  intoPacket : WgKind → Packet
  tryIntoWg : Packet → Except String WgKind
  formatHandshakeInitiation : Time → Tunn → Bool → Option WgKind × Tunn
  handleOutgoingPacket : Time → Tunn → Packet → Option WgKind × Tunn
  handleIncomingPacket : Time → Tunn → WgKind → TunnResult WgKind × Tunn
  nextQueuedPacket : Time → Tunn → Option WgKind × Tunn
  updateTimers : Time → Tunn → Except String (Option WgKind) × Tunn
  timeSinceLastHandshake : Time → Tunn → Option Time
  isExpired : Tunn → Bool
  -- How many packets the iterator of get_queued_packets may still give.
  queuedPackets : Tunn → Nat
  nextQueued_lt : ∀ now tunn wg tunn', nextQueuedPacket now tunn = (some wg, tunn') →
    queuedPackets tunn' < queuedPackets tunn

-- The three reserved bytes of a WireGuard header, which WARP fills with the client's id.
structure ClientId where
  bytes : List UInt8
  length_eq : bytes.length = 3
deriving DecidableEq

namespace ClientId

def zero : ClientId := ⟨[0, 0, 0], rfl⟩

end ClientId

def withClientId (clientId : ClientId) (buf : Packet) : Packet :=
  if buf.length ≥ 4 then buf.take 1 ++ clientId.bytes ++ buf.drop 4 else buf

def stripReserved (buf : Packet) : Packet :=
  if buf.length ≥ 4 then ((buf.set 1 0).set 2 0).set 3 0 else buf

inductive WgTunnelError where
  | io
  | wireGuard (message : String)
  | handshakeTimeout
  | handshakeInitFailed
deriving DecidableEq, Repr

-- The connected socket: the datagrams offered to it with what became of each, and the outcomes of
-- the sends to come.
structure WgSocket where
  offered : List (Packet × Bool)
  outcomes : List Bool
deriving DecidableEq, Repr

namespace WgSocket

def new : WgSocket := ⟨[], []⟩

-- try_send falls back to send on WouldBlock, so one outcome covers both.
def send (socket : WgSocket) (data : Packet) : Bool × WgSocket :=
  let sent := socket.outcomes.headD true
  (sent, { offered := socket.offered ++ [(data, sent)], outcomes := socket.outcomes.tail })

def sendAll (socket : WgSocket) (packets : List Packet) : WgSocket :=
  packets.foldl (fun socket data => (socket.send data).2) socket

end WgSocket

-- `emitted` is a ghost: what the Tunn has given out to be sent.
structure WgTunnel (G : Gotatun) where
  tunn : G.Tunn
  socket : WgSocket
  clientId : ClientId
  sendQueue : List Packet
  emitted : List G.WgKind

namespace WgTunnel

variable {G : Gotatun}

def new (tunn : G.Tunn) (clientId : ClientId) : WgTunnel G :=
  { tunn, socket := .new, clientId, sendQueue := [], emitted := [] }

def prepareAndQueue (t : WgTunnel G) (wg : G.WgKind) : WgTunnel G :=
  { t with
    sendQueue := t.sendQueue ++ [withClientId t.clientId (G.intoPacket wg)]
    emitted := t.emitted ++ [wg] }

def sendWgPacket (t : WgTunnel G) (wg : G.WgKind) : Bool × WgTunnel G :=
  let (sent, socket) := t.socket.send (withClientId t.clientId (G.intoPacket wg))
  (sent, { t with socket, emitted := t.emitted ++ [wg] })

def pendingSendPackets (t : WgTunnel G) : Nat := t.sendQueue.length

def isExpired (t : WgTunnel G) : Bool := G.isExpired t.tunn

def encryptIpPacket (t : WgTunnel G) (now : Time) (ipData : Packet) : Outcome (WgTunnel G) := do
  let packet := (List.replicate G.pooledLen 0).take ipData.length
  let packet ← copyFromSlice packet 0 packet.length ipData
  match G.handleOutgoingPacket now t.tunn packet with
  | (some wg, tunn) => .ok ({ t with tunn }.prepareAndQueue wg)
  | (none, tunn) => .ok { t with tunn }

-- `while let Some(wg) = tunn.get_queued_packets(..).next()`; the iterator gives fewer packets than
-- the fuel.
def forQueued (now : Time) (give : WgTunnel G → G.WgKind → WgTunnel G) :
    Nat → WgTunnel G → WgTunnel G
  | 0, t => t
  | fuel + 1, t =>
      match G.nextQueuedPacket now t.tunn with
      | (some wg, tunn) => forQueued now give fuel (give { t with tunn } wg)
      | (none, tunn) => { t with tunn }

def drainQueued (t : WgTunnel G) (now : Time) : WgTunnel G :=
  forQueued now prepareAndQueue (G.queuedPackets t.tunn + 1) t

def drainQueuedToSendQueue (t : WgTunnel G) (now : Time) : Nat × WgTunnel G :=
  let drained := t.drainQueued now
  (drained.sendQueue.length - t.sendQueue.length, drained)

def flushSendQueue (t : WgTunnel G) (now : Time) : Nat × WgTunnel G :=
  let t := t.drainQueued now
  (t.sendQueue.length, { t with socket := t.socket.sendAll t.sendQueue, sendQueue := [] })

def flushQueuedPackets (t : WgTunnel G) (now : Time) : WgTunnel G :=
  forQueued now (fun t wg => (t.sendWgPacket wg).2) (G.queuedPackets t.tunn + 1) t

def decryptIncoming (t : WgTunnel G) (now : Time) (data : Packet) : Option Packet × WgTunnel G :=
  match G.tryIntoWg (stripReserved data) with
  | .error _ => (none, t)
  | .ok wg =>
      match G.handleIncomingPacket now t.tunn wg with
      | (.done, tunn) => (none, { t with tunn })
      | (.err _, tunn) => (none, { t with tunn })
      | (.writeToNetwork response, tunn) => (none, { t with tunn }.prepareAndQueue response)
      | (.writeToTunnel packet, tunn) =>
          (if packet.isEmpty then none else some packet, { t with tunn })

def handleTunnResultHandshake (t : WgTunnel G) : TunnResult G.WgKind → WgTunnel G
  | .writeToNetwork response => (t.sendWgPacket response).2
  | _ => t

def processHandshakePacket (t : WgTunnel G) (now : Time) (data : Packet) : WgTunnel G :=
  match G.tryIntoWg (stripReserved data) with
  | .error _ => t
  | .ok wg =>
      let (result, tunn) := G.handleIncomingPacket now t.tunn wg
      ({ t with tunn }.handleTunnResultHandshake result).flushQueuedPackets now

def tickTimers (t : WgTunnel G) (now : Time) : Except WgTunnelError Unit × WgTunnel G :=
  match G.updateTimers now t.tunn with
  | (.ok (some wg), tunn) =>
      match ({ t with tunn } : WgTunnel G).sendWgPacket wg with
      | (true, t) => (.ok (), t.flushQueuedPackets now)
      | (false, t) => (.error .io, t)
  | (.ok none, tunn) => (.ok (), { t with tunn })
  | (.error e, tunn) => (.error (.wireGuard e), { t with tunn })

-- The first part of establish.
def initiate (t : WgTunnel G) (now : Time) : Except WgTunnelError Unit × WgTunnel G :=
  match G.formatHandshakeInitiation now t.tunn true with
  | (none, tunn) => (.error .handshakeInitFailed, { t with tunn })
  | (some init, tunn) =>
      match ({ t with tunn } : WgTunnel G).sendWgPacket init with
      | (true, t) => (.ok (), t)
      | (false, t) => (.error .io, t)

end WgTunnel

inductive HandshakeEvent where
  | recv (data : Packet)
  | recvError
  | timer
deriving DecidableEq, Repr

namespace WgTunnel

variable {G : Gotatun}

-- Each event with the time at which select! returns it. No result: the loop still waits.
def awaitHandshake (start timeout : Time) :
    Time → WgTunnel G → List (Time × HandshakeEvent) →
      Option (Except WgTunnelError Unit) × WgTunnel G
  | now, t, events =>
      if now - start > timeout then (some (.error .handshakeTimeout), t)
      else
        match events with
        | [] => (none, t)
        | (now, .recv data) :: events =>
            let t := t.processHandshakePacket now data
            if (G.timeSinceLastHandshake now t.tunn).isSome then (some (.ok ()), t)
            else awaitHandshake start timeout now t events
        | (now, .recvError) :: events => awaitHandshake start timeout now t events
        | (now, .timer) :: events =>
            match t.tickTimers now with
            | (.ok (), t) => awaitHandshake start timeout now t events
            | (.error e, t) => (some (.error e), t)

def establish (t : WgTunnel G) (now start timeout : Time)
    (events : List (Time × HandshakeEvent)) : Option (Except WgTunnelError Unit) × WgTunnel G :=
  match t.initiate now with
  | (.ok (), t) => awaitHandshake start timeout start t events
  | (.error e, t) => (some (.error e), t)

end WgTunnel

end Usque
