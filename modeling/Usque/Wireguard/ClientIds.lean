import Usque.Wireguard.Tunnel

namespace Usque

variable {clientId : ClientId} {buf : Packet}

theorem withClientId_copied (h : 4 ≤ buf.length) :
    copyFromSlice buf 1 4 clientId.bytes = .ok (withClientId clientId buf) := by
  rw [copyFromSlice, if_pos ⟨by omega, h, clientId.length_eq⟩, withClientId, if_pos h]

theorem length_withClientId (clientId : ClientId) (buf : Packet) :
    (withClientId clientId buf).length = buf.length := by
  simp only [withClientId]
  split
  next h =>
    simp only [List.length_append, List.length_take, List.length_drop, clientId.length_eq]
    omega
  next => rfl

theorem getElem?_withClientId (h : 4 ≤ buf.length) (i : Nat) :
    (withClientId clientId buf)[i]? =
      if 1 ≤ i ∧ i < 4 then clientId.bytes[i - 1]? else buf[i]? := by
  have hroom : 1 + clientId.bytes.length ≤ buf.length := by rwa [clientId.length_eq]
  have hw := Circular.getElem?_writeAt hroom i
  rw [Circular.writeAt, clientId.length_eq] at hw
  rw [withClientId, if_pos h]
  exact hw

theorem stripReserved_eq (buf : Packet) : stripReserved buf = withClientId .zero buf := by
  match buf with
  | [] | [_] | [_, _] | [_, _, _] => rfl
  | _ :: _ :: _ :: _ :: _ => rfl

theorem withClientId_withClientId (clientId clientId' : ClientId) (buf : Packet) :
    withClientId clientId (withClientId clientId' buf) = withClientId clientId buf := by
  by_cases h : 4 ≤ buf.length
  · have h' : 4 ≤ (withClientId clientId' buf).length := by rwa [length_withClientId]
    refine List.ext_getElem? (fun i => ?_)
    rw [getElem?_withClientId h', getElem?_withClientId h, getElem?_withClientId h]
    split <;> rfl
  · simp only [withClientId, if_neg h]

theorem stripReserved_withClientId (clientId : ClientId) (buf : Packet) :
    stripReserved (withClientId clientId buf) = withClientId .zero buf := by
  rw [stripReserved_eq, withClientId_withClientId]

@[simp] theorem stripReserved_stripReserved (buf : Packet) :
    stripReserved (stripReserved buf) = stripReserved buf := by
  rw [stripReserved_eq buf, stripReserved_withClientId]

-- What the manager and establish call.
inductive WgCall where
  | initiate (now : Time)
  | handshake (now : Time) (data : Packet)
  | encrypt (now : Time) (ipData : Packet)
  | decrypt (now : Time) (data : Packet)
  | drainQueued (now : Time)
  | flushSendQueue (now : Time)
  | tickTimers (now : Time)
  | outcomes (outcomes : List Bool)
deriving DecidableEq, Repr

inductive WgAnswer where
  | none
  | result (result : Except WgTunnelError Unit)
  | packet (packet : Option Packet)
  | count (n : Nat)

namespace WgCall

-- The call with the reserved bytes of what it receives cleared.
def stripped : WgCall → WgCall
  | .handshake now data => .handshake now (stripReserved data)
  | .decrypt now data => .decrypt now (stripReserved data)
  | call => call

end WgCall

namespace WgSocket

def plain (socket : WgSocket) : WgSocket :=
  { socket with offered := socket.offered.map (Prod.map stripReserved id) }

theorem plain_send (socket : WgSocket) (data : Packet) :
    socket.plain.send (stripReserved data) =
      ((socket.send data).1, (socket.send data).2.plain) := by
  simp only [send, plain, List.map_append, List.map_cons, List.map_nil, Prod.map, id]

theorem plain_sendAll (socket : WgSocket) (packets : List Packet) :
    (socket.sendAll packets).plain = socket.plain.sendAll (packets.map stripReserved) := by
  induction packets generalizing socket with
  | nil => rfl
  | cons data packets ih =>
      simp only [sendAll, List.foldl_cons, List.map_cons] at ih ⊢
      rw [ih, plain_send]

end WgSocket

namespace WgTunnel

variable {G : Gotatun}

def call (t : WgTunnel G) : WgCall → Outcome (WgAnswer × WgTunnel G)
  | .initiate now => .ok (.result (t.initiate now).1, (t.initiate now).2)
  | .handshake now data => .ok (.none, t.processHandshakePacket now data)
  | .encrypt now ipData => do
      let t ← t.encryptIpPacket now ipData
      .ok (.none, t)
  | .decrypt now data =>
      .ok (.packet (t.decryptIncoming now data).1, (t.decryptIncoming now data).2)
  | .drainQueued now =>
      .ok (.count (t.drainQueuedToSendQueue now).1, (t.drainQueuedToSendQueue now).2)
  | .flushSendQueue now => .ok (.count (t.flushSendQueue now).1, (t.flushSendQueue now).2)
  | .tickTimers now => .ok (.result (t.tickTimers now).1, (t.tickTimers now).2)
  | .outcomes outcomes => .ok (.none, { t with socket := { t.socket with outcomes } })

def run (t : WgTunnel G) : List WgCall → Outcome (List WgAnswer × WgTunnel G)
  | [] => .ok ([], t)
  | call :: calls => do
      let (answer, t) ← t.call call
      let (answers, t) ← t.run calls
      .ok (answer :: answers, t)

-- The tunnel as a plain WireGuard endpoint sees it: no client id, all reserved bytes zero.
def plain (t : WgTunnel G) : WgTunnel G :=
  { t with
    clientId := .zero
    sendQueue := t.sendQueue.map stripReserved
    socket := t.socket.plain }

theorem plain_prepareAndQueue (t : WgTunnel G) (wg : G.WgKind) :
    (t.prepareAndQueue wg).plain = t.plain.prepareAndQueue wg := by
  simp only [prepareAndQueue, plain, List.map_append, List.map_cons, List.map_nil,
    stripReserved_withClientId]

theorem plain_sendWgPacket (t : WgTunnel G) (wg : G.WgKind) :
    t.plain.sendWgPacket wg = ((t.sendWgPacket wg).1, (t.sendWgPacket wg).2.plain) := by
  have hsend := t.socket.plain_send (withClientId t.clientId (G.intoPacket wg))
  rw [stripReserved_withClientId] at hsend
  simp only [sendWgPacket, plain, hsend]

theorem plain_forQueued (now : Time) {give : WgTunnel G → G.WgKind → WgTunnel G}
    (hgive : ∀ t wg, (give t wg).plain = give t.plain wg) (fuel : Nat) (t : WgTunnel G) :
    (forQueued now give fuel t).plain = forQueued now give fuel t.plain := by
  induction fuel generalizing t with
  | zero => rfl
  | succ fuel ih =>
      simp only [forQueued]
      have htunn : t.plain.tunn = t.tunn := rfl
      rw [htunn]
      cases G.nextQueuedPacket now t.tunn with
      | mk wg tunn =>
          cases wg with
          | none => rfl
          | some wg =>
              dsimp only
              rw [ih, hgive]
              rfl

theorem plain_drainQueued (t : WgTunnel G) (now : Time) :
    (t.drainQueued now).plain = t.plain.drainQueued now :=
  plain_forQueued now plain_prepareAndQueue _ t

theorem plain_flushQueuedPackets (t : WgTunnel G) (now : Time) :
    (t.flushQueuedPackets now).plain = t.plain.flushQueuedPackets now :=
  plain_forQueued now (fun t wg => congrArg Prod.snd (plain_sendWgPacket t wg).symm) _ t

theorem plain_flushSendQueue (t : WgTunnel G) (now : Time) :
    t.plain.flushSendQueue now = ((t.flushSendQueue now).1, (t.flushSendQueue now).2.plain) := by
  simp only [flushSendQueue, ← plain_drainQueued]
  refine Prod.ext (by simp only [plain, List.length_map]) ?_
  simp only [plain, WgSocket.plain_sendAll, List.map_nil]

theorem plain_decryptIncoming (t : WgTunnel G) (now : Time) (data : Packet) :
    t.plain.decryptIncoming now (stripReserved data) =
      ((t.decryptIncoming now data).1, (t.decryptIncoming now data).2.plain) := by
  simp only [decryptIncoming, stripReserved_stripReserved]
  cases G.tryIntoWg (stripReserved data) with
  | error e => rfl
  | ok wg =>
      have htunn : t.plain.tunn = t.tunn := rfl
      dsimp only
      rw [htunn]
      match G.handleIncomingPacket now t.tunn wg with
      | (.done, _) | (.err _, _) | (.writeToTunnel _, _) => rfl
      | (.writeToNetwork response, tunn) =>
          exact Prod.ext rfl (plain_prepareAndQueue { t with tunn } response).symm

theorem plain_handleTunnResultHandshake (t : WgTunnel G) (r : TunnResult G.WgKind) :
    t.plain.handleTunnResultHandshake r = (t.handleTunnResultHandshake r).plain := by
  cases r with
  | writeToNetwork response => simp only [handleTunnResultHandshake, plain_sendWgPacket]
  | done | err _ | writeToTunnel _ => rfl

theorem plain_processHandshakePacket (t : WgTunnel G) (now : Time) (data : Packet) :
    t.plain.processHandshakePacket now (stripReserved data) =
      (t.processHandshakePacket now data).plain := by
  simp only [processHandshakePacket, stripReserved_stripReserved]
  cases G.tryIntoWg (stripReserved data) with
  | error e => rfl
  | ok wg =>
      dsimp only
      rw [plain_flushQueuedPackets, ← plain_handleTunnResultHandshake]
      rfl

theorem plain_initiate (t : WgTunnel G) (now : Time) :
    t.plain.initiate now = ((t.initiate now).1, (t.initiate now).2.plain) := by
  have htunn : t.plain.tunn = t.tunn := rfl
  simp only [initiate, htunn]
  match G.formatHandshakeInitiation now t.tunn true with
  | (none, _) => rfl
  | (some init, tunn) =>
      have hplain : ({ t.plain with tunn } : WgTunnel G) = plain { t with tunn } := rfl
      dsimp only
      rw [hplain, plain_sendWgPacket]
      match ({ t with tunn } : WgTunnel G).sendWgPacket init with
      | (true, _) | (false, _) => rfl

theorem plain_tickTimers (t : WgTunnel G) (now : Time) :
    t.plain.tickTimers now = ((t.tickTimers now).1, (t.tickTimers now).2.plain) := by
  have htunn : t.plain.tunn = t.tunn := rfl
  simp only [tickTimers, htunn]
  match G.updateTimers now t.tunn with
  | (.ok none, _) | (.error _, _) => rfl
  | (.ok (some wg), tunn) =>
      have hplain : ({ t.plain with tunn } : WgTunnel G) = plain { t with tunn } := rfl
      dsimp only
      rw [hplain, plain_sendWgPacket]
      match ({ t with tunn } : WgTunnel G).sendWgPacket wg with
      | (true, t) => exact Prod.ext rfl (plain_flushQueuedPackets t now).symm
      | (false, _) => rfl

theorem plain_encryptIpPacket (t : WgTunnel G) (now : Time) (ipData : Packet) :
    t.plain.encryptIpPacket now ipData = (t.encryptIpPacket now ipData).map plain := by
  have htunn : t.plain.tunn = t.tunn := rfl
  simp only [encryptIpPacket, htunn]
  generalize copyFromSlice _ _ _ ipData = copied
  cases copied with
  | error fault => rfl
  | ok packet =>
      simp only [Outcome.ok_bind]
      match G.handleOutgoingPacket now t.tunn packet with
      | (none, _) => rfl
      | (some wg, tunn) => exact congrArg Except.ok (plain_prepareAndQueue { t with tunn } wg).symm

theorem plain_drainQueuedToSendQueue (t : WgTunnel G) (now : Time) :
    t.plain.drainQueuedToSendQueue now =
      ((t.drainQueuedToSendQueue now).1, (t.drainQueuedToSendQueue now).2.plain) := by
  simp only [drainQueuedToSendQueue, ← plain_drainQueued]
  exact Prod.ext (by simp only [plain, List.length_map]) rfl

theorem plain_call (t : WgTunnel G) (call : WgCall) :
    t.plain.call call.stripped = (t.call call).map (fun r => (r.1, r.2.plain)) := by
  cases call with
  | initiate now => simp only [WgTunnel.call, WgCall.stripped, plain_initiate, Except.map]
  | handshake now data =>
      simp only [WgTunnel.call, WgCall.stripped, plain_processHandshakePacket, Except.map]
  | encrypt now ipData =>
      simp only [WgTunnel.call, WgCall.stripped, plain_encryptIpPacket]
      cases t.encryptIpPacket now ipData <;> rfl
  | decrypt now data =>
      simp only [WgTunnel.call, WgCall.stripped, plain_decryptIncoming, Except.map]
  | drainQueued now =>
      simp only [WgTunnel.call, WgCall.stripped, plain_drainQueuedToSendQueue, Except.map]
  | flushSendQueue now =>
      simp only [WgTunnel.call, WgCall.stripped, plain_flushSendQueue, Except.map]
  | tickTimers now => simp only [WgTunnel.call, WgCall.stripped, plain_tickTimers, Except.map]
  | outcomes outcomes => rfl

-- Whatever the client id and the reserved bytes that come in, the tunnel does what a plain
-- WireGuard endpoint does.
theorem client_id_transparent (t : WgTunnel G) (calls : List WgCall) :
    t.plain.run (calls.map WgCall.stripped) = (t.run calls).map (fun r => (r.1, r.2.plain)) := by
  induction calls generalizing t with
  | nil => rfl
  | cons call calls ih =>
      simp only [List.map_cons, run, plain_call]
      cases t.call call with
      | error fault => rfl
      | ok r =>
          simp only [Except.map, Outcome.ok_bind, ih]
          cases r.2.run calls <;> rfl

end WgTunnel

end Usque
