import Usque.Wireguard.System

namespace Usque

namespace WgSocket

@[simp] theorem send_offered (socket : WgSocket) (data : Packet) :
    (socket.send data).2.offered.map Prod.fst = socket.offered.map Prod.fst ++ [data] := by
  simp only [send, List.map_append, List.map_cons, List.map_nil]

theorem sendAll_offered (socket : WgSocket) (packets : List Packet) :
    (socket.sendAll packets).offered.map Prod.fst = socket.offered.map Prod.fst ++ packets := by
  induction packets generalizing socket with
  | nil => exact (List.append_nil _).symm
  | cons data packets ih =>
      simp only [sendAll, List.foldl_cons] at ih ⊢
      rw [ih, send_offered, List.append_assoc]
      rfl

end WgSocket

namespace WgTunnel

variable {G : Gotatun} {t t' : WgTunnel G}

def wire (t : WgTunnel G) : List Packet :=
  t.emitted.map (fun wg => withClientId t.clientId (G.intoPacket wg))

-- What was offered to the socket, then what waits in the send queue, is what the Tunn gave out, in
-- the Tunn's order, each packet with the client's id.
structure Ordered (clientId : ClientId) (t : WgTunnel G) : Prop where
  wire : t.socket.offered.map Prod.fst ++ t.sendQueue = t.wire
  clientId : t.clientId = clientId

structure Flushed (clientId : ClientId) (t : WgTunnel G) : Prop extends Ordered clientId t where
  empty : t.sendQueue = []

variable {clientId : ClientId}

theorem new_flushed (tunn : G.Tunn) (clientId : ClientId) :
    Flushed clientId (new tunn clientId) :=
  ⟨⟨rfl, rfl⟩, rfl⟩

theorem Ordered.setTunn (h : Ordered clientId t) (tunn : G.Tunn) :
    Ordered clientId { t with tunn } :=
  ⟨h.wire, h.clientId⟩

theorem Flushed.setTunn (h : Flushed clientId t) (tunn : G.Tunn) :
    Flushed clientId { t with tunn } :=
  ⟨h.toOrdered.setTunn tunn, h.empty⟩

theorem Ordered.prepareAndQueue (h : Ordered clientId t) (wg : G.WgKind) :
    Ordered clientId (t.prepareAndQueue wg) where
  wire := by
    simp only [WgTunnel.wire, WgTunnel.prepareAndQueue, List.map_append, List.map_cons,
      List.map_nil]
    rw [← List.append_assoc, h.wire]
    rfl
  clientId := h.clientId

theorem Flushed.sendWgPacket (h : Flushed clientId t) (wg : G.WgKind) :
    Flushed clientId (t.sendWgPacket wg).2 where
  wire := by
    have hwire := h.wire
    rw [h.empty, List.append_nil] at hwire
    simp only [WgTunnel.sendWgPacket, WgTunnel.wire, h.empty, List.append_nil, List.map_append,
      List.map_cons, List.map_nil, WgSocket.send_offered]
    rw [hwire]
    rfl
  clientId := h.clientId
  empty := h.empty

theorem forQueued_invariant {I : WgTunnel G → Prop} {give : WgTunnel G → G.WgKind → WgTunnel G}
    {now : Time} (hset : ∀ t tunn, I t → I { t with tunn }) (hgive : ∀ t wg, I t → I (give t wg))
    (fuel : Nat) (ht : I t) : I (forQueued now give fuel t) := by
  induction fuel generalizing t with
  | zero => exact ht
  | succ fuel ih =>
      simp only [forQueued]
      cases G.nextQueuedPacket now t.tunn with
      | mk wg tunn =>
          cases wg with
          | none => exact hset _ _ ht
          | some wg => exact ih (hgive _ _ (hset _ _ ht))

theorem Ordered.drainQueued (h : Ordered clientId t) (now : Time) :
    Ordered clientId (t.drainQueued now) :=
  forQueued_invariant (fun _ tunn ht => ht.setTunn tunn) (fun _ wg ht => ht.prepareAndQueue wg) _ h

theorem Flushed.flushQueuedPackets (h : Flushed clientId t) (now : Time) :
    Flushed clientId (t.flushQueuedPackets now) :=
  forQueued_invariant (fun _ tunn ht => ht.setTunn tunn) (fun _ wg ht => ht.sendWgPacket wg) _ h

theorem Ordered.flushSendQueue (h : Ordered clientId t) (now : Time) :
    Flushed clientId (t.flushSendQueue now).2 := by
  have hd := h.drainQueued now
  refine ⟨⟨?_, hd.clientId⟩, rfl⟩
  have hwire := hd.wire
  rw [← WgSocket.sendAll_offered] at hwire
  simp only [WgTunnel.flushSendQueue, List.append_nil]
  exact hwire

theorem Ordered.encryptIpPacket (h : Ordered clientId t) {now : Time} {ipData : Packet}
    (he : t.encryptIpPacket now ipData = .ok t') : Ordered clientId t' := by
  obtain ⟨packet, _, he⟩ := Outcome.bind_eq_ok.mp he
  split at he <;> cases he
  · exact (h.setTunn _).prepareAndQueue _
  · exact h.setTunn _

theorem Ordered.encryptPackets (h : Ordered clientId t) {now : Time} {packets : List Packet}
    (he : t.encryptPackets now packets = .ok t') : Ordered clientId t' :=
  Outcome.run_invariant (fun _ _ _ ht he => ht.encryptIpPacket he) he h

theorem Ordered.drainStackPackets (h : Ordered clientId t) {now : Time} {packets : List Packet}
    (hd : t.drainStackPackets now packets = .ok t') : Flushed clientId t' := by
  obtain ⟨u, hu, hd⟩ := Outcome.bind_eq_ok.mp hd
  have ho := h.encryptPackets hu
  split at hd <;> cases hd
  · exact ho.flushSendQueue now
  · next hno =>
      simp only [pendingSendPackets] at hno
      exact ⟨ho, List.length_eq_zero_iff.mp (by omega)⟩

theorem Ordered.flushTransportSideEffects (h : Ordered clientId t) (now : Time) :
    Flushed clientId (t.flushTransportSideEffects now) := by
  have hd := h.drainQueued now
  simp only [WgTunnel.flushTransportSideEffects]
  split
  · exact Ordered.flushSendQueue hd now
  · next hno => exact ⟨hd, List.length_eq_zero_iff.mp (Nat.eq_zero_of_not_pos hno)⟩

theorem Ordered.flushPending (h : Ordered clientId t) (now : Time) :
    Flushed clientId (t.flushPending now) := by
  simp only [WgTunnel.flushPending]
  split
  · exact h.flushTransportSideEffects now
  · next hno => exact ⟨h, List.length_eq_zero_iff.mp (Nat.eq_zero_of_not_pos hno)⟩

theorem Ordered.decryptIncoming (h : Ordered clientId t) (now : Time) (data : Packet) :
    Ordered clientId (t.decryptIncoming now data).2 := by
  simp only [WgTunnel.decryptIncoming]
  split
  · exact h
  · split
    · exact h.setTunn _
    · exact h.setTunn _
    · exact (h.setTunn _).prepareAndQueue _
    · exact h.setTunn _

theorem Flushed.tickTimers (h : Flushed clientId t) (now : Time) :
    Flushed clientId (t.tickTimers now).2 := by
  simp only [WgTunnel.tickTimers]
  split
  · next wg tunn _ =>
      have hsend := (h.setTunn tunn).sendWgPacket wg
      split
      · next heq =>
          rw [heq] at hsend
          exact hsend.flushQueuedPackets now
      · next heq =>
          rw [heq] at hsend
          exact hsend
  · exact h.setTunn _
  · exact h.setTunn _

theorem Flushed.maintain (h : Flushed clientId t) (now : Time) :
    Flushed clientId (t.maintain now) :=
  (h.tickTimers now).toOrdered.flushTransportSideEffects now

theorem Flushed.handleTunnResultHandshake (h : Flushed clientId t) (r : TunnResult G.WgKind) :
    Flushed clientId (t.handleTunnResultHandshake r) := by
  cases r with
  | writeToNetwork response => exact h.sendWgPacket response
  | done | err _ | writeToTunnel _ => exact h

theorem Flushed.processHandshakePacket (h : Flushed clientId t) (now : Time) (data : Packet) :
    Flushed clientId (t.processHandshakePacket now data) := by
  simp only [WgTunnel.processHandshakePacket]
  split
  · exact h
  · exact ((h.setTunn _).handleTunnResultHandshake _).flushQueuedPackets now

theorem Flushed.initiate (h : Flushed clientId t) (now : Time) :
    Flushed clientId (t.initiate now).2 := by
  simp only [WgTunnel.initiate]
  split
  · exact h.setTunn _
  · next init tunn _ =>
      have hsend := (h.setTunn tunn).sendWgPacket init
      split
      · next heq =>
          rw [heq] at hsend
          exact hsend
      · next heq =>
          rw [heq] at hsend
          exact hsend

theorem Flushed.awaitHandshake {start timeout now : Time}
    {events : List (Time × HandshakeEvent)} (h : Flushed clientId t) :
    Flushed clientId (t.awaitHandshake start timeout now events).2 := by
  induction events generalizing now t with
  | nil =>
      simp only [WgTunnel.awaitHandshake]
      split <;> exact h
  | cons e events ih =>
      match e with
      | (at', .recv data) =>
          have hp := h.processHandshakePacket at' data
          simp only [WgTunnel.awaitHandshake]
          split
          · exact h
          · split
            · exact hp
            · exact ih hp
      | (at', .recvError) =>
          simp only [WgTunnel.awaitHandshake]
          split
          · exact h
          · exact ih h
      | (at', .timer) =>
          have ht := h.tickTimers at'
          simp only [WgTunnel.awaitHandshake]
          split
          · exact h
          · split
            · next heq =>
                rw [heq] at ht
                exact ih ht
            · next heq =>
                rw [heq] at ht
                exact ht

theorem Flushed.establish (h : Flushed clientId t) (now start timeout : Time)
    (events : List (Time × HandshakeEvent)) :
    Flushed clientId (t.establish now start timeout events).2 := by
  have hi := h.initiate now
  simp only [WgTunnel.establish]
  split
  · next heq =>
      rw [heq] at hi
      exact hi.awaitHandshake
  · next heq =>
      rw [heq] at hi
      exact hi

end WgTunnel

end Usque
