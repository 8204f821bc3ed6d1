import Usque.Stack.Calls
import Usque.Stack.Reference

namespace Usque

namespace TcpState

def pastHandshake : TcpState → Bool
  | .listen | .synSent | .synReceived => false
  | _ => true

def finSent : TcpState → Bool
  | .finWait1 | .finWait2 | .closing | .lastAck => true
  | _ => false

def active : TcpState → Bool
  | .closed | .timeWait | .listen => false
  | _ => true

def maySend : TcpState → Bool
  | .established | .closeWait => true
  | _ => false

def mayRecv : TcpState → Bool
  | .established | .finWait1 | .finWait2 => true
  | _ => false

-- Without a close no FIN is sent, and a handshake that ends is a reported change.
structure Follows (changed : Bool) (a b : TcpState) : Prop where
  finSent : b.finSent = true → a.finSent = true
  reported : a.pastHandshake = false → b.pastHandshake = true → changed = true

theorem Follows.refl (changed : Bool) (a : TcpState) : Follows changed a a :=
  ⟨id, fun h h' => absurd h' (by rw [h]; exact Bool.false_ne_true)⟩

theorem Follows.trans {changed changed' : Bool} {a b c : TcpState} (h : Follows changed a b)
    (k : Follows changed' b c) : Follows (changed || changed') a c where
  finSent := h.finSent ∘ k.finSent
  reported := by
    intro ha hc
    cases hb : b.pastHandshake with
    | false => rw [k.reported hb hc, Bool.or_true]
    | true => rw [h.reported ha hb, Bool.true_or]

end TcpState

open TcpState (Follows)

-- What smoltcp's documentation says of a TCP socket's state and of the tests on it.
structure Smoltcp.TracksStates (S : Smoltcp) : Prop where
  connect : ∀ iface s remote localPort iface' s',
    S.tcpConnect iface s remote localPort = .ok (iface', s') → S.tcpState s' = .synSent
  send : ∀ s data, S.tcpState (S.tcpSendSlice s data).2 = S.tcpState s
  recv : ∀ s len, S.tcpState (S.tcpRecvSlice s len).2 = S.tcpState s
  active : ∀ s, S.tcpIsActive s = (S.tcpState s).active
  maySend : ∀ s, S.tcpMaySend s = (S.tcpState s).maySend
  mayRecv : ∀ s, S.tcpMayRecv s = ((S.tcpState s).mayRecv || 0 < S.tcpRecvQueue s)
  processPacket : ∀ now iface sockets packet r, S.processPacket now iface sockets packet = some r →
    ∀ handle s', r.sockets.get? handle = some (.tcp s') → ∃ s,
      sockets.get? handle = some (.tcp s) ∧ Follows r.stateChanged (S.tcpState s) (S.tcpState s')
  pollEgress : ∀ now iface sockets room r, S.pollEgress now iface sockets room = some r →
    ∀ handle s', r.sockets.get? handle = some (.tcp s') → ∃ s,
      sockets.get? handle = some (.tcp s) ∧ Follows r.stateChanged (S.tcpState s) (S.tcpState s')

namespace NetworkStack

variable {S : Smoltcp} {st st' st'' : NetworkStack S} {handle : SocketHandle}

def Follows (changed : Bool) (st st' : NetworkStack S) : Prop :=
  ∀ i s', st'.HasTcp i s' → ∃ s, st.HasTcp i s ∧
    TcpState.Follows changed (S.tcpState s) (S.tcpState s')

namespace Follows

variable {changed changed' : Bool}

theorem of_hasTcp (changed : Bool) (h : ∀ i s, st'.HasTcp i s → st.HasTcp i s) :
    Follows changed st st' :=
  fun i s hs => ⟨s, h i s hs, .refl changed _⟩

theorem refl (changed : Bool) (st : NetworkStack S) : Follows changed st st :=
  .of_hasTcp changed (fun _ _ hs => hs)

theorem trans (h : Follows changed st st') (k : Follows changed' st' st'') :
    Follows (changed || changed') st st'' := by
  intro i s'' hs
  obtain ⟨s', hs', hk⟩ := k i s'' hs
  obtain ⟨s, hs, hh⟩ := h i s' hs'
  exact ⟨s, hs, hh.trans hk⟩

end Follows

variable (hT : S.TracksStates)

include hT

theorem pollIngressSingle_follows {now : Time} {r : PollIngressSingleResult}
    (h : st.pollIngressSingle now = .ok (r, st')) :
    Follows (r = .socketStateChanged) st st' := by
  simp only [pollIngressSingle] at h
  split at h
  · cases h
    exact .refl _ _
  · next packet device _ =>
      split at h
      · cases h
      · next result hr =>
          cases h
          intro i s' hs
          obtain ⟨s, hs', hf⟩ := hT.processPacket _ _ _ _ _ hr i s' hs.2
          refine ⟨s, ⟨hs.1, hs'⟩, ?_⟩
          cases hc : result.stateChanged <;> rw [hc] at hf <;> exact hf

theorem pollIngress_follows {now : Time} {budget : Nat} {outcome outcome' : StackPollOutcome}
    (h : pollIngress now budget st outcome = .ok (outcome', st')) :
    (outcome.socketStateChanged = true → outcome'.socketStateChanged = true) ∧
      Follows outcome'.socketStateChanged st st' := by
  induction budget generalizing st outcome with
  | zero =>
      cases h
      exact ⟨id, .refl _ _⟩
  | succ budget ih =>
      simp only [pollIngress] at h
      split at h
      · cases h
      · next hp =>
          cases h
          refine ⟨id, ?_⟩
          have hf := (pollIngressSingle_follows hT hp).trans (.refl outcome'.socketStateChanged _)
          exact hf
      · next hp =>
          obtain ⟨hmono, hf⟩ := ih h
          exact ⟨hmono, (pollIngressSingle_follows hT hp).trans hf⟩
      · next hp =>
          obtain ⟨hmono, hf⟩ := ih h
          have hchanged := hmono rfl
          have hstep := (pollIngressSingle_follows hT hp).trans hf
          rw [hchanged, Bool.or_true] at hstep
          refine ⟨fun _ => hchanged, ?_⟩
          rw [hchanged]
          exact hstep

theorem pollEgress_follows {now : Time} {changed : Bool}
    (h : st.pollEgress now = .ok (changed, st')) : Follows changed st st' := by
  simp only [NetworkStack.pollEgress] at h
  split at h
  · cases h
  · next r hr =>
      cases h
      intro i s' hs
      obtain ⟨s, hs', hf⟩ := hT.pollEgress _ _ _ _ _ hr i s' hs.2
      exact ⟨s, ⟨hs.1, hs'⟩, hf⟩

theorem pollBounded_follows {now : Time} {ingressBudget : Nat} {outcome : StackPollOutcome}
    (h : st.pollBounded now ingressBudget = .ok (outcome, st')) :
    Follows outcome.socketStateChanged st st' := by
  obtain ⟨ingress, mid, egress, hi, he, hchanged⟩ := pollBounded_ok h
  rw [hchanged]
  have hmaintained : Follows false st { st with iface := S.pollMaintenance now st.iface } :=
    .of_hasTcp false (fun _ _ hs => hs)
  have hf := hmaintained.trans ((pollIngress_follows hT hi).2.trans (pollEgress_follows hT he))
  rwa [Bool.false_or] at hf

end NetworkStack

namespace Reference

theorem receivePayload_finSent (s : Tcp) (seg : Segment)
    (h : (receivePayload s seg).state.finSent = true) : s.state.finSent = true := by
  have hrx : ∀ t : Tcp, (if has seg.flags tcpFin then
      { t with
        needAck := true
        state := if t.state = .established then .closeWait else .timeWait }
      else t).state.finSent = true → t.state.finSent = true := by
    intro t ht
    split_ifs at ht
    · cases ht
    · cases ht
    · exact ht
  simp only [receivePayload] at h
  have hstate := hrx _ h
  split_ifs at hstate <;> exact hstate

theorem receive_follows (s : Tcp) (seg : Segment) :
    TcpState.Follows true s.state (receive s seg).state := by
  refine ⟨fun h => ?_, fun _ _ => rfl⟩
  simp only [receive] at h
  by_cases hrst : has seg.flags tcpRst = true
  · rw [if_pos hrst] at h
    cases h
  · rw [if_neg hrst] at h
    split at h
    · split_ifs at h
      · cases h
      · exact h
    · exact receivePayload_finSent s seg h
    · exact receivePayload_finSent s seg h
    · exact receivePayload_finSent s seg h
    · exact h

-- How the TCP states in a list of cells may move.
def CellsFollow (changed : Bool) (cells cells' : List Cell) : Prop :=
  ∀ i s', (⟨cells'⟩ : smoltcp.SocketSet).get? i = some (.tcp s') → ∃ s : Tcp,
    (⟨cells⟩ : smoltcp.SocketSet).get? i = some (.tcp s) ∧
      TcpState.Follows changed s.state s'.state

theorem CellsFollow.refl (changed : Bool) (cells : List Cell) : CellsFollow changed cells cells :=
  fun _ s hs => ⟨s, hs, .refl changed _⟩

theorem CellsFollow.cons {changed : Bool} {cell cell' : Cell} {cells cells' : List Cell}
    (hc : ∀ s', cell' = some (.tcp s') → ∃ s : Tcp, cell = some (.tcp s) ∧
      TcpState.Follows changed s.state s'.state)
    (h : CellsFollow changed cells cells') :
    CellsFollow changed (cell :: cells) (cell' :: cells') := by
  intro i s' hs
  cases i with
  | zero => exact hc s' hs
  | succ i => exact h i s' hs

theorem CellsFollow.same {changed : Bool} {cells cells' : List Cell} (cell : Cell)
    (h : CellsFollow changed cells cells') : CellsFollow changed (cell :: cells) (cell :: cells') :=
  h.cons (fun s hs => ⟨s, hs, .refl changed _⟩)

theorem deliver_follows (seg : Segment) (cells : List Cell) :
    CellsFollow true cells (deliver seg cells).1 := by
  induction cells with
  | nil => exact .refl true []
  | cons cell cells ih =>
      match cell with
      | some (.tcp s) =>
          simp only [deliver]
          split
          · refine (CellsFollow.refl true cells).cons (fun s' hs => ⟨s, rfl, ?_⟩)
            cases hs
            exact receive_follows s seg
          · exact ih.same _
      | some (.udp s) => exact ih.same _
      | none => exact ih.same _

theorem emitTcp_state {now : Time} {iface : Iface} {s s' : Tcp} {packet : Packet}
    (h : emitTcp now iface s = some (s', packet)) : s'.state = s.state := by
  simp only [emitTcp] at h
  split_ifs at h <;> cases h <;> rfl

theorem egressCells_follows {now : Time} {iface : Iface} {room : Nat} {cells : List Cell}
    {r : List Cell × List Packet} (h : egressCells now iface room cells = some r)
    (changed : Bool) : CellsFollow changed cells r.1 := by
  induction cells generalizing room r with
  | nil =>
      cases h
      exact .refl changed []
  | cons cell cells ih =>
      match room, cell with
      | 0, _ =>
          cases h
          exact .refl changed _
      | room + 1, some (.tcp s) =>
          simp only [egressCells] at h
          split at h
          · obtain ⟨r', hr, rfl⟩ := Option.map_eq_some_iff.mp h
            exact (ih hr).same _
          · next t packet he =>
              obtain ⟨r', hr, rfl⟩ := Option.map_eq_some_iff.mp h
              refine (ih hr).cons (fun s' hs => ⟨s, rfl, ?_⟩)
              cases hs
              rw [emitTcp_state he]
              exact .refl changed _
      | room + 1, some (.udp s) =>
          simp only [egressCells] at h
          split at h
          · cases h
          · obtain ⟨r', hr, rfl⟩ := Option.map_eq_some_iff.mp h
            exact (ih hr).cons (fun s' hs => by cases hs)
      | room + 1, none =>
          simp only [egressCells] at h
          obtain ⟨r', hr, rfl⟩ := Option.map_eq_some_iff.mp h
          exact (ih hr).same none

theorem tracksStates : smoltcp.TracksStates where
  connect := fun iface s remote localPort iface' s' h => by
    simp only [tcpConnect] at h
    split_ifs at h
    cases h
    rfl
  send := fun s data => by
    simp only [sendSlice]
    split <;> rfl
  recv := fun s len => by
    simp only [recvSlice]
    split <;> rfl
  active := fun s => by
    simp only [isActive]
    cases s.state <;> rfl
  maySend := fun s => by
    simp only [maySend]
    cases s.state <;> rfl
  mayRecv := fun s => by
    have hqueue : (!s.rx.isEmpty) = decide (0 < s.rx.length) := by
      cases s.rx <;> rfl
    simp only [mayRecv, hqueue]
    cases s.state <;> rfl
  processPacket := fun now iface sockets packet r h => by
    simp only [processPacket] at h
    split at h <;> cases h
    · exact CellsFollow.refl true sockets.cells
    · exact deliver_follows ‹_› sockets.cells
  pollEgress := fun now iface sockets room r h => by
    obtain ⟨r', hr, rfl⟩ := Option.map_eq_some_iff.mp h
    exact egressCells_follows hr _

end Reference

end Usque
