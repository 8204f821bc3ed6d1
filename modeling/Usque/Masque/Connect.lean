import Usque.Lib.Fault
import Usque.Masque.Control
import Usque.Masque.Datagram

namespace Usque

def connectRequestId : UInt64 := 1

def byteString (text : String) : List UInt8 := text.toByteArray.data.toList

def fromUtf8 (bytes : List UInt8) : Option String := String.fromUTF8? ⟨bytes.toArray⟩

-- The certificate parser, and the encoding of the key that a certificate holds.
structure X509 where
  Certificate : Type
  fromDer : List UInt8 → Option Certificate
  subjectPublicKeyInfoToDer : Certificate → Option (List UInt8)

structure H3Header where
  name : List UInt8
  value : List UInt8
deriving DecidableEq, Repr

-- The ends of tokio-quiche's channels are numbered.
inductive ClientH3Event where
  | newOutboundRequest (streamId requestId : UInt64)
  | newFlow (flowId : UInt64) (send recv : Nat)
  | incomingHeaders (streamId : UInt64) (headers : List H3Header) (recv : Nat)
  | connectionError (err : String)
  | connectionShutdown (err : String)
  | other
deriving DecidableEq, Repr

-- What connect meets: the result of the sockets and the handshake, the certificate query, whether
-- the request can be sent, the events that come before the timeout and whether the channel then
-- closes, and the datagram query.
structure Connection where
  transport : Except MasqueError Unit
  peerCert : Except QuicError (Option (List UInt8))
  requestSent : Bool
  events : List ClientH3Event
  channelClosed : Bool
  dgramMaxWritableLen : Except QuicError (Option Nat)

structure H3Flow where
  flowId : UInt64
  send : Nat
  recv : Nat
deriving DecidableEq, Repr

-- The variables of connect's loop.
structure ConnectState where
  connectStreamId : Option UInt64
  connectRecv : Option Nat
  connectEstablished : Bool
  flow : Option H3Flow
deriving DecidableEq, Repr

structure ConnectedTunnel where
  connectStreamId : UInt64
  connectRecv : Nat
  flow : H3Flow
  tunnel : MasqueTunnel
deriving DecidableEq, Repr

def varintLen (value : UInt64) : Nat :=
  if value < 64 then 1 else if value < 16384 then 2 else if value < 1073741824 then 4 else 8

def verifyPeerPublicKey (X : X509) (certDer expectedPubKeySpki : List UInt8) : Bool :=
  match X.fromDer certDer with
  | none => false
  | some cert =>
      match X.subjectPublicKeyInfoToDer cert with
      | none => false
      | some certSpkiDer => certSpkiDer == expectedPubKeySpki

def checkPeerCert (X : X509) (peerCert : Except QuicError (Option (List UInt8)))
    (expectedPubKey : Option (List UInt8)) : Except MasqueError Unit :=
  match expectedPubKey with
  | none => .ok ()
  | some expectedKey =>
      match peerCert with
      | .error e => .error (.quicError e)
      | .ok (some peerCert) =>
          if verifyPeerPublicKey X peerCert expectedKey then .ok ()
          else .error (.quicError .publicKeyMismatch)
      | .ok none => .ok ()

def responseStatus (headers : List H3Header) : String :=
  ((headers.find? (fun header => header.name = byteString ":status")).bind
    (fun header => fromUtf8 header.value)).getD "unknown"

namespace ConnectState

def init : ConnectState := ⟨none, none, false, none⟩

def ready (s : ConnectState) : Bool :=
  s.connectEstablished && s.flow.isSome && s.connectRecv.isSome

def handleEvent (s : ConnectState) : ClientH3Event → Except MasqueError ConnectState
  | .newOutboundRequest streamId requestId =>
      if requestId = connectRequestId then .ok { s with connectStreamId := some streamId }
      else .ok s
  | .newFlow flowId send recv =>
      if s.flow.isNone then .ok { s with flow := some ⟨flowId, send, recv⟩ } else .ok s
  | .incomingHeaders streamId headers recv =>
      if some streamId ≠ s.connectStreamId then .ok s
      else if responseStatus headers = "200" then
        .ok { s with connectRecv := some recv, connectEstablished := true }
      else .error (.connectIpFailed ("status: " ++ responseStatus headers))
  | .connectionError err => .error (.connectionError ("H3 error: " ++ err))
  | .connectionShutdown err => .error (.connectionError ("H3 shutdown: " ++ err))
  | .other => .ok s

def awaitEstablished (channelClosed : Bool) :
    ConnectState → List ClientH3Event → Except MasqueError ConnectState
  | s, [] =>
      if s.ready then .ok s
      else if channelClosed then .error (.connectionError "tokio-quiche event channel closed")
      else .error .timeout
  | s, event :: rest =>
      if s.ready then .ok s
      else
        match s.handleEvent event with
        | .error e => .error e
        | .ok s => awaitEstablished channelClosed s rest

def finish (s : ConnectState) (dgramMaxWritableLen : Except QuicError (Option Nat)) :
    Outcome (Except MasqueError ConnectedTunnel) :=
  match s.flow with
  | none => .error .panic
  | some flow =>
      match dgramMaxWritableLen with
      | .error e => .ok (.error (.quicError e))
      | .ok maxLen =>
          match s.connectStreamId, s.connectRecv with
          | some connectStreamId, some connectRecv =>
              .ok (.ok ⟨connectStreamId, connectRecv, flow,
                .new (maxLen.map (fun maxLen => maxLen - varintLen flow.flowId))⟩)
          | _, _ => .error .panic

end ConnectState

namespace MasqueTunnel

def connect (X : X509) (c : Connection) (expectedPubKey : Option (List UInt8)) :
    Outcome (Except MasqueError ConnectedTunnel) :=
  match c.transport with
  | .error e => .ok (.error e)
  | .ok () =>
      match checkPeerCert X c.peerCert expectedPubKey with
      | .error e => .ok (.error e)
      | .ok () =>
          if c.requestSent then
            match ConnectState.init.awaitEstablished c.channelClosed c.events with
            | .error e => .ok (.error e)
            | .ok s => s.finish c.dgramMaxWritableLen
          else .ok (.error (.connectionError "CONNECT-IP request channel closed"))

end MasqueTunnel

structure QuicConnection where
  peerCert : Option (List UInt8)
deriving DecidableEq, Repr

-- The first argument is what connect gives.
def connectWithPinning (X : X509) (connected : Except QuicError QuicConnection)
    (expectedPubKey : Option (List UInt8)) : Except QuicError QuicConnection :=
  match connected with
  | .error e => .error e
  | .ok quicConn =>
      match expectedPubKey with
      | none => .ok quicConn
      | some expectedKey =>
          match quicConn.peerCert with
          | none => .ok quicConn
          | some peerCert =>
              if verifyPeerPublicKey X peerCert expectedKey then .ok quicConn
              else .error .publicKeyMismatch

def PresentsKey (X : X509) (peerCert : Option (List UInt8)) (key : List UInt8) : Prop :=
  ∃ certDer cert, peerCert = some certDer ∧ X.fromDer certDer = some cert ∧
    X.subjectPublicKeyInfoToDer cert = some key

theorem verifyPeerPublicKey_iff {X : X509} {certDer key : List UInt8} :
    verifyPeerPublicKey X certDer key = true ↔ PresentsKey X (some certDer) key := by
  simp only [verifyPeerPublicKey, PresentsKey, Option.some.injEq, exists_and_left, exists_eq_left']
  cases X.fromDer certDer with
  | none => simp
  | some cert =>
      simp only [Option.some.injEq, exists_eq_left']
      cases hder : X.subjectPublicKeyInfoToDer cert with
      | none => simp
      | some der => simp

theorem fromUtf8_eq {bytes : List UInt8} {text : String} (h : fromUtf8 bytes = some text) :
    bytes = byteString text := by
  simp only [fromUtf8, String.fromUTF8?] at h
  split at h
  · cases h
    rfl
  · cases h

def Answers200 (headers : List H3Header) : Prop :=
  ∃ header, headers.find? (fun header => header.name = byteString ":status") = some header ∧
    header.value = byteString "200"

theorem answers200 {headers : List H3Header} (h : responseStatus headers = "200") :
    Answers200 headers := by
  rw [responseStatus] at h
  cases hf : headers.find? (fun header => header.name = byteString ":status") with
  | none =>
      rw [hf] at h
      exact absurd h (by decide)
  | some header =>
      rw [hf, Option.bind_some] at h
      cases hv : fromUtf8 header.value with
      | none =>
          rw [hv] at h
          exact absurd h (by decide)
      | some text =>
          rw [hv, Option.getD_some] at h
          exact ⟨header, hf, fromUtf8_eq (h ▸ hv)⟩

-- A stream was opened for the request, and later the response came on that stream.
def Opened (events : List ClientH3Event) : Prop :=
  ∃ streamId headers recv, Answers200 headers ∧
    List.Sublist [.newOutboundRequest streamId connectRequestId,
      .incomingHeaders streamId headers recv] events

def FlowAnnounced (events : List ClientH3Event) : Prop :=
  ∃ flowId send recv, .newFlow flowId send recv ∈ events

namespace ConnectState

-- What the variables say about the events so far.
structure Recorded (events : List ClientH3Event) (s : ConnectState) : Prop where
  stream : ∀ streamId ∈ s.connectStreamId, .newOutboundRequest streamId connectRequestId ∈ events
  established : s.connectEstablished = true → Opened events
  flow : s.flow.isSome = true → FlowAnnounced events
  recv : s.connectRecv.isSome = true → s.connectStreamId.isSome = true

theorem recorded_init : Recorded [] init := ⟨nofun, nofun, nofun, nofun⟩

theorem Recorded.mono {events later : List ClientH3Event} {s : ConnectState}
    (h : Recorded events s) (hsub : events.Sublist later) : Recorded later s where
  stream := fun streamId hid => hsub.mem (h.stream streamId hid)
  established := by
    intro he
    obtain ⟨streamId, headers, recv, h200, hopened⟩ := h.established he
    exact ⟨streamId, headers, recv, h200, hopened.trans hsub⟩
  flow := by
    intro hf
    obtain ⟨flowId, send, recv, hmem⟩ := h.flow hf
    exact ⟨flowId, send, recv, hsub.mem hmem⟩
  recv := h.recv

theorem Recorded.handleEvent {events : List ClientH3Event} {s s' : ConnectState}
    (h : Recorded events s) {event : ClientH3Event} (hs : s.handleEvent event = .ok s') :
    Recorded (events ++ [event]) s' := by
  have hm := h.mono (List.sublist_append_left events [event])
  have hlast : event ∈ events ++ [event] := List.mem_append_right events (List.mem_singleton_self _)
  cases event with
  | newOutboundRequest streamId requestId =>
      simp only [ConnectState.handleEvent] at hs
      split_ifs at hs with hid
      · cases hs
        subst hid
        refine ⟨?_, hm.established, hm.flow, fun _ => rfl⟩
        intro id hsome
        cases hsome
        exact hlast
      · cases hs
        exact hm
  | newFlow flowId send recv =>
      simp only [ConnectState.handleEvent] at hs
      split_ifs at hs
      · cases hs
        exact ⟨hm.stream, hm.established, fun _ => ⟨flowId, send, recv, hlast⟩, hm.recv⟩
      · cases hs
        exact hm
  | incomingHeaders streamId headers recv =>
      simp only [ConnectState.handleEvent] at hs
      split_ifs at hs with hid hstatus
      · cases hs
        exact hm
      · cases hs
        rw [ne_eq, not_not] at hid
        have hopened : Opened (events ++ [.incomingHeaders streamId headers recv]) := by
          refine ⟨streamId, headers, recv, answers200 hstatus, ?_⟩
          have hrequest := List.singleton_sublist.mpr (h.stream streamId hid.symm)
          exact hrequest.append (List.Sublist.refl [_])
        refine ⟨hm.stream, fun _ => hopened, hm.flow, fun _ => ?_⟩
        rw [← hid]
        rfl
  | connectionError err => cases hs
  | connectionShutdown err => cases hs
  | other =>
      cases hs
      exact hm

theorem Recorded.awaitEstablished {channelClosed : Bool} {events rest : List ClientH3Event}
    {s s' : ConnectState} (h : Recorded events s)
    (hs : s.awaitEstablished channelClosed rest = .ok s') :
    Recorded (events ++ rest) s' ∧ s'.ready = true := by
  induction rest generalizing events s with
  | nil =>
      simp only [ConnectState.awaitEstablished] at hs
      split_ifs at hs with hready
      cases hs
      exact ⟨h.mono (List.sublist_append_left events []), hready⟩
  | cons event rest ih =>
      simp only [ConnectState.awaitEstablished] at hs
      split_ifs at hs with hready
      · cases hs
        exact ⟨h.mono (List.sublist_append_left events _), hready⟩
      · cases hstep : s.handleEvent event with
        | error e =>
            rw [hstep] at hs
            cases hs
        | ok next =>
            rw [hstep] at hs
            have hrest := ih (h.handleEvent hstep) hs
            rwa [List.append_assoc, List.singleton_append] at hrest

theorem ready_iff {s : ConnectState} : s.ready = true ↔
    s.connectEstablished = true ∧ s.flow.isSome = true ∧ s.connectRecv.isSome = true := by
  simp only [ready, Bool.and_eq_true, and_assoc]

theorem finish_returns {events : List ClientH3Event} {s : ConnectState} (h : Recorded events s)
    (hready : s.ready = true) (dgramMaxWritableLen : Except QuicError (Option Nat)) :
    ∃ r, s.finish dgramMaxWritableLen = .ok r := by
  obtain ⟨_, hflow, hrecv⟩ := ready_iff.mp hready
  obtain ⟨flow, hflow⟩ := Option.isSome_iff_exists.mp hflow
  obtain ⟨streamId, hid⟩ := Option.isSome_iff_exists.mp (h.recv hrecv)
  obtain ⟨recv, hrecv⟩ := Option.isSome_iff_exists.mp hrecv
  cases dgramMaxWritableLen with
  | error e =>
      simp only [finish, hflow]
      exact ⟨_, rfl⟩
  | ok maxLen =>
      simp only [finish, hflow, hid, hrecv]
      exact ⟨_, rfl⟩

end ConnectState

theorem checkPeerCert_some {X : X509} {certDer key : List UInt8} :
    checkPeerCert X (.ok (some certDer)) (some key) = .ok () ↔
      PresentsKey X (some certDer) key := by
  rw [← verifyPeerPublicKey_iff]
  simp only [checkPeerCert]
  split_ifs with hverify
  · exact iff_of_true rfl hverify
  · exact iff_of_false nofun hverify

namespace MasqueTunnel

variable {X : X509} {c : Connection} {expectedPubKey : Option (List UInt8)} {t : ConnectedTunnel}

-- The parts of a connect that came to a tunnel.
theorem connect_ok (h : connect X c expectedPubKey = .ok (.ok t)) :
    checkPeerCert X c.peerCert expectedPubKey = .ok () ∧
      ∃ s, ConnectState.init.awaitEstablished c.channelClosed c.events = .ok s := by
  simp only [connect] at h
  cases ht : c.transport with
  | error e =>
      rw [ht] at h
      cases h
  | ok _ =>
      rw [ht] at h
      cases hcheck : checkPeerCert X c.peerCert expectedPubKey with
      | error e =>
          rw [hcheck] at h
          cases h
      | ok _ =>
          simp only [hcheck] at h
          split_ifs at h
          · cases hs : ConnectState.init.awaitEstablished c.channelClosed c.events with
            | error e =>
                rw [hs] at h
                cases h
            | ok s => exact ⟨rfl, s, rfl⟩
          · cases h

theorem connect_opened (h : connect X c expectedPubKey = .ok (.ok t)) :
    Opened c.events ∧ FlowAnnounced c.events := by
  obtain ⟨-, s, hs⟩ := connect_ok h
  obtain ⟨hrecorded, hready⟩ := ConnectState.recorded_init.awaitEstablished hs
  rw [List.nil_append] at hrecorded
  obtain ⟨hestablished, hflow, _⟩ := ConnectState.ready_iff.mp hready
  exact ⟨hrecorded.established hestablished, hrecorded.flow hflow⟩

-- None of the expects fails.
theorem connect_returns (X : X509) (c : Connection) (expectedPubKey : Option (List UInt8)) :
    ∃ r, connect X c expectedPubKey = .ok r := by
  simp only [connect]
  cases c.transport with
  | error e => exact ⟨_, rfl⟩
  | ok _ =>
      cases checkPeerCert X c.peerCert expectedPubKey with
      | error e => exact ⟨_, rfl⟩
      | ok _ =>
          dsimp only
          split_ifs
          · cases hs : ConnectState.init.awaitEstablished c.channelClosed c.events with
            | error e => exact ⟨_, rfl⟩
            | ok s =>
                obtain ⟨hrecorded, hready⟩ := ConnectState.recorded_init.awaitEstablished hs
                exact ConnectState.finish_returns hrecorded hready _
          · exact ⟨_, rfl⟩

-- Without a certificate, connect does the same as without an expected key.
theorem connect_unverified (h : c.peerCert = .ok none) :
    connect X c expectedPubKey = connect X c none := by
  have hcheck : checkPeerCert X c.peerCert expectedPubKey = checkPeerCert X c.peerCert none := by
    rw [h]
    cases expectedPubKey <;> rfl
  rw [connect, hcheck, connect]

end MasqueTunnel

-- What a result of either function says about the certificate that the peer presented, and for a
-- tunnel about the events.
structure Pinned (X : X509) (peerCert : Option (List UInt8)) (key : List UInt8) : Prop where
  connect : ∀ (c : Connection) (t : ConnectedTunnel),
    (∀ found, c.peerCert = .ok found → found = peerCert) →
    MasqueTunnel.connect X c (some key) = .ok (.ok t) →
    PresentsKey X peerCert key ∧ Opened c.events ∧ FlowAnnounced c.events
  withPinning : ∀ (connected : Except QuicError QuicConnection) (quicConn : QuicConnection),
    (∀ found, connected = .ok found → found.peerCert = peerCert) →
    connectWithPinning X connected (some key) = .ok quicConn → PresentsKey X peerCert key

theorem connectWithPinning_some {X : X509} {quicConn found : QuicConnection}
    {certDer key : List UInt8} (hcert : quicConn.peerCert = some certDer)
    (h : connectWithPinning X (.ok quicConn) (some key) = .ok found) :
    PresentsKey X (some certDer) key := by
  simp only [connectWithPinning, hcert] at h
  split_ifs at h with hverify
  exact verifyPeerPublicKey_iff.mp hverify

def unpinned : Connection where
  transport := .ok ()
  peerCert := .ok none
  requestSent := true
  events := [.newOutboundRequest 0 1,
    .incomingHeaders 0 [⟨byteString ":status", byteString "200"⟩] 0, .newFlow 0 0 0]
  channelClosed := false
  dgramMaxWritableLen := .ok none

theorem unpinned_connects (X : X509) (expectedPubKey : Option (List UInt8)) :
    MasqueTunnel.connect X unpinned expectedPubKey = .ok (.ok ⟨0, 0, ⟨0, 0, 0⟩, .new none⟩) := by
  have hloop : ConnectState.init.awaitEstablished unpinned.channelClosed unpinned.events =
      .ok ⟨some 0, some 0, true, some ⟨0, 0, 0⟩⟩ := by decide
  rw [MasqueTunnel.connect_unverified rfl]
  simp only [MasqueTunnel.connect, hloop]
  rfl

theorem not_presentsKey_none (X : X509) (key : List UInt8) : ¬ PresentsKey X none key := by
  rintro ⟨_, _, hnone, -⟩
  cases hnone

theorem pinned_iff (X : X509) (peerCert : Option (List UInt8)) (key : List UInt8) :
    Pinned X peerCert key ↔ peerCert ≠ none := by
  constructor
  · rintro h rfl
    have hconnect := h.connect unpinned _ (fun _ hfound => (Except.ok.inj hfound).symm)
      (unpinned_connects X (some key))
    exact not_presentsKey_none X key hconnect.1
  · intro hne
    obtain ⟨certDer, rfl⟩ := Option.ne_none_iff_exists'.mp hne
    constructor
    · intro c t hpeer hconnect
      obtain ⟨hcheck, -⟩ := MasqueTunnel.connect_ok hconnect
      refine ⟨?_, MasqueTunnel.connect_opened hconnect⟩
      cases hfetched : c.peerCert with
      | error e =>
          rw [hfetched] at hcheck
          cases hcheck
      | ok found =>
          rw [hfetched, hpeer found hfetched] at hcheck
          exact checkPeerCert_some.mp hcheck
    · intro connected quicConn hpeer hconnect
      cases connected with
      | error e => cases hconnect
      | ok found => exact connectWithPinning_some (hpeer found rfl) hconnect

def noCertificates : X509 where
  Certificate := Empty
  fromDer := fun _ => none
  subjectPublicKeyInfoToDer := fun _ => none

-- A peer without a certificate gets a tunnel and a connection, whatever key is expected.
theorem not_pinned :
    unpinned.peerCert = .ok none ∧
      MasqueTunnel.connect noCertificates unpinned (some [1]) =
        .ok (.ok ⟨0, 0, ⟨0, 0, 0⟩, .new none⟩) ∧
      connectWithPinning noCertificates (.ok ⟨none⟩) (some [1]) = .ok ⟨none⟩ ∧
      ¬ PresentsKey noCertificates none [1] :=
  ⟨rfl, unpinned_connects noCertificates (some [1]), rfl, not_presentsKey_none noCertificates [1]⟩

end Usque
