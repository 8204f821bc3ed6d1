import Usque.Socks.UdpForward

namespace Usque

namespace RelayEvent

def sentBy (source : SocketAddr) : RelayEvent → RelayEvent
  | .datagram d => .datagram { d with source }
  | event => event

end RelayEvent

namespace UdpForward

variable {F : FastSocks} {tunables : SocksTunables} {s s' t : UdpForward}

-- A state that may differ in where the relay sends its responses.
def readdressed (s : UdpForward) (clientAddr : Option SocketAddr)
    (responses : List (List UInt8 × SocketAddr)) : UdpForward :=
  { s with clientAddr, responses }

variable {clientAddr : Option SocketAddr} {responses : List (List UInt8 × SocketAddr)}

theorem sendUdp_readdressed (d : RelayDatagram) (target : TargetAddr) (data : List UInt8) :
    (s.readdressed clientAddr responses).sendUdp d target data =
      (s.sendUdp d target data).readdressed clientAddr responses := by
  simp only [sendUdp]
  split
  · split <;> rfl
  · rfl

theorem handleRequest_readdressed (d : RelayDatagram) (frag : UInt8) (target : TargetAddr)
    (payload : List UInt8) :
    (s.readdressed clientAddr responses).handleRequest tunables d frag target payload =
      (s.handleRequest tunables d frag target payload).map
        (·.readdressed clientAddr responses) := by
  have hsend : ∀ fragBuffers data,
      UdpForward.sendUdp { s.readdressed clientAddr responses with fragBuffers } d target data =
        (UdpForward.sendUdp { s with fragBuffers } d target data).readdressed clientAddr
          responses := fun fragBuffers data =>
    sendUdp_readdressed (s := { s with fragBuffers }) d target data
  simp only [handleRequest]
  split
  · rw [hsend]
    rfl
  · split
    · rfl
    · show (FragBuffer.insert _ _ _ _ _ >>= _) = Except.map _ (FragBuffer.insert _ _ _ _ _ >>= _)
      have hbuffers : (s.readdressed clientAddr responses).fragBuffers = s.fragBuffers := rfl
      rw [hbuffers]
      cases FragBuffer.insert _ _ _ _ _ with
      | error e => rfl
      | ok r =>
          obtain ⟨assembled, buffer⟩ := r
          cases assembled with
          | none => rfl
          | some data =>
              show Except.ok _ = Except.ok _
              rw [hsend]

theorem sendUdp_eq (s : UdpForward) (d : RelayDatagram) (target : TargetAddr)
    (data : List UInt8) : ∃ forwarded, s.sendUdp d target data = { s with forwarded } := by
  simp only [sendUdp]
  split
  · split
    · exact ⟨_, rfl⟩
    · exact ⟨s.forwarded, rfl⟩
  · exact ⟨s.forwarded, rfl⟩

theorem handleRequest_eq {d : RelayDatagram} {frag : UInt8} {target : TargetAddr}
    {payload : List UInt8} (h : s.handleRequest tunables d frag target payload = .ok t) :
    ∃ fragBuffers forwarded, t = { s with fragBuffers, forwarded } := by
  simp only [handleRequest] at h
  split at h
  · obtain ⟨forwarded, he⟩ := sendUdp_eq { s with fragBuffers := _ } d target payload
    rw [he] at h
    cases h
    exact ⟨_, _, rfl⟩
  · split at h
    · cases h
      exact ⟨_, s.forwarded, rfl⟩
    · obtain ⟨⟨assembled, buffer⟩, _, h⟩ := Outcome.bind_eq_ok.mp h
      cases assembled with
      | none =>
          cases h
          exact ⟨_, s.forwarded, rfl⟩
      | some data =>
          obtain ⟨forwarded, he⟩ := sendUdp_eq { s with fragBuffers := _ } d target data
          dsimp only at h
          rw [he] at h
          cases h
          exact ⟨_, _, rfl⟩

theorem handleRequest_kept {d : RelayDatagram} {frag : UInt8} {target : TargetAddr}
    {payload : List UInt8} (h : s.handleRequest tunables d frag target payload = .ok t) :
    t.clientAddr = s.clientAddr ∧ t.responses = s.responses ∧ t.closed = s.closed ∧
      t.localPort = s.localPort := by
  obtain ⟨_, _, rfl⟩ := handleRequest_eq h
  exact ⟨rfl, rfl, rfl, rfl⟩

structure Alike (s s' : UdpForward) : Prop where
  same : s' = s.readdressed s'.clientAddr s'.responses
  heard : s'.clientAddr.isSome = s.clientAddr.isSome
  bytes : s'.responses.map Prod.fst = s.responses.map Prod.fst

def answer (F : FastSocks) (clientAddr : Option SocketAddr) (remoteIp : IpAddress)
    (remotePort : UInt16) (data : List UInt8) (sent : Bool) : List (List UInt8 × SocketAddr) :=
  match clientAddr, buildUdpResponse F remoteIp remotePort data with
  | some addr, some packet => if sent then [(packet, addr)] else []
  | _, _ => []

theorem respond_eq (s : UdpForward) (remoteIp : IpAddress) (remotePort : UInt16)
    (data : List UInt8) (sent : Bool) :
    s.respond F remoteIp remotePort data sent =
      { s with responses := s.responses ++ answer F s.clientAddr remoteIp remotePort data sent } := by
  obtain ⟨localPort, clientAddr, fragBuffers, closed, forwarded, responses⟩ := s
  simp only [respond, answer]
  cases clientAddr with
  | none => simp
  | some addr =>
      cases buildUdpResponse F remoteIp remotePort data with
      | none => simp
      | some packet => cases sent <;> simp

theorem answer_bytes {addr addr' : Option SocketAddr} (h : addr'.isSome = addr.isSome)
    (remoteIp : IpAddress) (remotePort : UInt16) (data : List UInt8) (sent : Bool) :
    (answer F addr' remoteIp remotePort data sent).map Prod.fst =
      (answer F addr remoteIp remotePort data sent).map Prod.fst := by
  cases addr with
  | none =>
      cases addr' with
      | none => rfl
      | some _ => cases h
  | some _ =>
      cases addr' with
      | none => cases h
      | some _ =>
          simp only [answer]
          cases buildUdpResponse F remoteIp remotePort data with
          | none => rfl
          | some packet => cases sent <;> rfl

theorem respond_alike (h : Alike s s') (remoteIp : IpAddress) (remotePort : UInt16)
    (data : List UInt8) (sent : Bool) :
    Alike (s.respond F remoteIp remotePort data sent)
      (s'.respond F remoteIp remotePort data sent) := by
  rw [respond_eq, respond_eq]
  refine ⟨?_, h.heard, ?_⟩
  · have hsame := h.same
    generalize s'.clientAddr = addr at hsame ⊢
    generalize s'.responses = answers at hsame ⊢
    rw [hsame]
    rfl
  · rw [List.map_append, List.map_append, h.bytes, answer_bytes h.heard]

theorem receive_alike (h : Alike s s') {d : RelayDatagram} (source : SocketAddr)
    (hstep : s.receive F tunables d = .ok t) :
    ∃ t', s'.receive F tunables { d with source } = .ok t' ∧ Alike t t' := by
  have hs' : { s' with clientAddr := some source } =
      UdpForward.readdressed { s with clientAddr := some d.source } (some source)
        s'.responses := by
    rw [h.same]
    rfl
  have hrequest : request F tunables { d with source } = request F tunables d := rfl
  simp only [receive, hrequest] at hstep ⊢
  cases hr : request F tunables d with
  | none =>
      rw [hr] at hstep
      cases hstep
      exact ⟨_, rfl, hs', rfl, h.bytes⟩
  | some r =>
      obtain ⟨frag, target, payload⟩ := r
      rw [hr] at hstep
      refine ⟨t.readdressed (some source) s'.responses, ?_, rfl, ?_, ?_⟩
      · have hsource : ∀ u : UdpForward,
            u.handleRequest tunables { d with source } frag target payload =
              u.handleRequest tunables d frag target payload := fun _ => rfl
        dsimp only at hstep ⊢
        rw [hs', handleRequest_readdressed, hsource, hstep]
        rfl
      · rw [(handleRequest_kept hstep).1]
        rfl
      · rw [(handleRequest_kept hstep).2.1]
        exact h.bytes

theorem step_alike (h : Alike s s') {event : RelayEvent} (source : SocketAddr)
    (hstep : s.step F tunables event = .ok t) :
    ∃ t', s'.step F tunables (event.sentBy source) = .ok t' ∧ Alike t t' := by
  have hclosed : s'.closed = s.closed := by
    rw [h.same]
    rfl
  simp only [step] at hstep ⊢
  rw [hclosed]
  split at hstep
  · next hc =>
      cases hstep
      rw [if_pos hc]
      exact ⟨s', rfl, h⟩
  · next hc =>
      rw [if_neg hc]
      cases event with
      | tcpRead closed =>
          cases hstep
          refine ⟨_, rfl, ?_, h.heard, h.bytes⟩
          rw [h.same]
          rfl
      | datagram d => exact receive_alike h source hstep
      | recvError =>
          cases hstep
          exact ⟨s', rfl, h⟩
      | fromTunnel remoteIp remotePort data sent =>
          cases hstep
          exact ⟨_, rfl, respond_alike h remoteIp remotePort data sent⟩

-- The sources of the datagrams decide only where the responses go.
theorem run_alike {events : List RelayEvent} {events' : List RelayEvent}
    (hevents : List.Forall₂ (fun e e' => ∃ source, e' = RelayEvent.sentBy source e) events events')
    (h : Alike s s') (hrun : Outcome.run (step F tunables) s events = .ok t) :
    ∃ t', Outcome.run (step F tunables) s' events' = .ok t' ∧ Alike t t' := by
  induction hevents generalizing s s' with
  | nil =>
      cases hrun
      exact ⟨s', rfl, h⟩
  | cons he _ ih =>
      obtain ⟨source, rfl⟩ := he
      obtain ⟨t₁, ht₁, hrun⟩ := Outcome.bind_eq_ok.mp hrun
      obtain ⟨t₁', ht₁', hlike⟩ := step_alike h source ht₁
      obtain ⟨t', ht', hlike'⟩ := ih hlike hrun
      exact ⟨t', Outcome.bind_eq_ok.mpr ⟨t₁', ht₁', ht'⟩, hlike'⟩

-- The responses of a run: each goes to the source of the latest datagram, whoever that is.
def answers (F : FastSocks) : Option SocketAddr → List RelayEvent → List (List UInt8 × SocketAddr)
  | _, [] => []
  | addr, .tcpRead closed :: events => if closed then [] else answers F addr events
  | _, .datagram d :: events => answers F (some d.source) events
  | addr, .recvError :: events => answers F addr events
  | addr, .fromTunnel remoteIp remotePort data sent :: events =>
      answer F addr remoteIp remotePort data sent ++ answers F addr events

theorem run_closed (h : s.closed = true) (events : List RelayEvent) :
    Outcome.run (step F tunables) s events = .ok s := by
  induction events with
  | nil => rfl
  | cons event events ih =>
      have hstep : s.step F tunables event = .ok s := by
        simp only [step, h, if_true]
      rw [Outcome.run, hstep, Outcome.ok_bind, ih]

theorem receive_kept {d : RelayDatagram} (h : s.receive F tunables d = .ok t) :
    t.clientAddr = some d.source ∧ t.responses = s.responses ∧ t.closed = s.closed ∧
      t.localPort = s.localPort := by
  simp only [receive] at h
  split at h
  · exact handleRequest_kept h
  · cases h
    exact ⟨rfl, rfl, rfl, rfl⟩

theorem run_responses {events : List RelayEvent}
    (h : Outcome.run (step F tunables) s events = .ok t) (hopen : s.closed = false) :
    t.responses = s.responses ++ answers F s.clientAddr events := by
  induction events generalizing s with
  | nil =>
      cases h
      exact (List.append_nil _).symm
  | cons event events ih =>
      obtain ⟨t₁, h₁, hrest⟩ := Outcome.bind_eq_ok.mp h
      simp only [step, hopen, Bool.false_eq_true, if_false] at h₁
      cases event with
      | tcpRead closed =>
          cases h₁
          cases closed with
          | true =>
              rw [run_closed rfl] at hrest
              cases hrest
              simp only [answers, if_true, List.append_nil]
          | false => exact ih (s := { s with closed := false }) hrest rfl
      | datagram d =>
          obtain ⟨haddr, hresponses, hclosed, _⟩ := receive_kept h₁
          rw [ih hrest (hclosed.trans hopen), haddr, hresponses]
          rfl
      | recvError =>
          cases h₁
          exact ih hrest hopen
      | fromTunnel remoteIp remotePort data sent =>
          cases h₁
          rw [respond_eq] at hrest
          rw [ih hrest hopen, answers, List.append_assoc]

end UdpForward

end Usque
