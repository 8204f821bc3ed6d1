import Usque.Socks.RelayTargets
import Usque.Stack.Reference

namespace Usque

namespace UdpForward

theorem udp_relay_isolation (F : FastSocks) (tunables : SocksTunables) (localPort : UInt16)
    (events : List RelayEvent) :
    ∃ t, run F tunables localPort events = .ok t ∧
      t.responses = answers F none events ∧
      (∀ events', List.Forall₂ (fun e e' => ∃ source, e' = RelayEvent.sentBy source e)
          events events' →
        ∃ t', run F tunables localPort events' = .ok t' ∧ t'.forwarded = t.forwarded ∧
          t'.fragBuffers = t.fragBuffers ∧
          t'.responses.map Prod.fst = t.responses.map Prod.fst) ∧
      (RelayEvent.timed 0 events → ∀ target, ∃ t',
        run F tunables localPort (events.filter (concerns F tunables target)) = .ok t' ∧
          t'.forwarded = t.forwarded.filter (fun p => p.1 = target)) := by
  obtain ⟨t, ht⟩ := run_ok F tunables (init_bounded localPort) events
  refine ⟨t, ht, ?_, ?_, ?_⟩
  · have h := run_responses ht rfl
    exact h
  · intro events' he
    have hinit : Alike (init localPort) (init localPort) := ⟨rfl, rfl, rfl⟩
    obtain ⟨t', ht', hlike⟩ := run_alike he hinit ht
    refine ⟨t', ht', ?_, ?_, hlike.bytes⟩
    · rw [hlike.same]
      rfl
    · rw [hlike.same]
      rfl
  · intro htimed target
    have hinit : Projects tunables target 0 (init localPort) (init localPort) :=
      ⟨rfl, rfl, rfl, .inl rfl⟩
    obtain ⟨t', _, ht', hp⟩ := run_projects htimed hinit ht
    exact ⟨t', ht', hp.forwarded⟩

def client : SocketAddr := ⟨.ipv4 0x0a000001#32, 4000⟩

def stranger : SocketAddr := ⟨.ipv4 0x0a000042#32, 666⟩

def server : SocketAddr := ⟨.ipv4 0x01020304#32, 53⟩

-- The reading and writing of headers with an IPv4 address.
def ipv4Socks : FastSocks where
  parseUdpRequest
    | 0 :: 0 :: frag :: 1 :: a :: b :: c :: d :: rest =>
        some (frag, .ip ⟨.ipv4 (BitVec.ofNat 32 (Reference.natOfBytes [a, b, c, d])),
          Reference.word16 rest⟩, rest.drop 2)
    | _ => none
  newUdpHeader addr :=
    match addr.ip with
    | .ipv4 a => some ([0, 0, 0, 1] ++ Reference.bytesOf32 a ++ Reference.bytesOf16 addr.port)
    | .ipv6 _ => none

def requestFrom (source : SocketAddr) (frag : UInt8) (now : Time) (payload : List UInt8) :
    RelayEvent :=
  .datagram ⟨source, [0, 0, frag, 1, 1, 2, 3, 4, 0, 53] ++ payload, now, now, none, true⟩

def responseFrom (payload : List UInt8) : RelayEvent :=
  .fromTunnel (.ipv4 0x01020304#32) 53 payload true

theorem udp_relay_isolation_fragments : ∃ t,
    run ipv4Socks {} 49152 [requestFrom client 1 0 [7], requestFrom stranger 0x82 1 [8],
      responseFrom [9]] = .ok t ∧
    t.responses = [([0, 0, 0, 1, 1, 2, 3, 4, 0, 53, 9], stranger)] ∧
    (∃ t', run ipv4Socks {} 49152 [requestFrom stranger 1 0 [7], requestFrom client 0x82 1 [8],
        responseFrom [9]] = .ok t' ∧ t'.forwarded = t.forwarded) ∧
    ∃ t', run ipv4Socks {} 49152 [requestFrom client 1 0 [7], requestFrom stranger 0x82 1 [8],
        responseFrom [9]] = .ok t' ∧
      t'.forwarded = t.forwarded.filter (fun p => p.1 = .ip server) := by
  obtain ⟨t, ht, hresponses, hsources, htargets⟩ := udp_relay_isolation ipv4Socks {} 49152
    [requestFrom client 1 0 [7], requestFrom stranger 0x82 1 [8], responseFrom [9]]
  refine ⟨t, ht, hresponses.trans (by decide), ?_, ?_⟩
  · obtain ⟨t', ht', hforwarded, _⟩ := hsources _
      (.cons ⟨stranger, rfl⟩ (.cons ⟨client, rfl⟩ (.cons ⟨client, rfl⟩ .nil)))
    exact ⟨t', ht', hforwarded⟩
  · obtain ⟨t', ht', hforwarded⟩ := htargets (by simp [RelayEvent.timed, requestFrom, responseFrom])
      (.ip server)
    exact ⟨t', ht', hforwarded⟩

-- A stranger's datagram between the client's and the server's answer: it is forwarded, and it is the
-- stranger who gets the answer.
theorem stranger_redirects :
    (run ipv4Socks {} 49152 [requestFrom client 0 0 [7], responseFrom [9]]).toOption.map
        (fun t => (t.forwarded, t.responses)) =
      some ([(.ip server, ⟨.ipv4 0x01020304#32, 53, 49152, [7]⟩)],
        [([0, 0, 0, 1, 1, 2, 3, 4, 0, 53, 9], client)]) ∧
    (run ipv4Socks {} 49152 [requestFrom client 0 0 [7], requestFrom stranger 0 1 [8],
        responseFrom [9]]).toOption.map (fun t => (t.forwarded, t.responses)) =
      some ([(.ip server, ⟨.ipv4 0x01020304#32, 53, 49152, [7]⟩),
          (.ip server, ⟨.ipv4 0x01020304#32, 53, 49152, [8]⟩)],
        [([0, 0, 0, 1, 1, 2, 3, 4, 0, 53, 9], stranger)]) := by
  constructor <;> decide +kernel

end UdpForward

end Usque
