import Usque.Manager.UdpSessions

namespace Usque

def portRangeStart : UInt16 := 49152

def portRangeSize : UInt16 := 16384

-- LOCAL_PORT_COUNTER, which all associates and connections share, before and after the draw.
def getLocalPort (localPortCounter : UInt16) : UInt16 × UInt16 :=
  (portRangeStart + localPortCounter % portRangeSize, localPortCounter + 1)

variable {S : Smoltcp}

namespace NetworkStack

-- smoltcp hands a datagram to the first socket that is bound to its destination.
def takes (st : NetworkStack S) (e : IpEndpoint) (handle : SocketHandle) : Prop :=
  st.udpAt handle = some (some e) ∧ ∀ i < handle, st.udpAt i ≠ some (some e)

structure EndpointsDistinct (st : NetworkStack S) : Prop where
  bound : ∀ handle, st.kindAt handle ≠ some (.udp none)
  distinct : ∀ handle handle' e, st.kindAt handle = some (.udp (some e)) →
    st.kindAt handle' = some (.udp (some e)) → handle = handle'
  receiver : ∀ handle e, st.kindAt handle = some (.udp (some e)) → st.takes e handle

end NetworkStack

namespace System

variable {H : Hickory} {s t : System S} {l : Label} {params : ConnectionParams}

-- The endpoint that the step binds is not one that a live UDP socket is bound to.
def bindsUnbound (s : System S) (l : Label) : Prop :=
  ∀ e ∈ s.binds l, ∀ i ∈ s.rt.stack.validHandles, s.rt.stack.udpAt i ≠ some (some e)

instance (s : System S) (l : Label) : Decidable (s.bindsUnbound l) :=
  inferInstanceAs (Decidable (∀ e ∈ s.binds l, ∀ i ∈ s.rt.stack.validHandles, _))

theorem endpointsDistinct_of_distinct (h : s.rt.udpTable.Distinct) :
    s.rt.stack.EndpointsDistinct where
  bound := fun i hk => h.named i (RuntimeState.udpAt_some.mpr hk)
  distinct := fun i j e hi hj =>
    h.apart i j e (RuntimeState.udpAt_some.mpr hi) (RuntimeState.udpAt_some.mpr hj)
  receiver := fun i e hi => by
    have hb := RuntimeState.udpAt_some.mpr hi
    refine ⟨hb, fun j hj hjb => ?_⟩
    exact absurd (h.apart j i e hjb hb) (Nat.ne_of_lt hj)

theorem unbound_of_bindsUnbound (hs : Sound s) {op : UdpOp} (hop : UdpStep s t l op)
    (hg : s.bindsUnbound l) : s.rt.udpTable.unbound op := by
  intro h e hbinds i hi
  have hv : i ∈ s.rt.stack.validHandles := by
    rw [hs.consistent.slotted.wellFormed]
    intro hn
    have hi' : s.rt.stack.udpAt i = some (some e) := hi
    rw [NetworkStack.udpAt, hn] at hi'
    cases hi'
  exact hg e (hop.binds h e hbinds) i hv hi

theorem udp_endpoints_distinct (hS : S.KeepsSockets)
    (h : Run.Reaches (step H) bindsUnbound (init S params) s) :
    s.rt.stack.EndpointsDistinct := by
  suffices hinv : Sound s ∧ s.rt.udpTable.Distinct from endpointsDistinct_of_distinct hinv.2
  refine Run.Reaches.invariant (I := fun s => Sound s ∧ s.rt.udpTable.Distinct)
    (fun s l t ⟨hs, hd⟩ hg hst => ?_) h ⟨init_sound params, fun _ => nofun, nofun⟩
  obtain ⟨op, hop⟩ := step_udpStep hS hs hst
  refine ⟨step_sound hS hs hst, ?_⟩
  rw [hop.table]
  exact hd.apply (unbound_of_bindsUnbound hs hop hg)

def resolve (domain : String) (response : OneshotId) : List Label :=
  Script.handle (.dnsResolve domain false response) ++ [Script.refresh]

-- The second draw of LOCAL_PORT_COUNTER is past the port of the first DNS socket.
theorem udp_endpoints_distinct_second_draw :
    ∃ s : Script.Reached, s.rt.udpPorts = [49153] ∧ s.rt.dnsSockets.slot .ipv4 = some 0 ∧
      s.rt.stack.EndpointsDistinct := by
  have hg : Run.Guarded (step Script.hickory) bindsUnbound
      (init Reference.smoltcp Script.params)
      (Script.establish ++ resolve "example.com" 0 ++ registerOn (getLocalPort 1).1 1) := by
    decide +kernel
  have h : (Script.run (Script.establish ++ resolve "example.com" 0 ++
      registerOn (getLocalPort 1).1 1)).any (fun s =>
        s.rt.udpPorts = [49153] ∧ s.rt.dnsSockets.slot .ipv4 = some 0) = true := by
    decide +kernel
  obtain ⟨s, hs, hp⟩ := Script.exists_guarded hg h
  obtain ⟨hports, hslot⟩ := of_decide_eq_true hp
  exact ⟨s, hports, hslot, udp_endpoints_distinct Reference.keepsSockets hs⟩

-- Both counters start at 0: the first DNS socket and the first session share their endpoint, and
-- the session's datagrams go to the DNS socket.
theorem first_draws_collide :
    (getLocalPort 0).1 = 49152 ∧ (getDnsLocalPort {}).1 = 49152 ∧
    ∃ s : Script.Reached, Reachable Script.hickory Script.params s ∧
      ¬ s.rt.stack.EndpointsDistinct ∧ s.rt.dnsSockets.slot .ipv4 = some 0 ∧
      (s.rt.udpSessions.lookup 49152).map (·.handle) = some 1 ∧
      s.rt.stack.kindAt 0 = some (.udp (some ⟨.ipv4 0x0a000002#32, 49152⟩)) ∧
      s.rt.stack.kindAt 1 = some (.udp (some ⟨.ipv4 0x0a000002#32, 49152⟩)) ∧
      s.rt.stack.takes ⟨.ipv4 0x0a000002#32, 49152⟩ 0 := by
  have h : (Script.run (Script.establish ++ resolve "example.com" 0 ++
      registerOn (getLocalPort 0).1 1)).any (fun s =>
        s.rt.dnsSockets.slot .ipv4 = some 0 ∧
        (s.rt.udpSessions.lookup 49152).map (·.handle) = some 1 ∧
        s.rt.stack.kindAt 0 = some (.udp (some ⟨.ipv4 0x0a000002#32, 49152⟩)) ∧
        s.rt.stack.kindAt 1 = some (.udp (some ⟨.ipv4 0x0a000002#32, 49152⟩))) = true := by
    decide +kernel
  obtain ⟨s, hs, hp⟩ := Script.exists_reachable h
  obtain ⟨hslot, hse, h0, h1⟩ := of_decide_eq_true hp
  refine ⟨by decide, by decide, s, hs, fun hd => ?_, hslot, hse, h0, h1,
    RuntimeState.udpAt_some.mpr h0, fun i hi => absurd hi (Nat.not_lt_zero i)⟩
  exact absurd (hd.distinct 0 1 _ h0 h1) (by decide)

end System

end Usque
