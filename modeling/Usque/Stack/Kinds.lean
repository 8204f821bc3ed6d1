import Usque.Stack.NetworkStack

namespace Usque

namespace NetworkStack

variable {S : Smoltcp} {st st' st'' : NetworkStack S} {handle : SocketHandle}

def HasTcp (st : NetworkStack S) (handle : SocketHandle) (s : S.TcpSocket) : Prop :=
  handle ∈ st.validHandles ∧ st.sockets.get? handle = some (.tcp s)

def HasUdp (st : NetworkStack S) (handle : SocketHandle) (s : S.UdpSocket) : Prop :=
  handle ∈ st.validHandles ∧ st.sockets.get? handle = some (.udp s)

theorem getTcpSocket_ok {o : Option S.TcpSocket} (h : st.getTcpSocket handle = .ok o) :
    (handle ∉ st.validHandles ∧ o = none) ∨ ∃ s, st.HasTcp handle s ∧ o = some s := by
  simp only [getTcpSocket] at h
  split at h
  · next hv =>
      split at h
      · next s hs => exact .inr ⟨s, ⟨hv, hs⟩, (Outcome.ok_iff.mp h).symm⟩
      · cases h
  · next hv => exact .inl ⟨hv, (Outcome.ok_iff.mp h).symm⟩

theorem getUdpSocket_ok {o : Option S.UdpSocket} (h : st.getUdpSocket handle = .ok o) :
    (handle ∉ st.validHandles ∧ o = none) ∨ ∃ s, st.HasUdp handle s ∧ o = some s := by
  simp only [getUdpSocket] at h
  split at h
  · next hv =>
      split at h
      · next s hs => exact .inr ⟨s, ⟨hv, hs⟩, (Outcome.ok_iff.mp h).symm⟩
      · cases h
  · next hv => exact .inl ⟨hv, (Outcome.ok_iff.mp h).symm⟩

theorem HasTcp.getTcpSocket {s : S.TcpSocket} (h : st.HasTcp handle s) :
    st.getTcpSocket handle = .ok (some s) := by
  simp [NetworkStack.getTcpSocket, h.1, h.2]

theorem HasUdp.getUdpSocket {s : S.UdpSocket} (h : st.HasUdp handle s) :
    st.getUdpSocket handle = .ok (some s) := by
  simp [NetworkStack.getUdpSocket, h.1, h.2]

theorem HasTcp.unique {s s' : S.TcpSocket} (h : st.HasTcp handle s) (h' : st.HasTcp handle s') :
    s = s' := by
  have := h.2.symm.trans h'.2
  simpa using this

theorem HasTcp.kindAt {s : S.TcpSocket} (h : st.HasTcp handle s) :
    st.kindAt handle = some .tcp := by
  simp [NetworkStack.kindAt, Smoltcp.kindAt, h.2, Smoltcp.kind]

theorem HasUdp.kindAt {s : S.UdpSocket} (h : st.HasUdp handle s) :
    st.kindAt handle = some (.udp (S.udpEndpoint s)) := by
  simp [NetworkStack.kindAt, Smoltcp.kindAt, h.2, Smoltcp.kind]

theorem getTcpSocket_invalid (h : handle ∉ st.validHandles) :
    st.getTcpSocket handle = .ok none := by
  simp [getTcpSocket, h]

theorem tcpQuery_ok {f : S.TcpSocket → Bool} {b : Bool} (h : tcpQuery f st handle = .ok b) :
    (handle ∉ st.validHandles ∧ b = false) ∨ ∃ s, st.HasTcp handle s ∧ b = f s := by
  obtain ⟨o, ho, hb⟩ := Outcome.bind_eq_ok.mp h
  rcases getTcpSocket_ok ho with ⟨hv, rfl⟩ | ⟨s, hs, rfl⟩
  · exact .inl ⟨hv, (Outcome.ok_iff.mp hb).symm⟩
  · exact .inr ⟨s, hs, (Outcome.ok_iff.mp hb).symm⟩

theorem HasTcp.tcpQuery {s : S.TcpSocket} (h : st.HasTcp handle s) (f : S.TcpSocket → Bool) :
    NetworkStack.tcpQuery f st handle = .ok (f s) := by
  simp [NetworkStack.tcpQuery, h.getTcpSocket]

theorem tcpSend_ok {data : List UInt8} {r : Except StackError Nat}
    (h : st.tcpSend handle data = .ok (r, st')) :
    (handle ∉ st.validHandles ∧ r = .error invalidHandle ∧ st' = st) ∨
      ∃ s, st.HasTcp handle s ∧ r = (S.tcpSendSlice s data).1.mapError .socketError ∧
        st' = st.putTcp handle (S.tcpSendSlice s data).2 := by
  obtain ⟨o, ho, hb⟩ := Outcome.bind_eq_ok.mp h
  rcases getTcpSocket_ok ho with ⟨hv, rfl⟩ | ⟨s, hs, rfl⟩
  · cases hb
    exact .inl ⟨hv, rfl, rfl⟩
  · cases hb
    exact .inr ⟨s, hs, rfl, rfl⟩

theorem tcpRecv_ok {len : Nat} {r : Except StackError (List UInt8)}
    (h : st.tcpRecv handle len = .ok (r, st')) :
    (handle ∉ st.validHandles ∧ r = .error invalidHandle ∧ st' = st) ∨
      ∃ s, st.HasTcp handle s ∧ r = (S.tcpRecvSlice s len).1.mapError .socketError ∧
        st' = st.putTcp handle (S.tcpRecvSlice s len).2 := by
  obtain ⟨o, ho, hb⟩ := Outcome.bind_eq_ok.mp h
  rcases getTcpSocket_ok ho with ⟨hv, rfl⟩ | ⟨s, hs, rfl⟩
  · cases hb
    exact .inl ⟨hv, rfl, rfl⟩
  · cases hb
    exact .inr ⟨s, hs, rfl, rfl⟩

def logCall (st : NetworkStack S) (c : StackCall) : NetworkStack S :=
  { st with calls := c :: st.calls }

theorem tcpClose_ok (h : st.tcpClose handle = .ok st') :
    (handle ∉ st.validHandles ∧ st' = st.logCall (.tcpClose handle)) ∨
      ∃ s, st.HasTcp handle s ∧
        st' = (st.logCall (.tcpClose handle)).putTcp handle (S.tcpClose s) := by
  obtain ⟨o, ho, hb⟩ := Outcome.bind_eq_ok.mp h
  rcases getTcpSocket_ok ho with ⟨hv, rfl⟩ | ⟨s, hs, rfl⟩
  · exact .inl ⟨hv, (Outcome.ok_iff.mp hb).symm⟩
  · exact .inr ⟨s, hs, (Outcome.ok_iff.mp hb).symm⟩

theorem connectTcp_ok {remoteIp : IpAddress} {remotePort localPort : UInt16}
    {r : Except StackError Unit}
    (h : st.connectTcp handle remoteIp remotePort localPort = .ok (r, st')) :
    (handle ∉ st.validHandles ∧ r = .error invalidHandle ∧ st' = st) ∨
      ∃ s, st.HasTcp handle s ∧
        ((∃ e, r = .error e ∧ st' = st) ∨
          ∃ iface s', S.tcpConnect st.iface s ⟨remoteIp, remotePort⟩ localPort = .ok (iface, s') ∧
            r = .ok () ∧ st' = { st.putTcp handle s' with iface }) := by
  obtain ⟨o, ho, hb⟩ := Outcome.bind_eq_ok.mp h
  rcases getTcpSocket_ok ho with ⟨hv, rfl⟩ | ⟨s, hs, rfl⟩
  · cases hb
    exact .inl ⟨hv, rfl, rfl⟩
  · refine .inr ⟨s, hs, ?_⟩
    dsimp only at hb
    split at hb
    · cases hb
      exact .inl ⟨_, rfl, rfl⟩
    · next iface s' he =>
        cases hb
        exact .inr ⟨iface, s', he, rfl, rfl⟩

theorem udpSend_ok {remoteIp : IpAddress} {remotePort : UInt16} {data : List UInt8}
    {r : Except StackError Unit} (h : st.udpSend handle remoteIp remotePort data = .ok (r, st')) :
    (handle ∉ st.validHandles ∧ r = .error invalidHandle ∧ st' = st) ∨
      ∃ s, st.HasUdp handle s ∧
        r = (S.udpSendSlice s data ⟨remoteIp, remotePort⟩).1.mapError .socketError ∧
        st' = (st.logCall (.udpSend handle (S.udpEndpoint s) remoteIp)).putUdp handle
          (S.udpSendSlice s data ⟨remoteIp, remotePort⟩).2 := by
  obtain ⟨o, ho, hb⟩ := Outcome.bind_eq_ok.mp h
  rcases getUdpSocket_ok ho with ⟨hv, rfl⟩ | ⟨s, hs, rfl⟩
  · cases hb
    exact .inl ⟨hv, rfl, rfl⟩
  · cases hb
    exact .inr ⟨s, hs, rfl, rfl⟩

theorem udpRecv_ok {len : Nat} {r : Except StackError (List UInt8 × IpEndpoint)}
    (h : st.udpRecv handle len = .ok (r, st')) :
    (handle ∉ st.validHandles ∧ r = .error invalidHandle ∧ st' = st) ∨
      ∃ s, st.HasUdp handle s ∧ r = (S.udpRecvSlice s len).1.mapError .socketError ∧
        st' = st.putUdp handle (S.udpRecvSlice s len).2 := by
  obtain ⟨o, ho, hb⟩ := Outcome.bind_eq_ok.mp h
  rcases getUdpSocket_ok ho with ⟨hv, rfl⟩ | ⟨s, hs, rfl⟩
  · cases hb
    exact .inl ⟨hv, rfl, rfl⟩
  · cases hb
    exact .inr ⟨s, hs, rfl, rfl⟩

structure Keeps (st st' : NetworkStack S) : Prop where
  kindAt : ∀ h, st'.kindAt h = st.kindAt h
  validHandles : st'.validHandles = st.validHandles
  localIpv4 : st'.localIpv4 = st.localIpv4
  localIpv6 : st'.localIpv6 = st.localIpv6

namespace Keeps

theorem refl (st : NetworkStack S) : Keeps st st := ⟨fun _ => rfl, rfl, rfl, rfl⟩

theorem trans (h : Keeps st st') (k : Keeps st' st'') : Keeps st st'' where
  kindAt := fun i => (k.kindAt i).trans (h.kindAt i)
  validHandles := k.validHandles.trans h.validHandles
  localIpv4 := k.localIpv4.trans h.localIpv4
  localIpv6 := k.localIpv6.trans h.localIpv6

theorem logCall (st : NetworkStack S) (c : StackCall) : Keeps st (st.logCall c) :=
  ⟨fun _ => rfl, rfl, rfl, rfl⟩

theorem device (st : NetworkStack S) (device : VirtualDevice) :
    Keeps st { st with device } := ⟨fun _ => rfl, rfl, rfl, rfl⟩

theorem iface (st : NetworkStack S) (iface : S.Interface) : Keeps st { st with iface } :=
  ⟨fun _ => rfl, rfl, rfl, rfl⟩

end Keeps

theorem kindAt_put {s : S.AnySocket} {k : S.AnySocket} (h : st.sockets.get? handle = some s)
    (hk : S.kind k = S.kind s) (i : SocketHandle) :
    S.kindAt (st.sockets.put handle k) i = S.kindAt st.sockets i := by
  simp only [Smoltcp.kindAt, Slots.get?_put h]
  split_ifs with hi
  · subst hi
    simp [h, hk]
  · rfl

theorem HasTcp.keeps_put {s : S.TcpSocket} (h : st.HasTcp handle s) (s' : S.TcpSocket) :
    Keeps st (st.putTcp handle s') :=
  ⟨kindAt_put h.2 rfl, rfl, rfl, rfl⟩

theorem HasUdp.keeps_put {s s' : S.UdpSocket} (h : st.HasUdp handle s)
    (he : S.udpEndpoint s' = S.udpEndpoint s) : Keeps st (st.putUdp handle s') :=
  ⟨kindAt_put h.2 (congrArg Smoltcp.SocketKind.udp he), rfl, rfl, rfl⟩

theorem HasTcp.logCall {s : S.TcpSocket} (h : st.HasTcp handle s) (c : StackCall) :
    (st.logCall c).HasTcp handle s := h

theorem HasUdp.logCall {s : S.UdpSocket} (h : st.HasUdp handle s) (c : StackCall) :
    (st.logCall c).HasUdp handle s := h

theorem tcpClose_keeps (h : st.tcpClose handle = .ok st') : Keeps st st' := by
  rcases tcpClose_ok h with ⟨_, rfl⟩ | ⟨s, hs, rfl⟩
  · exact .logCall _ _
  · exact (Keeps.logCall _ _).trans ((hs.logCall _).keeps_put _)

theorem connectTcp_keeps {remoteIp : IpAddress} {remotePort localPort : UInt16}
    {r : Except StackError Unit}
    (h : st.connectTcp handle remoteIp remotePort localPort = .ok (r, st')) : Keeps st st' := by
  rcases connectTcp_ok h with ⟨_, _, rfl⟩ | ⟨s, hs, ⟨_, _, rfl⟩ | ⟨iface, s', _, _, rfl⟩⟩
  · exact .refl _
  · exact .refl _
  · exact (hs.keeps_put s').trans (.iface _ _)

theorem udpSend_keeps (hS : S.KeepsSockets) {remoteIp : IpAddress} {remotePort : UInt16}
    {data : List UInt8} {r : Except StackError Unit}
    (h : st.udpSend handle remoteIp remotePort data = .ok (r, st')) : Keeps st st' := by
  rcases udpSend_ok h with ⟨_, _, rfl⟩ | ⟨s, hs, _, rfl⟩
  · exact .refl _
  · exact (Keeps.logCall _ _).trans ((hs.logCall _).keeps_put (hS.send _ _ _))

theorem udpRecv_keeps (hS : S.KeepsSockets) {len : Nat}
    {r : Except StackError (List UInt8 × IpEndpoint)}
    (h : st.udpRecv handle len = .ok (r, st')) : Keeps st st' := by
  rcases udpRecv_ok h with ⟨_, _, rfl⟩ | ⟨s, hs, _, rfl⟩
  · exact .refl _
  · exact hs.keeps_put (hS.recv _ _)

theorem pollIngressSingle_keeps (hS : S.KeepsSockets) {now : Time}
    {r : PollIngressSingleResult} (h : st.pollIngressSingle now = .ok (r, st')) :
    Keeps st st' := by
  simp only [pollIngressSingle] at h
  split at h
  · cases h
    exact .refl _
  · split at h
    · cases h
    · next r hr =>
        cases h
        exact ⟨(hS.processPacket _ _ _ _ _ hr).1, rfl, rfl, rfl⟩

theorem pollIngress_keeps (hS : S.KeepsSockets) {now : Time} {budget : Nat}
    {outcome outcome' : StackPollOutcome}
    (h : pollIngress now budget st outcome = .ok (outcome', st')) : Keeps st st' := by
  induction budget generalizing st outcome with
  | zero =>
      cases h
      exact .refl _
  | succ budget ih =>
      simp only [pollIngress] at h
      split at h
      · cases h
      · next hp =>
          cases h
          exact pollIngressSingle_keeps hS hp
      · next hp => exact (pollIngressSingle_keeps hS hp).trans (ih h)
      · next hp => exact (pollIngressSingle_keeps hS hp).trans (ih h)

theorem pollEgress_keeps (hS : S.KeepsSockets) {now : Time} {changed : Bool}
    (h : st.pollEgress now = .ok (changed, st')) : Keeps st st' := by
  simp only [NetworkStack.pollEgress] at h
  split at h
  · cases h
  · next r hr =>
      cases h
      exact ⟨(hS.pollEgress _ _ _ _ _ hr).1, rfl, rfl, rfl⟩

theorem pollBounded_ok {now : Time} {ingressBudget : Nat} {outcome : StackPollOutcome}
    (h : st.pollBounded now ingressBudget = .ok (outcome, st')) :
    ∃ ingress mid egress,
      pollIngress now (max ingressBudget 1) { st with iface := S.pollMaintenance now st.iface }
        ⟨0, false, false⟩ = .ok (ingress, mid) ∧
      mid.pollEgress now = .ok (egress, st') ∧
      outcome.socketStateChanged = (ingress.socketStateChanged || egress) := by
  simp only [pollBounded] at h
  split at h
  · cases h
  · next ingress mid hi =>
      split at h
      · cases h
      · next egress st₁ he =>
          cases h
          refine ⟨ingress, mid, egress, hi, he, ?_⟩
          dsimp only
          split <;> rfl

theorem pollBounded_keeps (hS : S.KeepsSockets) {now : Time} {ingressBudget : Nat}
    {outcome : StackPollOutcome} (h : st.pollBounded now ingressBudget = .ok (outcome, st')) :
    Keeps st st' := by
  obtain ⟨ingress, mid, egress, hi, he, _⟩ := pollBounded_ok h
  exact ((Keeps.iface _ _).trans (pollIngress_keeps hS hi)).trans (pollEgress_keeps hS he)

theorem injectPacketOwned_keeps {packet : Packet} (h : st.injectPacketOwned packet = .ok st') :
    Keeps st st' := by
  obtain ⟨device, _, hd⟩ := Outcome.bind_eq_ok.mp h
  cases hd
  exact .device _ _

def WellFormed (st : NetworkStack S) : Prop :=
  ∀ h, h ∈ st.validHandles ↔ st.kindAt h ≠ none

theorem Keeps.wellFormed (h : Keeps st st') (hw : st.WellFormed) : st'.WellFormed := by
  intro i
  rw [h.validHandles, h.kindAt]
  exact hw i

structure Opens (st st' : NetworkStack S) (handle : SocketHandle)
    (k : Smoltcp.SocketKind) : Prop where
  fresh : st.kindAt handle = none
  lowest : handle = st.sockets.lowestFree
  kindAt : ∀ h, st'.kindAt h = if h = handle then some k else st.kindAt h
  validHandles : st'.validHandles = insert handle st.validHandles
  localIpv4 : st'.localIpv4 = st.localIpv4
  localIpv6 : st'.localIpv6 = st.localIpv6

theorem addSocket_opens (st : NetworkStack S) (s : S.AnySocket) :
    Opens st (st.addSocket s).2 st.sockets.lowestFree (S.kind s) where
  fresh := by simp [NetworkStack.kindAt, Smoltcp.kindAt, Slots.get?_lowestFree]
  lowest := rfl
  kindAt := by
    intro h
    simp only [NetworkStack.kindAt, Smoltcp.kindAt, addSocket, Slots.get?_add]
    split_ifs <;> rfl
  validHandles := rfl
  localIpv4 := rfl
  localIpv6 := rfl

theorem Opens.keeps {k : Smoltcp.SocketKind} (h : Opens st st' handle k) (hk : Keeps st' st'') :
    Opens st st'' handle k where
  fresh := h.fresh
  lowest := h.lowest
  kindAt := fun i => (hk.kindAt i).trans (h.kindAt i)
  validHandles := hk.validHandles.trans h.validHandles
  localIpv4 := hk.localIpv4.trans h.localIpv4
  localIpv6 := hk.localIpv6.trans h.localIpv6

theorem Opens.wellFormed {k : Smoltcp.SocketKind} (h : Opens st st' handle k)
    (hw : st.WellFormed) : st'.WellFormed := by
  intro i
  rw [h.validHandles, h.kindAt, Finset.mem_insert]
  by_cases hi : i = handle
  · simp [hi]
  · simpa [hi] using hw i

theorem createTcpSocketWithBuffer_opens (st : NetworkStack S) (bufferSize : Nat) :
    Opens st (st.createTcpSocketWithBuffer bufferSize).2
      (st.createTcpSocketWithBuffer bufferSize).1 .tcp :=
  (addSocket_opens st (.tcp (S.newTcp bufferSize
    { nagleEnabled := false
      ackDelay := st.tunables.tcpAckDelay
      keepAlive := st.tunables.tcpKeepalive
      congestionControl := .cubic
      timeout := st.tunables.tcpTimeout }))).keeps ⟨fun _ => rfl, rfl, rfl, rfl⟩

theorem bindUdpSocket_opens (hS : S.KeepsSockets) {localAddr : IpAddress} {localPort : UInt16}
    (h : st.bindUdpSocket localAddr localPort = .ok (handle, st')) :
    Opens st st' handle (.udp (some ⟨localAddr, localPort⟩)) := by
  simp only [bindUdpSocket] at h
  split at h
  · cases h
  · next u hu =>
      cases h
      have := addSocket_opens st (.udp u)
      rwa [Smoltcp.kind, (hS.bind _ _ _ hu).1] at this

theorem createUdpSocketFor_opens (hS : S.KeepsSockets) {localPort : UInt16} {remote : IpAddress}
    (h : st.createUdpSocketFor localPort remote = .ok (handle, st')) :
    ∃ localAddr, st.localAddrForRemote remote = .ok localAddr ∧
      Opens st st' handle (.udp (some ⟨localAddr, localPort⟩)) := by
  simp only [createUdpSocketFor] at h
  split at h
  · cases h
  · next a ha => exact ⟨a, ha, bindUdpSocket_opens hS h⟩

theorem createUdpSocketDefault_opens (hS : S.KeepsSockets) {localPort : UInt16}
    (h : st.createUdpSocketDefault localPort = .ok (handle, st')) :
    ∃ localAddr, st.localAddrDefault = .ok localAddr ∧
      Opens st st' handle (.udp (some ⟨localAddr, localPort⟩)) := by
  simp only [createUdpSocketDefault] at h
  split at h
  · cases h
  · next a ha => exact ⟨a, ha, bindUdpSocket_opens hS h⟩

theorem localAddrForRemote_version {remote a : IpAddress}
    (h : st.localAddrForRemote remote = .ok a) : a.version = remote.version := by
  simp only [localAddrForRemote] at h
  split at h <;> split at h <;> cases h <;> rfl

structure Frees (st st' : NetworkStack S) (handle : SocketHandle) : Prop where
  kindAt : ∀ h, st'.kindAt h = if h = handle then none else st.kindAt h
  validHandles : st'.validHandles = st.validHandles.erase handle
  localIpv4 : st'.localIpv4 = st.localIpv4
  localIpv6 : st'.localIpv6 = st.localIpv6

theorem Frees.wellFormed (h : Frees st st' handle) (hw : st.WellFormed) : st'.WellFormed := by
  intro i
  rw [h.validHandles, h.kindAt, Finset.mem_erase]
  by_cases hi : i = handle
  · simp [hi]
  · simpa [hi] using hw i

theorem removeSocket_frees (hw : st.WellFormed) (h : st.removeSocket handle = .ok st') :
    Frees st st' handle := by
  simp only [removeSocket] at h
  split at h
  · split at h
    · cases h
      refine ⟨fun i => ?_, rfl, rfl, rfl⟩
      simp only [NetworkStack.kindAt, Smoltcp.kindAt, Slots.get?_remove]
      split_ifs <;> rfl
    · cases h
  · next hv =>
      cases h
      have hn : st.kindAt handle = none := by
        by_contra hne
        exact hv ((hw handle).mpr hne)
      refine ⟨fun i => ?_, (Finset.erase_eq_of_notMem hv).symm, rfl, rfl⟩
      split_ifs with hi
      · rw [hi, hn]
      · rfl

theorem hasTcp_iff (hw : st.WellFormed) :
    (∃ s, st.HasTcp handle s) ↔ st.kindAt handle = some .tcp := by
  constructor
  · rintro ⟨s, hs⟩
    exact hs.kindAt
  · intro hk
    have hv : handle ∈ st.validHandles := (hw handle).mpr (by rw [hk]; exact Option.some_ne_none _)
    simp only [NetworkStack.kindAt, Smoltcp.kindAt, Option.map_eq_some_iff] at hk
    obtain ⟨s, hs, hkind⟩ := hk
    cases s with
    | tcp t => exact ⟨t, hv, hs⟩
    | udp u => simp [Smoltcp.kind] at hkind

end NetworkStack

end Usque
