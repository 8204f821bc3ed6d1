import Usque.Lib.Ownership
import Usque.Stack.Kinds

namespace Usque

def StackCall.matched : StackCall → Bool
  | .udpSend _ bound remote => bound.map (fun e => e.addr.version) = some remote.version
  | _ => true

def StackCall.about (handle : SocketHandle) : StackCall → Bool
  | .createTcp h => h = handle
  | .tcpClose h => h = handle
  | .udpSend _ _ _ => false

def closedSinceCreation (handle : SocketHandle) : List StackCall → Bool
  | [] => false
  | .createTcp h :: calls => h ≠ handle && closedSinceCreation handle calls
  | .tcpClose h :: calls => h = handle || closedSinceCreation handle calls
  | .udpSend _ _ _ :: calls => closedSinceCreation handle calls

theorem closedSinceCreation_append {handle : SocketHandle} {new : List StackCall}
    (h : ∀ c ∈ new, c.about handle = false) (calls : List StackCall) :
    closedSinceCreation handle (new ++ calls) = closedSinceCreation handle calls := by
  induction new with
  | nil => rfl
  | cons c new ih =>
      have hc := h c (List.mem_cons_self ..)
      have ih := ih (fun d hd => h d (List.mem_cons_of_mem _ hd))
      cases c with
      | createTcp k =>
          have hk : k ≠ handle := by simpa [StackCall.about] using hc
          simpa [closedSinceCreation, hk] using ih
      | tcpClose k =>
          have hk : k ≠ handle := by simpa [StackCall.about] using hc
          simpa [closedSinceCreation, hk] using ih
      | udpSend _ _ _ => simpa [closedSinceCreation] using ih

-- Which stack calls a step may make, which slots it may give to a UDP socket, and whether it
-- may free any.
structure Policy where
  call : StackCall → Prop
  udp : SocketHandle → Prop
  free : Prop

namespace Policy

def any : Policy := ⟨fun _ => True, fun _ => True, True⟩

end Policy

open Ownership (Turns)

namespace NetworkStack

variable {S : Smoltcp} {P : Policy} {st st' st'' : NetworkStack S} {handle : SocketHandle}

-- Every datagram a UDP socket still holds was handed to it by a logged call.
def UdpLogged (st : NetworkStack S) : Prop :=
  ∀ h u, st.sockets.get? h = some (.udp u) → ∀ ep ∈ S.udpQueued u,
    StackCall.udpSend h (S.udpEndpoint u) ep.addr ∈ st.calls

theorem UdpLogged.drains (hl : st.UdpLogged) (hd : S.UdpDrains st.sockets st'.sockets)
    (hc : ∀ c ∈ st.calls, c ∈ st'.calls) : st'.UdpLogged := by
  intro h u' hu' ep hep
  obtain ⟨u, hu, he, hq⟩ := hd h u' hu'
  rw [he]
  exact hc _ (hl h u hu ep (hq ep hep))

theorem drains_of_get? {sockets sockets' : S.SocketSet}
    (h : ∀ i u, sockets'.get? i = some (.udp u) → sockets.get? i = some (.udp u)) :
    S.UdpDrains sockets sockets' :=
  fun i u hu => ⟨u, h i u hu, rfl, fun _ he => he⟩

structure TcpKept (P : Policy) (st st' : NetworkStack S) : Prop where
  tcp : ∀ h s, st'.HasTcp h s ↔ st.HasTcp h s
  udps : ∀ h, Turns (P.udp h) P.free (st.udpAt h) (st'.udpAt h)
  logged : st.UdpLogged → st'.UdpLogged
  rx : st'.device.rxQueue = st.device.rxQueue
  calls : ∃ new, st'.calls = new ++ st.calls ∧
    ∀ c ∈ new, P.call c ∧ ∀ h s, st.HasTcp h s → c.about h = false

namespace TcpKept

theorem refl (P : Policy) (st : NetworkStack S) : TcpKept P st st :=
  ⟨fun _ _ => Iff.rfl, fun _ => .refl _ _ _, id, rfl, [], rfl, by simp⟩

theorem trans (h : TcpKept P st st') (k : TcpKept P st' st'') : TcpKept P st st'' where
  tcp := fun i s => (k.tcp i s).trans (h.tcp i s)
  udps := fun i => (h.udps i).trans (k.udps i)
  logged := k.logged ∘ h.logged
  rx := k.rx.trans h.rx
  calls := by
    obtain ⟨new, hn, hp⟩ := h.calls
    obtain ⟨more, hm, hq⟩ := k.calls
    refine ⟨more ++ new, by rw [hm, hn, List.append_assoc], fun c hc => ?_⟩
    rcases List.mem_append.mp hc with hc | hc
    · exact ⟨(hq c hc).1, fun i s hs => (hq c hc).2 i s ((h.tcp i s).mpr hs)⟩
    · exact hp c hc

theorem closedSinceCreation (h : TcpKept P st st') {s : S.TcpSocket} (hs : st.HasTcp handle s) :
    Usque.closedSinceCreation handle st'.calls = Usque.closedSinceCreation handle st.calls := by
  obtain ⟨new, hn, hp⟩ := h.calls
  rw [hn, closedSinceCreation_append (fun c hc => (hp c hc).2 handle s hs)]

end TcpKept

theorem hasTcp_putUdp {u : S.UdpSocket} (h : st.HasUdp handle u) (u' : S.UdpSocket)
    (i : SocketHandle) (s : S.TcpSocket) : (st.putUdp handle u').HasTcp i s ↔ st.HasTcp i s := by
  simp only [HasTcp, putUdp, Slots.get?_put h.2]
  refine and_congr_right (fun _ => ?_)
  split_ifs with hi
  · subst hi
    simp [h.2]
  · rfl

theorem Keeps.udps (h : Keeps st st') (i : SocketHandle) :
    Turns (P.udp i) P.free (st.udpAt i) (st'.udpAt i) := by
  rw [udpAt, udpAt, h.kindAt]
  exact .refl _ _ _

theorem HasUdp.kept_put {u u' : S.UdpSocket} (h : st.HasUdp handle u)
    (he : S.udpEndpoint u' = S.udpEndpoint u)
    (hq : ∀ ep ∈ S.udpQueued u', ep ∈ S.udpQueued u ∨
      StackCall.udpSend handle (S.udpEndpoint u) ep.addr ∈ st.calls) :
    TcpKept P st (st.putUdp handle u') := by
  refine ⟨hasTcp_putUdp h u', (h.keeps_put he).udps, fun hl i w hw ep hep => ?_, rfl, [], rfl,
    by simp⟩
  simp only [putUdp, Slots.get?_put h.2] at hw
  split_ifs at hw with hi
  · cases hw
    rw [hi, he]
    exact (hq ep hep).elim (hl handle u h.2 ep) id
  · exact hl i w hw ep hep

theorem kept_logCall {c : StackCall} (hp : P.call c)
    (hc : ∀ h s, st.HasTcp h s → c.about h = false) : TcpKept P st (st.logCall c) := by
  refine ⟨fun _ _ => Iff.rfl, fun _ => .refl _ _ _,
    fun hl i u hu ep hep => List.mem_cons_of_mem _ (hl i u hu ep hep), rfl, [c], rfl,
    fun d hd => ?_⟩
  cases List.mem_singleton.mp hd
  exact ⟨hp, hc⟩

theorem HasUdp.udpSend {u : S.UdpSocket} (h : st.HasUdp handle u) (remoteIp : IpAddress)
    (remotePort : UInt16) (data : List UInt8) :
    ∃ r st', st.udpSend handle remoteIp remotePort data = .ok (r, st') := by
  simp [NetworkStack.udpSend, h.getUdpSocket]

theorem udpSend_kept (hS : S.KeepsSockets) {u : S.UdpSocket} (hu : st.HasUdp handle u)
    {remoteIp : IpAddress} {remotePort : UInt16} {data : List UInt8} {r : Except StackError Unit}
    (hp : P.call (.udpSend handle (S.udpEndpoint u) remoteIp))
    (h : st.udpSend handle remoteIp remotePort data = .ok (r, st')) : TcpKept P st st' := by
  rcases udpSend_ok h with ⟨_, _, rfl⟩ | ⟨u', hu', _, rfl⟩
  · exact .refl _ _
  · have he : u' = u := by simpa using hu'.2.symm.trans hu.2
    subst he
    refine (kept_logCall hp (fun _ _ _ => rfl)).trans
      ((hu'.logCall _).kept_put (hS.send _ _ _) (fun ep hep => ?_))
    rcases hS.sendQueued _ _ _ ep hep with hq | rfl
    · exact .inl hq
    · exact .inr (List.mem_cons_self ..)

theorem HasUdp.udpRecv {u : S.UdpSocket} (h : st.HasUdp handle u) (len : Nat) :
    ∃ r st', st.udpRecv handle len = .ok (r, st') := by
  simp [NetworkStack.udpRecv, h.getUdpSocket]

theorem HasUdp.udpCanRecv {u : S.UdpSocket} (h : st.HasUdp handle u) :
    st.udpCanRecv handle = .ok (S.udpCanRecv u) := by
  simp [NetworkStack.udpCanRecv, h.getUdpSocket]

theorem udpRecv_kept (hS : S.KeepsSockets) {len : Nat}
    {r : Except StackError (List UInt8 × IpEndpoint)} (h : st.udpRecv handle len = .ok (r, st')) :
    TcpKept P st st' := by
  rcases udpRecv_ok h with ⟨_, _, rfl⟩ | ⟨u, hu, _, rfl⟩
  · exact .refl _ _
  · exact hu.kept_put (hS.recv _ _) (fun ep hep => .inl (hS.recvQueued _ _ ep hep))

theorem addSocket_hasTcp (st : NetworkStack S) (u : S.UdpSocket) (i : SocketHandle)
    (s : S.TcpSocket) : (st.addSocket (.udp u)).2.HasTcp i s ↔ st.HasTcp i s := by
  simp only [HasTcp, addSocket, Finset.mem_insert, Slots.get?_add]
  split_ifs with hi
  · subst hi
    simp [Slots.get?_lowestFree]
  · simp [hi]

theorem Opens.udps {endpoint : Option IpEndpoint} (hp : P.udp handle)
    (h : Opens st st' handle (.udp endpoint)) (i : SocketHandle) :
    Turns (P.udp i) P.free (st.udpAt i) (st'.udpAt i) := by
  by_cases hi : i = handle
  · exact .filled (hi ▸ hp) (by rw [udpAt, hi, h.fresh]; rfl)
  · rw [udpAt, udpAt, h.kindAt, if_neg hi]
    exact .refl _ _ _

theorem Opens.udpAt_tcp (h : Opens st st' handle .tcp) (i : SocketHandle) :
    st'.udpAt i = st.udpAt i := by
  rw [udpAt, udpAt, h.kindAt]
  split_ifs with hi
  · rw [hi, h.fresh]
    rfl
  · rfl

theorem Frees.udps (hp : P.free) (h : Frees st st' handle) (i : SocketHandle) :
    Turns (P.udp i) P.free (st.udpAt i) (st'.udpAt i) := by
  by_cases hi : i = handle
  · exact .freed hp (by rw [udpAt, h.kindAt, if_pos hi]; rfl)
  · rw [udpAt, udpAt, h.kindAt, if_neg hi]
    exact .refl _ _ _

theorem bindUdpSocket_kept (hS : S.KeepsSockets) (hp : P.udp st.sockets.lowestFree)
    {localAddr : IpAddress} {localPort : UInt16}
    (h : st.bindUdpSocket localAddr localPort = .ok (handle, st')) : TcpKept P st st' := by
  simp only [bindUdpSocket] at h
  split at h
  · cases h
  · next u hu =>
      cases h
      refine ⟨addSocket_hasTcp st _, (addSocket_opens st (.udp u)).udps hp, fun hl i w hw ep hep => ?_,
        rfl, [], rfl, by simp⟩
      simp only [Slots.get?_add] at hw
      split_ifs at hw
      · cases hw
        rw [(hS.bind _ _ _ hu).2, hS.newUdp] at hep
        cases hep
      · exact hl i w hw ep hep

theorem createUdpSocketFor_kept (hS : S.KeepsSockets) (hp : P.udp st.sockets.lowestFree)
    {localPort : UInt16} {remote : IpAddress}
    (h : st.createUdpSocketFor localPort remote = .ok (handle, st')) : TcpKept P st st' := by
  simp only [createUdpSocketFor] at h
  split at h
  · cases h
  · exact bindUdpSocket_kept hS hp h

theorem createUdpSocketDefault_kept (hS : S.KeepsSockets) (hp : P.udp st.sockets.lowestFree)
    {localPort : UInt16}
    (h : st.createUdpSocketDefault localPort = .ok (handle, st')) : TcpKept P st st' := by
  simp only [createUdpSocketDefault] at h
  split at h
  · cases h
  · exact bindUdpSocket_kept hS hp h

theorem removeSocket_total (hw : st.WellFormed) (handle : SocketHandle) :
    ∃ st', st.removeSocket handle = .ok st' := by
  simp only [removeSocket]
  split
  · next hv =>
      have hk := (hw handle).mp hv
      split
      · exact ⟨_, rfl⟩
      · next hn => simp [NetworkStack.kindAt, Smoltcp.kindAt, hn] at hk
  · exact ⟨_, rfl⟩

theorem removeSocket_hasTcp (h : st.removeSocket handle = .ok st') (i : SocketHandle)
    (s : S.TcpSocket) : st'.HasTcp i s ↔ i ≠ handle ∧ st.HasTcp i s := by
  simp only [removeSocket] at h
  split at h
  · split at h
    · cases h
      simp only [HasTcp, Finset.mem_erase, Slots.get?_remove]
      split_ifs with hi <;> simp [hi]
    · cases h
  · next hv =>
      cases h
      constructor
      · intro hs
        exact ⟨fun hi => hv (hi ▸ hs.1), hs⟩
      · exact And.right

theorem removeSocket_logged (h : st.removeSocket handle = .ok st') (hl : st.UdpLogged) :
    st'.UdpLogged := by
  simp only [removeSocket] at h
  split at h
  · split at h <;> cases h
    refine hl.drains (drains_of_get? (fun i u hu => ?_)) (fun _ hc => hc)
    simp only [Slots.get?_remove] at hu
    split_ifs at hu
    exact hu
  · cases h
    exact hl

theorem removeSocket_kept (hp : P.free) (hw : st.WellFormed) (hn : ∀ s, ¬ st.HasTcp handle s)
    (h : st.removeSocket handle = .ok st') : TcpKept P st st' := by
  refine ⟨fun i s => ?_, (removeSocket_frees hw h).udps hp, removeSocket_logged h, ?_, [], ?_,
    by simp⟩
  · rw [removeSocket_hasTcp h]
    constructor
    · exact And.right
    · intro hs
      exact ⟨fun hi => hn s (hi ▸ hs), hs⟩
  · simp only [removeSocket] at h
    split at h
    · split at h <;> cases h
      rfl
    · cases h
      rfl
  · simp only [removeSocket] at h
    split at h
    · split at h <;> cases h
      rfl
    · cases h
      rfl

theorem hasUdp_of_kindAt (hw : st.WellFormed) {endpoint : Option IpEndpoint}
    (hk : st.kindAt handle = some (.udp endpoint)) :
    ∃ u, st.HasUdp handle u ∧ S.udpEndpoint u = endpoint := by
  have hv : handle ∈ st.validHandles := (hw handle).mpr (by rw [hk]; exact Option.some_ne_none _)
  simp only [NetworkStack.kindAt, Smoltcp.kindAt, Option.map_eq_some_iff] at hk
  obtain ⟨s, hs, hkind⟩ := hk
  cases s with
  | tcp t => simp [Smoltcp.kind] at hkind
  | udp u => exact ⟨u, ⟨hv, hs⟩, by simpa [Smoltcp.kind] using hkind⟩

theorem not_hasTcp_of_kindAt {k : Option Smoltcp.SocketKind} (hk : st.kindAt handle = k)
    (hne : k ≠ some .tcp) (s : S.TcpSocket) : ¬ st.HasTcp handle s :=
  fun hs => hne (hk ▸ hs.kindAt)

end NetworkStack

end Usque
