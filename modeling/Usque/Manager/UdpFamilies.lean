import Usque.Manager.Script

namespace Usque

namespace NetworkStack

variable {S : Smoltcp} {st st' : NetworkStack S}

theorem UdpLogged.matched (hl : st.UdpLogged) (hm : ∀ c ∈ st.calls, c.matched) {h : SocketHandle}
    {u : S.UdpSocket} (hu : st.sockets.get? h = some (.udp u)) {ep : IpEndpoint}
    (hep : ep ∈ S.udpQueued u) :
    (S.udpEndpoint u).map (fun e => e.addr.version) = some ep.addr.version :=
  of_decide_eq_true (hm _ (hl h u hu ep hep))

theorem pollEgress_calls {now : Time} {changed : Bool}
    (h : st.pollEgress now = .ok (changed, st')) : st'.calls = st.calls := by
  simp only [pollEgress] at h
  split at h <;> cases h
  rfl

theorem pollEgress_logged (hS : S.KeepsSockets) {now : Time} {changed : Bool}
    (h : st.pollEgress now = .ok (changed, st')) (hl : st.UdpLogged) : st'.UdpLogged := by
  simp only [pollEgress] at h
  split at h
  · cases h
  · next hr =>
      cases h
      exact hl.drains (hS.pollEgress _ _ _ _ _ hr).2 (fun _ hc => hc)

theorem pollIngressSingle_logged (hS : S.KeepsSockets) {now : Time}
    {r : PollIngressSingleResult} (h : st.pollIngressSingle now = .ok (r, st'))
    (hl : st.UdpLogged) : st'.UdpLogged ∧ st'.calls = st.calls := by
  simp only [pollIngressSingle] at h
  split at h
  · cases h
    exact ⟨hl, rfl⟩
  · split at h
    · cases h
    · next hr =>
        cases h
        exact ⟨hl.drains (hS.processPacket _ _ _ _ _ hr).2 (fun _ hc => hc), rfl⟩

theorem pollIngress_logged (hS : S.KeepsSockets) {now : Time} {budget : Nat}
    {outcome outcome' : StackPollOutcome}
    (h : pollIngress now budget st outcome = .ok (outcome', st')) (hl : st.UdpLogged) :
    st'.UdpLogged ∧ st'.calls = st.calls := by
  induction budget generalizing st outcome with
  | zero =>
      cases h
      exact ⟨hl, rfl⟩
  | succ budget ih =>
      simp only [pollIngress] at h
      split at h
      · cases h
      · next hi =>
          cases h
          exact pollIngressSingle_logged hS hi hl
      · next hi =>
          obtain ⟨hl', hc⟩ := pollIngressSingle_logged hS hi hl
          obtain ⟨hl'', hc'⟩ := ih h hl'
          exact ⟨hl'', hc'.trans hc⟩
      · next hi =>
          obtain ⟨hl', hc⟩ := pollIngressSingle_logged hS hi hl
          obtain ⟨hl'', hc'⟩ := ih h hl'
          exact ⟨hl'', hc'.trans hc⟩

theorem pollBounded_logged (hS : S.KeepsSockets) {now : Time} {budget : Nat}
    {outcome : StackPollOutcome} (h : st.pollBounded now budget = .ok (outcome, st'))
    (hl : st.UdpLogged) : st'.UdpLogged ∧ st'.calls = st.calls := by
  obtain ⟨ingress, mid, egress, hi, he, _⟩ := pollBounded_ok h
  have hl₀ : ({ st with iface := S.pollMaintenance now st.iface } : NetworkStack S).UdpLogged := hl
  obtain ⟨hmid, hc⟩ := pollIngress_logged hS hi hl₀
  exact ⟨pollEgress_logged hS he hmid, (pollEgress_calls he).trans hc⟩

section panics

variable (hS : S.KeepsSockets) (hD : S.PanicsOnMismatch)

include hD in
theorem pollEgress_total (hl : st.UdpLogged) (hm : ∀ c ∈ st.calls, c.matched) (now : Time) :
    ∃ r, st.pollEgress now = .ok r := by
  simp only [pollEgress]
  split
  · next hn =>
      obtain ⟨h, u, ep, hu, hep, hne⟩ := hD.pollEgress _ _ _ _ hn
      exact absurd (hl.matched hm hu hep) hne
  · exact ⟨_, rfl⟩

include hD in
theorem pollIngress_total (now : Time) (budget : Nat) (st : NetworkStack S)
    (outcome : StackPollOutcome) : ∃ r, pollIngress now budget st outcome = .ok r := by
  induction budget generalizing st outcome with
  | zero => exact ⟨_, rfl⟩
  | succ budget ih =>
      have hsingle : ∃ r, st.pollIngressSingle now = .ok r := by
        simp only [pollIngressSingle]
        split
        · exact ⟨_, rfl⟩
        · split
          · next hn => exact absurd hn (hD.processPacket _ _ _ _)
          · exact ⟨_, rfl⟩
      obtain ⟨⟨r, st₁⟩, hr⟩ := hsingle
      simp only [pollIngress, hr]
      cases r with
      | none => exact ⟨_, rfl⟩
      | packetProcessed => exact ih st₁ _
      | socketStateChanged => exact ih st₁ _

include hS hD in
theorem pollBounded_total (hl : st.UdpLogged) (hm : ∀ c ∈ st.calls, c.matched) (now : Time)
    (budget : Nat) : ∃ r, st.pollBounded now budget = .ok r := by
  obtain ⟨⟨ingress, mid⟩, hi⟩ := pollIngress_total hD now (max budget 1)
    { st with iface := S.pollMaintenance now st.iface } ⟨0, false, false⟩
  have hl₀ : ({ st with iface := S.pollMaintenance now st.iface } : NetworkStack S).UdpLogged := hl
  obtain ⟨hmid, hc⟩ := pollIngress_logged hS hi hl₀
  obtain ⟨⟨egress, st'⟩, he⟩ := pollEgress_total hD hmid (by rw [hc]; exact hm) now
  simp only [pollBounded, hi, he]
  exact ⟨_, rfl⟩

end panics

end NetworkStack

-- The log of the second state is the first's, or a fresh one, with only permitted calls on top.
def CallsFrom {S : Smoltcp} (R : Rules S) (rt rt' : RuntimeState S) : Prop :=
  ∃ new base, rt'.stack.calls = new ++ base ∧ (base = rt.stack.calls ∨ base = []) ∧
    ∀ c ∈ new, R.call c

namespace CallsFrom

variable {S : Smoltcp} {R : Rules S} {rt rt' rt'' : RuntimeState S}

theorem same (h : rt'.stack.calls = rt.stack.calls) : CallsFrom R rt rt' :=
  ⟨[], rt.stack.calls, h, .inl rfl, fun _ hc => by cases hc⟩

theorem one {c : StackCall} (hc : R.call c) (h : rt'.stack.calls = c :: rt.stack.calls) :
    CallsFrom R rt rt' := by
  refine ⟨[c], rt.stack.calls, h, .inl rfl, fun d hd => ?_⟩
  rw [List.mem_singleton.mp hd]
  exact hc

theorem trans (h : CallsFrom R rt rt') (k : CallsFrom R rt' rt'') : CallsFrom R rt rt'' := by
  obtain ⟨new, base, hn, hb, hp⟩ := h
  obtain ⟨more, base', hm, hb', hq⟩ := k
  rcases hb' with rfl | rfl
  · refine ⟨more ++ new, base, by rw [hm, hn, List.append_assoc], hb, fun c hc => ?_⟩
    exact (List.mem_append.mp hc).elim (hq c) (hp c)
  · exact ⟨more, [], hm, .inr rfl, hq⟩

theorem added (h : CallsFrom R rt rt') {new : List StackCall}
    (hn : rt'.stack.calls = new ++ rt.stack.calls) : ∀ c ∈ new, R.call c := by
  obtain ⟨new', base, he, rfl | rfl, hp⟩ := h
  · rw [List.append_cancel_right (hn.symm.trans he)]
    exact hp
  · rw [List.append_nil] at he
    exact fun c hc => hp c (by rw [← he, hn]; exact List.mem_append_left _ hc)

theorem all (h : CallsFrom R rt rt') (ha : ∀ c ∈ rt.stack.calls, R.call c) :
    ∀ c ∈ rt'.stack.calls, R.call c := by
  obtain ⟨new, base, he, hb, hp⟩ := h
  intro c hc
  rw [he] at hc
  rcases List.mem_append.mp hc with hc | hc
  · exact hp c hc
  · rcases hb with rfl | rfl
    · exact ha c hc
    · cases hc

end CallsFrom

section effects

variable {S : Smoltcp} {R : Rules S} {rt rt' : RuntimeState S}

open RuntimeState

theorem open?_stack {remoteIp : IpAddress} {remotePort localPort : UInt16} {tcpBufferSize : Nat}
    {stack : NetworkStack S} {r : Except StackError Unit}
    (h : rt.open? remoteIp remotePort localPort tcpBufferSize = .ok (r, stack)) :
    stack.calls = .createTcp rt.stack.sockets.lowestFree :: rt.stack.calls ∧
      S.UdpDrains rt.stack.sockets stack.sockets := by
  have hcreated : S.UdpDrains rt.stack.sockets
      (rt.stack.createTcpSocketWithBuffer tcpBufferSize).2.sockets :=
    NetworkStack.drains_of_get? (fun i u hu => by
      simp only [NetworkStack.createTcpSocketWithBuffer, NetworkStack.addSocket,
        Slots.get?_add] at hu
      split_ifs at hu
      · cases hu
      · exact hu)
  rcases NetworkStack.connectTcp_ok h with ⟨_, _, rfl⟩ | ⟨s, hs, ⟨_, _, rfl⟩ | ⟨_, s', _, _, rfl⟩⟩
  · exact ⟨rfl, hcreated⟩
  · exact ⟨rfl, hcreated⟩
  · refine ⟨rfl, fun i u hu => ?_⟩
    obtain ⟨w, hw, he, hq⟩ := hs.put_drains s' i u hu
    obtain ⟨x, hx, he', hq'⟩ := hcreated i w hw
    exact ⟨x, hx, he.trans he', fun ep hep => hq' ep (hq ep hep)⟩

theorem finishReserved_stack (rt : RuntimeState S) (reservedSlot : Bool) :
    (rt.finishReserved reservedSlot).stack = rt.stack := by
  simp only [finishReserved]
  split <;> rfl

theorem handleSocketEvent_stack (rt : RuntimeState S) (e : SocketEvent) :
    (rt.handleSocketEvent e).stack = rt.stack := by
  cases hl : rt.sockets.lookup e.handle with
  | none =>
      rw [handleSocketEvent_none _ hl]
      simp only [enqueueReadyTcpHandle]
      split <;> rfl
  | some st =>
      rw [handleSocketEvent_some _ hl]
      simp only [enqueueReadyTcpHandle]
      split <;> rfl

theorem noteIncomingTcpHandle_stack (rt : RuntimeState S) (packet : Packet) :
    (rt.noteIncomingTcpHandle packet).stack = rt.stack := by
  simp only [noteIncomingTcpHandle]
  split
  · rfl
  · simp only [markReadyTcpHandle, enqueueReadyTcpHandle]
    split <;> rfl

theorem putStream_stack (rt : RuntimeState S) (x : StreamId) (n : SocketStreamHandle.Notified) :
    (rt.putStream x n).stack = rt.stack := by
  rw [putStream_eq]
  rfl

theorem closeConnection_stack {handle : SocketHandle} {st : SocketState}
    (hl : rt.sockets.lookup handle = some st) (h : rt.closeConnection handle = .ok rt') :
    rt'.stack = rt.stack := by
  obtain ⟨replies, he⟩ := closeConnection_eq hl
  rw [he] at h
  cases h
  exact putStream_stack _ _ _

theorem retire_stack {handle : SocketHandle} (h : rt.retire handle = .ok rt') :
    rt.stack.removeSocket handle = .ok rt'.stack := by
  obtain ⟨rt₁, h₁, h⟩ := Outcome.bind_eq_ok.mp h
  cases h
  obtain ⟨stack, hr, h₁⟩ := Outcome.bind_eq_ok.mp h₁
  cases h₁
  have hs : (rt.releaseSocket handle).stack = rt.stack := by
    cases hl : rt.sockets.lookup handle with
    | none => simp only [releaseSocket, hl]
    | some st =>
        obtain ⟨replies, he⟩ := releaseSocket_some hl
        rw [he]
        rfl
  rwa [hs] at hr

theorem removeSocket_calls {st st' : NetworkStack S} {handle : SocketHandle}
    (h : st.removeSocket handle = .ok st') : st'.calls = st.calls := by
  simp only [NetworkStack.removeSocket] at h
  split at h
  · split at h <;> cases h
    rfl
  · cases h
    rfl

theorem injectIncoming_stack {packet : Packet} (h : rt.injectIncoming packet = .ok rt') :
    rt'.stack.calls = rt.stack.calls ∧ rt'.stack.sockets = rt.stack.sockets := by
  obtain ⟨stack, hi, h⟩ := Outcome.bind_eq_ok.mp h
  cases h
  obtain ⟨device, _, hi⟩ := Outcome.bind_eq_ok.mp hi
  cases hi
  rw [noteIncomingTcpHandle_stack]
  exact ⟨rfl, rfl⟩

variable (hS : S.KeepsSockets)

include hS in
theorem Effect.logged (h : Effect R rt rt') (hl : rt.stack.UdpLogged) : rt'.stack.UdpLogged := by
  cases h with
  | aside h => exact h.aside.stack.logged hl
  | @openTcp _ _ _ _ stack reservedSlot _ _ h =>
      obtain ⟨hc, hd⟩ := open?_stack h
      have hsub : ∀ c ∈ rt.stack.calls, c ∈ stack.calls := by
        rw [hc]
        exact fun c hm => .tail _ hm
      rw [insertConnection_eq, finishReserved_stack]
      exact hl.drains hd hsub
  | requestClose hl' h => rwa [closeConnection_stack hl' h]
  | waiters _ _ => exact hl
  | event h => rwa [handleSocketEvent_stack]
  | incoming h =>
      obtain ⟨hc, hs⟩ := injectIncoming_stack h
      exact hl.drains (by rw [hs]; exact NetworkStack.drains_of_get? (fun _ _ hu => hu))
        (fun c hm => by rwa [hc])
  | poll _ h => exact (NetworkStack.pollBounded_logged hS h hl).1
  | egress h => exact NetworkStack.pollEgress_logged hS h hl
  | select _ fullSweep => cases fullSweep <;> exact hl
  | service _ fullSweep hl' h =>
      obtain ⟨v, hv, rfl⟩ := serviceSocket_ok h
      exact (Service.run_frame hv).touches.logged hl
  | release _ _ _ h => exact NetworkStack.removeSocket_logged (retire_stack h) hl
  | client hx _ h => rwa [putStream_stack]
  | reset _ params mtu session shared hs hx hn => exact fun _ _ h => by cases h

variable (hP : ∀ c : StackCall, c.matched → R.call c)

include hS hP in
theorem Effect.callsFrom (h : Effect R rt rt') (hl : rt.stack.UdpLogged) : CallsFrom R rt rt' := by
  cases h with
  | aside h =>
      obtain ⟨new, hn, hp⟩ := h.aside.stack.calls
      exact ⟨new, rt.stack.calls, hn, .inl rfl, fun c hc => (hp c hc).1⟩
  | openTcp reservedSlot _ _ h =>
      refine .one (hP (.createTcp rt.stack.sockets.lowestFree) rfl) ?_
      rw [insertConnection_eq, finishReserved_stack]
      exact (open?_stack h).1
  | requestClose hl' h => exact .same (by rw [closeConnection_stack hl' h])
  | waiters _ _ => exact .same rfl
  | event h => exact .same (by rw [handleSocketEvent_stack])
  | incoming h => exact .same (injectIncoming_stack h).1
  | poll _ h => exact .same (NetworkStack.pollBounded_logged hS h hl).2
  | egress h => exact .same (NetworkStack.pollEgress_calls h)
  | select _ fullSweep => cases fullSweep <;> exact .same rfl
  | service _ fullSweep hl' h =>
      obtain ⟨v, hv, rfl⟩ := serviceSocket_ok h
      rcases Service.run_calls hv with hc | hc
      · exact .same hc
      · exact .one (hP _ rfl) hc
  | release _ _ _ h => exact .same (removeSocket_calls (retire_stack h))
  | client hx _ h => exact .same (by rw [putStream_stack])
  | reset _ params mtu session shared hs hx hn =>
      exact ⟨[], [], rfl, .inr rfl, fun _ hc => by cases hc⟩

include hS hP in
theorem Effects.callsFrom (h : Effects R rt rt') (hc : Consistent rt) (hl : rt.stack.UdpLogged) :
    CallsFrom R rt rt' :=
  (h.invariant (I := fun b => b.stack.UdpLogged ∧ CallsFrom R rt b) hS
    (fun _ _ _ hi he => ⟨he.logged hS hi.1, hi.2.trans (he.callsFrom hS hP hi.1)⟩) hc
    ⟨hl, .same rfl⟩).2.2

end effects

namespace System

variable {S : Smoltcp} {H : Hickory} {s t : System S} {l : Label} {params : ConnectionParams}

def matchedRules (S : Smoltcp) : Rules S :=
  { Rules.any S with call := fun c => c.matched }

theorem permits_matched (h : s.sendsMatched l) : Permits (matchedRules S) s l where
  call := fun _ hc => hc
  send := fun cmd hcmd se a hse ha =>
    decide_eq_true (congrArg some (h cmd hcmd se a hse ha))
  tcp := fun _ _ => trivial
  udp := fun _ _ => trivial
  connect := fun _ _ _ _ => trivial
  free := fun _ => trivial
  sweep := fun _ => trivial
  poll := fun _ => trivial
  client := fun _ _ _ _ => trivial
  wait := fun _ _ _ _ _ _ => trivial

theorem Reachable.logged (hS : S.KeepsSockets) (h : Reachable H params s) :
    s.rt.stack.UdpLogged :=
  h.invariant hS (fun _ _ h => by cases h) (fun _ _ _ hi he => he.logged hS hi)

theorem step_udp_calls (hs : Sound s) {cmd : UdpSend} (hcmd : s.udpRx.head? = some cmd)
    {se : UdpSessionState} {a : IpAddress} (hse : s.rt.udpSessions.lookup cmd.localPort = some se)
    (ha : s.rt.stack.localAddrDefault = .ok a) (h : step H s (.manager .udp) = some t) :
    t.rt.stack.calls =
      .udpSend se.handle (some ⟨a, cmd.localPort⟩) cmd.remoteIp :: s.rt.stack.calls := by
  obtain ⟨u, b, hu, hep, hb⟩ := RuntimeState.hasUdp_session hs.consistent.slotted hse
  rw [ha] at hb
  cases hb
  obtain ⟨r, stack, hsend⟩ := hu.udpSend cmd.remoteIp cmd.remotePort cmd.data
  obtain ⟨pc, cmd', udpRx, hcons, rfl⟩ := step_udp h
  rw [hcons] at hcmd
  cases hcmd
  rcases NetworkStack.udpSend_ok hsend with ⟨hv, _, _⟩ | ⟨u', hu', _, rfl⟩
  · exact absurd hu.1 hv
  · have he : u' = u := by simpa using hu'.2.symm.trans hu.2
    subst he
    simp only [RuntimeState.handleUdpSend, RuntimeState.sendUdpData, hse, hsend,
      Outcome.ok_bind, andThen, hep]
    rfl

theorem new_udpSends_matched_iff (hS : S.KeepsSockets) (hr : Reachable H params s)
    (h : step H s l = some t) :
    (∀ new, t.rt.stack.calls = new ++ s.rt.stack.calls → ∀ c ∈ new, c.matched) ↔
      s.sendsMatched l := by
  have hs := hr.sound hS
  constructor
  · intro hnew cmd hcmd se a hse ha
    have hl : l = .manager .udp := by
      cases l with
      | manager choice => cases choice <;> first | rfl | cases hcmd
      | _ => cases hcmd
    subst hl
    have hc := hnew _ (step_udp_calls hs hcmd hse ha h) _ (List.mem_singleton.mpr rfl)
    exact Option.some.inj (of_decide_eq_true hc)
  · intro hm new hn
    have heff := step_effects hS hs (permits_matched hm) h
    exact (heff.callsFrom hS (fun _ hc => hc) hs.consistent (hr.logged hS)).added hn

theorem guarded_calls_matched (hS : S.KeepsSockets)
    (h : Run.Reaches (step H) sendsMatched (init S params) s) :
    Reachable H params s ∧ ∀ c ∈ s.rt.stack.calls, c.matched := by
  refine ⟨h.any, ?_⟩
  refine (Run.Reaches.invariant (I := fun s => (Sound s ∧ s.rt.stack.UdpLogged) ∧
    ∀ c ∈ s.rt.stack.calls, (matchedRules S).call c) (fun s l t ⟨⟨hs, hl⟩, ha⟩ hg ht => ?_) h
    ⟨⟨init_sound params, fun _ _ h => by cases h⟩, fun _ h => by cases h⟩).2
  have heff := step_effects hS hs (permits_matched hg) ht
  have hlog := (heff.invariant (I := fun rt => rt.stack.UdpLogged) hS
    (fun _ _ _ hi he => he.logged hS hi) hs.consistent hl).2
  exact ⟨⟨step_sound hS hs ht, hlog⟩,
    (heff.callsFrom hS (fun _ hc => hc) hs.consistent hl).all ha⟩

theorem udp_families (hS : S.KeepsSockets) (hD : S.PanicsOnMismatch) :
    (∀ (s t : System S) l, Reachable H params s → step H s l = some t →
      ((∀ new, t.rt.stack.calls = new ++ s.rt.stack.calls → ∀ c ∈ new, c.matched) ↔
        s.sendsMatched l)) ∧
    ∀ s : System S, Run.Reaches (step H) sendsMatched (init S params) s →
      (∀ c ∈ s.rt.stack.calls, c.matched) ∧
      (∀ now budget, ∃ r, s.rt.stack.pollBounded now budget = .ok r) ∧
      ∀ now, ∃ r, s.rt.stack.pollEgress now = .ok r := by
  refine ⟨fun s t l hr h => new_udpSends_matched_iff hS hr h, fun s h => ?_⟩
  obtain ⟨hr, hm⟩ := guarded_calls_matched hS h
  have hl := hr.logged hS
  exact ⟨hm, fun now budget => NetworkStack.pollBounded_total hS hD hl hm now budget,
    fun now => NetworkStack.pollEgress_total hD hl hm now⟩

instance (rt : RuntimeState S) (cmd : UdpSend) : Decidable (rt.sendMatched cmd) :=
  match hl : rt.udpSessions.lookup cmd.localPort, ha : rt.stack.localAddrDefault with
  | some se, .ok a =>
      decidable_of_iff (a.version = cmd.remoteIp.version)
        ⟨fun h _ b _ hb => by rw [ha] at hb; cases hb; exact h, fun h => h se a hl ha⟩
  | none, _ => .isTrue (fun _ _ h => by rw [hl] at h; cases h)
  | _, .error _ => .isTrue (fun _ _ _ h => by rw [ha] at h; cases h)

instance (s : System S) (l : Label) : Decidable (s.sendsMatched l) :=
  match h : s.sent l with
  | none => .isTrue (fun _ hc => by rw [h] at hc; cases hc)
  | some cmd =>
      decidable_of_iff (s.rt.sendMatched cmd)
        ⟨fun hm _ hc => by rw [h] at hc; cases hc; exact hm, fun hm => hm cmd h⟩

-- A session is registered on the IPv4 address and a datagram is sent through it.
def datagram (remote : IpAddress) : List Label :=
  Script.establish ++ Script.handle (.udpRegister 6000 0) ++ [Script.refresh] ++
    [.udpSend ⟨remote, 53, 6000, [1]⟩, .manager (.checkAlive true), .manager .udp]

theorem udp_families_ipv6_remote :
    ∃ s : Script.Reached, Reachable Script.hickory Script.params s ∧
      (∃ c ∈ s.rt.stack.calls, c.matched = false) ∧
      s.rt.stack.pollBounded s.rt.shared.now s.rt.tunables.stackIngressBudget =
        .error .pollPanic := by
  have h : (Script.run (datagram (.ipv6 1))).any (fun s =>
      (∃ c ∈ s.rt.stack.calls, c.matched = false) ∧
      Result.error? (s.rt.stack.pollBounded s.rt.shared.now s.rt.tunables.stackIngressBudget) =
        some .pollPanic) = true := by decide +kernel
  obtain ⟨s, hs, hp⟩ := Script.exists_reachable h
  obtain ⟨hc, hpoll⟩ := of_decide_eq_true hp
  exact ⟨s, hs, hc, Result.error?_eq_some.mp hpoll⟩

theorem udp_families_ipv4_remote :
    ∃ s : Script.Reached, .udpSend 0 (some ⟨.ipv4 0x0a000002#32, 6000⟩) (.ipv4 Script.remote) ∈
        s.rt.stack.calls ∧
      (∀ now budget, ∃ r, s.rt.stack.pollBounded now budget = .ok r) := by
  have hg : Run.Guarded (step Script.hickory) sendsMatched
      (init Reference.smoltcp Script.params) (datagram (.ipv4 Script.remote)) := by
    decide +kernel
  have h : (Script.run (datagram (.ipv4 Script.remote))).any (fun s =>
      .udpSend 0 (some ⟨.ipv4 0x0a000002#32, 6000⟩) (.ipv4 Script.remote) ∈
        s.rt.stack.calls) = true := by decide +kernel
  obtain ⟨s, hs, hp⟩ := Script.exists_guarded hg h
  have hall := (udp_families Reference.keepsSockets Reference.panicsOnMismatch).2 s hs
  exact ⟨s, of_decide_eq_true hp, hall.2.1⟩

end System

end Usque
