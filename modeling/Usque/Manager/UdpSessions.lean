import Usque.Manager.Script
import Usque.Manager.UdpTableSteps

namespace Usque

variable {S : Smoltcp} {rt rt' : RuntimeState S}

namespace RuntimeState

structure SessionsKept (rt : RuntimeState S) : Prop where
  nodup : rt.udpPorts.Nodup
  keys : ∀ port, port ∈ rt.udpPorts ↔ rt.udpSessions.lookup port ≠ none
  live : ∀ port se, rt.udpSessions.lookup port = some se →
    se.handle ∈ rt.stack.validHandles ∧ ∃ e, rt.stack.kindAt se.handle = some (.udp e)
  owned : ∀ h e, rt.stack.kindAt h = some (.udp e) →
    (∀ version, rt.dnsSockets.slot version ≠ some h) →
    ∃! port, ∃ se, rt.udpSessions.lookup port = some se ∧ se.handle = h

inductive SessionOp where
  | register (localPort : UInt16) (response : OneshotId)
  | unregister (localPort : UInt16)
  | expire
  | tick (d : Time)

def sessionStep (rt : RuntimeState S) : SessionOp → Option (RuntimeState S)
  | .register localPort response => some (rt.registerUdpSession localPort response)
  | .unregister localPort => (rt.unregisterUdpSession localPort).toOption
  | .expire => rt.expireUdpSessions.toOption
  | .tick d => some { rt with shared := { rt.shared with now := rt.shared.now + d } }

-- A registration that gets its socket names a port that has no session.
def registersFree (rt : RuntimeState S) (localPort : UInt16) : Prop :=
  rt.opensSession localPort → rt.udpSessions.lookup localPort = none

instance (rt : RuntimeState S) (localPort : UInt16) : Decidable (rt.registersFree localPort) :=
  inferInstanceAs (Decidable (_ → _))

def sessionFree (rt : RuntimeState S) (op : SessionOp) : Prop :=
  ∀ localPort response, op = .register localPort response → rt.registersFree localPort

theorem holds_iff {port : UInt16} {h : SocketHandle} :
    rt.udpTable.holds port h ↔ ∃ se, rt.udpSessions.lookup port = some se ∧ se.handle = h := by
  simp only [UdpTable.holds, udpTable, Option.map_map, Option.map_eq_some_iff]
  rfl

theorem udpAt_some {h : SocketHandle} {e : Option IpEndpoint} :
    rt.stack.udpAt h = some e ↔ rt.stack.kindAt h = some (.udp e) := by
  simp only [NetworkStack.udpAt]
  cases rt.stack.kindAt h with
  | none => simp
  | some k => cases k <;> simp

theorem sessionsKept_of_exact (hs : Slotted rt) (h : rt.udpTable.Exact) : SessionsKept rt where
  nodup := h.nodup
  keys := fun port => (h.keys port).trans (by simp [udpTable])
  live := fun port se hse => by
    obtain ⟨a, _, hk⟩ := hs.session port se hse
    exact ⟨(hs.wellFormed se.handle).mpr (by simp [hk]), _, hk⟩
  owned := fun i e hk hd => by
    have hb : rt.udpTable.bound i = some e := udpAt_some.mpr hk
    rcases h.owned i (by simp [hb]) with ⟨v, hv⟩ | ⟨port, hp⟩
    · exact absurd hv (hd v)
    · exact ⟨port, holds_iff.mp hp, fun q hq => h.unique (holds_iff.mpr hq) hp⟩

theorem exact_of_sessionsKept (hs : Slotted rt) (h : SessionsKept rt) : rt.udpTable.Exact where
  nodup := h.nodup
  keys := fun port => (h.keys port).trans (by simp [udpTable])
  live := fun port i hp => by
    obtain ⟨se, hse, rfl⟩ := holds_iff.mp hp
    obtain ⟨a, _, hk⟩ := hs.session port se hse
    exact ⟨a, udpAt_some.mpr hk⟩
  dnsLive := fun v i hv => by
    obtain ⟨a, port, _, hk⟩ := hs.dns v i hv
    have hb : rt.udpTable.bound i = some (some ⟨a, port⟩) := udpAt_some.mpr hk
    simp [hb]
  apart := fun port i v hp => by
    obtain ⟨se, hse, rfl⟩ := holds_iff.mp hp
    exact hs.apart port se v hse
  owned := fun i hb => by
    by_cases hd : ∃ v, rt.dnsSockets.slot v = some i
    · exact .inl hd
    · obtain ⟨e, he⟩ := Option.ne_none_iff_exists'.mp hb
      obtain ⟨port, hp, _⟩ := h.owned i e (udpAt_some.mp he) (fun v hv => hd ⟨v, hv⟩)
      exact .inr ⟨port, holds_iff.mpr hp⟩

theorem registerTwice_not_kept {t : UdpTable} {handle : SocketHandle} {e : IpEndpoint}
    (ht : t.Exact) (hu : t.sessions e.port ≠ none) : ¬ (t.apply (.register handle e)).Exact := by
  intro h
  have hn : (t.ports ++ [e.port]).Nodup := h.nodup
  have hm := (ht.keys e.port).mpr hu
  exact (List.nodup_append.mp hn).2.2 _ hm _ (List.mem_singleton.mpr rfl) rfl

theorem sessions_none {port : UInt16} :
    rt.udpTable.sessions port = none ↔ rt.udpSessions.lookup port = none := by
  simp [udpTable]

theorem register_exact_iff (hS : S.KeepsSockets) (ht : rt.udpTable.Exact) (localPort : UInt16)
    (response : OneshotId) :
    (rt.registerUdpSession localPort response).udpTable.Exact ↔ rt.registersFree localPort := by
  rcases registerUdpSession_udpTable hS rt localPort response with
    ⟨⟨e, he, _⟩, hsame⟩ | ⟨handle, a, stack, hc, ha, hf, htable⟩
  · rw [hsame]
    refine iff_of_true ht (fun ho => ?_)
    obtain ⟨handle, stack, hc⟩ := opensSession_iff.mp ho
    rw [he] at hc
    cases hc
  · rw [htable]
    constructor
    · intro h _
      by_contra hl
      exact registerTwice_not_kept ht (fun hn => hl (sessions_none.mp hn)) h
    · intro h
      exact ht.register hf (sessions_none.mpr (h (opensSession_iff.mpr ⟨_, _, hc⟩)))

theorem sessionStep_slotted (hS : S.KeepsSockets) (hs : Slotted rt) {op : SessionOp}
    (h : rt.sessionStep op = some rt') : Slotted rt' := by
  cases op with
  | register localPort response =>
      cases h
      exact (registerUdpSession_settled (P := .any) hS hs localPort response
        (fun _ => trivial)).slotted
  | unregister localPort =>
      exact ((unregisterUdpSession_settles (P := .any) trivial hs localPort).settled
        (Outcome.toOption_eq_some.mp h)).slotted
  | expire =>
      exact ((expireUdpSessions_settles (P := .any) trivial hs).settled
        (Outcome.toOption_eq_some.mp h)).slotted
  | tick d =>
      cases h
      have hsettled : Settled .any rt { rt with
          shared := { rt.shared with now := rt.shared.now + d } } :=
        setShared_settled hs rfl rfl
      exact hsettled.slotted

theorem sessionStep_exact_iff (hS : S.KeepsSockets) (hs : Slotted rt) (ht : rt.udpTable.Exact)
    {op : SessionOp} (h : rt.sessionStep op = some rt') :
    rt'.udpTable.Exact ↔ rt.sessionFree op := by
  cases op with
  | register localPort response =>
      cases h
      rw [register_exact_iff hS ht]
      constructor
      · intro hf p r he
        cases he
        exact hf
      · exact fun hf => hf localPort response rfl
  | unregister localPort =>
      rw [unregisterUdpSession_udpTable hs (Outcome.toOption_eq_some.mp h)]
      exact iff_of_true (ht.close _) nofun
  | expire =>
      obtain ⟨ports, he⟩ := expireUdpSessions_udpTable hs (Outcome.toOption_eq_some.mp h)
      rw [he]
      exact iff_of_true (ht.close _) nofun
  | tick d =>
      cases h
      exact iff_of_true ht nofun

theorem sessionStep_kept_iff (hS : S.KeepsSockets) (hs : Slotted rt) (hk : SessionsKept rt)
    {op : SessionOp} (h : rt.sessionStep op = some rt') :
    SessionsKept rt' ↔ rt.sessionFree op := by
  have hs' := sessionStep_slotted hS hs h
  rw [← sessionStep_exact_iff hS hs (exact_of_sessionsKept hs hk) h]
  exact ⟨exact_of_sessionsKept hs', sessionsKept_of_exact hs'⟩

theorem sessionRun_kept (hS : S.KeepsSockets)
    (h : Run.Reaches sessionStep sessionFree rt rt') (hs : Slotted rt) (hk : SessionsKept rt) :
    Slotted rt' ∧ SessionsKept rt' := by
  refine Run.Reaches.invariant (I := fun rt => Slotted rt ∧ SessionsKept rt)
    (fun rt op rt' ⟨hs, hk⟩ hf hstep => ?_) h ⟨hs, hk⟩
  exact ⟨sessionStep_slotted hS hs hstep, (sessionStep_kept_iff hS hs hk hstep).mpr hf⟩

theorem freshRuntime_kept (params : ConnectionParams) (mtu session : Nat) (shared : Shared) :
    SessionsKept (System.freshRuntime S params mtu session shared) where
  nodup := List.nodup_nil
  keys := fun port => by simp [System.freshRuntime, RuntimeState.new]
  live := fun port se hse => by cases hse
  owned := fun h e hk => by cases hk

end RuntimeState

namespace System

variable {H : Hickory} {s t : System S} {l : Label} {params : ConnectionParams}

def registersFree (s : System S) (l : Label) : Prop :=
  ∀ port response, s.handled l = some (.udpRegister port response) → s.rt.registersFree port

instance (s : System S) (l : Label) : Decidable (s.registersFree l) :=
  match h : s.handled l with
  | some (.udpRegister port response) =>
      decidable_of_iff (s.rt.registersFree port)
        ⟨fun hf p r he => by rw [h] at he; cases he; exact hf, fun hf => hf port response h⟩
  | none | some (.connect ..) | some (.close ..) | some (.dnsResolve ..) | some (.dnsResolveAll ..)
  | some (.udpUnregister _) | some (.getSocketState ..) | some (.waitSocketReady ..) =>
      .isTrue (fun _ _ he => by rw [h] at he; cases he)

theorem handled_register_rt {port : UInt16} {response : OneshotId} (h : step H s l = some t)
    (hh : s.handled l = some (.udpRegister port response)) :
    t.rt = s.rt.registerUdpSession port response := by
  cases l with
  | manager choice =>
      cases choice with
      | command draw =>
          obtain ⟨pc, cmd, cmdRx, hcmd, rfl⟩ := step_command h
          simp only [handled, hcmd, List.head?_cons, Option.some.injEq] at hh
          subst hh
          rfl
      | _ => cases hh
  | _ => cases hh

theorem step_exact_iff (hS : S.KeepsSockets) (hs : Sound s) (ht : s.rt.udpTable.Exact)
    (h : step H s l = some t) : t.rt.udpTable.Exact ↔ s.registersFree l := by
  obtain ⟨op, hop⟩ := step_udpStep hS hs h
  by_cases hr : ∃ port response, s.handled l = some (.udpRegister port response)
  · obtain ⟨port, response, hh⟩ := hr
    rw [handled_register_rt h hh, RuntimeState.register_exact_iff hS ht]
    constructor
    · intro hf p r he
      rw [hh] at he
      cases he
      exact hf
    · exact fun hf => hf port response hh
  · refine iff_of_true ?_ (fun p r he => absurd ⟨p, r, he⟩ hr)
    rw [hop.table]
    refine ht.apply hop.fresh ?_
    cases op with
    | register handle e =>
        obtain ⟨response, hh⟩ := hop.session handle e rfl
        exact absurd ⟨_, _, hh⟩ hr
    | dns handle e => exact hop.dns handle e rfl
    | rest | close _ | reset => trivial

theorem init_exact (params : ConnectionParams) : (init S params).rt.udpTable.Exact :=
  RuntimeState.exact_of_sessionsKept (init_sound params).consistent.slotted
    (RuntimeState.freshRuntime_kept params 0 0 _)

theorem guarded_exact (hS : S.KeepsSockets)
    (h : Run.Reaches (step H) registersFree (init S params) s) :
    Sound s ∧ s.rt.udpTable.Exact := by
  refine Run.Reaches.invariant (I := fun s => Sound s ∧ s.rt.udpTable.Exact)
    (fun s l t ⟨hs, ht⟩ hg hst => ?_) h ⟨init_sound params, init_exact params⟩
  exact ⟨step_sound hS hs hst, (step_exact_iff hS hs ht hst).mpr hg⟩

theorem udp_sessions_kept (hS : S.KeepsSockets) :
    (∀ mtu session shared (rt : RuntimeState S),
      Run.Reaches RuntimeState.sessionStep RuntimeState.sessionFree
        (freshRuntime S params mtu session shared) rt →
      rt.SessionsKept ∧ ∀ op rt', rt.sessionStep op = some rt' →
        (rt'.SessionsKept ↔ rt.sessionFree op)) ∧
    ∀ s : System S, Run.Reaches (step H) registersFree (init S params) s →
      s.rt.SessionsKept ∧ ∀ l t, step H s l = some t →
        (t.rt.SessionsKept ↔ s.registersFree l) := by
  constructor
  · intro mtu session shared rt h
    obtain ⟨hs, hk⟩ := RuntimeState.sessionRun_kept hS h
      (RuntimeState.freshRuntime_slotted params mtu session shared)
      (RuntimeState.freshRuntime_kept params mtu session shared)
    exact ⟨hk, fun op rt' hstep => RuntimeState.sessionStep_kept_iff hS hs hk hstep⟩
  · intro s h
    obtain ⟨hs, ht⟩ := guarded_exact hS h
    refine ⟨RuntimeState.sessionsKept_of_exact hs.consistent.slotted ht, fun l t hst => ?_⟩
    have hs' := (step_sound hS hs hst).consistent.slotted
    rw [← step_exact_iff hS hs ht hst]
    exact ⟨RuntimeState.exact_of_sessionsKept hs', RuntimeState.sessionsKept_of_exact hs'⟩

def registerOn (port : UInt16) (response : OneshotId) : List Label :=
  Script.handle (.udpRegister port response) ++ [Script.refresh]

def replaced : List Label :=
  Script.establish ++ registerOn 6000 0 ++ registerOn 6001 1 ++
    Script.handle (.udpUnregister 6000) ++ [Script.refresh] ++ registerOn 6000 2

theorem udp_sessions_kept_replaced :
    ∃ s : Script.Reached, s.rt.udpPorts = [6001, 6000] ∧ s.rt.SessionsKept := by
  have hg : Run.Guarded (step Script.hickory) registersFree
      (init Reference.smoltcp Script.params) replaced := by decide +kernel
  have h : (Script.run replaced).any (fun s => s.rt.udpPorts = [6001, 6000]) = true := by
    decide +kernel
  obtain ⟨s, hs, hp⟩ := Script.exists_guarded hg h
  exact ⟨s, of_decide_eq_true hp, ((udp_sessions_kept Reference.keepsSockets).2 s hs).1⟩

-- The second session takes the port and the first one's socket is left with nobody to close it.
theorem registered_twice_leaks :
    ∃ s : Script.Reached, Reachable Script.hickory Script.params s ∧ ¬ s.rt.SessionsKept ∧
      s.rt.udpPorts = [6000, 6000] ∧
      s.rt.stack.kindAt 0 = some (.udp (some ⟨.ipv4 0x0a000002#32, 6000⟩)) ∧
      (∀ version, s.rt.dnsSockets.slot version ≠ some 0) ∧
      ∀ port se, s.rt.udpSessions.lookup port = some se → se.handle ≠ 0 := by
  have h : (Script.run (Script.establish ++ registerOn 6000 0 ++ registerOn 6000 1)).any (fun s =>
      s.rt.udpPorts = [6000, 6000] ∧
      s.rt.stack.kindAt 0 = some (.udp (some ⟨.ipv4 0x0a000002#32, 6000⟩)) ∧
      (s.rt.dnsSockets.slot .ipv4 ≠ some 0 ∧ s.rt.dnsSockets.slot .ipv6 ≠ some 0) ∧
      ∀ e ∈ s.rt.udpSessions.entries, e.2.handle ≠ 0) = true := by decide +kernel
  obtain ⟨s, hs, hp⟩ := Script.exists_reachable h
  obtain ⟨hports, hkind, hdns, hentries⟩ := of_decide_eq_true hp
  refine ⟨s, hs, fun hk => ?_, hports, hkind, fun version => ?_, fun port se hse => ?_⟩
  · have hn := hk.nodup
    rw [hports] at hn
    simp at hn
  · cases version with
    | ipv4 => exact hdns.1
    | ipv6 => exact hdns.2
  · exact hentries _ (AList.mem_lookup_iff.mp hse)

end System

end Usque
