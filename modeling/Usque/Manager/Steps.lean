import Mathlib.Logic.Relation
import Usque.Manager.Effects

namespace Usque

variable {S : Smoltcp} {P : Policy} {R : Rules S} {rt rt' : RuntimeState S}

abbrev Effects (R : Rules S) : RuntimeState S → RuntimeState S → Prop :=
  Relation.ReflTransGen (Effect R)

namespace Effects

theorem settled (h : Settled R.toPolicy rt rt') : Effects R rt rt' := .single (.aside h)

theorem settles {o : Outcome (RuntimeState S)} (h : Settles R.toPolicy rt o) (ho : o = .ok rt') :
    Effects R rt rt' := settled (h.settled ho)

theorem invariant {I : RuntimeState S → Prop} (hS : S.KeepsSockets)
    (hI : ∀ a b, Consistent a → I a → Effect R a b → I b) (h : Effects R rt rt')
    (hc : Consistent rt) (hi : I rt) : Consistent rt' ∧ I rt' := by
  induction h with
  | refl => exact ⟨hc, hi⟩
  | tail _ hs ih => exact ⟨hs.consistent hS ih.1, hI _ _ ih.1 ih.2 hs⟩

theorem consistent (hS : S.KeepsSockets) (h : Effects R rt rt') (hc : Consistent rt) :
    Consistent rt' :=
  (invariant (I := fun _ => True) hS (fun _ _ _ _ _ => trivial) h hc trivial).1

end Effects

namespace RuntimeState

variable (hS : S.KeepsSockets) (hP : ∀ c : StackCall, c.matched → R.call c)

include hP in
theorem failedOpen_settled (hs : Slotted rt) {remoteIp : IpAddress}
    {remotePort localPort : UInt16} {tcpBufferSize : Nat} {e : StackError}
    {stack stack' : NetworkStack S}
    (h : rt.open? remoteIp remotePort localPort tcpBufferSize = .ok (.error e, stack))
    (hr : stack.removeSocket rt.stack.sockets.lowestFree = .ok stack') :
    Settled R.toPolicy rt { rt with stack := stack' } := by
  have ho := open?_opens h
  have hw := ho.wellFormed hs.wellFormed
  have hf := NetworkStack.removeSocket_frees hw hr
  have hk : NetworkStack.Keeps rt.stack stack' := by
    refine ⟨fun i => ?_, ?_, hf.localIpv4.trans ho.localIpv4, hf.localIpv6.trans ho.localIpv6⟩
    · rw [hf.kindAt, ho.kindAt]
      split_ifs with hi
      · rw [hi, ho.fresh]
      · rfl
    · have hn : rt.stack.sockets.lowestFree ∉ rt.stack.validHandles := fun hm =>
        (hs.wellFormed _).mp hm ho.fresh
      rw [hf.validHandles, ho.validHandles, Finset.erase_insert hn]
  have he : stack = (rt.stack.createTcpSocketWithBuffer tcpBufferSize).2 := by
    rcases NetworkStack.connectTcp_ok h with ⟨_, _, rfl⟩ | ⟨s, _, ⟨_, _, rfl⟩ | ⟨_, _, _, hx, _⟩⟩
    · rfl
    · rfl
    · cases hx
  have hfresh : ∀ s, ¬ rt.stack.HasTcp rt.stack.sockets.lowestFree s :=
    NetworkStack.not_hasTcp_of_kindAt ho.fresh (by simp)
  have hcreated : ∀ i s, i ≠ rt.stack.sockets.lowestFree →
      (stack.HasTcp i s ↔ rt.stack.HasTcp i s) := by
    intro i s hi
    rw [he]
    simp only [NetworkStack.HasTcp, NetworkStack.createTcpSocketWithBuffer,
      NetworkStack.addSocket, Finset.mem_insert, Slots.get?_add, hi, if_false, false_or]
  have hcalls : stack'.calls = stack.calls ∧ stack'.device = stack.device := by
    simp only [NetworkStack.removeSocket] at hr
    split at hr
    · split at hr <;> cases hr
      exact ⟨rfl, rfl⟩
    · cases hr
      exact ⟨rfl, rfl⟩
  refine setStack_settled hs hk ⟨fun i s => ?_, hk.udps,
    fun hl => NetworkStack.removeSocket_logged hr (hl.drains
      (NetworkStack.drains_of_get? (fun i u hu => ?_)) (fun c hc => ?_)), ?_,
    [.createTcp rt.stack.sockets.lowestFree], ?_, fun c hc => ?_⟩
  · rw [NetworkStack.removeSocket_hasTcp hr]
    constructor
    · rintro ⟨hi, hx⟩
      exact (hcreated i s hi).mp hx
    · intro hx
      have hi : i ≠ rt.stack.sockets.lowestFree := by
        rintro rfl
        exact hfresh s hx
      exact ⟨hi, (hcreated i s hi).mpr hx⟩
  · rw [he] at hu
    simp only [NetworkStack.createTcpSocketWithBuffer, NetworkStack.addSocket,
      Slots.get?_add] at hu
    split_ifs at hu
    · cases hu
    · exact hu
  · rw [he]
    exact List.mem_cons_of_mem _ hc
  · rw [hcalls.2, he]
    rfl
  · rw [hcalls.1, he]
    rfl
  · rw [List.mem_singleton.mp hc]
    refine ⟨hP _ rfl, fun i s hx => decide_eq_false ?_⟩
    rintro rfl
    exact hfresh s hx

def opensConnection (rt : RuntimeState S) (remoteIp : IpAddress) (remotePort localPort : UInt16)
    (tcpBufferSize : Nat) : Bool :=
  Table.size rt.sockets < rt.tunables.managerMaxTcpSocketsPerWorker &&
    match rt.open? remoteIp remotePort localPort tcpBufferSize with
    | .ok (.ok (), _) => true
    | _ => false

def opensTcp (rt : RuntimeState S) (tcpBufferSize : Nat) : ManagerCommand → Bool
  | .connect remoteIp remotePort localPort _ _ =>
      rt.opensConnection remoteIp remotePort localPort tcpBufferSize
  | _ => false

def opensUdp (rt : RuntimeState S) (dnsServers : List IpAddress) (draw : Nat) :
    ManagerCommand → Bool
  | .dnsResolve domain preferIpv6 _ =>
      (dnsCacheGet rt.dnsCache rt.shared.now draw domain preferIpv6).isNone &&
        rt.opensDnsSocket dnsServers preferIpv6
  | .dnsResolveAll domain _ =>
      (dnsCacheGetAll rt.dnsCache rt.shared.now domain).isNone &&
        rt.opensDnsSocket dnsServers true
  | .udpRegister localPort _ => rt.opensSession localPort
  | _ => false

theorem createConnection_ok {remoteIp : IpAddress} {remotePort localPort : UInt16}
    {tcpBufferSize : Nat} {reservedSlot : Bool} {result : Except ManagerError StreamId}
    (h : rt.createConnection remoteIp remotePort localPort tcpBufferSize reservedSlot =
      .ok (result, rt')) :
    (result = .error .overloaded ∧ rt' = rt.finishReserved reservedSlot) ∨
      (∃ e stack stack',
        rt.open? remoteIp remotePort localPort tcpBufferSize = .ok (.error e, stack) ∧
        stack.removeSocket rt.stack.sockets.lowestFree = .ok stack' ∧
        result = .error (.stack e) ∧
        rt' = { rt with stack := stack' }.finishReserved reservedSlot) ∨
      ∃ stack, rt.open? remoteIp remotePort localPort tcpBufferSize = .ok (.ok (), stack) ∧
        rt.opensConnection remoteIp remotePort localPort tcpBufferSize ∧
        result = .ok rt.shared.nextStream ∧
        rt' = ({ rt with stack }.insertConnection rt.stack.sockets.lowestFree
          ⟨localPort, remoteIp, remotePort⟩ reservedSlot).2 := by
  simp only [createConnection] at h
  split at h
  · cases h
    exact .inl ⟨rfl, rfl⟩
  · next hroom =>
    obtain ⟨⟨connected, stack⟩, ho, h⟩ := Outcome.bind_eq_ok.mp h
    dsimp only at h
    split at h
    · next e =>
        obtain ⟨stack', hr, h⟩ := Outcome.bind_eq_ok.mp h
        cases h
        exact .inr (.inl ⟨e, stack, stack', ho, hr, rfl, rfl⟩)
    · cases h
      have hopens : rt.opensConnection remoteIp remotePort localPort tcpBufferSize = true := by
        have ho' : rt.open? remoteIp remotePort localPort tcpBufferSize = .ok (.ok (), stack) := ho
        simp only [opensConnection, ho', Bool.and_true, decide_eq_true_eq]
        exact Nat.lt_of_not_le hroom
      exact .inr (.inr ⟨stack, ho, hopens, rfl, rfl⟩)

theorem sendConnected_effects (hc : Consistent rt) (response : OneshotId)
    (result : Except ManagerError StreamId)
    (hb : ∀ x, result = .ok x → x < rt.shared.nextStream ∧
      rt.owner (rt.stream x).handle = some x) :
    Effects R rt (rt.sendConnected response result) := by
  cases result with
  | error e => exact .settled (reply_settled hc.slotted _ _)
  | ok x =>
      simp only [sendConnected]
      split
      · exact .single (.client (hb x rfl).1 (.inr (hb x rfl).2) .drop)
      · exact .settled (reply_settled hc.slotted _ _)

theorem finishReserved_nextStream (rt : RuntimeState S) (reservedSlot : Bool) :
    (rt.finishReserved reservedSlot).shared.nextStream = rt.shared.nextStream := by
  simp only [finishReserved]
  split <;> rfl

theorem finishReserved_owner (rt : RuntimeState S) (reservedSlot : Bool) (x : StreamId) :
    (rt.finishReserved reservedSlot).owner ((rt.finishReserved reservedSlot).stream x).handle =
      rt.owner (rt.stream x).handle := by
  simp only [finishReserved]
  split <;> rfl

theorem insertConnection_owner (rt : RuntimeState S) (handle : SocketHandle)
    (flowKey : TcpFlowKey) (reservedSlot : Bool) :
    (rt.insertConnection handle flowKey reservedSlot).2.owner
        ((rt.insertConnection handle flowKey reservedSlot).2.stream
          rt.shared.nextStream).handle = some rt.shared.nextStream := by
  rw [insertConnection_eq, finishReserved_owner, stream_withConnection, if_pos rfl]
  have hl := lookup_withConnection rt handle flowKey handle
  rw [if_pos rfl] at hl
  exact congrArg (Option.map (·.stream)) hl

theorem insertConnection_nextStream (rt : RuntimeState S) (handle : SocketHandle)
    (flowKey : TcpFlowKey) (reservedSlot : Bool) :
    (rt.insertConnection handle flowKey reservedSlot).2.shared.nextStream =
      rt.shared.nextStream + 1 := by
  rw [insertConnection_eq, finishReserved_nextStream]
  rfl

include hP in
theorem closeConnection_none_settled (hc : Consistent rt) {handle : SocketHandle}
    (hl : rt.sockets.lookup handle = none) (h : rt.closeConnection handle = .ok rt') :
    Settled R.toPolicy rt rt' := by
  have hk : rt.stack.kindAt handle ≠ some .tcp := fun hk =>
    (hc.slotted.entry handle).mpr hk hl
  simp only [closeConnection, hl] at h
  obtain ⟨stack, hclose, h⟩ := Outcome.bind_eq_ok.mp h
  obtain ⟨stack', hr, h⟩ := Outcome.bind_eq_ok.mp h
  cases h
  rcases NetworkStack.tcpClose_ok hclose with ⟨hv, rfl⟩ | ⟨s, hs, _⟩
  · have hs' : stack' = rt.stack.logCall (.tcpClose handle) := by
      have hv' : handle ∉ (rt.stack.logCall (.tcpClose handle)).validHandles := hv
      simp only [NetworkStack.removeSocket, if_neg hv'] at hr
      exact (Outcome.ok_iff.mp hr).symm
    subst hs'
    have hkept : NetworkStack.TcpKept R.toPolicy rt.stack (rt.stack.logCall (.tcpClose handle)) :=
      NetworkStack.kept_logCall (hP _ rfl) (fun i s hx => decide_eq_false (by
        rintro rfl
        exact hv hx.1))
    have hset := setStack_settled hc.slotted
      (NetworkStack.Keeps.logCall rt.stack (.tcpClose handle)) hkept
    refine ⟨⟨hset.slotted.wellFormed, hset.slotted.entry, hset.slotted.session,
      hset.slotted.dns, hset.slotted.apart⟩, ⟨rfl, fun key => ?_, ?_, rfl, rfl, rfl, rfl, rfl,
      rfl, rfl, rfl, hkept⟩⟩
    · show (Table.retain (fun _ mapped => mapped ≠ handle) rt.tcpFlowMap).lookup key = _
      rw [Table.lookup_retain]
      cases hf : rt.tcpFlowMap.lookup key with
      | none => rfl
      | some i =>
          obtain ⟨st, hst, _⟩ := hc.tracked.flow key i hf
          have hi : i ≠ handle := by
            rintro rfl
            rw [hl] at hst
            cases hst
          simp [hi]
    · refine List.filter_eq_self.mpr (fun i hi => decide_eq_true ?_)
      rintro rfl
      exact (hc.tracked.handles i).mp hi hl
  · exact absurd hs.kindAt hk

include hP in
theorem closeConnection_effects (hc : Consistent rt) {handle : SocketHandle}
    (h : rt.closeConnection handle = .ok rt') : Effects R rt rt' := by
  cases hl : rt.sockets.lookup handle with
  | none => exact .settled (closeConnection_none_settled hP hc hl h)
  | some st => exact .single (.requestClose hl h)

theorem getSocketState_ok {handle : SocketHandle} {response : OneshotId}
    (h : rt.getSocketState handle response = .ok rt') :
    ∃ state, rt.getTcpSocketState handle = .ok state ∧
      rt' = rt.reply response (.socketState state) := by
  obtain ⟨state, hstate, h⟩ := Outcome.bind_eq_ok.mp h
  cases h
  exact ⟨state, hstate, rfl⟩

theorem waitSocketReady_ok {handle : SocketHandle} {response : OneshotId}
    (h : rt.waitSocketReady handle response = .ok rt') :
    (∃ state, rt.getTcpSocketState handle = .ok state ∧
      rt' = rt.reply response (.socketState state)) ∨
    ∃ st, rt.sockets.lookup handle = some st ∧
      rt' = rt.setSocket handle { st with readyWaiters := st.readyWaiters ++ [response] } := by
  obtain ⟨state, hstate, h⟩ := Outcome.bind_eq_ok.mp h
  split at h
  · cases h
    exact .inl ⟨state, hstate, rfl⟩
  · next hconnecting =>
      split at h
      · next st hl =>
          cases h
          exact .inr ⟨st, hl, rfl⟩
      · next hl =>
          simp only [getTcpSocketState, hl, Outcome.ok_iff] at hstate
          exact absurd (by rw [← hstate]; decide) hconnecting

theorem getSocketState_effects (hc : Consistent rt) {handle : SocketHandle}
    {response : OneshotId} (h : rt.getSocketState handle response = .ok rt') :
    Effects R rt rt' := by
  obtain ⟨state, _, rfl⟩ := getSocketState_ok h
  exact .settled (reply_settled hc.slotted _ _)

theorem waitSocketReady_effects (hc : Consistent rt) {handle : SocketHandle}
    {response : OneshotId}
    (hw : ∀ st, rt.sockets.lookup handle = some st → R.wait st.stream response)
    (h : rt.waitSocketReady handle response = .ok rt') :
    Effects R rt rt' := by
  rcases waitSocketReady_ok h with ⟨state, _, rfl⟩ | ⟨st, hl, rfl⟩
  · exact .settled (reply_settled hc.slotted _ _)
  · refine .single (.waiters hl (fun r hr => ?_))
    rcases List.mem_append.mp hr with hr | hr
    · exact .inl hr
    · rw [List.mem_singleton.mp hr]
      exact .inr (hw st hl)

include hS hP in
theorem handleCommand_effects (H : Hickory) (hc : Consistent rt) {dnsServers : List IpAddress}
    {tcpBufferSize draw : Nat} {cmd : ManagerCommand}
    (ht : rt.opensTcp tcpBufferSize cmd → R.tcp rt.stack.sockets.lowestFree)
    (hf : rt.opensUdp dnsServers draw cmd → R.udp rt.stack.sockets.lowestFree)
    (hk : ∀ key, cmd.flowKey = some key → R.connect rt key) (hn : cmd.mayOpen = false → R.free)
    (hw : ∀ handle response source, cmd = .waitSocketReady handle response source →
      ∀ st, rt.sockets.lookup handle = some st → R.wait st.stream response)
    (h : rt.handleCommand H dnsServers tcpBufferSize draw cmd = .ok rt') : Effects R rt rt' := by
  cases cmd with
  | connect remoteIp remotePort localPort reservedSlot response =>
      obtain ⟨⟨result, rt₁⟩, hcreate, h⟩ := Outcome.bind_eq_ok.mp h
      cases h
      rcases createConnection_ok hcreate with ⟨rfl, rfl⟩ | ⟨e, stack, stack', ho, hr, rfl, rfl⟩ |
        ⟨stack, ho, hopens, rfl, rfl⟩
      · have hset := finishReserved_settled (P := R.toPolicy) hc.slotted reservedSlot
        exact .settled (hset.trans (reply_settled hset.slotted _ _))
      · have hset := failedOpen_settled hP hc.slotted ho hr
        have hset' := hset.trans (finishReserved_settled hset.slotted reservedSlot)
        exact .settled (hset'.trans (reply_settled hset'.slotted _ _))
      · have heff : Effect R rt _ := .openTcp reservedSlot (ht hopens) (hk _ rfl) ho
        refine .head heff (sendConnected_effects (heff.consistent hS hc) response _ ?_)
        intro x hx
        cases hx
        rw [insertConnection_nextStream]
        exact ⟨Nat.lt_succ_self _, insertConnection_owner { rt with stack } _ _ _⟩
  | close handle source => exact closeConnection_effects hP hc h
  | dnsResolve domain preferIpv6 response =>
      simp only [handleCommand] at h
      split at h
      · cases h
        exact .settled (reply_settled hc.slotted _ _)
      · next hmiss =>
          refine .settles (startDnsQueryFor_settles hS hP H hc.slotted _ _ _ _ _ _
            (fun ho => hf ?_)) h
          simp only [opensUdp, hmiss, ho, Option.isNone_none, Bool.and_self]
  | dnsResolveAll domain response =>
      simp only [handleCommand] at h
      split at h
      · cases h
        exact .settled (reply_settled hc.slotted _ _)
      · next hmiss =>
          refine .settles (startDnsQueryFor_settles hS hP H hc.slotted _ _ _ _ _ _
            (fun ho => hf ?_)) h
          simp only [opensUdp, hmiss, ho, Option.isNone_none, Bool.and_self]
  | udpRegister localPort response =>
      cases h
      exact .settled (registerUdpSession_settled hS hc.slotted localPort response hf)
  | udpUnregister localPort =>
      exact .settles (unregisterUdpSession_settles (hn rfl) hc.slotted localPort) h
  | getSocketState handle response source => exact getSocketState_effects hc h
  | waitSocketReady handle response source => exact waitSocketReady_effects hc (hw _ _ _ rfl) h

theorem takeReadyWaiters_effects {acc acc' : RuntimeState S × Notifications}
    {handle : SocketHandle} (h : takeReadyWaiters acc handle = .ok acc') :
    Effects R acc.1 acc'.1 := by
  rcases takeReadyWaiters_cases h with rfl | ⟨st, state, hl, _, rfl⟩
  · exact .refl
  · exact .single (.waiters hl (fun _ hr => by cases hr))

theorem foldl_replies_settled (hs : Slotted rt) (notifications : Notifications) :
    Settled R.toPolicy rt
      (notifications.foldl (fun rt n => rt.replyAll n.1 (.socketState n.2)) rt) := by
  induction notifications generalizing rt with
  | nil => exact .refl hs
  | cons n notifications ih =>
      have h := replyAll_settled (P := R.toPolicy) hs n.1 (.socketState n.2)
      exact h.trans (ih h.slotted)

include hS in
theorem notifyReadyWaiters_effects (hc : Consistent rt) (h : rt.notifyReadyWaiters = .ok rt') :
    Effects R rt rt' := by
  obtain ⟨⟨rt₁, notifications⟩, hr, h⟩ := Outcome.bind_eq_ok.mp h
  cases h
  have heff : Effects R rt rt₁ :=
    Outcome.run_invariant (P := fun acc => Effects R rt acc.1)
      (fun _ _ _ hp ha => hp.trans (takeReadyWaiters_effects ha)) hr .refl
  have hc₁ := heff.consistent hS hc
  exact heff.tail (.aside (foldl_replies_settled hc₁.slotted notifications))

include hS in
-- What process_state_change does once the waiters are answered.
theorem afterNotify_settles (H : Hickory) (hf : P.free) (hs : Slotted rt) :
    Settles P rt (do
      let rt ← rt.processDnsResponses H
      let rt ← rt.processUdpResponses
      rt.expireDnsGroups.expireUdpSessions) :=
  (processDnsResponses_settles hS H hs).bind (fun _ h =>
    (processUdpResponses_settles hS h.slotted).bind (fun _ h' =>
      .after (expireDnsGroups_settled h'.slotted)
        (expireUdpSessions_settles hf
          (expireDnsGroups_settled (P := P) h'.slotted).slotted)))

include hS in
theorem processStateChange_effects (H : Hickory) (hf : R.free) (hc : Consistent rt) {changed : Bool}
    (h : rt.processStateChange H changed = .ok rt') : Effects R rt rt' := by
  simp only [processStateChange] at h
  split at h
  · obtain ⟨rt₁, h₁, h⟩ := Outcome.bind_eq_ok.mp h
    have heff := notifyReadyWaiters_effects (R := R) hS hc h₁
    have hs := (heff.consistent hS hc).slotted
    exact heff.trans (Effects.settles (afterNotify_settles hS H hf hs) h)
  · cases h
    exact .refl

include hS in
theorem pollStackCommon_effects (H : Hickory) (hf : R.free) (hp : R.poll rt)
    (hc : Consistent rt) {fullTcpSweep : Bool}
    {sweep : Option Bool} (h : rt.pollStackCommon H fullTcpSweep = .ok (.polled sweep rt')) :
    Effects R rt rt' := by
  simp only [pollStackCommon] at h
  split at h
  · cases h
  · next outcome stack hpoll =>
      have heff : Effect R rt { rt with stack } := .poll hp hpoll
      obtain ⟨rt₁, h₁, h⟩ := Outcome.bind_eq_ok.mp h
      cases h
      exact .head heff (processStateChange_effects hS H hf (heff.consistent hS hc) h₁)

def notUdp (rt : RuntimeState S) (handle : SocketHandle) : Prop :=
  rt.stack.kindAt handle = none ∨ rt.stack.kindAt handle = some .tcp

theorem notUdp_of_tcpQuery (hs : Slotted rt) {f : S.TcpSocket → Bool} {handle : SocketHandle}
    {b : Bool} (h : NetworkStack.tcpQuery f rt.stack handle = .ok b) : rt.notUdp handle := by
  rcases NetworkStack.tcpQuery_ok h with ⟨hv, _⟩ | ⟨s, hx, _⟩
  · refine .inl ?_
    by_contra hne
    exact hv ((hs.wellFormed handle).mpr hne)
  · exact .inr hx.kindAt

theorem sweepHandle_effects (hw : R.sweep) {fullSweep : Bool}
    {acc acc' : RuntimeState S × List SocketHandle}
    {handle : SocketHandle} (hc : Consistent acc.1) (hu : ∀ h ∈ acc.2, acc.1.notUdp h)
    (h : sweepHandle fullSweep acc handle = .ok acc') :
    Effects R acc.1 acc'.1 ∧ ∀ h ∈ acc'.2, acc'.1.notUdp h := by
  obtain ⟨active, ha, h⟩ := Outcome.bind_eq_ok.mp h
  split at h
  · cases h
    refine ⟨.refl, fun i hi => ?_⟩
    rcases List.mem_append.mp hi with hi | hi
    · exact hu i hi
    · rw [List.mem_singleton.mp hi]
      exact notUdp_of_tcpQuery hc.slotted ha
  · split at h
    · cases h
      exact ⟨.refl, hu⟩
    · next st hl =>
        obtain ⟨rt₁, hserv, h⟩ := Outcome.bind_eq_ok.mp h
        cases h
        refine ⟨.single (.service hw fullSweep hl hserv), fun i hi => ?_⟩
        obtain ⟨v, hv, rfl⟩ := serviceSocket_ok hserv
        have hk : v.stack.kindAt i = acc.1.stack.kindAt i :=
          (Service.run_frame hv).touches.keeps.kindAt i
        have hiu := hu i hi
        simp only [notUdp, ← hk] at hiu
        exact hiu

include hS in
theorem retireAll_effects (hw : R.sweep) (hf : R.free) {closed : List SocketHandle}
    (hc : Consistent rt) (hu : ∀ h ∈ closed, rt.notUdp h)
    (h : Outcome.run retire rt closed = .ok rt') :
    Effects R rt rt' := by
  induction closed generalizing rt with
  | nil =>
      cases h
      exact .refl
  | cons handle closed ih =>
      obtain ⟨rt₁, h₁, h⟩ := Outcome.bind_eq_ok.mp h
      have heff : Effect R rt rt₁ := .release hw hf (hu handle (List.mem_cons_self ..)) h₁
      refine .head heff (ih (heff.consistent hS hc) (fun i hi => ?_) h)
      have hk := (retire_retired hc h₁).frees.kindAt i
      rcases hu i (List.mem_cons_of_mem _ hi) with hn | hn
      · refine .inl ?_
        rw [hk, hn, ite_self]
      · by_cases he : i = handle
        · exact .inl (by rw [hk, if_pos he])
        · exact .inr (by rw [hk, if_neg he, hn])

include hS in
theorem sweepAll_effects (hw : R.sweep) {fullSweep : Bool} {handles : List SocketHandle}
    {acc acc' : RuntimeState S × List SocketHandle} (hc : Consistent acc.1)
    (hu : ∀ h ∈ acc.2, acc.1.notUdp h)
    (h : Outcome.run (sweepHandle fullSweep) acc handles = .ok acc') :
    Effects R acc.1 acc'.1 ∧ ∀ h ∈ acc'.2, acc'.1.notUdp h := by
  induction handles generalizing acc with
  | nil =>
      cases h
      exact ⟨.refl, hu⟩
  | cons handle handles ih =>
      obtain ⟨acc₁, h₁, h⟩ := Outcome.bind_eq_ok.mp h
      obtain ⟨heff, hu₁⟩ := sweepHandle_effects hw hc hu h₁
      obtain ⟨heff', hu'⟩ := ih (heff.consistent hS hc) hu₁ h
      exact ⟨heff.trans heff', hu'⟩

include hS in
theorem pollTcpSockets_effects (hw : R.sweep) (hf : R.free) (hc : Consistent rt) {fullSweep : Bool}
    (h : rt.pollTcpSockets fullSweep = .ok rt') : Effects R rt rt' := by
  rw [pollTcpSockets_eq] at h
  obtain ⟨acc, hsweep, h⟩ := Outcome.bind_eq_ok.mp h
  have hsel : Effect R rt (rt.selectHandles fullSweep).2 := .select hw fullSweep
  have hc₁ := hsel.consistent hS hc
  obtain ⟨heff, hu⟩ := sweepAll_effects hS hw hc₁ (by simp) hsweep
  exact .head hsel (heff.trans (retireAll_effects hS hw hf (heff.consistent hS hc₁) hu h))

theorem setDevice_kept (st : NetworkStack S) (device : VirtualDevice)
    (h : device.rxQueue = st.device.rxQueue) :
    NetworkStack.Keeps st { st with device } ∧ NetworkStack.TcpKept P st { st with device } :=
  ⟨.device st device, fun _ _ => Iff.rfl, fun _ => .refl _ _ _, id, h, [], rfl, by simp⟩

theorem takePackets_kept (n : Nat) (st : NetworkStack S) :
    NetworkStack.Keeps st (ActiveTunnel.takePackets n st).2 ∧
      NetworkStack.TcpKept P st (ActiveTunnel.takePackets n st).2 := by
  induction n generalizing st with
  | zero => exact ⟨.refl _, .refl _ _⟩
  | succ n ih =>
      simp only [ActiveTunnel.takePackets, NetworkStack.takePacket, VirtualDevice.takePacket]
      cases hq : st.device.txQueue with
      | nil => exact ⟨.refl _, .refl _ _⟩
      | cons packet ps =>
          obtain ⟨hk, ht⟩ := setDevice_kept (P := P) st { st.device with txQueue := ps } rfl
          obtain ⟨hk', ht'⟩ := ih { st with device := { st.device with txQueue := ps } }
          exact ⟨hk.trans hk', ht.trans ht'⟩

theorem requeuePackets_kept (st : NetworkStack S) (packets : List Packet) :
    NetworkStack.Keeps st (ActiveTunnel.requeuePackets st packets) ∧
      NetworkStack.TcpKept P st (ActiveTunnel.requeuePackets st packets) := by
  simp only [ActiveTunnel.requeuePackets]
  generalize packets.reverse = l
  induction l generalizing st with
  | nil => exact ⟨.refl _, .refl _ _⟩
  | cons packet l ih =>
      obtain ⟨hk, ht⟩ := setDevice_kept (P := P) st (st.device.requeuePacketFront packet) rfl
      obtain ⟨hk', ht'⟩ := ih (st.requeuePacketFront packet)
      exact ⟨hk.trans hk', ht.trans ht'⟩

theorem drainMasque_kept (batchSize : Nat) (now : Time) (fuel budget : Nat)
    (results : List SendResult) (streak : Nat) (blockedUntil : Option Time)
    (st : NetworkStack S) :
    NetworkStack.Keeps st
        (ActiveTunnel.drainMasque batchSize now fuel budget results streak blockedUntil st).2 ∧
      NetworkStack.TcpKept P st
        (ActiveTunnel.drainMasque batchSize now fuel budget results streak blockedUntil st).2 := by
  induction fuel generalizing budget results streak blockedUntil st with
  | zero => exact ⟨.refl _, .refl _ _⟩
  | succ fuel ih =>
      obtain ⟨hk, ht⟩ := takePackets_kept (P := P) (min (max batchSize 1) budget) st
      simp only [ActiveTunnel.drainMasque]
      split
      · next st₁ htake =>
          rw [htake] at hk ht
          exact ⟨hk, ht⟩
      · next packets st₁ _ htake =>
          rw [htake] at hk ht
          split
          · obtain ⟨hk', ht'⟩ := ih (budget - packets.length) results.tail 0 none st₁
            exact ⟨hk.trans hk', ht.trans ht'⟩
          · obtain ⟨hk', ht'⟩ := requeuePackets_kept (P := P) st₁ packets
            exact ⟨hk.trans hk', ht.trans ht'⟩
          · obtain ⟨hk', ht'⟩ := requeuePackets_kept (P := P) st₁ packets
            exact ⟨hk.trans hk', ht.trans ht'⟩

theorem drainStackPackets_settled (hs : Slotted rt) (tunnel : ActiveTunnel)
    (results : List SendResult) : Settled P rt (tunnel.drainStackPackets rt results).2 := by
  simp only [ActiveTunnel.drainStackPackets]
  split
  · exact .refl hs
  · split
    · obtain ⟨hk, ht⟩ := drainMasque_kept (P := P) _ _ _ _ _ _ _ rt.stack
      exact setStack_settled hs hk ht
    · obtain ⟨hk, ht⟩ := takePackets_kept (P := P) _ rt.stack
      exact setStack_settled hs hk ht

theorem handleTransportIoEvent_effects {tunnel : ActiveTunnel} {decrypted : Option Packet}
    {event : TransportIoEvent} {ingress : Bool}
    (h : tunnel.handleTransportIoEvent rt decrypted event = .ok (ingress, rt')) :
    Effects R rt rt' := by
  cases event with
  | incoming data =>
      simp only [ActiveTunnel.handleTransportIoEvent, ActiveTunnel.handleIncomingDatagram] at h
      split at h
      · obtain ⟨rt₁, hi, h⟩ := Outcome.bind_eq_ok.mp h
        cases h
        exact .single (.incoming hi)
      · split at h
        · cases h
          exact .refl
        · obtain ⟨rt₁, hi, h⟩ := Outcome.bind_eq_ok.mp h
          cases h
          exact .single (.incoming hi)
  | quicFlush =>
      cases h
      exact .refl
  | masqueBlocked =>
      cases h
      exact .refl

end RuntimeState

end Usque
