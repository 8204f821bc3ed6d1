import Usque.Lib.Index
import Usque.Manager.Script

namespace Usque

variable {S : Smoltcp} {R : Rules S} {rt rt' : RuntimeState S}

namespace RuntimeState

def flowKeyAt (rt : RuntimeState S) (handle : SocketHandle) : Option TcpFlowKey :=
  (rt.sockets.lookup handle).bind (·.flowKey)

def keyTaken (rt : RuntimeState S) (key : TcpFlowKey) : Prop :=
  ∃ st ∈ Table.values rt.sockets, st.flowKey = some key

instance (rt : RuntimeState S) (key : TcpFlowKey) : Decidable (rt.keyTaken key) :=
  inferInstanceAs (Decidable (∃ st ∈ _, _))

def FlowsExact (rt : RuntimeState S) : Prop :=
  Index.Inverse (fun key => rt.tcpFlowMap.lookup key) rt.flowKeyAt

theorem flowKeyAt_eq_some {handle : SocketHandle} {key : TcpFlowKey} :
    rt.flowKeyAt handle = some key ↔
      ∃ st, rt.sockets.lookup handle = some st ∧ st.flowKey = some key :=
  Option.bind_eq_some_iff

theorem keyTaken_of_flowKeyAt {handle : SocketHandle} {key : TcpFlowKey}
    (h : rt.flowKeyAt handle = some key) : rt.keyTaken key := by
  obtain ⟨st, hl, hk⟩ := flowKeyAt_eq_some.mp h
  have hmem : (⟨handle, st⟩ : Sigma fun _ : SocketHandle => SocketState) ∈ rt.sockets.entries :=
    AList.mem_lookup_iff.mp hl
  exact ⟨st, List.mem_map.mpr ⟨_, hmem, rfl⟩, hk⟩

theorem flowKeyAt_of_links (h : sameLinks rt.sockets rt'.sockets) (handle : SocketHandle) :
    rt'.flowKeyAt handle = rt.flowKeyAt handle := by
  have hlink := congrArg (fun o : Option (StreamId × Option TcpFlowKey) => o.bind Prod.snd)
    (h handle)
  simp only [Option.bind_map] at hlink
  exact hlink

theorem FlowsExact.carry (h : FlowsExact rt)
    (hf : ∀ key, rt'.tcpFlowMap.lookup key = rt.tcpFlowMap.lookup key)
    (hl : sameLinks rt.sockets rt'.sockets) : FlowsExact rt' :=
  Index.Inverse.congr h hf (flowKeyAt_of_links hl)

theorem insertConnection_flows (h : FlowsExact rt) {handle : SocketHandle} {key : TcpFlowKey}
    (hfree : rt.sockets.lookup handle = none) (hkey : ¬ rt.keyTaken key) (reservedSlot : Bool) :
    FlowsExact (rt.insertConnection handle key reservedSlot).2 := by
  have hexact : FlowsExact (rt.withConnection handle key) := by
    have hinsert := h.insert (k := key) (i := handle) (by rw [flowKeyAt, hfree]; rfl)
      (fun j hj => hkey (keyTaken_of_flowKeyAt hj))
    refine hinsert.congr (fun k => Table.lookup_insert _ _ _ _) (fun i => ?_)
    rw [flowKeyAt, lookup_withConnection]
    split_ifs <;> rfl
  rw [insertConnection_eq]
  simp only [finishReserved]
  split
  · exact hexact
  · exact hexact

theorem releaseSocket_flowKeyAt (rt : RuntimeState S) (handle i : SocketHandle) :
    (rt.releaseSocket handle).flowKeyAt i = if i = handle then none else rt.flowKeyAt i := by
  cases hl : rt.sockets.lookup handle with
  | none =>
      have he : rt.releaseSocket handle = rt := by simp only [releaseSocket, hl]
      rw [he]
      split_ifs with hi
      · rw [flowKeyAt, hi, hl]
        rfl
      · rfl
  | some st =>
      obtain ⟨replies, he⟩ := releaseSocket_some hl
      rw [he]
      show ((AList.erase handle rt.sockets).lookup i).bind (·.flowKey) = _
      rw [Table.lookup_erase]
      split_ifs <;> rfl

-- Closing a socket takes its own key out of the map.
theorem releaseSocket_flows (h : FlowsExact rt) (handle : SocketHandle) :
    FlowsExact (rt.releaseSocket handle) := by
  cases hl : rt.sockets.lookup handle with
  | none =>
      have he : rt.releaseSocket handle = rt := by simp only [releaseSocket, hl]
      rwa [he]
  | some st =>
      obtain ⟨replies, he⟩ := releaseSocket_some hl
      have hat : rt.flowKeyAt handle = st.flowKey := by rw [flowKeyAt, hl]; rfl
      refine (h.erase handle).congr (fun key => ?_) (releaseSocket_flowKeyAt rt handle)
      rw [he, hat]
      cases st.flowKey with
      | none => rfl
      | some own =>
          have herase := Table.lookup_erase rt.tcpFlowMap own key
          simp only [Option.some.injEq, eq_comm (a := own)]
          exact herase

theorem closeHandle_keeps (h : FlowsExact rt) {closed handle : SocketHandle} {key : TcpFlowKey}
    (hc : rt.closeHandle closed = .ok rt') (hne : handle ≠ closed)
    (hm : rt.tcpFlowMap.lookup key = some handle) : rt'.tcpFlowMap.lookup key = some handle := by
  obtain ⟨stack, _, hc⟩ := Outcome.bind_eq_ok.mp hc
  cases hc
  refine (releaseSocket_flows h closed key handle).mpr ?_
  rw [releaseSocket_flowKeyAt, if_neg hne]
  exact (h key handle).mp hm

theorem closeConnection_keeps {closed handle : SocketHandle} {key : TcpFlowKey}
    (hc : rt.closeConnection closed = .ok rt') (hne : handle ≠ closed)
    (hm : rt.tcpFlowMap.lookup key = some handle) : rt'.tcpFlowMap.lookup key = some handle := by
  cases hl : rt.sockets.lookup closed with
  | none =>
      simp only [closeConnection, hl] at hc
      obtain ⟨_, _, hc⟩ := Outcome.bind_eq_ok.mp hc
      obtain ⟨_, _, hc⟩ := Outcome.bind_eq_ok.mp hc
      cases hc
      show (Table.retain (fun _ mapped => mapped ≠ closed) rt.tcpFlowMap).lookup key = some handle
      rw [Table.lookup_retain, hm]
      exact Option.filter_eq_some_iff.mpr ⟨rfl, decide_eq_true hne⟩
  | some st =>
      obtain ⟨replies, he⟩ := closeConnection_eq hl
      rw [he] at hc
      cases hc
      rw [putStream_eq]
      exact hm

theorem retire_flows (h : FlowsExact rt) {handle : SocketHandle}
    (hr : rt.retire handle = .ok rt') : FlowsExact rt' := by
  obtain ⟨rt₁, h₁, hr⟩ := Outcome.bind_eq_ok.mp hr
  cases hr
  obtain ⟨stack, _, h₁⟩ := Outcome.bind_eq_ok.mp h₁
  cases h₁
  exact releaseSocket_flows h handle

theorem enqueueReady_flows (h : FlowsExact rt) (handle : SocketHandle) :
    FlowsExact (rt.enqueueReadyTcpHandle handle) := by
  simp only [enqueueReadyTcpHandle]
  split
  · exact h
  · exact h

theorem handleSocketEvent_flows (h : FlowsExact rt) (e : SocketEvent) :
    FlowsExact (rt.handleSocketEvent e) := by
  cases hl : rt.sockets.lookup e.handle with
  | none =>
      rw [handleSocketEvent_none _ hl]
      exact enqueueReady_flows h _
  | some st =>
      rw [handleSocketEvent_some _ hl]
      have hlink := (sync_link (noteEvent e.kind st) (rt.stream st.stream) rt.counters).trans
        (noteEvent_link e.kind st)
      refine enqueueReady_flows ?_ _
      exact h.carry (fun _ => rfl) (.insert hl hlink)

theorem injectIncoming_flows (h : FlowsExact rt) {packet : Packet}
    (hi : rt.injectIncoming packet = .ok rt') : FlowsExact rt' := by
  obtain ⟨stack, _, hi⟩ := Outcome.bind_eq_ok.mp hi
  cases hi
  have hnote : FlowsExact (rt.noteIncomingTcpHandle packet) := by
    simp only [noteIncomingTcpHandle]
    split
    · exact h
    · next handle _ =>
        have hl := sameLinks.modify handle
          (f := fun st => { st with pendingEvents := st.pendingEvents.union ⟨true, true, false⟩ })
          (fun _ => rfl) rt.sockets
        refine enqueueReady_flows ?_ _
        exact h.carry (fun _ => rfl) hl
  exact hnote.carry (fun _ => rfl) (.refl _)

theorem closeConnection_flows (h : FlowsExact rt) {handle : SocketHandle} {st : SocketState}
    (hl : rt.sockets.lookup handle = some st) (hc : rt.closeConnection handle = .ok rt') :
    FlowsExact rt' := by
  obtain ⟨replies, he⟩ := closeConnection_eq hl
  rw [he] at hc
  cases hc
  have hlink := (sync_link (closingEntry st) (closingStream (rt.stream st.stream)).1
    rt.counters).trans (closingEntry_link st)
  refine h.carry (fun _ => ?_) (.insert hl hlink)
  rw [putStream_eq]
  rfl

end RuntimeState

open RuntimeState in
theorem Effect.flowsExact
    (hk : ∀ handle rt key, R.tcp handle → R.connect rt key → ¬ rt.keyTaken key)
    (h : Effect R rt rt') (hc : Consistent rt) (hi : rt.FlowsExact) : rt'.FlowsExact := by
  cases h with
  | aside h =>
      refine hi.carry h.aside.flows ?_
      rw [h.aside.sockets]
      exact .refl _
  | @openTcp _ _ _ _ stack reservedSlot hf hkey h =>
      have hstack : FlowsExact { rt with stack } := hi.carry (fun _ => rfl) (.refl _)
      have hfresh := hk _ _ _ hf hkey
      exact insertConnection_flows hstack (lookup_opens hc.slotted (open?_opens h)) hfresh _
  | requestClose hl h => exact closeConnection_flows hi hl h
  | @waiters _ st waiters hl _ =>
      have hlink : ({ st with readyWaiters := waiters } : SocketState).link = st.link := rfl
      exact hi.carry (fun _ => rfl) (.insert hl hlink)
  | @event e es h =>
      have hpop : FlowsExact { rt with socketEvents := es } := hi.carry (fun _ => rfl) (.refl _)
      exact handleSocketEvent_flows hpop e
  | incoming h => exact injectIncoming_flows hi h
  | poll _ h => exact hi.carry (fun _ => rfl) (.refl _)
  | egress h => exact hi.carry (fun _ => rfl) (.refl _)
  | select _ fullSweep => cases fullSweep <;> exact hi.carry (fun _ => rfl) (.refl _)
  | service _ fullSweep hl h =>
      obtain ⟨v, hv, rfl⟩ := serviceSocket_ok h
      have hf := Service.run_frame hv
      exact hi.carry (fun _ => rfl) (.insert hl (Prod.ext hf.task.1 hf.task.2.1))
  | release _ _ _ h => exact retire_flows hi h
  | client hx _ h =>
      rw [putStream_eq]
      exact hi.carry (fun _ => rfl) (.refl _)
  | reset _ params mtu session shared _ _ _ => exact Index.Inverse.empty

namespace System

variable {H : Hickory} {s t : System S} {l : Label}

-- A Connect that opens a connection does so under a key that no live socket has.
def opensFreshKey (s : System S) (l : Label) : Prop :=
  ∀ cmd ∈ s.handled l, ∀ key ∈ cmd.flowKey, (s.opensTcpAt l).isSome → ¬ s.rt.keyTaken key

instance (s : System S) (l : Label) : Decidable (s.opensFreshKey l) :=
  inferInstanceAs (Decidable (∀ cmd ∈ s.handled l, ∀ key ∈ cmd.flowKey, _ → _))

def flowRules (s : System S) (l : Label) : Rules S :=
  { Rules.any S with
    tcp := fun _ => (s.opensTcpAt l).isSome
    connect := fun rt key => (s.opensTcpAt l).isSome → ¬ rt.keyTaken key }

theorem permits_flowRules (h : s.opensFreshKey l) : Permits (s.flowRules l) s l where
  call := fun _ _ => trivial
  send := fun _ _ _ _ _ _ => trivial
  tcp := fun _ ho => Option.isSome_iff_exists.mpr ⟨_, ho⟩
  udp := fun _ _ => trivial
  connect := fun cmd key hcmd hkey => h cmd hcmd key hkey
  free := fun _ => trivial
  sweep := fun _ => trivial
  poll := fun _ => trivial
  client := fun _ _ _ _ => trivial
  wait := fun _ _ _ _ _ _ => trivial

theorem step_flowsExact (hS : S.KeepsSockets) (hs : Sound s) (hg : s.opensFreshKey l)
    (hi : s.rt.FlowsExact) (hst : step H s l = some t) : t.rt.FlowsExact := by
  have heff := step_effects hS hs (permits_flowRules hg) hst
  have hk : ∀ (handle : SocketHandle) (rt : RuntimeState S) (key : TcpFlowKey),
      (s.flowRules l).tcp handle → (s.flowRules l).connect rt key → ¬ rt.keyTaken key :=
    fun _ _ _ hopens hfresh => hfresh hopens
  exact (heff.invariant (I := fun rt => rt.FlowsExact) hS
    (fun _ _ hc hi he => he.flowsExact hk hc hi) hs.consistent hi).2

theorem flow_map_exact (hS : S.KeepsSockets) {params : ConnectionParams}
    (hr : Run.Reaches (step H) opensFreshKey (init S params) s) :
    (∀ key handle, s.rt.tcpFlowMap.lookup key = some handle ↔
      ∃ st, s.rt.sockets.lookup handle = some st ∧ st.flowKey = some key) ∧
    (∀ packet key handle st, RuntimeState.incomingFlowKey S packet = some key →
      s.rt.sockets.lookup handle = some st → st.flowKey = some key →
      s.rt.classifyIncomingTcpHandle packet = some handle) ∧
    (∀ closed rt', (s.rt.closeHandle closed = .ok rt' ∨ s.rt.closeConnection closed = .ok rt') →
      ∀ key handle, handle ≠ closed → s.rt.tcpFlowMap.lookup key = some handle →
        rt'.tcpFlowMap.lookup key = some handle) := by
  have hinv : Sound s ∧ s.rt.FlowsExact := by
    refine Run.Reaches.invariant (I := fun s => Sound s ∧ s.rt.FlowsExact)
      (fun s l t ⟨hs, hi⟩ hg hst => ?_) hr ⟨init_sound params, Index.Inverse.empty⟩
    exact ⟨step_sound hS hs hst, step_flowsExact hS hs hg hi hst⟩
  obtain ⟨-, hi⟩ := hinv
  refine ⟨fun key handle => (hi key handle).trans RuntimeState.flowKeyAt_eq_some, ?_, ?_⟩
  · intro packet key handle st hkey hl hk
    rw [RuntimeState.classifyIncomingTcpHandle, hkey, Option.bind_some]
    exact (hi key handle).mpr (RuntimeState.flowKeyAt_eq_some.mpr ⟨st, hl, hk⟩)
  · rintro closed rt' (hc | hc) key handle hne hm
    · exact RuntimeState.closeHandle_keeps hi hc hne hm
    · exact RuntimeState.closeConnection_keeps hc hne hm

def webFlow (localPort : UInt16) : TcpFlowKey :=
  ⟨localPort, .ipv4 Script.remote, Script.remotePort⟩

def twoPorts : List Label :=
  Script.establish ++ Script.connect 50000 0 ++ [Script.refresh] ++ Script.connect 50001 1

theorem flow_map_exact_two_ports :
    ∃ s : Script.Reached, s.rt.tcpFlowMap.lookup (webFlow 50000) = some 0 ∧
      s.rt.tcpFlowMap.lookup (webFlow 50001) = some 1 := by
  have hg : Run.Guarded (step Script.hickory) opensFreshKey (init Reference.smoltcp Script.params)
      twoPorts := by decide +kernel
  have h : (Script.run twoPorts).any (fun s =>
      s.rt.flowKeyAt 0 = some (webFlow 50000) ∧ s.rt.flowKeyAt 1 = some (webFlow 50001)) = true := by
    decide +kernel
  obtain ⟨s, hs, hp⟩ := Script.exists_guarded hg h
  obtain ⟨hfirst, hsecond⟩ := of_decide_eq_true hp
  have hexact := (flow_map_exact Reference.keepsSockets hs).1
  exact ⟨s, (hexact _ _).mpr (RuntimeState.flowKeyAt_eq_some.mp hfirst),
    (hexact _ _).mpr (RuntimeState.flowKeyAt_eq_some.mp hsecond)⟩

def onePort : List Label :=
  Script.establish ++ Script.established 50000 0 ++ Script.connect 50000 1 ++ [Script.refresh]

def oneReset : List Label :=
  Script.timerPoll ++ Script.sweepAndSend ++
    Script.receive (Script.segment 50000 (Reference.tcpRst + Reference.tcpAck) []) ++
    [.manager .advance, .manager .advance, Script.refresh] ++ Script.timerPoll ++
    Script.sweepAndSend

-- The second connection's entry replaces the first's, and when the first one is closed the second
-- one's entry goes with it.
theorem flow_map_not_exact :
    (∃ s : Script.Reached, Reachable Script.hickory Script.params s ∧
      s.rt.flowKeyAt 0 = some (webFlow 50000) ∧
      s.rt.tcpFlowMap.lookup (webFlow 50000) = some 1) ∧
    ∃ s : Script.Reached, Reachable Script.hickory Script.params s ∧
      s.rt.flowKeyAt 0 = none ∧ s.rt.flowKeyAt 1 = some (webFlow 50000) ∧
      s.rt.tcpFlowMap.lookup (webFlow 50000) = none := by
  constructor
  · have h : (Script.run onePort).any (fun s => s.rt.flowKeyAt 0 = some (webFlow 50000) ∧
        s.rt.tcpFlowMap.lookup (webFlow 50000) = some 1) = true := by decide +kernel
    obtain ⟨s, hs, hp⟩ := Script.exists_reachable h
    exact ⟨s, hs, of_decide_eq_true hp⟩
  · have h : (Script.run (onePort ++ oneReset)).any (fun s => s.rt.flowKeyAt 0 = none ∧
        s.rt.flowKeyAt 1 = some (webFlow 50000) ∧
        s.rt.tcpFlowMap.lookup (webFlow 50000) = none) = true := by decide +kernel
    obtain ⟨s, hs, hp⟩ := Script.exists_reachable h
    exact ⟨s, hs, of_decide_eq_true hp⟩

end System

end Usque
