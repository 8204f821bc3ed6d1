import Usque.Manager.Runs

namespace Usque

open Ownership (Turns)

variable {S : Smoltcp} {R : Rules S} {a b rt rt' : RuntimeState S}

-- A connection x owned the slot at some moment of the chain that ends in `rt`.
def Since (R : Rules S) (rt : RuntimeState S) (handle : SocketHandle) (x : StreamId) : Prop :=
  ∃ rt₀, Consistent rt₀ ∧ Effects R rt₀ rt ∧ rt₀.owner handle = some x

theorem Since.now (hc : Consistent rt) {handle : SocketHandle} {x : StreamId}
    (h : rt.owner handle = some x) : Since R rt handle x := ⟨rt, hc, .refl, h⟩

theorem Since.tail {handle : SocketHandle} {x : StreamId} (h : Since R rt handle x)
    (he : Effect R rt rt') : Since R rt' handle x := by
  obtain ⟨rt₀, hc, hs, ho⟩ := h
  exact ⟨rt₀, hc, hs.tail he, ho⟩

theorem owner_eq_some {handle : SocketHandle} {x : StreamId} :
    rt.owner handle = some x ↔ ∃ st, rt.sockets.lookup handle = some st ∧ st.stream = x :=
  Option.map_eq_some_iff

theorem owner_of_lookup {handle : SocketHandle} {st : SocketState}
    (h : rt.sockets.lookup handle = some st) : rt.owner handle = some st.stream :=
  owner_eq_some.mpr ⟨st, h, rfl⟩

theorem owner_eq_none {handle : SocketHandle} :
    rt.owner handle = none ↔ rt.sockets.lookup handle = none := Option.map_eq_none_iff

theorem Slotted.owner_kindAt (hs : Slotted rt) (handle : SocketHandle) :
    rt.owner handle ≠ none ↔ rt.stack.kindAt handle = some .tcp := by
  rw [← hs.entry]
  exact not_congr owner_eq_none

theorem sameLinks.owner (h : sameLinks rt.sockets rt'.sockets) (handle : SocketHandle) :
    rt'.owner handle = rt.owner handle := by
  have hl := congrArg (Option.map Prod.fst) (h handle)
  rwa [Option.map_map, Option.map_map] at hl

-- What a chain of effects from `a` has put into `b` that names a slot, and where it came from.
structure Traced (R : Rules S) (a b : RuntimeState S) : Prop where
  next : a.shared.nextStream ≤ b.shared.nextStream
  link : ∀ x < a.shared.nextStream, (b.stream x).handle = (a.stream x).handle
  born : ∀ x, a.shared.nextStream ≤ x → x < b.shared.nextStream → Since R b (b.stream x).handle x
  events : ∀ e ∈ b.socketEvents, e ∈ a.socketEvents ∨
    (R.client e.source ∧ (a.stream e.source).handle = e.handle) ∨ Since R b e.handle e.source
  ready : ∀ h ∈ b.readyTcpHandles, h ∈ a.readyTcpHandles ∨
    (∃ e ∈ a.socketEvents, e.handle = h) ∨ (∃ x, R.client x ∧ (a.stream x).handle = h) ∨
    ∃ x, Since R b h x

theorem Traced.refl (R : Rules S) (rt : RuntimeState S) : Traced R rt rt where
  next := Nat.le_refl _
  link := fun _ _ => rfl
  born := fun _ hle hlt => absurd hlt (Nat.not_lt.mpr hle)
  events := fun _ he => .inl he
  ready := fun _ hh => .inl hh

-- What one effect may add.
structure Adds (R : Rules S) (a b : RuntimeState S) : Prop where
  next : a.shared.nextStream ≤ b.shared.nextStream
  link : ∀ x < a.shared.nextStream, (b.stream x).handle = (a.stream x).handle
  born : ∀ x, a.shared.nextStream ≤ x → x < b.shared.nextStream →
    b.owner (b.stream x).handle = some x
  events : ∀ e ∈ b.socketEvents, e ∈ a.socketEvents ∨
    (R.client e.source ∧ (a.stream e.source).handle = e.handle) ∨
    b.owner e.handle = some e.source
  ready : ∀ h ∈ b.readyTcpHandles, h ∈ a.readyTcpHandles ∨
    (∃ e ∈ a.socketEvents, e.handle = h) ∨ b.owner h ≠ none

theorem Traced.tail (hcl : ∀ x, R.client x → x < a.shared.nextStream) (ht : Traced R a b)
    (he : Effect R b rt) (hc : Consistent rt) (h : Adds R b rt) : Traced R a rt := by
  have hlink : ∀ x < a.shared.nextStream, (rt.stream x).handle = (a.stream x).handle :=
    fun x hx => (h.link x (Nat.lt_of_lt_of_le hx ht.next)).trans (ht.link x hx)
  have hold : ∀ e ∈ b.socketEvents, e ∈ a.socketEvents ∨
      (R.client e.source ∧ (a.stream e.source).handle = e.handle) ∨
      Since R rt e.handle e.source := by
    intro e hm
    rcases ht.events e hm with h' | h' | h'
    · exact .inl h'
    · exact .inr (.inl h')
    · exact .inr (.inr (h'.tail he))
  refine ⟨ht.next.trans h.next, hlink, fun x hle hlt => ?_, fun e hm => ?_, fun i hm => ?_⟩
  · rcases Nat.lt_or_ge x b.shared.nextStream with hb | hb
    · rw [h.link x hb]
      exact (ht.born x hle hb).tail he
    · exact .now hc (h.born x hb hlt)
  · rcases h.events e hm with h' | ⟨hr, hh⟩ | h'
    · exact hold e h'
    · exact .inr (.inl ⟨hr, (ht.link _ (hcl _ hr)).symm.trans hh⟩)
    · exact .inr (.inr (.now hc h'))
  · rcases h.ready i hm with h' | ⟨e, hm', rfl⟩ | h'
    · rcases ht.ready i h' with h' | h' | h' | ⟨x, h'⟩
      · exact .inl h'
      · exact .inr (.inl h')
      · exact .inr (.inr (.inl h'))
      · exact .inr (.inr (.inr ⟨x, h'.tail he⟩))
    · rcases hold e hm' with h' | ⟨hr, hh⟩ | h'
      · exact .inr (.inl ⟨e, h', rfl⟩)
      · exact .inr (.inr (.inl ⟨e.source, hr, hh⟩))
      · exact .inr (.inr (.inr ⟨e.source, h'⟩))
    · obtain ⟨x, hx⟩ := Option.ne_none_iff_exists'.mp h'
      exact .inr (.inr (.inr ⟨x, .now hc hx⟩))

namespace Adds

theorem quiet (hx : SameStreams a b) (hev : ∀ e ∈ b.socketEvents, e ∈ a.socketEvents ∨
      (R.client e.source ∧ (a.stream e.source).handle = e.handle) ∨
      b.owner e.handle = some e.source)
    (hr : ∀ h ∈ b.readyTcpHandles, h ∈ a.readyTcpHandles ∨
      (∃ e ∈ a.socketEvents, e.handle = h) ∨ b.owner h ≠ none) : Adds R a b where
  next := Nat.le_of_eq hx.nextStream.symm
  link := fun x _ => (hx.link x).1
  born := fun _ hle hlt => absurd (hx.nextStream ▸ hlt) (Nat.not_lt.mpr hle)
  events := hev
  ready := hr

theorem still (hx : SameStreams a b) (hev : b.socketEvents = a.socketEvents)
    (hr : b.readyTcpHandles = a.readyTcpHandles) : Adds R a b :=
  quiet hx (fun _ he => .inl (hev ▸ he)) (fun _ hh => .inl (hr ▸ hh))

end Adds

theorem mem_enqueueReady {handle i : SocketHandle}
    (h : i ∈ (rt.enqueueReadyTcpHandle handle).readyTcpHandles) :
    i ∈ rt.readyTcpHandles ∨ i = handle := by
  simp only [RuntimeState.enqueueReadyTcpHandle] at h
  split at h
  · exact .inl h
  · exact (List.mem_append.mp h).imp id List.mem_singleton.mp

theorem enqueueReady_sameStreams (rt : RuntimeState S) (handle : SocketHandle) :
    SameStreams rt (rt.enqueueReadyTcpHandle handle) ∧
      (rt.enqueueReadyTcpHandle handle).socketEvents = rt.socketEvents ∧
      (rt.enqueueReadyTcpHandle handle).sockets = rt.sockets := by
  simp only [RuntimeState.enqueueReadyTcpHandle]
  split
  · exact ⟨.refl rt, rfl, rfl⟩
  · exact ⟨⟨rfl, rfl, fun _ => .refl _, fun _ he => .inl he⟩, rfl, rfl⟩

section effect

open RuntimeState

theorem Aside.sameStreams {P : Policy} (h : Aside P a b) : SameStreams a b where
  session := h.session
  nextStream := h.nextStream
  link := fun x => by
    rw [h.stream]
    exact .refl _
  events := fun _ he => .inl (h.events ▸ he)

theorem insertConnection_adds (a : RuntimeState S) (stack : NetworkStack S)
    (handle : SocketHandle) (flowKey : TcpFlowKey) (reservedSlot : Bool) :
    Adds R a ({ a with stack }.insertConnection handle flowKey reservedSlot).2 := by
  have hfin : ∀ rt : RuntimeState S, (rt.finishReserved reservedSlot).socketEvents =
      rt.socketEvents ∧ (rt.finishReserved reservedSlot).readyTcpHandles = rt.readyTcpHandles ∧
      ∀ x, (rt.finishReserved reservedSlot).stream x = rt.stream x := by
    intro rt
    simp only [finishReserved]
    split <;> exact ⟨rfl, rfl, fun _ => rfl⟩
  have hnext := insertConnection_nextStream { a with stack } handle flowKey reservedSlot
  have hown := insertConnection_owner { a with stack } handle flowKey reservedSlot
  refine ⟨by rw [hnext]; exact Nat.le_succ _, fun x hx => ?_, fun x hle hlt => ?_, fun e he => ?_,
    fun i hi => ?_⟩
  · rw [insertConnection_eq, (hfin _).2.2]
    exact congrArg SocketStreamHandle.handle (stream_withConnection_lt { a with stack } _ _ hx)
  · rw [hnext] at hlt
    have hx : x = a.shared.nextStream := Nat.le_antisymm (Nat.lt_succ_iff.mp hlt) hle
    rw [hx]
    exact hown
  · rw [insertConnection_eq, (hfin _).1] at he
    exact .inl he
  · rw [insertConnection_eq, (hfin _).2.1] at hi
    exact .inl hi

theorem putStream_events {x : StreamId} {n : SocketStreamHandle.Notified} {e : SocketEvent}
    (h : e ∈ (rt.putStream x n).socketEvents) :
    e ∈ rt.socketEvents ∨ (e.source = x ∧ e.handle = n.1.handle) := by
  rw [putStream_eq] at h
  refine (List.mem_append.mp h).imp id (fun he => ?_)
  split_ifs at he
  · obtain ⟨kind, _, rfl⟩ := List.mem_map.mp he
    exact ⟨rfl, rfl⟩
  · cases he

theorem closeConnection_adds (hc : Consistent rt) {handle : SocketHandle} {st : SocketState}
    (hl : rt.sockets.lookup handle = some st) (h : rt.closeConnection handle = .ok rt') :
    Adds R rt rt' := by
  obtain ⟨replies, he⟩ := closeConnection_eq hl
  rw [he] at h
  cases h
  have hx := putStream_sameStreams (hc.tracked.born handle st hl)
    (closingStream_link (rt.stream st.stream))
  refine .quiet ⟨hx.session, hx.nextStream, hx.link, hx.events⟩ (fun e hm => ?_) (fun i hi => ?_)
  · rcases putStream_events hm with hm | ⟨hsrc, hh⟩
    · exact .inl hm
    · have hhandle : e.handle = handle := hh.trans
        ((closingStream_link (rt.stream st.stream)).1.trans (hc.tracked.handle handle st hl))
      rw [hhandle, hsrc]
      exact .inr (.inr (owner_eq_some.mpr ⟨_, AList.lookup_insert _, rfl⟩))
  · rw [putStream_eq] at hi
    exact .inl hi

theorem handleSocketEvent_adds {e : SocketEvent} {es : List SocketEvent}
    (h : rt.socketEvents = e :: es) :
    Adds R rt ({ rt with socketEvents := es }.handleSocketEvent e) := by
  have hpop : SameStreams rt { rt with socketEvents := es } :=
    ⟨rfl, rfl, fun _ => .refl _, fun _ he => .inl (h ▸ List.mem_cons_of_mem _ he)⟩
  have hnoted : ∃ sockets counters, { rt with socketEvents := es }.handleSocketEvent e =
      ({ rt with socketEvents := es, sockets, counters } : RuntimeState S).enqueueReadyTcpHandle
        e.handle := by
    cases hl : rt.sockets.lookup e.handle with
    | none => exact ⟨_, _, handleSocketEvent_none { rt with socketEvents := es } hl⟩
    | some st => exact ⟨_, _, handleSocketEvent_some { rt with socketEvents := es } hl⟩
  obtain ⟨sockets, counters, he⟩ := hnoted
  rw [he]
  obtain ⟨hx, hev, _⟩ := enqueueReady_sameStreams
    ({ rt with socketEvents := es, sockets, counters } : RuntimeState S) e.handle
  refine .quiet (hpop.trans ⟨hx.session, hx.nextStream, hx.link, hx.events⟩) (fun f hf => ?_)
    (fun i hi => ?_)
  · rw [hev] at hf
    exact .inl (h ▸ List.mem_cons_of_mem _ hf)
  · rcases mem_enqueueReady hi with hi | rfl
    · exact .inl hi
    · exact .inr (.inl ⟨e, by rw [h]; exact List.mem_cons_self .., rfl⟩)

theorem noteIncoming_adds (hc : Consistent rt) (packet : Packet) :
    Adds R rt (rt.noteIncomingTcpHandle packet) := by
  simp only [noteIncomingTcpHandle]
  split
  · exact .still (.refl rt) rfl rfl
  · next handle hcl =>
      obtain ⟨key, _, hf⟩ := Option.bind_eq_some_iff.mp hcl
      obtain ⟨st, hst, _⟩ := hc.tracked.flow key handle hf
      simp only [markReadyTcpHandle]
      generalize hm : ({ rt with
          sockets := Table.modify handle
            (fun st => { st with pendingEvents := st.pendingEvents.union ⟨true, true, false⟩ })
            rt.sockets } : RuntimeState S) = marked
      have hx : SameStreams rt marked := by
        rw [← hm]
        exact ⟨rfl, rfl, fun _ => .refl _, fun _ he => .inl he⟩
      have hown : marked.owner handle ≠ none := by
        rw [← hm]
        refine mt owner_eq_none.mp ?_
        show (Table.modify handle _ rt.sockets).lookup handle ≠ none
        rw [Table.lookup_modify, if_pos rfl, hst]
        exact Option.some_ne_none _
      have hready : marked.readyTcpHandles = rt.readyTcpHandles := by rw [← hm]
      have hevents : marked.socketEvents = rt.socketEvents := by rw [← hm]
      obtain ⟨hx', hev, hso⟩ := enqueueReady_sameStreams marked handle
      refine .quiet (hx.trans hx') (fun e he => .inl (by rwa [hev, hevents] at he))
        (fun i hi => ?_)
      rcases mem_enqueueReady hi with hi | rfl
      · exact .inl (hready ▸ hi)
      · refine .inr (.inr ?_)
        rwa [owner, hso]

theorem injectIncoming_adds (hc : Consistent rt) {packet : Packet}
    (h : rt.injectIncoming packet = .ok rt') : Adds R rt rt' := by
  obtain ⟨stack, _, h⟩ := Outcome.bind_eq_ok.mp h
  cases h
  have ha := noteIncoming_adds (R := R) hc packet
  exact ⟨ha.next, ha.link, ha.born, ha.events, ha.ready⟩

theorem selectHandles_adds (rt : RuntimeState S) (fullSweep : Bool) :
    Adds R rt (rt.selectHandles fullSweep).2 := by
  cases fullSweep with
  | true =>
      exact .quiet ⟨rfl, rfl, fun _ => .refl _, fun _ he => .inl he⟩ (fun _ he => .inl he)
        (fun _ hi => by cases hi)
  | false =>
      exact .quiet ⟨rfl, rfl, fun _ => .refl _, fun _ he => .inl he⟩ (fun _ he => .inl he)
        (fun _ hi => .inl (List.mem_of_mem_drop hi))

theorem serviceSocket_adds {fullSweep : Bool} {handle : SocketHandle} {st : SocketState}
    (h : rt.serviceSocket fullSweep handle st = .ok rt') : Adds R rt rt' := by
  obtain ⟨v, hv, rfl⟩ := serviceSocket_ok h
  have hx := setStream_sameStreams rt (Service.run_frame hv).link
  exact .still ⟨hx.session, hx.nextStream, hx.link, hx.events⟩ rfl rfl

theorem putStream_adds {x : StreamId} {n : SocketStreamHandle.Notified}
    (hx : x < rt.shared.nextStream) (hr : R.client x ∨ rt.owner (rt.stream x).handle = some x)
    (hn : (rt.stream x).SameLink n.1) : Adds R rt (rt.putStream x n) := by
  refine .quiet (putStream_sameStreams hx hn) (fun e he => ?_) (fun i hi => ?_)
  · rcases putStream_events he with he | ⟨hsrc, hh⟩
    · exact .inl he
    · rw [hn.1] at hh
      rw [hsrc, hh]
      rcases hr with hr | hr
      · exact .inr (.inl ⟨hr, rfl⟩)
      · refine .inr (.inr ?_)
        rw [putStream_eq]
        exact hr
  · rw [putStream_eq] at hi
    exact .inl hi

theorem Effect.adds (h : Effect R rt rt') (hc : Consistent rt) : Adds R rt rt' := by
  cases h with
  | aside h => exact .still h.aside.sameStreams h.aside.events h.aside.readyHandles
  | openTcp reservedSlot _ _ h => exact insertConnection_adds rt _ _ _ _
  | requestClose hl h => exact closeConnection_adds hc hl h
  | waiters hl _ =>
      exact .still ⟨rfl, rfl, fun _ => .refl _, fun _ he => .inl he⟩ rfl rfl
  | event h => exact handleSocketEvent_adds h
  | incoming h => exact injectIncoming_adds hc h
  | poll _ h => exact .still ⟨rfl, rfl, fun _ => .refl _, fun _ he => .inl he⟩ rfl rfl
  | egress h => exact .still ⟨rfl, rfl, fun _ => .refl _, fun _ he => .inl he⟩ rfl rfl
  | select _ fullSweep => exact selectHandles_adds rt fullSweep
  | service _ fullSweep hl h => exact serviceSocket_adds h
  | release _ _ hk h =>
      have hr := retire_retired hc h
      refine .quiet hr.streams (fun e he => .inl ?_) (fun i hi => ?_)
      · rwa [hr.events] at he
      · rw [hr.ready] at hi
        exact .inl (List.mem_of_mem_filter hi)
  | client hx hr h => exact putStream_adds hx hr h.link
  | reset _ params mtu session shared hs hx hn =>
      exact ⟨Nat.le_of_eq hn.symm,
        fun x _ => congrArg (fun f => (f x).handle) hx,
        fun x hle hlt => absurd (hn ▸ hlt) (Nat.not_lt.mpr hle),
        (fun _ he => by cases he), (fun _ hi => by cases hi)⟩

structure SlotSteps (R : Rules S) (rt rt' : RuntimeState S) : Prop where
  udps : ∀ i, Turns (R.udp i) R.free (rt.stack.udpAt i) (rt'.stack.udpAt i)
  owners : ∀ i, Turns (R.tcp i) R.free (rt.owner i) (rt'.owner i)

namespace SlotSteps

theorem refl (R : Rules S) (rt : RuntimeState S) : SlotSteps R rt rt :=
  ⟨fun _ => .refl _ _ _, fun _ => .refl _ _ _⟩

theorem trans (h : SlotSteps R a b) (k : SlotSteps R b rt) : SlotSteps R a rt :=
  ⟨fun i => (h.udps i).trans (k.udps i), fun i => (h.owners i).trans (k.owners i)⟩

theorem steady (hk : NetworkStack.Keeps rt.stack rt'.stack)
    (hl : sameLinks rt.sockets rt'.sockets) : SlotSteps R rt rt' :=
  ⟨hk.udps, fun i => .inl (hl.owner i)⟩

theorem freed (hf : R.free) {handle : SocketHandle}
    (hr : NetworkStack.Frees rt.stack rt'.stack handle)
    (ho : ∀ i, rt'.owner i = if i = handle then none else rt.owner i) : SlotSteps R rt rt' := by
  refine ⟨hr.udps hf, fun i => ?_⟩
  by_cases hi : i = handle
  · exact .freed hf (by rw [ho, if_pos hi])
  · exact .inl (by rw [ho, if_neg hi])

end SlotSteps

theorem enqueueReady_slotSteps (h : SlotSteps R a b) (handle : SocketHandle) :
    SlotSteps R a (b.enqueueReadyTcpHandle handle) := by
  simp only [enqueueReadyTcpHandle]
  split
  · exact h
  · exact ⟨h.udps, h.owners⟩

theorem insertConnection_slotSteps (hs : Slotted rt) {stack : NetworkStack S}
    {handle : SocketHandle} (hf : R.tcp handle) (ho : NetworkStack.Opens rt.stack stack handle .tcp)
    (flowKey : TcpFlowKey) (reservedSlot : Bool) :
    SlotSteps R rt ({ rt with stack }.insertConnection handle flowKey reservedSlot).2 := by
  have hfin : ∀ b : RuntimeState S, SlotSteps R rt b →
      SlotSteps R rt (b.finishReserved reservedSlot) := by
    intro b hb
    simp only [finishReserved]
    split
    · exact ⟨hb.udps, hb.owners⟩
    · exact hb
  rw [insertConnection_eq]
  refine hfin _ ⟨fun i => .inl (ho.udpAt_tcp i), fun i => ?_⟩
  have hl := lookup_withConnection { rt with stack } handle flowKey i
  by_cases hi : i = handle
  · exact .filled (hi ▸ hf) (owner_eq_none.mpr (hi ▸ lookup_opens hs ho))
  · rw [if_neg hi] at hl
    exact .inl (congrArg (Option.map SocketState.stream) hl)

theorem handleSocketEvent_slotSteps (h : SlotSteps R a b) (e : SocketEvent) :
    SlotSteps R a (b.handleSocketEvent e) := by
  refine h.trans ?_
  cases hl : b.sockets.lookup e.handle with
  | none =>
      rw [handleSocketEvent_none _ hl]
      exact enqueueReady_slotSteps (.refl R b) _
  | some st =>
      rw [handleSocketEvent_some _ hl]
      have hlink := (sync_link (noteEvent e.kind st) (b.stream st.stream) b.counters).trans
        (noteEvent_link e.kind st)
      refine enqueueReady_slotSteps ?_ _
      exact .steady (.refl _) (.insert hl hlink)

theorem injectIncoming_slotSteps {packet : Packet} (h : rt.injectIncoming packet = .ok rt') :
    SlotSteps R rt rt' := by
  obtain ⟨stack, hi, h⟩ := Outcome.bind_eq_ok.mp h
  cases h
  have hk := NetworkStack.injectPacketOwned_keeps hi
  have hnote : SlotSteps R rt (rt.noteIncomingTcpHandle packet) := by
    simp only [noteIncomingTcpHandle]
    split
    · exact .refl R rt
    · next handle _ =>
        have hl := sameLinks.modify handle
          (f := fun st => { st with pendingEvents := st.pendingEvents.union ⟨true, true, false⟩ })
          (fun _ => rfl) rt.sockets
        refine enqueueReady_slotSteps ?_ _
        exact .steady (.refl _) hl
  exact hnote.trans (.steady hk (.refl _))

variable (hS : S.KeepsSockets)

include hS in
theorem Effect.slotSteps (h : Effect R rt rt') (hc : Consistent rt) : SlotSteps R rt rt' := by
  cases h with
  | aside h =>
      refine ⟨h.aside.stack.udps, fun i => .inl ?_⟩
      rw [owner, h.aside.sockets]
      rfl
  | openTcp reservedSlot hf _ h => exact insertConnection_slotSteps hc.slotted hf (open?_opens h) _ _
  | @requestClose _ _ st hl h =>
      obtain ⟨replies, he⟩ := closeConnection_eq hl
      rw [he] at h
      cases h
      have hlink := (sync_link (closingEntry st) (closingStream (rt.stream st.stream)).1
        rt.counters).trans (closingEntry_link st)
      refine .steady ?_ (.insert hl hlink)
      rw [putStream_eq]
      exact .refl _
  | @waiters _ st waiters hl _ =>
      have hlink : ({ st with readyWaiters := waiters } : SocketState).link = st.link := rfl
      exact .steady (.refl _) (.insert hl hlink)
  | @event e es h =>
      have hpop : SlotSteps R rt { rt with socketEvents := es } := .steady (.refl _) (.refl _)
      exact handleSocketEvent_slotSteps hpop e
  | incoming h => exact injectIncoming_slotSteps h
  | poll _ h => exact .steady (NetworkStack.pollBounded_keeps hS h) (.refl _)
  | egress h => exact .steady (NetworkStack.pollEgress_keeps hS h) (.refl _)
  | select _ fullSweep => cases fullSweep <;> exact .steady (.refl _) (.refl _)
  | service _ fullSweep hl h =>
      obtain ⟨v, hv, rfl⟩ := serviceSocket_ok h
      have hf := Service.run_frame hv
      exact .steady hf.touches.keeps (.insert hl (Prod.ext hf.task.1 hf.task.2.1))
  | release _ hf hk h =>
      have hr := retire_retired hc h
      refine .freed hf hr.frees (fun i => ?_)
      rw [owner, hr.lookup]
      split_ifs <;> rfl
  | client hx _ h =>
      rw [putStream_eq]
      exact .steady (.refl _) (.refl _)
  | reset hf params mtu session shared hs hx hn =>
      exact ⟨fun _ => .freed hf rfl, fun _ => .freed hf rfl⟩

include hS in
theorem Effects.slotSteps (h : Effects R rt rt') (hc : Consistent rt) : SlotSteps R rt rt' :=
  (h.invariant (I := fun b => SlotSteps R rt b) hS
    (fun _ _ hb hi he => hi.trans (he.slotSteps hS hb)) hc (.refl R rt)).2

include hS in
theorem Effects.traced (hcl : ∀ x, R.client x → x < rt.shared.nextStream) (h : Effects R rt rt')
    (hc : Consistent rt) : Traced R rt rt' :=
  (h.invariant (I := fun b => Traced R rt b) hS
    (fun _ _ hb hi he => hi.tail hcl he (he.consistent hS hb) (he.adds hb)) hc (.refl R rt)).2

end effect

end Usque
