import Usque.Manager.Traced

namespace Usque

section waits

variable {S : Smoltcp} {R : Rules S} {a b rt rt' : RuntimeState S}

open RuntimeState

-- Who waits in b at an entry waited there in a, or began to as the rules allow.
def Waits (R : Rules S) (a b : RuntimeState S) : Prop :=
  ∀ i st', b.sockets.lookup i = some st' → ∀ r ∈ st'.readyWaiters,
    (∃ st, a.sockets.lookup i = some st ∧ st.stream = st'.stream ∧ r ∈ st.readyWaiters) ∨
      R.wait st'.stream r

namespace Waits

theorem same (h : b.sockets = a.sockets) : Waits R a b :=
  fun _ st' hl _ hr => .inl ⟨st', h ▸ hl, rfl, hr⟩

theorem trans (h : Waits R a b) (k : Waits R b rt) : Waits R a rt := by
  intro i st'' hl'' r hr''
  rcases k i st'' hl'' r hr'' with ⟨st', hl', hx, hr'⟩ | hw
  · rcases h i st' hl' r hr' with ⟨st, hl, hx', hr⟩ | hw
    · exact .inl ⟨st, hl, hx'.trans hx, hr⟩
    · exact .inr (hx ▸ hw)
  · exact .inr hw

theorem insert {handle : SocketHandle} {st st' : SocketState}
    (hl : a.sockets.lookup handle = some st)
    (hb : b.sockets = AList.insert handle st' a.sockets) (hx : st'.stream = st.stream)
    (hw : ∀ r ∈ st'.readyWaiters, r ∈ st.readyWaiters ∨ R.wait st.stream r) : Waits R a b := by
  intro i u hu r hr
  rw [hb, Table.lookup_insert] at hu
  split_ifs at hu with hi
  · cases hu
    rcases hw r hr with hr | hr
    · exact .inl ⟨st, hi ▸ hl, hx.symm, hr⟩
    · exact .inr (hx ▸ hr)
  · exact .inl ⟨u, hu, rfl, hr⟩

end Waits

theorem handleSocketEvent_waits (rt : RuntimeState S) (e : SocketEvent) :
    Waits R rt (rt.handleSocketEvent e) := by
  have hready : ∀ b : RuntimeState S, (b.enqueueReadyTcpHandle e.handle).sockets = b.sockets :=
    fun b => (enqueueReady_sameStreams b e.handle).2.2
  cases hl : rt.sockets.lookup e.handle with
  | none =>
      rw [handleSocketEvent_none _ hl]
      exact .same (hready rt)
  | some st =>
      rw [handleSocketEvent_some _ hl]
      refine Waits.trans ?_ (.same (hready _))
      exact .insert hl rfl rfl (fun _ hr => .inl hr)

theorem injectIncoming_waits {packet : Packet} (h : rt.injectIncoming packet = .ok rt') :
    Waits R rt rt' := by
  obtain ⟨stack, _, h⟩ := Outcome.bind_eq_ok.mp h
  cases h
  have hnote : Waits R rt (rt.noteIncomingTcpHandle packet) := by
    simp only [noteIncomingTcpHandle, markReadyTcpHandle]
    split
    · exact .same rfl
    · next handle _ =>
        refine Waits.trans ?_ (.same (enqueueReady_sameStreams _ handle).2.2)
        cases hl : rt.sockets.lookup handle with
        | none => exact .same (Table.modify_none hl _)
        | some st => exact .insert hl (Table.modify_some hl _) rfl (fun _ hr => .inl hr)
  exact hnote.trans (.same rfl)

theorem Effect.waits (h : Effect R rt rt') (hc : Consistent rt) : Waits R rt rt' := by
  cases h with
  | aside h => exact .same h.aside.sockets
  | @openTcp remoteIp remotePort localPort _ stack reservedSlot _ _ h =>
      intro i st' hl r hr
      have hl' : ({ rt with stack }.withConnection rt.stack.sockets.lowestFree
          ⟨localPort, remoteIp, remotePort⟩).sockets.lookup i = some st' := by
        rw [insertConnection_eq] at hl
        simp only [finishReserved] at hl
        split at hl <;> exact hl
      rw [lookup_withConnection] at hl'
      split_ifs at hl'
      · cases hl'
        cases hr
      · exact .inl ⟨st', hl', rfl, hr⟩
  | @requestClose _ _ st hl h =>
      obtain ⟨replies, he⟩ := closeConnection_eq hl
      rw [he] at h
      cases h
      exact .insert hl rfl rfl (fun _ hr => by cases hr)
  | waiters hl hw => exact .insert hl rfl rfl hw
  | @event e es h =>
      have hpop : Waits R rt { rt with socketEvents := es } := .same rfl
      exact hpop.trans (handleSocketEvent_waits _ e)
  | incoming h => exact injectIncoming_waits h
  | poll _ h => exact .same rfl
  | egress h => exact .same rfl
  | select _ fullSweep => cases fullSweep <;> exact .same rfl
  | service _ fullSweep hl h =>
      obtain ⟨v, hv, rfl⟩ := serviceSocket_ok h
      have ht := (Service.run_frame hv).task
      exact .insert hl rfl ht.1 (fun r hr => .inl (by rwa [ht.2.2] at hr))
  | release _ _ _ h =>
      intro i st' hl r hr
      exact .inl ⟨st', ((retire_retired hc h).lookup_some hl).2, rfl, hr⟩
  | client hx _ h =>
      rw [putStream_eq]
      exact .same rfl
  | reset _ params mtu session shared hs hx hn =>
      intro i st' hl
      cases hl

theorem Effects.waits (hS : S.KeepsSockets) (h : Effects R rt rt') (hc : Consistent rt) :
    Waits R rt rt' :=
  (h.invariant (I := fun b => Waits R rt b) hS (fun _ _ hb hi he => hi.trans (he.waits hb)) hc
    (.same rfl)).2

end waits

namespace RuntimeState

variable {S : Smoltcp} {P : Policy} {a b rt rt' : RuntimeState S} {x : StreamId}
  {handle : SocketHandle}

-- Nothing of a connection other than x differs in b from what it is in a.
structure Untouched (a : RuntimeState S) (x : StreamId) (b : RuntimeState S) : Prop where
  entry : ∀ i st, st.stream ≠ x →
    (b.sockets.lookup i = some st ↔ a.sockets.lookup i = some st)
  socket : ∀ i socket, b.stack.HasTcp i socket ↔ a.stack.HasTcp i socket
  ready : ∀ i st, a.sockets.lookup i = some st → st.stream ≠ x →
    (i ∈ b.readyTcpHandles ↔ i ∈ a.readyTcpHandles)
  handles : b.tcpHandles = a.tcpHandles
  flow : ∀ key, b.tcpFlowMap.lookup key = a.tcpFlowMap.lookup key
  stream : ∀ y, y ≠ x → b.stream y = a.stream y

theorem Untouched.refl (x : StreamId) (rt : RuntimeState S) : Untouched rt x rt :=
  ⟨fun _ _ _ => Iff.rfl, fun _ _ => Iff.rfl, fun _ _ _ _ => Iff.rfl, rfl, fun _ => rfl,
    fun _ _ => rfl⟩

theorem untouched_of_aside (h : Aside P a b) (x : StreamId) : Untouched a x b where
  entry := fun i st _ => by rw [h.sockets]
  socket := h.stack.tcp
  ready := fun i st _ _ => by rw [h.readyHandles]
  handles := h.handles
  flow := h.flows
  stream := fun y _ => h.stream y

-- A slot that x owns, or that no connection owns, holds the entry of no other connection.
theorem not_owned (ho : rt.owner handle = none ∨ rt.owner handle = some x) {i : SocketHandle}
    {st : SocketState} (hl : rt.sockets.lookup i = some st) (hne : st.stream ≠ x) :
    i ≠ handle := by
  rintro rfl
  rw [owner_of_lookup hl] at ho
  rcases ho with ho | ho
  · cases ho
  · exact hne (Option.some.inj ho)

theorem insert_entry {st st' : SocketState} (hl : rt.sockets.lookup handle = some st)
    (hst : st.stream = x) (hst' : st'.stream = x) (i : SocketHandle) (u : SocketState)
    (hne : u.stream ≠ x) :
    (AList.insert handle st' rt.sockets).lookup i = some u ↔ rt.sockets.lookup i = some u := by
  rw [Table.lookup_insert]
  split_ifs with hi
  · subst hi
    rw [hl]
    constructor
    · intro h
      cases h
      exact absurd hst' hne
    · intro h
      cases h
      exact absurd hst hne
  · rfl

theorem mem_reply {response : OneshotId} {value : Reply} {p : OneshotId × Reply}
    (h : p ∈ (rt.reply response value).shared.replies) :
    p ∈ rt.shared.replies ∨ p = (response, value) := by
  simp only [reply] at h
  split at h
  · exact .inl h
  · exact (List.mem_append.mp h).imp id List.mem_singleton.mp

theorem mem_replyAll {responses : List OneshotId} {value : Reply} {p : OneshotId × Reply}
    (h : p ∈ (rt.replyAll responses value).shared.replies) :
    p ∈ rt.shared.replies ∨ ∃ r ∈ responses, p = (r, value) := by
  induction responses generalizing rt with
  | nil => exact .inl h
  | cons response responses ih =>
      rcases @ih (rt.reply response value) h with h | ⟨r, hr, he⟩
      · rcases mem_reply h with h | rfl
        · exact .inl h
        · exact .inr ⟨response, List.mem_cons_self .., rfl⟩
      · exact .inr ⟨r, List.mem_cons_of_mem _ hr, he⟩

theorem closeConnection_untouched (hc : Consistent rt)
    (ho : rt.owner handle = none ∨ rt.owner handle = some x)
    (h : rt.closeConnection handle = .ok rt') : Untouched rt x rt' := by
  cases hl : rt.sockets.lookup handle with
  | none =>
      have hset := closeConnection_none_settled (R := Rules.any S) (fun _ _ => trivial) hc hl h
      exact untouched_of_aside hset.aside x
  | some st =>
      have hst : st.stream = x := by
        rw [owner_of_lookup hl] at ho
        exact Option.some.inj (ho.resolve_left (Option.some_ne_none _))
      obtain ⟨replies, he⟩ := closeConnection_eq hl
      rw [he] at h
      cases h
      refine ⟨insert_entry hl hst hst, ?_, fun _ _ _ _ => ?_, ?_, ?_, fun y hy => ?_⟩
      · rw [putStream_eq]
        exact fun _ _ => Iff.rfl
      · rw [putStream_eq]
        exact Iff.rfl
      · rw [putStream_eq]
        rfl
      · rw [putStream_eq]
        exact fun _ => rfl
      · show (rt.putStream st.stream _).stream y = rt.stream y
        rw [stream_putStream, if_neg (hst ▸ hy)]

theorem closeConnection_replies (h : rt.closeConnection handle = .ok rt')
    {p : OneshotId × Reply} (hp : p ∈ rt'.shared.replies) :
    p ∈ rt.shared.replies ∨ ∃ st, rt.sockets.lookup handle = some st ∧
      ∃ r ∈ st.readyWaiters, p = (r, .socketState .closed) := by
  cases hl : rt.sockets.lookup handle with
  | none =>
      simp only [closeConnection, hl] at h
      obtain ⟨stack, _, h⟩ := Outcome.bind_eq_ok.mp h
      obtain ⟨stack', _, h⟩ := Outcome.bind_eq_ok.mp h
      cases h
      exact .inl hp
  | some st =>
      simp only [closeConnection, hl] at h
      cases h
      have hsync : ∀ b : RuntimeState S,
          (b.syncSocketPollInterest handle).shared.replies = b.shared.replies := by
        intro b
        simp only [syncSocketPollInterest]
        split <;> rfl
      rw [hsync] at hp
      rcases mem_replyAll hp with hp | ⟨r, hr, he⟩
      · refine .inl ?_
        have hput : p ∈ (rt.putStream st.stream
            (closingStream (rt.stream st.stream))).shared.replies := hp
        rwa [putStream_eq] at hput
      · exact .inr ⟨st, rfl, r, hr, he⟩

theorem reply_untouched (rt : RuntimeState S) (response : OneshotId) (value : Reply)
    (x : StreamId) : Untouched rt x (rt.reply response value) := by
  rw [reply_eq]
  exact ⟨fun _ _ _ => Iff.rfl, fun _ _ => Iff.rfl, fun _ _ _ _ => Iff.rfl, rfl, fun _ => rfl,
    fun _ _ => rfl⟩

theorem setSocket_untouched {st st' : SocketState} (hl : rt.sockets.lookup handle = some st)
    (hst : st.stream = x) (hst' : st'.stream = x) : Untouched rt x (rt.setSocket handle st') :=
  ⟨insert_entry hl hst hst', fun _ _ => Iff.rfl, fun _ _ _ _ => Iff.rfl, rfl, fun _ => rfl,
    fun _ _ => rfl⟩

theorem enqueueReady_untouched (h : Untouched a x b)
    (ho : a.owner handle = none ∨ a.owner handle = some x) :
    Untouched a x (b.enqueueReadyTcpHandle handle) := by
  obtain ⟨hx, _, hso⟩ := enqueueReady_sameStreams b handle
  simp only [enqueueReadyTcpHandle]
  split
  · exact h
  · refine ⟨h.entry, h.socket, fun i st hl hne => ?_, h.handles, h.flow, h.stream⟩
    rw [← h.ready i st hl hne, List.mem_append, List.mem_singleton]
    exact or_iff_left (not_owned ho hl hne)

theorem handleSocketEvent_untouched {e : SocketEvent} {es : List SocketEvent}
    (ho : rt.owner e.handle = none ∨ rt.owner e.handle = some x) :
    Untouched rt x ({ rt with socketEvents := es }.handleSocketEvent e) := by
  have hpop : Untouched rt x { rt with socketEvents := es } :=
    ⟨fun _ _ _ => Iff.rfl, fun _ _ => Iff.rfl, fun _ _ _ _ => Iff.rfl, rfl, fun _ => rfl,
      fun _ _ => rfl⟩
  cases hl : rt.sockets.lookup e.handle with
  | none =>
      rw [handleSocketEvent_none { rt with socketEvents := es } hl]
      exact enqueueReady_untouched hpop ho
  | some st =>
      have hst : st.stream = x := by
        rw [owner_of_lookup hl] at ho
        exact Option.some.inj (ho.resolve_left (Option.some_ne_none _))
      rw [handleSocketEvent_some { rt with socketEvents := es } hl]
      exact enqueueReady_untouched ⟨insert_entry hl hst hst, fun _ _ => Iff.rfl,
        fun _ _ _ _ => Iff.rfl, rfl, fun _ => rfl, fun _ _ => rfl⟩ ho

theorem handleSocketEvent_shared (rt : RuntimeState S) (e : SocketEvent) :
    (rt.handleSocketEvent e).shared = rt.shared := by
  have hready : ∀ b : RuntimeState S, (b.enqueueReadyTcpHandle e.handle).shared = b.shared := by
    intro b
    simp only [enqueueReadyTcpHandle]
    split <;> rfl
  cases hl : rt.sockets.lookup e.handle with
  | none => rw [handleSocketEvent_none _ hl, hready]
  | some st => rw [handleSocketEvent_some _ hl, hready]

-- What notify_ready_waiters has gathered: answers to those who wait at an entry, with the
-- readiness of the entry's own socket.
structure Noted (rt : RuntimeState S) (acc : RuntimeState S × Notifications) : Prop where
  stack : acc.1.stack = rt.stack
  shared : acc.1.shared = rt.shared
  entries : ∀ i st', acc.1.sockets.lookup i = some st' →
    ∃ st, rt.sockets.lookup i = some st ∧ ∀ r ∈ st'.readyWaiters, r ∈ st.readyWaiters
  notes : ∀ n ∈ acc.2, ∃ i st, rt.sockets.lookup i = some st ∧
    (∀ r ∈ n.1, r ∈ st.readyWaiters) ∧ rt.stack.tcpReadiness i = .ok n.2

theorem takeReadyWaiters_noted {acc acc' : RuntimeState S × Notifications} (hn : Noted rt acc)
    (h : takeReadyWaiters acc handle = .ok acc') : Noted rt acc' := by
  rcases takeReadyWaiters_cases h with rfl | ⟨st', state, hl, hstate, rfl⟩
  · exact hn
  · obtain ⟨st, hst, hw⟩ := hn.entries handle st' hl
    refine ⟨hn.stack, hn.shared, fun i u hu => ?_, fun n hm => ?_⟩
    · have hu : (AList.insert handle { st' with readyWaiters := [] }
          acc.1.sockets).lookup i = some u := hu
      rw [Table.lookup_insert] at hu
      split_ifs at hu with hi
      · cases hu
        exact ⟨st, hi ▸ hst, fun _ hr => by cases hr⟩
      · exact hn.entries i u hu
    · rcases List.mem_append.mp hm with hm | hm
      · exact hn.notes n hm
      · rw [List.mem_singleton.mp hm]
        exact ⟨handle, st, hst, hw, hn.stack ▸ hstate⟩

theorem notifyReadyWaiters_replies (h : rt.notifyReadyWaiters = .ok rt') {p : OneshotId × Reply}
    (hp : p ∈ rt'.shared.replies) :
    p ∈ rt.shared.replies ∨ ∃ i st state, rt.sockets.lookup i = some st ∧
      p.1 ∈ st.readyWaiters ∧ rt.stack.tcpReadiness i = .ok state ∧
      p.2 = .socketState state := by
  obtain ⟨acc, hrun, h⟩ := Outcome.bind_eq_ok.mp h
  cases h
  have hn : Noted rt acc :=
    Outcome.run_invariant (P := Noted rt) (fun _ _ _ hn => takeReadyWaiters_noted hn) hrun
      ⟨rfl, rfl, fun i st hl => ⟨st, hl, fun _ hr => hr⟩, fun _ hm => by cases hm⟩
  have hfold : ∀ (notes : Notifications) (b : RuntimeState S),
      p ∈ (notes.foldl (fun rt n => rt.replyAll n.1 (.socketState n.2)) b).shared.replies →
      p ∈ b.shared.replies ∨ ∃ n ∈ notes, ∃ r ∈ n.1, p = (r, .socketState n.2) := by
    intro notes
    induction notes with
    | nil => exact fun _ hp => .inl hp
    | cons n notes ih =>
        intro b hp
        rcases ih _ hp with hp | ⟨m, hm, hr⟩
        · exact (mem_replyAll hp).imp id (fun hr => ⟨n, List.mem_cons_self .., hr⟩)
        · exact .inr ⟨m, List.mem_cons_of_mem _ hm, hr⟩
  rcases hfold acc.2 acc.1 hp with hp | ⟨n, hm, r, hr, rfl⟩
  · rw [hn.shared] at hp
    exact .inl hp
  · obtain ⟨i, st, hl, hw, hstate⟩ := hn.notes n hm
    exact .inr ⟨i, st, n.2, hl, hw r hr, hstate, rfl⟩

end RuntimeState

end Usque
