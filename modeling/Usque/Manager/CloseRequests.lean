import Usque.Manager.UdpFamilies
import Usque.Manager.Traced
import Usque.Manager.Script

namespace Usque

-- Writing to a socket does not move its state.
def Smoltcp.SendKeepsState (S : Smoltcp) : Prop :=
  ∀ s data, S.tcpMaySend (S.tcpSendSlice s data).2 = S.tcpMaySend s

namespace NetworkStack

variable {S : Smoltcp} {st st' : NetworkStack S} {handle : SocketHandle}

theorem tcpSend_maySend (hM : S.SendKeepsState) {data : List UInt8} {r : Except StackError Nat}
    (h : st.tcpSend handle data = .ok (r, st')) : st'.tcpMaySend handle = st.tcpMaySend handle := by
  rcases tcpSend_ok h with ⟨_, _, rfl⟩ | ⟨s, hs, _, rfl⟩
  · rfl
  · have hput := (hs.put (S.tcpSendSlice s data).2).tcpQuery S.tcpMaySend
    rw [hM s data] at hput
    exact hput.trans (hs.tcpQuery S.tcpMaySend).symm

end NetworkStack

variable {S : Smoltcp} {handle : SocketHandle} {tcpChunkSize : Nat}

theorem flushPendingToStack_maySend (hM : S.SendKeepsState) {fuel : Nat} {st st' : NetworkStack S}
    {c c' : SocketStreamHandle}
    (h : flushPendingToStack handle tcpChunkSize fuel st c = .ok (st', c')) :
    st'.tcpMaySend handle = st.tcpMaySend handle :=
  flushPendingToStack_rule (I := fun st₁ _ => st₁.tcpMaySend handle = st.tcpMaySend handle)
    (fun _ _ _ _ _ hkept hsend => (NetworkStack.tcpSend_maySend hM hsend).trans hkept)
    (fun _ _ _ hkept => hkept)
    h rfl

namespace Service

variable {fullSweep : Bool} {v v' : Service S}

def closeAsked (v : Service S) : Bool := v.entry.closeRequested || v.stream.socketDropped

theorem begin_closeRequested (v : Service S) (fullSweep : Bool) :
    (v.begin fullSweep).entry.closeRequested = v.closeAsked := by
  have hdropped : ∀ (c : SocketStreamHandle) (mask : EventMask),
      (c.clearEvents mask).socketDropped = c.socketDropped := by
    intro c mask
    obtain ⟨read, write, closed⟩ := mask
    cases read <;> cases write <;> cases closed <;> rfl
  cases fullSweep with
  | true => rfl
  | false =>
      have h := hdropped v.stream v.entry.pendingEvents
      show (v.entry.closeRequested || (v.stream.clearEvents v.entry.pendingEvents).socketDropped) =
        v.closeAsked
      rw [h, closeAsked]

theorem begin_finSent (v : Service S) (fullSweep : Bool) :
    (v.begin fullSweep).entry.finSent = v.entry.finSent := by
  cases fullSweep <;> rfl

theorem begin_stack (v : Service S) (fullSweep : Bool) :
    (v.begin fullSweep).stack = v.stack := by
  cases fullSweep <;> rfl

-- What a sweep has when it comes to the end of a stream's close.
structure Halved (v w : Service S) : Prop where
  closeRequested : w.entry.closeRequested = v.closeAsked
  finSent : w.entry.finSent = v.entry.finSent
  calls : w.stack.calls = v.stack.calls

namespace Passes

theorem halved (p : Passes v fullSweep handle tcpChunkSize v') : Halved v p.halves := by
  obtain ⟨_, hcw, _, hew, _⟩ := serviceWrite_ok p.write
  obtain ⟨_, hcr, _, her, _⟩ := serviceRead_ok p.read
  obtain ⟨_, hc⟩ := syncConnecting_ok p.connecting
  obtain ⟨mayRecv, maySend, _, _, hh⟩ := closeHalves_ok p.closing
  have hentry : p.filled.entry = (v.begin fullSweep).entry := her.trans hew
  constructor
  · rw [hh, hc, ← begin_closeRequested v fullSweep, ← hentry]
    rfl
  · rw [hh, hc, ← begin_finSent v fullSweep, ← hentry]
    rfl
  · rw [hh, hc]
    exact (hcr.trans hcw).trans (congrArg (·.calls) (begin_stack v fullSweep))

-- A closing socket is not read, so only the flush is between the begin and the end.
theorem maySend (hM : S.SendKeepsState) (p : Passes v fullSweep handle tcpChunkSize v')
    (ha : v.closeAsked = true) : p.halves.stack.tcpMaySend handle = v.stack.tcpMaySend handle := by
  obtain ⟨_, _, _, hew, _⟩ := serviceWrite_ok p.write
  obtain ⟨_, hc⟩ := syncConnecting_ok p.connecting
  obtain ⟨_, _, _, _, hh⟩ := closeHalves_ok p.closing
  have hread : p.filled = p.written := by
    have hr := p.read
    simp only [serviceRead, hew, begin_closeRequested, ha, Bool.not_true, Bool.and_false,
      Bool.false_eq_true, if_false, Outcome.ok_iff] at hr
    exact hr.symm
  have hwrite : p.written.stack.tcpMaySend handle = v.stack.tcpMaySend handle := by
    have hw := p.write
    simp only [serviceWrite] at hw
    split at hw
    · obtain ⟨⟨stack, stream⟩, hf, hw⟩ := Outcome.bind_eq_ok.mp hw
      have hkept := flushPendingToStack_maySend hM hf
      rw [begin_stack] at hkept
      rw [← Outcome.ok_iff.mp hw]
      exact hkept
    · rw [← Outcome.ok_iff.mp hw, begin_stack]
  rw [hh, hc]
  show p.filled.stack.tcpMaySend handle = _
  rw [hread, hwrite]

end Passes

-- Without a request to close, the end of the client's writing is not passed on.
theorem run_unasked (h : v.run fullSweep handle tcpChunkSize = .ok v')
    (ha : v.closeAsked = false) : v'.stack.calls = v.stack.calls := by
  obtain ⟨p⟩ := run_passes h
  obtain ⟨maySend, _, ⟨hwants, _⟩ | ⟨_, hv⟩⟩ := sendFin_ok p.fin
  · simp [wantsFin, p.halved.closeRequested, ha] at hwants
  · rw [hv, p.halved.calls]

-- With one, and nothing left to send, only tcp_may_send decides.
theorem run_asked (hM : S.SendKeepsState) (h : v.run fullSweep handle tcpChunkSize = .ok v')
    (ha : v.closeAsked = true) (hempty : v'.stream.sendBuffer.len = 0) :
    ∃ maySend, v.stack.tcpMaySend handle = .ok maySend ∧
      v'.stack.calls = if !v.entry.finSent && maySend then .tcpClose handle :: v.stack.calls
        else v.stack.calls := by
  obtain ⟨p⟩ := run_passes h
  have hclose := p.halved.closeRequested
  obtain ⟨maySend, hmay, ⟨hwants, stack, hc, hv⟩ | ⟨hwants, hv⟩⟩ := sendFin_ok p.fin
  · refine ⟨maySend, (p.maySend hM ha).symm.trans hmay, ?_⟩
    simp only [wantsFin, p.halved.finSent, Bool.and_eq_true] at hwants
    rw [if_pos (by rw [hwants.1.1.2, hwants.2]; rfl), hv, ← p.halved.calls]
    exact (NetworkStack.tcpClose_touches hc).2
  · refine ⟨maySend, (p.maySend hM ha).symm.trans hmay, ?_⟩
    rw [hv] at hempty
    simp only [wantsFin, hclose, ha, p.halved.finSent, hempty, decide_true, Bool.true_and,
      Bool.and_true] at hwants
    rw [if_neg (by rw [hwants]; exact Bool.false_ne_true), hv, p.halved.calls]

end Service

section effects

variable {R : Rules S} {rt rt' : RuntimeState S} {st st' : SocketState}

open RuntimeState

-- What an entry keeps over an effect, and how it may come to have sent its FIN.
structure Ages (calls : List StackCall) (i : SocketHandle) (st st' : SocketState) : Prop where
  stream : st'.stream = st.stream
  closing : st.closeRequested = true → st'.closeRequested = true
  fin : st'.finSent = true → st.finSent = true ∨ closedSinceCreation i calls = true

theorem Ages.same {calls : List StackCall} {i : SocketHandle} (h : st'.link = st.link)
    (hc : st'.closeRequested = st.closeRequested)
    (hf : st'.finSent = st.finSent) : Ages calls i st st' :=
  ⟨congrArg Prod.fst h, fun hst => hc.trans hst, fun hst => .inl (hf.symm.trans hst)⟩

theorem Ages.refl {calls : List StackCall} {i : SocketHandle} : Ages calls i st st := .same rfl rfl rfl

def Inherits (rt rt' : RuntimeState S) : Prop :=
  ∀ i st', rt'.sockets.lookup i = some st' →
    (∃ st, rt.sockets.lookup i = some st ∧ Ages rt'.stack.calls i st st') ∨
      (rt.shared.nextStream ≤ st'.stream ∧ st'.finSent = false)

theorem Inherits.same (h : rt'.sockets = rt.sockets) : Inherits rt rt' :=
  fun _ st' hl => .inl ⟨st', h ▸ hl, .refl⟩

theorem Inherits.insert {handle : SocketHandle} (hl : rt.sockets.lookup handle = some st)
    (hs : rt'.sockets = AList.insert handle st' rt.sockets) (ha : Ages rt'.stack.calls handle st st') :
    Inherits rt rt' := by
  intro i u hu
  rw [hs, Table.lookup_insert] at hu
  split_ifs at hu with hi
  · cases hu
    exact .inl ⟨st, hi ▸ hl, hi ▸ ha⟩
  · exact .inl ⟨u, hu, .refl⟩

theorem handleSocketEvent_inherits (rt : RuntimeState S) (e : SocketEvent) :
    Inherits rt (rt.handleSocketEvent e) := by
  have hready : ∀ b : RuntimeState S, (b.enqueueReadyTcpHandle e.handle).sockets = b.sockets :=
    fun b => (enqueueReady_sameStreams b e.handle).2.2
  cases hl : rt.sockets.lookup e.handle with
  | none =>
      rw [handleSocketEvent_none _ hl]
      exact .same (hready rt)
  | some st =>
      rw [handleSocketEvent_some _ hl]
      refine .insert hl (hready _) ⟨rfl, fun hc => ?_, fun hf => .inl hf⟩
      simp [syncSocketPollInterestCounters, noteEvent, hc]

theorem noteIncoming_inherits (rt : RuntimeState S) (packet : Packet) :
    Inherits rt (rt.noteIncomingTcpHandle packet) := by
  simp only [noteIncomingTcpHandle, markReadyTcpHandle]
  split
  · exact .same rfl
  · next handle _ =>
      have hready : ∀ b : RuntimeState S, (b.enqueueReadyTcpHandle handle).sockets = b.sockets :=
        fun b => (enqueueReady_sameStreams b handle).2.2
      cases hl : rt.sockets.lookup handle with
      | none => exact .same ((hready _).trans (Table.modify_none hl _))
      | some st => exact .insert hl ((hready _).trans (Table.modify_some hl _)) (.same rfl rfl rfl)

theorem run_ages {fullSweep : Bool} {i : SocketHandle} {v v' : Service S}
    (h : v.run fullSweep i tcpChunkSize = .ok v') :
    v'.entry.stream = v.entry.stream ∧
      (v.entry.closeRequested = true → v'.entry.closeRequested = true) ∧
      (v'.entry.finSent = true →
        v.entry.finSent = true ∨ closedSinceCreation i v'.stack.calls = true) := by
  refine ⟨(Service.run_frame h).task.1, ?_⟩
  obtain ⟨p⟩ := Service.run_passes h
  have hclose : v.entry.closeRequested = true → p.halves.entry.closeRequested = true := by
    intro hc
    rw [p.halved.closeRequested, Service.closeAsked, hc, Bool.true_or]
  obtain ⟨_, _, ⟨_, stack, hc, hv⟩ | ⟨_, hv⟩⟩ := Service.sendFin_ok p.fin
  · rw [hv]
    refine ⟨hclose, fun _ => .inr ?_⟩
    simp [(NetworkStack.tcpClose_touches hc).2, closedSinceCreation]
  · rw [hv]
    exact ⟨hclose, fun hf => .inl (p.halved.finSent ▸ hf)⟩

theorem Effect.inherits (h : Effect R rt rt') (hc : Consistent rt) : Inherits rt rt' := by
  cases h with
  | aside h => exact .same h.aside.sockets
  | @openTcp remoteIp remotePort localPort _ stack reservedSlot _ _ h =>
      intro i st' hl
      have hl' : ({ rt with stack }.withConnection rt.stack.sockets.lowestFree
          ⟨localPort, remoteIp, remotePort⟩).sockets.lookup i = some st' := by
        rw [insertConnection_eq] at hl
        simp only [finishReserved] at hl
        split at hl <;> exact hl
      rw [lookup_withConnection] at hl'
      split_ifs at hl'
      · cases hl'
        exact .inr ⟨Nat.le_refl _, rfl⟩
      · exact .inl ⟨st', hl', .refl⟩
  | requestClose hl h =>
      obtain ⟨replies, he⟩ := closeConnection_eq hl
      rw [he] at h
      cases h
      exact .insert hl rfl ⟨rfl, fun _ => rfl, fun hf => .inl hf⟩
  | waiters hl _ => exact .insert hl rfl (.same rfl rfl rfl)
  | @event e es h =>
      have hpop : Inherits { rt with socketEvents := es }
          ({ rt with socketEvents := es }.handleSocketEvent e) := handleSocketEvent_inherits _ e
      exact hpop
  | @incoming _ packet h =>
      have hcalls := (injectIncoming_stack h).1
      obtain ⟨stack, _, h⟩ := Outcome.bind_eq_ok.mp h
      cases h
      have hnote := noteIncoming_inherits rt packet
      simp only [Inherits, noteIncomingTcpHandle_stack, ← hcalls] at hnote
      exact hnote
  | poll _ h => exact .same rfl
  | egress h => exact .same rfl
  | select _ fullSweep => cases fullSweep <;> exact .same rfl
  | service _ fullSweep hl h =>
      obtain ⟨v, hv, rfl⟩ := serviceSocket_ok h
      obtain ⟨hx, hclose, hfin⟩ := run_ages hv
      exact .insert hl rfl ⟨hx, hclose, hfin⟩
  | release _ _ _ h =>
      intro i st' hl
      exact .inl ⟨st', ((retire_retired hc h).lookup_some hl).2, .refl⟩
  | client hx _ h =>
      rw [putStream_eq]
      exact .same rfl
  | reset _ params mtu session shared hs hx hn =>
      intro i st' hl
      cases hl

-- A socket that is there before and after an effect has been closed after it if it was before.
theorem Effect.closed_kept (hS : S.KeepsSockets) (h : Effect R rt rt') (hs : Slotted rt)
    (hl : rt.stack.UdpLogged) {i : SocketHandle} (ha : rt.sockets.lookup i ≠ none)
    (hb : rt'.sockets.lookup i ≠ none) (hc : closedSinceCreation i rt.stack.calls = true) :
    closedSinceCreation i rt'.stack.calls = true := by
  have hsame : rt'.stack.calls = rt.stack.calls →
      closedSinceCreation i rt'.stack.calls = true := fun he => he ▸ hc
  cases h with
  | aside h =>
      obtain ⟨s, hs⟩ := (NetworkStack.hasTcp_iff hs.wellFormed).mpr ((hs.entry i).mp ha)
      rwa [h.aside.stack.closedSinceCreation hs]
  | @openTcp _ _ _ _ stack reservedSlot _ _ h =>
      rw [insertConnection_eq, finishReserved_stack]
      have hi : i ≠ rt.stack.sockets.lowestFree := by
        rintro rfl
        exact ha (lookup_opens hs (open?_opens h))
      show closedSinceCreation i stack.calls = true
      rw [(open?_stack h).1, closedSinceCreation, hc, Bool.and_true, decide_eq_true_eq]
      exact hi.symm
  | requestClose hl' h => exact hsame (by rw [closeConnection_stack hl' h])
  | waiters _ _ => exact hc
  | event h => exact hsame (by rw [handleSocketEvent_stack])
  | incoming h => exact hsame (injectIncoming_stack h).1
  | poll _ h => exact hsame (NetworkStack.pollBounded_logged hS h hl).2
  | egress h => exact hsame (NetworkStack.pollEgress_calls h)
  | select _ fullSweep => cases fullSweep <;> exact hc
  | service _ fullSweep hl' h =>
      obtain ⟨v, hv, rfl⟩ := serviceSocket_ok h
      rcases Service.run_calls hv with hcalls | hcalls
      · exact hsame hcalls
      · show closedSinceCreation i v.stack.calls = true
        simp [hcalls, closedSinceCreation, hc]
  | release _ _ _ h => exact hsame (removeSocket_calls (retire_stack h))
  | client hx _ h => exact hsame (by rw [putStream_stack])
  | reset _ params mtu session shared hs hx hn => exact absurd rfl hb

def FinLogged (rt : RuntimeState S) : Prop :=
  ∀ i st, rt.sockets.lookup i = some st → st.finSent = true →
    closedSinceCreation i rt.stack.calls = true

theorem Effect.finLogged (hS : S.KeepsSockets) (h : Effect R rt rt') (hc : Consistent rt)
    (hl : rt.stack.UdpLogged) (hf : FinLogged rt) : FinLogged rt' := by
  intro i st' hl' hfin
  rcases h.inherits hc i st' hl' with ⟨st, hst, ha⟩ | ⟨_, hno⟩
  · rcases ha.fin hfin with hfin | hclosed
    · exact h.closed_kept hS hc.slotted hl (by rw [hst]; exact Option.some_ne_none _)
        (by rw [hl']; exact Option.some_ne_none _) (hf i st hst hfin)
    · exact hclosed
  · rw [hno] at hfin
    cases hfin

-- Whatever entry the connection x has, it is asked to close.
def Closing (x : StreamId) (rt : RuntimeState S) : Prop :=
  x < rt.shared.nextStream ∧
    ∀ i st, rt.sockets.lookup i = some st → st.stream = x → st.closeRequested = true

theorem Effect.closing (h : Effect R rt rt') (hc : Consistent rt)
    {x : StreamId} (hx : Closing x rt) : Closing x rt' := by
  refine ⟨Nat.lt_of_lt_of_le hx.1 (h.nextStream_le hc), fun i st' hl hst => ?_⟩
  rcases h.inherits hc i st' hl with ⟨st, hst', ha⟩ | ⟨hnew, _⟩
  · exact ha.closing (hx.2 i st hst' (ha.stream.symm.trans hst))
  · rw [hst] at hnew
    exact absurd hx.1 (Nat.not_lt.mpr hnew)

theorem closing_of_lookup (hc : Consistent rt) (st : SocketState)
    {handle : SocketHandle}
    (hl : rt.sockets.lookup handle = some st) (hr : st.closeRequested = true) :
    Closing st.stream rt := by
  refine ⟨hc.tracked.born handle st hl, fun i st' hl' hst => ?_⟩
  have hi : i = handle := by
    rw [← hc.tracked.handle i st' hl', hst, hc.tracked.handle handle st hl]
  rw [hi, hl] at hl'
  cases hl'
  exact hr

end effects

namespace System

open RuntimeState

variable {H : Hickory} {params : ConnectionParams} {s t u : System S} {l : Label}

-- The step handles a Close command, or the Closed event of a drop, at the entry of x.
def HandlesClose (s : System S) (x : StreamId) : Label → Prop
  | .manager (.command _) =>
      ∃ handle source, s.cmdRx.head? = some (.close handle source) ∧ s.rt.owner handle = some x
  | .manager .socketEvent =>
      ∃ e, s.rt.socketEvents.head? = some e ∧ e.kind = .closed ∧ s.rt.owner e.handle = some x
  | _ => False

-- The sweep that u is about to make comes to `handle`: `acc` is what the handles before it have
-- left, `acc'` what `handle` leaves.
structure Serves (u : System S) (fullSweep : Bool) (handle : SocketHandle)
    (acc acc' : RuntimeState S × List SocketHandle) : Prop where
  pc : ∃ egress dirtyCycle, u.pc = .sweep fullSweep egress dirtyCycle
  chosen : ∃ before after, (u.rt.selectHandles fullSweep).1 = before ++ handle :: after ∧
    Outcome.run (sweepHandle fullSweep) ((u.rt.selectHandles fullSweep).2, []) before = .ok acc
  served : sweepHandle fullSweep acc handle = .ok acc'

structure Swept (u : System S) (acc : RuntimeState S × List SocketHandle) : Prop where
  consistent : Consistent acc.1
  effects : Effects (Rules.any S) u.rt acc.1

theorem Serves.swept (hS : S.KeepsSockets) (hu : Sound u) {fullSweep : Bool}
    {handle : SocketHandle} {acc acc' : RuntimeState S × List SocketHandle}
    (h : u.Serves fullSweep handle acc acc') : Swept u acc := by
  obtain ⟨before, after, _, hrun⟩ := h.chosen
  have hsel : Effect (Rules.any S) u.rt (u.rt.selectHandles fullSweep).2 := .select trivial fullSweep
  have hc₁ := hsel.consistent hS hu.consistent
  have heff := (sweepAll_effects (R := Rules.any S) hS trivial hc₁ (by simp) hrun).1
  exact ⟨heff.consistent hS hc₁, .head hsel heff⟩

theorem closeConnection_closing (hc : Consistent s.rt) {rt' : RuntimeState S} {x : StreamId}
    (ho : s.rt.owner handle = some x) (h : s.rt.closeConnection handle = .ok rt') :
    Closing x rt' := by
  obtain ⟨st, hl, rfl⟩ := owner_eq_some.mp ho
  have hc' := closeConnection_consistent hc hl h
  obtain ⟨replies, he⟩ := closeConnection_eq hl
  rw [he] at h
  cases h
  exact closing_of_lookup hc' (syncSocketPollInterestCounters (closingEntry st)
    (closingStream (s.rt.stream st.stream)).1 s.rt.counters).1 (AList.lookup_insert _) rfl

theorem handlesClose_closing (hS : S.KeepsSockets) (hs : Sound s) {x : StreamId}
    (hx : s.HandlesClose x l) (h : step H s l = some t) : Closing x t.rt := by
  cases l with
  | manager choice =>
      cases choice with
      | command draw =>
          obtain ⟨handle, source, hcmd, ho⟩ := hx
          obtain ⟨pc, cmd, cmdRx, hcons, rfl⟩ := step_command h
          rw [hcons] at hcmd
          cases hcmd
          obtain ⟨st, hl, _⟩ := owner_eq_some.mp ho
          obtain ⟨replies, he⟩ := closeConnection_eq hl
          have hclosed := closeConnection_closing hs.consistent ho he
          show Closing x (s.andThen (s.rt.closeConnection handle) _).rt
          rw [he]
          exact hclosed
      | socketEvent =>
          obtain ⟨e, hevent, hkind, ho⟩ := hx
          obtain ⟨pc, e', es, hcons, rfl⟩ := step_socketEvent h
          rw [hcons] at hevent
          cases hevent
          obtain ⟨st, hl, rfl⟩ := owner_eq_some.mp ho
          have heff : Effect (Rules.any S) s.rt
              ({ s.rt with socketEvents := es }.handleSocketEvent e) := .event hcons
          have hc := heff.consistent hS hs.consistent
          have hready : ∀ b : RuntimeState S,
              (b.enqueueReadyTcpHandle e.handle).sockets = b.sockets :=
            fun b => (enqueueReady_sameStreams b e.handle).2.2
          have hl' : ({ s.rt with socketEvents := es } : RuntimeState S).sockets.lookup
              e.handle = some st := hl
          rw [handleSocketEvent_some _ hl'] at hc ⊢
          have hst := closing_of_lookup hc (syncSocketPollInterestCounters
            (noteEvent e.kind st) (s.rt.stream st.stream) s.rt.counters).1
            (by rw [hready]; exact AList.lookup_insert _)
            (by simp [syncSocketPollInterestCounters, noteEvent, hkind])
          exact hst
      | _ => exact hx.elim
  | _ => exact hx.elim

theorem closing_reaches (hS : S.KeepsSockets) {x : StreamId}
    (hr : Run.Reaches (step H) Run.Any t u) (ht : Sound t) (hx : Closing x t.rt) :
    Closing x u.rt := by
  have hboth : Sound u ∧ Closing x u.rt := by
    refine Run.Reaches.invariant (I := fun u => Sound u ∧ Closing x u.rt)
      (fun a l b ⟨hs, hi⟩ _ hb => ?_) hr ⟨ht, hx⟩
    have heff := step_effects hS hs (permits_any a l) hb
    exact ⟨step_sound hS hs hb,
      (heff.invariant hS (fun _ _ hc hi he => he.closing hc hi) hs.consistent hi).2⟩
  exact hboth.2

theorem Reachable.finLogged (hS : S.KeepsSockets) (h : Reachable H params s) :
    s.rt.stack.UdpLogged ∧ FinLogged s.rt := by
  refine h.invariant hS (I := fun rt => rt.stack.UdpLogged ∧ FinLogged rt) ⟨?_, ?_⟩
    (fun _ _ hc ⟨hl, hf⟩ he => ⟨he.logged hS hl, he.finLogged hS hc hl hf⟩)
  · intro i u hu
    cases hu
  · intro i st hl
    cases hl

theorem Swept.finLogged (hS : S.KeepsSockets) (hu : Reachable H params u)
    {acc : RuntimeState S × List SocketHandle} (h : Swept u acc) : FinLogged acc.1 :=
  (h.effects.invariant (I := fun rt => rt.stack.UdpLogged ∧ FinLogged rt) hS
    (fun _ _ hc ⟨hl, hf⟩ he => ⟨he.logged hS hl, he.finLogged hS hc hl hf⟩)
    (hu.sound hS).consistent (hu.finLogged hS)).2.2

-- x has been asked to close: by a Close command or the event of its drop, handled in a step
-- before u, or by the flag of its drop.
def CloseAsked (H : Hickory) (params : ConnectionParams) (u : System S) (rt : RuntimeState S)
    (x : StreamId) : Prop :=
  (rt.stream x).socketDropped = true ∨
    ∃ s l t, Reachable H params s ∧ s.HandlesClose x l ∧ step H s l = some t ∧
      Run.Reaches (step H) Run.Any t u

theorem CloseAsked.entry (hS : S.KeepsSockets) {acc : RuntimeState S × List SocketHandle}
    {x : StreamId} (h : CloseAsked H params u acc.1 x) (hw : Swept u acc) {st : SocketState}
    (hl : acc.1.sockets.lookup handle = some st) (hst : st.stream = x) :
    (st.closeRequested || (acc.1.stream st.stream).socketDropped) = true := by
  rcases h with hdrop | ⟨s, l, t, hs, hx, ht, hr⟩
  · rw [hst, hdrop, Bool.or_true]
  · have hsound := hs.sound hS
    have hclosing := closing_reaches hS hr (step_sound hS hsound ht)
      (handlesClose_closing hS hsound hx ht)
    have hu : Sound u :=
      Run.Reaches.invariant (fun _ _ _ hs _ hst => step_sound hS hs hst) hr
        (step_sound hS hsound ht)
    have hacc := (hw.effects.invariant (I := Closing x) hS (fun _ _ hc hi he => he.closing hc hi)
      hu.consistent hclosing).2
    rw [hacc.2 handle st hl hst, Bool.true_or]

-- The handle was found inactive, or its tcp_close has been called.
def TakesEffect (handle : SocketHandle) (acc acc' : RuntimeState S × List SocketHandle) : Prop :=
  acc'.2 = acc.2 ++ [handle] ∨ closedSinceCreation handle acc'.1.stack.calls = true

def MayTakeEffect (handle : SocketHandle) (acc : RuntimeState S × List SocketHandle) : Prop :=
  acc.1.stack.tcpIsActive handle = .ok false ∨
    closedSinceCreation handle acc.1.stack.calls = true ∨
    acc.1.stack.tcpMaySend handle = .ok true

theorem close_takes_effect (hS : S.KeepsSockets) (hM : S.SendKeepsState)
    (hu : Reachable H params u) {fullSweep : Bool} {handle : SocketHandle}
    {acc acc' : RuntimeState S × List SocketHandle} {x : StreamId}
    (hv : u.Serves fullSweep handle acc acc') (ho : acc.1.owner handle = some x)
    (hx : CloseAsked H params u acc.1 x) (hempty : (acc'.1.stream x).sendBuffer.len = 0) :
    TakesEffect handle acc acc' ↔ MayTakeEffect handle acc := by
  have hw := hv.swept hS (hu.sound hS)
  obtain ⟨st, hl, hst⟩ := owner_eq_some.mp ho
  have hasked := hx.entry hS hw hl hst
  obtain ⟨active, ha, hserved⟩ := Outcome.bind_eq_ok.mp hv.served
  cases active with
  | false =>
      simp only [Bool.not_false, if_true, Outcome.ok_iff] at hserved
      constructor
      · intro _
        exact .inl ha
      · intro _
        exact .inl (congrArg Prod.snd hserved).symm
  | true =>
      simp only [Bool.not_true, Bool.false_eq_true, if_false, hl] at hserved
      obtain ⟨rt, hserv, hacc⟩ := Outcome.bind_eq_ok.mp hserved
      obtain ⟨v, hrun, rfl⟩ := serviceSocket_ok hserv
      cases hacc
      have hv' : v.stream.sendBuffer.len = 0 := by
        have hset := stream_setStream acc.1 st.stream x v.stream
        rw [if_pos hst.symm] at hset
        rw [← hempty]
        exact congrArg (·.sendBuffer.len) hset.symm
      obtain ⟨maySend, hmay, hcalls⟩ := Service.run_asked hM hrun hasked hv'
      have hinactive : ¬ acc.1.stack.tcpIsActive handle = .ok false := by
        rw [ha]
        simp
      have hsame : ¬ acc.2 = acc.2 ++ [handle] := by simp
      simp only [TakesEffect, MayTakeEffect, hsame, hinactive, false_or]
      show closedSinceCreation handle v.stack.calls = true ↔ _
      rw [hcalls]
      cases hfin : st.finSent with
      | true =>
          have hlogged := hw.finLogged hS hu handle st hl hfin
          simp [hlogged]
      | false =>
          cases maySend with
          | true => simp [closedSinceCreation, hmay]
          | false => simp [hmay]

-- The owner of x has seen its shutdown return, it neither drops nor closes the stream, and all it
-- wrote has been accepted.
structure HalfClosed (u : System S) (handle : SocketHandle)
    (acc : RuntimeState S × List SocketHandle) (x : StreamId) : Prop where
  shutdown : (u.clients x).shutdown = true
  unclosed : ∃ st, acc.1.sockets.lookup handle = some st ∧ st.stream = x ∧
    st.closeRequested = false
  undropped : (acc.1.stream x).socketDropped = false
  drained : (acc.1.stream x).sendBuffer.len = 0
  maySend : acc.1.stack.tcpMaySend handle = .ok true

def ClosesOnce (handle : SocketHandle) (acc acc' : RuntimeState S × List SocketHandle) : Prop :=
  acc'.1.stack.calls.count (.tcpClose handle) = acc.1.stack.calls.count (.tcpClose handle) + 1

theorem half_close_kept_back {fullSweep : Bool} {handle : SocketHandle}
    {acc acc' : RuntimeState S × List SocketHandle} {x : StreamId}
    (hv : u.Serves fullSweep handle acc acc') (hx : u.HalfClosed handle acc x) :
    ¬ ClosesOnce handle acc acc' := by
  obtain ⟨st, hl, hst, hclose⟩ := hx.unclosed
  have hcalls : acc'.1.stack.calls = acc.1.stack.calls := by
    obtain ⟨active, ha, hserved⟩ := Outcome.bind_eq_ok.mp hv.served
    cases active with
    | false =>
        simp only [Bool.not_false, if_true, Outcome.ok_iff] at hserved
        rw [← hserved]
    | true =>
        simp only [Bool.not_true, Bool.false_eq_true, if_false, hl] at hserved
        obtain ⟨rt, hserv, hacc⟩ := Outcome.bind_eq_ok.mp hserved
        obtain ⟨v, hrun, rfl⟩ := serviceSocket_ok hserv
        cases hacc
        have hundropped : (acc.1.stream st.stream).socketDropped = false := hst ▸ hx.undropped
        exact Service.run_unasked hrun (by simp [Service.closeAsked, hclose, hundropped])
  rw [ClosesOnce, hcalls]
  exact Nat.ne_of_lt (Nat.lt_succ_self _)

def firstServed (u : System S) : Option (RuntimeState S × List SocketHandle) :=
  (sweepHandle false ((u.rt.selectHandles false).2, []) 0).toOption

theorem serves_first {acc' : RuntimeState S × List SocketHandle}
    (hpc : u.pc = .sweep false true true) (hh : (u.rt.selectHandles false).1 = [0])
    (h : u.firstServed = some acc') :
    u.Serves false 0 ((u.rt.selectHandles false).2, []) acc' := by
  refine ⟨⟨true, true, hpc⟩, ⟨[], [], hh, rfl⟩, ?_⟩
  simp only [firstServed] at h
  cases hs : sweepHandle false ((u.rt.selectHandles false).2, []) 0 with
  | error fault =>
      rw [hs] at h
      cases h
  | ok acc =>
      rw [hs] at h
      cases h
      rfl

theorem sendKeepsState : Reference.smoltcp.SendKeepsState := by
  intro s data
  show Reference.maySend (Reference.sendSlice s data).2 = Reference.maySend s
  simp only [Reference.sendSlice]
  split <;> rfl

-- The owner drops its stream; the next sweep serves the event.
def dropped (labels : List Label) : List Label :=
  Script.establish ++ labels ++ [.client 0 .drop] ++ Script.serveEvent

theorem close_takes_effect_established : ∃ (u : Script.Reached) (acc acc' : _),
    Reachable Script.hickory Script.params u ∧ u.Serves false 0 acc acc' ∧
      TakesEffect 0 acc acc' := by
  have h : (Script.run (dropped (Script.established 5000 0))).any (fun u =>
      u.pc = .sweep false true true ∧ (u.rt.selectHandles false).1 = [0] ∧
      (u.rt.selectHandles false).2.owner 0 = some 0 ∧
      ((u.rt.selectHandles false).2.stream 0).socketDropped = true ∧
      (u.rt.selectHandles false).2.stack.tcpMaySend 0 = .ok true ∧
      u.firstServed.any (fun acc' => (acc'.1.stream 0).sendBuffer.len = 0) = true) = true := by
    decide +kernel
  obtain ⟨u, hu, hp⟩ := Script.exists_reachable h
  obtain ⟨hpc, hh, ho, hdrop, hmay, hany⟩ := of_decide_eq_true hp
  obtain ⟨acc', hacc, hempty⟩ := (Option.any_eq_true _ _).mp hany
  have hv := serves_first hpc hh hacc
  exact ⟨u, _, acc', hu, hv, (close_takes_effect Reference.keepsSockets sendKeepsState hu hv ho
    (.inl hdrop) (of_decide_eq_true hempty)).mpr (.inr (.inr hmay))⟩

-- The same while the SYN is unanswered: the socket stays as it is.
theorem close_not_taken : ∃ (u : Script.Reached) (acc acc' : _),
    Reachable Script.hickory Script.params u ∧ u.Serves false 0 acc acc' ∧
      acc.1.owner 0 = some 0 ∧ CloseAsked Script.hickory Script.params u acc.1 0 ∧
      (acc'.1.stream 0).sendBuffer.len = 0 ∧ ¬ TakesEffect 0 acc acc' := by
  have h : (Script.run (dropped (Script.connect 5000 0 ++ [Script.refresh]))).any (fun u =>
      u.pc = .sweep false true true ∧ (u.rt.selectHandles false).1 = [0] ∧
      (u.rt.selectHandles false).2.owner 0 = some 0 ∧
      ((u.rt.selectHandles false).2.stream 0).socketDropped = true ∧
      u.firstServed.any (fun acc' => (acc'.1.stream 0).sendBuffer.len = 0 ∧ acc'.2 = [] ∧
        closedSinceCreation 0 acc'.1.stack.calls = false) = true) = true := by
    decide +kernel
  obtain ⟨u, hu, hp⟩ := Script.exists_reachable h
  obtain ⟨hpc, hh, ho, hdrop, hany⟩ := of_decide_eq_true hp
  obtain ⟨acc', hacc, hleft⟩ := (Option.any_eq_true _ _).mp hany
  obtain ⟨hempty, hactive, hopen⟩ := of_decide_eq_true hleft
  refine ⟨u, _, acc', hu, serves_first hpc hh hacc, ho, .inl hdrop, hempty, ?_⟩
  rintro (htaken | hclosed)
  · rw [hactive] at htaken
    cases htaken
  · rw [hopen] at hclosed
    cases hclosed

def shutDown : List Label :=
  Script.establish ++ Script.established 5000 0 ++ [.client 0 .shutdown] ++ Script.serveEvent

def halfClosed (u : Script.Reached) : Bool :=
  u.pc = .sweep false true true ∧ (u.rt.selectHandles false).1 = [0] ∧
    (u.clients 0).shutdown = true ∧
    ((u.rt.selectHandles false).2.sockets.lookup 0).any (fun st =>
      st.stream = 0 ∧ st.closeRequested = false) = true ∧
    ((u.rt.selectHandles false).2.stream 0).socketDropped = false ∧
    ((u.rt.selectHandles false).2.stream 0).sendBuffer.len = 0 ∧
    (u.rt.selectHandles false).2.stack.tcpMaySend 0 = .ok true

theorem halfClosed_serves {u : Script.Reached}
    {acc' : RuntimeState Reference.smoltcp × List SocketHandle}
    (h : halfClosed u = true) (hacc : u.firstServed = some acc') :
    u.Serves false 0 ((u.rt.selectHandles false).2, []) acc' ∧
      u.HalfClosed 0 ((u.rt.selectHandles false).2, []) 0 := by
  obtain ⟨hpc, hh, hshut, hany, hdrop, hempty, hmay⟩ := of_decide_eq_true h
  obtain ⟨st, hl, hst⟩ := (Option.any_eq_true _ _).mp hany
  exact ⟨serves_first hpc hh hacc, hshut, ⟨st, hl, of_decide_eq_true hst⟩, hdrop, hempty, hmay⟩

theorem half_close_kept_back_shutdown : ∃ (u : Script.Reached) (acc acc' : _),
    Reachable Script.hickory Script.params u ∧ u.Serves false 0 acc acc' ∧
      ¬ ClosesOnce 0 acc acc' := by
  have h : (Script.run shutDown).any (fun u =>
      halfClosed u && u.firstServed.isSome) = true := by decide +kernel
  obtain ⟨u, hu, hp⟩ := Script.exists_reachable h
  obtain ⟨hhalf, hsome⟩ := Bool.and_eq_true_iff.mp hp
  obtain ⟨acc', hacc⟩ := Option.isSome_iff_exists.mp hsome
  obtain ⟨hv, hx⟩ := halfClosed_serves hhalf hacc
  exact ⟨u, _, acc', hu, hv, half_close_kept_back hv hx⟩

theorem half_close_unsent : ∃ (u : Script.Reached) (acc acc' : _),
    Reachable Script.hickory Script.params u ∧ u.Serves false 0 acc acc' ∧
      u.HalfClosed 0 acc 0 ∧ closedSinceCreation 0 acc'.1.stack.calls = false ∧
      ¬ ClosesOnce 0 acc acc' := by
  have h : (Script.run shutDown).any (fun u => halfClosed u &&
      u.firstServed.any (fun acc' => closedSinceCreation 0 acc'.1.stack.calls = false ∧
        acc'.1.stack.calls.count (.tcpClose 0) = 0)) = true := by decide +kernel
  obtain ⟨u, hu, hp⟩ := Script.exists_reachable h
  obtain ⟨hhalf, hany⟩ := Bool.and_eq_true_iff.mp hp
  obtain ⟨acc', hacc, hleft⟩ := (Option.any_eq_true _ _).mp hany
  obtain ⟨hopen, hcount⟩ := of_decide_eq_true hleft
  obtain ⟨hv, hx⟩ := halfClosed_serves hhalf hacc
  refine ⟨u, _, acc', hu, hv, hx, hopen, ?_⟩
  rw [ClosesOnce, hcount]
  exact (Nat.succ_ne_zero _).symm

end System

end Usque
