import Usque.Manager.CloseRequests
import Usque.Manager.Script
import Usque.Stack.TcpStates

namespace Usque

variable {S : Smoltcp} {handle : SocketHandle}

namespace NetworkStack

variable {st st' : NetworkStack S}

-- A past-handshake socket that has sent no FIN reads as connecting in one case only.
theorem tcpReadiness_iff (hT : S.TracksStates) {s : S.TcpSocket} (hs : st.HasTcp handle s)
    (hpast : (S.tcpState s).pastHandshake = true) (hfin : (S.tcpState s).finSent = false) :
    st.tcpReadiness handle = .ok .connecting ↔
      S.tcpState s = .closeWait ∧ S.tcpRecvQueue s = 0 := by
  simp only [tcpReadiness, tcpIsActive, tcpMaySend, tcpMayRecv, hs.tcpQuery, Outcome.ok_bind,
    hT.active, hT.maySend, hT.mayRecv]
  cases hstate : S.tcpState s with
  | listen | synSent | synReceived =>
      rw [hstate] at hpast
      cases hpast
  | finWait1 | finWait2 | closing | lastAck =>
      rw [hstate] at hfin
      cases hfin
  | closed | timeWait | established =>
      simp [TcpState.active, TcpState.maySend, TcpState.mayRecv]
  | closeWait =>
      simp only [TcpState.active, TcpState.maySend, TcpState.mayRecv, Bool.not_true,
        Bool.false_eq_true, if_false, Bool.true_and, Bool.false_or, decide_eq_true_eq, true_and]
      split_ifs with hqueue
      · exact iff_of_false nofun (Nat.ne_of_gt hqueue)
      · exact iff_of_true rfl (Nat.eq_zero_of_not_pos hqueue)

theorem tcpReadiness_ok {s : S.TcpSocket} (hs : st.HasTcp handle s) :
    ∃ state, st.tcpReadiness handle = .ok state := by
  simp only [tcpReadiness, tcpIsActive, tcpMaySend, tcpMayRecv, hs.tcpQuery, Outcome.ok_bind]
  split_ifs
  · exact ⟨_, rfl⟩
  · exact ⟨_, rfl⟩
  · exact ⟨_, rfl⟩

theorem HasTcp.put_follows {s s' : S.TcpSocket} (hs : st.HasTcp handle s) {changed : Bool}
    (hf : TcpState.Follows changed (S.tcpState s) (S.tcpState s')) :
    Follows changed st (st.putTcp handle s') := by
  intro i t ht
  by_cases hi : i = handle
  · subst hi
    rw [ht.unique (hs.put s')]
    exact ⟨s, hs, hf⟩
  · exact ⟨t, ((hs.touches_put s').hasTcp hi t).mp ht, .refl changed _⟩

variable (hT : S.TracksStates)

include hT

theorem tcpSend_follows {data : List UInt8} {r : Except StackError Nat}
    (h : st.tcpSend handle data = .ok (r, st')) : Follows false st st' := by
  rcases tcpSend_ok h with ⟨_, _, rfl⟩ | ⟨s, hs, _, rfl⟩
  · exact .refl _ _
  · refine hs.put_follows ?_
    rw [hT.send]
    exact .refl _ _

theorem tcpRecv_follows {len : Nat} {r : Except StackError (List UInt8)}
    (h : st.tcpRecv handle len = .ok (r, st')) : Follows false st st' := by
  rcases tcpRecv_ok h with ⟨_, _, rfl⟩ | ⟨s, hs, _, rfl⟩
  · exact .refl _ _
  · refine hs.put_follows ?_
    rw [hT.recv]
    exact .refl _ _

end NetworkStack

open NetworkStack (Follows)

section service

variable {tcpChunkSize : Nat} (hT : S.TracksStates)

include hT

theorem flushPendingToStack_follows {fuel : Nat} {st st' : NetworkStack S}
    {c c' : SocketStreamHandle}
    (h : flushPendingToStack handle tcpChunkSize fuel st c = .ok (st', c')) :
    Follows false st st' :=
  flushPendingToStack_rule (I := fun st₁ _ => Follows false st st₁)
    (fun _ _ _ _ _ hf hsend => hf.trans (NetworkStack.tcpSend_follows hT hsend))
    (fun _ _ _ hf => hf)
    h (.refl _ _)

theorem fillRecvBuffer_follows {fuel : Nat} {st st' : NetworkStack S} {c c' : SocketStreamHandle}
    (h : fillRecvBuffer handle tcpChunkSize fuel st c = .ok (st', c')) :
    Follows false st st' :=
  fillRecvBuffer_rule (I := fun st₁ _ => Follows false st st₁)
    (fun _ _ _ _ _ hf hrecv => hf.trans (NetworkStack.tcpRecv_follows hT hrecv))
    (fun _ _ _ hf => hf)
    h (.refl _ _)

-- Servicing a socket sends its FIN only if its close was asked for.
theorem Service.run_follows {fullSweep : Bool} {v v' : Service S}
    (h : v.run fullSweep handle tcpChunkSize = .ok v') (ho : v'.entry.closeRequested = false) :
    v.entry.closeRequested = false ∧ Follows false v.stack v'.stack := by
  obtain ⟨p⟩ := run_passes h
  obtain ⟨_, hc⟩ := syncConnecting_ok p.connecting
  obtain ⟨_, _, _, _, hh⟩ := closeHalves_ok p.closing
  have hwrite : Follows false v.stack p.written.stack := by
    have hw := p.write
    simp only [serviceWrite] at hw
    split at hw
    · obtain ⟨⟨stack, stream⟩, hf, hw⟩ := Outcome.bind_eq_ok.mp hw
      have hfollows := flushPendingToStack_follows hT hf
      rw [begin_stack] at hfollows
      rw [← Outcome.ok_iff.mp hw]
      exact hfollows
    · rw [← Outcome.ok_iff.mp hw, begin_stack]
      exact .refl _ _
  have hread : Follows false p.written.stack p.filled.stack := by
    have hr := p.read
    simp only [serviceRead] at hr
    split at hr
    · obtain ⟨⟨stack, stream⟩, hf, hr⟩ := Outcome.bind_eq_ok.mp hr
      rw [← Outcome.ok_iff.mp hr]
      exact fillRecvBuffer_follows hT hf
    · rw [← Outcome.ok_iff.mp hr]
      exact .refl _ _
  have hstack : p.halves.stack = p.filled.stack := by
    rw [hh, hc]
    rfl
  obtain ⟨maySend, _, ⟨hwants, stack, _, hv⟩ | ⟨_, hv⟩⟩ := sendFin_ok p.fin
  · have hopen : p.halves.entry.closeRequested = false := by
      rw [hv] at ho
      exact ho
    simp only [wantsFin, hopen, Bool.false_and, Bool.false_eq_true] at hwants
  · rw [hv, p.halved.closeRequested, closeAsked, Bool.or_eq_false_iff] at ho
    refine ⟨ho.1, ?_⟩
    rw [hv, hstack]
    exact hwrite.trans hread

end service

variable {R : Rules S} {rt rt' : RuntimeState S}

namespace RuntimeState

-- A socket that nobody has asked to close has sent no FIN.
def NoFin (rt : RuntimeState S) : Prop :=
  ∀ i st s, rt.sockets.lookup i = some st → st.closeRequested = false → rt.stack.HasTcp i s →
    (S.tcpState s).finSent = false

-- What is open in the later table was open in the earlier one.
def StillOpen (t t' : Table SocketHandle SocketState) : Prop :=
  ∀ i st', t'.lookup i = some st' → st'.closeRequested = false →
    ∃ st, t.lookup i = some st ∧ st.closeRequested = false

namespace StillOpen

variable {t t' : Table SocketHandle SocketState}

theorem refl (t : Table SocketHandle SocketState) : StillOpen t t :=
  fun _ st hl ho => ⟨st, hl, ho⟩

theorem insert {st st' : SocketState} (hl : t.lookup handle = some st)
    (h : st'.closeRequested = false → st.closeRequested = false) :
    StillOpen t (AList.insert handle st' t) := by
  intro i u hu ho
  rw [Table.lookup_insert] at hu
  split_ifs at hu with hi
  · cases hu
    exact ⟨st, hi ▸ hl, h ho⟩
  · exact ⟨u, hu, ho⟩

theorem modify (handle : SocketHandle) {f : SocketState → SocketState}
    (h : ∀ st, (f st).closeRequested = false → st.closeRequested = false)
    (t : Table SocketHandle SocketState) : StillOpen t (Table.modify handle f t) := by
  cases hl : t.lookup handle with
  | none =>
      rw [Table.modify_none hl]
      exact .refl t
  | some st =>
      rw [Table.modify_some hl]
      exact .insert hl (h st)

end StillOpen

theorem NoFin.carry (h : NoFin rt) (ho : StillOpen rt.sockets rt'.sockets) {changed : Bool}
    (hf : Follows changed rt.stack rt'.stack) : NoFin rt' := by
  intro i st' s' hl hopen hs
  obtain ⟨st, hst, hopen⟩ := ho i st' hl hopen
  obtain ⟨s, hs, hfollows⟩ := hf i s' hs
  have hbefore := h i st s hst hopen hs
  by_contra hfin
  rw [hfollows.finSent (Bool.of_not_eq_false hfin)] at hbefore
  cases hbefore

theorem NoFin.same (h : NoFin rt) (ho : StillOpen rt.sockets rt'.sockets)
    (hs : rt'.stack = rt.stack) : NoFin rt' := by
  have hkept : Follows false rt.stack rt'.stack := by
    rw [hs]
    exact .refl _ _
  exact h.carry ho hkept

theorem open?_hasTcp (hT : S.TracksStates) {remoteIp : IpAddress} {remotePort localPort : UInt16}
    {tcpBufferSize : Nat} {stack : NetworkStack S}
    (h : rt.open? remoteIp remotePort localPort tcpBufferSize = .ok (.ok (), stack))
    {i : SocketHandle} {s : S.TcpSocket} (hs : stack.HasTcp i s) :
    if i = rt.stack.sockets.lowestFree then S.tcpState s = .synSent else rt.stack.HasTcp i s := by
  rcases NetworkStack.connectTcp_ok h with
    ⟨_, hx, _⟩ | ⟨t, ht, ⟨_, hx, _⟩ | ⟨iface, t', hconnect, _, rfl⟩⟩
  · cases hx
  · cases hx
  · have hput := ht.put t'
    split_ifs with hi
    · subst hi
      rw [NetworkStack.HasTcp.unique hs hput]
      exact hT.connect _ _ _ _ _ _ hconnect
    · have hold := ((ht.touches_put t').hasTcp hi s).mp hs
      simpa only [NetworkStack.HasTcp, NetworkStack.createTcpSocketWithBuffer,
        NetworkStack.addSocket, Finset.mem_insert, Slots.get?_add, hi, if_false, false_or]
        using hold

theorem handleSocketEvent_open (rt : RuntimeState S) (e : SocketEvent) :
    StillOpen rt.sockets (rt.handleSocketEvent e).sockets := by
  have hready : ∀ b : RuntimeState S, (b.enqueueReadyTcpHandle e.handle).sockets = b.sockets :=
    fun b => (enqueueReady_sameStreams b e.handle).2.2
  cases hl : rt.sockets.lookup e.handle with
  | none =>
      rw [handleSocketEvent_none _ hl, hready]
      exact .refl _
  | some st =>
      rw [handleSocketEvent_some _ hl, hready]
      exact .insert hl (fun ho => (Bool.or_eq_false_iff.mp ho).1)

theorem noteIncoming_open (rt : RuntimeState S) (packet : Packet) :
    StillOpen rt.sockets (rt.noteIncomingTcpHandle packet).sockets := by
  simp only [noteIncomingTcpHandle, markReadyTcpHandle]
  split
  · exact .refl _
  · next handle _ =>
      rw [(enqueueReady_sameStreams _ _).2.2]
      refine StillOpen.modify handle (fun st ho => ?_) rt.sockets
      exact ho

end RuntimeState

open RuntimeState in
theorem Effect.noFin (hT : S.TracksStates) (h : Effect R rt rt') (hc : Consistent rt)
    (hi : NoFin rt) : NoFin rt' := by
  cases h with
  | aside h =>
      have hkept : Follows false rt.stack rt'.stack :=
        .of_hasTcp false (fun i s hs => (h.aside.stack.tcp i s).mp hs)
      refine hi.carry ?_ hkept
      rw [h.aside.sockets]
      exact .refl _
  | @openTcp remoteIp remotePort localPort _ stack reservedSlot _ _ h =>
      intro i st' s hl ho hs
      rw [insertConnection_eq] at hl hs
      rw [finishReserved_stack] at hs
      have hl' : ({ rt with stack }.withConnection rt.stack.sockets.lowestFree
          ⟨localPort, remoteIp, remotePort⟩).sockets.lookup i = some st' := by
        simp only [finishReserved] at hl
        split at hl <;> exact hl
      rw [lookup_withConnection] at hl'
      have hat := open?_hasTcp hT h hs
      split_ifs at hl' hat
      · rw [hat]
        rfl
      · exact hi i st' s hl' ho hat
  | requestClose hl h =>
      refine hi.same ?_ (closeConnection_stack hl h)
      obtain ⟨replies, he⟩ := closeConnection_eq hl
      rw [he] at h
      cases h
      exact .insert hl (fun ho => by cases ho)
  | waiters hl _ => exact hi.same (.insert hl (fun ho => ho)) rfl
  | @event e es h =>
      have hpop : NoFin { rt with socketEvents := es } := hi.same (.refl _) rfl
      exact hpop.same (handleSocketEvent_open _ e) (handleSocketEvent_stack _ e)
  | @incoming _ packet h =>
      obtain ⟨stack, hinject, h⟩ := Outcome.bind_eq_ok.mp h
      cases h
      have hkept : Follows false rt.stack stack := .of_hasTcp false (fun i s hs => by
        obtain ⟨device, _, hinject⟩ := Outcome.bind_eq_ok.mp hinject
        cases hinject
        rw [noteIncomingTcpHandle_stack] at hs
        exact hs)
      exact hi.carry (noteIncoming_open rt packet) hkept
  | poll _ h => exact hi.carry (.refl _) (NetworkStack.pollBounded_follows hT h)
  | egress h => exact hi.carry (.refl _) (NetworkStack.pollEgress_follows hT h)
  | select _ fullSweep => cases fullSweep <;> exact hi.same (.refl _) rfl
  | service _ fullSweep hl h =>
      obtain ⟨v, hv, rfl⟩ := serviceSocket_ok h
      intro i st' s hl' ho hs
      have hl' : (AList.insert _ v.entry rt.sockets).lookup i = some st' := hl'
      rw [Table.lookup_insert] at hl'
      split_ifs at hl' with hne
      · cases hl'
        obtain ⟨hbefore, hf⟩ := Service.run_follows hT hv ho
        obtain ⟨s₀, hs₀, hfollows⟩ := hf i s hs
        have hfin := hi i _ s₀ (hne ▸ hl) hbefore hs₀
        by_contra hno
        rw [hfollows.finSent (Bool.of_not_eq_false hno)] at hfin
        cases hfin
      · exact hi i st' s hl' ho (((Service.run_frame hv).touches.hasTcp hne s).mp hs)
  | release _ _ _ h =>
      have hr := retire_retired hc h
      have hkept : Follows false rt.stack rt'.stack := .of_hasTcp false (fun i s hs =>
        ((NetworkStack.removeSocket_hasTcp (retire_stack h) i s).mp hs).2)
      exact hi.carry (fun i st' hl ho => ⟨st', (hr.lookup_some hl).2, ho⟩) hkept
  | client hx _ h =>
      rw [putStream_eq]
      exact hi.same (.refl _) rfl
  | reset _ params mtu session shared hs hx hn =>
      intro i st' s hl
      cases hl

namespace RuntimeState

-- notify_ready_waiters leaves an entry's waiters alone only where the socket reads as connecting.
def answered (stack : NetworkStack S) (i : SocketHandle) (st : SocketState) : SocketState :=
  if stack.tcpReadiness i = .ok .connecting then st else { st with readyWaiters := [] }

theorem answered_answered (stack : NetworkStack S) (i : SocketHandle) (st : SocketState) :
    answered stack i (answered stack i st) = answered stack i st := by
  simp only [answered]
  split_ifs <;> rfl

theorem answered_of_isEmpty (stack : NetworkStack S) (i : SocketHandle) {st : SocketState}
    (h : st.readyWaiters.isEmpty = true) : answered stack i st = st := by
  have hnone : st.readyWaiters = [] := List.isEmpty_iff.mp h
  simp only [answered]
  split_ifs
  · rfl
  · rw [← hnone]

theorem takeReadyWaiters_answers {acc acc' : RuntimeState S × Notifications}
    (h : takeReadyWaiters acc handle = .ok acc') :
    acc'.1.stack = acc.1.stack ∧ ∀ i, acc'.1.sockets.lookup i =
      if i = handle then (acc.1.sockets.lookup i).map (answered acc.1.stack i)
      else acc.1.sockets.lookup i := by
  simp only [takeReadyWaiters] at h
  split at h
  · next hl =>
      cases h
      refine ⟨rfl, fun i => ?_⟩
      split_ifs with hi
      · rw [hi, hl, Option.map_none]
      · rfl
  · next st hl =>
      have hsame : answered acc.1.stack handle st = st → ∀ i, acc.1.sockets.lookup i =
          if i = handle then (acc.1.sockets.lookup i).map (answered acc.1.stack i)
          else acc.1.sockets.lookup i := by
        intro he i
        split_ifs with hi
        · rw [hi, hl, Option.map_some, he]
        · rfl
      split at h
      · next hempty =>
          cases h
          exact ⟨rfl, hsame (answered_of_isEmpty _ _ hempty)⟩
      · obtain ⟨state, hstate, h⟩ := Outcome.bind_eq_ok.mp h
        split at h
        · next hconnecting =>
            cases h
            rw [hconnecting] at hstate
            exact ⟨rfl, hsame (if_pos hstate)⟩
        · next hconnecting =>
            cases h
            refine ⟨rfl, fun i => ?_⟩
            show (AList.insert handle { st with readyWaiters := [] } acc.1.sockets).lookup i = _
            rw [Table.lookup_insert]
            split_ifs with hi
            · have hne : ¬ acc.1.stack.tcpReadiness handle = .ok .connecting := by
                rw [hstate]
                exact fun he => hconnecting (Outcome.ok_iff.mp he)
              rw [hi, hl, Option.map_some, answered, if_neg hne]
            · rfl

theorem takeReadyWaiters_run {keys : List SocketHandle} {acc acc' : RuntimeState S × Notifications}
    (h : Outcome.run takeReadyWaiters acc keys = .ok acc') :
    acc'.1.stack = acc.1.stack ∧ ∀ i, acc'.1.sockets.lookup i =
      if i ∈ keys then (acc.1.sockets.lookup i).map (answered acc.1.stack i)
      else acc.1.sockets.lookup i := by
  induction keys generalizing acc with
  | nil =>
      cases h
      exact ⟨rfl, fun i => (if_neg (List.not_mem_nil)).symm⟩
  | cons key keys ih =>
      obtain ⟨acc₁, h₁, h⟩ := Outcome.bind_eq_ok.mp h
      obtain ⟨hstack, hfirst⟩ := takeReadyWaiters_answers h₁
      obtain ⟨hstack', hrest⟩ := ih h
      refine ⟨hstack'.trans hstack, fun i => ?_⟩
      rw [hrest, hfirst, hstack]
      by_cases hkey : i = key
      · subst hkey
        simp only [List.mem_cons_self, if_true, Option.map_map]
        split_ifs
        · exact congrArg (fun f => Option.map f _) (funext (answered_answered _ i))
        · rfl
      · simp only [List.mem_cons, hkey, false_or, if_false]

theorem notifyReadyWaiters_answers (h : rt.notifyReadyWaiters = .ok rt') :
    rt'.stack = rt.stack ∧ ∀ i, rt'.sockets.lookup i =
      (rt.sockets.lookup i).map (answered rt.stack i) := by
  obtain ⟨⟨rt₁, notes⟩, hrun, h⟩ := Outcome.bind_eq_ok.mp h
  cases h
  obtain ⟨hstack, hentries⟩ := takeReadyWaiters_run hrun
  have hfold : ∀ (notes : Notifications) (b : RuntimeState S),
      (notes.foldl (fun rt n => rt.replyAll n.1 (.socketState n.2)) b).stack = b.stack ∧
      (notes.foldl (fun rt n => rt.replyAll n.1 (.socketState n.2)) b).sockets = b.sockets := by
    intro notes
    induction notes with
    | nil => exact fun b => ⟨rfl, rfl⟩
    | cons n notes ih =>
        intro b
        obtain ⟨hs, ht⟩ := ih (b.replyAll n.1 (.socketState n.2))
        rw [replyAll_eq] at hs ht
        rw [List.foldl_cons, replyAll_eq]
        exact ⟨hs, ht⟩
  refine ⟨(hfold notes rt₁).1.trans hstack, fun i => ?_⟩
  rw [(hfold notes rt₁).2, hentries]
  split_ifs with hi
  · rfl
  · have hnone : rt.sockets.lookup i = none := AList.lookup_eq_none.mpr hi
    rw [hnone, Option.map_none]

theorem processStateChange_answers (hS : S.KeepsSockets) (H : Hickory) (hc : Consistent rt)
    (h : rt.processStateChange H true = .ok rt') :
    (∀ i s, rt'.stack.HasTcp i s ↔ rt.stack.HasTcp i s) ∧
      ∀ i, rt'.sockets.lookup i = (rt.sockets.lookup i).map (answered rt.stack i) := by
  simp only [processStateChange, if_true] at h
  obtain ⟨rt₁, h₁, h⟩ := Outcome.bind_eq_ok.mp h
  obtain ⟨hstack, hentries⟩ := notifyReadyWaiters_answers h₁
  have hc₁ := (notifyReadyWaiters_effects (R := .any S) hS hc h₁).consistent hS hc
  have hset := (afterNotify_settles (P := .any) hS H trivial hc₁.slotted).settled h
  refine ⟨fun i s => ?_, fun i => ?_⟩
  · rw [hset.aside.stack.tcp, hstack]
  · rw [hset.aside.sockets, hentries]

-- Whoever still waits after the poll that ends a handshake waits at a drained socket.
theorem pollStackCommon_answers (hS : S.KeepsSockets) (hT : S.TracksStates) {H : Hickory}
    (hc : Consistent rt) (hn : NoFin rt) {full : Bool} {sweep : Option Bool}
    (h : rt.pollStackCommon H full = .ok (.polled sweep rt')) {s s' : S.TcpSocket}
    {st st' : SocketState} (hl : rt.sockets.lookup handle = some st)
    (ho : st.closeRequested = false) (hs : rt.stack.HasTcp handle s)
    (hbefore : (S.tcpState s).pastHandshake = false)
    (hl' : rt'.sockets.lookup handle = some st') (hs' : rt'.stack.HasTcp handle s')
    (hafter : (S.tcpState s').pastHandshake = true) :
    st'.readyWaiters = [] ↔
      st.readyWaiters = [] ∨ ¬ (S.tcpState s' = .closeWait ∧ S.tcpRecvQueue s' = 0) := by
  simp only [pollStackCommon] at h
  split at h
  · cases h
  · next outcome stack hpoll =>
      obtain ⟨rt₁, h₁, h⟩ := Outcome.bind_eq_ok.mp h
      cases h
      have hf := NetworkStack.pollBounded_follows hT hpoll
      have hpolled : Effect (.any S) rt { rt with stack } := .poll trivial hpoll
      have hfin := hpolled.noFin hT hc hn
      have hc' := hpolled.consistent hS hc
      have hreported : outcome.socketStateChanged = true := by
        cases hchanged : outcome.socketStateChanged with
        | true => rfl
        | false =>
            rw [hchanged] at h₁
            simp only [processStateChange, Bool.false_eq_true, if_false] at h₁
            cases h₁
            obtain ⟨s₀, hs₀, hfollows⟩ := hf handle s' hs'
            rw [hs₀.unique hs] at hfollows
            rw [← hchanged]
            exact hfollows.reported hbefore hafter
      rw [hreported] at h₁
      obtain ⟨htcp, hentries⟩ := processStateChange_answers hS H hc' h₁
      have hs₁ : stack.HasTcp handle s' := (htcp handle s').mp hs'
      have hentry : some st' = some (answered stack handle st) := by
        rw [← hl', hentries]
        exact congrArg (Option.map _) hl
      rw [Option.some.inj hentry, answered,
        ← stack.tcpReadiness_iff hT hs₁ hafter (hfin handle st s' hl ho hs₁)]
      split_ifs with hconnecting
      · simp only [hconnecting, not_true, or_false]
      · exact iff_of_true rfl (.inr hconnecting)

end RuntimeState

namespace System

variable {H : Hickory} {s : System S}

theorem Reachable.noFin (hS : S.KeepsSockets) (hT : S.TracksStates) {params : ConnectionParams}
    (h : Reachable H params s) : s.rt.NoFin :=
  h.invariant hS (fun _ _ _ hl => by cases hl) (fun _ _ hc hi he => he.noFin hT hc hi)

theorem handshake_reported_iff (hS : S.KeepsSockets) (hT : S.TracksStates)
    {params : ConnectionParams} (h : Reachable H params s) :
    (∀ handle st socket, s.rt.sockets.lookup handle = some st → st.closeRequested = false →
      s.rt.stack.HasTcp handle socket → (S.tcpState socket).pastHandshake = true →
      (s.rt.getTcpSocketState handle ≠ .ok .connecting ↔
        ¬ (S.tcpState socket = .closeWait ∧ S.tcpRecvQueue socket = 0)) ∧
      (∃ state, s.rt.getTcpSocketState handle = .ok state ∧
        ∀ notes, st.readyWaiters ≠ [] →
          (RuntimeState.takeReadyWaiters (s.rt, notes) handle).map Prod.snd =
            .ok (if state = .connecting then notes else notes ++ [(st.readyWaiters, state)]))) ∧
    ∀ full sweep rt', s.rt.pollStackCommon H full = .ok (.polled sweep rt') →
      ∀ handle st socket st' socket', s.rt.sockets.lookup handle = some st →
        st.closeRequested = false → s.rt.stack.HasTcp handle socket →
        (S.tcpState socket).pastHandshake = false → rt'.sockets.lookup handle = some st' →
        rt'.stack.HasTcp handle socket' → (S.tcpState socket').pastHandshake = true →
        (st'.readyWaiters = [] ↔ st.readyWaiters = [] ∨
          ¬ (S.tcpState socket' = .closeWait ∧ S.tcpRecvQueue socket' = 0)) := by
  have hfin := h.noFin hS hT
  have hc := (h.sound hS).consistent
  constructor
  · intro handle st socket hl ho hs hpast
    have hget : s.rt.getTcpSocketState handle = s.rt.stack.tcpReadiness handle := by
      simp only [RuntimeState.getTcpSocketState, hl, ho, Bool.false_eq_true, if_false]
    constructor
    · rw [hget]
      exact not_congr (s.rt.stack.tcpReadiness_iff hT hs hpast (hfin handle st socket hl ho hs))
    · obtain ⟨state, hstate⟩ := s.rt.stack.tcpReadiness_ok hs
      refine ⟨state, hget.trans hstate, fun notes hwaiting => ?_⟩
      have hsome : st.readyWaiters.isEmpty = false := by
        rwa [List.isEmpty_eq_false_iff]
      simp only [RuntimeState.takeReadyWaiters, hl, hsome, Bool.false_eq_true, if_false, hstate,
        Outcome.ok_bind]
      split_ifs <;> rfl
  · intro full sweep rt' hpoll handle st socket st' socket' hl ho hs hbefore hl' hs' hafter
    exact RuntimeState.pollStackCommon_answers hS hT hc hfin hpoll hl ho hs hbefore hl' hs' hafter

def socketAt (rt : RuntimeState Reference.smoltcp) (handle : SocketHandle) :
    Option (SocketState × Reference.Tcp) :=
  match rt.sockets.lookup handle, rt.stack.sockets.get? handle with
  | some st, some (.tcp socket) =>
      if handle ∈ rt.stack.validHandles then some (st, socket) else none
  | _, _ => none

theorem socketAt_some {rt : RuntimeState Reference.smoltcp} {handle : SocketHandle}
    {st : SocketState} {socket : Reference.Tcp} (h : socketAt rt handle = some (st, socket)) :
    rt.sockets.lookup handle = some st ∧ rt.stack.HasTcp handle socket := by
  simp only [socketAt] at h
  split at h
  · next hl hs =>
      split_ifs at h with hv
      cases h
      exact ⟨hl, hv, hs⟩
  · cases h

def afterPoll (s : Script.Reached) : Option (RuntimeState Reference.smoltcp) :=
  match s.rt.pollStackCommon Script.hickory true with
  | .ok (.polled _ rt) => some rt
  | _ => none

theorem afterPoll_some {s : Script.Reached} {rt : RuntimeState Reference.smoltcp}
    (h : afterPoll s = some rt) :
    ∃ sweep, s.rt.pollStackCommon Script.hickory true = .ok (.polled sweep rt) := by
  simp only [afterPoll] at h
  split at h
  · next sweep rt' hpoll =>
      cases h
      exact ⟨sweep, hpoll⟩
  · cases h

def waiting : List Label :=
  Script.establish ++ Script.connect 5000 0 ++ [Script.refresh] ++ Script.timerPoll ++
    Script.sweepAndSend ++
    [.client 0 .waitReady, .manager (.checkAlive true), .manager (.command 0)] ++
    Script.skipDrains ++ [.manager .advance, Script.refresh]

def segmentIn (flags : Nat) : List Label :=
  Script.receive (Script.segment 5000 flags []) ++
    [.manager .advance, .manager .advance, Script.refresh]

def atPoll : List Label := [.manager (.checkAlive true), .manager .pollTimer]

theorem handshake_reported_established :
    ∃ s : Script.Reached, ∃ rt st, afterPoll s = some rt ∧ rt.sockets.lookup 0 = some st ∧
      st.readyWaiters = [] := by
  have h : (Script.run (waiting ++ segmentIn (Reference.tcpSyn + Reference.tcpAck) ++
      atPoll)).any (fun s =>
      (socketAt s.rt 0).any (fun p => p.1.closeRequested = false ∧ p.2.state = .synSent) ∧
      (afterPoll s).any (fun rt => (socketAt rt 0).any (fun p => p.2.state = .established))) =
      true := by decide +kernel
  obtain ⟨s, hs, hp⟩ := Script.exists_reachable h
  obtain ⟨hbefore, hpoll⟩ := of_decide_eq_true hp
  obtain ⟨⟨st, socket⟩, hat, hp⟩ := (Option.any_eq_true _ _).mp hbefore
  obtain ⟨rt, hrt, hafter⟩ := (Option.any_eq_true _ _).mp hpoll
  obtain ⟨⟨st', socket'⟩, hat', hp'⟩ := (Option.any_eq_true _ _).mp hafter
  obtain ⟨ho, hsyn⟩ := of_decide_eq_true hp
  have hestablished := of_decide_eq_true hp'
  obtain ⟨hl, ht⟩ := socketAt_some hat
  obtain ⟨hl', ht'⟩ := socketAt_some hat'
  obtain ⟨sweep, hpolled⟩ := afterPoll_some hrt
  have hiff := (handshake_reported_iff Reference.keepsSockets Reference.tracksStates hs).2
    true sweep rt hpolled 0 st socket st' socket' hl ho ht (congrArg TcpState.pastHandshake hsyn)
    hl' ht' (congrArg TcpState.pastHandshake hestablished)
  refine ⟨s, rt, st', hrt, hl', hiff.mpr (.inr (fun hdrained => ?_))⟩
  have hclose : socket'.state = .closeWait := hdrained.1
  rw [hestablished] at hclose
  cases hclose

-- The peer's SYN and FIN are processed in one poll: the waiter is left, the socket connecting.
theorem handshake_reported_connecting :
    ∃ s t : Script.Reached, Reachable Script.hickory Script.params s ∧
      step Script.hickory s (.manager .advance) = some t ∧ s.pc = .poll true false ∧
      (socketAt s.rt 0).any (fun p => p.1.closeRequested = false ∧ p.2.state = .synSent) ∧
      (socketAt t.rt 0).any (fun p => p.1.closeRequested = false ∧ p.2.state = .closeWait ∧
        p.1.readyWaiters = [1]) ∧
      t.rt.getTcpSocketState 0 = .ok .connecting := by
  have h : (Script.run (waiting ++ segmentIn (Reference.tcpSyn + Reference.tcpAck) ++
      segmentIn (Reference.tcpFin + Reference.tcpAck) ++ atPoll)).any (fun s =>
      s.pc = .poll true false ∧
      (socketAt s.rt 0).any (fun p => p.1.closeRequested = false ∧ p.2.state = .synSent) ∧
      (step Script.hickory s (.manager .advance)).any (fun t =>
        (socketAt t.rt 0).any (fun p => p.1.closeRequested = false ∧ p.2.state = .closeWait ∧
          p.1.readyWaiters = [1]) ∧
        t.rt.getTcpSocketState 0 = .ok .connecting)) = true := by decide +kernel
  obtain ⟨s, hs, hp⟩ := Script.exists_reachable h
  obtain ⟨hpc, hbefore, hstep⟩ := of_decide_eq_true hp
  obtain ⟨t, ht, hafter⟩ := (Option.any_eq_true _ _).mp hstep
  obtain ⟨hsocket, hstate⟩ := of_decide_eq_true hafter
  exact ⟨s, t, hs, ht, hpc, hbefore, hsocket, hstate⟩

end System

end Usque
