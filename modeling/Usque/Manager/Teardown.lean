import Usque.Manager.Accounts
import Usque.Manager.Script

namespace Usque

variable {S : Smoltcp}

-- The tasks of a client: `reader` waits in poll_read, `writer` in poll_write, poll_flush or
-- poll_shutdown. A ghost beside the system: set by a Pending result, cleared by a wake.
structure Waiting where
  reader : Bool
  writer : Bool
deriving DecidableEq, Repr

namespace Waiting

def polled (w : Waiting) (c : SocketStreamHandle) : ClientOp → Waiting
  | .read n => { w with reader := (c.pollRead n).1 = .pending }
  | .write buf => { w with writer := (c.pollWrite buf).1 = .pending }
  | .flush => { w with writer := c.pollFlush.1 = .pending }
  | .shutdown => { w with writer := c.pollShutdown.1 = .pending }
  | .drop => ⟨false, false⟩
  | _ => w

def woken (w : Waiting) (c c' : SocketStreamHandle) : Waiting where
  reader := w.reader && c'.recvWaker.wakes = c.recvWaker.wakes
  writer := w.writer && c'.sendWaker.wakes = c.sendWaker.wakes

end Waiting

structure Watched (S : Smoltcp) where
  sys : System S
  waiting : StreamId → Waiting

namespace Watched

variable (H : Hickory)

def init (S : Smoltcp) (params : ConnectionParams) : Watched S :=
  ⟨.init S params, fun _ => ⟨false, false⟩⟩

def polls (w : Watched S) (label : Label) (x : StreamId) : Waiting :=
  match label with
  | .client y op => if y = x then (w.waiting x).polled (w.sys.rt.stream x) op else w.waiting x
  | _ => w.waiting x

def step (w : Watched S) (label : Label) : Option (Watched S) :=
  (w.sys.step H label).map (fun t =>
    ⟨t, fun x => (w.polls label x).woken (w.sys.rt.stream x) (t.rt.stream x)⟩)

def Reachable (params : ConnectionParams) (w : Watched S) : Prop :=
  Run.Reaches (step H) Run.Any (init S params) w

def held (w : Watched S) (x : StreamId) : Prop := (w.sys.clients x).phase = .holding

instance (w : Watched S) : DecidablePred w.held :=
  fun x => inferInstanceAs (Decidable ((w.sys.clients x).phase = .holding))

-- The run that created the stream is over.
def gone (w : Watched S) (x : StreamId) : Prop :=
  (w.sys.rt.stream x).socketNotifier < w.sys.rt.session

instance (w : Watched S) : DecidablePred w.gone :=
  fun x => inferInstanceAs (Decidable ((w.sys.rt.stream x).socketNotifier < w.sys.rt.session))

def closed (w : Watched S) (x : StreamId) : Prop :=
  (w.sys.rt.stream x).socketClosed = true ∨
    (w.sys.rt.stream x).readClosed = true ∧ (w.sys.rt.stream x).writeClosed = true

structure Ended (w : Watched S) (x : StreamId) : Prop where
  closed : w.closed x
  reader : (w.waiting x).reader = false
  writer : (w.waiting x).writer = false

def StreamsEnded (w : Watched S) : Prop := ∀ x, w.held x → w.gone x → w.Ended x

-- What the end of a run needs: no connection that a client holds is still half open, and no
-- client waits for bytes to leave.
structure Spared (w : Watched S) : Prop where
  closed : ∀ st ∈ Table.values w.sys.rt.sockets, w.held st.stream → w.closed st.stream
  writer : ∀ x < w.sys.rt.shared.nextStream, w.held x →
    (w.sys.rt.stream x).socketNotifier = w.sys.rt.session → (w.waiting x).writer = false

def endsRun (w : Watched S) (label : Label) : Bool :=
  w.sys.pc ≠ .disconnected && (w.sys.step H label).any (fun t => t.pc = .disconnected)

def flushesDrained (w : Watched S) (label : Label) : Prop :=
  match label with
  | .client x .flush | .client x .shutdown =>
      w.gone x → (w.sys.rt.stream x).sendBuffer.isEmpty = true
  | _ => True

instance (w : Watched S) : DecidablePred w.closed :=
  fun x => inferInstanceAs (Decidable ((w.sys.rt.stream x).socketClosed = true ∨
    (w.sys.rt.stream x).readClosed = true ∧ (w.sys.rt.stream x).writeClosed = true))

instance (w : Watched S) : Decidable w.Spared :=
  decidable_of_iff
    ((∀ st ∈ Table.values w.sys.rt.sockets, w.held st.stream → w.closed st.stream) ∧
      ∀ x < w.sys.rt.shared.nextStream, w.held x →
        (w.sys.rt.stream x).socketNotifier = w.sys.rt.session → (w.waiting x).writer = false)
    ⟨fun h => ⟨h.1, h.2⟩, fun h => ⟨h.closed, h.writer⟩⟩

instance (w : Watched S) : DecidablePred w.flushesDrained := fun label => by
  unfold flushesDrained
  split <;> infer_instance

structure EndsClean (w : Watched S) (label : Label) : Prop where
  spared : w.endsRun H label = true → w.Spared
  drained : w.flushesDrained label

instance (w : Watched S) : DecidablePred (w.EndsClean H) := fun label =>
  decidable_of_iff ((w.endsRun H label = true → w.Spared) ∧ w.flushesDrained label)
    ⟨fun h => ⟨h.1, h.2⟩, fun h => ⟨h.spared, h.drained⟩⟩

variable {H : Hickory} {w w' : Watched S} {l : Label} {x : StreamId}

theorem step_some (h : w.step H l = some w') :
    w.sys.step H l = some w'.sys ∧ ∀ x, w'.waiting x =
      (w.polls l x).woken (w.sys.rt.stream x) (w'.sys.rt.stream x) := by
  obtain ⟨t, ht, rfl⟩ := Option.map_eq_some_iff.mp h
  exact ⟨ht, fun _ => rfl⟩

theorem polls_manager (hl : ∀ op, l ≠ .client x op) : w.polls l x = w.waiting x := by
  cases l with
  | client y op =>
      simp only [polls]
      split
      · next hy => exact absurd (hy ▸ rfl) (hl op)
      · rfl
  | _ => rfl

theorem polls_reader (h : (w.polls l x).reader = true) :
    (∃ n, l = .client x (.read n) ∧ ((w.sys.rt.stream x).pollRead n).1 = .pending) ∨
      (w.waiting x).reader = true := by
  by_cases hl : ∃ op, l = .client x op
  · obtain ⟨op, rfl⟩ := hl
    simp only [polls, if_true] at h
    cases op with
    | read n => exact .inl ⟨n, rfl, of_decide_eq_true h⟩
    | drop => cases h
    | write _ | flush | shutdown | close | getState | waitReady | finish => exact .inr h
  · rw [polls_manager (fun op he => hl ⟨op, he⟩)] at h
    exact .inr h

theorem polls_writer (h : (w.polls l x).writer = true) :
    (∃ buf, l = .client x (.write buf) ∧ ((w.sys.rt.stream x).pollWrite buf).1 = .pending) ∨
      ((l = .client x .flush ∨ l = .client x .shutdown) ∧
        (w.sys.rt.stream x).pollFlush.1 = .pending) ∨ (w.waiting x).writer = true := by
  by_cases hl : ∃ op, l = .client x op
  · obtain ⟨op, rfl⟩ := hl
    simp only [polls, if_true] at h
    cases op with
    | write buf => exact .inl ⟨buf, rfl, of_decide_eq_true h⟩
    | flush => exact .inr (.inl ⟨.inl rfl, of_decide_eq_true h⟩)
    | shutdown =>
        refine .inr (.inl ⟨.inr rfl, ?_⟩)
        have hp : (w.sys.rt.stream x).pollShutdown.1 = .pending := of_decide_eq_true h
        simp only [SocketStreamHandle.pollShutdown] at hp
        split at hp
        · next hf => rw [hf]
        · split at hp <;> cases hp
    | drop => cases h
    | read _ | close | getState | waitReady | finish => exact .inr (.inr h)
  · rw [polls_manager (fun op he => hl ⟨op, he⟩)] at h
    exact .inr (.inr h)

theorem pollRead_pending {c : SocketStreamHandle} {n : Nat} (h : (c.pollRead n).1 = .pending) :
    (c.pollRead n).2.1 = { c with recvWaker := c.recvWaker.register } ∧
      c.socketClosed = false ∧ c.readClosed = false := by
  cases he : c.recvBuffer.isEmpty with
  | false => simp [SocketStreamHandle.pollRead, SocketStreamHandle.readBytes, he] at h
  | true =>
      cases hs : c.socketClosed <;> cases hr : c.readClosed <;>
        simp [SocketStreamHandle.pollRead, he, hs, hr] at h ⊢

theorem pollWrite_pending {c : SocketStreamHandle} {buf : List UInt8}
    (h : (c.pollWrite buf).1 = .pending) : c.writeClosed = false := by
  simp only [SocketStreamHandle.pollWrite] at h
  split at h
  · cases h
  · next hopen =>
      simp only [Bool.not_eq_true, Bool.or_eq_false_iff] at hopen
      exact hopen.1

theorem pollFlush_pending {c : SocketStreamHandle} (h : c.pollFlush.1 = .pending) :
    c.sendBuffer.isEmpty = false := by
  simp only [SocketStreamHandle.pollFlush] at h
  split at h
  · cases h
  · next he => exact Bool.not_eq_true _ ▸ he

-- A task that waits for bytes is registered with an open connection.
structure Watch (w : Watched S) : Prop where
  sound : w.sys.Sound
  live : w.sys.Live
  sealed : ∀ x, Sealed (w.sys.rt.stream x)
  reader : ∀ x, (w.waiting x).reader = true → x < w.sys.rt.shared.nextStream ∧
    (w.sys.rt.stream x).recvWaker.registered = true ∧
      (w.sys.rt.stream x).socketClosed = false ∧ (w.sys.rt.stream x).readClosed = false

theorem Watch.readClosed (hw : Watch w) (h : w.closed x) :
    (w.sys.rt.stream x).readClosed = true ∧ (w.sys.rt.stream x).writeClosed = true := by
  rcases h with hs | hc
  · exact hw.sealed x hs
  · exact hc

theorem Watch.ended (hw : Watch w) (hc : w.closed x) (hwr : (w.waiting x).writer = false) :
    w.Ended x := by
  refine ⟨hc, ?_, hwr⟩
  by_contra hr
  obtain ⟨_, _, _, hopen⟩ := hw.reader x (Bool.not_eq_false _ ▸ hr)
  rw [(hw.readClosed hc).1] at hopen
  cases hopen

theorem clientRead_step {s t : System S} {n : Nat} (h : s.clientStep x (.read n) = some t) :
    (s.clients x).phase = .holding ∧ t.rt.shared.nextStream = s.rt.shared.nextStream ∧
      t.rt.stream x = ((s.rt.stream x).pollRead n).2.1 := by
  simp only [System.clientStep] at h
  split at h <;> cases h
  next hp =>
    refine ⟨hp, ?_, ?_⟩
    · simp only [System.streamOp, RuntimeState.putStream_eq]
      rfl
    · exact (RuntimeState.stream_putStream s.rt x x _).trans (if_pos rfl)

variable (hS : S.KeepsSockets)

include hS in
theorem step_watch (hw : Watch w) (h : w.step H l = some w') : Watch w' := by
  obtain ⟨ht, hwait⟩ := step_some h
  have hsound := System.step_sound hS hw.sound ht
  have heff := System.step_effects hS hw.sound (System.permits_any w.sys l) ht
  have hsig := heff.signals hS hw.sound.consistent
  refine ⟨hsound, (System.step_turn hS hw.sound ht).live hw.sound hw.live,
    fun x => hsig.isSealed (hw.sealed x), fun x hr => ?_⟩
  rw [hwait] at hr
  simp only [Waiting.woken, Bool.and_eq_true, decide_eq_true_eq] at hr
  obtain ⟨hpoll, hwakes⟩ := hr
  rcases polls_reader hpoll with ⟨n, rfl, hpend⟩ | hold
  · obtain ⟨hheld, hnext, hstream⟩ := clientRead_step ht
    obtain ⟨hc, hs, hr⟩ := pollRead_pending hpend
    rw [hc] at hstream
    refine ⟨?_, by rw [hstream]; rfl, by rw [hstream]; exact hs, by rw [hstream]; exact hr⟩
    rw [hnext]
    exact hw.sound.born x (by rw [hheld]; simp)
  · obtain ⟨hx, hreg, hopen⟩ := hw.reader x hold
    have hs := hsig.signals hx
    refine ⟨Nat.lt_of_lt_of_le hx (heff.nextStream_le hS hw.sound.consistent), ?_, ?_⟩
    · rw [hs.recv.kept hreg hwakes]
      exact hreg
    · rcases hs.reader with ⟨hsc, hrc⟩ | hwoken
      · exact ⟨hsc.trans hopen.1, hrc.trans hopen.2⟩
      · exact absurd hwakes (hwoken hreg)

theorem init_watch (params : ConnectionParams) : Watch (init S params) :=
  ⟨System.init_sound params, System.init_live params, (fun _ hs => by cases hs),
    (fun _ hr => by cases hr)⟩

-- A step that ends or begins a run is the manager's: no task starts to wait in it.
theorem waiting_of_pc (h : w.step H l = some w') (hpc : w'.sys.pc ≠ w.sys.pc)
    (hx : (w'.waiting x).writer = true) : (w.waiting x).writer = true := by
  obtain ⟨ht, hwait⟩ := step_some h
  rw [hwait, polls_manager (fun op he => ?_)] at hx
  · exact ((Bool.and_eq_true _ _).mp hx).1
  · subst he
    exact absurd (System.clientStep_pc ht) hpc

theorem mem_values_of_owner {rt : RuntimeState S} {i : SocketHandle} (h : rt.owner i = some x) :
    ∃ st ∈ Table.values rt.sockets, st.stream = x := by
  obtain ⟨st, hl, rfl⟩ := owner_eq_some.mp h
  exact ⟨st, List.mem_map.mpr ⟨⟨i, st⟩, AList.mem_lookup_iff.mp hl, rfl⟩, rfl⟩

theorem Spared.ended (hp : w.Spared) (hw : Watch w) (hx : w.held x)
    (hn : (w.sys.rt.stream x).socketNotifier = w.sys.rt.session) : w.Ended x := by
  have hlt := hw.sound.born x (by rw [show (w.sys.clients x).phase = .holding from hx]; simp)
  refine hw.ended ?_ (hp.writer x hlt hx hn)
  rcases hw.live.up x hlt hn with ⟨i, hi⟩ | hr
  · obtain ⟨st, hst, rfl⟩ := mem_values_of_owner hi
    exact hp.closed st hst hx
  · exact .inl hr.1

theorem teardown_stream (s : System S) (x : StreamId) :
    s.teardown.rt.stream x = s.rt.stream x := by
  simp only [System.teardown, RuntimeState.replyAll_eq]
  rfl

theorem teardown_session (s : System S) : s.teardown.rt.session = s.rt.session + 1 := by
  simp only [System.teardown, RuntimeState.replyAll_eq]
  rfl

theorem teardown_nextStream (s : System S) :
    s.teardown.rt.shared.nextStream = s.rt.shared.nextStream := by
  simp only [System.teardown, RuntimeState.replyAll_eq]
  rfl

theorem closed_congr (h : w'.sys.rt.stream x = w.sys.rt.stream x) (hc : w.closed x) :
    w'.closed x := by
  simp only [closed, h]
  exact hc

-- The stream is as it was, and the step is the manager's.
theorem Ended.same (he : w.Ended x) (hw' : Watch w') (h : w.step H l = some w')
    (hpc : w'.sys.pc ≠ w.sys.pc) (hx : w'.sys.rt.stream x = w.sys.rt.stream x) : w'.Ended x := by
  refine hw'.ended (closed_congr hx he.closed) (Bool.eq_false_iff.mpr (fun hwr => ?_))
  have hold := waiting_of_pc h hpc hwr
  rw [he.writer] at hold
  cases hold

theorem teardown_ended (hp : w.Spared) (hi : w.StreamsEnded) (hw : Watch w) (hw' : Watch w')
    (h : w.step H l = some w') (up : w.sys.pc ≠ .disconnected) (ht : w'.sys = w.sys.teardown)
    (hx : w.held x) : w'.Ended x := by
  have hpc : w'.sys.pc ≠ w.sys.pc := by
    rw [ht]
    exact Ne.symm up
  have hlt := hw.sound.born x (by rw [show (w.sys.clients x).phase = .holding from hx]; simp)
  have he : w.Ended x := by
    rcases Nat.lt_or_eq_of_le (hw.sound.consistent.tracked.sessions x hlt) with hgone | hn
    · exact hi x hx hgone
    · exact hp.ended hw hx hn
  exact he.same hw' h hpc (by rw [ht, teardown_stream])

theorem goes_ended (he : w.Ended x) (hw : Watch w) (hw' : Watch w') (hg : w.flushesDrained l)
    (h : w.step H l = some w') (hs : Signals (w.sys.rt.stream x) (w'.sys.rt.stream x))
    (hgone : w.gone x) : w'.Ended x := by
  obtain ⟨_, hwait⟩ := step_some h
  have hflags := hw.readClosed he.closed
  refine hw'.ended (.inr ⟨hs.readClosed hflags.1, hs.writeClosed hflags.2⟩)
    (Bool.eq_false_iff.mpr (fun hwr => ?_))
  rw [hwait] at hwr
  rcases polls_writer ((Bool.and_eq_true _ _).mp hwr).1 with ⟨buf, _, hp⟩ | ⟨hl, hp⟩ | hold
  · rw [pollWrite_pending hp] at hflags
    cases hflags.2
  · have hdrained : (w.sys.rt.stream x).sendBuffer.isEmpty = true := by
      rcases hl with rfl | rfl <;> exact hg hgone
    rw [pollFlush_pending hp] at hdrained
    cases hdrained
  · rw [he.writer] at hold
    cases hold

theorem holding_of_turns {p q : ClientPhase} (h : p.turns q) (hq : q = .holding) :
    p = .holding := by
  rcases h with rfl | ⟨_, rfl⟩ | ⟨_, rfl⟩
  · exact hq
  · cases hq
  · cases hq

include hS in
theorem step_streamsEnded (hw : Watch w) (hi : w.StreamsEnded) (hg : w.EndsClean H l)
    (h : w.step H l = some w') : w'.StreamsEnded := by
  have hw' := step_watch hS hw h
  have ht := (step_some h).1
  have hle := (System.step_effects hS hw.sound (System.permits_any w.sys l) ht).nextStream_le hS
    hw.sound.consistent
  intro x hheld hgone
  have hphase := System.step_phase ht hle x
  cases System.step_turn hS hw.sound ht with
  | ends up heq =>
      have hp : w.Spared := hg.spared (by
        simp only [endsRun, ht, heq, Option.any_some, Bool.and_eq_true, decide_eq_true_eq]
        exact ⟨up, rfl⟩)
      rcases hphase with hturn | ⟨hlo, hhi⟩
      · exact teardown_ended hp hi hw hw' h up heq (holding_of_turns hturn hheld)
      · rw [heq, teardown_nextStream] at hhi
        exact absurd hhi (Nat.not_lt.mpr hlo)
  | begins down up session next streams =>
      rcases hphase with hturn | ⟨hlo, hhi⟩
      · have hgone' : w.gone x := by
          simp only [gone, streams, session] at hgone
          exact hgone
        exact (hi x (holding_of_turns hturn hheld) hgone').same hw' h
          (fun he => up (he.trans down)) (streams x)
      · exact absurd (next ▸ hhi) (Nat.not_lt.mpr hlo)
  | goes hacc _ _ =>
      rcases Nat.lt_or_ge x w.sys.rt.shared.nextStream with hx | hx
      · have hs := hacc.signals.signals hx
        have hgone' : w.gone x := by
          simp only [gone, hs.notifier, hacc.session] at hgone
          exact hgone
        have hturn := hphase.resolve_right (fun hb => absurd hx (Nat.not_lt.mpr hb.1))
        exact goes_ended (hi x (holding_of_turns hturn hheld) hgone') hw hw' hg.drained h hs hgone'
      · have hlt := hw'.sound.born x
          (by rw [show (w'.sys.clients x).phase = .holding from hheld]; simp)
        have hn := (hacc.born x hx hlt).1
        exact absurd hgone (by simp only [gone, hn]; exact Nat.lt_irrefl _)

include hS in
theorem Reachable.watch {params : ConnectionParams} (h : Reachable H params w) : Watch w :=
  Run.Reaches.invariant (fun _ _ _ hw _ hs => step_watch hS hw hs) h (init_watch params)

-- In a run in which every tunnel ends like this, no client is left waiting for a stack that is gone.
theorem streams_ended (hS : S.KeepsSockets) (H : Hickory) (params : ConnectionParams)
    {w : Watched S} (h : Run.Reaches (step H) (EndsClean H) (init S params) w) :
    w.StreamsEnded := by
  have hboth : Watch w ∧ w.StreamsEnded := by
    refine Run.Reaches.invariant (I := fun w => Watch w ∧ w.StreamsEnded) ?_ h
      ⟨init_watch params, (fun _ hx => by cases hx)⟩
    exact fun w l w' ⟨hw, hi⟩ hg hs => ⟨step_watch hS hw hs, step_streamsEnded hS hw hi hg hs⟩
  exact hboth.2

theorem owner_of_mem_values {rt : RuntimeState S} {st : SocketState}
    (h : st ∈ Table.values rt.sockets) : ∃ i, rt.sockets.lookup i = some st := by
  obtain ⟨⟨i, st'⟩, hm, rfl⟩ := List.mem_map.mp h
  exact ⟨i, AList.mem_lookup_iff.mpr hm⟩

-- At the end of a run, the condition is also needed.
theorem teardown_ended_iff (hS : S.KeepsSockets) {params : ConnectionParams}
    (hr : Reachable H params w) (h : w.step H l = some w') (hend : w.endsRun H l = true) :
    (∀ x, w.held x → (w.sys.rt.stream x).socketNotifier = w.sys.rt.session → w'.Ended x) ↔
      w.Spared := by
  have hw := hr.watch hS
  have hw' := step_watch hS hw h
  obtain ⟨ht, hwait⟩ := step_some h
  simp only [endsRun, ht, Option.any_some, Bool.and_eq_true, decide_eq_true_eq] at hend
  have hpc : w'.sys.pc ≠ w.sys.pc := fun he => hend.1 (he.symm.trans hend.2)
  have heq : w'.sys = w.sys.teardown := by
    cases System.step_turn hS hw.sound ht with
    | ends _ heq => exact heq
    | begins down => exact absurd down hend.1
    | goes _ pc => exact absurd (pc.mp hend.2) hend.1
  have hstream : ∀ x, w'.sys.rt.stream x = w.sys.rt.stream x := fun x => by
    rw [heq, teardown_stream]
  constructor
  · intro he
    constructor
    · intro st hst hx
      obtain ⟨i, hl⟩ := owner_of_mem_values hst
      have hn := hw.sound.consistent.tracked.notifier i st hl
      exact closed_congr (hstream st.stream).symm (he st.stream hx hn).closed
    · intro x _ hx hn
      have hfree := (he x hx hn).writer
      rw [hwait, polls_manager (fun op hl => hpc (System.clientStep_pc (hl ▸ ht))), hstream] at hfree
      simpa [Waiting.woken] using hfree
  · intro hp x hx hn
    exact (hp.ended hw hx hn).same hw' h hpc (hstream x)

end Watched

namespace Script

def watchedRun (labels : List Label) : Option (Watched Reference.smoltcp) :=
  Run.exec (Watched.step hickory) (Watched.init Reference.smoltcp params) labels

-- The client waits in poll_read when the tunnel dies.
def tunnelLost : List Label :=
  establish ++ established 5000 0 ++ [.client 0 (.read 4), .manager (.checkAlive false)]

-- The client waits in poll_read, the peer refuses the connection, and then the tunnel dies.
def refusedThenLost : List Label :=
  establish ++ connect 5000 0 ++ [.client 0 (.read 4), refresh] ++ timerPoll ++ sweepAndSend ++
    receive (segment 5000 (Reference.tcpRst + Reference.tcpAck) []) ++
    [.manager .advance, .manager .advance, refresh] ++ timerPoll ++ sweepAndSend ++
    [.manager (.checkAlive false)]

end Script

namespace Watched

theorem reader_stranded : ∃ w : Watched Reference.smoltcp,
    Reachable Script.hickory Script.params w ∧ w.held 0 ∧ w.gone 0 ∧ ¬ w.closed 0 ∧
      (w.waiting 0).reader = true := by
  have h : (Script.watchedRun Script.tunnelLost).any (fun w =>
      w.held 0 ∧ w.gone 0 ∧ ¬ w.closed 0 ∧ (w.waiting 0).reader = true) = true := by
    decide +kernel
  obtain ⟨w, hw, hp⟩ := (Option.any_eq_true _ _).mp h
  exact ⟨w, Run.exec_reaches hw, of_decide_eq_true hp⟩

theorem streams_ended_refused : ∃ w : Watched Reference.smoltcp,
    w.StreamsEnded ∧ w.held 0 ∧ w.gone 0 := by
  have h : (Script.watchedRun Script.refusedThenLost).any (fun w =>
      w.held 0 ∧ w.gone 0) = true := by
    decide +kernel
  have hg : Run.Guarded (step Script.hickory) (EndsClean Script.hickory)
      (init Reference.smoltcp Script.params) Script.refusedThenLost := by
    decide +kernel
  obtain ⟨w, hw, hp⟩ := (Option.any_eq_true _ _).mp h
  exact ⟨w, streams_ended Reference.keepsSockets Script.hickory Script.params
    (Run.exec_guarded hw hg), of_decide_eq_true hp⟩

end Watched

end Usque
