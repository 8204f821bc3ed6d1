import Usque.Manager.PollStages

namespace Usque

namespace StreamRun

-- Nothing is left to send, or the owner has dropped the stream.
def clean (s : StreamRun) : Bool := s.poll.dropping || s.emptied

def RetiresClean (s : StreamRun) (label : StreamLabel) : Prop :=
  match label with
  | .manager _ => s.socket.pc = .retireWriteClosed → s.clean = true
  | _ => True

def level (s : StreamRun) : Nat := s.socket.pc.retireLevel

structure Parks (s : StreamRun) : Prop where
  sane : s.poll.Sane
  stored : s.socket.pc.Stored s.stream
  late : s.late = true → 4 ≤ s.level
  clean : 4 ≤ s.level → s.clean = true
  readStage : s.poll.readStage = true → s.readParked = false
  sendStage : s.poll.sendStage = true → s.sendParked = false
  recvArmed : s.readParked = true ∨ s.poll.readArmed = true → s.stream.recvWaker.Armed s.recvMark
  sendArmed : s.sendParked = true ∨ s.poll.sendArmed = true → s.stream.sendWaker.Armed s.sendMark
  recvFired : 5 ≤ s.level → s.readParked = true → s.stream.recvWaker.Fired s.recvMark
  sendFired : 6 ≤ s.level → s.sendParked = true → s.stream.sendWaker.Fired s.sendMark
  settled : s.late = true → s.poll.readPending = false ∧ s.poll.sendPending = false

variable {s t : StreamRun}

theorem Starts.parks (h : Starts s) : Parks s := by
  obtain ⟨handle, sendCapacity, recvCapacity, socketNotifier, tcpChunkSize, rfl⟩ := h
  constructor
  · trivial
  · constructor <;> intro hk <;> simp [init, SweepPc.retireLevel] at hk
  · rintro ⟨⟩
  · intro hk
    simp [level, init, SweepPc.retireLevel] at hk
  · rintro ⟨⟩
  · rintro ⟨⟩
  · rintro (h | h) <;> cases h
  · rintro (h | h) <;> cases h
  · rintro ⟨⟩
  · rintro ⟨⟩
  · rintro ⟨⟩

structure StartFacts (op : ClientOp) (pc : PollPc) (c : SocketStreamHandle) : Prop where
  readStage : pc.readStage = true → op.usesRead = true
  sendStage : pc.sendStage = true → op.usesSend = true
  readArmed : pc.readArmed = false
  sendArmed : pc.sendArmed = false
  pending : pc.readPending = false ∧ pc.sendPending = false
  unwritten : pc.unwritten c = none

theorem start_facts {op : ClientOp} {pc : PollPc} (c : SocketStreamHandle)
    (h : PollPc.start op = some pc) : StartFacts op pc c := by
  cases op with
  | read n => cases h; exact ⟨fun _ => rfl, nofun, rfl, rfl, ⟨rfl, rfl⟩, rfl⟩
  | write buf => cases h; exact ⟨nofun, fun _ => rfl, rfl, rfl, ⟨rfl, rfl⟩, rfl⟩
  | flush => cases h; exact ⟨nofun, fun _ => rfl, rfl, rfl, ⟨rfl, rfl⟩, rfl⟩
  | shutdown => cases h; exact ⟨nofun, fun _ => rfl, rfl, rfl, ⟨rfl, rfl⟩, rfl⟩
  | drop => cases h; exact ⟨nofun, nofun, rfl, rfl, ⟨rfl, rfl⟩, rfl⟩
  | close | getState | waitReady | finish => cases h

theorem Parks.begun (h : Parks s) {op : ClientOp} {pc : PollPc} {last : Option PollReturn}
    (hp : s.poll = .returned last) (hlast : last ≠ some .dropped)
    (hop : PollPc.start op = some pc) : Parks (s.begun op pc) := by
  have hstart := start_facts s.stream hop
  constructor
  · exact PollPc.sane_start hop
  · exact h.stored
  · intro hl
    exact of_decide_eq_true hl
  · intro hk
    have hc := h.clean hk
    have hnot : s.poll.dropping = false := by
      rw [hp]
      exact PollPc.not_dropping_of_last hlast
    simp only [StreamRun.clean, hnot, Bool.false_or] at hc
    simp only [StreamRun.clean, emptied_begun hop hc, Bool.or_true]
  · intro hr
    simp [StreamRun.begun, hstart.readStage hr]
  · intro hr
    simp [StreamRun.begun, hstart.sendStage hr]
  · rintro (hr | hr)
    · exact h.recvArmed (.inl (Bool.and_elim_left hr))
    · exact absurd (hstart.readArmed.symm.trans hr) Bool.false_ne_true
  · rintro (hr | hr)
    · exact h.sendArmed (.inl (Bool.and_elim_left hr))
    · exact absurd (hstart.sendArmed.symm.trans hr) Bool.false_ne_true
  · intro hk hr
    exact h.recvFired hk (Bool.and_elim_left hr)
  · intro hk hr
    exact h.sendFired hk (Bool.and_elim_left hr)
  · intro _
    exact hstart.pending

section polled

variable {c : SocketStreamHandle} {events : List SocketEventKind} {pc : PollPc}

theorem Parks.clean_polled (h : Parks s) (hs : s.stream.pollStep s.poll = some (c, events, pc))
    (hk : 4 ≤ s.level) : (s.polled c events pc).clean = true := by
  have hclean := h.clean hk
  simp only [StreamRun.clean, Bool.or_eq_true] at hclean ⊢
  exact hclean.imp (SocketStreamHandle.pollStep_dropping h.sane hs)
    (emptied_polled h.sane (h.stored.writeClosed hk) hs)

theorem Parks.unpending (h : Parks s) (hs : s.stream.pollStep s.poll = some (c, events, pc)) :
    (3 ≤ s.level → pc.readPending = false) ∧ (4 ≤ s.level → pc.sendPending = false) := by
  constructor
  · intro hk
    refine eq_false_of_ne_true (fun hp => ?_)
    obtain ⟨n, _, hr⟩ := SocketStreamHandle.pollStep_readPending h.sane hs hp
    rw [h.stored.readClosed hk] at hr
    cases hr
  · intro hk
    refine eq_false_of_ne_true (fun hp => ?_)
    obtain ⟨ha, he⟩ := SocketStreamHandle.pollStep_sendPending h.sane hs hp
    have hc := h.clean hk
    rw [StreamRun.clean, emptied, he, Bool.false_and, Bool.or_false] at hc
    rw [SocketStreamHandle.unarmed_of_dropping hc] at ha
    cases ha

theorem Parks.recvArmed_polled (h : Parks s)
    (hs : s.stream.pollStep s.poll = some (c, events, pc))
    (hp : (s.polled c events pc).readParked = true ∨ pc.readArmed = true) :
    c.recvWaker.Armed (s.polled c events pc).recvMark := by
  rcases SocketStreamHandle.pollStep_recvWaker hs with ⟨hr, hw⟩ | ⟨hr, hw⟩
  · simp only [StreamRun.polled, hr, if_true, hw]
    exact s.stream.recvWaker.armed_register
  · have hold : s.stream.recvWaker.Armed s.recvMark := by
      rcases hp with hp | hp
      · rcases (Bool.or_eq_true _ _).mp hp with hp | hp
        · exact h.recvArmed (.inl hp)
        · obtain ⟨n, hn, _⟩ := SocketStreamHandle.pollStep_readPending h.sane hs hp
          exact h.recvArmed (.inr (by rw [hn]; rfl))
      · rcases (SocketStreamHandle.pollStep_stage h.sane hs).readArmed hp with ha | ha
        · exact h.recvArmed (.inr ha)
        · rw [hr] at ha
          cases ha
    simp only [StreamRun.polled, hr, Bool.false_eq_true, if_false]
    rcases hw with hw | hw
    · rw [hw]
      exact hold
    · rw [hw]
      exact hold.wake

theorem Parks.sendArmed_polled (h : Parks s)
    (hs : s.stream.pollStep s.poll = some (c, events, pc))
    (hp : (s.polled c events pc).sendParked = true ∨ pc.sendArmed = true) :
    c.sendWaker.Armed (s.polled c events pc).sendMark := by
  rcases SocketStreamHandle.pollStep_sendWaker hs with ⟨hr, hw⟩ | ⟨hr, hw⟩
  · simp only [StreamRun.polled, hr, if_true, hw]
    exact s.stream.sendWaker.armed_register
  · have hold : s.stream.sendWaker.Armed s.sendMark := by
      rcases hp with hp | hp
      · rcases (Bool.or_eq_true _ _).mp hp with hp | hp
        · exact h.sendArmed (.inl hp)
        · exact h.sendArmed (.inr (SocketStreamHandle.pollStep_sendPending h.sane hs hp).1)
      · have ha := (SocketStreamHandle.pollStep_stage h.sane hs).sendArmed hp
        rw [hr] at ha
        cases ha
    simp only [StreamRun.polled, hr, Bool.false_eq_true, if_false]
    rcases hw with hw | hw
    · rw [hw]
      exact hold
    · rw [hw]
      exact hold.wake

theorem Parks.recvFired_polled (h : Parks s)
    (hs : s.stream.pollStep s.poll = some (c, events, pc)) (hk : 5 ≤ s.level)
    (hp : (s.polled c events pc).readParked = true) :
    c.recvWaker.Fired (s.polled c events pc).recvMark := by
  have hparked : s.readParked = true := by
    simpa [StreamRun.polled, (h.unpending hs).1 (by omega)] using hp
  have hfired := h.recvFired hk hparked
  rcases SocketStreamHandle.pollStep_recvWaker hs with ⟨hr, _⟩ | ⟨hr, hw⟩
  · rw [h.readStage ((SocketStreamHandle.register_stage s.poll).1 hr)] at hparked
    cases hparked
  · simp only [StreamRun.polled, hr, Bool.false_eq_true, if_false]
    rcases hw with hw | hw
    · rw [hw]
      exact hfired
    · rw [hw]
      exact hfired.wake

theorem Parks.sendFired_polled (h : Parks s)
    (hs : s.stream.pollStep s.poll = some (c, events, pc)) (hk : 6 ≤ s.level)
    (hp : (s.polled c events pc).sendParked = true) :
    c.sendWaker.Fired (s.polled c events pc).sendMark := by
  have hparked : s.sendParked = true := by
    simpa [StreamRun.polled, (h.unpending hs).2 (by omega)] using hp
  have hfired := h.sendFired hk hparked
  rcases SocketStreamHandle.pollStep_sendWaker hs with ⟨hr, _⟩ | ⟨hr, hw⟩
  · rw [h.sendStage ((SocketStreamHandle.register_stage s.poll).2 hr)] at hparked
    cases hparked
  · simp only [StreamRun.polled, hr, Bool.false_eq_true, if_false]
    rcases hw with hw | hw
    · rw [hw]
      exact hfired
    · rw [hw]
      exact hfired.wake

theorem Parks.polled (h : Parks s) (hs : s.stream.pollStep s.poll = some (c, events, pc)) :
    Parks (s.polled c events pc) := by
  have hstage := SocketStreamHandle.pollStep_stage h.sane hs
  obtain ⟨hread, hsend⟩ := h.unpending hs
  constructor
  · exact SocketStreamHandle.pollStep_sane h.sane hs
  · exact h.stored.flags (pollStep_flags hs)
  · exact h.late
  · exact h.clean_polled hs
  · intro hr
    have hn : pc.readPending = false := by cases pc <;> first | rfl | cases hr
    simp [StreamRun.polled, h.readStage (hstage.readStage hr), hn]
  · intro hr
    have hn : pc.sendPending = false := by cases pc <;> first | rfl | cases hr
    simp [StreamRun.polled, h.sendStage (hstage.sendStage hr), hn]
  · exact h.recvArmed_polled hs
  · exact h.sendArmed_polled hs
  · exact h.recvFired_polled hs
  · exact h.sendFired_polled hs
  · intro hl
    exact ⟨hread (Nat.le_of_succ_le (h.late hl)), hsend (h.late hl)⟩

end polled

theorem armed_touch_recv {c : SocketStreamHandle} {mark : Nat} (pc : SweepPc)
    (h : c.recvWaker.Armed mark) : (pc.touch c).recvWaker.Armed mark := by
  rcases touch_recvWaker pc c with ht | ht
  · rw [ht]
    exact h
  · rw [ht]
    exact h.wake

theorem armed_touch_send {c : SocketStreamHandle} {mark : Nat} (pc : SweepPc)
    (h : c.sendWaker.Armed mark) : (pc.touch c).sendWaker.Armed mark := by
  rcases touch_sendWaker pc c with ht | ht
  · rw [ht]
    exact h
  · rw [ht]
    exact h.wake

theorem fired_touch_recv {c : SocketStreamHandle} {mark : Nat} (pc : SweepPc)
    (h : c.recvWaker.Fired mark) : (pc.touch c).recvWaker.Fired mark := by
  rcases touch_recvWaker pc c with ht | ht
  · rw [ht]
    exact h
  · rw [ht]
    exact h.wake

theorem fired_touch_send {c : SocketStreamHandle} {mark : Nat} (pc : SweepPc)
    (h : c.sendWaker.Fired mark) : (pc.touch c).sendWaker.Fired mark := by
  rcases touch_sendWaker pc c with ht | ht
  · rw [ht]
    exact h
  · rw [ht]
    exact h.wake

theorem Parks.clean_served (h : Parks s) {w : ManagedSocket} (hw : s.socket.Worked w)
    (hguard : s.socket.pc = .retireWriteClosed → s.clean = true) (hk : 4 ≤ (s.served w).level) :
    (s.served w).clean = true := by
  have hl : w.pc.retireLevel ≤ s.level + 1 := hw.retireLevel.2
  have hk' : 3 ≤ s.level := by
    simp only [level, served] at hk hl ⊢
    omega
  have hclean : s.clean = true := by
    rcases Nat.eq_or_lt_of_le hk' with h3 | h4
    · exact hguard (retireWriteClosed_of_level h3.symm)
    · exact h.clean h4
  simp only [StreamRun.clean, Bool.or_eq_true] at hclean ⊢
  exact hclean.imp id (emptied_served hw hk')

theorem Parks.served (h : Parks s) {w : ManagedSocket} (hw : s.socket.Worked w)
    (hguard : s.socket.pc = .retireWriteClosed → s.clean = true) : Parks (s.served w) := by
  have hstream := hw.stream
  obtain ⟨hle, hlt⟩ := hw.retireLevel
  obtain ⟨-, -, -, h₄, h₅, -⟩ := touch_retire s.socket.pc s.socket.stream
  constructor
  · exact h.sane
  · exact stored_worked h.stored hw
  · intro hl
    exact Nat.le_trans (h.late hl) hle
  · exact h.clean_served hw hguard
  · exact h.readStage
  · exact h.sendStage
  · intro hp
    show w.stream.recvWaker.Armed s.recvMark
    rw [hstream]
    exact armed_touch_recv _ (h.recvArmed hp)
  · intro hp
    show w.stream.sendWaker.Armed s.sendMark
    rw [hstream]
    exact armed_touch_send _ (h.sendArmed hp)
  · intro hk hp
    show w.stream.recvWaker.Fired s.recvMark
    rw [hstream]
    rcases Nat.lt_or_ge s.socket.pc.retireLevel 5 with hlt' | hge
    · rw [h₄ (by simp only [level, StreamRun.served] at hk; omega)]
      exact (h.recvArmed (.inl hp)).fired_wake
    · exact fired_touch_recv _ (h.recvFired hge hp)
  · intro hk hp
    show w.stream.sendWaker.Fired s.sendMark
    rw [hstream]
    rcases Nat.lt_or_ge s.socket.pc.retireLevel 6 with hlt' | hge
    · rw [h₅ (by simp only [level, StreamRun.served] at hk; omega)]
      exact (h.sendArmed (.inl hp)).fired_wake
    · exact fired_touch_send _ (h.sendFired hge hp)
  · exact h.settled

theorem parks_step {label : StreamLabel} (h : Parks s) (hg : RetiresClean s label)
    (hs : s.step label = some t) : Parks t := by
  rcases step_cases hs with ⟨op, pc, last, rfl, hp, hlast, hop, rfl⟩ | ⟨c, events, pc, rfl, hp, rfl⟩ |
    ⟨job, w, rfl, hw, rfl⟩
  · exact h.begun hp hlast hop
  · exact h.polled hp
  · exact h.served hw hg

-- After the removal every call of the owner ends Ready, in a bounded number of its own steps, and
-- the owner of a half that returned Pending has been woken since it registered.
structure NeverParked (s : StreamRun) : Prop where
  ready : s.late = true → ∀ last, s.poll = .returned (some last) →
    last.readPending = false ∧ last.sendPending = false
  returns : s.poll.isReturned = false →
    ∃ t, s.step .poll = some t ∧ t.poll.stepsLeft < s.poll.stepsLeft
  reader : s.socket.pc = .retired → s.readParked = true → s.recvMark < s.stream.recvWaker.wakes
  writer : s.socket.pc = .retired → s.sendParked = true → s.sendMark < s.stream.sendWaker.wakes

theorem poll_returns (h : s.poll.isReturned = false) :
    ∃ t, s.step .poll = some t ∧ t.poll.stepsLeft < s.poll.stepsLeft := by
  obtain ⟨⟨c, events, pc⟩, hs⟩ :=
    Option.isSome_iff_exists.mp (SocketStreamHandle.pollStep_isSome (c := s.stream) h)
  refine ⟨s.polled c events pc, ?_, SocketStreamHandle.pollStep_stepsLeft hs⟩
  simp only [step, pollStep, hs, Option.map_some]

theorem Parks.neverParked (h : Parks s) : NeverParked s := by
  constructor
  · intro hl last hp
    have hsettled := h.settled hl
    rw [hp] at hsettled
    exact hsettled
  · exact poll_returns
  · intro hp hr
    exact h.recvFired (by rw [level, hp]; decide) hr
  · intro hp hr
    exact h.sendFired (by rw [level, hp]; decide) hr

theorem never_parked (h : Reachable RetiresClean s) : NeverParked s := by
  have hparks : Parks s :=
    h.invariant (fun _ => Starts.parks) (fun _ _ _ hi hg hs => parks_step hi hg hs)
  exact hparks.neverParked

section unclean

open SocketStreamHandle (Alone)

variable {c c' : SocketStreamHandle} {events : List SocketEventKind} {pc pc' : PollPc}

theorem alone_reaches (h : Alone c pc events c' pc') (hc : s.stream = c) (hp : s.poll = pc) :
    ∃ t, Run.Reaches step Run.Any s t ∧ t.stream = c' ∧ t.poll = pc' ∧ t.late = s.late ∧
      t.socket.pc = s.socket.pc := by
  induction h generalizing s with
  | refl c pc => exact ⟨s, .refl s, hc, hp, rfl, rfl⟩
  | @head c c₁ c₂ pc pc₁ pc₂ events more hs _ ih =>
      obtain ⟨t, ht, hrest⟩ := ih (s := s.polled c₁ events pc₁) rfl rfl
      refine ⟨t, (Run.Reaches.single (a := .poll) trivial ?_).trans ht, hrest⟩
      simp only [step, pollStep, hc, hp, hs, Option.map_some]

theorem unclean_iff : s.clean = false ↔ s.poll.dropping = false ∧
    (s.stream.sendBuffer.isEmpty = false ∨
      ∃ buf, s.poll.unwritten s.stream = some buf ∧ buf.isEmpty = false) := by
  simp only [clean, emptied, Bool.or_eq_false_iff, Bool.and_eq_false_iff]
  refine and_congr_right (fun _ => or_congr_right ?_)
  cases s.poll.unwritten s.stream <;> simp

theorem unclean_polled (hs : s.poll.Sane) (h : s.stream.pollStep s.poll = some (c, events, pc))
    (hc : s.clean = false) : (s.polled c events pc).clean = false := by
  rw [unclean_iff] at hc ⊢
  obtain ⟨hd, hc⟩ := hc
  refine ⟨SocketStreamHandle.pollStep_not_dropping hs h hd, ?_⟩
  rcases hc with he | ⟨buf, hb, hn⟩
  · left
    show c.sendBuffer.isEmpty = false
    rcases SocketStreamHandle.pollStep_sendBuffer h with hsame | ⟨buf, _, _, hgrown⟩
    · rw [hsame]
      exact he
    · rw [hgrown]
      exact TcpRingBuffer.not_isEmpty_grown buf he
  · exact SocketStreamHandle.pollStep_unwritten_left h hb hn

-- The owner's call ends, and what it found or put in the buffer is still there.
theorem unclean_returns (hs : s.poll.Sane) (hc : s.clean = false) :
    ∃ t last, Run.Reaches step Run.Any s t ∧ t.poll = .returned last ∧ last ≠ some .dropped ∧
      t.stream.sendBuffer.isEmpty = false ∧ t.socket.pc = s.socket.pc := by
  induction hk : s.poll.stepsLeft using Nat.strong_induction_on generalizing s with
  | _ k ih =>
      cases hr : s.poll.isReturned with
      | true =>
          cases hp : s.poll with
          | returned last =>
              rw [unclean_iff, hp] at hc
              obtain ⟨hd, he | ⟨buf, hb, _⟩⟩ := hc
              · refine ⟨s, last, .refl s, hp, ?_, he, rfl⟩
                rintro rfl
                cases hd
              · cases hb
          | _ => simp [hp, PollPc.isReturned] at hr
      | false =>
          obtain ⟨⟨c, events, pc⟩, hstep⟩ :=
            Option.isSome_iff_exists.mp (SocketStreamHandle.pollStep_isSome (c := s.stream) hr)
          have hlt := SocketStreamHandle.pollStep_stepsLeft hstep
          obtain ⟨t, last, ht, hrest⟩ := ih pc.stepsLeft (hk ▸ hlt)
            (s := s.polled c events pc) (SocketStreamHandle.pollStep_sane hs hstep)
            (unclean_polled hs hstep hc) rfl
          refine ⟨t, last, (Run.Reaches.single (a := .poll) trivial ?_).trans ht, hrest⟩
          simp only [step, pollStep, hstep, Option.map_some]

theorem sane_reachable {guard : StreamRun → StreamLabel → Prop} (h : Reachable guard s) :
    s.poll.Sane := by
  refine h.invariant (I := fun s => s.poll.Sane) ?_ ?_
  · rintro s ⟨_, _, _, _, _, rfl⟩
    trivial
  · intro s a t hs _ ha
    rcases step_cases ha with ⟨op, pc, last, rfl, _, _, hop, rfl⟩ |
      ⟨c, events, pc, rfl, hp, rfl⟩ | ⟨job, w, rfl, hw, rfl⟩
    · exact PollPc.sane_start hop
    · exact SocketStreamHandle.pollStep_sane hs hp
    · exact hs

theorem flush_parks {last : Option PollReturn} (hp : s.socket.pc = .retired)
    (hr : s.poll = .returned last) (hlast : last ≠ some .dropped)
    (he : s.stream.sendBuffer.isEmpty = false) :
    ∃ t, Run.Reaches step Run.Any s t ∧ ¬ NeverParked t := by
  have hstart : s.step (.start .flush) = some (s.begun .flush (.flushTest false)) := by
    simp only [step, startStep, hr, if_neg hlast]
    rfl
  obtain ⟨t, ht, _, hp', hlate, _⟩ :=
    alone_reaches (s := s.begun .flush (.flushTest false)) s.stream.alone_pollFlush rfl rfl
  refine ⟨t, (Run.Reaches.single (a := .start .flush) trivial hstart).trans ht, fun hn => ?_⟩
  have hl : t.late = true := by
    rw [hlate]
    simp only [begun, SweepPc.flagsStored, hp]
    rfl
  rw [s.stream.pollFlush_pending he] at hp'
  exact absurd (hn.ready hl _ hp').2 (by decide)

-- The condition is exact: a removal that does not meet it can still leave the owner parked.
theorem unclean_parks (h : Reachable Run.Any s) (hp : s.socket.pc = .retireWriteClosed)
    (hc : s.clean = false) : ∃ t, Run.Reaches step Run.Any s t ∧ ¬ NeverParked t := by
  have hend : ∃ u : StreamRun, Run.Reaches step Run.Any s u ∧ u.socket.pc = .retired ∧
      u.poll = s.poll ∧ u.clean = false := by
    let c₁ := { s.stream with writeClosed := true }
    let s₁ := s.served (s.socket.store c₁ .retireWakeReader)
    let s₂ := s₁.served (s.socket.store c₁.wakeRecv .retireWakeWriter)
    refine ⟨s₂.served (s.socket.store c₁.wakeRecv.wakeSend .retired), ?_, rfl, rfl, ?_⟩
    · refine ((Run.Reaches.single (a := .manager (.go .none)) (t := s₁) trivial ?_).tail
        (a := .manager (.go .none)) (u := s₂) trivial rfl).tail
        (a := .manager (.go .none)) trivial rfl
      simp only [step, ManagedSocket.work, ManagedSocket.go, hp, Option.map_some]
      rfl
    · rw [unclean_iff] at hc ⊢
      have hsame : s.poll.unwritten c₁.wakeRecv.wakeSend = s.poll.unwritten s.stream :=
        unwritten_congr rfl s.poll
      rw [← hsame] at hc
      exact hc
  obtain ⟨u, hu, hup, hpoll, huc⟩ := hend
  have hsane : u.poll.Sane := by
    rw [hpoll]
    exact sane_reachable h
  obtain ⟨t, last, ht, htp, hlast, he, htpc⟩ := unclean_returns hsane huc
  obtain ⟨v, hv, hn⟩ := flush_parks (htpc.trans hup) htp hlast he
  exact ⟨v, hu.trans (ht.trans hv), hn⟩

end unclean

section runs

instance (s : StreamRun) (label : StreamLabel) : Decidable (RetiresClean s label) :=
  match label with
  | .start _ => .isTrue trivial
  | .poll => .isTrue trivial
  | .manager _ =>
      inferInstanceAs (Decidable (s.socket.pc = .retireWriteClosed → s.clean = true))

def removal : List StreamLabel :=
  .manager (.sweep true) :: replies (.flag false :: List.replicate 5 .none)

def fullFlush : List StreamLabel :=
  .manager (.sweep true) :: replies ([.flag true, .none, .none, .none, .none, .none, .none,
    .flag true, .none, .sent (.ok 1), .none, .none, .flag true, .none,
    .flag false, .flag true, .flag true, .flag true, .flag true])

theorem never_parked_removed : ∃ s, Reachable RetiresClean s ∧ NeverParked s ∧
    s.socket.pc = .retired ∧ s.readParked = true ∧
    s.poll = .returned (some (.flush (.ready ()))) := by
  have hrun : (Run.exec step small (call (.read 4) 5 ++ call (.write [1]) 7 ++ fullFlush ++
      removal ++ call .flush 1)).any (fun s => decide (s.socket.pc = .retired) && s.readParked &&
        decide (s.poll = .returned (some (.flush (.ready ()))))) = true := by
    decide +kernel
  have hguarded : Run.Guarded step RetiresClean small (call (.read 4) 5 ++ call (.write [1]) 7 ++
      fullFlush ++ removal ++ call .flush 1) := by
    decide +kernel
  obtain ⟨s, hs, hp⟩ := (Option.any_eq_true _ _).mp hrun
  simp only [Bool.and_eq_true, decide_eq_true_eq] at hp
  have hr : Reachable RetiresClean s :=
    ⟨small, ⟨0, 1, 1, 0, 64, rfl⟩, Run.exec_guarded hs hguarded⟩
  exact ⟨s, hr, never_parked hr, hp.1.1, hp.1.2, hp.2⟩

-- Bytes are left when the socket is removed: a later poll_flush returns Pending. And a full buffer
-- is left by a poll_write that loaded write_closed before the removal: no wake follows its
-- registration.
theorem flush_parked : (∃ s, Reachable Run.Any s ∧ ¬ NeverParked s ∧ s.late = true ∧
      s.poll = .returned (some (.flush .pending))) ∧
    ∃ s, Reachable Run.Any s ∧ ¬ NeverParked s ∧ s.socket.pc = .retired ∧
      s.poll = .returned (some (.write .pending)) := by
  constructor
  · have hrun : (Run.exec step small (call (.write [1]) 7 ++ removal ++ call .flush 4)).any
        (fun s => s.late && decide (s.poll = .returned (some (.flush .pending)))) = true := by
      decide +kernel
    obtain ⟨s, hs, hp⟩ := (Option.any_eq_true _ _).mp hrun
    simp only [Bool.and_eq_true, decide_eq_true_eq] at hp
    refine ⟨s, ⟨small, ⟨0, 1, 1, 0, 64, rfl⟩, Run.exec_reaches hs⟩, ?_, hp⟩
    intro hn
    exact absurd (hn.ready hp.1 _ hp.2).2 (by decide)
  · have hrun : (Run.exec step small (call (.write [1]) 7 ++ call (.write [2]) 2 ++ removal ++
        [.poll, .poll, .poll])).any (fun s => decide (s.socket.pc = .retired) && s.sendParked &&
          decide (s.poll = .returned (some (.write .pending))) &&
          decide (s.stream.sendWaker.wakes ≤ s.sendMark)) = true := by
      decide +kernel
    obtain ⟨s, hs, hp⟩ := (Option.any_eq_true _ _).mp hrun
    simp only [Bool.and_eq_true, decide_eq_true_eq] at hp
    refine ⟨s, ⟨small, ⟨0, 1, 1, 0, 64, rfl⟩, Run.exec_reaches hs⟩, ?_, hp.1.1.1, hp.1.2⟩
    intro hn
    exact absurd (hn.writer hp.1.1.1 hp.1.1.2) (Nat.not_lt.mpr hp.2)

end runs

end StreamRun

end Usque
