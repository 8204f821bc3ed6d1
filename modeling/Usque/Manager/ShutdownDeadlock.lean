import Usque.Manager.Shutdown

namespace Usque

namespace IncomingTask

variable {task task' : IncomingTask}

theorem recv_looping (h : task.recv = some task') :
    task.phase = .looping ∧ task'.phase = .looping := by
  unfold recv at h
  split at h
  next hphase _ =>
    cases h
    exact ⟨hphase, hphase⟩
  · cases h

theorem leave_eq (h : task.leave = some task') :
    task.phase = .looping ∧ task' = { task with phase := .leaving } := by
  unfold leave at h
  split at h
  next hphase =>
    cases h
    exact ⟨hphase, rfl⟩
  · cases h

theorem signal_eq (h : task.signal = some task') :
    task.phase = .leaving ∧ task' = { task with shutdown := true, phase := .completing } := by
  unfold signal at h
  split at h
  next hphase =>
    cases h
    exact ⟨hphase, rfl⟩
  · cases h

theorem complete_eq {finished : Bool} (h : task.complete finished = some task') :
    task.phase = .completing ∧ finished = true ∧ task' = { task with phase := .stopped } := by
  unfold complete at h
  split at h
  next hphase =>
    simp only [Bool.and_eq_true, decide_eq_true_eq] at hphase
    cases h
    exact ⟨hphase.1, hphase.2, rfl⟩
  · cases h

theorem trySend_phase (capacity : Nat) (event : TransportIoEvent) :
    (task.trySend capacity event).phase = task.phase := by
  unfold trySend
  split
  · rfl
  · rfl

end IncomingTask

namespace IoTask

structure WorkerMove (tunables : MasqueIoTunables) (task : IoTask) (label : IoLabel)
    (task' : IoTask) : Prop where
  phase : task'.incoming.phase = task.incoming.phase
  running : task.finished = false
  waited : task.offer.isSome = true →
    task.incoming.phase = .stopped ∨ task.full tunables = false
  offer : task'.offer.isSome = true →
    offers tunables task label = true ∧ task'.incoming = task.incoming

inductive Move (tunables : MasqueIoTunables) (task : IoTask) (label : IoLabel) (task' : IoTask) :
    Prop where
  | idle (hi : task'.incoming = task.incoming) (ho : task'.offer = task.offer)
      (hf : task'.finished = task.finished)
  | recv (hp : task'.incoming.phase = .looping) (hp' : task.incoming.phase = .looping)
      (ho : task'.offer = task.offer) (hf : task'.finished = task.finished)
  | leave (hl : leaves label = true) (hp : task.incoming.phase = .looping)
      (hi : task'.incoming = { task.incoming with phase := .leaving })
      (ho : task'.offer = task.offer) (hf : task'.finished = task.finished)
  | signal (hp : task.incoming.phase = .leaving)
      (hi : task'.incoming = { task.incoming with shutdown := true, phase := .completing })
      (ho : task'.offer = task.offer) (hf : task'.finished = task.finished)
  | complete (hp : task.incoming.phase = .completing) (hdone : task.finished = true)
      (hf : task'.finished = true)
  | worker (h : WorkerMove tunables task label task')

end IoTask

namespace MasqueIo

variable {tunables : MasqueIoTunables} {io io' : MasqueIo}

-- A branch of the select leaves the event channel alone and begins no send.
theorem select_quiet (hw : io.worker = .head) (h : io.select = some io') :
    io'.worker.offer = none ∧ io'.incoming = io.incoming := by
  have hhead : io.worker.offer = none ∧ io.incoming = io.incoming := by
    rw [hw]
    exact ⟨rfl, rfl⟩
  simp only [select, Option.orElse_eq_some] at h
  rcases h with h | ⟨-, h | ⟨-, h | ⟨-, h | ⟨-, h | ⟨-, h⟩⟩⟩⟩⟩
  · unfold onShutdown at h
    split at h
    · cases h
      exact ⟨rfl, rfl⟩
    · cases h
  · unfold onStatsTick at h
    split at h
    · cases h
      exact hhead
    · cases h
  · obtain ⟨⟨event, h3Events⟩, -, hio⟩ := Option.map_eq_some_iff.mp h
    cases hio
    dsimp only
    split
    · exact ⟨rfl, rfl⟩
    · exact ⟨rfl, rfl⟩
    · exact ⟨rfl, rfl⟩
    · split
      · exact ⟨rfl, rfl⟩
      · exact hhead
    · split
      · exact ⟨rfl, rfl⟩
      · exact hhead
    · exact hhead
  · obtain ⟨⟨frame, flowRecv⟩, -, hio⟩ := Option.map_eq_some_iff.mp h
    cases hio
    dsimp only
    split
    · exact ⟨rfl, rfl⟩
    · exact hhead
    · exact ⟨rfl, rfl⟩
  · obtain ⟨⟨frame, connectRecv⟩, -, hio⟩ := Option.map_eq_some_iff.mp h
    cases hio
    dsimp only
    split
    · exact ⟨rfl, rfl⟩
    · exact hhead
    · exact hhead
  · obtain ⟨⟨batch, sendChannel⟩, -, hio⟩ := Option.map_eq_some_iff.mp h
    cases hio
    dsimp only
    split
    · exact ⟨rfl, rfl⟩
    · exact ⟨rfl, rfl⟩

theorem sendEvent_move {label : IoLabel} {event : TransportIoEvent} {next : WorkerPc}
    (h : io.sendEvent tunables.incomingDgramCapacity event next = some io')
    (hnext : next.offer = none) (hw : io.worker ≠ .finished) :
    IoTask.WorkerMove tunables (.masque io) label (.masque io') := by
  have hrun : (IoTask.masque io).finished = false := decide_eq_false hw
  unfold sendEvent at h
  split at h
  next hstopped =>
    cases h
    exact ⟨rfl, hrun, fun _ => .inl hstopped, nofun⟩
  · split at h
    · cases h
    next hfull =>
      cases h
      refine ⟨rfl, hrun, fun _ => .inr (Bool.eq_false_iff.mpr hfull), fun ho => ?_⟩
      rw [IoTask.offer, hnext] at ho
      cases ho

theorem work_move (h : io.work tunables = some io') :
    IoTask.WorkerMove tunables (.masque io) (.masque .work) (.masque io') := by
  have hrun : ∀ pc, io.worker = pc → pc ≠ .finished → (IoTask.masque io).finished = false := by
    intro pc hw hpc
    exact decide_eq_false (hw ▸ hpc)
  have hfree : ∀ pc, io.worker = pc → pc.offer = none → (IoTask.masque io).offer.isSome = true →
      io.incoming.phase = .stopped ∨ (IoTask.masque io).full tunables = false := by
    intro pc hw hpc ho
    rw [IoTask.offer, hw, hpc] at ho
    cases ho
  unfold work at h
  split at h
  next hw =>
    split at h
    · obtain ⟨hoffer, hincoming⟩ := select_quiet hw h
      refine ⟨congrArg _ hincoming, hrun _ hw nofun, hfree _ hw rfl, fun ho => ?_⟩
      rw [IoTask.offer, hoffer] at ho
      cases ho
    · cases h
      exact ⟨rfl, hrun _ hw nofun, hfree _ hw rfl, nofun⟩
  next round waitedOnFull hw =>
    cases h
    unfold flush
    split
    · exact ⟨rfl, hrun _ hw nofun, hfree _ hw rfl, nofun⟩
    · exact ⟨rfl, hrun _ hw nofun, hfree _ hw rfl, nofun⟩
  · cases h
  next icmp round waitedOnFull hw => exact sendEvent_move h rfl (by rw [hw]; nofun)
  next round hw =>
    cases h
    refine ⟨?_, hrun _ hw nofun, hfree _ hw rfl, nofun⟩
    dsimp only [IoTask.incoming]
    split
    · exact IncomingTask.trySend_phase _ _
    · rfl
  next round hw =>
    cases h
    refine ⟨?_, hrun _ hw nofun, hfree _ hw rfl, nofun⟩
    dsimp only [IoTask.incoming]
    split
    · exact IncomingTask.trySend_phase _ _
    · rfl
  next dgram hw =>
    split at h
    next b packet hdecode =>
      cases h
      exact ⟨rfl, hrun _ hw nofun, hfree _ hw rfl, fun _ => ⟨by simp only [IoTask.offers, hw,
        hdecode], rfl⟩⟩
    · cases h
      exact ⟨rfl, hrun _ hw nofun, hfree _ hw rfl, nofun⟩
    · cases h
      exact ⟨rfl, hrun _ hw nofun, hfree _ hw rfl, nofun⟩
  next packet hw => exact sendEvent_move h rfl (by rw [hw]; nofun)
  next body fin hw =>
    split at h
    · cases h
      exact ⟨rfl, hrun _ hw nofun, hfree _ hw rfl, nofun⟩
    · cases h
      exact ⟨rfl, hrun _ hw nofun, hfree _ hw rfl, nofun⟩
  next batch hw =>
    cases h
    exact ⟨rfl, hrun _ hw nofun, hfree _ hw rfl, nofun⟩
  next hw =>
    cases h
    unfold drainSendChannelRound
    split
    · split
      · exact ⟨rfl, hrun _ hw nofun, hfree _ hw rfl, nofun⟩
      · exact ⟨rfl, hrun _ hw nofun, hfree _ hw rfl, nofun⟩
    · exact ⟨rfl, hrun _ hw nofun, hfree _ hw rfl, nofun⟩
  next hw =>
    cases h
    exact ⟨rfl, hrun _ hw nofun, hfree _ hw rfl, nofun⟩
  next hw =>
    cases h
    unfold discardBatches
    split
    · exact ⟨rfl, hrun _ hw nofun, hfree _ hw rfl, nofun⟩
    · exact ⟨rfl, hrun _ hw nofun, hfree _ hw rfl, nofun⟩
  next batch hw =>
    cases h
    exact ⟨rfl, hrun _ hw nofun, hfree _ hw rfl, nofun⟩
  next hw =>
    cases h
    exact ⟨rfl, hrun _ hw nofun, hfree _ hw rfl, nofun⟩
  · cases h

theorem sendDatagram_move {outcome : Option DatagramSendState}
    (h : io.sendDatagram outcome = some io') :
    IoTask.WorkerMove tunables (.masque io) (.masque (.sendDatagram outcome)) (.masque io') := by
  unfold sendDatagram at h
  split at h
  next packet round waitedOnFull hw =>
    cases h
    have hrun : (IoTask.masque io).finished = false := decide_eq_false (by rw [hw]; nofun)
    have hfree : (IoTask.masque io).offer.isSome = true →
        io.incoming.phase = .stopped ∨ (IoTask.masque io).full tunables = false := by
      rw [IoTask.offer, hw]
      nofun
    split
    · exact ⟨rfl, hrun, hfree, nofun⟩
    · exact ⟨rfl, hrun, hfree, nofun⟩
    · exact ⟨rfl, hrun, hfree, fun _ => ⟨rfl, rfl⟩⟩
    · exact ⟨rfl, hrun, hfree, nofun⟩
    · exact ⟨rfl, hrun, hfree, nofun⟩
  · cases h

theorem trySend_keeps {answer : SendResult} (h : io.trySend tunables answer = some io') :
    io'.incoming = io.incoming ∧ io'.worker = io.worker := by
  unfold trySend at h
  split at h
  · split at h
    · obtain ⟨channel, -, hio⟩ := Option.map_eq_some_iff.mp h
      cases hio
      exact ⟨rfl, rfl⟩
    · cases h
  · cases h
    exact ⟨rfl, rfl⟩
  · cases h

theorem collect_keeps (h : io.collect tunables = some io') :
    io'.incoming = io.incoming ∧ io'.worker = io.worker := by
  unfold collect at h
  split at h
  · dsimp only at h
    split at h
    · split at h
      · cases h
        exact ⟨rfl, rfl⟩
      · cases h
        exact ⟨rfl, rfl⟩
    · cases h
      exact ⟨rfl, rfl⟩
  · cases h

theorem idle_move {label : IoLabel} (h : io'.incoming = io.incoming ∧ io'.worker = io.worker) :
    IoTask.Move tunables (.masque io) label (.masque io') := by
  refine .idle h.1 ?_ ?_
  · rw [IoTask.offer, IoTask.offer, h.2]
  · rw [IoTask.finished, IoTask.finished, h.2]

theorem step_move {label : Label} (h : io.step tunables label = some io') :
    IoTask.Move tunables (.masque io) (.masque label) (.masque io') := by
  cases label with
  | transmit packet =>
      simp only [step, transmit] at h
      split at h
      · cases h
        exact idle_move ⟨rfl, rfl⟩
      · cases h
  | beginDrain =>
      simp only [step, beginDrain] at h
      split at h
      · cases h
        exact idle_move ⟨rfl, rfl⟩
      · cases h
  | collect => exact idle_move (collect_keeps h)
  | trySend answer => exact idle_move (trySend_keeps h)
  | fetchAdd =>
      simp only [step, fetchAdd] at h
      split at h
      · cases h
        exact idle_move ⟨rfl, rfl⟩
      · cases h
  | recvEvent =>
      simp only [step] at h
      split at h
      · obtain ⟨incoming, hrecv, hio⟩ := Option.map_eq_some_iff.mp h
        cases hio
        obtain ⟨hp, hp'⟩ := IncomingTask.recv_looping hrecv
        exact .recv hp' hp rfl rfl
      · cases h
  | leave =>
      simp only [step, leave] at h
      split at h
      · obtain ⟨incoming, hleave, hio⟩ := Option.map_eq_some_iff.mp h
        cases hio
        obtain ⟨hp, hi⟩ := IncomingTask.leave_eq hleave
        exact .leave rfl hp hi rfl rfl
      · cases h
  | signal =>
      obtain ⟨incoming, hsignal, hio⟩ := Option.map_eq_some_iff.mp h
      cases hio
      obtain ⟨hp, hi⟩ := IncomingTask.signal_eq hsignal
      exact .signal hp hi rfl rfl
  | complete =>
      obtain ⟨incoming, hcomplete, hio⟩ := Option.map_eq_some_iff.mp h
      cases hio
      obtain ⟨hp, hdone, -⟩ := IncomingTask.complete_eq hcomplete
      exact .complete hp hdone hdone
  | statsTick =>
      cases h
      exact idle_move ⟨rfl, rfl⟩
  | h3Event event =>
      obtain ⟨h3Events, -, hio⟩ := Option.map_eq_some_iff.mp h
      cases hio
      exact idle_move ⟨rfl, rfl⟩
  | h3End =>
      cases h
      exact idle_move ⟨rfl, rfl⟩
  | flowFrame frame =>
      obtain ⟨flowRecv, -, hio⟩ := Option.map_eq_some_iff.mp h
      cases hio
      exact idle_move ⟨rfl, rfl⟩
  | flowEnd =>
      cases h
      exact idle_move ⟨rfl, rfl⟩
  | connectFrame frame =>
      obtain ⟨connectRecv, -, hio⟩ := Option.map_eq_some_iff.mp h
      cases hio
      exact idle_move ⟨rfl, rfl⟩
  | connectEnd =>
      cases h
      exact idle_move ⟨rfl, rfl⟩
  | work => exact .worker (work_move h)
  | sendDatagram outcome => exact .worker (sendDatagram_move h)

end MasqueIo

namespace WgReceive

variable {tunables : MasqueIoTunables} {task task' : WgReceive}

theorem free_of (h : task.offer = none) : (IoTask.wg task).offer.isSome = true →
    task.incoming.phase = .stopped ∨ (IoTask.wg task).full tunables = false := by
  intro ho
  rw [IoTask.offer, h] at ho
  cases ho

theorem tryRecv_move {data : Option Packet}
    (h : task.tryRecv tunables.toManagerTunables data = some task') :
    IoTask.WorkerMove tunables (.wg task) (.wg (.tryRecv data)) (.wg task') := by
  unfold tryRecv at h
  split at h
  next drained hw =>
    have hrun : (IoTask.wg task).finished = false := decide_eq_false (by rw [hw]; nofun)
    have hfree : task.offer = none := by rw [offer, hw]
    split at h
    next hbudget =>
      split at h
      · cases h
        exact ⟨rfl, hrun, free_of hfree, nofun⟩
      · cases h
        exact ⟨rfl, hrun, free_of hfree, nofun⟩
      · cases h
        refine ⟨rfl, hrun, free_of hfree, fun _ => ⟨?_, rfl⟩⟩
        simp only [IoTask.offers, hw, hbudget, decide_true]
    · cases h
      exact ⟨rfl, hrun, free_of hfree, nofun⟩
  · cases h

theorem send_move (h : task.send tunables.toManagerTunables = some task') :
    IoTask.WorkerMove tunables (.wg task) (.wg .send) (.wg task') := by
  unfold send at h
  split at h
  next drained data hw =>
    have hrun : (IoTask.wg task).finished = false := decide_eq_false (by rw [hw]; nofun)
    split at h
    next hstopped =>
      cases h
      exact ⟨rfl, hrun, fun _ => .inl hstopped, nofun⟩
    · split at h
      · cases h
      next hfull =>
        cases h
        exact ⟨rfl, hrun, fun _ => .inr (Bool.eq_false_iff.mpr hfull), nofun⟩
  · cases h

theorem step_move {label : Label} (h : task.step tunables.toManagerTunables label = some task') :
    IoTask.Move tunables (.wg task) (.wg label) (.wg task') := by
  cases label with
  | recvEvent =>
      obtain ⟨incoming, hrecv, htask⟩ := Option.map_eq_some_iff.mp h
      cases htask
      obtain ⟨hp, hp'⟩ := IncomingTask.recv_looping hrecv
      exact .recv hp' hp rfl rfl
  | leave =>
      obtain ⟨incoming, hleave, htask⟩ := Option.map_eq_some_iff.mp h
      cases htask
      obtain ⟨hp, hi⟩ := IncomingTask.leave_eq hleave
      exact .leave rfl hp hi rfl rfl
  | signal =>
      obtain ⟨incoming, hsignal, htask⟩ := Option.map_eq_some_iff.mp h
      cases htask
      obtain ⟨hp, hi⟩ := IncomingTask.signal_eq hsignal
      exact .signal hp hi rfl rfl
  | complete =>
      obtain ⟨incoming, hcomplete, htask⟩ := Option.map_eq_some_iff.mp h
      cases htask
      obtain ⟨hp, hdone, -⟩ := IncomingTask.complete_eq hcomplete
      exact .complete hp hdone hdone
  | shutdown =>
      simp only [step] at h
      split at h
      next hw =>
        cases h
        exact .worker ⟨rfl, decide_eq_false (by rw [hw.1]; nofun),
          free_of (by rw [offer, hw.1]), nofun⟩
      · cases h
  | readable =>
      simp only [step] at h
      split at h
      next hw =>
        cases h
        exact .worker ⟨rfl, decide_eq_false (by rw [hw]; nofun),
          free_of (by rw [offer, hw]), nofun⟩
      · cases h
  | tryRecv data => exact .worker (tryRecv_move h)
  | send => exact .worker (send_move h)

end WgReceive

namespace IoTask

variable {tunables : MasqueIoTunables} {task task' : IoTask} {label : IoLabel}

theorem step_move (h : task.step tunables label = some task') :
    Move tunables task label task' := by
  unfold step at h
  split at h
  · obtain ⟨wg, hs, htask⟩ := Option.map_eq_some_iff.mp h
    cases htask
    exact WgReceive.step_move hs
  · obtain ⟨io, hs, htask⟩ := Option.map_eq_some_iff.mp h
    cases htask
    exact MasqueIo.step_move hs
  · cases h

theorem offer_of_finished (h : task.finished = true) : task.offer = none := by
  cases task with
  | wg task =>
      have hw : task.worker = .finished := of_decide_eq_true h
      rw [offer, WgReceive.offer, hw]
  | masque io =>
      have hw : io.worker = .finished := of_decide_eq_true h
      rw [offer, hw]
      rfl

theorem finished_of_offer (h : task.offer.isSome = true) : task.finished = false := by
  cases hf : task.finished with
  | false => rfl
  | true =>
      rw [offer_of_finished hf] at h
      cases h

def Roomy (tunables : MasqueIoTunables) (task : IoTask) : Prop :=
  task.incoming.phase ≠ .looping → task.offer.isSome = true → task.full tunables = false

theorem Move.roomy (hmove : Move tunables task label task') (hroom : HasRoom tunables task label)
    (h : Roomy tunables task) : Roomy tunables task' := by
  intro hphase hoffer
  cases hmove with
  | idle hi ho hf =>
      rw [hi] at hphase
      rw [ho] at hoffer
      rw [full, hi]
      exact h hphase hoffer
  | recv hp _ ho hf => exact absurd hp hphase
  | leave hl hp hi ho hf =>
      rw [ho] at hoffer
      rw [full, hi]
      exact hroom.1 hl hoffer
  | signal hp hi ho hf =>
      rw [ho] at hoffer
      rw [full, hi]
      refine h ?_ hoffer
      rw [hp]
      nofun
  | complete hp hdone hf =>
      rw [finished_of_offer hoffer] at hf
      cases hf
  | worker hwork =>
      obtain ⟨hl, hi⟩ := hwork.offer hoffer
      rw [hi] at hphase
      rw [full, hi]
      exact hroom.2 hl hphase

theorem Spawned.incoming (h : Spawned task) : task.incoming = .new := by
  cases h with
  | wg => rfl
  | masque => rfl

theorem shutdown_deadlock_free {spawned : IoTask} (hspawned : Spawned spawned)
    (h : Run.Reaches (step tunables) (HasRoom tunables) spawned task) :
    ¬ Deadlocked tunables task := by
  have hroomy : Roomy tunables task := by
    refine h.invariant (I := Roomy tunables) ?_ ?_
    · intro task label task' hroomy hroom hs
      exact (step_move hs).roomy hroom hroomy
    · intro hphase
      rw [hspawned.incoming] at hphase
      exact absurd rfl hphase
  rintro ⟨hphase, hoffer, hfull⟩
  have hnot : task.full tunables = false := by
    refine hroomy ?_ hoffer
    rw [hphase]
    nofun
  rw [hfull] at hnot
  cases hnot

section deadlock

theorem Deadlocked.step (h : Deadlocked tunables task)
    (hs : task.step tunables label = some task') : Deadlocked tunables task' := by
  obtain ⟨hphase, hoffer, hfull⟩ := h
  cases step_move hs with
  | idle hi ho hf => exact ⟨hi ▸ hphase, ho ▸ hoffer, by rw [full, hi]; exact hfull⟩
  | recv _ hp ho hf =>
      rw [hphase] at hp
      cases hp
  | leave hl hp hi ho hf =>
      rw [hphase] at hp
      cases hp
  | signal hp hi ho hf =>
      rw [hphase] at hp
      cases hp
  | complete hp hdone hf =>
      rw [finished_of_offer hoffer] at hdone
      cases hdone
  | worker hwork =>
      rcases hwork.waited hoffer with hstopped | hroom
      · rw [hphase] at hstopped
        cases hstopped
      · rw [hfull] at hroom
        cases hroom

theorem Deadlocked.forever (h : Deadlocked tunables task)
    (hrun : Run.Reaches (IoTask.step tunables) Run.Any task task') : Deadlocked tunables task' :=
  hrun.invariant (I := Deadlocked tunables) (fun _ _ _ hdead _ hs => hdead.step hs) h

def Settled (task : IoTask) : Prop := task.incoming.phase = .stopped → task.finished = true

theorem Move.settled (hmove : Move tunables task label task') (h : Settled task) :
    Settled task' := by
  intro hstopped
  cases hmove with
  | idle hi ho hf => exact hf.trans (h (hi ▸ hstopped))
  | recv hp _ ho hf =>
      rw [hp] at hstopped
      cases hstopped
  | leave hl hp hi ho hf =>
      rw [hi] at hstopped
      cases hstopped
  | signal hp hi ho hf =>
      rw [hi] at hstopped
      cases hstopped
  | complete hp hdone hf => exact hf
  | worker hwork =>
      have hdone := h (hwork.phase ▸ hstopped)
      rw [hwork.running] at hdone
      cases hdone

theorem leaves_step (hl : leaves label = true) (hs : task.step tunables label = some task') :
    task'.incoming = { task.incoming with phase := .leaving } ∧ task'.offer = task.offer := by
  unfold leaves at hl
  split at hl
  · cases task with
    | wg task =>
        obtain ⟨wg, hwg, hio⟩ := Option.map_eq_some_iff.mp hs
        obtain ⟨incoming, hleave, hwg'⟩ := Option.map_eq_some_iff.mp hwg
        cases hio
        cases hwg'
        exact ⟨(IncomingTask.leave_eq hleave).2, rfl⟩
    | masque io => cases hs
  · cases task with
    | wg task => cases hs
    | masque io =>
        obtain ⟨io', hleave, hio⟩ := Option.map_eq_some_iff.mp hs
        cases hio
        simp only [MasqueIo.step, MasqueIo.leave] at hleave
        split at hleave
        · obtain ⟨incoming, hincoming, hio⟩ := Option.map_eq_some_iff.mp hleave
          cases hio
          exact ⟨(IncomingTask.leave_eq hincoming).2, rfl⟩
        · cases hleave
  · cases hl

theorem offers_step (hl : offers tunables task label = true)
    (hs : task.step tunables label = some task') :
    task'.incoming = task.incoming ∧ task'.offer.isSome = true := by
  unfold offers at hl
  split at hl
  next task b bs =>
    split at hl
    next drained hw =>
      obtain ⟨wg, hwg, hio⟩ := Option.map_eq_some_iff.mp hs
      cases hio
      simp only [WgReceive.step, WgReceive.tryRecv, hw, if_pos (of_decide_eq_true hl)] at hwg
      cases hwg
      exact ⟨rfl, rfl⟩
    · cases hl
  next io =>
    split at hl
    next dgram hw =>
      split at hl
      next b packet hdecode =>
        obtain ⟨io', hwork, hio⟩ := Option.map_eq_some_iff.mp hs
        cases hio
        simp only [MasqueIo.step, MasqueIo.work, hw, hdecode] at hwork
        cases hwork
        exact ⟨rfl, rfl⟩
      · cases hl
    · cases hl
  next io icmp =>
    obtain ⟨io', hsend, hio⟩ := Option.map_eq_some_iff.mp hs
    cases hio
    simp only [MasqueIo.step, MasqueIo.sendDatagram] at hsend
    split at hsend
    · cases hsend
      exact ⟨rfl, rfl⟩
    · cases hsend
  · cases hl

theorem signal_step (tunables : MasqueIoTunables) (h : task.incoming.phase = .leaving) :
    ∃ label task', task.step tunables label = some task' ∧ task'.offer = task.offer ∧
      task'.incoming = { task.incoming with shutdown := true, phase := .completing } := by
  cases task with
  | wg task =>
      let incoming : IncomingTask := { task.incoming with shutdown := true, phase := .completing }
      have hsignal : task.incoming.signal = some incoming := if_pos h
      refine ⟨.wg .signal, .wg { task with incoming := incoming }, ?_, rfl, rfl⟩
      simp only [step, WgReceive.step, hsignal, Option.map_some]
  | masque io =>
      let incoming : IncomingTask := { io.incoming with shutdown := true, phase := .completing }
      have hsignal : io.incoming.signal = some incoming := if_pos h
      refine ⟨.masque .signal, .masque { io with incoming := incoming }, ?_, rfl, rfl⟩
      simp only [step, MasqueIo.step, hsignal, Option.map_some]

theorem waiting_deadlocks (hsettled : Settled task) (hphase : task.incoming.phase ≠ .looping)
    (hoffer : task.offer.isSome = true) (hfull : task.full tunables = true) :
    ∃ dead, Run.Reaches (IoTask.step tunables) Run.Any task dead ∧ Deadlocked tunables dead := by
  cases hp : task.incoming.phase with
  | looping => exact absurd hp hphase
  | leaving =>
      obtain ⟨label, dead, hs, ho, hi⟩ := signal_step tunables hp
      refine ⟨dead, .single trivial hs, ?_, ho ▸ hoffer, ?_⟩
      · rw [hi]
      · rw [full, hi]
        exact hfull
  | completing => exact ⟨task, .refl task, hp, hoffer, hfull⟩
  | stopped =>
      have hdone := hsettled hp
      rw [finished_of_offer hoffer] at hdone
      cases hdone

-- Every step that HasRoom excludes leaves a state from which the manager's own next steps deadlock.
theorem excluded_step_deadlocks {spawned : IoTask} (hspawned : Spawned spawned)
    (h : Run.Reaches (IoTask.step tunables) Run.Any spawned task)
    (hs : task.step tunables label = some task') (hroom : ¬ HasRoom tunables task label) :
    ∃ dead, Run.Reaches (IoTask.step tunables) Run.Any task' dead ∧ Deadlocked tunables dead := by
  have hsettled : Settled task := by
    refine h.invariant (I := Settled) (fun _ _ _ hset _ hs => (step_move hs).settled hset) ?_
    intro hstopped
    rw [hspawned.incoming] at hstopped
    cases hstopped
  have hsettled' := (step_move hs).settled hsettled
  rw [HasRoom, not_and_or] at hroom
  rcases hroom with hleave | hoffer
  · simp only [Classical.not_imp, Bool.not_eq_false] at hleave
    obtain ⟨hl, hoffer, hfull⟩ := hleave
    obtain ⟨hi, ho⟩ := leaves_step hl hs
    refine waiting_deadlocks hsettled' ?_ (ho ▸ hoffer) ?_
    · rw [hi]
      nofun
    · rw [full, hi]
      exact hfull
  · simp only [Classical.not_imp, Bool.not_eq_false] at hoffer
    obtain ⟨hl, hphase, hfull⟩ := hoffer
    obtain ⟨hi, ho⟩ := offers_step hl hs
    refine waiting_deadlocks hsettled' ?_ ho ?_
    · rw [hi]
      exact hphase
    · rw [full, hi]
      exact hfull

end deadlock

section runs

def wgRun : List IoLabel :=
  [.readable, .tryRecv (some [1]), .send, .tryRecv (some [2])].map .wg

def masqueRun : List IoLabel :=
  [.work, .flowFrame (.datagram [0, 1]), .work, .work, .work, .flowFrame (.datagram [0, 2]), .work,
    .work].map .masque

-- The first datagram fills a channel of one place and the second waits for room.
theorem shutdown_deadlocks :
    (∃ task, Run.Reaches (IoTask.step { incomingDgramCapacity := 1 }) Run.Any (.wg .new) task ∧
      Deadlocked { incomingDgramCapacity := 1 } task) ∧
    ∃ task, Run.Reaches (IoTask.step { incomingDgramCapacity := 1 }) Run.Any
      (.masque (.new 1500 4 0)) task ∧ Deadlocked { incomingDgramCapacity := 1 } task := by
  have hwg : (Run.exec (IoTask.step { incomingDgramCapacity := 1 }) (.wg .new)
      (wgRun ++ [.wg .leave, .wg .signal])).any
      (fun task => decide (Deadlocked { incomingDgramCapacity := 1 } task)) = true := by
    decide +kernel
  have hmasque : (Run.exec (IoTask.step { incomingDgramCapacity := 1 }) (.masque (.new 1500 4 0))
      (masqueRun ++ [.masque .leave, .masque .signal])).any
      (fun task => decide (Deadlocked { incomingDgramCapacity := 1 } task)) = true := by
    decide +kernel
  obtain ⟨wg, hs, hdead⟩ := (Option.any_eq_true _ _).mp hwg
  obtain ⟨masque, hs', hdead'⟩ := (Option.any_eq_true _ _).mp hmasque
  exact ⟨⟨wg, Run.exec_reaches hs, of_decide_eq_true hdead⟩,
    masque, Run.exec_reaches hs', of_decide_eq_true hdead'⟩

-- The same datagrams with a second place free: the manager waits and the worker can still finish.
theorem shutdown_deadlock_free_roomy : ∃ task,
    Run.Reaches (IoTask.step { incomingDgramCapacity := 2 }) (HasRoom { incomingDgramCapacity := 2 })
      (.wg .new) task ∧
    task.incoming.phase = .completing ∧ task.offer.isSome = true ∧
      ¬ Deadlocked { incomingDgramCapacity := 2 } task := by
  have hrun : (Run.exec (IoTask.step { incomingDgramCapacity := 2 }) (.wg .new)
      (wgRun ++ [.wg .leave, .wg .signal])).any
      (fun task => decide (task.incoming.phase = .completing) && task.offer.isSome) = true := by
    decide +kernel
  have hguarded : Run.Guarded (IoTask.step { incomingDgramCapacity := 2 })
      (HasRoom { incomingDgramCapacity := 2 }) (.wg .new)
      (wgRun ++ [.wg .leave, .wg .signal]) := by
    decide +kernel
  obtain ⟨task, hs, hp⟩ := (Option.any_eq_true _ _).mp hrun
  simp only [Bool.and_eq_true, decide_eq_true_eq] at hp
  have hreach := Run.exec_guarded hs hguarded
  exact ⟨task, hreach, hp.1, hp.2, shutdown_deadlock_free .wg hreach⟩

end runs

end IoTask

end Usque
