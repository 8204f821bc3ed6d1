import Usque.Masque.TransmitPath

namespace Usque

namespace MasqueIo

variable {tunables : MasqueIoTunables} {io : MasqueIo}

-- At the head of the loop with a batch waiting, while nothing before connect_recv is ready.
structure BatchWaits (io : MasqueIo) : Prop where
  head : io.worker = .head
  backlog : io.sendBacklog = []
  shutdown : io.incoming.shutdown = false
  statsDue : io.statsDue = false
  h3Events : io.h3Events.Pending
  flowRecv : io.flowRecv.Pending
  waiting : io.sendChannel.queue ≠ []

instance (io : MasqueIo) : Decidable (BatchWaits io) :=
  decidable_of_iff (io.worker = .head ∧ io.sendBacklog = [] ∧ io.incoming.shutdown = false ∧
      io.statsDue = false ∧ io.h3Events.Pending ∧ io.flowRecv.Pending ∧ io.sendChannel.queue ≠ [])
    ⟨fun ⟨a, b, c, d, e, f, g⟩ => ⟨a, b, c, d, e, f, g⟩,
      fun ⟨a, b, c, d, e, f, g⟩ => ⟨a, b, c, d, e, f, g⟩⟩

def TakesBatch (tunables : MasqueIoTunables) (io : MasqueIo) : Prop :=
  ∃ (batch : List Packet) (rest : List (List Packet)), io.sendChannel.queue = batch :: rest ∧
    io.work tunables = some { io with
      sendChannel := { io.sendChannel with queue := rest }
      worker := .absorbing batch }

theorem BatchWaits.work_eq (h : BatchWaits io) :
    io.work tunables = (io.onControl <|> io.onBatch) := by
  have hshutdown : io.onShutdown = none := by
    simp only [onShutdown, h.shutdown, Bool.false_eq_true, if_false]
  have hstats : io.onStatsTick = none := by
    simp only [onStatsTick, h.statsDue, Bool.false_eq_true, if_false]
  have hh3 : io.onH3Event = none := by
    simp only [onH3Event, Channel.recv_eq_none.mpr h.h3Events, Option.map_none]
  have hflow : io.onFlow = none := by
    simp only [onFlow, Channel.recv_eq_none.mpr h.flowRecv, Option.map_none]
  simp only [work, h.head, h.backlog, List.isEmpty_nil, if_true, select, hshutdown, hstats, hh3,
    hflow]
  rfl

theorem BatchWaits.takes (h : BatchWaits io) (hcontrol : io.connectRecv.Pending) :
    TakesBatch tunables io := by
  obtain ⟨batch, rest, hqueue⟩ := List.exists_cons_of_ne_nil h.waiting
  refine ⟨batch, rest, hqueue, ?_⟩
  have hnone : io.onControl = none := by
    simp only [onControl, Channel.recv_eq_none.mpr hcontrol, Option.map_none]
  rw [h.work_eq, hnone]
  change io.onBatch = _
  rw [onBatch, Channel.recv_cons hqueue]
  rfl

-- What is before send_rx in the biased order keeps the whole send channel in place.
theorem onControl_sendChannel {io' : MasqueIo} (h : io.onControl = some io') :
    io'.sendChannel = io.sendChannel := by
  obtain ⟨⟨frame, connectRecv⟩, -, hio⟩ := Option.map_eq_some_iff.mp h
  cases hio
  cases frame with
  | none => rfl
  | some frame =>
      cases frame with
      | datagram dgram => rfl
      | body bytes fin => rfl

theorem BatchWaits.not_takes (h : BatchWaits io) (hcontrol : ¬ io.connectRecv.Pending) :
    ¬ TakesBatch tunables io := by
  rintro ⟨batch, rest, hqueue, hwork⟩
  cases hbranch : io.onControl with
  | none =>
      refine hcontrol (Channel.recv_eq_none.mp ?_)
      exact Option.map_eq_none_iff.mp hbranch
  | some io' =>
      rw [h.work_eq, hbranch] at hwork
      have hsame := onControl_sendChannel hbranch
      cases hwork
      have hlen : rest.length = io.sendChannel.queue.length :=
        congrArg (fun channel => channel.queue.length) hsame
      rw [hqueue, List.length_cons] at hlen
      omega

theorem send_channel_served_iff (h : BatchWaits io) :
    TakesBatch tunables io ↔ io.connectRecv.Pending := by
  constructor
  · intro htakes
    by_contra hcontrol
    exact h.not_takes hcontrol htakes
  · exact h.takes

theorem send_channel_served_iff_idle : ∃ io, Reachable {} 1500 4 0 io ∧ BatchWaits io ∧
    io.connectRecv.Pending ∧ (TakesBatch {} io ↔ io.connectRecv.Pending) := by
  have hrun : (Run.exec (step {}) (new 1500 4 0)
      [.transmit [1], .beginDrain, .collect, .collect, .trySend .sent, .fetchAdd, .work]).any
      (fun io => decide (BatchWaits io) && decide io.connectRecv.Pending) = true := by
    decide +kernel
  obtain ⟨io, hs, hp⟩ := (Option.any_eq_true _ _).mp hrun
  simp only [Bool.and_eq_true, decide_eq_true_eq] at hp
  have hreach : Reachable {} 1500 4 0 io := Run.exec_reaches hs
  exact ⟨io, hreach, hp.1, hp.2, send_channel_served_iff hp.1⟩

section ended

variable (hended : io.connectRecv.queue = [] ∧ io.connectRecv.ended = true)

include hended

theorem BatchWaits.spins (h : BatchWaits io) : io.work tunables = some io := by
  have hbranch : io.onControl = some io := by
    rw [onControl, Channel.recv_ended hended.1 hended.2]
    rfl
  rw [h.work_eq, hbranch]
  rfl

theorem BatchWaits.spins_forever (h : BatchWaits io) (n : Nat) :
    Run.exec (step tunables) io (List.replicate n .work) = some io := by
  induction n with
  | zero => rfl
  | succ n ih =>
      have hone : io.step tunables .work = some io := h.spins hended
      rw [List.replicate_succ, Run.exec, hone]
      exact ih

end ended

-- The body of the control stream ends and then a packet is handed to the worker.
theorem ended_control_starves_sends : ∃ io, Reachable {} 1500 4 0 io ∧ BatchWaits io ∧
    ¬ TakesBatch {} io ∧ ∀ n, Run.exec (step {}) io (List.replicate n .work) = some io := by
  have hrun : (Run.exec (step {}) (new 1500 4 0)
      [.work, .connectEnd, .transmit [1], .beginDrain, .collect, .collect, .trySend .sent,
        .fetchAdd]).any
      (fun io => decide (BatchWaits io) && decide (io.connectRecv.queue = []) &&
        io.connectRecv.ended) = true := by
    decide +kernel
  obtain ⟨io, hs, hp⟩ := (Option.any_eq_true _ _).mp hrun
  simp only [Bool.and_eq_true, decide_eq_true_eq] at hp
  obtain ⟨⟨hwaits, hqueue⟩, hended⟩ := hp
  have hreach : Reachable {} 1500 4 0 io := Run.exec_reaches hs
  have hready : ¬ io.connectRecv.Pending := by
    intro hpending
    rw [hpending.2] at hended
    cases hended
  exact ⟨io, hreach, hwaits, hwaits.not_takes hready, hwaits.spins_forever ⟨hqueue, hended⟩⟩

end MasqueIo

end Usque
