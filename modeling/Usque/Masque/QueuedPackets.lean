import Usque.Masque.TransmitPath

namespace Usque

namespace MasqueIo

variable {tunables : MasqueIoTunables} {io io' : MasqueIo} {label : Label}

structure Counted (io : MasqueIo) : Prop where
  conserved : io.batches.Conserved
  counter : io.queuedPackets + UInt64.ofNat io.uncounted =
    UInt64.ofNat io.batches.queue.flatten.length
  small : io.batches.queue.flatten.length < 2 ^ 64

theorem batches_le_outbound (hlost : io.lost = []) :
    io.batches.queue.flatten.length ≤ io.outbound.length := by
  simp only [batches, outbound, hlost, List.append_nil, List.flatten_append, List.length_append]
  omega

theorem Counting.counted (h : Counting io io') (hio : Counted io)
    (hbound : io'.outbound.length ≤ packetLimit) : Counted io' := by
  obtain ⟨hcons, hcount, hsmall⟩ := hio
  cases h with
  | rests hb hq hu => exact ⟨hb ▸ hcons, by rw [hb, hq, hu, hcount], hb ▸ hsmall⟩
  | sends batch hlost hb hq hu hu' =>
      refine ⟨hb ▸ hcons.push [batch], ?_, ?_⟩
      · rw [hu] at hcount
        simp only [hb, hq, hu', Fifo.push, List.flatten_append, List.flatten_cons,
          List.flatten_nil, List.append_nil, List.length_append, UInt64.ofNat_add]
        rw [← hcount]
        grind
      · have hle := batches_le_outbound hlost
        have hlimit : packetLimit < 2 ^ 64 := by decide
        omega
  | adds hb hq hu =>
      refine ⟨hb ▸ hcons, ?_, hb ▸ hsmall⟩
      rw [hb, hq, hu, ← hcount]
      grind
  | subtracts batch rest hb hb' hq hu =>
      refine ⟨hb' ▸ hcons.pop 1, ?_, ?_⟩
      · rw [hb] at hcount
        simp only [List.flatten_cons, List.length_append, UInt64.ofNat_add] at hcount
        simp only [hb', hb, hq, hu, Fifo.pop, List.drop_succ_cons, List.drop_zero]
        grind
      · simp only [hb, List.flatten_cons, List.length_append] at hsmall
        simp only [hb', hb, Fifo.pop, List.drop_succ_cons, List.drop_zero]
        omega

theorem Reachable.counted {mtu queueCapacity connectStreamId : Nat}
    (h : Reachable tunables mtu queueCapacity connectStreamId io) : Counted io := by
  have hboth : Ordered io ∧ Counted io := by
    refine h.invariant (I := fun io => Ordered io ∧ Counted io) ?_
      ⟨ordered_new _ _ _, rfl, rfl, Nat.two_pow_pos 64⟩
    intro io label io' ⟨hordered, hcounted⟩ _ hs
    have hordered' := hordered.step hs
    exact ⟨hordered', (step_effect hs hordered.tidy).counting.counted hcounted hordered'.bounded⟩
  exact hboth.2

def pendingSendPackets (io : MasqueIo) : Nat := io.queuedPackets.toNat

def inTrySendBatch (io : MasqueIo) : Bool :=
  match io.drain with
  | some (.sending _ _) | some (.counting _ _) => true
  | _ => false

theorem uncounted_outside (h : io.inTrySendBatch = false) : io.uncounted = 0 := by
  unfold inTrySendBatch at h
  split at h
  · cases h
  · cases h
  next hsend hcount =>
    unfold uncounted
    split
    next pc hpc =>
      cases pc with
      | collecting attempted packets => rfl
      | sending attempted packets => rfl
      | counting attempted packetCount => exact absurd hpc (hcount attempted packetCount)
    · rfl

theorem pending_send_packets_exact {mtu queueCapacity connectStreamId : Nat}
    (h : Reachable tunables mtu queueCapacity connectStreamId io)
    (hread : io.inTrySendBatch = false) :
    ∃ outstanding : List (List Packet), io.sent = io.subtracted ++ outstanding ∧
      io.pendingSendPackets = outstanding.flatten.length := by
  obtain ⟨hcons, hcount, hsmall⟩ := h.counted
  refine ⟨io.batches.queue, hcons, ?_⟩
  have hcount' : io.queuedPackets = UInt64.ofNat io.batches.queue.flatten.length := by
    rw [uncounted_outside hread] at hcount
    simpa using hcount
  rw [pendingSendPackets, hcount', UInt64.toNat_ofNat_of_lt' hsmall]

-- The worker takes the batch and subtracts its packets before the manager has added them.
theorem pending_send_packets_exact_overtaken : ∃ io, Reachable {} 1500 4 0 io ∧
    io.inTrySendBatch = false ∧ ∃ outstanding : List (List Packet),
      io.sent = io.subtracted ++ outstanding ∧
        io.pendingSendPackets = outstanding.flatten.length := by
  have hrun : (Run.exec (step {}) (new 1500 4 0)
      [.transmit [1], .transmit [2], .beginDrain, .collect, .collect, .collect, .work,
        .trySend .sent, .work, .work, .fetchAdd]).any
      (fun io => !io.inTrySendBatch) = true := by
    decide +kernel
  obtain ⟨io, hs, hread⟩ := (Option.any_eq_true _ _).mp hrun
  rw [Bool.not_eq_true'] at hread
  have hreach : Reachable {} 1500 4 0 io := Run.exec_reaches hs
  exact ⟨io, hreach, hread, pending_send_packets_exact hreach hread⟩

example : ((Run.exec (step {}) (new 1500 4 0)
    [.transmit [1], .beginDrain, .collect, .collect, .work, .trySend .sent, .work, .work]).map
      pendingSendPackets) = some (2 ^ 64 - 1) := by
  decide +kernel

end MasqueIo

end Usque
