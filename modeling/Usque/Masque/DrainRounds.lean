import Usque.Masque.System
import Usque.Masque.TransmitPath

namespace Usque

variable {S : Smoltcp}

namespace NetworkStack

def withTx (st : NetworkStack S) (txQueue : List Packet) : NetworkStack S :=
  { st with device := { st.device with txQueue } }

@[simp] theorem withTx_txQueue (st : NetworkStack S) (txQueue : List Packet) :
    (st.withTx txQueue).device.txQueue = txQueue := rfl

@[simp] theorem withTx_withTx (st : NetworkStack S) (tx txQueue : List Packet) :
    (st.withTx tx).withTx txQueue = st.withTx txQueue := rfl

end NetworkStack

theorem MasqueIo.requeueAll_eq (device : VirtualDevice) (packets : List Packet) :
    requeueAll device packets = { device with txQueue := packets ++ device.txQueue } := by
  simp only [requeueAll]
  induction packets generalizing device with
  | nil => rfl
  | cons p ps ih =>
      simp only [List.reverse_cons, List.foldl_append, List.foldl_cons, List.foldl_nil, ih]
      rfl

namespace ActiveTunnel

open NetworkStack

variable {batchSize fuel budget streak : Nat} {now : Time} {blockedUntil : Option Time}
  {results : List SendResult} {packets tail : List Packet} {st : NetworkStack S}

theorem takePackets_eq (n : Nat) (st : NetworkStack S) :
    takePackets n st = (st.device.txQueue.take n, st.withTx (st.device.txQueue.drop n)) := by
  induction n generalizing st with
  | zero => rfl
  | succ n ih =>
      simp only [takePackets, NetworkStack.takePacket, VirtualDevice.takePacket]
      cases hq : st.device.txQueue with
      | nil =>
          simp only [Option.map_none, List.take_nil, List.drop_nil, withTx]
          rw [← hq]
      | cons packet ps =>
          simp only [Option.map_some, ih]
          rfl

theorem requeuePackets_eq (st : NetworkStack S) (packets : List Packet) :
    requeuePackets st packets = st.withTx (packets ++ st.device.txQueue) := by
  simp only [requeuePackets]
  induction packets generalizing st with
  | nil => rfl
  | cons p ps ih =>
      simp only [List.reverse_cons, List.foldl_append, List.foldl_cons, List.foldl_nil, ih]
      rfl

-- The packets of the next batch are those in front of tx_queue, as many as the budget allows.
def Batch (batchSize budget : Nat) (packets tail : List Packet) : Prop :=
  (packets ++ tail).take (min (max batchSize 1) budget) = packets

theorem Batch.takes (h : Batch batchSize budget packets tail) (st : NetworkStack S) :
    takePackets (min (max batchSize 1) budget) (st.withTx (packets ++ tail)) =
      (packets, st.withTx tail) := by
  have htail : (packets ++ tail).drop (min (max batchSize 1) budget) = tail := by
    have hsplit := List.take_append_drop (min (max batchSize 1) budget) (packets ++ tail)
    rw [show List.take _ _ = packets from h] at hsplit
    exact List.append_cancel_left hsplit
  rw [takePackets_eq, withTx_txQueue, withTx_withTx, htail, show List.take _ _ = packets from h]

theorem drainMasque_none (h : Batch batchSize budget [] tail) :
    drainMasque batchSize now fuel budget results streak blockedUntil (st.withTx tail) =
      (.masque streak blockedUntil, st.withTx tail) := by
  cases fuel with
  | zero => rfl
  | succ fuel => simp only [drainMasque, show takePackets _ (st.withTx tail) = _ from h.takes st]

theorem Batch.budget_pos (h : Batch batchSize budget packets tail) (hne : packets ≠ []) :
    0 < budget := by
  refine Nat.pos_of_ne_zero (fun hzero => hne ?_)
  simpa [Batch, hzero] using h.symm

theorem drainMasque_sends (h : Batch batchSize budget packets tail) (hne : packets ≠ [])
    (hfuel : budget ≤ fuel) (hanswer : results.headD .sent = .sent) :
    drainMasque batchSize now fuel budget results streak blockedUntil
        (st.withTx (packets ++ tail)) =
      drainMasque batchSize now (fuel - 1) (budget - packets.length) results.tail 0 none
        (st.withTx tail) := by
  obtain ⟨p, ps, rfl⟩ := List.exists_cons_of_ne_nil hne
  obtain ⟨fuel, rfl⟩ := Nat.exists_eq_succ_of_ne_zero
    (Nat.ne_of_gt (Nat.lt_of_lt_of_le (h.budget_pos hne) hfuel))
  simp only [drainMasque, h.takes st, hanswer, Nat.succ_eq_add_one, Nat.add_sub_cancel]

theorem drainMasque_stops {answer : SendResult} (h : Batch batchSize budget packets tail)
    (hne : packets ≠ []) (hfuel : budget ≤ fuel) (hanswer : results.headD .sent = answer)
    (hstop : answer ≠ .sent) :
    drainMasque batchSize now fuel budget results streak blockedUntil
        (st.withTx (packets ++ tail)) =
      ((ActiveTunnel.masque streak blockedUntil).answered now answer,
        st.withTx (packets ++ tail)) := by
  obtain ⟨p, ps, rfl⟩ := List.exists_cons_of_ne_nil hne
  obtain ⟨fuel, rfl⟩ := Nat.exists_eq_succ_of_ne_zero
    (Nat.ne_of_gt (Nat.lt_of_lt_of_le (h.budget_pos hne) hfuel))
  cases answer with
  | sent => exact absurd rfl hstop
  | full | closed =>
      simp only [drainMasque, h.takes st, hanswer, requeuePackets_eq, withTx_txQueue,
        withTx_withTx]
      rfl

theorem batch_length (batchSize budget : Nat) (txQueue : List Packet) :
    ∃ packets tail, txQueue = packets ++ tail ∧ Batch batchSize budget packets tail ∧
      (packets.length ≤ budget) := by
  refine ⟨txQueue.take (min (max batchSize 1) budget), txQueue.drop (min (max batchSize 1) budget),
    (List.take_append_drop _ _).symm, ?_, ?_⟩
  · rw [Batch, List.take_append_drop]
  · rw [List.length_take]
    omega

-- More fuel than the budget changes nothing.
theorem drainMasque_fuel {fuel' : Nat} (hfuel : budget ≤ fuel) (hfuel' : budget ≤ fuel') :
    drainMasque batchSize now fuel budget results streak blockedUntil st =
      drainMasque batchSize now fuel' budget results streak blockedUntil st := by
  induction fuel generalizing fuel' budget results streak blockedUntil st with
  | zero =>
      obtain rfl : budget = 0 := Nat.le_zero.mp hfuel
      have hnone : Batch batchSize 0 [] st.device.txQueue := by simp [Batch]
      have hst : st = st.withTx st.device.txQueue := rfl
      rw [hst, drainMasque_none hnone, drainMasque_none hnone]
  | succ fuel ih =>
      obtain ⟨packets, tail, hq, hbatch, hlen⟩ := batch_length batchSize budget st.device.txQueue
      have hst : st = st.withTx (packets ++ tail) := by rw [← hq]; rfl
      by_cases hne : packets = []
      · subst hne
        rw [hst, List.nil_append, drainMasque_none hbatch, drainMasque_none hbatch]
      · have hpos := List.length_pos_of_ne_nil hne
        rw [hst]
        by_cases hanswer : results.headD .sent = .sent
        · rw [drainMasque_sends hbatch hne hfuel hanswer,
            drainMasque_sends hbatch hne hfuel' hanswer]
          exact ih (by omega) (by omega)
        · rw [drainMasque_stops hbatch hne hfuel rfl hanswer,
            drainMasque_stops hbatch hne hfuel' rfl hanswer]

end ActiveTunnel

-- A place between two batches of a drain: the state of the tunnel, the budget left, the queue.
structure DrainPoint where
  streak : Nat
  blockedUntil : Option Time
  left : Nat
  txQueue : List Packet

namespace DrainPoint

variable {batchSize : Nat} {st : NetworkStack S} {answers : List SendResult} {p q : DrainPoint}

def finish (batchSize : Nat) (now : Time) (results : List SendResult) (st : NetworkStack S)
    (p : DrainPoint) : ActiveTunnel × NetworkStack S :=
  ActiveTunnel.drainMasque batchSize now p.left p.left results p.streak p.blockedUntil
    (st.withTx p.txQueue)

-- The answers so far take the drain from one place to the other.
def Resumes (batchSize : Nat) (st : NetworkStack S) (answers : List SendResult)
    (p q : DrainPoint) : Prop :=
  ∀ now rest, p.finish batchSize now (answers ++ rest) st = q.finish batchSize now rest st

theorem Resumes.refl (batchSize : Nat) (st : NetworkStack S) (p : DrainPoint) :
    Resumes batchSize st [] p p := fun _ _ => rfl

theorem Resumes.sends {packets tail : List Packet} (h : Resumes batchSize st answers p q)
    (hq : q.txQueue = packets ++ tail) (hbatch : ActiveTunnel.Batch batchSize q.left packets tail)
    (hne : packets ≠ []) :
    Resumes batchSize st (answers ++ [.sent]) p ⟨0, none, q.left - packets.length, tail⟩ := by
  intro now rest
  have hpos := List.length_pos_of_ne_nil hne
  rw [List.append_assoc, h]
  simp only [finish, hq]
  rw [ActiveTunnel.drainMasque_sends hbatch hne (Nat.le_refl _) rfl]
  exact ActiveTunnel.drainMasque_fuel (by omega) (Nat.le_refl _)

theorem Resumes.stops {packets tail : List Packet} (h : Resumes batchSize st answers p q)
    (hq : q.txQueue = packets ++ tail) (hbatch : ActiveTunnel.Batch batchSize q.left packets tail)
    (hne : packets ≠ []) {answer : SendResult} (hanswer : answer ≠ .sent) (now : Time) :
    p.finish batchSize now (answers ++ [answer]) st =
      ((ActiveTunnel.masque q.streak q.blockedUntil).answered now answer,
        st.withTx (packets ++ tail)) := by
  rw [h]
  simp only [finish, hq]
  exact ActiveTunnel.drainMasque_stops hbatch hne (Nat.le_refl _) rfl hanswer

theorem Resumes.runs_dry (h : Resumes batchSize st answers p q)
    (hbatch : ActiveTunnel.Batch batchSize q.left [] q.txQueue) (now : Time) :
    p.finish batchSize now answers st =
      (.masque q.streak q.blockedUntil, st.withTx q.txQueue) := by
  have hend := h now []
  rw [List.append_nil] at hend
  rw [hend]
  exact ActiveTunnel.drainMasque_none hbatch

end DrainPoint

namespace DrainPc

-- What the drain has taken out of its budget for the batches that were accepted.
def spent : DrainPc → Nat
  | .collecting attempted packets => attempted - packets.length
  | .sending attempted packets => attempted - packets.length
  | .counting attempted _ => attempted

-- What is in hand is the next batch, or the beginning of it.
def Fits (batchSize budget : Nat) (txQueue : List Packet) : DrainPc → Prop
  | .collecting attempted packets =>
      packets.length ≤ attempted ∧ attempted ≤ budget ∧
        packets.length ≤ min (max batchSize 1) (max budget 1)
  | .sending attempted packets =>
      packets.length ≤ attempted ∧ attempted ≤ budget ∧ packets ≠ [] ∧
        ActiveTunnel.Batch (min batchSize (max budget 1)) (budget - (attempted - packets.length))
          packets txQueue
  | .counting attempted _ => attempted ≤ budget

end DrainPc

namespace MasqueDrain

open DrainPoint MasqueIo

variable {batchSize budget : Nat} {stack : NetworkStack S} {d : MasqueDrain}
  {tunnel : ActiveTunnel} {io io' : MasqueIo} {now : Time}

-- The drain in one go, from where this one began, comes to where this one is.
structure Reaches (batchSize budget : Nat) (stack : NetworkStack S) (d : MasqueDrain)
    (tunnel : ActiveTunnel) (left : Nat) (txQueue : List Packet) : Prop where
  resumes : ∃ streak₀ blockedUntil₀ streak blockedUntil,
    d.tunnel = .masque streak₀ blockedUntil₀ ∧ tunnel = .masque streak blockedUntil ∧
      Resumes (min batchSize (max budget 1)) stack d.answers
        ⟨streak₀, blockedUntil₀, budget, d.device.txQueue⟩ ⟨streak, blockedUntil, left, txQueue⟩

structure Draining (batchSize budget : Nat) (stack : NetworkStack S) (d : MasqueDrain)
    (tunnel : ActiveTunnel) (io : MasqueIo) (pc : DrainPc) : Prop where
  device : io.device = { d.device with txQueue := io.device.txQueue }
  fits : pc.Fits batchSize budget io.device.txQueue
  reaches : Reaches batchSize budget stack d tunnel (budget - pc.spent)
    (pc.packets ++ io.device.txQueue)

structure Drained (batchSize budget : Nat) (stack : NetworkStack S) (now : Time) (d : MasqueDrain)
    (tunnel : ActiveTunnel) (io : MasqueIo) : Prop where
  device : io.device = { d.device with txQueue := io.device.txQueue }
  finished : ∃ streak₀ blockedUntil₀, d.tunnel = .masque streak₀ blockedUntil₀ ∧
    finish (min batchSize (max budget 1)) now d.answers stack
        ⟨streak₀, blockedUntil₀, budget, d.device.txQueue⟩ =
      (tunnel, stack.withTx io.device.txQueue)

structure Advanced (batchSize budget : Nat) (stack : NetworkStack S) (now : Time) (d : MasqueDrain)
    (tunnel : ActiveTunnel) (io : MasqueIo) : Prop where
  goes : ∀ pc, io.drain = some pc → Draining batchSize budget stack d tunnel io pc
  ends : io.drain = none → Drained batchSize budget stack now d tunnel io

theorem Advanced.of_some {pc : DrainPc} (hdrain : io.drain = some pc)
    (h : Draining batchSize budget stack d tunnel io pc) :
    Advanced batchSize budget stack now d tunnel io := by
  refine ⟨fun pc' hpc => ?_, fun hnone => ?_⟩
  · rw [hdrain] at hpc
    cases hpc
    exact h
  · rw [hdrain] at hnone
    cases hnone

theorem Advanced.of_none (hdrain : io.drain = none)
    (h : Drained batchSize budget stack now d tunnel io) :
    Advanced batchSize budget stack now d tunnel io := by
  refine ⟨fun pc hpc => ?_, fun _ => h⟩
  rw [hdrain] at hpc
  cases hpc

theorem begins {device : VirtualDevice} {streak : Nat} {blockedUntil : Option Time}
    (hdevice : io.device = device) :
    Draining batchSize budget stack ⟨.masque streak blockedUntil, device, []⟩
      (.masque streak blockedUntil) io (.collecting 0 []) := by
  subst hdevice
  exact ⟨rfl, ⟨Nat.le_refl _, Nat.zero_le _, Nat.zero_le _⟩,
    ⟨_, _, _, _, rfl, rfl, .refl _ _ _⟩⟩

theorem batch_closed {attempted : Nat} {packets txQueue : List Packet}
    (hfits : (DrainPc.collecting attempted packets).Fits batchSize budget txQueue)
    (hfull : (attempted < budget ∧ packets.length < min (max batchSize 1) (max budget 1)) →
      txQueue = []) :
    ActiveTunnel.Batch (min batchSize (max budget 1)) (budget - (attempted - packets.length))
      packets txQueue := by
  obtain ⟨hlen, hbudget, hbatch⟩ := hfits
  have hle : packets.length ≤
      min (max (min batchSize (max budget 1)) 1) (budget - (attempted - packets.length)) := by
    omega
  rw [ActiveTunnel.Batch, List.take_append, List.take_of_length_le hle]
  by_cases hroom : attempted < budget ∧ packets.length < min (max batchSize 1) (max budget 1)
  · rw [hfull hroom, List.take_nil, List.append_nil]
  · have hzero : min (max (min batchSize (max budget 1)) 1)
        (budget - (attempted - packets.length)) - packets.length = 0 := by
      omega
    rw [hzero, List.take_zero, List.append_nil]

theorem closeBatch_advances {attempted : Nat} {packets : List Packet}
    (h : Draining batchSize budget stack d tunnel io (.collecting attempted packets))
    (hfull : (attempted < budget ∧ packets.length < min (max batchSize 1) (max budget 1)) →
      io.device.txQueue = []) :
    Advanced batchSize budget stack now d tunnel (io.closeBatch attempted packets) := by
  have hbatch := batch_closed h.fits hfull
  obtain ⟨hlen, hbudget, -⟩ := h.fits
  cases packets with
  | nil =>
      obtain ⟨streak₀, blockedUntil₀, streak, blockedUntil, hd, rfl, hresumes⟩ := h.reaches.resumes
      exact .of_none rfl ⟨h.device, _, _, hd, hresumes.runs_dry hbatch now⟩
  | cons p ps => exact .of_some rfl ⟨h.device, ⟨hlen, hbudget, nofun, hbatch⟩, h.reaches⟩

theorem takes_packet {attempted : Nat} {packets : List Packet} {packet : Packet}
    {device : VirtualDevice}
    (h : Draining batchSize budget stack d tunnel io (.collecting attempted packets))
    (hroom : attempted < budget ∧ packets.length < min (max batchSize 1) (max budget 1))
    (htake : io.device.takePacket = some (packet, device)) :
    Draining batchSize budget stack d tunnel
      { io with device, drain := some (.collecting (attempted + 1) (packets ++ [packet])) }
      (.collecting (attempted + 1) (packets ++ [packet])) := by
  have hq := takePacket_txQueue htake
  have hdevice : device = { io.device with txQueue := device.txQueue } := by
    simp only [VirtualDevice.takePacket] at htake
    split at htake <;> cases htake
    rfl
  obtain ⟨hlen, hbudget, hbatch⟩ := h.fits
  refine ⟨?_, ⟨?_, hroom.1, ?_⟩, ?_⟩
  · exact hdevice.trans (by rw [h.device])
  · rw [List.length_append]
    exact Nat.succ_le_succ hlen
  · rw [List.length_append]
    exact hroom.2
  · have hspent : (DrainPc.collecting (attempted + 1) (packets ++ [packet])).spent =
        (DrainPc.collecting attempted packets).spent := by
      simp only [DrainPc.spent, List.length_append, List.length_singleton]
      exact Nat.add_sub_add_right _ _ _
    have hqueue : packets ++ [packet] ++ device.txQueue = packets ++ io.device.txQueue := by
      rw [hq, List.append_assoc, List.singleton_append]
    rw [hspent]
    exact hqueue.symm ▸ h.reaches

theorem collect_advances {tunables : MasqueIoTunables} {pc : DrainPc}
    (hstep : io.collect tunables = some io') (hdrain : io.drain = some pc)
    (h : Draining tunables.masqueSendBatchSize tunables.masqueStackDrainBudget stack d tunnel io
      pc) :
    Advanced tunables.masqueSendBatchSize tunables.masqueStackDrainBudget stack now d tunnel
      io' := by
  simp only [collect, hdrain] at hstep
  split at hstep
  next attempted packets hpc =>
    cases hpc
    split at hstep
    next hroom =>
      simp only [Bool.and_eq_true, decide_eq_true_eq] at hroom
      split at hstep
      next htake =>
        cases hstep
        refine closeBatch_advances h (fun _ => ?_)
        simp only [VirtualDevice.takePacket] at htake
        split at htake
        · assumption
        · cases htake
      next packet device htake =>
        cases hstep
        exact .of_some rfl (takes_packet h hroom htake)
    next hroom =>
      cases hstep
      refine closeBatch_advances h (fun hopen => absurd ?_ hroom)
      simp only [Bool.and_eq_true, decide_eq_true_eq]
      exact hopen
  · cases hstep

theorem accepts_batch {attempted : Nat} {packets : List Packet} {sendChannel : Channel (List Packet)}
    {sent : List (List Packet)} {streak : Nat} {blockedUntil : Option Time}
    (h : Draining batchSize budget stack d (.masque streak blockedUntil) io
      (.sending attempted packets)) :
    Draining batchSize budget stack { d with answers := d.answers ++ [.sent] } (.masque 0 none)
      { io with sendChannel, drain := some (.counting attempted packets.length), sent }
      (.counting attempted packets.length) := by
  obtain ⟨hlen, hbudget, hne, hbatch⟩ := h.fits
  obtain ⟨streak₀, blockedUntil₀, _, _, hd, -, hresumes⟩ := h.reaches.resumes
  have hleft : budget - (attempted - packets.length) - packets.length = budget - attempted := by
    omega
  have hsends := hresumes.sends rfl hbatch hne
  exact ⟨h.device, hbudget, ⟨streak₀, blockedUntil₀, 0, none, hd, rfl, hleft ▸ hsends⟩⟩

theorem refuses_batch {attempted : Nat} {packets : List Packet} {streak : Nat}
    {blockedUntil : Option Time} {answer : SendResult} (hanswer : answer ≠ .sent)
    (h : Draining batchSize budget stack d (.masque streak blockedUntil) io
      (.sending attempted packets)) :
    Drained batchSize budget stack now { d with answers := d.answers ++ [answer] }
      ((ActiveTunnel.masque streak blockedUntil).answered now answer)
      { io with device := requeueAll io.device packets, drain := none } := by
  obtain ⟨hlen, hbudget, hne, hbatch⟩ := h.fits
  obtain ⟨streak₀, blockedUntil₀, _, _, hd, htunnel, hresumes⟩ := h.reaches.resumes
  cases htunnel
  refine ⟨?_, streak₀, blockedUntil₀, hd, ?_⟩
  · rw [requeueAll_eq]
    exact h.device ▸ rfl
  · rw [requeueAll_eq]
    exact hresumes.stops rfl hbatch hne hanswer now

theorem trySend_advances {tunables : MasqueIoTunables} {pc : DrainPc} {streak : Nat}
    {blockedUntil : Option Time} {answer : SendResult}
    (hstep : io.trySend tunables answer = some io') (hdrain : io.drain = some pc)
    (h : Draining tunables.masqueSendBatchSize tunables.masqueStackDrainBudget stack d
      (.masque streak blockedUntil) io pc) :
    Advanced tunables.masqueSendBatchSize tunables.masqueStackDrainBudget stack now
      { d with answers := d.answers ++ [answer] }
      ((ActiveTunnel.masque streak blockedUntil).answered now answer) io' := by
  simp only [trySend, hdrain] at hstep
  split at hstep
  next attempted packets hpc =>
    cases hpc
    split at hstep
    · obtain ⟨sendChannel, -, rfl⟩ := Option.map_eq_some_iff.mp hstep
      exact .of_some rfl (accepts_batch h)
    · cases hstep
  next attempted packets hpc hanswer =>
    cases hpc
    cases hstep
    exact .of_none rfl (refuses_batch hanswer h)
  · cases hstep

theorem fetchAdd_advances {pc : DrainPc} (hstep : io.fetchAdd = some io')
    (hdrain : io.drain = some pc) (h : Draining batchSize budget stack d tunnel io pc) :
    Advanced batchSize budget stack now d tunnel io' := by
  simp only [fetchAdd, hdrain] at hstep
  split at hstep
  next attempted packetCount hpc =>
    cases hpc
    cases hstep
    exact .of_some rfl ⟨h.device, ⟨Nat.zero_le _, h.fits, Nat.zero_le _⟩, h.reaches⟩
  · cases hstep

end MasqueDrain

end Usque
