import Mathlib.Data.Prod.Lex
import Usque.Lib.Fault
import Usque.Manager.Metrics

namespace Usque

structure ManagerLoadSnapshot where
  activeTcpSockets : Nat
  pendingConnects : Nat
  pendingToClientBytes : Nat
  transportPendingSendPackets : Nat
deriving DecidableEq, Repr

def saturatingAdd (a b : Nat) : Nat := min (a + b) usizeMax

namespace ManagerRuntimeStats

def snapshot (st : ManagerRuntimeStats) : ManagerLoadSnapshot :=
  ⟨st.activeTcpSockets, st.pendingConnects, st.pendingToClientBytes,
    st.transportPendingSendPackets⟩

end ManagerRuntimeStats

-- The managers are known here by their stats.
structure TunnelManagerPool where
  managers : List ManagerRuntimeStats
  next : UInt64
deriving DecidableEq

abbrev LoadKey := Nat ×ₗ Nat ×ₗ Nat ×ₗ Nat

def loadKey (sockets packets bytes distance : Nat) : LoadKey :=
  toLex (sockets, toLex (packets, toLex (bytes, distance)))

namespace TunnelManagerPool

def candidate (managers : List ManagerRuntimeStats) (start offset : Nat) :
    Outcome (Nat × ManagerLoadSnapshot) :=
  let idx := (start + offset) % managers.length
  match managers[idx]? with
  | none => .error .panic
  | some manager => .ok (idx, manager.snapshot)

def candidatesFrom (managers : List ManagerRuntimeStats) (start : Nat) :
    List Nat → Outcome (List (Nat × ManagerLoadSnapshot))
  | [] => .ok []
  | offset :: offsets => do
      let first ← candidate managers start offset
      let rest ← candidatesFrom managers start offsets
      .ok (first :: rest)

def sortKey (len start idx : Nat) (load : ManagerLoadSnapshot) : Outcome LoadKey :=
  if idx + len < start then .error .panic
  else
    .ok (loadKey (saturatingAdd load.activeTcpSockets load.pendingConnects)
      load.transportPendingSendPackets load.pendingToClientBytes ((idx + len - start) % len))

def sortKeys (len start : Nat) :
    List (Nat × ManagerLoadSnapshot) → Outcome (List (LoadKey × Nat))
  | [] => .ok []
  | (idx, load) :: candidates => do
      let key ← sortKey len start idx load
      let rest ← sortKeys len start candidates
      .ok ((key, idx) :: rest)

-- `sort_by_key` is stable.
def sortByKey (candidates : List (LoadKey × Nat)) : List (LoadKey × Nat) :=
  candidates.mergeSort (fun a b => a.1 ≤ b.1)

def pickFirst (reserveTcpSlot : Bool) (managers : List ManagerRuntimeStats) :
    List (LoadKey × Nat) → Outcome (Option Nat × List ManagerRuntimeStats)
  | [] => .ok (none, managers)
  | (_, idx) :: candidates =>
      match managers[idx]? with
      | none => .error .panic
      | some manager =>
          if !reserveTcpSlot then .ok (some idx, managers)
          else
            let (reserved, manager) := manager.tryReserveTcpSlot
            if reserved then .ok (some idx, managers.set idx manager)
            else pickFirst reserveTcpSlot managers candidates

-- The manager that is picked is given by its index.
def pickLoadedManager (pool : TunnelManagerPool) (reserveTcpSlot : Bool) :
    Outcome (Option Nat × TunnelManagerPool) :=
  if pool.managers.isEmpty then .ok (none, pool)
  else do
    let len := pool.managers.length
    let start := pool.next.toNat % len
    let candidates ← candidatesFrom pool.managers start (List.range len)
    let keyed ← sortKeys len start candidates
    let (picked, managers) ← pickFirst reserveTcpSlot pool.managers (sortByKey keyed)
    .ok (picked, ⟨managers, pool.next + 1⟩)

end TunnelManagerPool

namespace ManagerRuntimeStats

-- What a worker's sockets add up to, and whether that is below its limit.
def sockets (st : ManagerRuntimeStats) : Nat := st.activeTcpSockets + st.pendingConnects

def BelowLimit (st : ManagerRuntimeStats) : Prop := st.sockets < st.maxTcpSocketsPerWorker

instance (st : ManagerRuntimeStats) : Decidable st.BelowLimit :=
  inferInstanceAs (Decidable (_ < _))

def reserved (st : ManagerRuntimeStats) : ManagerRuntimeStats :=
  { st with pendingConnects := st.pendingConnects + 1 }

theorem hasRoom_iff {st : ManagerRuntimeStats} (h : st.maxTcpSocketsPerWorker ≤ usizeMax) :
    st.hasRoom = true ↔ st.BelowLimit := by
  simp only [hasRoom, BelowLimit, sockets, decide_eq_true_eq]
  omega

end ManagerRuntimeStats

namespace TunnelManagerPool

-- How far a worker is from the one that the rotation starts at.
def distance (pool : TunnelManagerPool) (idx : Nat) : Nat :=
  (idx + pool.managers.length - pool.next.toNat % pool.managers.length) % pool.managers.length

def rank (pool : TunnelManagerPool) (idx : Nat) (st : ManagerRuntimeStats) : LoadKey :=
  loadKey st.sockets st.transportPendingSendPackets st.pendingToClientBytes (pool.distance idx)

-- The key that the code sorts by, whose first part saturates.
def keyOf (len start idx : Nat) (st : ManagerRuntimeStats) : LoadKey :=
  loadKey (saturatingAdd st.activeTcpSockets st.pendingConnects) st.transportPendingSendPackets
    st.pendingToClientBytes ((idx + len - start) % len)

variable {managers : List ManagerRuntimeStats} {start : Nat}

def Keyed (managers : List ManagerRuntimeStats) (start : Nat) (c : LoadKey × Nat) : Prop :=
  ∃ st, managers[c.2]? = some st ∧ c.1 = keyOf managers.length start c.2 st

theorem keyed_candidates (hstart : start < managers.length) (offsets : List Nat) :
    ∃ candidates keyed, candidatesFrom managers start offsets = .ok candidates ∧
      sortKeys managers.length start candidates = .ok keyed ∧
      (∀ c ∈ keyed, Keyed managers start c) ∧
      keyed.map Prod.snd = offsets.map (fun offset => (start + offset) % managers.length) := by
  induction offsets with
  | nil => exact ⟨[], [], rfl, rfl, nofun, rfl⟩
  | cons offset offsets ih =>
      obtain ⟨candidates, keyed, hc, hk, hkeyed, hmap⟩ := ih
      have hpos : 0 < managers.length := Nat.zero_lt_of_lt hstart
      have hidx := Nat.mod_lt (start + offset) hpos
      have hget := List.getElem?_eq_getElem hidx
      refine ⟨((start + offset) % managers.length,
          (managers[(start + offset) % managers.length]).snapshot) :: candidates,
        (keyOf managers.length start ((start + offset) % managers.length)
          (managers[(start + offset) % managers.length]),
          (start + offset) % managers.length) :: keyed, ?_, ?_, ?_, ?_⟩
      · simp only [candidatesFrom, candidate, hget, hc, Outcome.ok_bind]
      · have hsub : ¬ (start + offset) % managers.length + managers.length < start := by omega
        simp only [sortKeys, sortKey, if_neg hsub, hk, Outcome.ok_bind]
        rfl
      · intro c hmem
        rcases List.mem_cons.mp hmem with rfl | hmem
        · exact ⟨_, hget, rfl⟩
        · exact hkeyed c hmem
      · simp only [List.map_cons, hmap]

-- Every worker is a candidate.
theorem covered (hstart : start < managers.length) {idx : Nat} (hidx : idx < managers.length) :
    ∃ offset, offset < managers.length ∧ (start + offset) % managers.length = idx := by
  rcases Nat.lt_or_ge idx start with hlt | hge
  · refine ⟨idx + managers.length - start, by omega, ?_⟩
    have hsum : start + (idx + managers.length - start) = idx + managers.length := by omega
    rw [hsum, Nat.add_mod_right, Nat.mod_eq_of_lt hidx]
  · refine ⟨idx - start, by omega, ?_⟩
    rw [Nat.add_sub_cancel' hge, Nat.mod_eq_of_lt hidx]

theorem distance_inj (hstart : start < managers.length) {i j : Nat} (hi : i < managers.length)
    (hj : j < managers.length)
    (h : (i + managers.length - start) % managers.length =
      (j + managers.length - start) % managers.length) : i = j := by
  have hcases : ∀ k, k < managers.length → (k + managers.length - start) % managers.length =
      if start ≤ k then k - start else k + managers.length - start := by
    intro k hk
    split_ifs with hle
    · have hsum : k + managers.length - start = k - start + managers.length := by omega
      rw [hsum, Nat.add_mod_right, Nat.mod_eq_of_lt (by omega)]
    · exact Nat.mod_eq_of_lt (by omega)
  rw [hcases i hi, hcases j hj] at h
  split_ifs at h <;> omega

theorem sortByKey_pairwise (keyed : List (LoadKey × Nat)) :
    (sortByKey keyed).Pairwise (fun a b => a.1 ≤ b.1) := by
  have htrans : ∀ a b c : LoadKey × Nat, decide (a.1 ≤ b.1) = true → decide (b.1 ≤ c.1) = true →
      decide (a.1 ≤ c.1) = true := by
    intro a b c hab hbc
    exact decide_eq_true (le_trans (of_decide_eq_true hab) (of_decide_eq_true hbc))
  have htotal : ∀ a b : LoadKey × Nat, (decide (a.1 ≤ b.1) || decide (b.1 ≤ a.1)) = true := by
    intro a b
    rcases le_total a.1 b.1 with h | h
    · simp only [h, decide_true, Bool.true_or]
    · simp only [h, decide_true, Bool.or_true]
  exact (List.pairwise_mergeSort htrans htotal keyed).imp fun h => of_decide_eq_true h

-- The first candidate with room takes the slot, and those before it are left as they were.
theorem pickFirst_spec {keyed : List (LoadKey × Nat)}
    (hkeyed : ∀ c ∈ keyed, Keyed managers start c)
    (hlimit : ∀ st ∈ managers, st.maxTcpSocketsPerWorker ≤ usizeMax)
    (hsorted : keyed.Pairwise (fun a b => a.1 ≤ b.1)) :
    (∃ c ∈ keyed, ∃ st, managers[c.2]? = some st ∧ st.BelowLimit ∧
      pickFirst true managers keyed = .ok (some c.2, managers.set c.2 st.reserved) ∧
      ∀ d ∈ keyed, ∀ st', managers[d.2]? = some st' → st'.BelowLimit → c.1 ≤ d.1) ∨
    pickFirst true managers keyed = .ok (none, managers) ∧
      ∀ c ∈ keyed, ∀ st, managers[c.2]? = some st → ¬ st.BelowLimit := by
  induction keyed with
  | nil => exact .inr ⟨rfl, nofun⟩
  | cons c keyed ih =>
      obtain ⟨hfirst, hrest⟩ := List.pairwise_cons.mp hsorted
      obtain ⟨st, hst, _⟩ := hkeyed c (.head _)
      have hroom := ManagerRuntimeStats.hasRoom_iff (hlimit st (List.mem_of_getElem? hst))
      by_cases hbelow : st.BelowLimit
      · refine .inl ⟨c, .head _, st, hst, hbelow, ?_, ?_⟩
        · simp only [pickFirst, hst, ManagerRuntimeStats.tryReserveTcpSlot, hroom.mpr hbelow,
            Bool.not_true, Bool.false_eq_true, if_false, if_true]
          rfl
        · intro d hd st' _ _
          rcases List.mem_cons.mp hd with rfl | hd
          · exact le_refl _
          · exact hfirst d hd
      · have hfull : st.hasRoom = false := eq_false_of_ne_true fun h => hbelow (hroom.mp h)
        have hskip : pickFirst true managers (c :: keyed) = pickFirst true managers keyed := by
          simp only [pickFirst, hst, ManagerRuntimeStats.tryReserveTcpSlot, hfull, Bool.not_true,
            Bool.false_eq_true, if_false]
        have hnot : ∀ st', managers[c.2]? = some st' → ¬ st'.BelowLimit := by
          intro st' hst'
          rw [hst] at hst'
          cases hst'
          exact hbelow
        rw [hskip]
        rcases ih (fun d hd => hkeyed d (.tail _ hd)) hrest with
          ⟨d, hd, st', hst', hroom', hpick, hleast⟩ | ⟨hpick, hnone⟩
        · refine .inl ⟨d, .tail _ hd, st', hst', hroom', hpick, fun e he st'' hst'' hbelow' => ?_⟩
          rcases List.mem_cons.mp he with rfl | he
          · exact absurd hbelow' (hnot st'' hst'')
          · exact hleast e he st'' hst'' hbelow'
        · refine .inr ⟨hpick, fun e he => ?_⟩
          rcases List.mem_cons.mp he with rfl | he
          · exact hnot
          · exact hnone e he

theorem keyOf_rank {pool : TunnelManagerPool} {st : ManagerRuntimeStats}
    (hlimit : st.maxTcpSocketsPerWorker ≤ usizeMax) (hbelow : st.BelowLimit) (idx : Nat) :
    keyOf pool.managers.length (pool.next.toNat % pool.managers.length) idx st =
      pool.rank idx st := by
  have hexact : saturatingAdd st.activeTcpSockets st.pendingConnects = st.sockets :=
    Nat.min_eq_left (Nat.le_trans (Nat.le_of_lt hbelow) hlimit)
  rw [keyOf, hexact]
  rfl

theorem distance_of_rank {pool : TunnelManagerPool} {i j : Nat} {st st' : ManagerRuntimeStats}
    (h : pool.rank i st = pool.rank j st') : pool.distance i = pool.distance j := by
  simp only [rank, loadKey, toLex_inj, Prod.mk.injEq] at h
  exact h.2.2.2

theorem worker_selection (pool : TunnelManagerPool) (hne : pool.managers ≠ [])
    (hlimit : ∀ st ∈ pool.managers, st.maxTcpSocketsPerWorker ≤ usizeMax) :
    ∃ picked pool', pool.pickLoadedManager true = .ok (picked, pool') ∧
      pool'.next = pool.next + 1 ∧
      (picked = none ↔ ∀ st ∈ pool.managers, st.maxTcpSocketsPerWorker ≤ st.sockets) ∧
      (picked = none → pool'.managers = pool.managers) ∧
      ∀ idx, picked = some idx → ∃ st, pool.managers[idx]? = some st ∧ st.BelowLimit ∧
        (∀ j st', pool.managers[j]? = some st' → st'.BelowLimit → j ≠ idx →
          pool.rank idx st < pool.rank j st') ∧
        pool'.managers = pool.managers.set idx st.reserved := by
  have hpos : 0 < pool.managers.length := List.length_pos_iff.mpr hne
  have hstart := Nat.mod_lt pool.next.toNat hpos
  obtain ⟨candidates, keyed, hc, hk, hkeyed, hmap⟩ :=
    keyed_candidates hstart (List.range pool.managers.length)
  have hperm : (sortByKey keyed).Perm keyed := List.mergeSort_perm _ _
  have hkeyed' : ∀ c ∈ sortByKey keyed, Keyed pool.managers _ c :=
    fun c hm => hkeyed c (hperm.mem_iff.mp hm)
  have hall : ∀ (j : Nat) (st : ManagerRuntimeStats), pool.managers[j]? = some st →
      ∃ c ∈ sortByKey keyed, c.2 = j := by
    intro j st hst
    obtain ⟨hj, _⟩ := List.getElem?_eq_some_iff.mp hst
    obtain ⟨offset, hoffset, hj⟩ := covered hstart hj
    have hmem : j ∈ keyed.map Prod.snd := by
      rw [hmap]
      exact List.mem_map.mpr ⟨offset, List.mem_range.mpr hoffset, hj⟩
    obtain ⟨c, hm, hcj⟩ := List.mem_map.mp hmem
    exact ⟨c, hperm.mem_iff.mpr hm, hcj⟩
  have hpick : ∀ picked managers,
      pickFirst true pool.managers (sortByKey keyed) = .ok (picked, managers) →
      pool.pickLoadedManager true = .ok (picked, ⟨managers, pool.next + 1⟩) := by
    intro picked managers hp
    have hempty : pool.managers.isEmpty = false := by simpa using hne
    simp only [pickLoadedManager, hempty, Bool.false_eq_true, if_false, hc, hk, hp, Outcome.ok_bind]
  rcases pickFirst_spec hkeyed' hlimit (sortByKey_pairwise keyed) with
    ⟨c, hm, st, hst, hbelow, hp, hleast⟩ | ⟨hp, hfull⟩
  · refine ⟨some c.2, _, hpick _ _ hp, rfl, ?_, nofun, ?_⟩
    · refine iff_of_false nofun fun hfull => ?_
      exact Nat.not_le_of_lt hbelow (hfull st (List.mem_of_getElem? hst))
    · intro idx hidx
      cases hidx
      refine ⟨st, hst, hbelow, fun j st' hst' hbelow' hj => ?_, rfl⟩
      obtain ⟨d, hd, rfl⟩ := hall j st' hst'
      obtain ⟨u, hu, hckey⟩ := hkeyed' c hm
      obtain ⟨v, hv, hdkey⟩ := hkeyed' d hd
      rw [hst] at hu
      rw [hst'] at hv
      cases hu
      cases hv
      have hle := hleast d hd st' hst' hbelow'
      rw [hckey, hdkey, keyOf_rank (hlimit _ (List.mem_of_getElem? hst)) hbelow,
        keyOf_rank (hlimit _ (List.mem_of_getElem? hst')) hbelow'] at hle
      refine lt_of_le_of_ne hle fun heq => hj ?_
      obtain ⟨hi, _⟩ := List.getElem?_eq_some_iff.mp hst
      obtain ⟨hi', _⟩ := List.getElem?_eq_some_iff.mp hst'
      exact (distance_inj hstart hi hi' (distance_of_rank heq)).symm
  · refine ⟨none, _, hpick _ _ hp, rfl, ?_, fun _ => rfl, nofun⟩
    refine iff_of_true rfl fun st hmem => ?_
    obtain ⟨j, hj, hst⟩ := List.getElem_of_mem hmem
    have hst : pool.managers[j]? = some st := List.getElem?_eq_some_iff.mpr ⟨hj, hst⟩
    obtain ⟨c, hm, rfl⟩ := hall j st hst
    exact Nat.le_of_not_lt (hfull c hm st hst)

-- Two workers of the same load, one of which has no room left.
def busyPool : TunnelManagerPool := ⟨[⟨2, 2, 0, 0, 0⟩, ⟨2, 1, 0, 0, 0⟩], 0⟩

theorem worker_selection_busy :
    ∃ picked pool', busyPool.pickLoadedManager true = .ok (picked, pool') ∧
      ∀ idx, picked = some idx → ∃ st, busyPool.managers[idx]? = some st ∧ st.BelowLimit ∧
        pool'.managers = busyPool.managers.set idx st.reserved := by
  obtain ⟨picked, pool', hp, _, _, _, hsome⟩ := worker_selection busyPool (by decide) (by decide)
  refine ⟨picked, pool', hp, fun idx hidx => ?_⟩
  obtain ⟨st, hst, hbelow, _, hset⟩ := hsome idx hidx
  exact ⟨st, hst, hbelow, hset⟩

end TunnelManagerPool

end Usque
