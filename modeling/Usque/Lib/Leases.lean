import Mathlib.Logic.Function.Basic
import Mathlib.Data.List.Basic

-- Tenants enter and leave a table of keys through one queue of messages: each draws a key, asks for
-- its entry, holds it, gives it back and is done.

inductive LeaseStage where
  | idle
  | drawn
  | asked
  | holding
  | released
  | done
deriving DecidableEq, Repr

namespace LeaseStage

def running : LeaseStage → Bool
  | .idle | .done => false
  | .drawn | .asked | .holding | .released => true

end LeaseStage

inductive LeaseMessage (T : Type) where
  | take (i : T)
  | give (i : T)
deriving DecidableEq, Repr

structure Leases (K T : Type) where
  table : K → Option T
  queue : List (Option (LeaseMessage T))
  stage : T → LeaseStage
  key : T → K

inductive LeaseOp (K T : Type) where
  | start (i : T) (k : K)
  | ask (i : T)
  | other
  | skip
  | grant (i : T)
  | refuse (i : T)
  | revoke (i : T)
  | give (i : T)
  | finish (i : T)

namespace Leases

variable {K T : Type} [DecidableEq T]

def enter (l : Leases K T) (i : T) (stage : LeaseStage) : Leases K T :=
  { l with stage := Function.update l.stage i stage }

@[simp, grind =] theorem enter_stage (l : Leases K T) (i j : T) (stage : LeaseStage) :
    (l.enter i stage).stage j = if j = i then stage else l.stage j :=
  Function.update_apply ..

@[simp, grind =] theorem enter_key (l : Leases K T) (i : T) (stage : LeaseStage) :
    (l.enter i stage).key = l.key :=
  rfl

@[simp, grind =] theorem enter_queue (l : Leases K T) (i : T) (stage : LeaseStage) :
    (l.enter i stage).queue = l.queue :=
  rfl

@[simp, grind =] theorem enter_table (l : Leases K T) (i : T) (stage : LeaseStage) :
    (l.enter i stage).table = l.table :=
  rfl

variable [DecidableEq K] {l : Leases K T}

def apply (l : Leases K T) : LeaseOp K T → Leases K T
  | .start i k => { l.enter i .drawn with key := Function.update l.key i k }
  | .ask i => { l.enter i .asked with queue := l.queue ++ [some (.take i)] }
  | .other => { l with queue := l.queue ++ [none] }
  | .skip => { l with queue := l.queue.tail }
  | .grant i =>
      { l.enter i .holding with
        queue := l.queue.tail
        table := Function.update l.table (l.key i) (some i) }
  | .refuse i => { l.enter i .done with queue := l.queue.tail }
  | .revoke i => { l with queue := l.queue.tail, table := Function.update l.table (l.key i) none }
  | .give i => { l.enter i .released with queue := l.queue ++ [some (.give i)] }
  | .finish i => l.enter i .done

def free (l : Leases K T) (k : K) : Prop :=
  ∀ i, (l.stage i).running = true → l.key i ≠ k

-- A key is drawn only while no running tenant has it.
def enabled (l : Leases K T) : LeaseOp K T → Prop
  | .start i k => l.stage i = .idle ∧ l.free k
  | .ask i => l.stage i = .drawn
  | .other => True
  | .skip => l.queue.head? = some none
  | .grant i | .refuse i => l.queue.head? = some (some (.take i))
  | .revoke i => l.queue.head? = some (some (.give i))
  | .give i => l.stage i = .holding
  | .finish i => l.stage i = .released

structure Sound (l : Leases K T) : Prop where
  taken : ∀ i, some (.take i) ∈ l.queue → l.stage i = .asked
  given : ∀ i, some (.give i) ∈ l.queue → l.stage i = .released ∨ l.stage i = .done
  once : ∀ i, l.queue.count (some (.take i)) ≤ 1
  order : l.queue.Pairwise (fun m m' => ∀ i j, m = some (.take j) → m' = some (.give i) →
    l.key i ≠ l.key j)
  distinct : ∀ i j, (l.stage i).running = true → (l.stage j).running = true →
    l.key i = l.key j → i = j
  later : ∀ i j, some (.give i) ∈ l.queue → (l.stage j).running = true → l.key j = l.key i →
    j ≠ i → l.stage j = .drawn ∨ l.stage j = .asked
  entry : ∀ k i, l.table k = some i →
    l.key i = k ∧ (l.stage i = .holding ∨ some (.give i) ∈ l.queue)
  own : ∀ i j, some (.give i) ∈ l.queue → l.table (l.key i) = some j → j = i

theorem Sound.start (h : l.Sound) {i : T} {k : K} (hi : l.stage i = .idle) (hk : l.free k) :
    (l.apply (.start i k)).Sound := by
  have htake : ∀ j, some (.take j) ∈ l.queue → j ≠ i := by
    intro j hj he
    rw [← he, h.taken j hj] at hi
    cases hi
  have hgive : ∀ j, some (.give j) ∈ l.queue → j ≠ i := by
    intro j hj he
    rw [he] at hj
    rcases h.given i hj with hg | hg <;> rw [hi] at hg <;> cases hg
  constructor
  · intro j hj
    have := h.taken j hj
    have := htake j hj
    simp only [apply, enter_stage]
    grind
  · intro j hj
    have := h.given j hj
    have := hgive j hj
    simp only [apply, enter_stage]
    grind
  · exact h.once
  · refine h.order.imp_of_mem ?_
    intro m m' hm hm' hr j j' he he'
    simp only [apply, Function.update_apply]
    grind
  · intro j j' hj hj' he
    have := h.distinct j j'
    simp only [apply, enter_stage, Function.update_apply] at hj hj' he
    simp only [free] at hk
    grind
  · intro j j' hj hj' he hne
    have := hgive j hj
    have := h.later j j' hj
    simp only [apply, enter_stage, Function.update_apply] at hj' he ⊢
    grind
  · intro k' j hj
    have := h.entry k' j hj
    have := hgive j
    simp only [apply, enter_stage, enter_queue, Function.update_apply]
    grind
  · intro j j' hj hj'
    have := hgive j hj
    have := h.own j j' hj
    simp only [apply, enter_table, Function.update_apply] at hj'
    grind

theorem Sound.ask (h : l.Sound) {i : T} (hi : l.stage i = .drawn) : (l.apply (.ask i)).Sound := by
  have hnone : some (.take i) ∉ l.queue := by
    intro hj
    rw [h.taken i hj] at hi
    cases hi
  have hgive : ∀ j, some (.give j) ∈ l.queue → j ≠ i := by
    intro j hj he
    rw [he] at hj
    rcases h.given i hj with hg | hg <;> rw [hi] at hg <;> cases hg
  constructor
  · intro j hj
    have := h.taken j
    simp only [apply, enter_stage, List.mem_append, List.mem_singleton] at hj ⊢
    grind
  · intro j hj
    have := h.given j
    have := hgive j
    simp only [apply, enter_stage, List.mem_append, List.mem_singleton] at hj ⊢
    grind
  · intro j
    have := h.once j
    have := List.count_eq_zero.mpr hnone
    simp only [apply, List.count_append, List.count_singleton]
    grind
  · simp only [apply, List.pairwise_append]
    refine ⟨h.order, List.pairwise_singleton .., ?_⟩
    grind
  · intro j j' hj hj' he
    have := h.distinct j j'
    simp only [apply, enter_stage] at hj hj' he
    grind [LeaseStage.running]
  · intro j j' hj hj' he hne
    have := h.later j j'
    simp only [apply, enter_stage, List.mem_append, List.mem_singleton] at hj hj' he ⊢
    grind [LeaseStage.running]
  · intro k j hj
    have := h.entry k j hj
    simp only [apply, enter_stage, enter_key, List.mem_append, List.mem_singleton]
    grind
  · intro j j' hj hj'
    have := h.own j j'
    simp only [apply, List.mem_append, List.mem_singleton] at hj hj'
    grind

theorem Sound.other (h : l.Sound) : (l.apply .other).Sound := by
  have hmem : ∀ m, some m ∈ l.queue ++ [none] ↔ some m ∈ l.queue := by simp
  constructor
  · exact fun j hj => h.taken j ((hmem _).mp hj)
  · exact fun j hj => h.given j ((hmem _).mp hj)
  · intro j
    have := h.once j
    simpa [apply, List.count_append] using this
  · simp only [apply, List.pairwise_append]
    refine ⟨h.order, List.pairwise_singleton .., ?_⟩
    grind
  · exact h.distinct
  · exact fun j j' hj => h.later j j' ((hmem _).mp hj)
  · exact fun k j hj => (h.entry k j hj).imp id (Or.imp id (hmem _).mpr)
  · exact fun j j' hj => h.own j j' ((hmem _).mp hj)

-- The same tenants and messages; entries may have ended on their own.
structure Below (l' l : Leases K T) : Prop where
  queue : l'.queue = l.queue
  stage : l'.stage = l.stage
  key : l'.key = l.key
  table : ∀ k i, l'.table k = some i → l.table k = some i

omit [DecidableEq T] [DecidableEq K] in
theorem Below.refl (l : Leases K T) : l.Below l :=
  ⟨rfl, rfl, rfl, fun _ _ h => h⟩

omit [DecidableEq K] in
theorem Sound.below (h : l.Sound) {l' : Leases K T} (hb : l'.Below l) : l'.Sound := by
  obtain ⟨table, queue, stage, key⟩ := l'
  obtain ⟨hqueue, hstage, hkey, htable⟩ := hb
  dsimp only at hqueue hstage hkey
  subst hqueue hstage hkey
  exact ⟨h.taken, h.given, h.once, h.order, h.distinct, h.later,
    fun k j hj => h.entry k j (htable k j hj), fun j j' hg hj => h.own j j' hg (htable _ j' hj)⟩

theorem Sound.give (h : l.Sound) {i : T} (hi : l.stage i = .holding) :
    (l.apply (.give i)).Sound := by
  constructor
  · intro j hj
    have := h.taken j
    simp only [apply, enter_stage, List.mem_append, List.mem_singleton] at hj ⊢
    grind
  · intro j hj
    have := h.given j
    simp only [apply, enter_stage, List.mem_append, List.mem_singleton] at hj ⊢
    grind
  · intro j
    have := h.once j
    simp only [apply, List.count_append, List.count_singleton]
    grind
  · simp only [apply, List.pairwise_append]
    refine ⟨h.order, List.pairwise_singleton .., ?_⟩
    intro m hm m' hm' j j' he he' hk
    -- A request still queued would be another running tenant's of the same key.
    have htaken := h.taken j' (he ▸ hm)
    have := h.distinct i j'
    grind [LeaseStage.running]
  · intro j j' hj hj' he
    have := h.distinct j j'
    simp only [apply, enter_stage] at hj hj' he
    grind [LeaseStage.running]
  · intro j j' hj hj' he hne
    have := h.later j j'
    have := h.distinct i j'
    simp only [apply, enter_stage, List.mem_append, List.mem_singleton] at hj hj' he ⊢
    grind [LeaseStage.running]
  · intro k j hj
    have := h.entry k j hj
    simp only [apply, enter_stage, enter_key, List.mem_append, List.mem_singleton]
    grind
  · intro j j' hj hj'
    have hown := h.own j j'
    simp only [apply, List.mem_append, List.mem_singleton] at hj hj'
    rcases hj with hj | hj
    · exact hown hj hj'
    · have hentry := h.entry _ j' hj'
      have := h.distinct i j'
      have := h.later j' i
      grind [LeaseStage.running]

theorem Sound.finish (h : l.Sound) {i : T} (hi : l.stage i = .released) :
    (l.apply (.finish i)).Sound := by
  constructor
  · intro j hj
    have := h.taken j hj
    simp only [apply, enter_stage]
    grind
  · intro j hj
    have := h.given j hj
    simp only [apply, enter_stage]
    grind
  · exact h.once
  · exact h.order
  · intro j j' hj hj' he
    have := h.distinct j j'
    simp only [apply, enter_stage] at hj hj' he
    grind [LeaseStage.running]
  · intro j j' hj hj' he hne
    have := h.later j j' hj
    simp only [apply, enter_stage] at hj' he ⊢
    grind [LeaseStage.running]
  · intro k j hj
    have := h.entry k j hj
    simp only [apply, enter_stage]
    grind
  · exact h.own

theorem Sound.skip (h : l.Sound) (hq : l.queue.head? = some none) : (l.apply .skip).Sound := by
  obtain ⟨rest, hqueue⟩ : ∃ rest, l.queue = none :: rest :=
    List.head?_eq_some_iff.mp hq
  have hmem : ∀ m, some m ∈ l.queue ↔ some m ∈ l.queue.tail := by simp [hqueue]
  constructor
  · exact fun j hj => h.taken j ((hmem _).mpr hj)
  · exact fun j hj => h.given j ((hmem _).mpr hj)
  · exact fun j => Nat.le_trans (List.Sublist.count_le _ (List.tail_sublist _)) (h.once j)
  · exact h.order.tail
  · exact h.distinct
  · exact fun j j' hj => h.later j j' ((hmem _).mpr hj)
  · exact fun k j hj => (h.entry k j hj).imp id (Or.imp id (hmem _).mp)
  · exact fun j j' hj => h.own j j' ((hmem _).mpr hj)

theorem Sound.refuse (h : l.Sound) {i : T} (hq : l.queue.head? = some (some (.take i))) :
    (l.apply (.refuse i)).Sound := by
  obtain ⟨rest, hqueue⟩ : ∃ rest, l.queue = some (.take i) :: rest :=
    List.head?_eq_some_iff.mp hq
  have hi : l.stage i = .asked := h.taken i (by simp [hqueue])
  have hmem : ∀ m, m ∈ rest → m ∈ l.queue := fun m hm => by simp [hqueue, hm]
  have hnone : some (.take i) ∉ rest := by
    have := h.once i
    rw [hqueue, List.count_cons_self] at this
    exact List.count_eq_zero.mp (by omega)
  have htail : l.queue.tail = rest := by rw [hqueue, List.tail_cons]
  constructor <;> simp only [apply, htail, enter_stage, enter_key, enter_table]
  · intro j hj
    have := h.taken j (hmem _ hj)
    grind
  · intro j hj
    have := h.given j (hmem _ hj)
    grind
  · exact fun j => Nat.le_trans (List.Sublist.count_le _ (htail ▸ List.tail_sublist _)) (h.once j)
  · exact htail ▸ h.order.tail
  · intro j j' hj hj' he
    have := h.distinct j j'
    grind [LeaseStage.running]
  · intro j j' hj hj' he hne
    have := h.later j j' (hmem _ hj)
    grind [LeaseStage.running]
  · intro k j hj
    have := h.entry k j hj
    grind
  · exact fun j j' hj => h.own j j' (hmem _ hj)

theorem Sound.grant (h : l.Sound) {i : T} (hq : l.queue.head? = some (some (.take i))) :
    (l.apply (.grant i)).Sound := by
  obtain ⟨rest, hqueue⟩ : ∃ rest, l.queue = some (.take i) :: rest :=
    List.head?_eq_some_iff.mp hq
  have hi : l.stage i = .asked := h.taken i (by simp [hqueue])
  have hmem : ∀ m, m ∈ rest → m ∈ l.queue := fun m hm => by simp [hqueue, hm]
  have hnone : some (.take i) ∉ rest := by
    have := h.once i
    rw [hqueue, List.count_cons_self] at this
    exact List.count_eq_zero.mp (by omega)
  -- Whoever gives the same key back has done so before this request was made.
  have hgive : ∀ j, some (.give j) ∈ rest → l.key j ≠ l.key i := by
    intro j hj
    have horder := h.order
    rw [hqueue, List.pairwise_cons] at horder
    exact horder.1 _ hj j i rfl rfl
  have htail : l.queue.tail = rest := by rw [hqueue, List.tail_cons]
  constructor <;> simp only [apply, htail, enter_stage, enter_key, Function.update_apply]
  · intro j hj
    have := h.taken j (hmem _ hj)
    grind
  · intro j hj
    have := h.given j (hmem _ hj)
    grind
  · exact fun j => Nat.le_trans (List.Sublist.count_le _ (htail ▸ List.tail_sublist _)) (h.once j)
  · exact htail ▸ h.order.tail
  · intro j j' hj hj' he
    have := h.distinct j j'
    grind [LeaseStage.running]
  · intro j j' hj hj' he hne
    have := h.later j j' (hmem _ hj)
    have := hgive j hj
    grind [LeaseStage.running]
  · intro k j hj
    have := h.entry k j
    grind
  · intro j j' hj hj'
    have := hgive j hj
    have := h.own j j' (hmem _ hj)
    grind

theorem Sound.revoke (h : l.Sound) {i : T} (hq : l.queue.head? = some (some (.give i))) :
    (l.apply (.revoke i)).Sound := by
  obtain ⟨rest, hqueue⟩ : ∃ rest, l.queue = some (.give i) :: rest :=
    List.head?_eq_some_iff.mp hq
  have hmem : ∀ m, m ∈ rest → m ∈ l.queue := fun m hm => by simp [hqueue, hm]
  have htail : l.queue.tail = rest := by rw [hqueue, List.tail_cons]
  constructor <;> simp only [apply, htail, Function.update_apply]
  · exact fun j hj => h.taken j (hmem _ hj)
  · exact fun j hj => h.given j (hmem _ hj)
  · exact fun j => Nat.le_trans (List.Sublist.count_le _ (htail ▸ List.tail_sublist _)) (h.once j)
  · exact htail ▸ h.order.tail
  · exact h.distinct
  · exact fun j j' hj => h.later j j' (hmem _ hj)
  · intro k j hj
    have := h.entry k j
    grind
  · intro j j' hj hj'
    have := h.own j j' (hmem _ hj)
    grind

theorem Sound.apply (h : l.Sound) {op : LeaseOp K T} (hop : l.enabled op) :
    (l.apply op).Sound := by
  cases op with
  | start i k => exact h.start hop.1 hop.2
  | ask i => exact h.ask hop
  | other => exact h.other
  | skip => exact h.skip hop
  | grant i => exact h.grant hop
  | refuse i => exact h.refuse hop
  | revoke i => exact h.revoke hop
  | give i => exact h.give hop
  | finish i => exact h.finish hop

omit [DecidableEq K] in
-- A tenant that is done has no entry left, once what it gave back has been taken from the queue.
theorem Sound.gone (h : l.Sound) {i : T} (hi : l.stage i = .done)
    (hq : some (.give i) ∉ l.queue) (k : K) : l.table k ≠ some i := by
  intro he
  rcases (h.entry k i he).2 with hs | hg
  · rw [hi] at hs
    cases hs
  · exact hq hg

def Awaited (l : Leases K T) : Prop :=
  ∀ i, l.stage i = .done → some (.give i) ∉ l.queue

omit [DecidableEq T] [DecidableEq K] in
theorem Awaited.below (ha : l.Awaited) {l' : Leases K T} (hb : l'.Below l) : l'.Awaited := by
  intro i hi
  rw [hb.stage] at hi
  rw [hb.queue]
  exact ha i hi

-- Each tenant waits until what it gave back has been taken.
theorem Awaited.apply (ha : l.Awaited) (h : l.Sound) {op : LeaseOp K T} (hop : l.enabled op)
    (hfinish : ∀ i, op = .finish i → some (.give i) ∉ l.queue) : (l.apply op).Awaited := by
  intro j hj
  have hold := ha j
  have htail : some (.give j) ∈ l.queue.tail → some (.give j) ∈ l.queue := List.mem_of_mem_tail
  cases op with
  | finish i =>
      have := hfinish i rfl
      simp only [Leases.apply, enter_stage, enter_queue] at hj ⊢
      grind
  | refuse i =>
      have hi := h.taken i (List.mem_of_head? hop)
      have := h.given i
      simp only [Leases.apply, enter_stage] at hj ⊢
      grind
  | start i k | ask i | give i | grant i =>
      simp only [Leases.apply, enter_stage, enter_queue] at hj ⊢
      grind
  | other | skip | revoke i =>
      simp only [Leases.apply] at hj ⊢
      grind

end Leases
