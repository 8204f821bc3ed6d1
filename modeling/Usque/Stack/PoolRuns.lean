import Usque.Stack.BufferPool

namespace Usque

-- inject_packet and inject_packet_owned between their calls of the pool.
inductive Injection where
  | copied (data : Packet)
  | owned (data : BytesMut)
deriving DecidableEq

def Injection.data : Injection → Packet
  | .copied data => data
  | .owned data => data.data

inductive PoolEvent where
  | take (requested : Nat) (buf : BytesMut)
  | putBack (limit keep : Nat) (before after : BufferPool)
deriving DecidableEq

namespace PoolEvent

-- What holds of an event whatever reserve does.
def Sound : PoolEvent → Prop
  | .take _ buf => buf.data = []
  | .putBack limit keep before after =>
      after = before ∨
        ∃ buf, after = buf :: before ∧ buf.data = [] ∧ buf.capacity ≤ keep ∧ after.length ≤ limit

def Sufficient : PoolEvent → Prop
  | .take requested buf => requested ≤ buf.capacity
  | .putBack .. => True

end PoolEvent

-- One pool, the device whose tokens return to it, and every take and return so far. A lock of the
-- pool is one step; the transmit token borrows the device.
structure PoolRun where
  pool : BufferPool
  device : PooledDevice
  injecting : Option Injection
  rxTokens : List VirtualRxToken
  txToken : Option VirtualTxToken
  events : List PoolEvent
deriving DecidableEq

inductive PoolLabel where
  | takePooledBuffer (capacity : Nat)
  | returnPooledBuffer (buf : BytesMut) (poolMaxSize bufferReuseMaxCapacity : Nat)
  | injectPacket (data : Packet)
  | injectPacketOwned (data : BytesMut)
  | inject
  | receive
  | transmit
  | dropRxToken (i : Nat)
  | consumeTxToken (packet : Packet)
  | dropTxToken
  | takePacket
  | requeuePacketFront (packet : BytesMut)
  | recycleTxBuffer (buf : BytesMut)
deriving DecidableEq

namespace PoolRun

variable (B : BytesAlloc)

-- NetworkStack::new fills the pool.
def start (mtu : Nat) (tunables : PooledTunables) : PoolRun where
  pool := List.replicate tunables.bufferPoolSize (.withCapacity B mtu)
  device := .new mtu tunables
  injecting := none
  rxTokens := []
  txToken := none
  events := []

def took (s : PoolRun) (requested : Nat) (r : BytesMut × BufferPool) : PoolRun :=
  { s with pool := r.2, events := s.events ++ [.take requested r.1] }

def gave (s : PoolRun) (limit keep : Nat) (pool : BufferPool) : PoolRun :=
  { s with pool, events := s.events ++ [.putBack limit keep s.pool pool] }

def idle (s : PoolRun) : Bool := s.injecting.isNone && s.txToken.isNone

-- The loop drops the oldest packets one by one, and then the packet goes in.
def inject (s : PoolRun) (injection : Injection) : PoolRun :=
  let dev := s.device
  if dev.rxQueue.length ≥ dev.queueCapacity then
    match dev.rxQueue with
    | old :: rxQueue =>
        { s.gave dev.poolCapacity dev.poolKeepCapacity (dev.returnBuffer s.pool old) with
          device := { dev with rxQueue, rxDrops := dev.rxDrops + 1 } }
    | [] => { s with device := { dev with rxDrops := dev.rxDrops + 1 } }
  else
    match injection with
    | .copied data =>
        let r := PooledDevice.getBuffer B s.pool dev.mtu
        { s.took dev.mtu r with
          device := { dev with rxQueue := dev.rxQueue ++ [r.1.extendFromSlice B data] }
          injecting := none }
    | .owned data =>
        { s with device := { dev with rxQueue := dev.rxQueue ++ [data] }, injecting := none }

def receive (s : PoolRun) : PoolRun :=
  let dev := s.device
  if dev.hasTxCapacity then
    match dev.rxQueue with
    | [] => s
    | packet :: rxQueue =>
        let r := PooledDevice.getBuffer B s.pool dev.mtu
        { s.took dev.mtu r with
          device := { dev with rxQueue }
          rxTokens := s.rxTokens ++ [dev.rxToken packet]
          txToken := some (dev.txToken r.1) }
  else s

def transmit (s : PoolRun) : PoolRun :=
  let dev := s.device
  if dev.hasTxCapacity then
    let r := PooledDevice.getBuffer B s.pool dev.mtu
    { s.took dev.mtu r with txToken := some (dev.txToken r.1) }
  else s

def consumeTxToken (s : PoolRun) (token : VirtualTxToken) (packet : Packet) : PoolRun :=
  let dev := s.device
  if token.isFull dev.txQueue then
    { s.gave token.poolCapacity token.poolKeepCapacity (token.dropped B s.pool packet) with
      device := { dev with txDrops := dev.txDrops + 1 }
      txToken := none }
  else
    { s with
      device := { dev with txQueue := dev.txQueue ++ [token.filled B packet] }
      txToken := none }

def takePacket (s : PoolRun) : PoolRun :=
  { s with device := { s.device with txQueue := s.device.txQueue.tail } }

def requeuePacketFront (s : PoolRun) (packet : BytesMut) : PoolRun :=
  { s with device := { s.device with txQueue := packet :: s.device.txQueue } }

def step (s : PoolRun) : PoolLabel → Option PoolRun
  | .takePooledBuffer capacity => some (s.took capacity (takePooledBuffer B s.pool capacity))
  | .returnPooledBuffer buf poolMaxSize bufferReuseMaxCapacity =>
      some (s.gave poolMaxSize bufferReuseMaxCapacity
        (returnPooledBuffer s.pool buf poolMaxSize bufferReuseMaxCapacity))
  | .injectPacket data =>
      if s.idle then some { s with injecting := some (.copied data) } else none
  | .injectPacketOwned data =>
      if s.idle then some { s with injecting := some (.owned data) } else none
  | .inject => s.injecting.map (s.inject B)
  | .receive => if s.idle then some (s.receive B) else none
  | .transmit => if s.idle then some (s.transmit B) else none
  | .dropRxToken i =>
      s.rxTokens[i]?.map (fun token =>
        { s.gave token.poolCapacity token.poolKeepCapacity (token.drop s.pool) with
          rxTokens := s.rxTokens.eraseIdx i })
  | .consumeTxToken packet => s.txToken.map (fun token => s.consumeTxToken B token packet)
  -- A transmit token has no drop of its own: its buffer is freed.
  | .dropTxToken => s.txToken.map (fun _ => { s with txToken := none })
  | .takePacket => if s.idle then some s.takePacket else none
  | .requeuePacketFront packet => if s.idle then some (s.requeuePacketFront packet) else none
  | .recycleTxBuffer buf =>
      if s.idle then
        some (s.gave s.device.poolCapacity s.device.poolKeepCapacity
          (s.device.returnBuffer s.pool buf))
      else none

-- What a step asks the pool for.
def requests (s : PoolRun) : PoolLabel → Option Nat
  | .takePooledBuffer capacity => some capacity
  | .inject =>
      match s.injecting with
      | some (.copied _) =>
          if s.device.rxQueue.length ≥ s.device.queueCapacity then none else some s.device.mtu
      | _ => none
  | .receive =>
      if s.device.hasTxCapacity && !s.device.rxQueue.isEmpty then some s.device.mtu else none
  | .transmit => if s.device.hasTxCapacity then some s.device.mtu else none
  | _ => none

def takesFit (s : PoolRun) (l : PoolLabel) : Prop :=
  ∀ capacity ∈ s.requests l, takeFits s.pool capacity

instance (s : PoolRun) (l : PoolLabel) : Decidable (s.takesFit l) :=
  inferInstanceAs (Decidable (∀ capacity ∈ s.requests l, _))

variable {B} {s t : PoolRun} {l : PoolLabel}

-- What one step does to the pool.
inductive Effect (B : BytesAlloc) (s t : PoolRun) (request : Option Nat) : Prop where
  | none (pool : t.pool = s.pool) (events : t.events = s.events)
  | take {capacity : Nat} (request : request = some capacity)
      (pool : t.pool = (popBuffer B s.pool capacity).2)
      (events : t.events = s.events ++ [.take capacity (popBuffer B s.pool capacity).1])
  | putBack {buf : BytesMut} {limit keep : Nat} (pool : t.pool = pushBuffer s.pool buf limit keep)
      (events : t.events = s.events ++ [.putBack limit keep s.pool t.pool])

theorem inject_effect {injection : Injection} (hi : s.injecting = some injection) :
    Effect B s (s.inject B injection) (s.requests .inject) := by
  simp only [inject, requests, hi]
  by_cases hfull : s.device.rxQueue.length ≥ s.device.queueCapacity
  · rw [if_pos hfull]
    cases s.device.rxQueue with
    | nil => exact .none rfl rfl
    | cons old rxQueue => exact .putBack rfl rfl
  · rw [if_neg hfull]
    cases injection with
    | copied data => exact .take (if_neg hfull) rfl rfl
    | owned data => exact .none rfl rfl

theorem receive_effect : Effect B s (s.receive B) (s.requests .receive) := by
  simp only [receive, requests]
  by_cases hcap : s.device.hasTxCapacity
  · rw [if_pos hcap]
    cases hq : s.device.rxQueue with
    | nil => exact .none rfl rfl
    | cons packet rxQueue =>
        refine .take ?_ rfl rfl
        simp only [hcap, List.isEmpty_cons, Bool.not_false, Bool.and_self, if_true]
  · rw [if_neg hcap]
    exact .none rfl rfl

theorem transmit_effect : Effect B s (s.transmit B) (s.requests .transmit) := by
  simp only [transmit, requests]
  by_cases hcap : s.device.hasTxCapacity
  · rw [if_pos hcap]
    exact .take (if_pos hcap) rfl rfl
  · rw [if_neg hcap]
    exact .none rfl rfl

theorem consumeTxToken_effect (token : VirtualTxToken) (packet : Packet) :
    Effect B s (s.consumeTxToken B token packet) none := by
  simp only [consumeTxToken]
  split
  · exact .putBack rfl rfl
  · exact .none rfl rfl

theorem step_effect (h : s.step B l = some t) : Effect B s t (s.requests l) := by
  cases l with
  | takePooledBuffer capacity =>
      cases h
      exact .take rfl rfl rfl
  | returnPooledBuffer buf poolMaxSize bufferReuseMaxCapacity =>
      cases h
      exact .putBack rfl rfl
  | inject =>
      obtain ⟨injection, hi, rfl⟩ := Option.map_eq_some_iff.mp h
      exact inject_effect hi
  | dropRxToken i =>
      obtain ⟨token, _, rfl⟩ := Option.map_eq_some_iff.mp h
      exact .putBack rfl rfl
  | consumeTxToken packet =>
      obtain ⟨token, _, rfl⟩ := Option.map_eq_some_iff.mp h
      exact consumeTxToken_effect token packet
  | dropTxToken =>
      obtain ⟨_, _, rfl⟩ := Option.map_eq_some_iff.mp h
      exact .none rfl rfl
  | injectPacket _ | injectPacketOwned _ | requeuePacketFront _ | takePacket =>
      obtain ⟨_, h⟩ := Option.ite_none_right_eq_some.mp h
      cases h
      exact .none rfl rfl
  | receive =>
      obtain ⟨_, h⟩ := Option.ite_none_right_eq_some.mp h
      cases h
      exact receive_effect
  | transmit =>
      obtain ⟨_, h⟩ := Option.ite_none_right_eq_some.mp h
      cases h
      exact transmit_effect
  | recycleTxBuffer buf =>
      obtain ⟨_, h⟩ := Option.ite_none_right_eq_some.mp h
      cases h
      exact .putBack rfl rfl

structure Kept (s : PoolRun) : Prop where
  empty : ∀ buf ∈ s.pool, buf.data = []
  sound : ∀ e ∈ s.events, e.Sound

theorem forall_mem_snoc {α : Type} {p : α → Prop} {as : List α} {a : α} (h : ∀ x ∈ as, p x)
    (ha : p a) : ∀ x ∈ as ++ [a], p x :=
  List.forall_mem_append.mpr ⟨h, List.forall_mem_singleton.mpr ha⟩

theorem Kept.effect {request : Option Nat} (hs : s.Kept) (h : Effect B s t request) : t.Kept := by
  cases h with
  | none pool events => exact ⟨pool ▸ hs.empty, events ▸ hs.sound⟩
  | take _ pool events =>
      refine ⟨fun buf hbuf => ?_, events ▸ forall_mem_snoc hs.sound (popBuffer_data ..)⟩
      rw [pool, popBuffer_pool] at hbuf
      exact hs.empty buf (List.mem_of_mem_tail hbuf)
  | @putBack buf limit keep pool events =>
      rcases pushBuffer_cases s.pool buf limit keep with hpush | ⟨hpush, hkeep, hlimit⟩
      · rw [hpush] at pool
        exact ⟨pool ▸ hs.empty, events ▸ forall_mem_snoc hs.sound (.inl pool)⟩
      · rw [hpush] at pool
        refine ⟨fun b hb => ?_, events ▸ forall_mem_snoc hs.sound (.inr ⟨_, pool, rfl, hkeep, ?_⟩)⟩
        · rw [pool, List.mem_cons] at hb
          rcases hb with rfl | hb
          · rfl
          · exact hs.empty b hb
        · rw [pool]
          exact hlimit

theorem start_kept (mtu : Nat) (tunables : PooledTunables) : (start B mtu tunables).Kept where
  empty := fun buf hbuf => by
    rw [List.eq_of_mem_replicate hbuf]
    rfl
  sound := nofun

-- Whatever is taken, of whatever size.
theorem reachable_kept {mtu : Nat} {tunables : PooledTunables}
    (h : Run.Reaches (step B) Run.Any (start B mtu tunables) s) : s.Kept :=
  h.invariant (fun _ _ _ hs _ hst => hs.effect (step_effect hst)) (start_kept mtu tunables)

theorem sufficient_effect (hs : ∀ e ∈ s.events, e.Sufficient) (hg : s.takesFit l)
    (h : Effect B s t (s.requests l)) : ∀ e ∈ t.events, e.Sufficient := by
  cases h with
  | none _ events => exact events ▸ hs
  | take request _ events =>
      exact events ▸ forall_mem_snoc hs (popBuffer_capacity (hg _ request))
  | putBack _ events => exact events ▸ forall_mem_snoc hs trivial

theorem pool_run_kept {mtu : Nat} {tunables : PooledTunables}
    (h : Run.Reaches (step B) takesFit (start B mtu tunables) s) :
    (∀ buf ∈ s.pool, buf.data = []) ∧ ∀ e ∈ s.events, e.Sound ∧ e.Sufficient := by
  have hkept := reachable_kept h.any
  have hsuff : ∀ e ∈ s.events, e.Sufficient :=
    h.invariant (fun _ _ _ hs hg hst => sufficient_effect hs hg (step_effect hst)) nofun
  exact ⟨hkept.empty, fun e he => ⟨hkept.sound e he, hsuff e he⟩⟩

-- Vec's growth: nothing while there is room, and at least the double otherwise.
def vecAlloc : BytesAlloc where
  withCapacity := fun n => n
  reserve := fun len capacity additional =>
    if len + additional ≤ capacity then capacity
    else max (max (2 * capacity) (len + additional)) 8
  withCapacity_le := fun _ => Nat.le_refl _
  reserve_le := fun len capacity additional => by
    split
    · assumption
    · omega

def echo : List PoolLabel :=
  [.takePooledBuffer 1200, .returnPooledBuffer ⟨[], 1280, by decide⟩ 256 2048,
    .injectPacket [69, 0], .inject, .receive, .dropRxToken 0, .consumeTxToken [69, 1], .takePacket,
    .recycleTxBuffer ⟨[69, 1], 1280, by decide⟩]

theorem pool_run_kept_echo :
    ∃ s, Run.Reaches (step vecAlloc) Run.Any (start vecAlloc 1280 {}) s ∧ s.events.length = 6 ∧
      (∀ buf ∈ s.pool, buf.data = []) ∧ ∀ e ∈ s.events, e.Sound ∧ e.Sufficient := by
  have hg : Run.Guarded (step vecAlloc) takesFit (start vecAlloc 1280 {}) echo := by
    decide +kernel
  have hrun : (Run.exec (step vecAlloc) (start vecAlloc 1280 {}) echo).any
      (fun s => s.events.length = 6) = true := by
    decide +kernel
  obtain ⟨s, hs, hlen⟩ := (Option.any_eq_true _ _).mp hrun
  exact ⟨s, Run.exec_reaches hs, of_decide_eq_true hlen, pool_run_kept (Run.exec_guarded hs hg)⟩

-- The MASQUE task takes its receive buffer from the pool that the stack has filled with buffers of
-- the MTU, and reserve(65535 - 1280) is for a buffer that is empty.
theorem receive_buffer_small :
    ∃ s, Run.Reaches (step vecAlloc) Run.Any (start vecAlloc 1280 {}) s ∧
      ∃ buf, .take 65535 buf ∈ s.events ∧ buf.capacity = 64255 ∧ buf.capacity < 65535 := by
  have hrun : (Run.exec (step vecAlloc) (start vecAlloc 1280 {}) [.takePooledBuffer 65535]).any
      (fun s => s.events = [.take 65535 ⟨[], 64255, by decide⟩]) = true := by
    decide +kernel
  obtain ⟨s, hs, hevents⟩ := (Option.any_eq_true _ _).mp hrun
  refine ⟨s, Run.exec_reaches hs, ⟨[], 64255, by decide⟩, ?_, rfl, by decide⟩
  rw [of_decide_eq_true hevents]
  exact List.mem_singleton_self _

end PoolRun

end Usque
