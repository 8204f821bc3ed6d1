import Usque.Stack.DeviceRuns

namespace Usque

-- The capacities that the bytes crate's with_capacity and reserve leave.
structure BytesAlloc where
  withCapacity : Nat → Nat
  reserve : Nat → Nat → Nat → Nat
  withCapacity_le : ∀ n, n ≤ withCapacity n
  reserve_le : ∀ len capacity additional, len + additional ≤ reserve len capacity additional

structure BytesMut where
  data : List UInt8
  capacity : Nat
  fits : data.length ≤ capacity
deriving DecidableEq

namespace BytesMut

variable (B : BytesAlloc)

def withCapacity (n : Nat) : BytesMut := ⟨[], B.withCapacity n, Nat.zero_le _⟩

def clear (buf : BytesMut) : BytesMut := ⟨[], buf.capacity, Nat.zero_le _⟩

def reserve (buf : BytesMut) (additional : Nat) : BytesMut where
  data := buf.data
  capacity := B.reserve buf.data.length buf.capacity additional
  fits := Nat.le_trans (Nat.le_add_right ..) (B.reserve_le ..)

def extendFromSlice (buf : BytesMut) (slice : List UInt8) : BytesMut where
  data := buf.data ++ slice
  capacity := B.reserve buf.data.length buf.capacity slice.length
  fits := List.length_append ▸ B.reserve_le ..

def truncate (buf : BytesMut) (len : Nat) : BytesMut where
  data := buf.data.take len
  capacity := buf.capacity
  fits := Nat.le_trans (List.length_take_le' ..) buf.fits

def resize (buf : BytesMut) (len : Nat) (value : UInt8) : BytesMut :=
  if len ≤ buf.data.length then buf.truncate len
  else buf.extendFromSlice B (List.replicate (len - buf.data.length) value)

-- What is written through a mutable slice of the buffer has the length of the slice.
def write (buf : BytesMut) (slice : List UInt8) : BytesMut :=
  if h : slice.length = buf.data.length then ⟨slice, buf.capacity, h ▸ buf.fits⟩ else buf

@[simp] theorem clear_data (buf : BytesMut) : buf.clear.data = [] := rfl

@[simp] theorem clear_capacity (buf : BytesMut) : buf.clear.capacity = buf.capacity := rfl

@[simp] theorem reserve_data (buf : BytesMut) (additional : Nat) :
    (buf.reserve B additional).data = buf.data := rfl

@[simp] theorem reserve_capacity (buf : BytesMut) (additional : Nat) :
    (buf.reserve B additional).capacity =
      B.reserve buf.data.length buf.capacity additional := rfl

@[simp] theorem extendFromSlice_data (buf : BytesMut) (slice : List UInt8) :
    (buf.extendFromSlice B slice).data = buf.data ++ slice := rfl

theorem length_resize (buf : BytesMut) (len : Nat) (value : UInt8) :
    (buf.resize B len value).data.length = len := by
  simp only [resize]
  split
  · next hle => exact List.length_take_of_le hle
  · rw [extendFromSlice_data, List.length_append, List.length_replicate]
    omega

theorem write_data {buf : BytesMut} {slice : List UInt8} (h : slice.length = buf.data.length) :
    (buf.write slice).data = slice := by
  rw [write, dif_pos h]

end BytesMut

-- The buffers of the shared Vec, the one that pop takes first.
abbrev BufferPool := List BytesMut

section pool

variable (B : BytesAlloc)

def popBuffer (pool : BufferPool) (capacity : Nat) : BytesMut × BufferPool :=
  match pool with
  | buf :: pool =>
      let buf := buf.clear
      (if buf.capacity < capacity then buf.reserve B (capacity - buf.capacity) else buf, pool)
  | [] => (.withCapacity B capacity, [])

def pushBuffer (pool : BufferPool) (buf : BytesMut) (limit keep : Nat) : BufferPool :=
  let buf := buf.clear
  if buf.capacity > keep then pool
  else if pool.length < limit then buf :: pool
  else pool

def takePooledBuffer (pool : BufferPool) (capacity : Nat) : BytesMut × BufferPool :=
  popBuffer B pool capacity

def returnPooledBuffer (pool : BufferPool) (buf : BytesMut)
    (poolMaxSize bufferReuseMaxCapacity : Nat) : BufferPool :=
  pushBuffer pool buf poolMaxSize bufferReuseMaxCapacity

end pool

-- VirtualDevice with the buffers that its packets are in.
structure PooledDevice where
  rxQueue : List BytesMut
  txQueue : List BytesMut
  mtu : Nat
  queueCapacity : Nat
  poolCapacity : Nat
  poolKeepCapacity : Nat
  rxDrops : Nat
  txDrops : Nat
deriving DecidableEq

structure VirtualRxToken where
  data : BytesMut
  poolCapacity : Nat
  poolKeepCapacity : Nat
deriving DecidableEq

structure VirtualTxToken where
  buffer : BytesMut
  queueCapacity : Nat
  poolCapacity : Nat
  poolKeepCapacity : Nat
deriving DecidableEq

structure PooledTunables extends StackTunables where
  bufferPoolSize : Nat := 256
  bufferPoolKeepCapacity : Nat := 2048
deriving DecidableEq, Repr

namespace PooledDevice

variable (B : BytesAlloc)

def new (mtu : Nat) (tunables : PooledTunables) : PooledDevice where
  rxQueue := []
  txQueue := []
  mtu := mtu
  queueCapacity := tunables.deviceQueueCapacity
  poolCapacity := tunables.bufferPoolSize
  poolKeepCapacity := tunables.bufferPoolKeepCapacity
  rxDrops := 0
  txDrops := 0

def getBuffer (pool : BufferPool) (capacity : Nat) : BytesMut × BufferPool :=
  popBuffer B pool capacity

def returnBuffer (dev : PooledDevice) (pool : BufferPool) (buf : BytesMut) : BufferPool :=
  pushBuffer pool buf dev.poolCapacity dev.poolKeepCapacity

def hasTxCapacity (dev : PooledDevice) : Bool := dev.txQueue.length < dev.queueCapacity

def rxToken (dev : PooledDevice) (data : BytesMut) : VirtualRxToken :=
  ⟨data, dev.poolCapacity, dev.poolKeepCapacity⟩

def txToken (dev : PooledDevice) (buffer : BytesMut) : VirtualTxToken :=
  ⟨buffer, dev.queueCapacity, dev.poolCapacity, dev.poolKeepCapacity⟩

def forget (dev : PooledDevice) : VirtualDevice where
  rxQueue := dev.rxQueue.map BytesMut.data
  txQueue := dev.txQueue.map BytesMut.data
  mtu := dev.mtu
  queueCapacity := dev.queueCapacity
  rxDrops := dev.rxDrops
  txDrops := dev.txDrops

@[simp] theorem hasTxCapacity_forget (dev : PooledDevice) :
    dev.forget.hasTxCapacity = dev.hasTxCapacity := by
  simp only [forget, VirtualDevice.hasTxCapacity, hasTxCapacity, List.length_map]

end PooledDevice

-- `drop`, also at the end of `consume`, which only reads.
def VirtualRxToken.drop (token : VirtualRxToken) (pool : BufferPool) : BufferPool :=
  pushBuffer pool token.data token.poolCapacity token.poolKeepCapacity

namespace VirtualTxToken

variable (B : BytesAlloc)

-- The buffer once the sender has written a packet to it.
def filled (token : VirtualTxToken) (packet : Packet) : BytesMut :=
  ((token.buffer.clear.resize B packet.length 0).write packet)

def isFull (token : VirtualTxToken) (queue : List BytesMut) : Bool :=
  queue.length ≥ token.queueCapacity

def dropped (token : VirtualTxToken) (pool : BufferPool) (packet : Packet) : BufferPool :=
  pushBuffer pool (token.filled B packet) token.poolCapacity token.poolKeepCapacity

end VirtualTxToken

-- A take that has the requested capacity whatever reserve leaves beyond what it guarantees.
def takeFits (pool : BufferPool) (capacity : Nat) : Prop :=
  ∀ buf ∈ pool.head?, buf.capacity = 0 ∨ capacity ≤ buf.capacity

instance (pool : BufferPool) (capacity : Nat) : Decidable (takeFits pool capacity) :=
  inferInstanceAs (Decidable (∀ buf ∈ pool.head?, _))

section pool

variable {B : BytesAlloc} {pool : BufferPool} {buf : BytesMut} {capacity limit keep : Nat}

@[simp] theorem popBuffer_data (pool : BufferPool) (capacity : Nat) :
    (popBuffer B pool capacity).1.data = [] := by
  cases pool with
  | nil => rfl
  | cons buf pool =>
      simp only [popBuffer]
      split <;> rfl

@[simp] theorem popBuffer_pool (pool : BufferPool) (capacity : Nat) :
    (popBuffer B pool capacity).2 = pool.tail := by
  cases pool <;> rfl

theorem popBuffer_capacity (h : takeFits pool capacity) :
    capacity ≤ (popBuffer B pool capacity).1.capacity := by
  cases pool with
  | nil => exact B.withCapacity_le capacity
  | cons buf pool =>
      simp only [popBuffer]
      split
      · next hlt =>
          rw [BytesMut.clear_capacity] at hlt
          rcases h buf rfl with hzero | hle
          · have hreserve := B.reserve_le 0 buf.capacity (capacity - buf.capacity)
            simp only [BytesMut.reserve_capacity, BytesMut.clear_data, BytesMut.clear_capacity,
              List.length_nil]
            omega
          · omega
      · next hge => exact Nat.le_of_not_lt hge

-- The reserve that leaves no more than it guarantees.
def BytesAlloc.least : BytesAlloc where
  withCapacity := fun n => n
  reserve := fun len capacity additional => max capacity (len + additional)
  withCapacity_le := fun _ => Nat.le_refl _
  reserve_le := fun _ _ _ => Nat.le_max_right ..

theorem takeFits_iff : takeFits pool capacity ↔
    ∀ B : BytesAlloc, capacity ≤ (popBuffer B pool capacity).1.capacity := by
  refine ⟨fun h B => popBuffer_capacity h, fun h => ?_⟩
  cases pool with
  | nil => exact fun _ h => by cases h
  | cons buf pool =>
      rintro _ ⟨⟩
      have hleast := h .least
      simp only [popBuffer] at hleast
      split at hleast
      · simp only [BytesMut.reserve_capacity, BytesMut.clear_data, BytesMut.clear_capacity,
          BytesAlloc.least, List.length_nil] at hleast
        omega
      · next hge => exact .inr (Nat.le_of_not_lt hge)

theorem pushBuffer_cases (pool : BufferPool) (buf : BytesMut) (limit keep : Nat) :
    pushBuffer pool buf limit keep = pool ∨
      pushBuffer pool buf limit keep = buf.clear :: pool ∧ buf.capacity ≤ keep ∧
        pool.length < limit := by
  by_cases hkeep : buf.capacity > keep
  · exact .inl (if_pos hkeep)
  · have hpush : pushBuffer pool buf limit keep =
        if pool.length < limit then buf.clear :: pool else pool := if_neg hkeep
    by_cases hlimit : pool.length < limit
    · exact .inr ⟨hpush.trans (if_pos hlimit), Nat.le_of_not_lt hkeep, hlimit⟩
    · exact .inl (hpush.trans (if_neg hlimit))

end pool

theorem VirtualTxToken.filled_data (B : BytesAlloc) (token : VirtualTxToken) (packet : Packet) :
    (token.filled B packet).data = packet :=
  BytesMut.write_data (BytesMut.length_resize B _ _ _).symm

end Usque
