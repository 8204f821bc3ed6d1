import Usque.Lib.Circular

namespace Usque

structure TcpRingBuffer where
  buffer : List UInt8
  capacity : Nat
  writePos : Nat
  readPos : Nat
  length_buffer : buffer.length = capacity
  two_le_capacity : 2 ≤ capacity
  writePos_lt : writePos < capacity
  readPos_lt : readPos < capacity

namespace TcpRingBuffer

theorem capacity_pos (rb : TcpRingBuffer) : 0 < rb.capacity :=
  Nat.lt_of_lt_of_le Nat.two_pos rb.two_le_capacity

def new (capacity : Nat) : TcpRingBuffer where
  buffer := List.replicate (max capacity 2) 0
  capacity := max capacity 2
  writePos := 0
  readPos := 0
  length_buffer := by simp
  two_le_capacity := by omega
  writePos_lt := by omega
  readPos_lt := by omega

def len (rb : TcpRingBuffer) : Nat :=
  if rb.writePos ≥ rb.readPos then rb.writePos - rb.readPos
  else rb.capacity - rb.readPos + rb.writePos

def isEmpty (rb : TcpRingBuffer) : Bool := rb.readPos = rb.writePos

def remainingCapacity (rb : TcpRingBuffer) : Nat := rb.capacity - rb.len - 1

def isFull (rb : TcpRingBuffer) : Bool := rb.remainingCapacity = 0

theorem len_lt (rb : TcpRingBuffer) : rb.len < rb.capacity := by
  have := rb.writePos_lt
  have := rb.readPos_lt
  simp only [len]
  split <;> omega

theorem pos_add_len (rb : TcpRingBuffer) : (rb.readPos + rb.len) % rb.capacity = rb.writePos := by
  have := rb.writePos_lt
  have := rb.readPos_lt
  simp only [len]
  split
  · rw [Nat.mod_eq_of_lt (by omega)]
    omega
  · rw [Nat.mod_eq_sub_mod (by omega), Nat.mod_eq_of_lt (by omega)]
    omega

def enqueueSlice (rb : TcpRingBuffer) (data : List UInt8) : Nat × TcpRingBuffer :=
  let toWrite := min data.length rb.remainingCapacity
  if toWrite = 0 then (0, rb)
  else
    (toWrite,
      { rb with
        buffer := Circular.wrapWrite rb.buffer rb.writePos (data.take toWrite)
        writePos := (rb.writePos + toWrite) % rb.capacity
        length_buffer := by
          have := rb.length_buffer
          have := rb.writePos_lt
          rw [Circular.length_wrapWrite (by omega) (by
            simp only [List.length_take, toWrite, remainingCapacity]; omega)]
          exact rb.length_buffer
        writePos_lt := Nat.mod_lt _ rb.capacity_pos })

def advance (rb : TcpRingBuffer) (count : Nat) : TcpRingBuffer :=
  { rb with
    readPos := (rb.readPos + count) % rb.capacity
    readPos_lt := Nat.mod_lt _ rb.capacity_pos }

def dequeueSlice (rb : TcpRingBuffer) (dstLen : Nat) : List UInt8 × TcpRingBuffer :=
  let toRead := min dstLen rb.len
  if toRead = 0 then ([], rb)
  else (Circular.window rb.buffer rb.readPos toRead, rb.advance toRead)

def peekCopy (rb : TcpRingBuffer) (dstLen : Nat) : List UInt8 :=
  let toRead := min dstLen rb.len
  if toRead = 0 then [] else Circular.window rb.buffer rb.readPos toRead

def consume (rb : TcpRingBuffer) (count : Nat) : TcpRingBuffer :=
  let count := min count rb.len
  if count = 0 then rb else rb.advance count

def contents (rb : TcpRingBuffer) : List UInt8 := Circular.window rb.buffer rb.readPos rb.len

theorem readPos_lt_length (rb : TcpRingBuffer) : rb.readPos < rb.buffer.length :=
  rb.length_buffer ▸ rb.readPos_lt

@[simp] theorem length_contents (rb : TcpRingBuffer) : rb.contents.length = rb.len := by
  have := rb.len_lt
  exact Circular.length_window rb.readPos_lt_length (by rw [rb.length_buffer]; omega)

theorem isEmpty_iff (rb : TcpRingBuffer) : rb.isEmpty = true ↔ rb.len = 0 := by
  have := rb.writePos_lt
  have := rb.readPos_lt
  simp only [isEmpty, len, decide_eq_true_eq]
  split <;> omega

@[simp] theorem len_new (capacity : Nat) : (new capacity).len = 0 := by
  simp [new, len]

theorem len_advance {rb : TcpRingBuffer} {count : Nat} (h : count ≤ rb.len) :
    (rb.advance count).len = rb.len - count := by
  have hl := rb.len_lt
  have := rb.writePos_lt
  have := rb.readPos_lt
  by_cases hw : rb.readPos + count < rb.capacity
  · have hp : (rb.advance count).readPos = rb.readPos + count := Nat.mod_eq_of_lt hw
    simp only [len, hp, show (rb.advance count).writePos = rb.writePos from rfl,
      show (rb.advance count).capacity = rb.capacity from rfl] at h ⊢
    split at h <;> split <;> omega
  · have hp : (rb.advance count).readPos = rb.readPos + count - rb.capacity := by
      simp only [advance]
      rw [Nat.mod_eq_sub_mod (Nat.le_of_not_lt hw), Nat.mod_eq_of_lt (by omega)]
    simp only [len, hp, show (rb.advance count).writePos = rb.writePos from rfl,
      show (rb.advance count).capacity = rb.capacity from rfl] at h ⊢
    split at h <;> split <;> omega

theorem contents_advance {rb : TcpRingBuffer} {count : Nat} (h : count ≤ rb.len) :
    (rb.advance count).contents = rb.contents.drop count := by
  have := rb.len_lt
  have hd := Circular.window_drop (n := rb.len) rb.readPos_lt_length
    (by rw [rb.length_buffer]; omega) h
  rw [contents, len_advance h, contents, hd, rb.length_buffer]
  rfl

theorem enqueueSlice_fst (rb : TcpRingBuffer) (data : List UInt8) :
    (rb.enqueueSlice data).1 = min data.length rb.remainingCapacity := by
  simp only [enqueueSlice]
  split
  · next h0 => exact h0.symm
  · rfl

@[simp] theorem capacity_enqueueSlice (rb : TcpRingBuffer) (data : List UInt8) :
    (rb.enqueueSlice data).2.capacity = rb.capacity := by
  simp only [enqueueSlice]
  split <;> rfl

@[simp] theorem readPos_enqueueSlice (rb : TcpRingBuffer) (data : List UInt8) :
    (rb.enqueueSlice data).2.readPos = rb.readPos := by
  simp only [enqueueSlice]
  split <;> rfl

theorem writePos_enqueueSlice (rb : TcpRingBuffer) (data : List UInt8) :
    (rb.enqueueSlice data).2.writePos =
      (rb.writePos + (rb.enqueueSlice data).1) % rb.capacity := by
  simp only [enqueueSlice]
  split
  · exact (Nat.mod_eq_of_lt rb.writePos_lt).symm
  · rfl

theorem len_enqueueSlice (rb : TcpRingBuffer) (data : List UInt8) :
    (rb.enqueueSlice data).2.len = rb.len + (rb.enqueueSlice data).1 := by
  have hl := rb.len_lt
  have := rb.writePos_lt
  have := rb.readPos_lt
  have hr : (rb.enqueueSlice data).1 ≤ rb.capacity - rb.len - 1 :=
    enqueueSlice_fst rb data ▸ Nat.min_le_right ..
  have hw := writePos_enqueueSlice rb data
  generalize (rb.enqueueSlice data).1 = k at hr hw
  by_cases hlt : rb.writePos + k < rb.capacity
  · rw [Nat.mod_eq_of_lt hlt] at hw
    simp only [len, hw, readPos_enqueueSlice, capacity_enqueueSlice] at hr ⊢
    split at hr <;> split <;> omega
  · rw [Nat.mod_eq_sub_mod (Nat.le_of_not_lt hlt), Nat.mod_eq_of_lt (by omega)] at hw
    simp only [len, hw, readPos_enqueueSlice, capacity_enqueueSlice] at hr ⊢
    split at hr <;> split <;> omega

theorem contents_enqueueSlice (rb : TcpRingBuffer) (data : List UInt8) :
    (rb.enqueueSlice data).2.contents = rb.contents ++ data.take (rb.enqueueSlice data).1 := by
  have hl := rb.len_lt
  have hlen := len_enqueueSlice rb data
  have hn := enqueueSlice_fst rb data
  simp only [contents, hlen]
  by_cases h0 : min data.length rb.remainingCapacity = 0
  · rw [h0] at hn
    rw [hn]
    simp [enqueueSlice, h0]
  · have hk : (rb.enqueueSlice data).2.buffer = Circular.wrapWrite rb.buffer rb.writePos
        (data.take (min data.length rb.remainingCapacity)) := by
      simp [enqueueSlice, h0]
    have hr : (rb.enqueueSlice data).2.readPos = rb.readPos := by
      simp [enqueueSlice, h0]
    have ht : (data.take (min data.length rb.remainingCapacity)).length =
        min data.length rb.remainingCapacity := by
      simp only [List.length_take]; omega
    have hroom : rb.len + (data.take (min data.length rb.remainingCapacity)).length ≤
        rb.buffer.length := by
      rw [ht, rb.length_buffer, remainingCapacity]
      omega
    have hw := Circular.window_wrapWrite rb.readPos_lt_length hroom
    rw [rb.length_buffer, rb.pos_add_len, ht] at hw
    rw [hk, hr, hn, hw]

theorem dequeueSlice_eq (rb : TcpRingBuffer) (n : Nat) :
    rb.dequeueSlice n = (rb.contents.take n, rb.advance (min n rb.len)) := by
  have := rb.len_lt
  have hz : rb.advance 0 = rb := by
    cases rb
    simp only [advance, Nat.add_zero]
    congr
    exact Nat.mod_eq_of_lt (by assumption)
  have ht : rb.contents.take n = rb.contents.take (min n rb.len) := by
    rw [← length_contents, ← List.take_eq_take_min]
  simp only [dequeueSlice]
  split
  · next h0 =>
    rw [h0, hz, ht, h0]
    rfl
  · rw [ht, contents, Circular.window_take rb.readPos_lt_length
      (by rw [rb.length_buffer]; omega) (Nat.min_le_right ..)]

theorem peekCopy_eq (rb : TcpRingBuffer) (n : Nat) : rb.peekCopy n = rb.contents.take n := by
  refine Eq.trans ?_ (congrArg Prod.fst (dequeueSlice_eq rb n))
  simp only [dequeueSlice, peekCopy]
  split <;> rfl

theorem consume_eq (rb : TcpRingBuffer) (count : Nat) :
    rb.consume count = rb.advance (min count rb.len) := by
  refine Eq.trans ?_ (congrArg Prod.snd (dequeueSlice_eq rb count))
  simp only [dequeueSlice, consume]
  split <;> rfl

theorem len_consume (rb : TcpRingBuffer) (count : Nat) :
    (rb.consume count).len = rb.len - count := by
  rw [consume_eq, len_advance (Nat.min_le_right ..)]
  omega

theorem contents_consume (rb : TcpRingBuffer) (count : Nat) :
    (rb.consume count).contents = rb.contents.drop count := by
  rw [consume_eq, contents_advance (Nat.min_le_right ..), ← length_contents]
  by_cases h : count ≤ rb.contents.length
  · rw [Nat.min_eq_left h]
  · rw [Nat.min_eq_right (by omega), List.drop_length, List.drop_eq_nil_of_le (by omega)]

@[simp] theorem length_peekCopy (rb : TcpRingBuffer) (n : Nat) :
    (rb.peekCopy n).length = min n rb.len := by
  simp [peekCopy_eq]

end TcpRingBuffer

end Usque
