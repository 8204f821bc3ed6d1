import Usque.Lib.Fifo
import Usque.Lib.Run
import Usque.Manager.RingBuffer

namespace Usque

namespace TcpRingBuffer

def lenOf (capacity readPos writePos : Nat) : Nat :=
  if writePos ≥ readPos then writePos - readPos else capacity - readPos + writePos

theorem len_eq (rb : TcpRingBuffer) : rb.len = lenOf rb.capacity rb.readPos rb.writePos := rfl

theorem lenOf_lt {capacity readPos writePos : Nat} (hr : readPos < capacity)
    (hw : writePos < capacity) : lenOf capacity readPos writePos < capacity := by
  simp only [lenOf]
  split <;> omega

def setCell (rb : TcpRingBuffer) (i : Nat) (x : UInt8) : TcpRingBuffer :=
  { rb with
    buffer := rb.buffer.set i x
    length_buffer := by rw [List.length_set, rb.length_buffer] }

def storeWritePos (rb : TcpRingBuffer) (writePos toWrite : Nat) : TcpRingBuffer :=
  { rb with
    writePos := (writePos + toWrite) % rb.capacity
    writePos_lt := Nat.mod_lt _ rb.capacity_pos }

def storeReadPos (rb : TcpRingBuffer) (readPos count : Nat) : TcpRingBuffer :=
  { rb with
    readPos := (readPos + count) % rb.capacity
    readPos_lt := Nat.mod_lt _ rb.capacity_pos }

theorem storeReadPos_self (rb : TcpRingBuffer) (count : Nat) :
    rb.storeReadPos rb.readPos count = rb.advance count := rfl

theorem contents_setCell {rb : TcpRingBuffer} {c : Nat} {x : UInt8}
    (h : ∀ i, i < rb.len → c ≠ (rb.readPos + i) % rb.capacity) :
    (rb.setCell c x).contents = rb.contents := by
  have hl := rb.len_lt
  show Circular.window (rb.buffer.set c x) rb.readPos rb.len = rb.contents
  refine Circular.window_set rb.readPos_lt_length (by rw [rb.length_buffer]; omega) ?_
  rw [rb.length_buffer]
  exact h

theorem getElem?_setCell {rb : TcpRingBuffer} {j k : Nat} {x : UInt8} (hj : j ≤ k)
    (hk : k < rb.capacity) :
    (rb.setCell ((rb.writePos + k) % rb.capacity) x).buffer[(rb.writePos + j) % rb.capacity]? =
      if j = k then some x else rb.buffer[(rb.writePos + j) % rb.capacity]? := by
  simp only [setCell]
  split_ifs with he
  · subst he
    rw [List.getElem?_set_self]
    rw [rb.length_buffer]
    exact Nat.mod_lt _ (by omega)
  · exact List.getElem?_set_ne (Circular.mod_ne_of_lt (by omega) (by omega)).symm

theorem len_storeWritePos {rb : TcpRingBuffer} {toWrite : Nat} (h : rb.len + toWrite < rb.capacity) :
    (rb.storeWritePos rb.writePos toWrite).len = rb.len + toWrite := by
  have := rb.writePos_lt
  have := rb.readPos_lt
  by_cases hw : rb.writePos + toWrite < rb.capacity
  · have hp : (rb.storeWritePos rb.writePos toWrite).writePos = rb.writePos + toWrite :=
      Nat.mod_eq_of_lt hw
    simp only [len, hp, show (rb.storeWritePos rb.writePos toWrite).readPos = rb.readPos from rfl,
      show (rb.storeWritePos rb.writePos toWrite).capacity = rb.capacity from rfl] at h ⊢
    split at h <;> split <;> omega
  · have hp : (rb.storeWritePos rb.writePos toWrite).writePos =
        rb.writePos + toWrite - rb.capacity := by
      simp only [storeWritePos]
      rw [Nat.mod_eq_sub_mod (Nat.le_of_not_lt hw), Nat.mod_eq_of_lt (by
        simp only [len] at h
        split at h <;> omega)]
    simp only [len, hp, show (rb.storeWritePos rb.writePos toWrite).readPos = rb.readPos from rfl,
      show (rb.storeWritePos rb.writePos toWrite).capacity = rb.capacity from rfl] at h ⊢
    split at h <;> split <;> omega

theorem contents_storeWritePos (rb : TcpRingBuffer) (xs : List UInt8)
    (h : rb.len + xs.length < rb.capacity)
    (hx : ∀ j, j < xs.length → rb.buffer[(rb.writePos + j) % rb.capacity]? = xs[j]?) :
    (rb.storeWritePos rb.writePos xs.length).contents = rb.contents ++ xs := by
  rw [contents, len_storeWritePos h]
  refine Circular.window_append rb.readPos_lt_length ?_ ?_
  · show rb.len + xs.length ≤ rb.buffer.length
    rw [rb.length_buffer]
    omega
  · intro j hj
    show rb.buffer[(rb.readPos + (rb.len + j)) % rb.buffer.length]? = xs[j]?
    rw [← hx j hj, rb.length_buffer, ← rb.pos_add_len, Nat.mod_add_mod, Nat.add_assoc]

theorem getElem?_contents (rb : TcpRingBuffer) {i : Nat} (hi : i < rb.len) :
    rb.contents[i]? = rb.buffer[(rb.readPos + i) % rb.capacity]? := by
  have hl := rb.len_lt
  rw [contents, Circular.getElem?_window rb.readPos_lt_length (by rw [rb.length_buffer]; omega) hi,
    rb.length_buffer]

theorem writeCell_ne {rb : TcpRingBuffer} {toWrite copied : Nat}
    (h : rb.len + toWrite < rb.capacity) (hc : copied < toWrite) {i : Nat} (hi : i < rb.len) :
    Circular.cell rb.capacity rb.writePos toWrite copied ≠ (rb.readPos + i) % rb.capacity := by
  rw [Circular.cell_eq rb.writePos_lt (by omega) hc, ← rb.pos_add_len, Nat.mod_add_mod,
    Nat.add_assoc]
  exact (Circular.mod_ne_of_lt (by omega) (by omega)).symm

end TcpRingBuffer

inductive ProducerCall where
  | enqueueSlice (data : List UInt8)
  | remainingCapacity
  | isFull
deriving DecidableEq, Repr

inductive ProducerResult where
  | enqueued (n : Nat)
  | remaining (n : Nat)
  | full (b : Bool)
deriving DecidableEq, Repr

-- Where the producer is in a call; each state but idle is followed by one load, copied byte or
-- store.
inductive Producer where
  | idle (returned : Option ProducerResult)
  | called (call : ProducerCall)
  | loadedWrite (data : List UInt8) (writePos : Nat)
  | loadedRead (data : List UInt8) (writePos readPos : Nat)
  | copying (data : List UInt8) (writePos toWrite copied : Nat)
  | askedRead (full : Bool) (readPos : Nat)
deriving DecidableEq, Repr

inductive ConsumerCall where
  | dequeueSlice (n : Nat)
  | peekCopy (n : Nat)
  | consume (n : Nat)
deriving DecidableEq, Repr

def ConsumerCall.wanted : ConsumerCall → Nat
  | .dequeueSlice n => n
  | .peekCopy n => n
  | .consume n => n

inductive Consumer where
  | idle
  | called (call : ConsumerCall)
  | loadedRead (call : ConsumerCall) (readPos : Nat)
  | counted (call : ConsumerCall) (count : Nat)
  | copying (call : ConsumerCall) (readPos count : Nat) (copied : List UInt8)
  | storing (call : ConsumerCall) (readPos count : Nat)
deriving DecidableEq, Repr

inductive RingLabel where
  | produce (call : ProducerCall)
  | producer
  | take (call : ConsumerCall)
  | consumer
deriving DecidableEq, Repr

-- `peeked` is what the last finished call of the consumer returned, when that was peek_copy.
structure RingRun where
  ring : TcpRingBuffer
  producer : Producer
  consumer : Consumer
  enqueued : List UInt8
  consumed : List UInt8
  peeked : Option (List UInt8)

namespace RingRun

open TcpRingBuffer Circular

def init (capacity : Nat) : RingRun := ⟨.new capacity, .idle none, .idle, [], [], none⟩

def fifo (s : RingRun) : Fifo UInt8 := ⟨s.enqueued, s.consumed, s.ring.contents⟩

def producerStep (s : RingRun) : Option RingRun :=
  match s.producer with
  | .idle _ => none
  | .called (.enqueueSlice data) => some { s with producer := .loadedWrite data s.ring.writePos }
  | .called .remainingCapacity => some { s with producer := .askedRead false s.ring.readPos }
  | .called .isFull => some { s with producer := .askedRead true s.ring.readPos }
  | .loadedWrite data writePos =>
      some { s with producer := .loadedRead data writePos s.ring.readPos }
  | .loadedRead data writePos readPos =>
      let remaining := s.ring.capacity - lenOf s.ring.capacity readPos s.ring.writePos - 1
      let toWrite := min data.length remaining
      if toWrite = 0 then some { s with producer := .idle (some (.enqueued 0)) }
      else some { s with producer := .copying data writePos toWrite 0 }
  | .copying data writePos toWrite copied =>
      if copied < toWrite then
        some { s with
          ring := s.ring.setCell (cell s.ring.capacity writePos toWrite copied)
            (data.getD copied 0)
          producer := .copying data writePos toWrite (copied + 1) }
      else
        some { s with
          ring := s.ring.storeWritePos writePos toWrite
          producer := .idle (some (.enqueued toWrite))
          enqueued := s.enqueued ++ data.take toWrite }
  | .askedRead full readPos =>
      let remaining := s.ring.capacity - lenOf s.ring.capacity readPos s.ring.writePos - 1
      some { s with
        producer := .idle (some (if full then .full (remaining = 0) else .remaining remaining)) }

-- dequeue_slice and consume load the read position again before they use it.
def startCopy (s : RingRun) (call : ConsumerCall) (readPos count : Nat) : RingRun :=
  match call with
  | .peekCopy _ => { s with consumer := .copying call readPos count [] }
  | _ => { s with consumer := .counted call count }

def returnEmpty (s : RingRun) (call : ConsumerCall) : RingRun :=
  match call with
  | .peekCopy _ => { s with consumer := .idle, peeked := some [] }
  | _ => { s with consumer := .idle, peeked := none }

def finishCopy (s : RingRun) (call : ConsumerCall) (readPos count : Nat) (copied : List UInt8) :
    RingRun :=
  match call with
  | .peekCopy _ => { s with consumer := .idle, peeked := some copied }
  | _ =>
      { s with
        ring := s.ring.storeReadPos readPos count
        consumer := .idle
        consumed := s.consumed ++ copied
        peeked := none }

def consumerStep (s : RingRun) : Option RingRun :=
  match s.consumer with
  | .idle => none
  | .called call => some { s with consumer := .loadedRead call s.ring.readPos }
  | .loadedRead call readPos =>
      let count := min call.wanted (lenOf s.ring.capacity readPos s.ring.writePos)
      if count = 0 then some (s.returnEmpty call) else some (s.startCopy call readPos count)
  | .counted call count =>
      match call with
      | .consume _ => some { s with consumer := .storing call s.ring.readPos count }
      | _ => some { s with consumer := .copying call s.ring.readPos count [] }
  | .copying call readPos count copied =>
      if copied.length < count then
        some { s with
          consumer := .copying call readPos count (copied ++
            [s.ring.buffer.getD (cell s.ring.capacity readPos count copied.length) 0]) }
      else some (s.finishCopy call readPos count copied)
  | .storing _ readPos count =>
      some { s with
        ring := s.ring.storeReadPos readPos count
        consumer := .idle
        consumed := s.consumed ++ s.ring.contents.take count
        peeked := none }

def step (s : RingRun) : RingLabel → Option RingRun
  | .produce call =>
      match s.producer with
      | .idle _ => some { s with producer := .called call }
      | _ => none
  | .producer => s.producerStep
  | .take call =>
      match s.consumer with
      | .idle => some { s with consumer := .called call }
      | _ => none
  | .consumer => s.consumerStep

end RingRun

namespace Producer

open TcpRingBuffer

def Ok (rb : TcpRingBuffer) : Producer → Prop
  | .idle (some (.remaining n)) => rb.len + n < rb.capacity
  | .idle (some (.full b)) => b = false → rb.len + 1 < rb.capacity
  | .idle _ => True
  | .called _ => True
  | .loadedWrite _ writePos => writePos = rb.writePos
  | .loadedRead _ writePos readPos =>
      writePos = rb.writePos ∧ readPos < rb.capacity ∧
        rb.len ≤ lenOf rb.capacity readPos rb.writePos
  | .copying data writePos toWrite copied =>
      writePos = rb.writePos ∧ toWrite ≤ data.length ∧ rb.len + toWrite < rb.capacity ∧
        copied ≤ toWrite ∧
        ∀ j, j < copied → rb.buffer[(rb.writePos + j) % rb.capacity]? = data[j]?
  | .askedRead _ readPos =>
      readPos < rb.capacity ∧ rb.len ≤ lenOf rb.capacity readPos rb.writePos

-- The consumer only makes room.
theorem Ok.shrink {rb rb' : TcpRingBuffer} {p : Producer} (h : p.Ok rb)
    (hb : rb'.buffer = rb.buffer) (hc : rb'.capacity = rb.capacity)
    (hw : rb'.writePos = rb.writePos) (hl : rb'.len ≤ rb.len) : p.Ok rb' := by
  cases p with
  | idle returned =>
      match returned with
      | none => trivial
      | some (.enqueued _) => trivial
      | some (.remaining n) =>
          simp only [Ok, hc] at h ⊢
          omega
      | some (.full b) =>
          simp only [Ok, hc] at h ⊢
          intro hb'
          have := h hb'
          omega
  | called call => trivial
  | loadedWrite data writePos => exact h.trans hw.symm
  | loadedRead data writePos readPos =>
      simp only [Ok, hc, hw] at h ⊢
      exact ⟨h.1, h.2.1, by omega⟩
  | copying data writePos toWrite copied =>
      simp only [Ok, hc, hw, hb] at h ⊢
      obtain ⟨h₁, h₂, h₃, h₄, h₅⟩ := h
      exact ⟨h₁, h₂, by omega, h₄, h₅⟩
  | askedRead full readPos =>
      simp only [Ok, hc, hw] at h ⊢
      exact ⟨h.1, by omega⟩

-- The read position that a call has loaded and is about to subtract from the capacity.
def loaded : Producer → Option Nat
  | .loadedRead _ _ readPos => some readPos
  | .askedRead _ readPos => some readPos
  | _ => none

end Producer

namespace Consumer

def loaded : Consumer → Option Nat
  | .loadedRead _ readPos => some readPos
  | _ => none

def call : Consumer → Option ConsumerCall
  | .idle => none
  | .called call => some call
  | .loadedRead call _ => some call
  | .counted call _ => some call
  | .copying call _ _ _ => some call
  | .storing call _ _ => some call

-- What is counted so far covers what was peeked, so far as the call wants it.
def Covers (peeked : Option (List UInt8)) (call : ConsumerCall) (count : Nat) : Prop :=
  ∀ out, peeked = some out → min call.wanted out.length ≤ count

def Ok (rb : TcpRingBuffer) (peeked : Option (List UInt8)) : Consumer → Prop
  | .idle => True
  | .called _ => True
  | .loadedRead _ readPos => readPos = rb.readPos
  | .counted call count => count ≤ call.wanted ∧ count ≤ rb.len ∧ Covers peeked call count
  | .copying call readPos count copied =>
      readPos = rb.readPos ∧ count ≤ call.wanted ∧ count ≤ rb.len ∧ copied.length ≤ count ∧
        copied = rb.contents.take copied.length ∧
        ((∀ n, call ≠ .peekCopy n) → Covers peeked call count)
  | .storing call readPos count =>
      readPos = rb.readPos ∧ count ≤ call.wanted ∧ count ≤ rb.len ∧ Covers peeked call count

-- The producer only adds bytes at the end.
theorem Ok.grow {rb rb' : TcpRingBuffer} {peeked : Option (List UInt8)} {c : Consumer}
    {xs : List UInt8} (h : c.Ok rb peeked) (hr : rb'.readPos = rb.readPos)
    (hx : rb'.contents = rb.contents ++ xs) : c.Ok rb' peeked := by
  have hl : rb.len ≤ rb'.len := by
    rw [← TcpRingBuffer.length_contents rb', hx, List.length_append,
      TcpRingBuffer.length_contents]
    omega
  cases c with
  | idle => trivial
  | called call => trivial
  | loadedRead call readPos => exact h.trans hr.symm
  | counted call count => exact ⟨h.1, h.2.1.trans hl, h.2.2⟩
  | copying call readPos count copied =>
      obtain ⟨h₁, h₂, h₃, h₄, h₅, h₆⟩ := h
      refine ⟨h₁.trans hr.symm, h₂, h₃.trans hl, h₄, ?_, h₆⟩
      rw [hx, List.take_append_of_le_length (by rw [TcpRingBuffer.length_contents]; omega)]
      exact h₅
  | storing call readPos count =>
      obtain ⟨h₁, h₂, h₃, h₄⟩ := h
      exact ⟨h₁.trans hr.symm, h₂, h₃.trans hl, h₄⟩

end Consumer

namespace RingRun

open TcpRingBuffer Circular

structure Ok (s : RingRun) : Prop where
  conserved : s.fifo.Conserved
  producer : s.producer.Ok s.ring
  consumer : s.consumer.Ok s.ring s.peeked
  peeked : ∀ out, s.peeked = some out → out = s.ring.contents.take out.length

theorem init_ok (capacity : Nat) : (init capacity).Ok where
  conserved := by
    have hn : (TcpRingBuffer.new capacity).contents = [] := by
      rw [← List.length_eq_zero_iff, length_contents, len_new]
    simp only [Fifo.Conserved, fifo, init, hn, List.append_nil]
  producer := trivial
  consumer := trivial
  peeked := by
    intro out h
    cases h

-- What a step of the producer leaves alone, and what it may add.
structure Produces (s t : RingRun) : Prop where
  readPos : t.ring.readPos = s.ring.readPos
  capacity : t.ring.capacity = s.ring.capacity
  consumer : t.consumer = s.consumer
  consumed : t.consumed = s.consumed
  peeked : t.peeked = s.peeked
  producer : t.producer.Ok t.ring
  adds : ∃ xs, t.ring.contents = s.ring.contents ++ xs ∧ t.enqueued = s.enqueued ++ xs

theorem Produces.ok {s t : RingRun} (h : Produces s t) (hs : s.Ok) : t.Ok := by
  obtain ⟨xs, hx, he⟩ := h.adds
  constructor
  · have hc : s.enqueued = s.consumed ++ s.ring.contents := hs.conserved
    simp only [Fifo.Conserved, fifo, he, hx, h.consumed, hc, List.append_assoc]
  · exact h.producer
  · rw [h.consumer, h.peeked]
    exact hs.consumer.grow h.readPos hx
  · intro out ho
    rw [h.peeked] at ho
    have hp := hs.peeked out ho
    have hle : out.length ≤ s.ring.contents.length := by
      have := congrArg List.length hp
      rw [List.length_take] at this
      omega
    rw [hx, List.take_append_of_le_length hle]
    exact hp

theorem Produces.same {s t : RingRun} (hr : t.ring = s.ring) (hc : t.consumer = s.consumer)
    (hd : t.consumed = s.consumed) (he : t.enqueued = s.enqueued) (hp : t.peeked = s.peeked)
    (hok : t.producer.Ok s.ring) : Produces s t where
  readPos := by rw [hr]
  capacity := by rw [hr]
  consumer := hc
  consumed := hd
  peeked := hp
  producer := hr.symm ▸ hok
  adds := ⟨[], by rw [hr, List.append_nil], by rw [he, List.append_nil]⟩

theorem Produces.copied {s : RingRun} {data : List UInt8} {toWrite copied : Nat}
    (hlt : copied < toWrite)
    (hok : (Producer.copying data s.ring.writePos toWrite copied).Ok s.ring) :
    Produces s { s with
      ring := s.ring.setCell (cell s.ring.capacity s.ring.writePos toWrite copied)
        (data.getD copied 0)
      producer := .copying data s.ring.writePos toWrite (copied + 1) } := by
  obtain ⟨-, hd, hroom, -, hcells⟩ := hok
  have hlen := s.ring.len_lt
  have hcell := cell_eq s.ring.writePos_lt (by omega : toWrite ≤ s.ring.capacity) hlt
  have hsame : (s.ring.setCell (cell s.ring.capacity s.ring.writePos toWrite copied)
      (data.getD copied 0)).contents = s.ring.contents :=
    contents_setCell (fun i hi => writeCell_ne hroom hlt hi)
  refine ⟨rfl, rfl, rfl, rfl, rfl, ⟨rfl, hd, hroom, hlt, ?_⟩, [], ?_, ?_⟩
  · intro j hj
    show (s.ring.setCell (cell s.ring.capacity s.ring.writePos toWrite copied)
      (data.getD copied 0)).buffer[(s.ring.writePos + j) % s.ring.capacity]? = data[j]?
    rw [hcell, getElem?_setCell (by omega) (by omega)]
    split_ifs with hjk
    · have hcd : copied < data.length := by omega
      simp [hjk, hcd]
    · exact hcells j (by omega)
  · rw [hsame, List.append_nil]
  · rw [List.append_nil]

theorem Produces.stored {s : RingRun} {data : List UInt8} {copied : Nat}
    (hok : (Producer.copying data s.ring.writePos copied copied).Ok s.ring) :
    Produces s { s with
      ring := s.ring.storeWritePos s.ring.writePos copied
      producer := .idle (some (.enqueued copied))
      enqueued := s.enqueued ++ data.take copied } := by
  obtain ⟨-, hd, hroom, -, hcells⟩ := hok
  have hx : (data.take copied).length = copied := by
    rw [List.length_take]
    omega
  have hstore := contents_storeWritePos s.ring (data.take copied)
    (by rw [hx]; exact hroom) (by
      intro j hj
      rw [hx] at hj
      rw [hcells j hj, List.getElem?_take, if_pos hj])
  rw [hx] at hstore
  exact ⟨rfl, rfl, rfl, rfl, rfl, trivial, data.take copied, hstore, rfl⟩

theorem producerStep_produces {s t : RingRun} (hs : s.Ok) (h : s.producerStep = some t) :
    Produces s t := by
  have hp := hs.producer
  have hlen := s.ring.len_lt
  simp only [producerStep] at h
  split at h
  · cases h
  · cases h
    exact .same rfl rfl rfl rfl rfl rfl
  · cases h
    exact .same rfl rfl rfl rfl rfl ⟨s.ring.readPos_lt, le_refl _⟩
  · cases h
    exact .same rfl rfl rfl rfl rfl ⟨s.ring.readPos_lt, le_refl _⟩
  · next data writePos heq =>
      cases h
      rw [heq] at hp
      exact .same rfl rfl rfl rfl rfl ⟨hp, s.ring.readPos_lt, le_refl _⟩
  · next data writePos readPos heq =>
      rw [heq] at hp
      obtain ⟨hw, hr, hle⟩ := hp
      have hlt := lenOf_lt hr s.ring.writePos_lt
      split_ifs at h with h0
      · cases h
        exact .same rfl rfl rfl rfl rfl trivial
      · cases h
        refine .same rfl rfl rfl rfl rfl ⟨hw, ?_, ?_, ?_, ?_⟩
        · omega
        · omega
        · omega
        · intro j hj
          omega
  · next data writePos toWrite copied heq =>
      rw [heq] at hp
      obtain ⟨rfl, hd, hroom, hk, hcells⟩ := hp
      split_ifs at h with hlt
      · cases h
        exact .copied hlt ⟨rfl, hd, hroom, hk, hcells⟩
      · cases h
        obtain rfl : copied = toWrite := by omega
        exact .stored ⟨rfl, hd, hroom, hk, hcells⟩
  · next full readPos heq =>
      rw [heq] at hp
      obtain ⟨hr, hle⟩ := hp
      have hlt := lenOf_lt hr s.ring.writePos_lt
      cases h
      refine .same rfl rfl rfl rfl rfl ?_
      cases full with
      | false =>
          simp only [Producer.Ok, Bool.false_eq_true, if_false]
          omega
      | true =>
          simp only [Producer.Ok, if_true, decide_eq_false_iff_not]
          omega

structure Consumes (s t : RingRun) : Prop where
  buffer : t.ring.buffer = s.ring.buffer
  capacity : t.ring.capacity = s.ring.capacity
  writePos : t.ring.writePos = s.ring.writePos
  producer : t.producer = s.producer
  enqueued : t.enqueued = s.enqueued
  consumer : t.consumer.Ok t.ring t.peeked
  peeked : ∀ out, t.peeked = some out → out = t.ring.contents.take out.length
  removes : ∃ n, n ≤ s.ring.len ∧ t.ring.contents = s.ring.contents.drop n ∧
    t.consumed = s.consumed ++ s.ring.contents.take n

theorem Consumes.ok {s t : RingRun} (h : Consumes s t) (hs : s.Ok) : t.Ok := by
  obtain ⟨n, hn, hc, hd⟩ := h.removes
  constructor
  · have he : s.enqueued = s.consumed ++ s.ring.contents := hs.conserved
    simp only [Fifo.Conserved, fifo, h.enqueued, hc, hd, he, List.append_assoc,
      List.take_append_drop]
  · rw [h.producer]
    refine hs.producer.shrink h.buffer h.capacity h.writePos ?_
    rw [← length_contents t.ring, hc, List.length_drop, length_contents]
    omega
  · exact h.consumer
  · exact h.peeked

theorem Consumes.same {s t : RingRun} (hr : t.ring = s.ring) (hp : t.producer = s.producer)
    (he : t.enqueued = s.enqueued) (hd : t.consumed = s.consumed)
    (hok : t.consumer.Ok s.ring t.peeked)
    (hpk : ∀ out, t.peeked = some out → out = s.ring.contents.take out.length) :
    Consumes s t where
  buffer := by rw [hr]
  capacity := by rw [hr]
  writePos := by rw [hr]
  producer := hp
  enqueued := he
  consumer := hr.symm ▸ hok
  peeked := hr.symm ▸ hpk
  removes := ⟨0, Nat.zero_le _, by rw [hr, List.drop_zero], by
    rw [hd, List.take_zero, List.append_nil]⟩

theorem Consumes.stored {s : RingRun} {count : Nat} {copied : List UInt8}
    (hn : count ≤ s.ring.len) (hc : copied = s.ring.contents.take count) :
    Consumes s { s with
      ring := s.ring.storeReadPos s.ring.readPos count
      consumer := .idle
      consumed := s.consumed ++ copied
      peeked := none } where
  buffer := rfl
  capacity := rfl
  writePos := rfl
  producer := rfl
  enqueued := rfl
  consumer := trivial
  peeked := by
    intro out h
    cases h
  removes := by
    refine ⟨count, hn, ?_, by rw [hc]⟩
    show (s.ring.storeReadPos s.ring.readPos count).contents = _
    rw [storeReadPos_self, contents_advance hn]

theorem take_succ_contents {rb : TcpRingBuffer} {n count : Nat} (hn : n < count)
    (hc : count ≤ rb.len) :
    rb.contents.take (n + 1) =
      rb.contents.take n ++ [rb.buffer.getD (cell rb.capacity rb.readPos count n) 0] := by
  have hlen := rb.len_lt
  have hget := rb.getElem?_contents (show n < rb.len by omega)
  rw [cell_eq rb.readPos_lt (by omega) hn]
  rw [List.take_succ_eq_append_getElem (by rw [length_contents]; omega)]
  rw [List.getElem?_eq_getElem (by rw [length_contents]; omega)] at hget
  congr 2
  rw [List.getD_eq_getElem?_getD, ← hget, Option.getD_some]

theorem consumerStep_consumes {s t : RingRun} (hs : s.Ok) (h : s.consumerStep = some t) :
    Consumes s t := by
  have hc := hs.consumer
  have hlen := s.ring.len_lt
  have hpeek : ∀ out, s.peeked = some out → out.length ≤ s.ring.len := by
    intro out ho
    have := congrArg List.length (hs.peeked out ho)
    rw [List.length_take, length_contents] at this
    omega
  simp only [consumerStep] at h
  split at h
  · cases h
  · cases h
    exact .same rfl rfl rfl rfl rfl hs.peeked
  · next call readPos heq =>
      rw [heq] at hc
      have hr : readPos = s.ring.readPos := hc
      subst hr
      rw [← len_eq] at h
      split_ifs at h with h0
      · cases h
        cases call with
        | peekCopy n =>
            refine .same rfl rfl rfl rfl trivial ?_
            intro out ho
            cases ho
            rfl
        | dequeueSlice n => exact .same rfl rfl rfl rfl trivial (fun _ ho => by cases ho)
        | consume n => exact .same rfl rfl rfl rfl trivial (fun _ ho => by cases ho)
      · cases h
        have hcov : Consumer.Covers s.peeked call (min call.wanted s.ring.len) := by
          intro out ho
          have := hpeek out ho
          omega
        cases call with
        | peekCopy n =>
            refine .same rfl rfl rfl rfl ⟨rfl, ?_, ?_, ?_, ?_, ?_⟩ hs.peeked
            · omega
            · omega
            · exact Nat.zero_le _
            · rfl
            · intro hne
              exact absurd rfl (hne n)
        | dequeueSlice n =>
            exact .same rfl rfl rfl rfl ⟨Nat.min_le_left .., Nat.min_le_right .., hcov⟩ hs.peeked
        | consume n =>
            exact .same rfl rfl rfl rfl ⟨Nat.min_le_left .., Nat.min_le_right .., hcov⟩ hs.peeked
  · next call count heq =>
      rw [heq] at hc
      obtain ⟨hw, hn, hcov⟩ := hc
      split at h
      · cases h
        exact .same rfl rfl rfl rfl ⟨rfl, hw, hn, hcov⟩ hs.peeked
      · cases h
        exact .same rfl rfl rfl rfl ⟨rfl, hw, hn, Nat.zero_le _, rfl, fun _ => hcov⟩ hs.peeked
  · next call readPos count copied heq =>
      rw [heq] at hc
      obtain ⟨rfl, hw, hn, hk, hcop, hcov⟩ := hc
      split_ifs at h with hlt
      · cases h
        refine .same rfl rfl rfl rfl ⟨rfl, hw, hn, ?_, ?_, hcov⟩ hs.peeked
        · rw [List.length_append, List.length_singleton]
          omega
        · rw [List.length_append, List.length_singleton, take_succ_contents hlt hn, ← hcop]
      · cases h
        have hfull : copied.length = count := by omega
        rw [hfull] at hcop
        cases call with
        | peekCopy n =>
            refine .same rfl rfl rfl rfl trivial ?_
            intro out ho
            cases ho
            rw [hfull]
            exact hcop
        | dequeueSlice n => exact .stored hn hcop
        | consume n => exact .stored hn hcop
  · next call readPos count heq =>
      rw [heq] at hc
      obtain ⟨rfl, _, hn, _⟩ := hc
      cases h
      exact .stored hn rfl

theorem step_cases {s t : RingRun} {label : RingLabel} (hs : s.Ok) (h : s.step label = some t) :
    Produces s t ∨ Consumes s t := by
  cases label with
  | produce call =>
      simp only [step] at h
      split at h
      · cases h
        exact .inl (.same rfl rfl rfl rfl rfl trivial)
      · cases h
  | producer => exact .inl (producerStep_produces hs h)
  | take call =>
      simp only [step] at h
      split at h
      · cases h
        exact .inr (.same rfl rfl rfl rfl trivial hs.peeked)
      · cases h
  | consumer => exact .inr (consumerStep_consumes hs h)

theorem step_ok {s t : RingRun} {label : RingLabel} (hs : s.Ok) (h : s.step label = some t) :
    t.Ok ∧ t.ring.capacity = s.ring.capacity := by
  rcases step_cases hs h with hp | hc
  · exact ⟨hp.ok hs, hp.capacity⟩
  · exact ⟨hc.ok hs, hc.capacity⟩

theorem step_moves {s t : RingRun} {label : RingLabel} (hs : s.Ok) (h : s.step label = some t) :
    Fifo.Move (s.ring.capacity - 1) s.fifo t.fifo := by
  rcases step_cases hs h with hp | hc
  · obtain ⟨xs, hx, he⟩ := hp.adds
    have hf : t.fifo = s.fifo.push xs := by
      simp only [fifo, Fifo.push, hx, he, hp.consumed]
    have hlen := congrArg List.length hx
    have := t.ring.len_lt
    rw [length_contents, List.length_append, length_contents] at hlen
    rw [hf]
    refine .push _ xs ?_
    simp only [fifo, length_contents]
    have := hp.capacity
    omega
  · obtain ⟨n, hn, hd, hcons⟩ := hc.removes
    have hf : t.fifo = s.fifo.pop n := by
      simp only [fifo, Fifo.pop, hd, hcons, hc.enqueued]
    rw [hf]
    refine .pop _ n ?_
    simp only [fifo, length_contents]
    exact hn

def Reachable (capacity : Nat) (s : RingRun) : Prop :=
  Run.Reaches step Run.Any (init capacity) s

theorem Reachable.ok {capacity : Nat} {s : RingRun} (h : Reachable capacity s) :
    s.Ok ∧ s.ring.capacity = max capacity 2 := by
  refine Run.Reaches.invariant (I := fun s => s.Ok ∧ s.ring.capacity = max capacity 2) ?_ h
    ⟨init_ok capacity, rfl⟩
  intro s label t hs _ ht
  obtain ⟨hok, hc⟩ := step_ok hs.1 ht
  exact ⟨hok, hc.trans hs.2⟩

theorem Ok.underflow {s : RingRun} (hs : s.Ok) {readPos : Nat}
    (h : s.producer.loaded = some readPos ∨ s.consumer.loaded = some readPos) :
    readPos < s.ring.capacity ∧
      lenOf s.ring.capacity readPos s.ring.writePos < s.ring.capacity := by
  have hp := hs.producer
  have hc := hs.consumer
  have hr : readPos < s.ring.capacity := by
    rcases h with h | h
    · cases hpr : s.producer <;> rw [hpr] at h hp <;> cases h
      · exact hp.2.1
      · exact hp.1
    · cases hco : s.consumer <;> rw [hco] at h hc <;> cases h
      have he : readPos = s.ring.readPos := hc
      rw [he]
      exact s.ring.readPos_lt
  exact ⟨hr, lenOf_lt hr s.ring.writePos_lt⟩

-- peek_copy and then consume take the bytes that dequeue_slice would take.
theorem Ok.completes {s t : RingRun} (hs : s.Ok) {out : List UInt8} {call : ConsumerCall}
    (hpeek : s.peeked = some out) (hcall : s.consumer.call = some call)
    (hkind : call = .consume out.length ∨ call = .dequeueSlice out.length)
    (h : s.step .consumer = some t) (hdone : t.consumer = .idle) :
    t.consumed = s.consumed ++ out := by
  have hw : call.wanted = out.length := by
    rcases hkind with rfl | rfl <;> rfl
  have hnot : ∀ n, call ≠ .peekCopy n := by
    rcases hkind with rfl | rfl <;> intro n hn <;> cases hn
  have hout := hs.peeked out hpeek
  have hle : out.length ≤ s.ring.len := by
    have := congrArg List.length hout
    rw [List.length_take, length_contents] at this
    omega
  have htake : ∀ count, count ≤ call.wanted → Consumer.Covers s.peeked call count →
      s.ring.contents.take count = out := by
    intro count hcw hcov
    have := hcov out hpeek
    have hcount : count = out.length := by omega
    rw [hcount]
    exact hout.symm
  have hc := hs.consumer
  simp only [step, consumerStep] at h
  split at h
  · cases h
  · cases h
    cases hdone
  · next call' readPos heq =>
      rw [heq] at hcall hc
      cases hcall
      have hr : readPos = s.ring.readPos := hc
      rw [hr, ← len_eq] at h
      split_ifs at h with h0
      · have hnil : out = [] := List.length_eq_zero_iff.mp (by omega)
        rw [hnil, List.append_nil]
        cases h
        rcases hkind with rfl | rfl <;> rfl
      · cases h
        rcases hkind with rfl | rfl <;> cases hdone
  · next call' count heq =>
      rw [heq] at hcall
      cases hcall
      split at h
      · cases h
        cases hdone
      · cases h
        cases hdone
  · next call' readPos count copied heq =>
      rw [heq] at hcall hc
      cases hcall
      obtain ⟨_, hcw, _, hk, hcop, hcov⟩ := hc
      split_ifs at h with hlt
      · cases h
        cases hdone
      · have hfull : copied.length = count := by omega
        rw [hfull] at hcop
        cases h
        rw [← htake count hcw (hcov hnot), ← hcop]
        rcases hkind with rfl | rfl <;> rfl
  · next call' readPos count heq =>
      rw [heq] at hcall hc
      cases hcall
      obtain ⟨_, hcw, _, hcov⟩ := hc
      cases h
      rw [← htake count hcw hcov]

end RingRun

open TcpRingBuffer Circular in
structure RingExact (bound : Nat) (s : RingRun) : Prop where
  conserved : s.enqueued = s.consumed ++ s.ring.contents
  bounded : s.ring.contents.length ≤ bound
  moves : ∀ label t, s.step label = some t → Fifo.Move bound s.fifo t.fifo
  writes : ∀ data writePos toWrite copied,
    s.producer = .copying data writePos toWrite copied → copied < toWrite →
      ∀ i, i < s.ring.len → cell s.ring.capacity writePos toWrite copied ≠
        (s.ring.readPos + i) % s.ring.capacity
  reads : ∀ call readPos count copied, s.consumer = .copying call readPos count copied →
    ∀ j, j < count → ∃ i, i < s.ring.len ∧
      cell s.ring.capacity readPos count j = (s.ring.readPos + i) % s.ring.capacity
  room : ∀ n, s.producer = .idle (some (.remaining n)) → s.ring.contents.length + n ≤ bound
  underflow : ∀ readPos,
    s.producer.loaded = some readPos ∨ s.consumer.loaded = some readPos →
      readPos ≤ s.ring.capacity ∧
        lenOf s.ring.capacity readPos s.ring.writePos + 1 ≤ s.ring.capacity
  peeked : ∀ out call t, s.peeked = some out → s.consumer.call = some call →
    (call = .consume out.length ∨ call = .dequeueSlice out.length) →
      s.step .consumer = some t → t.consumer = .idle → t.consumed = s.consumed ++ out

open TcpRingBuffer Circular in
theorem RingRun.ring_exact (s : RingRun) (capacity : Nat) (h : s.Reachable capacity) :
    RingExact (max capacity 2 - 1) s := by
  obtain ⟨hs, hc⟩ := Reachable.ok h
  have hlen := s.ring.len_lt
  constructor
  · exact hs.conserved
  · rw [length_contents]
    omega
  · intro label t ht
    rw [← hc]
    exact step_moves hs ht
  · intro data writePos toWrite copied heq hlt i hi
    have hp := hs.producer
    rw [heq] at hp
    obtain ⟨rfl, _, hroom, _⟩ := hp
    exact writeCell_ne hroom hlt hi
  · intro call readPos count copied heq j hj
    have hk := hs.consumer
    rw [heq] at hk
    obtain ⟨rfl, _, hn, _⟩ := hk
    exact ⟨j, by omega, cell_eq s.ring.readPos_lt (by omega) hj⟩
  · intro n heq
    have hp := hs.producer
    rw [heq] at hp
    have hroom : s.ring.len + n < s.ring.capacity := hp
    rw [length_contents]
    omega
  · intro readPos hl
    obtain ⟨h₁, h₂⟩ := hs.underflow hl
    omega
  · intro out call t hp hcall hkind ht hdone
    exact hs.completes hp hcall hkind ht hdone

-- Three bytes in, two of them out, and two more being copied in across the end of the buffer.
theorem RingRun.ring_exact_wrapping : ∃ s : RingRun, s.Reachable 4 ∧
    s.producer = .copying [4, 5] 3 2 1 ∧ RingExact (max 4 2 - 1) s := by
  have h : (Run.exec RingRun.step (RingRun.init 4)
      ([.produce (.enqueueSlice [1, 2, 3])] ++ List.replicate 7 .producer ++
        [.take (.dequeueSlice 2)] ++ List.replicate 6 .consumer ++
        [.produce (.enqueueSlice [4, 5])] ++ List.replicate 4 .producer)).any
      (fun s => decide (s.producer = .copying [4, 5] 3 2 1)) = true := by decide +kernel
  obtain ⟨s, hs, hp⟩ := (Option.any_eq_true _ _).mp h
  have hr : s.Reachable 4 := Run.exec_reaches hs
  exact ⟨s, hr, of_decide_eq_true hp, s.ring_exact 4 hr⟩

end Usque
