import Usque.Lib.Run
import Usque.Stack.NetworkStack

namespace Usque

-- `str::parse::<usize>`: an optional plus sign and then digits, within 64 bits.
def parseDigits : List Char → Nat → Option Nat
  | [], n => some n
  | c :: cs, n =>
      if c.isDigit then
        let n := n * 10 + (c.toNat - 48)
        if n < 2 ^ 64 then parseDigits cs n else none
      else none

def parseUsize (text : String) : Option Nat :=
  let digits := match text.toList with
    | '+' :: rest => rest
    | chars => chars
  if digits.isEmpty then none else parseDigits digits 0

def envUsize (var : Option String) (default : Nat) : Nat := (var.bind parseUsize).getD default

namespace StackTunables

-- `var` is USQUE_STACK_QUEUE_CAPACITY.
def fromEnv (var : Option String) : StackTunables :=
  let defaults : StackTunables := {}
  { defaults with deviceQueueCapacity := envUsize var defaults.deviceQueueCapacity }

end StackTunables

namespace VirtualDevice

def injectPacket (dev : VirtualDevice) (data : Packet) : Outcome VirtualDevice := do
  let dev ← dropOldest (dev.rxQueue.length + 1) dev
  .ok { dev with rxQueue := dev.rxQueue ++ [data] }

-- Whether there is a token for a packet to send.
def transmit (dev : VirtualDevice) : Bool := dev.hasTxCapacity

end VirtualDevice

-- A token borrows the device, so that nothing else is called while there is one. The packets that
-- take_packet gave out are `taken` until smoltcp sends another.
structure DeviceRun where
  device : VirtualDevice
  token : Bool
  taken : List Packet
deriving DecidableEq

inductive DeviceOp where
  | injectPacket (data : Packet)
  | injectPacketOwned (data : Packet)
  | receive
  | transmit
  | consume (packet : Packet)
  | dropToken
  | takePacket
  | requeuePacketFront (packet : Packet)
deriving DecidableEq

namespace DeviceRun

def start (mtu queueCapacity : Nat) : DeviceRun := ⟨.new mtu queueCapacity, false, []⟩

def injected (r : DeviceRun) (device : Outcome VirtualDevice) : Option DeviceRun :=
  match device with
  | .ok device => some { r with device }
  | .error _ => none

def step (r : DeviceRun) : DeviceOp → Option DeviceRun
  | .injectPacket data => if r.token then none else r.injected (r.device.injectPacket data)
  | .injectPacketOwned data =>
      if r.token then none else r.injected (r.device.injectPacketOwned data)
  | .receive =>
      if r.token then none
      else
        match r.device.receive with
        | none => some r
        | some (_, device) => some { r with device, token := true }
  | .transmit => if r.token then none else some { r with token := r.device.transmit }
  | .consume packet =>
      if r.token then
        some { device := r.device.consume packet, token := false, taken := [] }
      else none
  | .dropToken => if r.token then some { r with token := false } else none
  | .takePacket =>
      if r.token then none
      else
        match r.device.takePacket with
        | none => some r
        | some (packet, device) => some { r with device, taken := packet :: r.taken }
  | .requeuePacketFront packet =>
      if !r.token && packet ∈ r.taken then
        some { r with
          device := r.device.requeuePacketFront packet
          taken := r.taken.erase packet }
      else none

-- An injection ends with the newest packets and counts the others as drops.
def Injects (dev : VirtualDevice) (data : Packet) : Prop :=
  ∃ dev', dev.injectPacket data = .ok dev' ∧ dev.injectPacketOwned data = .ok dev' ∧
    dev'.rxQueue = (dev.rxQueue ++ [data]).drop (dev.rxQueue.length + 1 - dev.queueCapacity) ∧
    dev'.rxDrops = dev.rxDrops + (dev.rxQueue.length + 1 - dev.queueCapacity) ∧
    dev'.txQueue = dev.txQueue

structure WellKept (queueCapacity : Nat) (r : DeviceRun) : Prop where
  capacity : r.device.queueCapacity = queueCapacity
  rx : r.device.rxQueue.length ≤ queueCapacity
  tx : r.device.txQueue.length ≤ queueCapacity
  injects : ∀ data, Injects r.device data
  receive : r.device.txQueue.length = queueCapacity → r.device.receive = none

end DeviceRun

namespace VirtualDevice

variable {dev dev' : VirtualDevice}

theorem dropOldest_hang (h : dev.queueCapacity = 0) (fuel : Nat) :
    dropOldest fuel dev = .error .hang := by
  induction fuel generalizing dev with
  | zero => rfl
  | succ fuel ih =>
      have hfull : dev.rxQueue.length ≥ dev.queueCapacity := h ▸ Nat.zero_le _
      rw [dropOldest, if_pos hfull]
      exact ih h

theorem dropOldest_ok (h : 0 < dev.queueCapacity) {fuel : Nat} (hf : dev.rxQueue.length < fuel) :
    dropOldest fuel dev =
      .ok { dev with
        rxQueue := dev.rxQueue.drop (dev.rxQueue.length + 1 - dev.queueCapacity)
        rxDrops := dev.rxDrops + (dev.rxQueue.length + 1 - dev.queueCapacity) } := by
  induction fuel generalizing dev with
  | zero => omega
  | succ fuel ih =>
      by_cases hfull : dev.rxQueue.length ≥ dev.queueCapacity
      · have hlen : dev.rxQueue.tail.length = dev.rxQueue.length - 1 := List.length_tail
        have hrest := @ih { dev with rxQueue := dev.rxQueue.tail, rxDrops := dev.rxDrops + 1 } h
          (by dsimp only; omega)
        have hcount : dev.rxQueue.length + 1 - dev.queueCapacity =
            dev.rxQueue.length - 1 + 1 - dev.queueCapacity + 1 := by omega
        rw [dropOldest, if_pos hfull, hrest]
        simp only [hlen, hcount]
        rw [← List.drop_one, List.drop_drop, Nat.add_comm 1, Nat.add_assoc, Nat.add_comm 1]
      · have hzero : dev.rxQueue.length + 1 - dev.queueCapacity = 0 := by omega
        rw [dropOldest, if_neg hfull, hzero]
        rfl

theorem injectPacket_eq (dev : VirtualDevice) (data : Packet) :
    dev.injectPacket data = dev.injectPacketOwned data := rfl

theorem injectPacketOwned_ok (h : 0 < dev.queueCapacity) (data : Packet) :
    dev.injectPacketOwned data =
      .ok { dev with
        rxQueue :=
          (dev.rxQueue ++ [data]).drop (dev.rxQueue.length + 1 - dev.queueCapacity)
        rxDrops := dev.rxDrops + (dev.rxQueue.length + 1 - dev.queueCapacity) } := by
  have hle : dev.rxQueue.length + 1 - dev.queueCapacity ≤ dev.rxQueue.length := by omega
  rw [injectPacketOwned, dropOldest_ok h (Nat.lt_succ_self _), Outcome.ok_bind,
    List.drop_append_of_le_length hle]

theorem injectPacketOwned_hang (h : dev.queueCapacity = 0) (data : Packet) :
    dev.injectPacketOwned data = .error .hang := by
  rw [injectPacketOwned, dropOldest_hang h, Outcome.error_bind]

theorem receive_capacity {packet : Packet} (h : dev.receive = some (packet, dev')) :
    dev'.queueCapacity = dev.queueCapacity := by
  simp only [receive] at h
  split at h
  · split at h
    · cases h
    · cases h
      rfl
  · cases h

end VirtualDevice

namespace DeviceRun

variable {r r' : DeviceRun} {op : DeviceOp} {queueCapacity : Nat}

structure Bounded (queueCapacity : Nat) (r : DeviceRun) : Prop where
  capacity : r.device.queueCapacity = queueCapacity
  rx : r.device.rxQueue.length ≤ queueCapacity
  tx : r.device.txQueue.length + r.taken.length ≤ queueCapacity

theorem injected_bounded (h : Bounded queueCapacity r) (hpos : 0 < queueCapacity) {data : Packet}
    (hs : r.injected (r.device.injectPacketOwned data) = some r') : Bounded queueCapacity r' := by
  rw [VirtualDevice.injectPacketOwned_ok (h.capacity ▸ hpos)] at hs
  cases hs
  refine ⟨h.capacity, ?_, h.tx⟩
  have hcap := h.capacity
  simp only [List.length_drop, List.length_append, List.length_singleton]
  omega

theorem received_bounded (h : Bounded queueCapacity r) {packet : Packet} {device : VirtualDevice}
    (hr : r.device.receive = some (packet, device)) (token : Bool) :
    Bounded queueCapacity { r with device, token } := by
  obtain ⟨hrx, htx⟩ := VirtualDevice.receive_some hr
  have hlen := h.rx
  rw [hrx, List.length_cons] at hlen
  refine ⟨(VirtualDevice.receive_capacity hr).trans h.capacity, Nat.le_of_succ_le hlen, ?_⟩
  rw [htx]
  exact h.tx

theorem consumed_bounded (h : Bounded queueCapacity r) (packet : Packet) :
    Bounded queueCapacity ⟨r.device.consume packet, false, []⟩ := by
  have hcap := h.capacity
  have htx := h.tx
  simp only [VirtualDevice.consume]
  split
  · exact ⟨h.capacity, h.rx, Nat.le_trans (Nat.le_add_right _ _) htx⟩
  · next hroom =>
      refine ⟨h.capacity, h.rx, ?_⟩
      simp only [List.length_append, List.length_singleton, List.length_nil]
      omega

theorem taken_bounded (h : Bounded queueCapacity r) {packet : Packet} {device : VirtualDevice}
    (ht : r.device.takePacket = some (packet, device)) :
    Bounded queueCapacity { r with device, taken := packet :: r.taken } := by
  have htx := h.tx
  cases hq : r.device.txQueue with
  | nil =>
      rw [VirtualDevice.takePacket, hq] at ht
      cases ht
  | cons p ps =>
      rw [VirtualDevice.takePacket, hq] at ht
      cases ht
      refine ⟨h.capacity, h.rx, ?_⟩
      rw [hq, List.length_cons] at htx
      simp only [List.length_cons]
      omega

theorem requeued_bounded (h : Bounded queueCapacity r) {packet : Packet}
    (hmem : packet ∈ r.taken) :
    Bounded queueCapacity { r with
      device := r.device.requeuePacketFront packet, taken := r.taken.erase packet } := by
  have htx := h.tx
  have hlen := List.length_erase_add_one hmem
  refine ⟨h.capacity, h.rx, ?_⟩
  simp only [VirtualDevice.requeuePacketFront, List.length_cons]
  omega

theorem step_bounded (hpos : 0 < queueCapacity) (h : Bounded queueCapacity r)
    (hs : r.step op = some r') : Bounded queueCapacity r' := by
  cases op with
  | injectPacket data | injectPacketOwned data =>
      simp only [step] at hs
      split at hs
      · cases hs
      · exact injected_bounded h hpos hs
  | receive =>
      simp only [step] at hs
      split at hs
      · cases hs
      · split at hs
        · cases hs
          exact h
        · next hr =>
            cases hs
            exact received_bounded h hr true
  | transmit =>
      simp only [step] at hs
      split at hs
      · cases hs
      · cases hs
        exact ⟨h.capacity, h.rx, h.tx⟩
  | consume packet =>
      simp only [step] at hs
      split at hs
      · cases hs
        exact consumed_bounded h packet
      · cases hs
  | dropToken =>
      simp only [step] at hs
      split at hs
      · cases hs
        exact ⟨h.capacity, h.rx, h.tx⟩
      · cases hs
  | takePacket =>
      simp only [step] at hs
      split at hs
      · cases hs
      · split at hs
        · cases hs
          exact h
        · next ht =>
            cases hs
            exact taken_bounded h ht
  | requeuePacketFront packet =>
      simp only [step] at hs
      split at hs
      · next hg =>
          cases hs
          exact requeued_bounded h (of_decide_eq_true (Bool.and_elim_right hg))
      · cases hs

theorem Bounded.wellKept (h : Bounded queueCapacity r) (hpos : 0 < queueCapacity) :
    WellKept queueCapacity r where
  capacity := h.capacity
  rx := h.rx
  tx := Nat.le_trans (Nat.le_add_right _ _) h.tx
  injects := fun data =>
    have hok := VirtualDevice.injectPacketOwned_ok (h.capacity ▸ hpos) data
    ⟨_, (VirtualDevice.injectPacket_eq _ _).trans hok, hok, rfl, rfl, rfl⟩
  receive := by
    intro hfull
    have hno : r.device.hasTxCapacity = false :=
      decide_eq_false (by rw [hfull, h.capacity]; exact Nat.lt_irrefl _)
    simp only [VirtualDevice.receive, hno, Bool.false_eq_true, if_false]

theorem device_queues_kept (mtu : Nat) (var : Option String) :
    (∀ r, Run.Reaches step Run.Any (start mtu (StackTunables.fromEnv var).deviceQueueCapacity) r →
      WellKept (StackTunables.fromEnv var).deviceQueueCapacity r) ↔
    (StackTunables.fromEnv var).deviceQueueCapacity ≠ 0 := by
  constructor
  · intro hall hzero
    obtain ⟨dev', _, hinject, _⟩ := (hall _ (.refl _)).injects []
    rw [VirtualDevice.injectPacketOwned_hang hzero] at hinject
    cases hinject
  · intro hne r hr
    have hpos := Nat.pos_of_ne_zero hne
    have hbounded : Bounded (StackTunables.fromEnv var).deviceQueueCapacity r := by
      refine hr.invariant (fun _ _ _ hi _ hs => step_bounded hpos hi hs) ⟨rfl, ?_, ?_⟩
      · exact Nat.zero_le _
      · exact Nat.zero_le _
    exact hbounded.wellKept hpos

theorem device_capacity_zero :
    (StackTunables.fromEnv (some "0")).deviceQueueCapacity = 0 ∧
      (VirtualDevice.new 1280 0).injectPacketOwned [1] = .error .hang ∧
      ¬ WellKept 0 (start 1280 0) := by
  have hhang : (VirtualDevice.new 1280 0).injectPacketOwned [1] = .error .hang :=
    VirtualDevice.injectPacketOwned_hang rfl [1]
  refine ⟨by decide, hhang, fun h => ?_⟩
  obtain ⟨dev', _, hinject, _⟩ := h.injects [1]
  change (VirtualDevice.new 1280 0).injectPacketOwned [1] = .ok dev' at hinject
  rw [hhang] at hinject
  cases hinject

end DeviceRun

end Usque
