import Usque.Lib.Fault
import Usque.Stack.Smoltcp

namespace Usque

structure VirtualDevice where
  rxQueue : List Packet
  txQueue : List Packet
  mtu : Nat
  queueCapacity : Nat
  rxDrops : Nat
  txDrops : Nat
deriving DecidableEq, Repr

namespace VirtualDevice

def new (mtu queueCapacity : Nat) : VirtualDevice :=
  { rxQueue := [], txQueue := [], mtu, queueCapacity, rxDrops := 0, txDrops := 0 }

def dropOldest : Nat → VirtualDevice → Outcome VirtualDevice
  | 0, _ => .error .hang
  | fuel + 1, dev =>
      if dev.rxQueue.length ≥ dev.queueCapacity then
        dropOldest fuel { dev with rxQueue := dev.rxQueue.tail, rxDrops := dev.rxDrops + 1 }
      else
        .ok dev

def injectPacketOwned (dev : VirtualDevice) (data : Packet) : Outcome VirtualDevice := do
  let dev ← dropOldest (dev.rxQueue.length + 1) dev
  .ok { dev with rxQueue := dev.rxQueue ++ [data] }

def takePacket (dev : VirtualDevice) : Option (Packet × VirtualDevice) :=
  match dev.txQueue with
  | [] => none
  | p :: ps => some (p, { dev with txQueue := ps })

def requeuePacketFront (dev : VirtualDevice) (packet : Packet) : VirtualDevice :=
  { dev with txQueue := packet :: dev.txQueue }

def queueLengths (dev : VirtualDevice) : Nat × Nat := (dev.rxQueue.length, dev.txQueue.length)

def hasTxCapacity (dev : VirtualDevice) : Bool := dev.txQueue.length < dev.queueCapacity

def receive (dev : VirtualDevice) : Option (Packet × VirtualDevice) :=
  if dev.hasTxCapacity then
    match dev.rxQueue with
    | [] => none
    | p :: ps => some (p, { dev with rxQueue := ps })
  else
    none

def consume (dev : VirtualDevice) (packet : Packet) : VirtualDevice :=
  if dev.txQueue.length ≥ dev.queueCapacity then
    { dev with txDrops := dev.txDrops + 1 }
  else
    { dev with txQueue := dev.txQueue ++ [packet] }

theorem receive_some {dev dev' : VirtualDevice} {packet : Packet}
    (h : dev.receive = some (packet, dev')) :
    dev.rxQueue = packet :: dev'.rxQueue ∧ dev'.txQueue = dev.txQueue := by
  simp only [receive] at h
  split at h
  · split at h
    · simp at h
    · next hq => cases h; exact ⟨hq, rfl⟩
  · simp at h

@[simp] theorem consume_rxQueue (dev : VirtualDevice) (packet : Packet) :
    (dev.consume packet).rxQueue = dev.rxQueue := by
  simp only [consume]
  split <;> rfl

end VirtualDevice

end Usque
