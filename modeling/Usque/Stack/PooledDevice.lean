import Usque.Stack.PoolRuns

namespace Usque

namespace VirtualDevice

def dropOne (dev : VirtualDevice) : VirtualDevice :=
  { dev with rxQueue := dev.rxQueue.tail, rxDrops := dev.rxDrops + 1 }

theorem injectPacketOwned_turn (dev : VirtualDevice)
    (h : dev.rxQueue.length ≥ dev.queueCapacity) (data : Packet) :
    dev.dropOne.injectPacketOwned data = dev.injectPacketOwned data := by
  have hturn (fuel : Nat) : dropOldest (fuel + 1) dev = dropOldest fuel dev.dropOne := if_pos h
  cases hq : dev.rxQueue with
  | nil =>
      rw [hq] at h
      have hzero : dev.queueCapacity = 0 := Nat.le_zero.mp h
      have hzero' : dev.dropOne.queueCapacity = 0 := hzero
      rw [injectPacketOwned_hang hzero, injectPacketOwned_hang hzero']
  | cons old rxQueue =>
      have hlen : dev.dropOne.rxQueue.length + 1 = dev.rxQueue.length := by
        rw [dropOne, hq, List.tail_cons, List.length_cons]
      rw [injectPacketOwned, injectPacketOwned, hturn, hlen]

theorem injectPacketOwned_room (dev : VirtualDevice)
    (h : ¬ dev.rxQueue.length ≥ dev.queueCapacity) (data : Packet) :
    dev.injectPacketOwned data = .ok { dev with rxQueue := dev.rxQueue ++ [data] } := by
  rw [injectPacketOwned, dropOldest, if_neg h]
  rfl

end VirtualDevice

-- What a call does to the device whose packets are plain.
def PoolLabel.onDevice : PoolLabel → VirtualDevice → Outcome VirtualDevice
  | .injectPacket data, dev => dev.injectPacket data
  | .injectPacketOwned data, dev => dev.injectPacketOwned data.data
  | .receive, dev => .ok (dev.receive.elim dev Prod.snd)
  | .consumeTxToken packet, dev => .ok (dev.consume packet)
  | .takePacket, dev => .ok (dev.takePacket.elim dev Prod.snd)
  | .requeuePacketFront packet, dev => .ok (dev.requeuePacketFront packet.data)
  | _, dev => .ok dev

namespace PoolRun

variable {B : BytesAlloc} {s t : PoolRun} {l : PoolLabel}

-- The device as it is once the injection under way is done.
def deviceOf (s : PoolRun) : Outcome VirtualDevice :=
  match s.injecting with
  | none => .ok s.device.forget
  | some injection => s.device.forget.injectPacketOwned injection.data

-- The transmit token keeps the device from being called.
structure Borrowed (s : PoolRun) : Prop where
  idle : s.txToken ≠ none → s.injecting = none
  capacity : ∀ token ∈ s.txToken, token.queueCapacity = s.device.queueCapacity

theorem inject_device {injection : Injection} (hi : s.injecting = some injection) :
    (s.inject B injection).deviceOf = s.deviceOf := by
  have hs : s.deviceOf = s.device.forget.injectPacketOwned injection.data := by
    rw [deviceOf, hi]
  simp only [inject]
  by_cases hfull : s.device.rxQueue.length ≥ s.device.queueCapacity
  · have hturn := VirtualDevice.injectPacketOwned_turn s.device.forget
      (by simpa only [PooledDevice.forget, List.length_map] using hfull) injection.data
    rw [if_pos hfull, hs, ← hturn]
    cases hq : s.device.rxQueue with
    | nil =>
        simp only [deviceOf, hi, PooledDevice.forget, VirtualDevice.dropOne, hq, List.map_nil,
          List.tail_nil]
    | cons old rxQueue =>
        simp only [deviceOf, gave, hi, PooledDevice.forget, VirtualDevice.dropOne, hq,
          List.map_cons, List.tail_cons]
  · have hroom := VirtualDevice.injectPacketOwned_room s.device.forget
      (by simpa only [PooledDevice.forget, List.length_map] using hfull) injection.data
    rw [if_neg hfull, hs, hroom]
    cases injection with
    | copied data =>
        simp only [deviceOf, PooledDevice.forget, List.map_append, List.map_cons, List.map_nil,
          BytesMut.extendFromSlice_data, PooledDevice.getBuffer, popBuffer_data, List.nil_append,
          Injection.data]
    | owned data =>
        simp only [deviceOf, PooledDevice.forget, List.map_append, List.map_cons, List.map_nil,
          Injection.data]

theorem receive_device : (s.receive B).device.forget =
    s.device.forget.receive.elim s.device.forget Prod.snd := by
  simp only [receive, VirtualDevice.receive, PooledDevice.hasTxCapacity_forget]
  by_cases hcap : s.device.hasTxCapacity
  · rw [if_pos hcap, if_pos hcap]
    cases hq : s.device.rxQueue with
    | nil => simp only [PooledDevice.forget, hq, List.map_nil, Option.elim_none]
    | cons packet rxQueue =>
        simp only [PooledDevice.forget, hq, List.map_cons, Option.elim_some]
  · rw [if_neg hcap, if_neg hcap]
    rfl

theorem consumeTxToken_device {token : VirtualTxToken}
    (h : token.queueCapacity = s.device.queueCapacity) (packet : Packet) :
    (s.consumeTxToken B token packet).device.forget = s.device.forget.consume packet := by
  have hfull : token.isFull s.device.txQueue =
      decide (s.device.forget.txQueue.length ≥ s.device.forget.queueCapacity) := by
    simp only [VirtualTxToken.isFull, PooledDevice.forget, List.length_map, h]
  simp only [consumeTxToken, hfull, decide_eq_true_eq, VirtualDevice.consume]
  split
  · rfl
  · simp only [PooledDevice.forget, List.map_append, List.map_cons, List.map_nil,
      VirtualTxToken.filled_data]

theorem takePacket_device : s.takePacket.device.forget =
    s.device.forget.takePacket.elim s.device.forget Prod.snd := by
  cases hq : s.device.txQueue with
  | nil =>
      simp only [takePacket, PooledDevice.forget, VirtualDevice.takePacket, hq, List.tail_nil,
        List.map_nil, Option.elim_none]
  | cons packet txQueue =>
      simp only [takePacket, PooledDevice.forget, VirtualDevice.takePacket, hq, List.tail_cons,
        List.map_cons, Option.elim_some]

theorem deviceOf_idle (h : s.injecting = none) : s.deviceOf = .ok s.device.forget := by
  rw [deviceOf, h]

theorem idle_injecting (h : s.idle = true) : s.injecting = none :=
  Option.isNone_iff_eq_none.mp (Bool.and_elim_left h)

theorem deviceOf_called {u : PoolRun} (hs : s.injecting = none) (hu : u.injecting = none)
    (h : l.onDevice s.device.forget = .ok u.device.forget) :
    u.deviceOf = s.deviceOf >>= l.onDevice := by
  rw [deviceOf_idle hs, deviceOf_idle hu, Outcome.ok_bind, h]

-- With the capacities forgotten a step is the call on the plain device.
theorem step_device (hs : s.Borrowed) (h : s.step B l = some t) :
    t.deviceOf = s.deviceOf >>= l.onDevice := by
  cases l with
  | takePooledBuffer _ | returnPooledBuffer _ _ _ =>
      cases h
      exact (bind_pure _).symm
  | inject =>
      obtain ⟨injection, hi, rfl⟩ := Option.map_eq_some_iff.mp h
      exact (inject_device hi).trans (bind_pure _).symm
  | dropRxToken _ | dropTxToken =>
      obtain ⟨_, _, rfl⟩ := Option.map_eq_some_iff.mp h
      exact (bind_pure _).symm
  | consumeTxToken packet =>
      obtain ⟨token, htoken, rfl⟩ := Option.map_eq_some_iff.mp h
      have hi : s.injecting = none := hs.idle (by rw [htoken]; exact Option.some_ne_none _)
      have hi' : (s.consumeTxToken B token packet).injecting = none := by
        simp only [consumeTxToken]
        split <;> exact hi
      exact deviceOf_called hi hi'
        (congrArg Except.ok (consumeTxToken_device (hs.capacity token htoken) packet).symm)
  | injectPacket _ | injectPacketOwned _ =>
      obtain ⟨hidle, h⟩ := Option.ite_none_right_eq_some.mp h
      cases h
      rw [deviceOf_idle (idle_injecting hidle)]
      rfl
  | requeuePacketFront packet =>
      obtain ⟨hidle, h⟩ := Option.ite_none_right_eq_some.mp h
      cases h
      have hi := idle_injecting hidle
      exact deviceOf_called hi hi rfl
  | takePacket =>
      obtain ⟨hidle, h⟩ := Option.ite_none_right_eq_some.mp h
      cases h
      have hi := idle_injecting hidle
      exact deviceOf_called hi hi (congrArg Except.ok takePacket_device.symm)
  | receive =>
      obtain ⟨hidle, h⟩ := Option.ite_none_right_eq_some.mp h
      cases h
      have hi := idle_injecting hidle
      have hi' : (s.receive B).injecting = none := by
        simp only [receive]
        split
        · split <;> exact hi
        · exact hi
      exact deviceOf_called hi hi' (congrArg Except.ok receive_device.symm)
  | transmit =>
      obtain ⟨hidle, h⟩ := Option.ite_none_right_eq_some.mp h
      cases h
      have hdev : (s.transmit B).deviceOf = s.deviceOf := by
        simp only [transmit]
        split <;> rfl
      exact hdev.trans (bind_pure _).symm
  | recycleTxBuffer _ =>
      obtain ⟨_, h⟩ := Option.ite_none_right_eq_some.mp h
      cases h
      exact (bind_pure _).symm

theorem borrowed_of_none (h : s.txToken = none) : s.Borrowed where
  idle := fun hne => absurd h hne
  capacity := fun token htoken => by
    rw [h] at htoken
    cases htoken

theorem idle_txToken (h : s.idle = true) : s.txToken = none :=
  Option.isNone_iff_eq_none.mp (Bool.and_elim_right h)

theorem Borrowed.txToken_none (hs : s.Borrowed) {injection : Injection}
    (hi : s.injecting = some injection) : s.txToken = none := by
  cases htx : s.txToken with
  | none => rfl
  | some token =>
      have hnone := hs.idle (by rw [htx]; exact Option.some_ne_none _)
      rw [hi] at hnone
      cases hnone

theorem inject_txToken (injection : Injection) : (s.inject B injection).txToken = s.txToken := by
  simp only [inject]
  split
  · split <;> rfl
  · split <;> rfl

theorem receive_borrowed (hidle : s.idle = true) : (s.receive B).Borrowed := by
  have hi := idle_injecting hidle
  simp only [receive]
  split
  · split
    · exact borrowed_of_none (idle_txToken hidle)
    · exact ⟨fun _ => hi, fun token htoken => by cases htoken; rfl⟩
  · exact borrowed_of_none (idle_txToken hidle)

theorem transmit_borrowed (hidle : s.idle = true) : (s.transmit B).Borrowed := by
  have hi := idle_injecting hidle
  simp only [transmit]
  split
  · exact ⟨fun _ => hi, fun token htoken => by cases htoken; rfl⟩
  · exact borrowed_of_none (idle_txToken hidle)

theorem step_borrowed (hs : s.Borrowed) (h : s.step B l = some t) : t.Borrowed := by
  cases l with
  | takePooledBuffer _ | returnPooledBuffer _ _ _ =>
      cases h
      exact ⟨hs.idle, hs.capacity⟩
  | inject =>
      obtain ⟨injection, hi, rfl⟩ := Option.map_eq_some_iff.mp h
      exact borrowed_of_none ((inject_txToken injection).trans (hs.txToken_none hi))
  | dropRxToken _ =>
      obtain ⟨_, _, rfl⟩ := Option.map_eq_some_iff.mp h
      exact ⟨hs.idle, hs.capacity⟩
  | dropTxToken =>
      obtain ⟨_, _, rfl⟩ := Option.map_eq_some_iff.mp h
      exact borrowed_of_none rfl
  | consumeTxToken packet =>
      obtain ⟨token, _, rfl⟩ := Option.map_eq_some_iff.mp h
      refine borrowed_of_none ?_
      simp only [consumeTxToken]
      split <;> rfl
  | injectPacket _ | injectPacketOwned _ | requeuePacketFront _ | takePacket | recycleTxBuffer _ =>
      obtain ⟨hidle, h⟩ := Option.ite_none_right_eq_some.mp h
      have htx := idle_txToken hidle
      cases h
      exact borrowed_of_none htx
  | receive =>
      obtain ⟨hidle, h⟩ := Option.ite_none_right_eq_some.mp h
      cases h
      exact receive_borrowed hidle
  | transmit =>
      obtain ⟨hidle, h⟩ := Option.ite_none_right_eq_some.mp h
      cases h
      exact transmit_borrowed hidle

theorem exec_device {ls : List PoolLabel} (hs : s.Borrowed)
    (h : Run.exec (step B) s ls = some t) :
    t.deviceOf = ls.foldl (fun dev l => dev >>= l.onDevice) s.deviceOf := by
  induction ls generalizing s with
  | nil =>
      cases h
      rfl
  | cons l ls ih =>
      obtain ⟨u, hu, ht⟩ := Option.bind_eq_some_iff.mp h
      rw [List.foldl_cons, ← step_device hs hu]
      exact ih (step_borrowed hs hu) ht

-- A run of the device with pooled buffers is the run of the plain device over the same calls.
theorem pooled_device_refines (mtu : Nat) (tunables : PooledTunables) (ls : List PoolLabel)
    (h : Run.exec (step B) (start B mtu tunables) ls = some t) :
    t.deviceOf = ls.foldl (fun dev l => dev >>= l.onDevice)
      (.ok (.new mtu tunables.deviceQueueCapacity)) :=
  exec_device (borrowed_of_none rfl) h

end PoolRun

end Usque
