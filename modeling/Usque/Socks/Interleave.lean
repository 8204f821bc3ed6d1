import Usque.Lib.Alternate
import Usque.Lib.Fault
import Usque.Stack.Smoltcp

namespace Usque

def IpAddress.isIpv6 : IpAddress → Bool
  | .ipv4 _ => false
  | .ipv6 _ => true

def pushNext (addresses : List IpAddress) (count idx : Nat) (result : List IpAddress) :
    Outcome (Nat × List IpAddress) :=
  if idx < count then
    match addresses[idx]? with
    | some ip => .ok (idx + 1, result ++ [ip])
    | none => .error .panic
  else .ok (idx, result)

def interleaveFrom (addresses : List IpAddress) (v6Count : Nat) :
    Nat → Nat → Nat → List IpAddress → Outcome (List IpAddress)
  | 0, _, _, _ => .error .hang
  | fuel + 1, v6Idx, v4Idx, result =>
      if v6Idx < v6Count ∨ v4Idx < addresses.length then do
        let (v6Idx, result) ← pushNext addresses v6Count v6Idx result
        let (v4Idx, result) ← pushNext addresses addresses.length v4Idx result
        interleaveFrom addresses v6Count fuel v6Idx v4Idx result
      else .ok result

def interleaveAddresses (addresses : List IpAddress) : Outcome (List IpAddress) :=
  if addresses.length ≤ 1 then .ok addresses
  else
    let v6Count := (addresses.filter (·.isIpv6)).length
    let v4Count := addresses.length - v6Count
    if v6Count = 0 ∨ v4Count = 0 then .ok addresses
    else
      -- The stable sort by whether an address is of IPv4.
      let addresses := addresses.mergeSort (fun a b => a.isIpv6 || !b.isIpv6)
      interleaveFrom addresses v6Count (addresses.length + 1) 0 v6Count []

open Alternate (alternate)

-- What is left of one part of the list, and the address that comes off it.
theorem pushNext_nil {addresses : List IpAddress} {count idx : Nat} (hidx : count ≤ idx)
    (result : List IpAddress) : pushNext addresses count idx result = .ok (idx, result) :=
  if_neg (Nat.not_lt.mpr hidx)

theorem pushNext_cons {addresses xs rest : List IpAddress} {ip : IpAddress} {count idx : Nat}
    (hdrop : addresses.drop idx = ip :: xs ++ rest) (hidx : idx + (xs.length + 1) = count)
    (result : List IpAddress) :
    pushNext addresses count idx result = .ok (idx + 1, result ++ [ip]) ∧
      addresses.drop (idx + 1) = xs ++ rest := by
  have hget : addresses[idx]? = some ip := by
    rw [← Nat.add_zero idx, ← List.getElem?_drop, hdrop]
    rfl
  constructor
  · rw [pushNext, if_pos (by omega), hget]
  · rw [← List.drop_drop, hdrop]
    rfl

theorem interleaveFrom_alternate {addresses rest : List IpAddress} {v6Count : Nat}
    (fuel : Nat) {v6Idx v4Idx : Nat} {xs ys : List IpAddress} (result : List IpAddress)
    (hfuel : xs.length + ys.length < fuel)
    (hx : addresses.drop v6Idx = xs ++ rest) (hv6 : v6Idx + xs.length = v6Count)
    (hy : addresses.drop v4Idx = ys) (hv4 : v4Idx + ys.length = addresses.length) :
    interleaveFrom addresses v6Count fuel v6Idx v4Idx result =
      .ok (result ++ alternate xs ys) := by
  induction fuel generalizing v6Idx v4Idx xs ys result with
  | zero => omega
  | succ fuel ih =>
      simp only [interleaveFrom]
      cases xs with
      | nil =>
          have hstop : v6Count ≤ v6Idx := Nat.le_of_eq hv6.symm
          cases ys with
          | nil =>
              have hdone : ¬ (v6Idx < v6Count ∨ v4Idx < addresses.length) := by
                simp only [List.length_nil] at hv6 hv4
                omega
              rw [if_neg hdone]
              exact congrArg _ (List.append_nil result).symm
          | cons y ys =>
              have hlast : addresses.drop v4Idx = y :: ys ++ [] := by rw [hy, List.append_nil]
              obtain ⟨hpush, hy'⟩ := pushNext_cons hlast hv4 result
              rw [List.append_nil] at hy'
              simp only [List.length_cons, List.length_nil] at hv4 hfuel
              rw [if_pos (.inr (by omega)), pushNext_nil hstop, Outcome.ok_bind, hpush,
                Outcome.ok_bind, ih _ (by simpa using hfuel) hx hv6 hy' (by omega)]
              simp only [alternate, List.append_assoc, List.singleton_append]
      | cons x xs =>
          obtain ⟨hpush, hx'⟩ := pushNext_cons hx hv6 result
          simp only [List.length_cons] at hv6 hfuel
          cases ys with
          | nil =>
              have hstop : addresses.length ≤ v4Idx := Nat.le_of_eq hv4.symm
              rw [if_pos (.inl (by omega)), hpush, Outcome.ok_bind, pushNext_nil hstop,
                Outcome.ok_bind, ih _ (by simpa using hfuel) hx' (by omega) hy hv4]
              simp only [alternate, Alternate.alternate_nil, List.append_assoc,
                List.singleton_append]
          | cons y ys =>
              have hlast : addresses.drop v4Idx = y :: ys ++ [] := by rw [hy, List.append_nil]
              obtain ⟨hpush', hy'⟩ := pushNext_cons hlast hv4 (result ++ [x])
              rw [List.append_nil] at hy'
              simp only [List.length_cons] at hv4 hfuel
              rw [if_pos (.inl (by omega)), hpush, Outcome.ok_bind, hpush', Outcome.ok_bind,
                ih _ (by omega) hx' (by omega) hy' (by omega)]
              simp only [alternate, List.append_assoc, List.cons_append, List.nil_append]

theorem interleaveAddresses_eq (addresses : List IpAddress) :
    interleaveAddresses addresses =
      .ok (alternate (addresses.filter (·.isIpv6)) (addresses.filter (!·.isIpv6))) := by
  have hsort := Alternate.mergeSort_first IpAddress.isIpv6 addresses
  have hcount : addresses.length =
      (addresses.filter (·.isIpv6)).length + (addresses.filter (!·.isIpv6)).length :=
    List.length_eq_length_filter_add _
  have hone : addresses.filter (·.isIpv6) = [] ∨ addresses.filter (!·.isIpv6) = [] →
      (.ok addresses : Outcome (List IpAddress)) =
        .ok (alternate (addresses.filter (·.isIpv6)) (addresses.filter (!·.isIpv6))) := by
    rintro (hnil | hnil)
    · have hall : addresses.filter (!·.isIpv6) = addresses := by
        refine List.filter_eq_self.mpr fun ip hip => ?_
        have := List.filter_eq_nil_iff.mp hnil ip hip
        simpa using this
      rw [hnil, hall]
      rfl
    · have hall : addresses.filter (·.isIpv6) = addresses := by
        refine List.filter_eq_self.mpr fun ip hip => ?_
        have := List.filter_eq_nil_iff.mp hnil ip hip
        simpa using this
      rw [hnil, hall, Alternate.alternate_nil]
  simp only [interleaveAddresses]
  split_ifs with hshort hsame
  · refine hone ?_
    rw [← List.length_eq_zero_iff, ← List.length_eq_zero_iff]
    omega
  · refine hone (hsame.imp List.length_eq_zero_iff.mp fun hv4 => ?_)
    rw [← List.length_eq_zero_iff]
    omega
  · have hlen : (addresses.mergeSort (Alternate.first IpAddress.isIpv6)).length =
        addresses.length := List.length_mergeSort _
    have hdrop : (addresses.mergeSort (Alternate.first IpAddress.isIpv6)).drop
        (addresses.filter (·.isIpv6)).length = addresses.filter (!·.isIpv6) := by
      rw [hsort]
      exact List.drop_left
    have hstart : (addresses.mergeSort (Alternate.first IpAddress.isIpv6)).drop 0 =
        addresses.filter (·.isIpv6) ++ addresses.filter (!·.isIpv6) := hsort
    have hfrom := interleaveFrom_alternate (addresses.length + 1) [] (Nat.lt_succ_of_le hcount.ge)
      hstart (Nat.zero_add _) hdrop (by rw [hlen]; exact hcount.symm)
    rw [List.nil_append, ← hlen] at hfrom
    exact hfrom

theorem interleaveAddresses_ok (addresses : List IpAddress) :
    ∃ out, interleaveAddresses addresses = .ok out ∧ out.length = addresses.length := by
  refine ⟨_, interleaveAddresses_eq addresses, ?_⟩
  rw [Alternate.length_alternate]
  exact (List.length_eq_length_filter_add IpAddress.isIpv6).symm

theorem addresses_interleaved (addresses : List IpAddress) :
    ∃ out, interleaveAddresses addresses = .ok out ∧ out.Perm addresses ∧
      out.filter (·.isIpv6) = addresses.filter (·.isIpv6) ∧
      out.filter (!·.isIpv6) = addresses.filter (!·.isIpv6) ∧
      (∀ i, i < 2 * min (addresses.filter (·.isIpv6)).length
          (addresses.filter (!·.isIpv6)).length →
        (out[i]?).map (·.isIpv6) = some (decide (i % 2 = 0))) ∧
      ∀ ip ∈ out.drop (2 * min (addresses.filter (·.isIpv6)).length
          (addresses.filter (!·.isIpv6)).length),
        ip.isIpv6 = decide ((addresses.filter (!·.isIpv6)).length <
          (addresses.filter (·.isIpv6)).length) := by
  have hv6 : ∀ ip ∈ addresses.filter (·.isIpv6), ip.isIpv6 = true :=
    fun ip hip => (List.mem_filter.mp hip).2
  have hv4 : ∀ ip ∈ addresses.filter (!·.isIpv6), ip.isIpv6 = false := by
    intro ip hip
    simpa using (List.mem_filter.mp hip).2
  obtain ⟨hfirst, hsecond⟩ := Alternate.filter_alternate hv6 hv4
  obtain ⟨hturns, hrest⟩ := Alternate.alternate_turns hv6 hv4
  have hperm := (Alternate.alternate_perm (addresses.filter (·.isIpv6))
    (addresses.filter (!·.isIpv6))).trans (List.filter_append_perm _ addresses)
  exact ⟨_, interleaveAddresses_eq addresses, hperm, hfirst, hsecond, hturns, hrest⟩

end Usque
