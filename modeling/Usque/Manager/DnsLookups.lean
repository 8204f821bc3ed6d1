import Usque.Manager.DnsCache

namespace Usque

-- The two passes of dns_cache_get over an entry's records.
def countValid (now : Time) : List (IpAddress × Time) → Nat → Nat → Nat × Nat
  | [], v6Count, v4Count => (v6Count, v4Count)
  | (ip, exp) :: records, v6Count, v4Count =>
      if now < exp then
        match ip with
        | .ipv6 _ => countValid now records (v6Count + 1) v4Count
        | .ipv4 _ => countValid now records v6Count (v4Count + 1)
      else countValid now records v6Count v4Count

def findTarget (now : Time) (targetV6 : Bool) (targetIdx : Nat) :
    List (IpAddress × Time) → Nat → Option IpAddress
  | [], _ => none
  | (ip, exp) :: records, idx =>
      if now < exp then
        if isIpv6 ip = targetV6 then
          if idx = targetIdx then some ip
          else findTarget now targetV6 targetIdx records (idx + 1)
        else findTarget now targetV6 targetIdx records idx
      else findTarget now targetV6 targetIdx records idx

def selectTarget (preferIpv6 : Bool) (v6Count v4Count : Nat) : Bool × Nat :=
  if preferIpv6 then if v6Count > 0 then (true, v6Count) else (false, v4Count)
  else if v4Count > 0 then (false, v4Count)
  else (true, v6Count)

-- `random_range(0..count)`, which panics on an empty range.
def randomRange (draw count : Nat) : Outcome Nat :=
  if count = 0 then .error .panic else .ok (draw % count)

def dnsCacheGetPasses (cache : DnsCache) (now : Time) (draw : Nat) (domain : String)
    (preferIpv6 : Bool) : Outcome (Option IpAddress) :=
  match cache.lookup domain with
  | none => .ok none
  | some value =>
      let (v6Count, v4Count) := countValid now value.records 0 0
      if v6Count + v4Count = 0 then .ok none
      else do
        let (targetV6, targetCount) := selectTarget preferIpv6 v6Count v4Count
        let targetIdx ← randomRange draw targetCount
        .ok (findTarget now targetV6 targetIdx value.records 0)

variable {now : Time} {value : DnsCacheValue} {ips : List IpAddress} {preferIpv6 : Bool}

theorem countValid_eq (now : Time) (records : List (IpAddress × Time)) (v6Count v4Count : Nat) :
    countValid now records v6Count v4Count =
      (v6Count + ((validIps now ⟨records⟩).filter isIpv6).length,
        v4Count + ((validIps now ⟨records⟩).filter (!isIpv6 ·)).length) := by
  induction records generalizing v6Count v4Count with
  | nil => rfl
  | cons r records ih =>
      obtain ⟨ip, exp⟩ := r
      simp only [validIps] at ih ⊢
      by_cases hexp : now < exp
      · cases ip with
        | ipv4 a =>
            have hv4 : isIpv6 (.ipv4 a) = false := rfl
            simp only [countValid, hexp, if_true, ih, decide_true, List.filter_cons, List.map_cons,
              hv4, Bool.not_false, Bool.false_eq_true, if_false, List.length_cons]
            rw [Nat.add_assoc, Nat.add_comm 1]
        | ipv6 a =>
            have hv6 : isIpv6 (.ipv6 a) = true := rfl
            simp only [countValid, hexp, if_true, ih, decide_true, List.filter_cons, List.map_cons,
              hv6, Bool.not_true, Bool.false_eq_true, if_false, List.length_cons]
            rw [Nat.add_assoc, Nat.add_comm 1]
      · simp only [countValid, hexp, if_false, ih, decide_false, List.filter_cons,
          Bool.false_eq_true]

theorem findTarget_eq (now : Time) (targetV6 : Bool) (targetIdx : Nat)
    (records : List (IpAddress × Time)) (idx : Nat) :
    findTarget now targetV6 targetIdx records idx =
      pickNth targetV6 targetIdx (validIps now ⟨records⟩) idx := by
  induction records generalizing idx with
  | nil => rfl
  | cons r records ih =>
      obtain ⟨ip, exp⟩ := r
      simp only [validIps] at ih ⊢
      by_cases hexp : now < exp
      · simp only [findTarget, hexp, if_true, decide_true, List.filter_cons, List.map_cons,
          pickNth, ih]
      · simp only [findTarget, hexp, if_false, decide_false, List.filter_cons, ih,
          Bool.false_eq_true]

theorem pickNth_eq (targetV6 : Bool) (targetIdx : Nat) (ips : List IpAddress) {idx : Nat}
    (h : idx ≤ targetIdx) :
    pickNth targetV6 targetIdx ips idx =
      (ips.filter (fun ip => isIpv6 ip = targetV6))[targetIdx - idx]? := by
  induction ips generalizing idx with
  | nil => rfl
  | cons ip ips ih =>
      simp only [pickNth, List.filter_cons]
      by_cases hfam : isIpv6 ip = targetV6
      · by_cases hidx : idx = targetIdx
        · simp only [hfam, hidx, decide_true, if_true, Nat.sub_self, List.getElem?_cons_zero]
        · have hlt : idx + 1 ≤ targetIdx := Nat.lt_of_le_of_ne h hidx
          have hsub : targetIdx - idx = targetIdx - (idx + 1) + 1 := by omega
          simp only [hfam, hidx, decide_true, if_true, if_false, ih hlt, hsub,
            List.getElem?_cons_succ]
      · simp only [hfam, decide_false, if_false, ih h, Bool.false_eq_true]

-- The family that a lookup draws from: the preferred one if it is there.
def targetFamily (preferIpv6 : Bool) (ips : List IpAddress) : Bool :=
  if ips.any (fun ip => isIpv6 ip = preferIpv6) then preferIpv6 else !preferIpv6

def ofTarget (preferIpv6 : Bool) (ips : List IpAddress) : List IpAddress :=
  ips.filter (fun ip => isIpv6 ip = targetFamily preferIpv6 ips)

theorem ofTarget_pos (hne : ips ≠ []) : 0 < (ofTarget preferIpv6 ips).length := by
  rw [ofTarget, List.length_pos_iff_exists_mem]
  cases hany : ips.any (fun ip => isIpv6 ip = preferIpv6) with
  | true =>
      obtain ⟨ip, hip, hfam⟩ := List.any_eq_true.mp hany
      refine ⟨ip, List.mem_filter.mpr ⟨hip, ?_⟩⟩
      simpa only [targetFamily, hany, if_true] using hfam
  | false =>
      obtain ⟨ip, hip⟩ := List.exists_mem_of_ne_nil ips hne
      have hother := List.any_eq_false.mp hany ip hip
      refine ⟨ip, List.mem_filter.mpr ⟨hip, ?_⟩⟩
      rw [decide_eq_true_eq] at hother ⊢
      simp only [targetFamily, hany, Bool.false_eq_true, if_false]
      exact Bool.eq_not_of_ne hother

theorem selectTarget_eq (preferIpv6 : Bool) (ips : List IpAddress) :
    selectTarget preferIpv6 (ips.filter isIpv6).length (ips.filter (!isIpv6 ·)).length =
      (targetFamily preferIpv6 ips, (ofTarget preferIpv6 ips).length) := by
  have hv6 : (ips.filter isIpv6) = ips.filter (fun ip => isIpv6 ip = true) :=
    List.filter_congr fun ip _ => Bool.decide_eq_true.symm
  have hv4 : (ips.filter (!isIpv6 ·)) = ips.filter (fun ip => isIpv6 ip = false) :=
    List.filter_congr fun ip _ => Bool.decide_eq_false.symm
  have hpos : ∀ b : Bool, 0 < (ips.filter (fun ip => isIpv6 ip = b)).length ↔
      ips.any (fun ip => isIpv6 ip = b) = true := by
    intro b
    simp [List.length_pos_iff_exists_mem]
  rw [hv6, hv4]
  cases preferIpv6 with
  | true =>
      simp only [selectTarget, ofTarget, targetFamily, if_true, gt_iff_lt, hpos true]
      split_ifs <;> rfl
  | false =>
      simp only [selectTarget, ofTarget, targetFamily, Bool.false_eq_true, if_false, gt_iff_lt,
        hpos false]
      split_ifs <;> rfl

theorem counts_eq_zero (ips : List IpAddress) :
    (ips.filter isIpv6).length + (ips.filter (!isIpv6 ·)).length = 0 ↔ ips = [] := by
  have hlen : ips.length = (ips.filter isIpv6).length + (ips.filter (!isIpv6 ·)).length :=
    List.length_eq_length_filter_add _
  rw [← hlen, List.length_eq_zero_iff]

-- Both passes come down to one choice among the addresses that have not expired.
theorem dnsCacheGetPasses_some {cache : DnsCache} {domain : String}
    (hl : cache.lookup domain = some value) (draw : Nat) :
    dnsCacheGetPasses cache now draw domain preferIpv6 =
      .ok ((ofTarget preferIpv6 (validIps now value))[
        draw % (ofTarget preferIpv6 (validIps now value)).length]?) := by
  simp only [dnsCacheGetPasses, hl, countValid_eq, Nat.zero_add]
  split_ifs with hzero
  · rw [(counts_eq_zero _).mp hzero]
    rfl
  · have hpos : 0 < (ofTarget preferIpv6 (validIps now value)).length :=
      ofTarget_pos fun h => hzero ((counts_eq_zero _).mpr h)
    simp only [selectTarget_eq, randomRange, Nat.ne_of_gt hpos, if_false, Outcome.ok_bind,
      findTarget_eq, pickNth_eq _ _ _ (Nat.zero_le _), Nat.sub_zero]
    rfl

theorem dnsCacheGetPasses_eq (cache : DnsCache) (now : Time) (draw : Nat) (domain : String)
    (preferIpv6 : Bool) :
    dnsCacheGetPasses cache now draw domain preferIpv6 =
      .ok (dnsCacheGet cache now draw domain preferIpv6) := by
  cases hl : cache.lookup domain with
  | none => simp only [dnsCacheGetPasses, dnsCacheGet, hl, Option.bind_eq_bind, Option.bind_none]
  | some value =>
      rw [dnsCacheGetPasses_some hl]
      simp only [dnsCacheGet, hl, Option.bind_eq_bind, Option.bind_some]
      by_cases hzero : ((validIps now value).filter isIpv6).length +
          ((validIps now value).filter (!isIpv6 ·)).length = 0
      · rw [if_pos hzero, (counts_eq_zero _).mp hzero]
        rfl
      · have htarget := selectTarget_eq preferIpv6 (validIps now value)
        simp only [selectTarget] at htarget
        rw [if_neg hzero, htarget, pickNth_eq _ _ _ (Nat.zero_le _)]
        rfl

theorem dnsCacheGetAll_some {cache : DnsCache} {domain : String}
    (hl : cache.lookup domain = some value) :
    dnsCacheGetAll cache now domain =
      if (validIps now value).isEmpty then none else some (validIps now value) := by
  simp only [dnsCacheGetAll, hl, Option.bind_eq_bind, Option.bind_some]

theorem targetFamily_eq {ip : IpAddress} (hip : ip ∈ ips) (hfam : isIpv6 ip = preferIpv6) :
    targetFamily preferIpv6 ips = preferIpv6 :=
  if_pos (List.any_eq_true.mpr ⟨ip, hip, decide_eq_true hfam⟩)

theorem findTarget_isSome {v6Count v4Count : Nat}
    (hc : countValid now value.records 0 0 = (v6Count, v4Count)) (hne : v6Count + v4Count ≠ 0) :
    0 < (selectTarget preferIpv6 v6Count v4Count).2 ∧
      ∀ targetIdx, targetIdx < (selectTarget preferIpv6 v6Count v4Count).2 →
        (findTarget now (selectTarget preferIpv6 v6Count v4Count).1 targetIdx
          value.records 0).isSome := by
  rw [countValid_eq, Nat.zero_add, Nat.zero_add] at hc
  cases hc
  have hips : validIps now value ≠ [] := fun h => hne ((counts_eq_zero _).mpr h)
  rw [selectTarget_eq]
  refine ⟨ofTarget_pos hips, fun targetIdx hidx => ?_⟩
  rw [findTarget_eq, pickNth_eq _ _ _ (Nat.zero_le _), Nat.sub_zero]
  have hget : (ofTarget preferIpv6 (validIps now value))[targetIdx]? = _ :=
    List.getElem?_eq_getElem hidx
  exact Option.isSome_iff_exists.mpr ⟨_, hget⟩

theorem lookups_agree (cache : DnsCache) (now : Time) (domain : String) (preferIpv6 : Bool) :
    (∀ draw, ∃ found, dnsCacheGetPasses cache now draw domain preferIpv6 = .ok found ∧
      (found.isSome ↔ (dnsCacheGetAll cache now domain).isSome) ∧
      ∀ ip ∈ found, ∀ ips ∈ dnsCacheGetAll cache now domain,
        ip ∈ ips ∧ ((∃ other ∈ ips, isIpv6 other = preferIpv6) → isIpv6 ip = preferIpv6)) ∧
    (∀ ips ∈ dnsCacheGetAll cache now domain, ∀ ip ∈ ips,
      isIpv6 ip = targetFamily preferIpv6 ips →
        ∃ draw, dnsCacheGetPasses cache now draw domain preferIpv6 = .ok (some ip)) ∧
    ∀ value ∈ cache.lookup domain, ∀ v6Count v4Count,
      countValid now value.records 0 0 = (v6Count, v4Count) → v6Count + v4Count ≠ 0 →
        0 < (selectTarget preferIpv6 v6Count v4Count).2 ∧
        ∀ targetIdx, targetIdx < (selectTarget preferIpv6 v6Count v4Count).2 →
          (findTarget now (selectTarget preferIpv6 v6Count v4Count).1 targetIdx
            value.records 0).isSome := by
  cases hl : cache.lookup domain with
  | none =>
      have hall : dnsCacheGetAll cache now domain = none := by
        simp only [dnsCacheGetAll, hl, Option.bind_eq_bind, Option.bind_none]
      rw [hall]
      refine ⟨fun draw => ⟨none, ?_, Iff.rfl, nofun⟩, nofun, nofun⟩
      simp only [dnsCacheGetPasses, hl]
  | some value =>
      rw [dnsCacheGetAll_some hl]
      refine ⟨fun draw => ⟨_, dnsCacheGetPasses_some hl draw, ?_, ?_⟩, ?_, ?_⟩
      · by_cases hempty : validIps now value = []
        · rw [hempty]
          exact Iff.rfl
        · have hpos : 0 < (ofTarget preferIpv6 (validIps now value)).length :=
            ofTarget_pos hempty
          have hdraw := Nat.mod_lt draw hpos
          rw [List.getElem?_eq_getElem hdraw, if_neg (by rwa [List.isEmpty_iff])]
          exact iff_of_true rfl rfl
      · intro ip hip ips hips
        obtain ⟨hmem, hfam⟩ := List.mem_filter.mp (List.mem_of_getElem? hip)
        split_ifs at hips
        · cases hips
        · cases hips
          refine ⟨hmem, fun ⟨other, hother, hprefer⟩ => ?_⟩
          rw [decide_eq_true_eq, targetFamily_eq hother hprefer] at hfam
          exact hfam
      · intro ips hips ip hip hfam
        split_ifs at hips
        · cases hips
        · cases hips
          have hmem : ip ∈ ofTarget preferIpv6 (validIps now value) :=
            List.mem_filter.mpr ⟨hip, decide_eq_true hfam⟩
          obtain ⟨draw, hlt, hget⟩ := List.getElem_of_mem hmem
          refine ⟨draw, ?_⟩
          rw [dnsCacheGetPasses_some hl, Nat.mod_eq_of_lt hlt, List.getElem?_eq_getElem hlt, hget]
      · intro value' hvalue v6Count v4Count hc hne
        cases hvalue
        exact findTarget_isSome hc hne

end Usque
