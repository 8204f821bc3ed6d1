import Usque.Masque.CapsuleGrammar

namespace Usque

-- The question mark of a function that may also panic.
def andThen {α β : Type} (x : Outcome (Except MasqueError α))
    (f : α → Outcome (Except MasqueError β)) : Outcome (Except MasqueError β) := do
  match ← x with
  | .error e => .ok (.error e)
  | .ok a => f a

def index (buf : List UInt8) (i : Nat) : Outcome UInt8 :=
  match buf[i]? with
  | some b => .ok b
  | none => .error .panic

def sliceFrom (buf : List UInt8) (offset : Nat) : Outcome (List UInt8) :=
  if offset ≤ buf.length then .ok (buf.drop offset) else .error .panic

def varintIndexed (buf : List UInt8) : Nat → Outcome UInt64
  | 1 => do .ok ((← index buf 0) &&& 0x3f).toUInt64
  | 2 => do .ok (((← index buf 0) &&& 0x3f).toUInt64 <<< 8 ||| (← index buf 1).toUInt64)
  | 4 => do
      .ok (((← index buf 0) &&& 0x3f).toUInt64 <<< 24 ||| (← index buf 1).toUInt64 <<< 16 |||
        (← index buf 2).toUInt64 <<< 8 ||| (← index buf 3).toUInt64)
  | 8 => do
      .ok (((← index buf 0) &&& 0x3f).toUInt64 <<< 56 ||| (← index buf 1).toUInt64 <<< 48 |||
        (← index buf 2).toUInt64 <<< 40 ||| (← index buf 3).toUInt64 <<< 32 |||
        (← index buf 4).toUInt64 <<< 24 ||| (← index buf 5).toUInt64 <<< 16 |||
        (← index buf 6).toUInt64 <<< 8 ||| (← index buf 7).toUInt64)
  -- unreachable!()
  | _ => .error .panic

def decodeVarintIndexed (buf : List UInt8) : Outcome (Except MasqueError (UInt64 × Nat)) :=
  if buf.isEmpty then .ok (.error (.connectionError "Empty buffer"))
  else do
    let len := 1 <<< ((← index buf 0) >>> 6).toNat
    if buf.length < len then .ok (.error (.connectionError "Buffer too short"))
    else
      let value ← varintIndexed buf len
      .ok (.ok (value, len))

def getByteAt (message : String) (payload : List UInt8) (offset : Nat) :
    Outcome (Except MasqueError (UInt8 × Nat)) :=
  match payload[offset]? with
  | some b => .ok (.ok (b, offset + 1))
  | none => .ok (.error (.connectionError message))

def getSliceAt (message : String) (n : Nat) (payload : List UInt8) (offset : Nat) :
    Outcome (Except MasqueError (List UInt8 × Nat)) :=
  if payload.length < offset + n then .ok (.error (.connectionError message))
  else .ok (.ok ((payload.drop offset).take n, offset + n))

def ipv4Octets (slice : List UInt8) : Outcome (List UInt8) := do
  .ok [← index slice 0, ← index slice 1, ← index slice 2, ← index slice 3]

-- `bytes.copy_from_slice(slice)`, with sixteen bytes to copy to.
def ipv6Octets (slice : List UInt8) : Outcome (List UInt8) :=
  if slice.length = 16 then .ok slice else .error .panic

def assignedAddressAt (payload : List UInt8) (offset : Nat) :
    Outcome (Except MasqueError (String × Nat)) := do
  let tail ← sliceFrom payload offset
  andThen (decodeVarintIndexed tail) fun (_, requestIdLen) =>
  andThen (getByteAt "truncated AddressAssign capsule" payload (offset + requestIdLen))
    fun (ipVersion, offset) =>
  match ipVersion.toNat with
  | 4 =>
      andThen (getSliceAt "truncated AddressAssign IPv4" 4 payload offset) fun (addr, offset) =>
      andThen (getByteAt "missing AddressAssign IPv4 prefix" payload offset)
        fun (pre, offset) => do
      let octets ← ipv4Octets addr
      .ok (.ok (ipv4Text octets ++ "/" ++ toString pre.toNat, offset))
  | 6 =>
      andThen (getSliceAt "truncated AddressAssign IPv6" 16 payload offset) fun (addr, offset) =>
      andThen (getByteAt "missing AddressAssign IPv6 prefix" payload offset)
        fun (pre, offset) => do
      let octets ← ipv6Octets addr
      .ok (.ok (ipv6Text octets ++ "/" ++ toString pre.toNat, offset))
  | other =>
      .ok (.error (.connectionError ("invalid AddressAssign IP version: " ++ toString other)))

def advertisedRouteAt (payload : List UInt8) (offset : Nat) :
    Outcome (Except MasqueError (String × Nat)) :=
  andThen (getByteAt "truncated RouteAdvertisement capsule" payload offset)
    fun (ipVersion, offset) =>
  match ipVersion.toNat with
  | 4 =>
      andThen (getSliceAt "truncated RouteAdvertisement IPv4" 4 payload offset)
        fun (first, offset) =>
      andThen (getSliceAt "truncated RouteAdvertisement IPv4" 4 payload offset)
        fun (last, offset) =>
      andThen (getByteAt "missing RouteAdvertisement IPv4 protocol" payload offset)
        fun (ipProto, offset) => do
      let first ← ipv4Octets first
      let last ← ipv4Octets last
      .ok (.ok (ipv4Text first ++ "-" ++ ipv4Text last ++ " proto=" ++ toString ipProto.toNat,
        offset))
  | 6 =>
      andThen (getSliceAt "truncated RouteAdvertisement IPv6" 16 payload offset)
        fun (first, offset) =>
      andThen (getSliceAt "truncated RouteAdvertisement IPv6" 16 payload offset)
        fun (last, offset) =>
      andThen (getByteAt "missing RouteAdvertisement IPv6 protocol" payload offset)
        fun (ipProto, offset) => do
      let first ← ipv6Octets first
      let last ← ipv6Octets last
      .ok (.ok (ipv6Text first ++ "-" ++ ipv6Text last ++ " proto=" ++ toString ipProto.toNat,
        offset))
  | other =>
      .ok (.error (.connectionError ("invalid RouteAdvertisement IP version: " ++ toString other)))

-- The loop of either parser, an entry each turn; without fuel it has not come to an end.
def entriesAt (entryAt : List UInt8 → Nat → Outcome (Except MasqueError (String × Nat)))
    (payload : List UInt8) :
    Nat → Nat → List String → Outcome (Except MasqueError (List String))
  | 0, _, _ => .error .hang
  | fuel + 1, offset, entries =>
      if offset < payload.length then
        andThen (entryAt payload offset) fun (entry, offset) =>
          entriesAt entryAt payload fuel offset (entries ++ [entry])
      else .ok (.ok entries)

def parseAddressAssignAt (fuel : Nat) (payload : List UInt8) :
    Outcome (Except MasqueError (List String)) :=
  entriesAt assignedAddressAt payload fuel 0 []

def parseRouteAdvertisementAt (fuel : Nat) (payload : List UInt8) :
    Outcome (Except MasqueError (List String)) :=
  entriesAt advertisedRouteAt payload fuel 0 []

theorem index_ok {buf : List UInt8} {i : Nat} (h : i < buf.length) :
    index buf i = .ok (buf.getD i 0) := by
  rw [index, List.getElem?_eq_getElem h, List.getD_eq_getElem?_getD, List.getElem?_eq_getElem h,
    Option.getD_some]

theorem ipv4Octets_ok {slice : List UInt8} (h : slice.length = 4) :
    ipv4Octets slice = .ok slice := by
  match slice, h with
  | [_, _, _, _], _ => rfl

theorem ipv6Octets_ok {slice : List UInt8} (h : slice.length = 16) :
    ipv6Octets slice = .ok slice :=
  if_pos h

theorem varintIndexed_ok {buf : List UInt8} {k : Nat} (hk : k ≤ 3) (h : 2 ^ k ≤ buf.length) :
    varintIndexed buf (2 ^ k) = .ok (varintValue buf (2 ^ k)) := by
  have hi : ∀ i, i < 2 ^ k → index buf i = .ok (buf.getD i 0) := fun i hi =>
    index_ok (Nat.lt_of_lt_of_le hi h)
  interval_cases k
  · simp only [varintIndexed, varintValue, hi 0 (by decide), Nat.pow_zero, Outcome.ok_bind]
  · simp only [varintIndexed, varintValue, byteAt, hi 0 (by decide), hi 1 (by decide),
      Nat.pow_one, Outcome.ok_bind]
  · simp only [varintIndexed, varintValue, byteAt, hi 0 (by decide), hi 1 (by decide),
      hi 2 (by decide), hi 3 (by decide), show 2 ^ 2 = 4 from rfl, Outcome.ok_bind]
  · simp only [varintIndexed, varintValue, byteAt, hi 0 (by decide), hi 1 (by decide),
      hi 2 (by decide), hi 3 (by decide), hi 4 (by decide), hi 5 (by decide), hi 6 (by decide),
      hi 7 (by decide), show 2 ^ 3 = 8 from rfl, Outcome.ok_bind]

theorem decodeVarintIndexed_ok (buf : List UInt8) :
    decodeVarintIndexed buf = .ok (decodeVarint buf) := by
  cases buf with
  | nil => rfl
  | cons first tail =>
      have hfirst : index (first :: tail) 0 = .ok first := rfl
      simp only [decodeVarintIndexed, decodeVarint, List.isEmpty_cons, Bool.false_eq_true, if_false,
        hfirst, Outcome.ok_bind, shift_width]
      split
      · rfl
      · next hlen =>
          have hk : first.toNat / 64 ≤ 3 := by
            have hlt := first.toNat_lt
            omega
          rw [Varint.width, varintIndexed_ok hk (Nat.le_of_not_lt hlen), Outcome.ok_bind]

-- What the offset form does is what the form over the remaining bytes does.
def Tracks (payload : List UInt8) (x : Outcome (Except MasqueError (String × Nat))) :
    Except MasqueError (String × List UInt8) → Prop
  | .error e => x = .ok (.error e)
  | .ok (out, rest) =>
      ∃ offset, x = .ok (.ok (out, offset)) ∧ offset ≤ payload.length ∧ rest = payload.drop offset

theorem tracks_byte {message : String} {payload : List UInt8} {offset : Nat}
    {f : UInt8 × Nat → Outcome (Except MasqueError (String × Nat))}
    {g : UInt8 × List UInt8 → Except MasqueError (String × List UInt8)}
    (h : ∀ b, offset + 1 ≤ payload.length →
      Tracks payload (f (b, offset + 1)) (g (b, payload.drop (offset + 1)))) :
    Tracks payload (andThen (getByteAt message payload offset) f)
      (getByte message (payload.drop offset) >>= g) := by
  rcases Nat.lt_or_ge offset payload.length with hlt | hge
  · rw [getByteAt, List.getElem?_eq_getElem hlt, List.drop_eq_getElem_cons hlt]
    exact h _ hlt
  · rw [getByteAt, List.getElem?_eq_none hge, List.drop_eq_nil_of_le hge]
    rfl

theorem tracks_slice {message : String} {n : Nat} {payload : List UInt8} {offset : Nat}
    {f : List UInt8 × Nat → Outcome (Except MasqueError (String × Nat))}
    {g : List UInt8 × List UInt8 → Except MasqueError (String × List UInt8)}
    (hoff : offset ≤ payload.length)
    (h : ∀ slice, slice.length = n → offset + n ≤ payload.length →
      Tracks payload (f (slice, offset + n)) (g (slice, payload.drop (offset + n)))) :
    Tracks payload (andThen (getSliceAt message n payload offset) f)
      (getSlice message n (payload.drop offset) >>= g) := by
  rw [getSliceAt, getSlice, List.length_drop, List.drop_drop]
  by_cases hlt : payload.length < offset + n
  · rw [if_pos hlt, if_pos (by omega)]
    rfl
  · rw [if_neg hlt, if_neg (by omega)]
    exact h _ (by rw [List.length_take, List.length_drop]; omega) (Nat.le_of_not_lt hlt)

theorem tracks_varint {payload : List UInt8} {offset : Nat}
    {f : UInt64 × Nat → Outcome (Except MasqueError (String × Nat))}
    {g : UInt64 × Nat → Except MasqueError (String × List UInt8)}
    (hoff : offset ≤ payload.length)
    (h : ∀ value len, offset + len ≤ payload.length →
      Tracks payload (f (value, len)) (g (value, len))) :
    Tracks payload (do
        let tail ← sliceFrom payload offset
        andThen (decodeVarintIndexed tail) f)
      (decodeVarint (payload.drop offset) >>= g) := by
  rw [sliceFrom, if_pos hoff, Outcome.ok_bind, decodeVarintIndexed_ok]
  cases hd : decodeVarint (payload.drop offset) with
  | error e => rfl
  | ok r =>
      obtain ⟨value, len⟩ := r
      have hle := (decodeVarint_len (by rw [tryDecodeVarint, hd]; rfl)).2
      rw [List.length_drop] at hle
      exact h value len (by omega)

theorem tracks_done {payload : List UInt8} {offset : Nat} (hoff : offset ≤ payload.length)
    {octets : Outcome (List UInt8)} {slice : List UInt8} (ho : octets = .ok slice)
    (text : List UInt8 → String) :
    Tracks payload (octets >>= fun octets => .ok (.ok (text octets, offset)))
      (.ok (text slice, payload.drop offset)) := by
  rw [ho]
  exact ⟨offset, rfl, hoff, rfl⟩

theorem version_cases (version : Nat) :
    version = 4 ∨ version = 6 ∨ (version ≠ 4 ∧ version ≠ 6) := by
  omega

theorem assignedAddressAt_tracks {payload : List UInt8} {offset : Nat}
    (hoff : offset ≤ payload.length) :
    Tracks payload (assignedAddressAt payload offset) (assignedAddress (payload.drop offset)) := by
  refine tracks_varint hoff fun value len hlen => ?_
  dsimp only
  rw [List.drop_drop]
  refine tracks_byte fun version hversion => ?_
  dsimp only
  rcases version_cases version.toNat with hfour | hsix | ⟨hfour, hsix⟩
  · rw [hfour]
    refine tracks_slice hversion fun addr haddr hle => ?_
    refine tracks_byte fun pre hpre => ?_
    exact tracks_done hpre (ipv4Octets_ok haddr) (fun addr => ipv4Text addr ++ "/" ++ _)
  · rw [hsix]
    refine tracks_slice hversion fun addr haddr hle => ?_
    refine tracks_byte fun pre hpre => ?_
    exact tracks_done hpre (ipv6Octets_ok haddr) (fun addr => ipv6Text addr ++ "/" ++ _)
  · simp only
    rfl

theorem advertisedRouteAt_tracks (payload : List UInt8) (offset : Nat) :
    Tracks payload (advertisedRouteAt payload offset) (advertisedRoute (payload.drop offset)) := by
  refine tracks_byte fun version hversion => ?_
  dsimp only
  rcases version_cases version.toNat with hfour | hsix | ⟨hfour, hsix⟩
  · rw [hfour]
    refine tracks_slice hversion fun first hfirst hle => ?_
    refine tracks_slice hle fun last hlast hle' => ?_
    refine tracks_byte fun proto hproto => ?_
    dsimp only
    rw [ipv4Octets_ok hfirst, Outcome.ok_bind]
    exact tracks_done hproto (ipv4Octets_ok hlast)
      (fun last => ipv4Text first ++ "-" ++ ipv4Text last ++ " proto=" ++ _)
  · rw [hsix]
    refine tracks_slice hversion fun first hfirst hle => ?_
    refine tracks_slice hle fun last hlast hle' => ?_
    refine tracks_byte fun proto hproto => ?_
    dsimp only
    rw [ipv6Octets_ok hfirst, Outcome.ok_bind]
    exact tracks_done hproto (ipv6Octets_ok hlast)
      (fun last => ipv6Text first ++ "-" ++ ipv6Text last ++ " proto=" ++ _)
  · simp only
    rfl

-- Each turn takes at least a byte, so the loop ends.
theorem entriesAt_parse (p : EntryParser)
    {entryAt : List UInt8 → Nat → Outcome (Except MasqueError (String × Nat))}
    {payload : List UInt8}
    (htracks : ∀ offset ≤ payload.length,
      Tracks payload (entryAt payload offset) (p.entry (payload.drop offset)))
    {fuel offset : Nat} (hoff : offset ≤ payload.length) (hfuel : payload.length - offset < fuel)
    (entries : List String) :
    entriesAt entryAt payload fuel offset entries =
      .ok ((p.parse (payload.drop offset)).map (entries ++ ·)) := by
  induction fuel generalizing offset entries with
  | zero => exact absurd hfuel (Nat.not_lt_zero _)
  | succ fuel ih =>
      rw [entriesAt]
      by_cases hlt : offset < payload.length
      · rw [if_pos hlt]
        have hne : payload.drop offset ≠ [] := fun hnil => by
          have hlen := congrArg List.length hnil
          rw [List.length_drop, List.length_nil] at hlen
          omega
        have ht := htracks offset hoff
        cases he : p.entry (payload.drop offset) with
        | error e =>
            rw [he] at ht
            rw [show entryAt payload offset = .ok (.error e) from ht,
              EntryParser.parse_error hne he]
            rfl
        | ok r =>
            obtain ⟨out, rest⟩ := r
            have hshort := p.shorter he
            rw [he] at ht
            obtain ⟨next, hx, hnext, rfl⟩ := ht
            rw [List.length_drop, List.length_drop] at hshort
            have hrest := ih hnext (by omega) (entries ++ [out])
            rw [hx, EntryParser.parse_ok he]
            show entriesAt entryAt payload fuel next (entries ++ [out]) = _
            rw [hrest]
            cases p.parse (payload.drop next) with
            | error e => rfl
            | ok texts =>
                simp only [Except.map, List.append_assoc, List.cons_append, List.nil_append]
      · have hend : offset = payload.length := by omega
        rw [if_neg hlt, hend, List.drop_length, EntryParser.parse_nil]
        simp only [Except.map, List.append_nil]

theorem except_map_nil_append {ε : Type} (x : Except ε (List String)) :
    x.map ([] ++ ·) = x := by
  cases x <;> rfl

theorem parseAddressAssignAt_eq {payload : List UInt8} {fuel : Nat}
    (hfuel : payload.length < fuel) :
    parseAddressAssignAt fuel payload = .ok (parseAddressAssignCapsule payload) := by
  have h := entriesAt_parse ⟨assignedAddress, assignedAddress_shorter⟩
    (fun _ hoff => assignedAddressAt_tracks hoff) (Nat.zero_le payload.length) hfuel []
  rwa [List.drop_zero, except_map_nil_append] at h

theorem parseRouteAdvertisementAt_eq {payload : List UInt8} {fuel : Nat}
    (hfuel : payload.length < fuel) :
    parseRouteAdvertisementAt fuel payload = .ok (parseRouteAdvertisementCapsule payload) := by
  have h := entriesAt_parse ⟨advertisedRoute, advertisedRoute_shorter⟩
    (fun offset _ => advertisedRouteAt_tracks payload offset) (Nat.zero_le payload.length) hfuel []
  rwa [List.drop_zero, except_map_nil_append] at h

-- The loops end within the payload, and what they accept is a list of whole entries.
theorem capsules_parsed_exactly (payload : List UInt8) :
    (∀ fuel, payload.length < fuel →
      parseAddressAssignAt fuel payload = .ok (parseAddressAssignCapsule payload) ∧
      parseRouteAdvertisementAt fuel payload = .ok (parseRouteAdvertisementCapsule payload)) ∧
    (∀ es, parseAddressAssignCapsule payload = .ok es ↔ ∃ entries : List AddressEntry,
      payload = entries.flatMap AddressEntry.bytes ∧ es = entries.map AddressEntry.text) ∧
    (∀ rs, parseRouteAdvertisementCapsule payload = .ok rs ↔ ∃ entries : List RouteEntry,
      payload = entries.flatMap RouteEntry.bytes ∧ rs = entries.map RouteEntry.text) ∧
    (∀ (entries : List AddressEntry) (e : AddressEntry) (k : Nat), 0 < k → k < e.bytes.length →
      payload = entries.flatMap AddressEntry.bytes ++ e.bytes.take k →
      ∃ err, parseAddressAssignCapsule payload = .error err) ∧
    (∀ (entries : List RouteEntry) (e : RouteEntry) (k : Nat), 0 < k → k < e.bytes.length →
      payload = entries.flatMap RouteEntry.bytes ++ e.bytes.take k →
      ∃ err, parseRouteAdvertisementCapsule payload = .error err) := by
  refine ⟨?_, ?_, ?_, ?_, ?_⟩
  · intro fuel hfuel
    exact ⟨parseAddressAssignAt_eq hfuel, parseRouteAdvertisementAt_eq hfuel⟩
  · exact assignedAddress_exact.parse_iff payload
  · exact advertisedRoute_exact.parse_iff payload
  · rintro entries e k hpos hk rfl
    exact assignedAddress_exact.parse_cut entries e hpos hk
  · rintro entries e k hpos hk rfl
    exact advertisedRoute_exact.parse_cut entries e hpos hk

end Usque
