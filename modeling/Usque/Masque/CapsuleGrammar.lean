import Usque.Lib.Fault
import Usque.Masque.ControlStream
import Usque.Stack.Smoltcp

namespace Usque

def versionByte : IpVersion → UInt8
  | .ipv4 => 4
  | .ipv6 => 6

def addressBytes : IpVersion → Nat
  | .ipv4 => 4
  | .ipv6 => 16

def addressText : IpVersion → List UInt8 → String
  | .ipv4 => ipv4Text
  | .ipv6 => ipv6Text

def assignedText (version : IpVersion) (address : List UInt8) (prefixLen : UInt8) : String :=
  addressText version address ++ "/" ++ toString prefixLen.toNat

def advertisedText (version : IpVersion) (first last : List UInt8) (ipProto : UInt8) : String :=
  addressText version first ++ "-" ++ addressText version last ++ " proto=" ++
    toString ipProto.toNat

-- An entry of an ADDRESS_ASSIGN capsule; the request id is kept as its varint has it.
structure AddressEntry where
  requestId : List UInt8
  version : IpVersion
  address : List UInt8
  prefixLen : UInt8
  encoded : ∃ n, Varint.Encodes n requestId
  sized : address.length = addressBytes version

structure RouteEntry where
  version : IpVersion
  first : List UInt8
  last : List UInt8
  ipProto : UInt8
  firstSized : first.length = addressBytes version
  lastSized : last.length = addressBytes version

namespace AddressEntry

def bytes (e : AddressEntry) : List UInt8 :=
  e.requestId ++ versionByte e.version :: (e.address ++ [e.prefixLen])

def text (e : AddressEntry) : String := assignedText e.version e.address e.prefixLen

end AddressEntry

namespace RouteEntry

def bytes (e : RouteEntry) : List UInt8 :=
  versionByte e.version :: (e.first ++ (e.last ++ [e.ipProto]))

def text (e : RouteEntry) : String := advertisedText e.version e.first e.last e.ipProto

end RouteEntry

namespace EntryParser

variable {β : Type} {p : EntryParser} {bytes : β → List UInt8} {text : β → String}

-- One turn takes exactly the bytes of an entry.
def Exact (p : EntryParser) (bytes : β → List UInt8) (text : β → String) : Prop :=
  ∀ input out rest, p.entry input = .ok (out, rest) ↔
    ∃ e, input = bytes e ++ rest ∧ out = text e

theorem parse_nil (p : EntryParser) : p.parse [] = .ok [] := by
  rw [parse]

theorem parse_error {payload : List UInt8} {e : MasqueError} (hne : payload ≠ [])
    (h : p.entry payload = .error e) : p.parse payload = .error e := by
  cases payload with
  | nil => exact absurd rfl hne
  | cons b bs =>
      rw [parse]
      split
      · next hs =>
          rw [h] at hs
          cases hs
          rfl
      · next hs =>
          rw [h] at hs
          cases hs

theorem parse_ok {payload rest : List UInt8} {out : String}
    (h : p.entry payload = .ok (out, rest)) :
    p.parse payload = (p.parse rest).map (out :: ·) := by
  cases payload with
  | nil => exact absurd (p.shorter h) (Nat.not_lt_zero _)
  | cons b bs =>
      rw [parse]
      split
      · next hs =>
          rw [h] at hs
          cases hs
      · next hs =>
          rw [h] at hs
          cases hs
          rfl

theorem Exact.bytes_ne_nil (hp : p.Exact bytes text) (e : β) : bytes e ≠ [] := by
  have h := p.shorter ((hp (bytes e ++ []) (text e) []).mpr ⟨e, rfl, rfl⟩)
  rw [List.append_nil] at h
  exact List.ne_nil_of_length_pos h

theorem Exact.parse_append (hp : p.Exact bytes text) (e : β) (rest : List UInt8) :
    p.parse (bytes e ++ rest) = (p.parse rest).map (text e :: ·) :=
  parse_ok ((hp _ _ _).mpr ⟨e, rfl, rfl⟩)

theorem Exact.parse_flatMap (hp : p.Exact bytes text) (entries : List β) (rest : List UInt8) :
    p.parse (entries.flatMap bytes ++ rest) =
      (p.parse rest).map (entries.map text ++ ·) := by
  induction entries with
  | nil =>
      cases hr : p.parse rest <;>
        simp only [List.flatMap_nil, List.nil_append, List.map_nil, hr, Except.map]
  | cons e entries ih =>
      rw [List.flatMap_cons, List.append_assoc, hp.parse_append, ih]
      cases p.parse rest <;> rfl

theorem Exact.parse_iff (hp : p.Exact bytes text) (payload : List UInt8) (texts : List String) :
    p.parse payload = .ok texts ↔
      ∃ entries : List β, payload = entries.flatMap bytes ∧ texts = entries.map text := by
  constructor
  · intro h
    induction hn : payload.length using Nat.strongRecOn generalizing payload texts with
    | ind n ih =>
        cases payload with
        | nil =>
            rw [parse_nil] at h
            cases h
            exact ⟨[], rfl, rfl⟩
        | cons b bs =>
            cases he : p.entry (b :: bs) with
            | error e =>
                rw [parse_error (List.cons_ne_nil _ _) he] at h
                cases h
            | ok r =>
                obtain ⟨out, rest⟩ := r
                rw [parse_ok he] at h
                obtain ⟨e, hbytes, rfl⟩ := (hp _ _ _).mp he
                cases hr : p.parse rest with
                | error e =>
                    rw [hr] at h
                    cases h
                | ok texts' =>
                    rw [hr] at h
                    cases h
                    obtain ⟨entries, rfl, rfl⟩ := ih _ (hn ▸ p.shorter he) rest texts' hr rfl
                    exact ⟨e :: entries, hbytes, rfl⟩
  · rintro ⟨entries, rfl, rfl⟩
    have h := hp.parse_flatMap entries []
    rw [List.append_nil, parse_nil] at h
    rw [h]
    simp only [Except.map, List.append_nil]

theorem Exact.entry_cut (hp : p.Exact bytes text) (e : β) {k : Nat} (hk : k < (bytes e).length) :
    ∃ err, p.entry ((bytes e).take k) = .error err := by
  cases h : p.entry ((bytes e).take k) with
  | error err => exact ⟨err, rfl⟩
  | ok r =>
      obtain ⟨out, rest⟩ := r
      obtain ⟨e', hcut, rfl⟩ := (hp _ _ _).mp h
      -- The whole entry would be parsed with something left over.
      have hwhole : bytes e = bytes e' ++ (rest ++ (bytes e).drop k) := by
        rw [← List.append_assoc, ← hcut, List.take_append_drop]
      have hlong := (hp _ _ _).mpr ⟨e', hwhole, rfl⟩
      have hfull := (hp (bytes e) (text e) []).mpr ⟨e, (List.append_nil _).symm, rfl⟩
      rw [hfull, Except.ok.injEq, Prod.mk.injEq] at hlong
      have hlen := congrArg List.length hlong.2
      rw [List.length_nil, List.length_append, List.length_drop] at hlen
      omega

theorem Exact.parse_cut (hp : p.Exact bytes text) (entries : List β) (e : β) {k : Nat}
    (hpos : 0 < k) (hk : k < (bytes e).length) :
    ∃ err, p.parse (entries.flatMap bytes ++ (bytes e).take k) = .error err := by
  obtain ⟨err, herr⟩ := hp.entry_cut e hk
  have hne : (bytes e).take k ≠ [] := by
    rw [ne_eq, List.take_eq_nil_iff, not_or]
    exact ⟨Nat.ne_of_gt hpos, hp.bytes_ne_nil e⟩
  exact ⟨err, by rw [hp.parse_flatMap, parse_error hne herr]; rfl⟩

end EntryParser

theorem getByte_iff {message : String} {bytes rest : List UInt8} {b : UInt8} :
    getByte message bytes = .ok (b, rest) ↔ bytes = b :: rest := by
  cases bytes with
  | nil => simp only [getByte, reduceCtorEq]
  | cons b' bs => simp only [getByte, Except.ok.injEq, Prod.mk.injEq, List.cons.injEq]

theorem getSlice_iff {message : String} {n : Nat} {bytes slice rest : List UInt8} :
    getSlice message n bytes = .ok (slice, rest) ↔ bytes = slice ++ rest ∧ slice.length = n := by
  constructor
  · intro h
    simp only [getSlice] at h
    split at h
    · cases h
    · next hlen =>
        cases h
        exact ⟨(List.take_append_drop ..).symm, List.length_take_of_le (Nat.le_of_not_lt hlen)⟩
  · rintro ⟨rfl, rfl⟩
    rw [getSlice, if_neg (by rw [List.length_append]; omega), List.take_left, List.drop_left]

theorem decodeVarint_encodes {bytes : List UInt8} {value : UInt64} {len : Nat}
    (h : decodeVarint bytes = .ok (value, len)) :
    ∃ id, Varint.Encodes value.toNat id ∧ bytes = id ++ bytes.drop len :=
  Varint.next_encodes (tryDecodeVarint_some (by rw [tryDecodeVarint, h]; rfl))

theorem decodeVarint_of_encodes {id : List UInt8} {n : Nat} (h : Varint.Encodes n id)
    (rest : List UInt8) : ∃ value, decodeVarint (id ++ rest) = .ok (value, id.length) := by
  have hnext := tryDecodeVarint_next (id ++ rest)
  rw [Varint.next_of_encodes h rest] at hnext
  obtain ⟨⟨value, len⟩, htry, hr⟩ := Option.map_eq_some_iff.mp hnext
  have hle := (decodeVarint_len htry).2
  have hlen : len = id.length := by
    have hdrop := congrArg List.length (Prod.mk.inj hr).2
    rw [List.length_drop] at hdrop
    rw [List.length_append] at hle hdrop
    omega
  rw [hlen] at htry
  exact ⟨value, Outcome.toOption_eq_some.mp htry⟩

-- The end of an entry: an address and then a byte.
theorem slice_byte_iff {m₁ m₂ : String} {n : Nat} {bytes rest : List UInt8} {out : String}
    {k : List UInt8 → UInt8 → String} :
    (do
      let (addr, r) ← getSlice m₁ n bytes
      let (b, r) ← getByte m₂ r
      .ok (k addr b, r)) = .ok (out, rest) ↔
    ∃ addr b, addr.length = n ∧ bytes = addr ++ b :: rest ∧ out = k addr b := by
  simp only [Result.bind_eq_ok, Prod.exists, getSlice_iff, getByte_iff, Except.ok.injEq,
    Prod.mk.injEq]
  constructor
  · rintro ⟨addr, r, ⟨rfl, hlen⟩, b, r', rfl, rfl, rfl⟩
    exact ⟨addr, b, hlen, rfl, rfl⟩
  · rintro ⟨addr, b, hlen, rfl, rfl⟩
    exact ⟨addr, b :: rest, ⟨rfl, hlen⟩, b, rest, rfl, rfl, rfl⟩

theorem slice_slice_byte_iff {m₁ m₂ m₃ : String} {n : Nat} {bytes rest : List UInt8}
    {out : String} {k : List UInt8 → List UInt8 → UInt8 → String} :
    (do
      let (first, r) ← getSlice m₁ n bytes
      let (last, r) ← getSlice m₂ n r
      let (b, r) ← getByte m₃ r
      .ok (k first last b, r)) = .ok (out, rest) ↔
    ∃ first last b, first.length = n ∧ last.length = n ∧ bytes = first ++ (last ++ b :: rest) ∧
      out = k first last b := by
  rw [Result.bind_eq_ok]
  simp only [Prod.exists, getSlice_iff]
  constructor
  · rintro ⟨first, r, ⟨rfl, hfirst⟩, h⟩
    obtain ⟨last, b, hlast, rfl, rfl⟩ := slice_byte_iff.mp h
    exact ⟨first, last, b, hfirst, hlast, rfl, rfl⟩
  · rintro ⟨first, last, b, hfirst, hlast, rfl, rfl⟩
    exact ⟨first, _, ⟨rfl, hfirst⟩, slice_byte_iff.mpr ⟨last, b, hlast, rfl, rfl⟩⟩

theorem uint8_of_toNat {b c : UInt8} (h : b.toNat = c.toNat) : b = c := UInt8.toNat_inj.mp h

theorem assignedAddress_exact :
    EntryParser.Exact ⟨assignedAddress, assignedAddress_shorter⟩ AddressEntry.bytes
      AddressEntry.text := by
  intro input out rest
  show assignedAddress input = .ok (out, rest) ↔ _
  constructor
  · intro h
    obtain ⟨⟨value, len⟩, hvarint, h⟩ := Result.bind_eq_ok.mp h
    obtain ⟨⟨version, rest₁⟩, hversion, h⟩ := Result.bind_eq_ok.mp h
    obtain ⟨id, henc, hinput⟩ := decodeVarint_encodes hvarint
    dsimp only at hversion h
    rw [getByte_iff.mp hversion] at hinput
    split at h
    · next hfour =>
        obtain ⟨addr, pre, hlen, rfl, rfl⟩ := (slice_byte_iff (k := assignedText .ipv4)).mp h
        refine ⟨⟨id, .ipv4, addr, pre, ⟨_, henc⟩, hlen⟩, ?_, rfl⟩
        rw [hinput, uint8_of_toNat (c := 4) hfour]
        simp only [AddressEntry.bytes, versionByte, List.append_assoc, List.cons_append,
          List.nil_append]
    · next hsix =>
        obtain ⟨addr, pre, hlen, rfl, rfl⟩ := (slice_byte_iff (k := assignedText .ipv6)).mp h
        refine ⟨⟨id, .ipv6, addr, pre, ⟨_, henc⟩, hlen⟩, ?_, rfl⟩
        rw [hinput, uint8_of_toNat (c := 6) hsix]
        simp only [AddressEntry.bytes, versionByte, List.append_assoc, List.cons_append,
          List.nil_append]
    · cases h
  · rintro ⟨⟨id, version, addr, pre, ⟨n, henc⟩, hsized⟩, rfl, rfl⟩
    obtain ⟨value, hvarint⟩ := decodeVarint_of_encodes henc
      (versionByte version :: (addr ++ pre :: rest))
    have hbytes : AddressEntry.bytes ⟨id, version, addr, pre, ⟨n, henc⟩, hsized⟩ ++ rest =
        id ++ versionByte version :: (addr ++ pre :: rest) := by
      simp only [AddressEntry.bytes, List.append_assoc, List.cons_append, List.nil_append]
    rw [hbytes, assignedAddress, Result.bind_eq_ok]
    refine ⟨_, hvarint, ?_⟩
    dsimp only
    rw [List.drop_left, Result.bind_eq_ok]
    refine ⟨_, getByte_iff.mpr rfl, ?_⟩
    cases version with
    | ipv4 =>
        exact (slice_byte_iff (k := assignedText .ipv4)).mpr ⟨addr, pre, hsized, rfl, rfl⟩
    | ipv6 =>
        exact (slice_byte_iff (k := assignedText .ipv6)).mpr ⟨addr, pre, hsized, rfl, rfl⟩

theorem advertisedRoute_exact :
    EntryParser.Exact ⟨advertisedRoute, advertisedRoute_shorter⟩ RouteEntry.bytes
      RouteEntry.text := by
  intro input out rest
  show advertisedRoute input = .ok (out, rest) ↔ _
  constructor
  · intro h
    obtain ⟨⟨version, rest₁⟩, hversion, h⟩ := Result.bind_eq_ok.mp h
    have hinput := getByte_iff.mp hversion
    dsimp only at h
    split at h
    · next hfour =>
        obtain ⟨first, last, proto, hfirst, hlast, rfl, rfl⟩ :=
          (slice_slice_byte_iff (k := advertisedText .ipv4)).mp h
        refine ⟨⟨.ipv4, first, last, proto, hfirst, hlast⟩, ?_, rfl⟩
        rw [hinput, uint8_of_toNat (c := 4) hfour]
        simp only [RouteEntry.bytes, versionByte, List.append_assoc, List.cons_append,
          List.nil_append]
    · next hsix =>
        obtain ⟨first, last, proto, hfirst, hlast, rfl, rfl⟩ :=
          (slice_slice_byte_iff (k := advertisedText .ipv6)).mp h
        refine ⟨⟨.ipv6, first, last, proto, hfirst, hlast⟩, ?_, rfl⟩
        rw [hinput, uint8_of_toNat (c := 6) hsix]
        simp only [RouteEntry.bytes, versionByte, List.append_assoc, List.cons_append,
          List.nil_append]
    · cases h
  · rintro ⟨⟨version, first, last, proto, hfirst, hlast⟩, rfl, rfl⟩
    have hbytes : RouteEntry.bytes ⟨version, first, last, proto, hfirst, hlast⟩ ++ rest =
        versionByte version :: (first ++ (last ++ proto :: rest)) := by
      simp only [RouteEntry.bytes, List.append_assoc, List.cons_append, List.nil_append]
    rw [hbytes, advertisedRoute, Result.bind_eq_ok]
    refine ⟨_, getByte_iff.mpr rfl, ?_⟩
    cases version with
    | ipv4 =>
        exact (slice_slice_byte_iff (k := advertisedText .ipv4)).mpr
          ⟨first, last, proto, hfirst, hlast, rfl, rfl⟩
    | ipv6 =>
        exact (slice_slice_byte_iff (k := advertisedText .ipv6)).mpr
          ⟨first, last, proto, hfirst, hlast, rfl, rfl⟩

end Usque
