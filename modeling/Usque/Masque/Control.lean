import Usque.Lib.Fault
import Usque.Lib.Framing
import Usque.Lib.Varint

namespace Usque

inductive QuicError where
  | ioError (message : String)
  | quiche (message : String)
  | connectionError (message : String)
  | handshakeTimeout
  | publicKeyMismatch
deriving DecidableEq, Repr

inductive MasqueError where
  | quicError (error : QuicError)
  | connectionError (message : String)
  | ioError (message : String)
  | tokioQuiche (message : String)
  | connectIpFailed (message : String)
  | timeout
deriving DecidableEq, Repr

def byteAt (buf : List UInt8) (i : Nat) : UInt64 := (buf.getD i 0).toUInt64

def varintValue (buf : List UInt8) : Nat → UInt64
  | 1 => (buf.getD 0 0 &&& 0x3f).toUInt64
  | 2 => (buf.getD 0 0 &&& 0x3f).toUInt64 <<< 8 ||| byteAt buf 1
  | 4 => (buf.getD 0 0 &&& 0x3f).toUInt64 <<< 24 ||| byteAt buf 1 <<< 16 |||
      byteAt buf 2 <<< 8 ||| byteAt buf 3
  | _ => (buf.getD 0 0 &&& 0x3f).toUInt64 <<< 56 ||| byteAt buf 1 <<< 48 |||
      byteAt buf 2 <<< 40 ||| byteAt buf 3 <<< 32 ||| byteAt buf 4 <<< 24 |||
      byteAt buf 5 <<< 16 ||| byteAt buf 6 <<< 8 ||| byteAt buf 7

def decodeVarint (buf : List UInt8) : Except MasqueError (UInt64 × Nat) :=
  match buf with
  | [] => .error (.connectionError "Empty buffer")
  | first :: _ =>
      let len := 1 <<< (first >>> 6).toNat
      if buf.length < len then .error (.connectionError "Buffer too short")
      else .ok (varintValue buf len, len)

def tryDecodeVarint (buf : List UInt8) : Option (UInt64 × Nat) := (decodeVarint buf).toOption

def ipv4Text (octets : List UInt8) : String :=
  ".".intercalate (octets.map (fun octet => toString octet.toNat))

def segments : List UInt8 → List Nat
  | high :: low :: rest => (high.toNat * 256 + low.toNat) :: segments rest
  | _ => []

structure ZeroSpan where
  start : Nat
  len : Nat

def longestZeroSpan : List Nat → Nat → ZeroSpan → ZeroSpan → ZeroSpan
  | [], _, _, longest => longest
  | segment :: rest, i, current, longest =>
      if segment = 0 then
        let current : ZeroSpan := ⟨if current.len = 0 then i else current.start, current.len + 1⟩
        longestZeroSpan rest (i + 1) current (if current.len > longest.len then current else longest)
      else longestZeroSpan rest (i + 1) ⟨0, 0⟩ longest

def segmentsText (segments : List Nat) : String :=
  ":".intercalate (segments.map (fun segment => String.ofList (Nat.toDigits 16 segment)))

def ipv6Text (octets : List UInt8) : String :=
  let segments := segments octets
  if segments.take 6 = [0, 0, 0, 0, 0, 0xffff] then "::ffff:" ++ ipv4Text (octets.drop 12)
  else
    let longest := longestZeroSpan segments 0 ⟨0, 0⟩ ⟨0, 0⟩
    if longest.len > 1 then
      segmentsText (segments.take longest.start) ++ "::" ++
        segmentsText (segments.drop (longest.start + longest.len))
    else segmentsText segments

def getByte (message : String) : List UInt8 → Except MasqueError (UInt8 × List UInt8)
  | [] => .error (.connectionError message)
  | b :: rest => .ok (b, rest)

def getSlice (message : String) (n : Nat) (bytes : List UInt8) :
    Except MasqueError (List UInt8 × List UInt8) :=
  if bytes.length < n then .error (.connectionError message) else .ok (bytes.take n, bytes.drop n)

-- One turn of the loop of a capsule's parser: the entry at the front and what follows it.
structure EntryParser where
  entry : List UInt8 → Except MasqueError (String × List UInt8)
  shorter : ∀ {bytes text rest}, entry bytes = .ok (text, rest) → rest.length < bytes.length

def EntryParser.parse (p : EntryParser) (payload : List UInt8) :
    Except MasqueError (List String) :=
  match payload with
  | [] => .ok []
  | b :: bs =>
      match _h : p.entry (b :: bs) with
      | .error e => .error e
      | .ok (text, rest) => (p.parse rest).map (text :: ·)
termination_by payload.length
decreasing_by exact p.shorter _h

def assignedAddress (bytes : List UInt8) : Except MasqueError (String × List UInt8) := do
  let (_, requestIdLen) ← decodeVarint bytes
  let (ipVersion, rest) ← getByte "truncated AddressAssign capsule" (bytes.drop requestIdLen)
  match ipVersion.toNat with
  | 4 =>
      let (addr, rest) ← getSlice "truncated AddressAssign IPv4" 4 rest
      let (pre, rest) ← getByte "missing AddressAssign IPv4 prefix" rest
      .ok (ipv4Text addr ++ "/" ++ toString pre.toNat, rest)
  | 6 =>
      let (addr, rest) ← getSlice "truncated AddressAssign IPv6" 16 rest
      let (pre, rest) ← getByte "missing AddressAssign IPv6 prefix" rest
      .ok (ipv6Text addr ++ "/" ++ toString pre.toNat, rest)
  | other =>
      .error (.connectionError ("invalid AddressAssign IP version: " ++ toString other))

def advertisedRoute (bytes : List UInt8) : Except MasqueError (String × List UInt8) := do
  let (ipVersion, rest) ← getByte "truncated RouteAdvertisement capsule" bytes
  match ipVersion.toNat with
  | 4 =>
      let (first, rest) ← getSlice "truncated RouteAdvertisement IPv4" 4 rest
      let (last, rest) ← getSlice "truncated RouteAdvertisement IPv4" 4 rest
      let (ipProto, rest) ← getByte "missing RouteAdvertisement IPv4 protocol" rest
      .ok (ipv4Text first ++ "-" ++ ipv4Text last ++ " proto=" ++ toString ipProto.toNat, rest)
  | 6 =>
      let (first, rest) ← getSlice "truncated RouteAdvertisement IPv6" 16 rest
      let (last, rest) ← getSlice "truncated RouteAdvertisement IPv6" 16 rest
      let (ipProto, rest) ← getByte "missing RouteAdvertisement IPv6 protocol" rest
      .ok (ipv6Text first ++ "-" ++ ipv6Text last ++ " proto=" ++ toString ipProto.toNat, rest)
  | other =>
      .error (.connectionError ("invalid RouteAdvertisement IP version: " ++ toString other))

theorem getByte_length {message : String} {bytes rest : List UInt8} {b : UInt8}
    (h : getByte message bytes = .ok (b, rest)) : rest.length < bytes.length := by
  cases bytes with
  | nil => cases h
  | cons b bs =>
      cases h
      exact Nat.lt_succ_self _

theorem getSlice_length {message : String} {n : Nat} {bytes slice rest : List UInt8}
    (h : getSlice message n bytes = .ok (slice, rest)) : rest.length ≤ bytes.length := by
  simp only [getSlice] at h
  split at h
  · cases h
  · cases h
    rw [List.length_drop]
    exact Nat.sub_le ..

theorem assignedAddress_shorter {bytes rest : List UInt8} {text : String}
    (h : assignedAddress bytes = .ok (text, rest)) : rest.length < bytes.length := by
  obtain ⟨⟨_, requestIdLen⟩, _, h⟩ := Result.bind_eq_ok.mp h
  obtain ⟨⟨ipVersion, rest₁⟩, hversion, h⟩ := Result.bind_eq_ok.mp h
  have hlen := getByte_length hversion
  rw [List.length_drop] at hlen
  dsimp only at h
  split at h
  · obtain ⟨⟨addr, rest₂⟩, haddr, h⟩ := Result.bind_eq_ok.mp h
    obtain ⟨⟨pre, rest₃⟩, hpre, h⟩ := Result.bind_eq_ok.mp h
    cases h
    have haddr : rest₂.length ≤ rest₁.length := getSlice_length haddr
    have hpre : rest₃.length < rest₂.length := getByte_length hpre
    show rest₃.length < bytes.length
    omega
  · obtain ⟨⟨addr, rest₂⟩, haddr, h⟩ := Result.bind_eq_ok.mp h
    obtain ⟨⟨pre, rest₃⟩, hpre, h⟩ := Result.bind_eq_ok.mp h
    cases h
    have haddr : rest₂.length ≤ rest₁.length := getSlice_length haddr
    have hpre : rest₃.length < rest₂.length := getByte_length hpre
    show rest₃.length < bytes.length
    omega
  · cases h

theorem advertisedRoute_shorter {bytes rest : List UInt8} {text : String}
    (h : advertisedRoute bytes = .ok (text, rest)) : rest.length < bytes.length := by
  obtain ⟨⟨ipVersion, rest₁⟩, hversion, h⟩ := Result.bind_eq_ok.mp h
  have hlen := getByte_length hversion
  dsimp only at h
  split at h
  · obtain ⟨⟨first, rest₂⟩, hfirst, h⟩ := Result.bind_eq_ok.mp h
    obtain ⟨⟨last, rest₃⟩, hlast, h⟩ := Result.bind_eq_ok.mp h
    obtain ⟨⟨ipProto, rest₄⟩, hproto, h⟩ := Result.bind_eq_ok.mp h
    cases h
    have hfirst : rest₂.length ≤ rest₁.length := getSlice_length hfirst
    have hlast : rest₃.length ≤ rest₂.length := getSlice_length hlast
    have hproto : rest₄.length < rest₃.length := getByte_length hproto
    show rest₄.length < bytes.length
    omega
  · obtain ⟨⟨first, rest₂⟩, hfirst, h⟩ := Result.bind_eq_ok.mp h
    obtain ⟨⟨last, rest₃⟩, hlast, h⟩ := Result.bind_eq_ok.mp h
    obtain ⟨⟨ipProto, rest₄⟩, hproto, h⟩ := Result.bind_eq_ok.mp h
    cases h
    have hfirst : rest₂.length ≤ rest₁.length := getSlice_length hfirst
    have hlast : rest₃.length ≤ rest₂.length := getSlice_length hlast
    have hproto : rest₄.length < rest₃.length := getByte_length hproto
    show rest₄.length < bytes.length
    omega
  · cases h

def parseAddressAssignCapsule (payload : List UInt8) : Except MasqueError (List String) :=
  EntryParser.parse ⟨assignedAddress, assignedAddress_shorter⟩ payload

def parseRouteAdvertisementCapsule (payload : List UInt8) : Except MasqueError (List String) :=
  EntryParser.parse ⟨advertisedRoute, advertisedRoute_shorter⟩ payload

structure MasqueControlState where
  recvBuf : List UInt8
  assignedAddresses : List String
  advertisedRoutes : List String
deriving DecidableEq, Repr

namespace MasqueControlState

def default : MasqueControlState := ⟨[], [], []⟩

def processCapsule (st : MasqueControlState) (capsuleType : UInt64) (payload : List UInt8) :
    Except MasqueError MasqueControlState :=
  match capsuleType with
  | 0x01 => do
      let addresses ← parseAddressAssignCapsule payload
      .ok { st with assignedAddresses := st.assignedAddresses ++ addresses }
  | 0x03 => do
      let routes ← parseRouteAdvertisementCapsule payload
      .ok { st with advertisedRoutes := st.advertisedRoutes ++ routes }
  | _ => .ok st

end MasqueControlState

-- The targets have 64-bit addresses.
def usizeBits : Nat := 64

def asUsize (value : UInt64) : Nat := value.toNat % 2 ^ usizeBits

def checkedAdd (m n : Nat) : Option Nat := if m + n < 2 ^ usizeBits then some (m + n) else none

structure Frame where
  capsuleType : UInt64
  payload : List UInt8
  rest : List UInt8

def splitFrame (buf : List UInt8) : Except MasqueError (Option Frame) :=
  match tryDecodeVarint buf with
  | none => .ok none
  | some (capsuleType, capsuleTypeLen) =>
      match tryDecodeVarint (buf.drop capsuleTypeLen) with
      | none => .ok none
      | some (capsuleLen, capsuleLenLen) =>
          match (checkedAdd capsuleTypeLen capsuleLenLen).bind
              (fun len => checkedAdd len (asUsize capsuleLen)) with
          | none => .error (.connectionError "capsule frame length overflow")
          | some frameLen =>
              if buf.length < frameLen then .ok none
              else
                .ok (some ⟨capsuleType, (buf.take frameLen).drop (capsuleTypeLen + capsuleLenLen),
                  buf.drop frameLen⟩)

theorem decodeVarint_len {buf : List UInt8} {value : UInt64} {len : Nat}
    (h : tryDecodeVarint buf = some (value, len)) : 0 < len ∧ len ≤ buf.length := by
  cases buf with
  | nil => cases h
  | cons first tail =>
      simp only [tryDecodeVarint, decodeVarint] at h
      split at h
      · cases h
      · next hlen =>
          cases h
          refine ⟨?_, Nat.le_of_not_lt hlen⟩
          rw [Nat.one_shiftLeft]
          exact Nat.two_pow_pos _

theorem checkedAdd_some {m n k : Nat} (h : checkedAdd m n = some k) : k = m + n := by
  simp only [checkedAdd] at h
  split at h
  · cases h
    rfl
  · cases h

theorem splitFrame_shorter {buf : List UInt8} {frame : Frame}
    (h : splitFrame buf = .ok (some frame)) : frame.rest.length < buf.length := by
  simp only [splitFrame] at h
  split at h
  · cases h
  · next capsuleType capsuleTypeLen htype =>
      obtain ⟨hpos, hle⟩ := decodeVarint_len htype
      split at h
      · cases h
      · next capsuleLen capsuleLenLen _ =>
          split at h
          · cases h
          · next frameLen hadd =>
              obtain ⟨len, hlen, hframe⟩ := Option.bind_eq_some_iff.mp hadd
              have hlen := checkedAdd_some hlen
              have hframe := checkedAdd_some hframe
              split at h
              · cases h
              · cases h
                rw [List.length_drop]
                omega

theorem processCapsule_recvBuf {st st' : MasqueControlState} {capsuleType : UInt64}
    {payload : List UInt8} (h : st.processCapsule capsuleType payload = .ok st') :
    st'.recvBuf = st.recvBuf := by
  simp only [MasqueControlState.processCapsule] at h
  split at h
  · obtain ⟨addresses, _, h⟩ := Result.bind_eq_ok.mp h
    cases h
    rfl
  · obtain ⟨routes, _, h⟩ := Result.bind_eq_ok.mp h
    cases h
    rfl
  · cases h
    rfl

namespace MasqueControlState

def drainCapsules (st : MasqueControlState) : Except MasqueError Unit × MasqueControlState :=
  match hf : splitFrame st.recvBuf with
  | .error e => (.error e, st)
  | .ok none => (.ok (), st)
  | .ok (some frame) =>
      match hp : { st with recvBuf := frame.rest }.processCapsule frame.capsuleType frame.payload with
      | .error e => (.error e, { st with recvBuf := frame.rest })
      | .ok st' =>
          have : st'.recvBuf.length < st.recvBuf.length :=
            processCapsule_recvBuf hp ▸ splitFrame_shorter hf
          drainCapsules st'
termination_by st.recvBuf.length

def processControlChunk (st : MasqueControlState) (chunk : List UInt8) (fin : Bool) :
    Except MasqueError Unit × MasqueControlState :=
  match { st with recvBuf := st.recvBuf ++ chunk }.drainCapsules with
  | (.error e, st) => (.error e, st)
  | (.ok (), st) =>
      if fin && !st.recvBuf.isEmpty then
        (.error (.connectionError "truncated MASQUE control capsule"), st)
      else (.ok (), st)

-- The frames of a control stream's body, the last one with fin; an error ends the worker.
def processControlChunks (st : MasqueControlState) :
    List (List UInt8) → Except MasqueError Unit × MasqueControlState
  | [] => (.ok (), st)
  | [chunk] => st.processControlChunk chunk true
  | chunk :: chunks =>
      match st.processControlChunk chunk false with
      | (.error e, st) => (.error e, st)
      | (.ok (), st) => st.processControlChunks chunks

end MasqueControlState

end Usque
