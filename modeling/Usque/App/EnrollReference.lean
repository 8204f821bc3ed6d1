import Mathlib.Tactic.SplitIfs
import Usque.App.Enroll
import Usque.Lib.Base64

namespace Usque

namespace ReferenceJson

def quote : Char := Char.ofNat 0x22

def backslash : Char := Char.ofNat 0x5c

def shortEscape (c : Char) : Option Char :=
  if c = quote then some quote
  else if c = backslash then some backslash
  else if c = Char.ofNat 10 then some 'n'
  else if c = Char.ofNat 13 then some 'r'
  else if c = Char.ofNat 9 then some 't'
  else none

def unescape (e : Char) : Option Char :=
  if e = quote then some quote
  else if e = backslash then some backslash
  else if e = 'n' then some (Char.ofNat 10)
  else if e = 'r' then some (Char.ofNat 13)
  else if e = 't' then some (Char.ofNat 9)
  else none

def escape (c : Char) : List Char :=
  match shortEscape c with
  | some e => [backslash, e]
  | none => [c]

-- The characters that are written without \u.
def plain (c : Char) : Bool := (shortEscape c).isSome || 32 ≤ c.toNat

def readString : Bool → List Char → Option (List Char × List Char)
  | _, [] => none
  | true, c :: rest => do
      let c ← unescape c
      let (value, rest) ← readString false rest
      some (c :: value, rest)
  | false, c :: rest =>
      if c = quote then some ([], rest)
      else if c = backslash then readString true rest
      else do
        let (value, rest) ← readString false rest
        some (c :: value, rest)

-- What stands before each value and after the last one.
def labels : List String :=
  ["\x7b\n  \"private_key\": \"", ",\n  \"endpoint_v4\": \"", ",\n  \"endpoint_v6\": \"",
    ",\n  \"endpoint_pub_key\": \"", ",\n  \"license\": \"", ",\n  \"id\": \"",
    ",\n  \"access_token\": \"", ",\n  \"ipv4\": \"", ",\n  \"ipv6\": \""]

def closing : String := "\n\x7d"

def values (cfg : Config) : List String :=
  [cfg.privateKey, cfg.endpointV4, cfg.endpointV6, cfg.endpointPubKey, cfg.license, cfg.id,
    cfg.accessToken, cfg.ipv4, cfg.ipv6]

def ofValues : List String → Option Config
  | [privateKey, endpointV4, endpointV6, endpointPubKey, license, id, accessToken, ipv4, ipv6] =>
      some ⟨privateKey, endpointV4, endpointV6, endpointPubKey, license, id, accessToken, ipv4,
        ipv6⟩
  | _ => none

def render : List String → List String → List Char
  | label :: labels, value :: values =>
      label.toList ++ (value.toList.flatMap escape ++ quote :: render labels values)
  | _, _ => closing.toList

def strip (label cs : List Char) : Option (List Char) :=
  if label.isPrefixOf cs then some (cs.drop label.length) else none

def readValues : List String → List Char → Option (List String)
  | [], cs => if cs = closing.toList then some [] else none
  | label :: labels, cs => do
      let cs ← strip label.toList cs
      let (value, cs) ← readString false cs
      let values ← readValues labels cs
      some (String.ofList value :: values)

theorem unescape_shortEscape {c e : Char} (h : shortEscape c = some e) : unescape e = some c := by
  simp only [shortEscape] at h
  split_ifs at h <;> subst_vars <;> cases h <;> decide

theorem shortEscape_none {c : Char} (h : shortEscape c = none) : c ≠ quote ∧ c ≠ backslash := by
  simp only [shortEscape] at h
  split_ifs at h with hquote hbackslash
  exact ⟨hquote, hbackslash⟩

theorem readString_escape (value rest : List Char) :
    readString false (value.flatMap escape ++ quote :: rest) = some (value, rest) := by
  induction value with
  | nil => simp only [List.flatMap_nil, List.nil_append, readString, if_true]
  | cons c value ih =>
      rw [List.flatMap_cons, List.append_assoc]
      cases he : shortEscape c with
      | some e =>
          have hne : backslash ≠ quote := by decide
          simp only [escape, he, List.cons_append, List.nil_append, readString, if_neg hne, if_true,
            unescape_shortEscape he, ih, Option.bind_eq_bind, Option.bind_some]
      | none =>
          obtain ⟨hquote, hbackslash⟩ := shortEscape_none he
          simp only [escape, he, List.cons_append, List.nil_append, readString, if_neg hquote,
            if_neg hbackslash, ih, Option.bind_eq_bind, Option.bind_some]

theorem strip_append (label cs : List Char) : strip label (label ++ cs) = some cs := by
  rw [strip, if_pos (List.isPrefixOf_iff_prefix.mpr (List.prefix_append ..)), List.drop_left]

theorem readValues_render {labels values : List String} (h : labels.length = values.length) :
    readValues labels (render labels values) = some values := by
  induction labels generalizing values with
  | nil =>
      cases List.length_eq_zero_iff.mp h.symm
      simp only [render, readValues, if_true]
  | cons label labels ih =>
      cases values with
      | nil => cases h
      | cons value values =>
          simp only [render, readValues, strip_append, readString_escape,
            ih (Nat.succ.inj h), Option.bind_eq_bind, Option.bind_some, String.ofList_toList]

theorem ofValues_values (cfg : Config) : ofValues (values cfg) = some cfg := rfl

def text (cfg : Config) : String := String.ofList (render labels (values cfg))

def isPlain (cfg : Config) : Bool := (values cfg).all (fun value => value.toList.all plain)

theorem readValues_text (cfg : Config) :
    (readValues labels (text cfg).toList).bind ofValues = some cfg := by
  have hlen : labels.length = (values cfg).length := rfl
  rw [text, String.toList_ofList, readValues_render hlen, Option.bind_some, ofValues_values]

end ReferenceJson

-- The values of serde_json wherever no character needs a \u.
def referenceJson : SerdeJson where
  fromStr := fun text =>
    match (ReferenceJson.readValues ReferenceJson.labels text.toList).bind
      ReferenceJson.ofValues with
    | some cfg => .ok cfg
    | none => .error "expected value at line 1 column 1"
  toStringPretty := fun cfg =>
    if ReferenceJson.isPlain cfg then .ok (ReferenceJson.text cfg)
    else .error "unsupported character"

def referenceBase64 : Base64Engine where
  encode := fun bytes => String.ofList (Base64.encode bytes)
  decode := fun text =>
    match Base64.decode text.toList with
    | some bytes => .ok bytes
    | none => .error "Invalid padding"

-- The private keys 1 and 2 of P-256.
inductive ReferenceKey where
  | one
  | two
deriving DecidableEq, Repr

namespace ReferenceKey

def bigEndian : Nat → Nat → List UInt8
  | 0, _ => []
  | width + 1, n => UInt8.ofNat (n / 256 ^ width) :: bigEndian width n

def scalar : ReferenceKey → Nat
  | .one => 1
  | .two => 2

def point : ReferenceKey → List UInt8
  | .one =>
      bigEndian 32 0x6b17d1f2e12c4247f8bce6e563a440f277037d812deb33a0f4a13945d898c296 ++
        bigEndian 32 0x4fe342e2fe1a7f9b8ee7eb4a7c0f9e162bce33576b315ececbb6406837bf51f5
  | .two =>
      bigEndian 32 0x7cf27b188d034f7e8a52380304b51ac3c08969e277f21b35a60b48fc47669978 ++
        bigEndian 32 0x07775510db8ed040293d9ac69f7430dbba7dade63ce982299e04b79d227873d1

def sec1Der (key : ReferenceKey) : List UInt8 :=
  [0x30, 0x77, 0x02, 0x01, 0x01, 0x04, 0x20] ++ bigEndian 32 key.scalar ++
    [0xa0, 0x0a, 0x06, 0x08, 0x2a, 0x86, 0x48, 0xce, 0x3d, 0x03, 0x01, 0x07,
      0xa1, 0x44, 0x03, 0x42, 0x00, 0x04] ++ key.point

def publicKeyDer (key : ReferenceKey) : List UInt8 :=
  [0x30, 0x59, 0x30, 0x13, 0x06, 0x07, 0x2a, 0x86, 0x48, 0xce, 0x3d, 0x02, 0x01, 0x06, 0x08, 0x2a,
    0x86, 0x48, 0xce, 0x3d, 0x03, 0x01, 0x07, 0x03, 0x42, 0x00, 0x04] ++ key.point

end ReferenceKey

def referenceP256 : P256 where
  SigningKey := ReferenceKey
  fromSec1Der := fun der =>
    if der = ReferenceKey.one.sec1Der then .ok .one
    else if der = ReferenceKey.two.sec1Der then .ok .two
    else .error "ASN.1 error"
  fromPkcs8Der := fun _ => .error "ASN.1 error"
  toSec1Der := fun key => .ok key.sec1Der
  toPublicKeyDer := fun key => .ok key.publicKeyDer

def referenceCrates : Crates where
  json := referenceJson
  base64 := referenceBase64
  p256 := referenceP256

theorem ReferenceKey.publicKeyDer_ne :
    ReferenceKey.two.publicKeyDer ≠ ReferenceKey.one.publicKeyDer := by
  decide +kernel

theorem ReferenceJson.digit_plain (n : Nat) : ReferenceJson.plain (Base64.digit n) = true := by
  by_cases h : n < 64
  · have hall : ∀ n < 64, ReferenceJson.plain (Base64.digit n) = true := by decide
    exact hall n h
  · have hslash : Base64.digit n = '/' := by
      simp only [Base64.digit, show ¬ n < 26 by omega, show ¬ n < 52 by omega,
        show ¬ n < 62 by omega, show ¬ n = 62 by omega, if_false]
    rw [hslash]
    decide

theorem ReferenceJson.base64_plain (bytes : List UInt8) :
    (referenceCrates.base64.encode bytes).toList.all ReferenceJson.plain = true := by
  have hpad : ReferenceJson.plain '=' = true := by decide
  simp only [referenceCrates, referenceBase64, String.toList_ofList]
  induction bytes using Base64.encode.induct with
  | case1 a b c rest ih =>
      simp only [Base64.encode, List.all_cons, ReferenceJson.digit_plain, ih, Bool.and_self]
  | case2 a b | case3 a =>
      simp only [Base64.encode, List.all_cons, List.all_nil, ReferenceJson.digit_plain, hpad,
        Bool.and_self]
  | case4 => rfl

theorem ReferenceJson.isPlain_of {cfg : Config} {bytes : List UInt8}
    (hkey : cfg.privateKey = referenceCrates.base64.encode bytes)
    (hrest : (ReferenceJson.values cfg).tail.all
      (fun value => value.toList.all ReferenceJson.plain) = true) :
    ReferenceJson.isPlain cfg = true := by
  have hvalues : ReferenceJson.values cfg = cfg.privateKey :: (ReferenceJson.values cfg).tail := rfl
  rw [ReferenceJson.isPlain, hvalues, List.all_cons, hkey, ReferenceJson.base64_plain, hrest]
  rfl

theorem toStringPretty_plain {cfg : Config} (h : ReferenceJson.isPlain cfg = true) :
    referenceCrates.json.toStringPretty cfg = .ok (ReferenceJson.text cfg) := by
  simp only [referenceCrates, referenceJson, h, if_true]

theorem referenceCrates_lawful : referenceCrates.Lawful where
  fromStr := fun {cfg text} h => by
    simp only [referenceCrates, referenceJson] at h ⊢
    split at h
    · cases h
      simp only [ReferenceJson.readValues_text]
    · cases h
  decode := fun bytes => by
    simp only [referenceCrates, referenceBase64, String.toList_ofList, Base64.decode_encode]
  fromSec1Der := fun {key der} h => by
    cases h
    cases key with
    | one => simp only [referenceCrates, referenceP256, if_true]
    | two =>
        have hne : ReferenceKey.two.sec1Der ≠ ReferenceKey.one.sec1Der := by decide +kernel
        simp only [referenceCrates, referenceP256, if_neg hne, if_true]

end Usque
