import Usque.Dns

namespace Usque

namespace Reference

-- A codec of the DNS message format for ASCII names, without compression in questions.
abbrev DomainName := List (List UInt8)

def typeCode : DnsRecordType → UInt8
  | .a => 1
  | .aaaa => 28

def typeOfCode (hi lo : UInt8) : Option DnsRecordType :=
  if hi ≠ 0 then none
  else if lo = typeCode .a then some .a
  else if lo = typeCode .aaaa then some .aaaa
  else none

def domainName (domain : String) : Except String DomainName :=
  let labels := (domain.toList.splitOn '.').map (fun label => label.map (fun c => c.toNat.toUInt8))
  if labels.all (fun label => 0 < label.length ∧ label.length ≤ 63) then .ok labels
  else .error "malformed label"

def encodeName (name : DomainName) : List UInt8 :=
  name.flatMap (fun label => label.length.toUInt8 :: label) ++ [0]

def octets (n : UInt16) : List UInt8 := [(n >>> 8).toUInt8, n.toUInt8]

def ofOctets (hi lo : UInt8) : UInt16 := hi.toUInt16 <<< 8 ||| lo.toUInt16

def encodeQuestion (name : DomainName) (queryType : DnsRecordType) : List UInt8 :=
  encodeName name ++ [0, typeCode queryType, 0, 1]

def encodeQuery (id : UInt16) (name : DomainName) (queryType : DnsRecordType) : List UInt8 :=
  octets id ++ [1, 0, 0, 1, 0, 0, 0, 0, 0, 0] ++ encodeQuestion name queryType

-- A name may end in a pointer to an earlier one; the pointer is skipped.
def decodeName : Nat → List UInt8 → Option (DomainName × List UInt8)
  | 0, _ => none
  | _ + 1, [] => none
  | _ + 1, 0 :: rest => some ([], rest)
  | fuel + 1, n :: rest =>
      if n ≥ 192 then some ([], rest.drop 1)
      else if rest.length < n.toNat then none
      else do
        let (labels, rest') ← decodeName fuel (rest.drop n.toNat)
        some (rest.take n.toNat :: labels, rest')

def decodeQuestions : Nat → List UInt8 →
    Option (List (DomainName × Option DnsRecordType) × List UInt8)
  | 0, data => some ([], data)
  | count + 1, data => do
      let (name, rest) ← decodeName data.length data
      match rest with
      | hi :: lo :: _ :: _ :: rest =>
          let (questions, rest) ← decodeQuestions count rest
          some ((name, typeOfCode hi lo) :: questions, rest)
      | _ => none

def bigEndian (data : List UInt8) : Nat := data.foldl (fun n b => n * 256 + b.toNat) 0

def rdataOf (queryType : Option DnsRecordType) (data : List UInt8) : RData :=
  match queryType with
  | some .a => .a (BitVec.ofNat 32 (bigEndian data))
  | some .aaaa => .aaaa (BitVec.ofNat 128 (bigEndian data))
  | none => .other

def decodeAnswers : Nat → List UInt8 → Option (List (UInt32 × RData))
  | 0, _ => some []
  | count + 1, data => do
      let (_, rest) ← decodeName data.length data
      match rest with
      | hi :: lo :: _ :: _ :: t0 :: t1 :: t2 :: t3 :: l0 :: l1 :: rest =>
          let length := (ofOctets l0 l1).toNat
          if rest.length < length then none
          else
            let answers ← decodeAnswers count (rest.drop length)
            some (((bigEndian [t0, t1, t2, t3]).toUInt32,
              rdataOf (typeOfCode hi lo) (rest.take length)) :: answers)
      | _ => none

def responseCodes : List String := ["FormErr", "ServFail", "NXDomain", "NotImp", "Refused"]

def responseCode (code : UInt8) : ResponseCode :=
  if code = 0 then .noError else .other (responseCodes.getD (code.toNat - 1) "Unknown")

def decodeMessage (data : List UInt8) : Option (DnsMessage DomainName) :=
  match data with
  | i0 :: i1 :: f0 :: f1 :: q0 :: q1 :: a0 :: a1 :: _ :: _ :: _ :: _ :: rest => do
      let (queries, rest) ← decodeQuestions (ofOctets q0 q1).toNat rest
      let answers ← decodeAnswers (ofOctets a0 a1).toNat rest
      some {
        id := ofOctets i0 i1
        isResponse := f0 ≥ 128
        responseCode := responseCode (f1 % 16)
        queries
        answers }
  | _ => none

def hickory : Hickory where
  Name := DomainName
  nameFromStr := domainName
  queryToBytes := fun id name queryType => .ok (encodeQuery id name queryType)
  messageFromBytes := fun data =>
    match decodeMessage data with
    | none => .error "unexpected end of input"
    | some message => .ok message

end Reference

end Usque
