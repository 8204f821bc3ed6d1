import Usque.Stack.NetworkStack

namespace Usque

inductive DnsError where
  | queryFailed (message : String)
  | timeout
  | noRecords
  | invalidResponse
  | encodeError (message : String)
  | decodeError (message : String)
  | parseError (message : String)
  | socketError (message : String)
deriving DecidableEq, Repr

inductive DnsRecordType where
  | a
  | aaaa
deriving DecidableEq, Repr

structure DnsRecord where
  address : IpAddress
  ttl : UInt32
deriving DecidableEq, Repr

inductive RData where
  | a (address : Ipv4Address)
  | aaaa (address : Ipv6Address)
  | other
deriving DecidableEq, Repr

inductive ResponseCode where
  | noError
  | other (debug : String)
deriving DecidableEq, Repr

-- A question's type is none when it is neither A nor AAAA.
structure DnsMessage (Name : Type) where
  id : UInt16
  isResponse : Bool
  responseCode : ResponseCode
  queries : List (Name × Option DnsRecordType)
  answers : List (UInt32 × RData)

structure Hickory where
  Name : Type
  nameFromStr : String → Except String Name
  queryToBytes : UInt16 → Name → DnsRecordType → Except String (List UInt8)
  messageFromBytes : List UInt8 → Except String (DnsMessage Name)

structure Statics where
  dnsGroupId : UInt32 := 1
  dnsServerIndex : UInt64 := 0
  dnsTransactionId : UInt16 := 1
  dnsPortCounter : UInt16 := 0
deriving DecidableEq, Repr

def StackError.display : StackError → String
  | .socketError message => "socket error: " ++ message
  | .ioError message => "IO error: " ++ message
  | .pollPanic => "smoltcp poll panicked"

def dnsPort : UInt16 := 53

def dnsPortRangeStart : UInt16 := 49152

def dnsPortRangeSize : UInt16 := 16384

def getDnsLocalPort (statics : Statics) : UInt16 × Statics :=
  (dnsPortRangeStart + statics.dnsPortCounter % dnsPortRangeSize,
    { statics with dnsPortCounter := statics.dnsPortCounter + 1 })

def buildDnsQuery (H : Hickory) (statics : Statics) (domain : String)
    (recordType : DnsRecordType) : Except DnsError (UInt16 × List UInt8) × Statics :=
  let transactionId := statics.dnsTransactionId
  let statics := { statics with dnsTransactionId := statics.dnsTransactionId + 1 }
  match H.nameFromStr domain with
  | .error e => (.error (.encodeError ("invalid domain: " ++ e)), statics)
  | .ok name =>
      match H.queryToBytes transactionId name recordType with
      | .error e => (.error (.encodeError e), statics)
      | .ok bytes => (.ok (transactionId, bytes), statics)

def validateDnsResponse {Name : Type} (message : DnsMessage Name) : Except DnsError Unit :=
  if !message.isResponse then .error .invalidResponse
  else
    match message.responseCode with
    | .noError => .ok ()
    | .other debug => .error (.queryFailed ("RCODE: " ++ debug))

def recordOf : UInt32 × RData → Option DnsRecord
  | (ttl, .a address) => some ⟨.ipv4 address, ttl⟩
  | (ttl, .aaaa address) => some ⟨.ipv6 address, ttl⟩
  | (_, .other) => none

def extractDnsRecords {Name : Type} (message : DnsMessage Name) : Except DnsError (List DnsRecord) :=
  let records := message.answers.filterMap recordOf
  if records.isEmpty then .error .noRecords else .ok records

def parseDnsResponseWithId (H : Hickory) (data : List UInt8) :
    Except DnsError (UInt16 × Except DnsError (List DnsRecord)) :=
  match H.messageFromBytes data with
  | .error e => .error (.decodeError e)
  | .ok message =>
      .ok (message.id,
        match validateDnsResponse message with
        | .ok () => extractDnsRecords message
        | .error e => .error e)

end Usque
