import Usque.Dns
import Usque.Lib.Table

namespace Usque

abbrev OneshotId := Nat

inductive ManagerError where
  | channelClosed
  | responseChannelClosed
  | notConnected
  | overloaded
  | dns (e : DnsError)
  | stack (e : StackError)
deriving DecidableEq, Repr

structure DnsQueryState where
  groupId : UInt32
  queryType : DnsRecordType
deriving DecidableEq, Repr

abbrev DnsResult := Except DnsError (List DnsRecord)

structure DnsQueryGroup where
  domain : String
  response : Option OneshotId
  responseAll : Option OneshotId
  ipv4Result : Option DnsResult
  ipv6Result : Option DnsResult
  createdAt : Time
  preferIpv6 : Bool

structure DnsCacheValue where
  records : List (IpAddress × Time)
deriving DecidableEq, Repr

abbrev DnsCache := Table String DnsCacheValue

def isIpv6 (ip : IpAddress) : Bool := ip.version = .ipv6

def pickNth (targetV6 : Bool) (targetIdx : Nat) : List IpAddress → Nat → Option IpAddress
  | [], _ => none
  | ip :: ips, idx =>
      if isIpv6 ip = targetV6 then
        if idx = targetIdx then some ip else pickNth targetV6 targetIdx ips (idx + 1)
      else pickNth targetV6 targetIdx ips idx

def validIps (now : Time) (value : DnsCacheValue) : List IpAddress :=
  (value.records.filter (fun r => now < r.2)).map (·.1)

def dnsCacheGet (cache : DnsCache) (now : Time) (draw : Nat) (domain : String)
    (preferIpv6 : Bool) : Option IpAddress := do
  let value ← cache.lookup domain
  let ips := validIps now value
  let v6Count := (ips.filter isIpv6).length
  let v4Count := (ips.filter (!isIpv6 ·)).length
  if v6Count + v4Count = 0 then none
  else
    let target :=
      if preferIpv6 then
        if v6Count > 0 then (true, v6Count) else (false, v4Count)
      else if v4Count > 0 then (false, v4Count)
      else (true, v6Count)
    pickNth target.1 (draw % target.2) ips 0

def dnsCacheGetAll (cache : DnsCache) (now : Time) (domain : String) : Option (List IpAddress) := do
  let value ← cache.lookup domain
  let ips := validIps now value
  if ips.isEmpty then none else some ips

def secs (n : Nat) : Time := n * 1000000

def dnsCacheInsert (cache : DnsCache) (now : Time) (domain : String) (records : List DnsRecord) :
    DnsCache :=
  AList.insert domain ⟨records.map (fun r => (r.address, now + secs r.ttl.toNat))⟩ cache

structure DnsSockets where
  v4 : Option SocketHandle
  v6 : Option SocketHandle
deriving DecidableEq, Repr

namespace DnsSockets

def new : DnsSockets := ⟨none, none⟩

def slot (d : DnsSockets) : IpVersion → Option SocketHandle
  | .ipv4 => d.v4
  | .ipv6 => d.v6

def setSlot (d : DnsSockets) (version : IpVersion) (handle : SocketHandle) : DnsSockets :=
  match version with
  | .ipv4 => { d with v4 := some handle }
  | .ipv6 => { d with v6 := some handle }

def handles (d : DnsSockets) : List SocketHandle := d.v4.toList ++ d.v6.toList

end DnsSockets

end Usque
