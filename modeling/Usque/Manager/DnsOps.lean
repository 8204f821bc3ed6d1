import Usque.Manager.Runtime

namespace Usque

def firstAddress : Option DnsResult → Option IpAddress
  | some (.ok (record :: _)) => some record.address
  | _ => none

def groupError (first second : Option DnsResult) : DnsError :=
  match first, second with
  | some (.error e), second =>
      if e ≠ .noRecords then e
      else
        match second with
        | some (.error e) => e
        | _ => .noRecords
  | _, some (.error e) => e
  | _, _ => .noRecords

def pickResult (first second : Option DnsResult) : Option (Except DnsError IpAddress) :=
  match firstAddress first, firstAddress second with
  | some ip, _ => some (.ok ip)
  | none, some ip => some (.ok ip)
  | none, none =>
      if first.isSome && second.isSome then some (.error (groupError first second)) else none

namespace DnsQueryGroup

def result (group : DnsQueryGroup) : Option (Except DnsError IpAddress) :=
  if group.preferIpv6 then pickResult group.ipv6Result group.ipv4Result
  else pickResult group.ipv4Result group.ipv6Result

def record (group : DnsQueryGroup) (queryType : DnsRecordType) (result : DnsResult) :
    DnsQueryGroup :=
  match queryType with
  | .a => { group with ipv4Result := some result }
  | .aaaa => { group with ipv6Result := some result }

def recordsOf : Option DnsResult → List DnsRecord
  | some (.ok records) => records
  | _ => []

def allRecords (group : DnsQueryGroup) : List DnsRecord :=
  recordsOf group.ipv4Result ++ recordsOf group.ipv6Result

def complete (group : DnsQueryGroup) : Bool :=
  group.ipv4Result.isSome && group.ipv6Result.isSome

end DnsQueryGroup

namespace RuntimeState

variable {S : Smoltcp} (H : Hickory)

def ensureSocket (rt : RuntimeState S) (server : IpAddress) :
    Except DnsError SocketHandle × RuntimeState S :=
  match rt.dnsSockets.slot server.version with
  | some handle => (.ok handle, rt)
  | none =>
      let (localPort, statics) := getDnsLocalPort rt.shared.statics
      let rt := rt.setStatics statics
      match rt.stack.createUdpSocketFor localPort server with
      | .error e => (.error (.socketError e.display), rt)
      | .ok (handle, stack) =>
          (.ok handle,
            { rt with stack, dnsSockets := rt.dnsSockets.setSlot server.version handle })

def insertDnsGroup (rt : RuntimeState S) (domain : String) (preferIpv6 : Bool)
    (response responseAll : Option OneshotId) : UInt32 × RuntimeState S :=
  let groupId := rt.shared.statics.dnsGroupId
  let rt := rt.setStatics { rt.shared.statics with dnsGroupId := groupId + 1 }
  (groupId,
    { rt with
      dnsGroups := AList.insert groupId
        { domain, response, responseAll, ipv4Result := none, ipv6Result := none,
          createdAt := rt.shared.now, preferIpv6 } rt.dnsGroups })

def recordDnsError (rt : RuntimeState S) (groupId : UInt32) (queryType : DnsRecordType)
    (e : DnsError) : RuntimeState S :=
  { rt with
    dnsGroups := Table.modify groupId (fun g => g.record queryType (.error e)) rt.dnsGroups }

def answerOne (rt : RuntimeState S) (groupId : UInt32) (group : DnsQueryGroup) : RuntimeState S :=
  match group.response, group.result with
  | some response, some result =>
      let rt := { rt with
        dnsGroups := AList.insert groupId { group with response := none } rt.dnsGroups }
      rt.reply response (.resolved (result.mapError .dns))
  | _, _ => rt

def answerAll (rt : RuntimeState S) (group : DnsQueryGroup) : RuntimeState S :=
  match group.responseAll with
  | none => rt
  | some response =>
      let allIps := group.allRecords.map (·.address)
      if allIps.isEmpty then
        rt.reply response
          (.resolvedAll (.error (.dns (groupError group.ipv4Result group.ipv6Result))))
      else
        rt.reply response (.resolvedAll (.ok allIps))

def tryResolveDnsGroup (rt : RuntimeState S) (groupId : UInt32) : RuntimeState S :=
  match rt.dnsGroups.lookup groupId with
  | none => rt
  | some group =>
      let rt := rt.answerOne groupId group
      if group.complete then
        let rt :=
          if group.allRecords.isEmpty then rt
          else
            { rt with
              dnsCache :=
                dnsCacheInsert rt.dnsCache rt.shared.now group.domain group.allRecords }
        let rt := rt.answerAll group
        { rt with
          dnsGroups := AList.erase groupId rt.dnsGroups
          dnsQueries := Table.retain (fun _ q => q.groupId ≠ groupId) rt.dnsQueries }
      else rt

def failDnsGroup (rt : RuntimeState S) (groupId : UInt32) (e : DnsError) : RuntimeState S :=
  ((rt.recordDnsError groupId .a e).recordDnsError groupId .aaaa e).tryResolveDnsGroup groupId

def buildUniqueDnsQuery (rt : RuntimeState S) (domain : String) (recordType : DnsRecordType) :
    Nat → Except DnsError (UInt16 × List UInt8) × RuntimeState S
  | 0 => (.error (.socketError "DNS transaction ID exhausted"), rt)
  | tries + 1 =>
      match buildDnsQuery H rt.shared.statics domain recordType with
      | (.error e, statics) => (.error e, rt.setStatics statics)
      | (.ok (txId, packet), statics) =>
          if (rt.dnsQueries.lookup txId).isSome then
            buildUniqueDnsQuery (rt.setStatics statics) domain recordType tries
          else (.ok (txId, packet), rt.setStatics statics)

theorem buildUniqueDnsQuery_statics (rt : RuntimeState S) (domain : String)
    (recordType : DnsRecordType) (tries : Nat) :
    ∃ statics, (rt.buildUniqueDnsQuery H domain recordType tries).2 = rt.setStatics statics := by
  induction tries generalizing rt with
  | zero => exact ⟨rt.shared.statics, rfl⟩
  | succ tries ih =>
      simp only [buildUniqueDnsQuery]
      split
      · exact ⟨_, rfl⟩
      · next txId packet statics _ =>
          split
          · obtain ⟨later, hlater⟩ := ih (rt.setStatics statics)
            exact ⟨later, hlater⟩
          · exact ⟨_, rfl⟩

def dispatchDnsQuery (rt : RuntimeState S) (groupId : UInt32) (domain : String)
    (dnsHandle : SocketHandle) (dnsServer : IpAddress) (queryType : DnsRecordType)
    (logLabel : String) : Outcome (RuntimeState S) :=
  match rt.buildUniqueDnsQuery H domain queryType 65536 with
  | (.error e, rt) => .ok ((rt.recordDnsError groupId queryType e).tryResolveDnsGroup groupId)
  | (.ok (txId, packet), rt) => do
      let (sent, stack) ← rt.stack.udpSend dnsHandle dnsServer dnsPort packet
      let rt := { rt with stack }
      match sent with
      | .ok () =>
          .ok { rt with dnsQueries := AList.insert txId ⟨groupId, queryType⟩ rt.dnsQueries }
      | .error _ =>
          let e := DnsError.socketError ("DNS " ++ logLabel ++ " send failed")
          .ok ((rt.recordDnsError groupId queryType e).tryResolveDnsGroup groupId)

def logLabelOf (resolveAll : Bool) : DnsRecordType → String
  | .a => if resolveAll then "A (all)" else "A"
  | .aaaa => if resolveAll then "AAAA (all)" else "AAAA"

def startDnsQueriesForGroup (rt : RuntimeState S) (groupId : UInt32) (domain : String)
    (dnsServer : IpAddress) (dnsHandle : SocketHandle) (resolveAll : Bool) :
    Outcome (RuntimeState S) :=
  Outcome.run (fun rt queryType =>
      rt.dispatchDnsQuery H groupId domain dnsHandle dnsServer queryType
        (logLabelOf resolveAll queryType))
    rt [.a, .aaaa]

def selectDnsServer (rt : RuntimeState S) (dnsServers : List IpAddress) (preferIpv6 : Bool) :
    IpAddress × RuntimeState S :=
  match dnsServers with
  | [] => (.ipv4 0x01010101#32, rt)
  | first :: rest =>
      let start := rt.shared.statics.dnsServerIndex
      let rt := rt.setStatics { rt.shared.statics with dnsServerIndex := start + 1 }
      let dnsServers := first :: rest
      -- `start + offset` wraps in a release build.
      let searched := (List.range dnsServers.length).map (fun offset =>
        dnsServers.getD ((start + offset.toUInt64).toNat % dnsServers.length) first)
      ((searched.find? (fun server => isIpv6 server = preferIpv6)).getD
          (dnsServers.getD (start.toNat % dnsServers.length) first), rt)

def startDnsQueryFor (rt : RuntimeState S) (domain : String) (preferIpv6 resolveAll : Bool)
    (response responseAll : Option OneshotId) (dnsServers : List IpAddress) :
    Outcome (RuntimeState S) :=
  let (groupId, rt) := rt.insertDnsGroup domain preferIpv6 response responseAll
  let (dnsServer, rt) := rt.selectDnsServer dnsServers preferIpv6
  match rt.ensureSocket dnsServer with
  | (.error e, rt) => .ok (rt.failDnsGroup groupId e)
  | (.ok dnsHandle, rt) =>
      rt.startDnsQueriesForGroup H groupId domain dnsServer dnsHandle resolveAll

def startDnsQuery (rt : RuntimeState S) (domain : String) (preferIpv6 : Bool)
    (response : OneshotId) (dnsServers : List IpAddress) : Outcome (RuntimeState S) :=
  rt.startDnsQueryFor H domain preferIpv6 false (some response) none dnsServers

def startDnsQueryAll (rt : RuntimeState S) (domain : String) (response : OneshotId)
    (dnsServers : List IpAddress) : Outcome (RuntimeState S) :=
  rt.startDnsQueryFor H domain true true none (some response) dnsServers

end RuntimeState

end Usque
