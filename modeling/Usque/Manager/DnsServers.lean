import Usque.Manager.DnsOps
import Usque.Manager.Script

namespace Usque

variable {S : Smoltcp}

def noLocalAddress : IpVersion → StackError
  | .ipv4 => .socketError "No IPv4 address configured"
  | .ipv6 => .socketError "No IPv6 address configured"

-- smoltcp's `BindError` prints as `InvalidState` or `Unaddressable`.
def Smoltcp.BindErrorsNamed (S : Smoltcp) : Prop :=
  ∀ socket endpoint e version, S.udpBind socket endpoint = .error e →
    (StackError.socketError e).display ≠ (noLocalAddress version).display

namespace NetworkStack

variable (st : NetworkStack S)

def hasLocal : IpVersion → Bool
  | .ipv4 => st.localIpv4.isSome
  | .ipv6 => st.localIpv6.isSome

theorem localAddrForRemote_error {remoteIp : IpAddress} {e : StackError}
    (h : st.localAddrForRemote remoteIp = .error e) :
    st.hasLocal remoteIp.version = false ∧ e = noLocalAddress remoteIp.version := by
  cases remoteIp with
  | ipv4 a =>
      cases hl : st.localIpv4 with
      | none =>
          simp only [localAddrForRemote, hl] at h
          cases h
          exact ⟨by simp only [hasLocal, IpAddress.version, hl, Option.isSome_none], rfl⟩
      | some b =>
          simp only [localAddrForRemote, hl] at h
          cases h
  | ipv6 a =>
      cases hl : st.localIpv6 with
      | none =>
          simp only [localAddrForRemote, hl] at h
          cases h
          exact ⟨by simp only [hasLocal, IpAddress.version, hl, Option.isSome_none], rfl⟩
      | some b =>
          simp only [localAddrForRemote, hl] at h
          cases h

end NetworkStack

-- The search of the servers, from where the counter stands, comes upon one of this family.
def searchMeets (dnsServers : List IpAddress) (start : UInt64) (family : Bool) : Prop :=
  ∃ offset, offset < dnsServers.length ∧ ∃ server,
    dnsServers[(start + offset.toUInt64).toNat % dnsServers.length]? = some server ∧
      isIpv6 server = family

theorem searchMeets_iff {dnsServers : List IpAddress} {start : UInt64} {family : Bool}
    (hwrap : start.toNat + dnsServers.length ≤ 2 ^ 64) :
    searchMeets dnsServers start family ↔ ∃ server ∈ dnsServers, isIpv6 server = family := by
  constructor
  · rintro ⟨offset, _, server, hs, hf⟩
    exact ⟨server, List.mem_of_getElem? hs, hf⟩
  · rintro ⟨server, hm, hf⟩
    obtain ⟨i, hi, rfl⟩ := List.mem_iff_getElem.mp hm
    -- The offset whose sum with the counter falls on the server's index.
    have hmod := Nat.mod_lt start.toNat (Nat.zero_lt_of_lt hi)
    have hdiv := Nat.div_add_mod start.toNat dnsServers.length
    have hsum : ∃ offset, offset < dnsServers.length ∧
        (start.toNat + offset) % dnsServers.length = i := by
      by_cases hle : start.toNat % dnsServers.length ≤ i
      · refine ⟨i - start.toNat % dnsServers.length, by omega, ?_⟩
        rw [show start.toNat + (i - start.toNat % dnsServers.length) =
            i + dnsServers.length * (start.toNat / dnsServers.length) by omega,
          Nat.add_mul_mod_self_left, Nat.mod_eq_of_lt hi]
      · refine ⟨i + dnsServers.length - start.toNat % dnsServers.length, by omega, ?_⟩
        rw [show start.toNat + (i + dnsServers.length - start.toNat % dnsServers.length) =
            i + dnsServers.length + dnsServers.length * (start.toNat / dnsServers.length) by omega,
          Nat.add_mul_mod_self_left, Nat.add_mod_right, Nat.mod_eq_of_lt hi]
    obtain ⟨offset, hoff, hidx⟩ := hsum
    refine ⟨offset, hoff, dnsServers[i], ?_, hf⟩
    have hnat : (start + offset.toUInt64).toNat = start.toNat + offset := by
      have hlt : offset < UInt64.size := by
        simp only [UInt64.size]
        omega
      rw [UInt64.toNat_add, Nat.toUInt64, UInt64.toNat_ofNat_of_lt' hlt]
      exact Nat.mod_eq_of_lt (by omega)
    rw [hnat, hidx, List.getElem?_eq_getElem hi]

namespace RuntimeState

variable (rt : RuntimeState S)

theorem selectDnsServer_family {dnsServers : List IpAddress} (hne : dnsServers ≠ [])
    (preferIpv6 : Bool) :
    isIpv6 (rt.selectDnsServer dnsServers preferIpv6).1 = preferIpv6 ↔
      searchMeets dnsServers rt.shared.statics.dnsServerIndex preferIpv6 := by
  cases dnsServers with
  | nil => exact absurd rfl hne
  | cons first rest =>
      have hget : ∀ n, (first :: rest)[n % (first :: rest).length]? =
          some ((first :: rest).getD (n % (first :: rest).length) first) := fun n => by
        have hlt := Nat.mod_lt n (Nat.succ_pos rest.length)
        rw [List.getD_eq_getElem?_getD, List.getElem?_eq_getElem hlt, Option.getD_some]
      simp only [selectDnsServer, searchMeets]
      generalize hf : List.find? _ _ = found
      cases found with
      | some server =>
          have hp : isIpv6 server = preferIpv6 := by simpa using List.find?_some hf
          refine iff_of_true hp ?_
          obtain ⟨offset, hoff, rfl⟩ := List.mem_map.mp (List.mem_of_find?_eq_some hf)
          exact ⟨offset, List.mem_range.mp hoff, _, hget _, hp⟩
      | none =>
          have hnone := List.find?_eq_none.mp hf
          have hmiss : ∀ offset, offset < (first :: rest).length →
              isIpv6 ((first :: rest).getD
                ((rt.shared.statics.dnsServerIndex + offset.toUInt64).toNat %
                  (first :: rest).length) first) ≠ preferIpv6 := fun offset hoff => by
            simpa using hnone _ (List.mem_map_of_mem (List.mem_range.mpr hoff))
          refine iff_of_false ?_ ?_
          · have h0 := hmiss 0 (Nat.succ_pos _)
            rwa [show (0 : Nat).toUInt64 = 0 from rfl, UInt64.add_zero] at h0
          · rintro ⟨offset, hoff, server, hs, hp⟩
            rw [hget, Option.some.injEq] at hs
            exact hmiss offset hoff (hs ▸ hp)

theorem ensureSocket_hasLocal (hS : S.BindErrorsNamed) {server : IpAddress}
    (hlocal : rt.stack.hasLocal server.version = true) (version : IpVersion) :
    (rt.ensureSocket server).1 ≠ .error (.socketError (noLocalAddress version).display) := by
  simp only [ensureSocket]
  split
  · intro h
    cases h
  · split
    · next e hc =>
        simp only [NetworkStack.createUdpSocketFor, setStatics] at hc
        split at hc
        · next e' ha =>
            obtain ⟨hno, -⟩ := rt.stack.localAddrForRemote_error ha
            rw [hlocal] at hno
            cases hno
        · next a ha =>
            simp only [NetworkStack.bindUdpSocket] at hc
            split at hc
            · next e' hb =>
                cases hc
                intro h
                rw [Except.error.injEq, DnsError.socketError.injEq] at h
                exact hS _ _ _ version hb h
            · cases hc
    · intro h
      cases h

structure StartedServer (S : Smoltcp) where
  groupId : UInt32
  dnsServer : IpAddress
  socket : Except DnsError SocketHandle
  rt : RuntimeState S

def startDnsServer (domain : String) (preferIpv6 : Bool) (response responseAll : Option OneshotId)
    (dnsServers : List IpAddress) : StartedServer S :=
  let (groupId, rt) := rt.insertDnsGroup domain preferIpv6 response responseAll
  let (dnsServer, rt) := rt.selectDnsServer dnsServers preferIpv6
  let (socket, rt) := rt.ensureSocket dnsServer
  ⟨groupId, dnsServer, socket, rt⟩

theorem startDnsQueryFor_eq (H : Hickory) (domain : String) (preferIpv6 resolveAll : Bool)
    (response responseAll : Option OneshotId) (dnsServers : List IpAddress) :
    rt.startDnsQueryFor H domain preferIpv6 resolveAll response responseAll dnsServers =
      let started := rt.startDnsServer domain preferIpv6 response responseAll dnsServers
      match started.socket with
      | .error e => .ok (started.rt.failDnsGroup started.groupId e)
      | .ok dnsHandle =>
          started.rt.startDnsQueriesForGroup H started.groupId domain started.dnsServer dnsHandle
            resolveAll := by
  simp only [startDnsQueryFor, startDnsServer]
  split <;> simp_all only

-- The server picked is of a family the stack has an address for, and no address is missed.
def picksReachable (domain : String) (preferIpv6 : Bool) (response responseAll : Option OneshotId)
    (dnsServers : List IpAddress) : Prop :=
  let started := rt.startDnsServer domain preferIpv6 response responseAll dnsServers
  rt.stack.hasLocal started.dnsServer.version = true ∧
    ∀ version, started.socket ≠ .error (.socketError (noLocalAddress version).display)

def familyOf (family : Bool) : IpVersion := if family then .ipv6 else .ipv4

-- The family of the server the search ends with is one the stack has an address for.
def searchedFamilyLocal (preferIpv6 : Bool) (dnsServers : List IpAddress) : Prop :=
  (searchMeets dnsServers rt.shared.statics.dnsServerIndex preferIpv6 →
      rt.stack.hasLocal (familyOf preferIpv6) = true) ∧
    (¬ searchMeets dnsServers rt.shared.statics.dnsServerIndex preferIpv6 →
      rt.stack.hasLocal (familyOf (!preferIpv6)) = true)

theorem familyOf_isIpv6 (ip : IpAddress) : familyOf (isIpv6 ip) = ip.version := by
  cases ip <;> rfl

theorem searchedFamilyLocal_iff {dnsServers : List IpAddress} (hne : dnsServers ≠ [])
    (preferIpv6 : Bool) :
    rt.searchedFamilyLocal preferIpv6 dnsServers ↔
      rt.stack.hasLocal (rt.selectDnsServer dnsServers preferIpv6).1.version = true := by
  have hfam := rt.selectDnsServer_family hne preferIpv6
  rw [← familyOf_isIpv6, searchedFamilyLocal, ← hfam]
  generalize isIpv6 (rt.selectDnsServer dnsServers preferIpv6).1 = family
  cases family <;> cases preferIpv6 <;> simp

-- Short of the wrap, only the preferred family counts once a server of it is configured.
theorem searchedFamilyLocal_unwrapped {dnsServers : List IpAddress} {preferIpv6 : Bool}
    (hwrap : rt.shared.statics.dnsServerIndex.toNat + dnsServers.length ≤ 2 ^ 64)
    (hany : ∃ server ∈ dnsServers, rt.stack.hasLocal server.version = true) :
    rt.searchedFamilyLocal preferIpv6 dnsServers ↔
      ((∃ server ∈ dnsServers, isIpv6 server = preferIpv6) →
        rt.stack.hasLocal (familyOf preferIpv6) = true) := by
  rw [searchedFamilyLocal, searchMeets_iff hwrap]
  constructor
  · intro h
    exact h.1
  · intro h
    refine ⟨h, fun hnone => ?_⟩
    obtain ⟨server, hm, hlocal⟩ := hany
    have hother : isIpv6 server = !preferIpv6 := by
      cases hs : isIpv6 server <;> cases preferIpv6 <;> simp_all
    rwa [← hother, familyOf_isIpv6]

theorem picksReachable_iff (hS : S.BindErrorsNamed) {dnsServers : List IpAddress}
    (hne : dnsServers ≠ []) (domain : String) (preferIpv6 : Bool)
    (response responseAll : Option OneshotId) :
    rt.picksReachable domain preferIpv6 response responseAll dnsServers ↔
      rt.searchedFamilyLocal preferIpv6 dnsServers := by
  -- The group's insertion touches neither the rotation counter nor the stack's addresses.
  have hopened : ((rt.insertDnsGroup domain preferIpv6 response responseAll).2.selectDnsServer
      dnsServers preferIpv6).1 = (rt.selectDnsServer dnsServers preferIpv6).1 := by
    cases dnsServers <;> rfl
  have hstack : ((rt.insertDnsGroup domain preferIpv6 response responseAll).2.selectDnsServer
      dnsServers preferIpv6).2.stack = rt.stack := by
    cases dnsServers <;> rfl
  rw [searchedFamilyLocal_iff rt hne, ← hopened]
  constructor
  · intro h
    exact h.1
  · intro h
    have hlocal : ((rt.insertDnsGroup domain preferIpv6 response responseAll).2.selectDnsServer
        dnsServers preferIpv6).2.stack.hasLocal ((rt.insertDnsGroup domain preferIpv6 response
          responseAll).2.selectDnsServer dnsServers preferIpv6).1.version = true := by
      rw [hstack]
      exact h
    exact ⟨h, fun version => ensureSocket_hasLocal _ hS hlocal version⟩

end RuntimeState

namespace Script

theorem bindErrorsNamed : Reference.smoltcp.BindErrorsNamed := by
  intro socket endpoint e version h
  simp only [Reference.smoltcp, Reference.udpBind] at h
  split at h
  · cases h
    cases version <;> decide
  · split at h
    · cases h
      cases version <;> decide
    · cases h

def mixedServers : ConnectionParams :=
  { params with dnsServers := [.ipv6 0x26064700470000000000000000001111#128, .ipv4 0x01010101#32] }

def runMixed (labels : List Label) : Option Reached :=
  Run.exec (System.step hickory) (System.init Reference.smoltcp mixedServers) labels

def refusedFor (message : String) : OneshotId × Reply → Bool
  | (_, .resolvedAll (.error (.dns (.socketError text)))) => text = message
  | _ => false

end Script

namespace System

end System

end Usque
