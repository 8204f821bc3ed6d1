import Usque.Socks.Race
import Usque.Socks.UdpForward

namespace Usque

def ipv4New (a b c d : BitVec 8) : Ipv4Address := a ++ b ++ c ++ d

def ipv6New (a b c d e f g h : BitVec 16) : Ipv6Address := a ++ b ++ c ++ d ++ e ++ f ++ g ++ h

def ipv4Octet (a : Ipv4Address) (i : Nat) : BitVec 8 := a.extractLsb' (24 - 8 * i) 8

def ipv6Segment (a : Ipv6Address) (i : Nat) : BitVec 16 := a.extractLsb' (112 - 16 * i) 16

-- ::ffff:a.b.c.d becomes a.b.c.d.
def toIpv4Mapped (a : Ipv6Address) : Option Ipv4Address :=
  if a.extractLsb' 32 96 = 0xffff then some (a.extractLsb' 0 32) else none

def rebuildIpv4 (v4 : Ipv4Address) : Ipv4Address :=
  let o := ipv4Octet v4
  ipv4New (o 0) (o 1) (o 2) (o 3)

def rebuildIpv6 (v6 : Ipv6Address) : Ipv6Address :=
  let s := ipv6Segment v6
  ipv6New (s 0) (s 1) (s 2) (s 3) (s 4) (s 5) (s 6) (s 7)

def stdIpToSmoltcp : IpAddress → IpAddress
  | .ipv4 v4 => .ipv4 (rebuildIpv4 v4)
  | .ipv6 v6 =>
      match toIpv4Mapped v6 with
      | some v4 => .ipv4 (rebuildIpv4 v4)
      | none => .ipv6 (rebuildIpv6 v6)

-- What the manager answers for a domain is in resolved.
def resolveTargetAddr (debug : ManagerError → String) (target : TargetAddr)
    (resolved : Except ManagerError IpAddress) : Except Socks5Error (IpAddress × UInt16) :=
  match target with
  | .ip addr => .ok (stdIpToSmoltcp addr.ip, addr.port)
  | .domain _ port =>
      match resolved with
      | .ok ip => .ok (ip, port)
      | .error e => .error (.protocolError ("DNS resolution failed: " ++ debug e))

def targetAddrToIp (target : TargetAddr) (resolved : Except ManagerError IpAddress) :
    Option (IpAddress × UInt16) :=
  match target with
  | .ip addr =>
      let ip := match addr.ip with
        | .ipv4 v4 => .ipv4 (rebuildIpv4 v4)
        | .ipv6 v6 => .ipv6 (rebuildIpv6 v6)
      some (ip, addr.port)
  | .domain _ port =>
      match resolved with
      | .ok ip => some (ip, port)
      | .error _ => none

@[simp] theorem rebuildIpv4_eq (v4 : Ipv4Address) : rebuildIpv4 v4 = v4 := by
  simp (disch := rfl) only [rebuildIpv4, ipv4New, ipv4Octet,
    BitVec.extractLsb'_append_extractLsb'_eq_extractLsb']
  exact BitVec.extractLsb'_eq_self

@[simp] theorem rebuildIpv6_eq (v6 : Ipv6Address) : rebuildIpv6 v6 = v6 := by
  simp (disch := rfl) only [rebuildIpv6, ipv6New, ipv6Segment,
    BitVec.extractLsb'_append_extractLsb'_eq_extractLsb']
  exact BitVec.extractLsb'_eq_self

-- The relay keeps every address of a datagram as it is.
theorem targetAddrToIp_forward (target : TargetAddr) (resolved : Except ManagerError IpAddress) :
    targetAddrToIp target resolved = UdpForward.targetAddrToIp target resolved.toOption := by
  cases target with
  | ip addr =>
      obtain ⟨ip, port⟩ := addr
      cases ip with
      | ipv4 v4 => simp only [targetAddrToIp, UdpForward.targetAddrToIp, rebuildIpv4_eq]
      | ipv6 v6 => simp only [targetAddrToIp, UdpForward.targetAddrToIp, rebuildIpv6_eq]
  | domain domain port => cases resolved <;> rfl

-- The prefix ::ffff:0:0/96.
def IpAddress.isIpv4Mapped : IpAddress → Prop
  | .ipv4 _ => False
  | .ipv6 a => a.toNat / 2 ^ 32 = 0xffff

theorem toIpv4Mapped_none (a : Ipv6Address) :
    toIpv4Mapped a = none ↔ ¬ (IpAddress.ipv6 a).isIpv4Mapped := by
  have hlt := a.isLt
  have hhigh : a.extractLsb' 32 96 = 0xffff ↔ a.toNat / 2 ^ 32 = 0xffff := by
    rw [← BitVec.toNat_inj, BitVec.extractLsb'_toNat, Nat.shiftRight_eq_div_pow,
      Nat.mod_eq_of_lt (by omega)]
    rfl
  simp only [toIpv4Mapped, IpAddress.isIpv4Mapped, hhigh, ite_eq_right_iff, reduceCtorEq, imp_false]

theorem stdIpToSmoltcp_eq (ip : IpAddress) : stdIpToSmoltcp ip = ip ↔ ¬ ip.isIpv4Mapped := by
  cases ip with
  | ipv4 v4 => simp [stdIpToSmoltcp, IpAddress.isIpv4Mapped]
  | ipv6 v6 =>
      rw [← toIpv4Mapped_none, stdIpToSmoltcp]
      cases toIpv4Mapped v6 with
      | none => simp
      | some v4 => simp

theorem udp_host_eq_tcp_host (debug : ManagerError → String) (addr : SocketAddr)
    (resolved : Except ManagerError IpAddress) :
    targetAddrToIp (.ip addr) resolved = some (stdIpToSmoltcp addr.ip, addr.port) ∧
      targetAddrToIp (.ip addr) resolved =
        (resolveTargetAddr debug (.ip addr) resolved).toOption ↔
    ¬ addr.ip.isIpv4Mapped := by
  have hudp : targetAddrToIp (.ip addr) resolved = some (addr.ip, addr.port) :=
    targetAddrToIp_forward ..
  have htcp : (resolveTargetAddr debug (.ip addr) resolved).toOption =
      some (stdIpToSmoltcp addr.ip, addr.port) := rfl
  rw [hudp, htcp, and_self, Option.some.injEq, Prod.mk.injEq, ← stdIpToSmoltcp_eq]
  exact ⟨fun h => h.1.symm, fun h => ⟨h.symm, rfl⟩⟩

-- ::ffff:10.0.0.2 is 10.0.0.2 for a connection and an IPv6 host for a datagram.
theorem mapped_hosts_differ :
    ∃ addr : SocketAddr, addr = ⟨.ipv6 0xffff0a000002#128, 53⟩ ∧
      ∀ debug resolved,
        (resolveTargetAddr debug (.ip addr) resolved).toOption = some (.ipv4 0x0a000002#32, 53) ∧
        targetAddrToIp (.ip addr) resolved = some (.ipv6 0xffff0a000002#128, 53) ∧
        targetAddrToIp (.ip addr) resolved ≠
          (resolveTargetAddr debug (.ip addr) resolved).toOption := by
  refine ⟨_, rfl, fun debug resolved => ?_⟩
  have htcp : (resolveTargetAddr debug (.ip ⟨.ipv6 0xffff0a000002#128, 53⟩) resolved).toOption =
      some (.ipv4 0x0a000002#32, 53) := by
    have hip : stdIpToSmoltcp (.ipv6 0xffff0a000002#128) = .ipv4 0x0a000002#32 := by decide
    simp only [resolveTargetAddr, hip]
    rfl
  have hudp : targetAddrToIp (.ip ⟨.ipv6 0xffff0a000002#128, 53⟩) resolved =
      some (.ipv6 0xffff0a000002#128, 53) := by
    simp only [targetAddrToIp, rebuildIpv6_eq]
  rw [htcp, hudp]
  exact ⟨rfl, rfl, by decide⟩

end Usque
