import Usque.DnsReference
import Usque.Manager.DnsRuns
import Usque.Manager.Script

namespace Usque

variable {S : Smoltcp} {H : Hickory}

inductive DnsInput where
  | resolve (domain : String) (preferIpv6 : Bool) (response : OneshotId)
  | resolveAll (domain : String) (response : OneshotId)
  | response (data : List UInt8) (source : IpEndpoint)
  | expire
  | wait (duration : Time)

def DnsInput.op : DnsInput → DnsOp
  | .resolve _ _ _ => .resolve
  | .resolveAll _ _ => .resolveAll
  | .response data source => .response data source
  | .expire => .expire
  | .wait _ => .quiet

namespace DnsRun

def admits (s : DnsRun S) (response : OneshotId) : Bool :=
  (s.rt.dnsGroups.lookup s.rt.shared.statics.dnsGroupId).isNone &&
    dnsAnswers s.rt.shared.replies response = 0 &&
      (Table.values s.rt.dnsGroups).all (fun g => response ∉ g.requesters)

theorem admits_spec {s : DnsRun S} {response : OneshotId} (h : s.admits response = true) :
    s.rt.dnsGroups.lookup s.rt.shared.statics.dnsGroupId = none ∧ s.rt.Unasked response := by
  simp only [admits, Bool.and_eq_true, Option.isNone_iff_eq_none, decide_eq_true_eq,
    List.all_eq_true] at h
  obtain ⟨⟨hid, ha⟩, hall⟩ := h
  refine ⟨hid, ha, fun groupId group hl => ?_⟩
  exact hall group (List.mem_map_of_mem (AList.mem_lookup_iff.mp hl))

def exec (H : Hickory) (dnsServers : List IpAddress) (s : DnsRun S) :
    DnsInput → Option (DnsRun S)
  | .resolve domain preferIpv6 response =>
      if s.admits response then
        (s.rt.startDnsQuery H domain preferIpv6 response dnsServers).toOption.map (fun rt' =>
          s.started rt' response (s.rt.selectDnsServer dnsServers preferIpv6).1)
      else none
  | .resolveAll domain response =>
      if s.admits response then
        (s.rt.startDnsQueryAll H domain response dnsServers).toOption.map (fun rt' =>
          s.started rt' response (s.rt.selectDnsServer dnsServers true).1)
      else none
  | .response data _ => some { s with rt := s.rt.acceptDnsResponse H data }
  | .expire => some { s with rt := s.rt.expireDnsGroups }
  | .wait duration =>
      some { s with
        rt := { s.rt with shared := { s.rt.shared with now := s.rt.shared.now + duration } } }

theorem exec_step {dnsServers : List IpAddress} {s t : DnsRun S} {input : DnsInput}
    (h : exec H dnsServers s input = some t) : DnsStep H s input.op t := by
  cases input with
  | resolve domain preferIpv6 response =>
      simp only [exec] at h
      split_ifs at h with ha
      obtain ⟨rt', hq, rfl⟩ := Option.map_eq_some_iff.mp h
      exact .resolve (admits_spec ha).1 (admits_spec ha).2 (Outcome.toOption_eq_some.mp hq)
  | resolveAll domain response =>
      simp only [exec] at h
      split_ifs at h with ha
      obtain ⟨rt', hq, rfl⟩ := Option.map_eq_some_iff.mp h
      exact .resolveAll (admits_spec ha).1 (admits_spec ha).2 (Outcome.toOption_eq_some.mp hq)
  | response data source =>
      cases h
      exact .response s data source
  | expire =>
      cases h
      exact .expire s
  | wait duration =>
      cases h
      refine .quiet ⟨rfl, rfl, fun _ hr => hr, [], (List.append_nil _).symm, fun r hr => ?_⟩
      simp at hr

theorem exec_reaches {dnsServers : List IpAddress} {guard : DnsRun S → DnsOp → Prop}
    {s t : DnsRun S} (h : Run.Reaches (exec H dnsServers) (fun s i => guard s i.op) s t)
    (hs : Reaches H guard s) : Reaches H guard t := by
  induction h with
  | refl => exact hs
  | tail _ hg ht ih => exact ih.step hg (exec_step ht)

end DnsRun

namespace Script

def dnsInitial : DnsRun Reference.smoltcp where
  rt := System.freshRuntime Reference.smoltcp params 1500 0 (.new 1)
  asked := []
  sentTo := fun _ => none

theorem dnsInitial_initial : dnsInitial.Initial := ⟨rfl, rfl, rfl, rfl⟩

def dnsRun (inputs : List DnsInput) : Option (DnsRun Reference.smoltcp) :=
  Run.exec (DnsRun.exec Reference.hickory []) dnsInitial inputs

def answerTo (id : UInt16) (domain : String) (queryType : DnsRecordType)
    (records : List (DnsRecordType × List UInt8)) : List UInt8 :=
  Reference.octets id ++ [0x81, 0x80, 0, 1] ++ Reference.octets records.length.toUInt16 ++
    [0, 0, 0, 0] ++
    ((Reference.domainName domain).toOption.elim []
      (fun name => Reference.encodeQuestion name queryType)) ++
    records.flatMap (fun r =>
      [0xc0, 12, 0, Reference.typeCode r.1, 0, 1, 0, 0, 0, 60] ++
        Reference.octets r.2.length.toUInt16 ++ r.2)

def dnsServer : IpEndpoint := ⟨.ipv4 0x01010101#32, 53⟩

def answerA : List UInt8 := answerTo 1 "example.com" .a [(.a, [93, 184, 216, 34])]

theorem exists_guardedDns {guard : DnsRun Reference.smoltcp → DnsOp → Prop}
    {inputs : List DnsInput} {p : DnsRun Reference.smoltcp → Bool}
    (hg : Run.Guarded (DnsRun.exec Reference.hickory []) (fun s i => guard s i.op) dnsInitial
      inputs)
    (h : (dnsRun inputs).any p = true) :
    ∃ s, DnsRun.Reaches Reference.hickory guard s ∧ p s = true := by
  obtain ⟨s, hs, hp⟩ := (Option.any_eq_true _ _).mp h
  exact ⟨s, DnsRun.exec_reaches (Run.exec_guarded hs hg) (.initial dnsInitial_initial), hp⟩

theorem exists_dns {inputs : List DnsInput} {p : DnsRun Reference.smoltcp → Bool}
    (h : (dnsRun inputs).any p = true) :
    ∃ s : DnsRun Reference.smoltcp, s.Reachable Reference.hickory ∧ p s = true :=
  exists_guardedDns (Run.guarded_any _ _ _) h

end Script

end Usque
