import Usque.Lib.Ticket
import Usque.Manager.UdpEndpoints

namespace Usque

-- LOCAL_PORT_COUNTER and the statics of the DNS client, which every thread shares.
structure PortCounters where
  localPortCounter : UInt16
  statics : Statics
deriving DecidableEq, Repr

inductive PortSource where
  | getLocalPort
  | getDnsLocalPort
deriving DecidableEq, Repr

-- A fetch_add is one step of a run; the other statics change between two of them.
inductive PortCall where
  | draw (source : PortSource)
  | other (statics : Statics)
deriving DecidableEq, Repr

namespace PortCounters

def counter (s : PortCounters) : PortSource → UInt16
  | .getLocalPort => s.localPortCounter
  | .getDnsLocalPort => s.statics.dnsPortCounter

def draw (s : PortCounters) : PortSource → UInt16 × PortCounters
  | .getLocalPort =>
      let (port, localPortCounter) := getLocalPort s.localPortCounter
      (port, { s with localPortCounter })
  | .getDnsLocalPort =>
      let (port, statics) := getDnsLocalPort s.statics
      (port, { s with statics })

def step (s : PortCounters) : PortCall → PortCounters
  | .draw source => (s.draw source).2
  | .other statics =>
      { s with statics := { statics with dnsPortCounter := s.statics.dnsPortCounter } }

def returned (s : PortCounters) (source : PortSource) : PortCall → List UInt16
  | .draw source' => if source' = source then [(s.draw source).1] else []
  | .other _ => []

-- What the calls of one function return in a run, in order.
def results (s : PortCounters) (source : PortSource) : List PortCall → List UInt16
  | [] => []
  | call :: calls => s.returned source call ++ (s.step call).results source calls

theorem draw_port (s : PortCounters) (source : PortSource) :
    (s.draw source).1 = 49152 + s.counter source % 16384 := by
  cases source <;> rfl

theorem draw_counter (s : PortCounters) (source source' : PortSource) :
    (s.draw source').2.counter source =
      if source' = source then s.counter source + 1 else s.counter source := by
  cases source <;> cases source' <;> rfl

theorem port_toNat (counter : UInt16) :
    (49152 + counter % 16384).toNat = Ticket.draw 49152 16384 65536 counter.toNat := by
  have hlt := counter.toNat_lt
  have hmod : (counter % 16384).toNat = counter.toNat % 16384 := UInt16.toNat_mod ..
  rw [UInt16.toNat_add, hmod, Ticket.draw, Nat.mod_eq_of_lt hlt]
  refine Nat.mod_eq_of_lt ?_
  have hoffset := Nat.mod_lt counter.toNat (show 0 < 16384 by decide)
  have hbase : UInt16.toNat 49152 = 49152 := rfl
  omega

-- The calls of the one function draw from its counter in turn, whatever else runs between them.
theorem results_draws (source : PortSource) (calls : List PortCall) :
    ∀ s : PortCounters, (s.results source calls).map UInt16.toNat =
      Ticket.draws 49152 16384 65536 (s.counter source).toNat
        (s.results source calls).length := by
  induction calls with
  | nil => exact fun _ => rfl
  | cons call calls ih =>
      intro s
      cases call with
      | other statics =>
          have hcounter : (s.step (.other statics)).counter source = s.counter source := by
            cases source <;> rfl
          simp only [results, returned, List.nil_append]
          rw [ih, hcounter]
      | draw source' =>
          have hcounter := draw_counter s source source'
          by_cases hs : source' = source
          · rw [if_pos hs] at hcounter
            have hwrap : (s.counter source + 1).toNat = ((s.counter source).toNat + 1) % 65536 :=
              UInt16.toNat_add ..
            simp only [results, returned, if_pos hs, List.singleton_append, List.map_cons,
              List.length_cons, step]
            rw [ih, hcounter, hwrap, Ticket.draws_wrap, Ticket.draws_succ, draw_port, port_toNat]
          · rw [if_neg hs] at hcounter
            simp only [results, returned, if_neg hs, List.nil_append, step]
            rw [ih, hcounter]

theorem local_ports_distinct (s : PortCounters) (source : PortSource) (calls : List PortCall) :
    (∀ window, window <:+: s.results source calls → window.length ≤ 16384 → window.Nodup) ∧
    (∀ port ∈ s.results source calls, 49152 ≤ port.toNat ∧ port.toNat ≤ 65535) ∧
    ∀ counter : UInt16,
      portRangeStart.toNat + (counter % portRangeSize).toNat < 65536 ∧
      dnsPortRangeStart.toNat + (counter % dnsPortRangeSize).toNat < 65536 := by
  refine ⟨fun window hw hlen => ?_, fun port hport => ?_, fun counter => ?_⟩
  · have hmap := hw.map UInt16.toNat
    rw [results_draws] at hmap
    refine List.Nodup.of_map UInt16.toNat (Ticket.window_nodup (by decide) hmap ?_)
    rw [List.length_map]
    exact hlen
  · have hmem := List.mem_map_of_mem (f := UInt16.toNat) hport
    rw [results_draws, Ticket.draws, List.mem_map] at hmem
    obtain ⟨i, _, hi⟩ := hmem
    have hrange := Ticket.draw_mem_range 49152 65536 (show 0 < 16384 by decide) i
    omega
  · have hmod : (counter % 16384).toNat = counter.toNat % 16384 := UInt16.toNat_mod ..
    have hbase : UInt16.toNat 49152 = 49152 := rfl
    simp only [portRangeStart, portRangeSize, dnsPortRangeStart, dnsPortRangeSize, hmod, hbase]
    omega

end PortCounters

end Usque
