import Mathlib.Data.List.Nodup
import Mathlib.Data.Nat.ModEq

-- Numbers drawn in turn from a counter that wraps, each reduced to a range that starts at a base
-- and whose size divides the wrap.
namespace Ticket

def draw (base size modulus counter : Nat) : Nat := base + counter % modulus % size

def draws (base size modulus counter n : Nat) : List Nat :=
  (List.range' counter n).map (draw base size modulus)

variable {base size modulus counter n : Nat}

@[simp] theorem draws_zero : draws base size modulus counter 0 = [] := rfl

theorem draws_succ : draws base size modulus counter (n + 1) =
    draw base size modulus counter :: draws base size modulus (counter + 1) n := rfl

theorem draw_wrap (counter : Nat) :
    draw base size modulus (counter % modulus) = draw base size modulus counter := by
  simp only [draw, Nat.mod_mod]

theorem draws_wrap (counter n : Nat) :
    draws base size modulus (counter % modulus) n = draws base size modulus counter n := by
  induction n generalizing counter with
  | zero => rfl
  | succ n ih =>
      have htail : draws base size modulus (counter % modulus + 1) n =
          draws base size modulus (counter + 1) n := by
        rw [← ih, Nat.mod_add_mod, ih]
      rw [draws_succ, draws_succ, draw_wrap, htail]

theorem draw_eq_iff (h : size ∣ modulus) {i j : Nat} :
    draw base size modulus i = draw base size modulus j ↔ i ≡ j [MOD size] := by
  simp only [draw, Nat.mod_mod_of_dvd _ h, Nat.add_left_cancel_iff]
  rfl

theorem draw_mem_range (base modulus : Nat) (hs : 0 < size) (counter : Nat) :
    base ≤ draw base size modulus counter ∧ draw base size modulus counter < base + size :=
  ⟨Nat.le_add_right .., Nat.add_lt_add_left (Nat.mod_lt _ hs) base⟩

theorem eq_of_modEq {i j : Nat} (h : i ≡ j [MOD size]) (hij : i ≤ j) (hlt : j < i + size) :
    i = j := by
  have hdvd : size ∣ j - i := (Nat.modEq_iff_dvd' hij).mp h
  have hzero := Nat.eq_zero_of_dvd_of_lt hdvd (by omega)
  omega

theorem draws_nodup (h : size ∣ modulus) (hn : n ≤ size) :
    (draws base size modulus counter n).Nodup := by
  refine List.Nodup.map_on (fun i hi j hj hij => ?_) List.nodup_range'
  have hmod := (draw_eq_iff h).mp hij
  rw [List.mem_range'_1] at hi hj
  rcases Nat.le_total i j with hle | hle
  · exact eq_of_modEq hmod hle (by omega)
  · exact (eq_of_modEq hmod.symm hle (by omega)).symm

theorem infix_draws {window : List Nat} (h : window <:+: draws base size modulus counter n) :
    ∃ start, window = draws base size modulus start window.length := by
  obtain ⟨before, after, h⟩ := h
  obtain ⟨left, _, hrange, hleft, _⟩ := List.map_eq_append_iff.mp h.symm
  obtain ⟨_, middle, rfl, _, rfl⟩ := List.map_eq_append_iff.mp hleft
  obtain ⟨k, _, hfront, _⟩ := List.range'_eq_append_iff.mp hrange
  obtain ⟨m, _, _, rfl⟩ := List.range'_eq_append_iff.mp hfront.symm
  refine ⟨counter + m * 1, ?_⟩
  rw [List.length_map, List.length_range']
  rfl

theorem window_nodup (h : size ∣ modulus) {window : List Nat}
    (hw : window <:+: draws base size modulus counter n) (hlen : window.length ≤ size) :
    window.Nodup := by
  obtain ⟨start, hwindow⟩ := infix_draws hw
  rw [hwindow]
  exact draws_nodup h hlen

end Ticket
