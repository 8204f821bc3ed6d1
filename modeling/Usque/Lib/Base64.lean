-- Base64 with the standard alphabet and canonical padding.
namespace Base64

def digit (n : Nat) : Char :=
  if n < 26 then Char.ofNat (65 + n)
  else if n < 52 then Char.ofNat (71 + n)
  else if n < 62 then Char.ofNat (n - 4)
  else if n = 62 then '+'
  else '/'

def value (c : Char) : Option Nat :=
  if 'A' ≤ c ∧ c ≤ 'Z' then some (c.toNat - 65)
  else if 'a' ≤ c ∧ c ≤ 'z' then some (c.toNat - 71)
  else if '0' ≤ c ∧ c ≤ '9' then some (c.toNat + 4)
  else if c = '+' then some 62
  else if c = '/' then some 63
  else none

def encode : List UInt8 → List Char
  | a :: b :: c :: rest =>
      digit (a.toNat / 4) :: digit (a.toNat % 4 * 16 + b.toNat / 16) ::
        digit (b.toNat % 16 * 4 + c.toNat / 64) :: digit (c.toNat % 64) :: encode rest
  | [a, b] =>
      [digit (a.toNat / 4), digit (a.toNat % 4 * 16 + b.toNat / 16), digit (b.toNat % 16 * 4), '=']
  | [a] => [digit (a.toNat / 4), digit (a.toNat % 4 * 16), '=', '=']
  | [] => []

def first (w x : Nat) : UInt8 := UInt8.ofNat (w * 4 + x / 16)

def second (x y : Nat) : UInt8 := UInt8.ofNat (x % 16 * 16 + y / 4)

def third (y z : Nat) : UInt8 := UInt8.ofNat (y % 4 * 64 + z)

-- The bits that the padding stands for are zero, and nothing follows it.
def decode : List Char → Option (List UInt8)
  | w :: x :: y :: z :: rest =>
      match value w, value x, value y, value z with
      | some w, some x, some y, some z =>
          (decode rest).map (fun bytes => first w x :: second x y :: third y z :: bytes)
      | some w, some x, some y, none =>
          if z = '=' ∧ rest = [] ∧ y % 4 = 0 then some [first w x, second x y] else none
      | some w, some x, none, none =>
          if y = '=' ∧ z = '=' ∧ rest = [] ∧ x % 16 = 0 then some [first w x] else none
      | _, _, _, _ => none
  | [] => some []
  | _ => none

theorem value_digit : ∀ n < 64, value (digit n) = some n := by
  decide

theorem value_pad : value '=' = none := by
  decide

theorem first_eq (a : UInt8) {r : Nat} (hr : r < 16) :
    first (a.toNat / 4) (a.toNat % 4 * 16 + r) = a := by
  have h : a.toNat / 4 * 4 + (a.toNat % 4 * 16 + r) / 16 = a.toNat := by omega
  rw [first, h, UInt8.ofNat_toNat]

theorem second_eq (b : UInt8) (q : Nat) {r : Nat} (hr : r < 4) :
    second (q * 16 + b.toNat / 16) (b.toNat % 16 * 4 + r) = b := by
  have hb := b.toNat_lt
  have h : (q * 16 + b.toNat / 16) % 16 * 16 + (b.toNat % 16 * 4 + r) / 4 = b.toNat := by omega
  rw [second, h, UInt8.ofNat_toNat]

theorem third_eq (c : UInt8) (q : Nat) : third (q * 4 + c.toNat / 64) (c.toNat % 64) = c := by
  have hc := c.toNat_lt
  have h : (q * 4 + c.toNat / 64) % 4 * 64 + c.toNat % 64 = c.toNat := by omega
  rw [third, h, UInt8.ofNat_toNat]

theorem decode_encode (bytes : List UInt8) : decode (encode bytes) = some bytes := by
  induction bytes using encode.induct with
  | case1 a b c rest ih =>
      have ha := a.toNat_lt
      have hb := b.toNat_lt
      have hc := c.toNat_lt
      rw [encode, decode, value_digit _ (by omega), value_digit _ (by omega),
        value_digit _ (by omega), value_digit _ (by omega), ih]
      simp only [Option.map_some]
      rw [first_eq a (by omega), second_eq b _ (by omega), third_eq]
  | case2 a b =>
      have ha := a.toNat_lt
      have hb := b.toNat_lt
      have hlast := second_eq b (a.toNat % 4) (r := 0) (by decide)
      rw [encode, decode, value_digit _ (by omega), value_digit _ (by omega),
        value_digit _ (by omega), value_pad]
      rw [Nat.add_zero] at hlast
      simp only [true_and]
      rw [if_pos (by omega), first_eq a (by omega), hlast]
  | case3 a =>
      have ha := a.toNat_lt
      have hfirst := first_eq a (r := 0) (by decide)
      rw [encode, decode, value_digit _ (by omega), value_digit _ (by omega), value_pad]
      rw [Nat.add_zero] at hfirst
      simp only [true_and]
      rw [if_pos (by omega), hfirst]
  | case4 => rfl

end Base64
