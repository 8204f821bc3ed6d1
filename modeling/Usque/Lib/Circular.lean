import Mathlib.Data.List.Basic
import Mathlib.Data.Nat.ModEq
import Mathlib.Tactic.SplitIfs

namespace Circular

variable {α : Type}

def writeAt (buf : List α) (pos : Nat) (xs : List α) : List α :=
  buf.take pos ++ xs ++ buf.drop (pos + xs.length)

def readAt (buf : List α) (pos n : Nat) : List α := (buf.drop pos).take n

def wrapWrite (buf : List α) (pos : Nat) (xs : List α) : List α :=
  let first := min xs.length (buf.length - pos)
  writeAt (writeAt buf pos (xs.take first)) 0 (xs.drop first)

def window (buf : List α) (pos n : Nat) : List α :=
  let first := min n (buf.length - pos)
  readAt buf pos first ++ readAt buf 0 (n - first)

theorem length_writeAt {buf xs : List α} {pos : Nat} (h : pos + xs.length ≤ buf.length) :
    (writeAt buf pos xs).length = buf.length := by
  simp only [writeAt, List.length_append, List.length_take, List.length_drop]
  omega

theorem getElem?_writeAt {buf xs : List α} {pos : Nat} (h : pos + xs.length ≤ buf.length) (i : Nat) :
    (writeAt buf pos xs)[i]? =
      if pos ≤ i ∧ i < pos + xs.length then xs[i - pos]? else buf[i]? := by
  have hp : pos ≤ buf.length := by omega
  simp only [writeAt, List.getElem?_append, List.length_append, List.length_take,
    Nat.min_eq_left hp, List.getElem?_take, List.getElem?_drop]
  by_cases h1 : i < pos
  · have h2 : i < pos + xs.length := by omega
    have h3 : ¬ (pos ≤ i ∧ i < pos + xs.length) := by omega
    rw [if_neg h3]
    simp [h1, h2]
  · by_cases h2 : i < pos + xs.length
    · simp [h1, h2, Nat.le_of_not_lt h1]
    · have h3 : pos + xs.length + (i - (pos + xs.length)) = i := by omega
      simp [h2, h3]

theorem getElem?_readAt {buf : List α} {pos n i : Nat} (h : i < n) :
    (readAt buf pos n)[i]? = buf[pos + i]? := by
  simp [readAt, h]

theorem length_readAt {buf : List α} {pos n : Nat} (h : pos + n ≤ buf.length) :
    (readAt buf pos n).length = n := by
  simp only [readAt, List.length_take, List.length_drop]
  omega

variable {buf xs : List α} {pos n : Nat}

theorem length_wrapWrite (hp : pos < buf.length) (hx : xs.length ≤ buf.length) :
    (wrapWrite buf pos xs).length = buf.length := by
  have h1 : (writeAt buf pos (xs.take (min xs.length (buf.length - pos)))).length = buf.length :=
    length_writeAt (by simp only [List.length_take]; omega)
  simp only [wrapWrite]
  rw [length_writeAt, h1]
  rw [h1]
  simp only [List.length_drop]
  omega

theorem getElem?_wrapWrite (hp : pos < buf.length) (hx : xs.length ≤ buf.length) {j : Nat}
    (hj : j < buf.length) :
    (wrapWrite buf pos xs)[(pos + j) % buf.length]? =
      if j < xs.length then xs[j]? else buf[(pos + j) % buf.length]? := by
  have h1 : pos + (xs.take (min xs.length (buf.length - pos))).length ≤ buf.length := by
    simp only [List.length_take]; omega
  have h2 : 0 + (xs.drop (min xs.length (buf.length - pos))).length ≤
      (writeAt buf pos (xs.take (min xs.length (buf.length - pos)))).length := by
    rw [length_writeAt h1]
    simp only [List.length_drop]
    omega
  simp only [wrapWrite]
  rw [getElem?_writeAt h2, getElem?_writeAt h1]
  simp only [List.length_drop, List.length_take, Nat.zero_le, true_and, Nat.zero_add,
    List.getElem?_take, List.getElem?_drop, Nat.sub_zero]
  by_cases hw : pos + j < buf.length
  · rw [Nat.mod_eq_of_lt hw]
    by_cases hl : j < xs.length
    · have e1 : ¬ pos + j < xs.length - min xs.length (buf.length - pos) := by omega
      have e2 : pos ≤ pos + j ∧
          pos + j < pos + min (min xs.length (buf.length - pos)) xs.length := by omega
      have e3 : pos + j - pos = j := by omega
      have e4 : j < min xs.length (buf.length - pos) := by omega
      simp only [e1, e2, e3, e4, hl, if_true, if_false, and_self]
    · have e1 : ¬ pos + j < xs.length - min xs.length (buf.length - pos) := by omega
      have e2 : ¬ (pos ≤ pos + j ∧
          pos + j < pos + min (min xs.length (buf.length - pos)) xs.length) := by omega
      simp only [e1, e2, hl, if_false]
  · have hm : (pos + j) % buf.length = pos + j - buf.length := by
      rw [Nat.mod_eq_sub_mod (Nat.le_of_not_lt hw), Nat.mod_eq_of_lt (by omega)]
    rw [hm]
    by_cases hl : j < xs.length
    · have e1 : pos + j - buf.length < xs.length - min xs.length (buf.length - pos) := by omega
      have e2 : min xs.length (buf.length - pos) + (pos + j - buf.length) = j := by omega
      simp only [e1, e2, hl, if_true]
    · have e1 : ¬ pos + j - buf.length < xs.length - min xs.length (buf.length - pos) := by omega
      have e2 : ¬ (pos ≤ pos + j - buf.length ∧ pos + j - buf.length <
          pos + min (min xs.length (buf.length - pos)) xs.length) := by omega
      simp only [e1, e2, hl, if_false]

theorem length_window (hp : pos < buf.length) (hn : n ≤ buf.length) :
    (window buf pos n).length = n := by
  simp only [window, List.length_append]
  rw [length_readAt (by omega), length_readAt (by omega)]
  omega

theorem getElem?_window (hp : pos < buf.length) (hn : n ≤ buf.length) {i : Nat} (hi : i < n) :
    (window buf pos n)[i]? = buf[(pos + i) % buf.length]? := by
  have hl : (readAt buf pos (min n (buf.length - pos))).length = min n (buf.length - pos) :=
    length_readAt (by omega)
  simp only [window, List.getElem?_append, hl]
  by_cases hf : i < min n (buf.length - pos)
  · rw [if_pos hf, getElem?_readAt hf, Nat.mod_eq_of_lt (by omega)]
  · have hm : (pos + i) % buf.length = pos + i - buf.length := by
      rw [Nat.mod_eq_sub_mod (by omega), Nat.mod_eq_of_lt (by omega)]
    rw [if_neg hf, getElem?_readAt (by omega), hm]
    congr 1
    omega

theorem ext_getElem?_lt {xs ys : List α} (hl : xs.length = ys.length)
    (h : ∀ i, i < ys.length → xs[i]? = ys[i]?) : xs = ys := by
  apply List.ext_getElem?
  intro i
  by_cases hi : i < ys.length
  · exact h i hi
  · rw [List.getElem?_eq_none (by omega), List.getElem?_eq_none (by omega)]

theorem window_wrapWrite (hp : pos < buf.length) (hn : n + xs.length ≤ buf.length) :
    window (wrapWrite buf ((pos + n) % buf.length) xs) pos (n + xs.length) =
      window buf pos n ++ xs := by
  have hw : (pos + n) % buf.length < buf.length := Nat.mod_lt _ (by omega)
  have hl : (wrapWrite buf ((pos + n) % buf.length) xs).length = buf.length :=
    length_wrapWrite hw (by omega)
  apply ext_getElem?_lt
  · rw [length_window (by omega) (by omega), List.length_append, length_window hp (by omega)]
  · intro i hi
    rw [List.length_append, length_window hp (by omega)] at hi
    rw [getElem?_window (by omega) (by omega) hi, hl, List.getElem?_append,
      length_window hp (by omega)]
    by_cases ho : i < n
    · have hj : ((pos + n) % buf.length + (buf.length + i - n)) % buf.length =
          (pos + i) % buf.length := by
        rw [Nat.mod_add_mod, ← Nat.add_mod_right (pos + i)]
        congr 1
        omega
      rw [if_pos ho, getElem?_window hp (by omega) ho, ← hj,
        getElem?_wrapWrite hw (by omega) (by omega), if_neg (by omega)]
    · have hj : ((pos + n) % buf.length + (i - n)) % buf.length = (pos + i) % buf.length := by
        rw [Nat.mod_add_mod]
        congr 1
        omega
      rw [if_neg ho, ← hj, getElem?_wrapWrite hw (by omega) (by omega), if_pos (by omega)]

theorem window_take (hp : pos < buf.length) (hn : n ≤ buf.length) {k : Nat} (hk : k ≤ n) :
    (window buf pos n).take k = window buf pos k := by
  apply ext_getElem?_lt
  · rw [List.length_take, length_window hp hn, length_window hp (by omega)]
    omega
  · intro i hi
    rw [length_window hp (by omega)] at hi
    rw [List.getElem?_take, if_pos hi, getElem?_window hp hn (by omega),
      getElem?_window hp (by omega) hi]

theorem window_drop (hp : pos < buf.length) (hn : n ≤ buf.length) {k : Nat} (hk : k ≤ n) :
    (window buf pos n).drop k = window buf ((pos + k) % buf.length) (n - k) := by
  have hw : (pos + k) % buf.length < buf.length := Nat.mod_lt _ (by omega)
  apply ext_getElem?_lt
  · rw [List.length_drop, length_window hp hn, length_window hw (by omega)]
  · intro i hi
    rw [length_window hw (by omega)] at hi
    rw [List.getElem?_drop, getElem?_window hp hn (by omega), getElem?_window hw (by omega) hi,
      Nat.mod_add_mod]
    congr 2
    omega

-- The cell that the k-th item of a copy of n items goes to or comes from, in a copy that is split
-- at the end of the buffer.
def cell (size pos n k : Nat) : Nat :=
  if k < min n (size - pos) then pos + k else k - min n (size - pos)

theorem cell_eq {size k : Nat} (hp : pos < size) (hn : n ≤ size) (hk : k < n) :
    cell size pos n k = (pos + k) % size := by
  simp only [cell]
  split_ifs with hf
  · rw [Nat.mod_eq_of_lt (by omega)]
  · rw [Nat.mod_eq_sub_mod (by omega), Nat.mod_eq_of_lt (by omega)]
    omega

theorem mod_ne_of_lt {size i j : Nat} (hi : i < j) (hj : j < i + size) :
    (pos + i) % size ≠ (pos + j) % size := by
  intro he
  have hd : size ∣ (pos + j) - (pos + i) := (Nat.modEq_iff_dvd' (by omega)).mp he
  have hle := Nat.le_of_dvd (by omega) hd
  omega

theorem window_set {c : Nat} {x : α} (hp : pos < buf.length) (hn : n ≤ buf.length)
    (h : ∀ i, i < n → c ≠ (pos + i) % buf.length) :
    window (buf.set c x) pos n = window buf pos n := by
  apply ext_getElem?_lt
  · rw [length_window (by simpa using hp) (by simpa using hn), length_window hp hn]
  · intro i hi
    rw [length_window hp hn] at hi
    rw [getElem?_window (by simpa using hp) (by simpa using hn) hi, getElem?_window hp hn hi,
      List.length_set, List.getElem?_set_ne (h i hi)]

theorem window_append (hp : pos < buf.length) (hn : n + xs.length ≤ buf.length)
    (h : ∀ j, j < xs.length → buf[(pos + (n + j)) % buf.length]? = xs[j]?) :
    window buf pos (n + xs.length) = window buf pos n ++ xs := by
  apply ext_getElem?_lt
  · rw [length_window hp hn, List.length_append, length_window hp (by omega)]
  · intro i hi
    rw [List.length_append, length_window hp (by omega)] at hi
    rw [getElem?_window hp hn hi, List.getElem?_append, length_window hp (by omega)]
    split_ifs with ho
    · rw [getElem?_window hp (by omega) ho]
    · rw [← h (i - n) (by omega)]
      congr 3
      omega

end Circular
