import Mathlib.Data.List.DropRight

/-!
# `Lib.Windows` — the last entries of a list, and its windows

A buffer that is cut to its last `n` entries after each append holds the last `n` of everything that was
appended (`rtake_rtake_append`).

`windows n l` are the runs of `n` neighbours in `l`, in order. One more entry brings at most one more
window (`windows_snoc`), and the windows of a list are those that begin before a position and those
that begin at it or after it (`windows_split`).
-/

namespace Lib.Windows

variable {α β : Type*} {n k : ℕ} {l m : List α} {x : α}

/-- The runs of `n` neighbours. -/
def windows (n : ℕ) : List α → List (List α)
  | [] => []
  | x :: l => if n ≤ l.length + 1 then (x :: l).take n :: windows n l else []

/-! ## The last entries -/

theorem length_rtake : (l.rtake n).length = min n l.length := by
  simp only [List.rtake, List.length_drop]
  omega

theorem rtake_of_length_le (h : l.length ≤ n) : l.rtake n = l := by
  rw [List.rtake, Nat.sub_eq_zero_of_le h, List.drop_zero]

theorem map_rtake (f : α → β) : (l.rtake n).map f = (l.map f).rtake n := by
  rw [List.rtake, List.rtake, List.map_drop, List.length_map]

/-- What is cut off before an append would be cut off after it. -/
theorem rtake_rtake_append : (l.rtake n ++ m).rtake n = (l ++ m).rtake n := by
  simp only [List.rtake, List.drop_append, List.drop_drop, List.length_append, List.length_drop]
  congr 2 <;> omega

/-- The last of the last entries. -/
theorem rtake_rtake (h : n ≤ k) : (l.rtake k).rtake n = l.rtake n := by
  simp only [List.rtake, List.drop_drop, List.length_drop]
  congr 1
  omega

theorem rtake_append_of_le (h : n ≤ m.length) : (l ++ m).rtake n = m.rtake n := by
  have hlen : l.length ≤ l.length + m.length - n := by omega
  rw [List.rtake, List.rtake, List.length_append, List.drop_append,
    List.drop_eq_nil_of_le hlen, List.nil_append]
  congr 1
  omega

/-- The newest entry is among the last ones. -/
theorem rtake_concat (hn : 0 < n) : (l ++ [x]).rtake n = l.rtake (n - 1) ++ [x] := by
  have hle : l.length + 1 - n ≤ l.length := by omega
  rw [List.rtake, List.length_append, List.length_singleton, List.drop_append_of_le_length hle, List.rtake]
  congr 2
  omega

theorem rtake_suffix : l.rtake n <:+ l := List.drop_suffix _ l

/-- A suffix has the last `n` entries exactly when it is long enough. -/
theorem rtake_eq_iff_of_suffix (h : m <:+ l) : m.rtake n = l.rtake n ↔ min n l.length ≤ m.length := by
  constructor
  · intro heq
    have hlen := congrArg List.length heq
    rw [length_rtake, length_rtake] at hlen
    omega
  · obtain ⟨t, rfl⟩ := h
    intro hle
    rw [List.length_append] at hle
    by_cases hn : n ≤ m.length
    · exact (rtake_append_of_le hn).symm
    · have ht : t = [] := List.length_eq_zero_iff.mp (by omega)
      rw [ht, List.nil_append]

/-! ## Windows -/

theorem windows_eq_nil (h : l.length < n) : windows n l = [] := by
  cases l with
  | nil => rfl
  | cons x l => exact if_neg (not_le.mpr h)

/-- A new entry completes one window, once there are enough. -/
theorem windows_snoc (hn : 0 < n) :
    windows n (l ++ [x]) =
      windows n l ++ if n ≤ l.length + 1 then [(l ++ [x]).rtake n] else [] := by
  induction l with
  | nil =>
      by_cases h : n ≤ 1
      · obtain rfl : n = 1 := by omega
        rfl
      · simp [windows, h]
  | cons y l ih =>
      have hlen : (l ++ [x]).length = l.length + 1 := by simp
      rw [List.cons_append, windows, ih, hlen, List.length_cons]
      by_cases h : n ≤ l.length + 1
      · -- the first window is there without the new entry
        have htake : (y :: (l ++ [x])).take n = (y :: l).take n := by
          rw [← List.cons_append, List.take_append_of_le_length (by simpa using h)]
        have hlast : (y :: (l ++ [x])).rtake n = (l ++ [x]).rtake n :=
          rtake_append_of_le (l := [y]) (h.trans_eq hlen.symm)
        have hy : windows n (y :: l) = (y :: l).take n :: windows n l := if_pos h
        rw [if_pos (by omega), if_pos h, if_pos (by omega), hlast, htake, hy, List.cons_append]
      · rw [windows_eq_nil (l := y :: l) (by rw [List.length_cons]; omega),
          windows_eq_nil (l := l) (by omega), if_neg h]
        by_cases h' : n ≤ l.length + 1 + 1
        · have hall : (y :: (l ++ [x])).length ≤ n := by simp; omega
          rw [if_pos h', if_pos h', rtake_of_length_le hall, List.take_of_length_le hall]
          rfl
        · rw [if_neg h', if_neg h']
          rfl

/-- The windows that begin before position `k`, and those that begin later. -/
theorem windows_split (hn : 0 < n) (k : ℕ) :
    windows n l = windows n (l.take (k + n - 1)) ++ windows n (l.drop k) := by
  induction k generalizing l with
  | zero =>
      rw [windows_eq_nil (l := l.take (0 + n - 1)) (by rw [List.length_take]; omega)]
      rfl
  | succ k ih =>
      cases l with
      | nil => simp [windows]
      | cons x l =>
          have hk : k + 1 + n - 1 = (k + n - 1) + 1 := by omega
          have htake : (x :: l).take (k + 1 + n - 1) = x :: l.take (k + n - 1) := by
            rw [hk, List.take_succ_cons]
          rw [htake, List.drop_succ_cons, windows, windows, List.length_take]
          by_cases h : n ≤ l.length + 1
          · have hfirst : (x :: l.take (k + n - 1)).take n = (x :: l).take n := by
              rw [← htake, List.take_take]
              congr 1
              omega
            rw [if_pos h, if_pos (by omega), hfirst, List.cons_append, ← ih]
          · rw [if_neg h, if_neg (by omega), windows_eq_nil (by rw [List.length_drop]; omega)]
            rfl

end Lib.Windows
