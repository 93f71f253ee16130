import PredictATrade.Lib.Median
import PredictATrade.Lib.Ring
import PredictATrade.Lib.Runs
import PredictATrade.Liquidity.Engine

/-!
# `Liquidity.RollingMedian` — the median of the last values

`rollingBuf` is a ring of slots that is written one accepted value after the other. Until it is full its first
slots have the values in the order they came, afterwards all its slots have the last ones, rotated; the median
sorts a copy, so the rotation is lost and what counts is which values there are (`Tracks.filled_perm`).

The numbers are any whose comparisons are a linear order. Those of `float64` are, but for `NaN`, which has no
place in an order and with which nothing is the middle.
-/

namespace PredictATrade.Liquidity

open FloatLike (num)
open Lib.Median Lib.Ring Lib.Runs Lib.Windows

variable {F : Type} [FloatLike F] {cap : ℤ} {v m : F} {vs l seen : List F} {r : RollingBuf F}

/-- The values that a buffer takes in. -/
def accepted (vs : List F) : List F := vs.filter fun v => ¬ v ≤ num 0

/-- What the median makes of the two values in the middle. -/
def halfway (a b : F) : F := (a + b) / num 2

/-- The slots that have been written. -/
def RollingBuf.filled (r : RollingBuf F) : List F := r.vals.take (if r.full then r.vals.length else r.pos)

/-- The copy that `median` sorts. -/
def sorted (l : List F) : List F := (l.foldl (fun s v => insertSorted v s) []).reverse

/-- The median of the buffer is the median of some values, and zero when there are none. -/
structure RollingBuf.HasMedianOf (r : RollingBuf F) (l : List F) : Prop where
  none : l = [] → r.median = num 0
  some : l ≠ [] → ∀ m, IsMedian halfway l m ↔ r.median = m

/-! ## The sorted copy -/

section
variable [Std.IsLinearOrder F] [Std.LawfulOrderLT F]

/-- A step of the insertion sort, as the sorted part is read from its end. -/
theorem insertSorted_eq (v : F) (l : List F) : insertSorted v l = l.orderedInsert (· ≥ ·) v := by
  induction l with
  | nil => rfl
  | cons x l ih =>
    rw [List.orderedInsert_cons, ← ih]
    show (if v < x then _ else _) = if x ≤ v then _ else _
    by_cases hlt : v < x
    · rw [if_pos hlt, if_neg (Std.not_le_of_gt hlt)]
    · rw [if_neg hlt, if_pos (Std.not_lt.mp hlt)]

theorem sorted_eq (l : List F) : sorted l = (l.reverse.insertionSort (· ≥ ·)).reverse := by
  unfold sorted List.insertionSort
  rw [List.foldr_reverse]
  simp only [insertSorted_eq]

theorem sorted_perm (l : List F) : (sorted l).Perm l := by
  rw [sorted_eq]
  exact (List.reverse_perm _).trans ((List.perm_insertionSort _ _).trans (List.reverse_perm _))

theorem sorted_pairwise (l : List F) : (sorted l).Pairwise (· ≤ ·) := by
  have htotal : Std.Total (α := F) (· ≥ ·) := ⟨fun _ _ => Std.le_total⟩
  have htrans : IsTrans F (· ≥ ·) := ⟨fun _ _ _ hab hbc => Std.le_trans hbc hab⟩
  rw [sorted_eq, List.pairwise_reverse]
  exact List.pairwise_insertionSort (· ≥ ·) l.reverse

/-! ## The median of what is in the slots -/

theorem median_eq (hpos : r.pos ≤ r.vals.length) :
    r.median = if r.filled = [] then num 0 else
      if (sorted r.filled).length % 2 = 1 then
        (sorted r.filled).getD ((sorted r.filled).length / 2) (num 0)
      else halfway ((sorted r.filled).getD ((sorted r.filled).length / 2 - 1) (num 0))
        ((sorted r.filled).getD ((sorted r.filled).length / 2) (num 0)) := by
  have hlen : r.filled.length = if r.full then r.vals.length else r.pos := by
    unfold RollingBuf.filled
    rw [List.length_take]
    split <;> omega
  have hsorted : (sorted r.filled).length = r.filled.length := (sorted_perm _).length_eq
  rw [hsorted, hlen]
  simp only [← List.length_eq_zero_iff, hlen]
  rfl

theorem RollingBuf.hasMedianOf_filled (hpos : r.pos ≤ r.vals.length) : r.HasMedianOf r.filled where
  none h := by rw [median_eq hpos, if_pos h]
  some h m := by
    have hne : sorted r.filled ≠ [] := by
      intro hnil
      exact h (List.nil_perm.mp (hnil ▸ sorted_perm r.filled))
    rw [isMedian_iff (sorted_perm _) (sorted_pairwise _), middle_eq hne (num 0), Option.some.injEq,
      median_eq hpos, if_neg h]

end

/-- The order of the values does not matter. -/
theorem RollingBuf.HasMedianOf.of_perm {l' : List F} (h : r.HasMedianOf l) (hperm : l.Perm l') :
    r.HasMedianOf l' where
  none hnil := h.none (List.perm_nil.mp (hnil ▸ hperm))
  some hne m := by
    have hne' : l ≠ [] := fun hnil => hne (List.nil_perm.mp (hnil ▸ hperm))
    have hsame : ∀ s : List F, s.Perm l ↔ s.Perm l' := fun s => hperm.congr_right s
    rw [← h.some hne' m]
    unfold IsMedian
    simp only [hsame]

/-! ## Runs -/

/-- The buffer is as the values that it has taken in leave it. -/
structure RollingBuf.Tracks (cap : ℕ) (r : RollingBuf F) (seen : List F) : Prop where
  length : r.vals.length = cap
  holds : Holds r.vals r.pos seen
  full : r.full = true → cap ≤ seen.length
  filling : r.full = false → r.pos = seen.length

theorem newRollingBuf_tracks (cap : ℤ) :
    (newRollingBuf cap : RollingBuf F).Tracks (max cap 1).toNat [] := by
  have hcap : (if cap < 1 then 1 else cap).toNat = (max cap 1).toNat := by
    split <;> omega
  have hlen : (newRollingBuf cap : RollingBuf F).vals.length = (max cap 1).toNat := by
    rw [← hcap]
    exact List.length_replicate
  refine ⟨hlen, Holds.new ?_, ?_, fun _ => rfl⟩
  · rw [hlen]
    omega
  · intro h; cases h

theorem RollingBuf.Tracks.add {cap : ℕ} (h : r.Tracks cap seen) (v : F) :
    (r.add v).Tracks cap (seen ++ accepted [v]) := by
  have hlt := h.holds.head_lt
  unfold RollingBuf.add accepted
  by_cases hv : v ≤ num 0
  · -- not a value that counts
    rw [if_pos hv, List.filter_cons_of_neg (by simpa using hv), List.filter_nil, List.append_nil]
    exact h
  · rw [if_neg hv, List.filter_cons_of_pos (by simpa using hv), List.filter_nil]
    have hwrite := h.holds.write v
    have hlen : (r.vals.set r.pos v).length = cap := List.length_set.trans h.length
    dsimp only
    by_cases hwrap : r.vals.length ≤ r.pos + 1
    · -- the last slot is written, and the next one is the first again
      have hlast : r.pos + 1 = r.vals.length := by omega
      rw [if_pos hwrap]
      rw [hlast, Nat.mod_self] at hwrite
      refine ⟨hlen, hwrite, fun _ => ?_, fun hnot => ?_⟩
      · rw [List.length_append, List.length_singleton, ← h.length]
        cases hfull : r.full with
        | true =>
          have hle := h.full hfull
          rw [← h.length] at hle
          omega
        | false =>
          have hpos := h.filling hfull
          omega
      · cases hnot
    · rw [if_neg hwrap]
      rw [Nat.mod_eq_of_lt (not_le.mp hwrap)] at hwrite
      refine ⟨hlen, hwrite, fun hfull => ?_, fun hnot => ?_⟩
      · rw [List.length_append]
        exact (h.full hfull).trans (Nat.le_add_right _ _)
      · rw [List.length_append, List.length_singleton]
        exact congrArg (· + 1) (h.filling hnot)

/-- **Run.** The buffer holds the last of the values that were accepted. -/
theorem RollingBuf.Tracks.run {cap : ℕ} (h : r.Tracks cap seen) (vs : List F) :
    (run RollingBuf.add r vs).Tracks cap (seen ++ accepted vs) := by
  induction vs generalizing r seen with
  | nil =>
    show r.Tracks cap (seen ++ [])
    rw [List.append_nil]
    exact h
  | cons v vs ih =>
    have hvalues : seen ++ accepted (v :: vs) = seen ++ accepted [v] ++ accepted vs := by
      rw [List.append_assoc]
      unfold accepted
      rw [← List.filter_append, List.singleton_append]
    rw [run_cons, hvalues]
    exact ih (h.add v)

omit [FloatLike F] in
/-- The slots that have been written have the last values. -/
theorem RollingBuf.Tracks.filled_perm {cap : ℕ} (h : r.Tracks cap seen) :
    r.filled.Perm (seen.rtake cap) := by
  unfold RollingBuf.filled
  cases hfull : r.full with
  | true =>
    -- the ring from its place on is a rotation of the slots
    have hle : r.vals.length ≤ seen.length := h.length ▸ h.full hfull
    rw [if_pos rfl, List.take_length, ← h.length, ← h.holds.contents_eq_rtake hle]
    exact (List.rotate_perm _ _).symm
  | false =>
    have hpos := h.filling hfull
    have hlt := h.holds.head_lt
    rw [h.length] at hlt
    rw [if_neg Bool.false_ne_true, h.holds.take_eq hpos, rtake_of_length_le (by omega)]

/-- **The rolling median.** For every capacity and every run of values: the median of the buffer is the
median of the last accepted values, as many as the capacity if there are so many. -/
theorem rolling_median [Std.IsLinearOrder F] [Std.LawfulOrderLT F] (cap : ℤ) (vs : List F) :
    (run RollingBuf.add (newRollingBuf cap) vs).HasMedianOf ((accepted vs).rtake (max cap 1).toNat) := by
  have htracks := (newRollingBuf_tracks cap).run vs
  rw [List.nil_append] at htracks
  exact (RollingBuf.hasMedianOf_filled htracks.holds.head_lt.le).of_perm htracks.filled_perm

/-- Rationals are in order, and a median divides by nothing but two. -/
instance : FloatLike ℚ where
  num q := q
  decLT := inferInstance
  decLE := inferInstance

/-- Five values for three slots: two of them do not count, and the first one is overwritten by the last. -/
theorem rolling_median_wraps :
    (run RollingBuf.add (newRollingBuf 3) [7, 0, 2, -1, 4, (5 : ℚ)]).HasMedianOf [2, 4, 5] :=
  rolling_median (F := ℚ) 3 [7, 0, 2, -1, 4, 5]

end PredictATrade.Liquidity
