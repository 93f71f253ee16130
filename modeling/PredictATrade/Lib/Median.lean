import Mathlib.Data.List.Sort
import Mathlib.Data.Option.NAry

/-!
# `Lib.Median` — the median of a list

The median is the middle of the list in ascending order, and of an even number of entries something made of
the two that are in the middle: `mid` says what. Entries that are equivalent are the same here, so any two
arrangements in ascending order are one, and any of them can be asked (`isMedian_iff`).
-/

namespace Lib.Median

variable {α : Type*} {mid : α → α → α} {l s : List α} {m : α}

/-- The middle of a list as it stands. -/
def middle (mid : α → α → α) (l : List α) : Option α :=
  if l.length % 2 = 1 then l[l.length / 2]? else Option.map₂ mid l[l.length / 2 - 1]? l[l.length / 2]?

/-- The middle of the list in ascending order. -/
def IsMedian [LE α] (mid : α → α → α) (l : List α) (m : α) : Prop :=
  ∃ s, s.Perm l ∧ s.Pairwise (· ≤ ·) ∧ middle mid s = some m

/-- The middle by its places, whatever stands for an entry that is not there. -/
theorem middle_eq (h : l ≠ []) (d : α) :
    middle mid l = some (if l.length % 2 = 1 then l.getD (l.length / 2) d
      else mid (l.getD (l.length / 2 - 1) d) (l.getD (l.length / 2) d)) := by
  have hlen : 0 < l.length := List.length_pos_iff.mpr h
  have hhalf : l.length / 2 < l.length := Nat.div_lt_self hlen Nat.one_lt_two
  have hpred : l.length / 2 - 1 < l.length := (Nat.sub_le _ _).trans_lt hhalf
  have hget : ∀ n, n < l.length → l[n]? = some (l.getD n d) := by
    intro n hn
    rw [List.getD_eq_getElem?_getD, List.getElem?_eq_getElem hn, Option.getD_some]
  unfold middle
  rw [hget _ hhalf, hget _ hpred, Option.map₂_some_some]
  split <;> rfl

/-- **One arrangement is enough.** -/
theorem isMedian_iff [LE α] [Std.Antisymm (α := α) (· ≤ ·)] (hperm : s.Perm l)
    (hsorted : s.Pairwise (· ≤ ·)) : IsMedian mid l m ↔ middle mid s = some m := by
  constructor
  · rintro ⟨s', hperm', hsorted', hm⟩
    have hsame : s' = s := (hperm'.trans hperm.symm).eq_of_pairwise' hsorted' hsorted
    exact hsame ▸ hm
  · intro hm
    exact ⟨s, hperm, hsorted, hm⟩

end Lib.Median
