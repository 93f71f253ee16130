import Mathlib.Data.List.Rotate
import PredictATrade.Lib.Windows

/-!
# `Lib.Ring` — ring buffers

A ring buffer is a list of slots and the place that is written next. Read from that place on (`contents`), a
write takes the first entry away and puts the new one at the end (`contents_write`), so the slots end in the
last entries that have been written (`Holds`). Once there have been as many as there are slots, they hold
those and nothing else; before, they hold all of them from the first slot on.
-/

namespace Lib.Ring
open Lib.Windows

variable {α : Type*} {slots seen : List α} {head : ℕ} {v : α}

/-- The slots, from the place that is written next. -/
def contents (slots : List α) (head : ℕ) : List α := slots.rotate head

/-- The slots end in what has been written. -/
structure Holds (slots : List α) (head : ℕ) (seen : List α) : Prop where
  head_lt : head < slots.length
  suffix : seen.rtake slots.length <:+ contents slots head

theorem contents_eq (h : head < slots.length) : contents slots head = slots.drop head ++ slots.take head :=
  List.rotate_eq_drop_append_take h.le

@[simp] theorem length_contents : (contents slots head).length = slots.length := List.length_rotate _ _

/-- **One write.** -/
theorem contents_write (h : head < slots.length) (v : α) :
    contents (slots.set head v) ((head + 1) % slots.length) = (contents slots head).tail ++ [v] := by
  have hlen : (slots.set head v).length = slots.length := List.length_set
  have hdrop : (slots.set head v).drop (head + 1) = slots.drop (head + 1) :=
    List.drop_set_of_lt (Nat.lt_succ_self head)
  have htake : (slots.set head v).take (head + 1) = slots.take head ++ [v] := by
    rw [List.take_set, List.take_add_one, List.getElem?_eq_getElem h]
    rw [List.set_append_right _ _ (by rw [List.length_take]; omega), List.length_take,
      Nat.min_eq_left h.le, Nat.sub_self]
    rfl
  have htail : (slots.drop head ++ slots.take head).tail = slots.drop (head + 1) ++ slots.take head := by
    rw [List.drop_eq_getElem_cons h]
    rfl
  unfold contents
  rw [← hlen, List.rotate_mod, List.rotate_eq_drop_append_take (by rw [hlen]; exact h), hdrop, htake,
    ← List.append_assoc, ← htail, ← List.rotate_eq_drop_append_take h.le]

theorem Holds.new (h : 0 < slots.length) : Holds slots 0 [] := by
  refine ⟨h, ?_⟩
  rw [rtake_of_length_le (Nat.zero_le _)]
  exact List.nil_suffix

/-- A write keeps to what has been written. -/
theorem Holds.write (h : Holds slots head seen) (v : α) :
    Holds (slots.set head v) ((head + 1) % slots.length) (seen ++ [v]) := by
  have hpos : 0 < slots.length := (Nat.zero_le _).trans_lt h.head_lt
  refine ⟨by rw [List.length_set]; exact Nat.mod_lt _ hpos, ?_⟩
  rw [List.length_set, contents_write h.head_lt, rtake_concat hpos]
  obtain ⟨front, hfront⟩ := h.suffix
  -- of the last entries all but one stay
  have hrest : seen.rtake (slots.length - 1) <:+ (contents slots head).tail := by
    have hlast : seen.rtake (slots.length - 1) <:+ contents slots head := by
      rw [← rtake_rtake (Nat.sub_le slots.length 1), ← hfront]
      exact rtake_suffix.trans (List.suffix_append _ _)
    refine List.suffix_of_suffix_length_le hlast (List.tail_suffix _) ?_
    rw [length_rtake, List.length_tail, length_contents]
    exact Nat.min_le_left _ _
  obtain ⟨front', hfront'⟩ := hrest
  exact ⟨front', by rw [← List.append_assoc, hfront']⟩

/-- The last entries that have been written, once there are enough. -/
theorem Holds.contents_eq_rtake (h : Holds slots head seen) (hfull : slots.length ≤ seen.length) :
    contents slots head = seen.rtake slots.length := by
  refine (h.suffix.eq_of_length ?_).symm
  rw [length_rtake, length_contents, Nat.min_eq_left hfull]

/-- The place that is written next has the oldest of them. -/
theorem Holds.oldest (h : Holds slots head seen) (hfull : slots.length ≤ seen.length) :
    slots[head]? = (seen.rtake slots.length).head? := by
  rw [← h.contents_eq_rtake hfull, contents_eq h.head_lt, List.drop_eq_getElem_cons h.head_lt,
    List.getElem?_eq_getElem h.head_lt]
  rfl

/-- Before, the first slots have all that has been written. -/
theorem Holds.take_eq (h : Holds slots head seen) (hhead : head = seen.length) : slots.take head = seen := by
  have hle : seen.length ≤ slots.length := hhead ▸ h.head_lt.le
  have hsuffix := h.suffix
  rw [rtake_of_length_le hle, contents_eq h.head_lt] at hsuffix
  have hlast : slots.take head <:+ slots.drop head ++ slots.take head := List.suffix_append _ _
  refine ((List.suffix_of_suffix_length_le hsuffix hlast ?_).eq_of_length ?_).symm
  · rw [List.length_take]
    omega
  · rw [List.length_take]
    omega

end Lib.Ring
