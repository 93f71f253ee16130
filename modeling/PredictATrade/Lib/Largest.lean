import Mathlib.Order.Lattice

/-!
# `Lib.Largest` — running maxima

The largest of a list of values, as a loop computes it that starts from a value and takes every value
that is above what it has. `largest_spec` is the loop's invariant; the rules are what follows from it:
the result bounds the start and every value, and is one of them.
-/

namespace Lib.Largest

variable {α : Type*} [LinearOrder α] {m v : α} {vs : List α}

/-- The loop `for v in vs { if v > m { m = v } }`. -/
def largest (m : α) (vs : List α) : α := vs.foldl (fun m v => if m < v then v else m) m

/-- The largest is one of the values, and none is larger. -/
theorem largest_spec (m : α) (vs : List α) :
    m ≤ largest m vs ∧ (∀ v ∈ vs, v ≤ largest m vs) ∧ (largest m vs = m ∨ largest m vs ∈ vs) := by
  induction vs generalizing m with
  | nil => exact ⟨le_rfl, fun v hv => absurd hv List.not_mem_nil, Or.inl rfl⟩
  | cons d vs ih =>
    have hstep : largest m (d :: vs) = largest (if m < d then d else m) vs := rfl
    obtain ⟨hstart, hall, hmem⟩ := ih (if m < d then d else m)
    rw [hstep]
    by_cases h : m < d
    · rw [if_pos h] at hstart hall hmem ⊢
      refine ⟨h.le.trans hstart, ?_, Or.inr ?_⟩
      · intro v hv
        rcases List.mem_cons.mp hv with rfl | hv
        · exact hstart
        · exact hall v hv
      · rcases hmem with hmem | hmem
        · rw [hmem]
          exact List.mem_cons_self
        · exact List.mem_cons_of_mem d hmem
    · rw [if_neg h] at hstart hall hmem ⊢
      refine ⟨hstart, ?_, hmem.imp_right (List.mem_cons_of_mem d)⟩
      intro v hv
      rcases List.mem_cons.mp hv with rfl | hv
      · exact (not_lt.mp h).trans hstart
      · exact hall v hv

/-- The largest is not below what it started with. -/
theorem start_le_largest (m : α) (vs : List α) : m ≤ largest m vs := (largest_spec m vs).1

theorem le_largest (m : α) (hv : v ∈ vs) : v ≤ largest m vs := (largest_spec m vs).2.1 v hv

theorem largest_mem (m : α) (vs : List α) : largest m vs = m ∨ largest m vs ∈ vs :=
  (largest_spec m vs).2.2

/-- The largest is the one that bounds the start and every value. -/
theorem largest_eq (hmem : v = m ∨ v ∈ vs) (hm : m ≤ v) (hall : ∀ w ∈ vs, w ≤ v) :
    largest m vs = v := by
  apply le_antisymm
  · rcases largest_mem m vs with h | h
    · rw [h]
      exact hm
    · exact hall _ h
  · rcases hmem with rfl | hmem
    · exact start_le_largest v vs
    · exact le_largest m hmem

end Lib.Largest
