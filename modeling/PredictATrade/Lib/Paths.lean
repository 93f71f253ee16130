import Mathlib.Data.List.Nodup

/-!
# `Lib.Paths` — paths through a graph of states

A path is the list of the edges taken, each with the state it leaves and the state it enters. Where a
rank rises along every edge, a path never comes back: `Path.rank_le`, and `Path.entered_nodup` — no
state is entered twice.
-/

namespace Lib.Paths

variable {σ : Type*} {E : σ → σ → Prop} {rank : σ → ℕ} {s t u : σ} {l l' : List (σ × σ)}

/-- The edges `l` lead from `s` to `u`. -/
inductive Path (E : σ → σ → Prop) : σ → List (σ × σ) → σ → Prop where
  | nil (s : σ) : Path E s [] s
  | cons {s t u : σ} {l : List (σ × σ)} (h : E s t) (p : Path E t l u) : Path E s ((s, t) :: l) u

theorem Path.single (h : E s t) : Path E s [(s, t)] t := .cons h (.nil t)

theorem Path.append (p : Path E s l t) (q : Path E t l' u) : Path E s (l ++ l') u := by
  induction p with
  | nil => exact q
  | cons h _ ih => exact .cons h (ih q)

/-- A path is made of edges. -/
theorem Path.edge (p : Path E s l u) {e : σ × σ} (he : e ∈ l) : E e.1 e.2 := by
  induction p with
  | nil => cases he
  | cons h _ ih =>
      rcases List.mem_cons.mp he with rfl | he
      · exact h
      · exact ih he

/-! ## Paths that rise -/

theorem Path.rank_le (hr : ∀ s t, E s t → rank s < rank t) (p : Path E s l u) : rank s ≤ rank u := by
  induction p with
  | nil => exact Nat.le_refl _
  | cons h _ ih => exact Nat.le_trans (Nat.le_of_lt (hr _ _ h)) ih

/-- A path that goes anywhere goes up. -/
theorem Path.eq_or_rank_lt (hr : ∀ s t, E s t → rank s < rank t) (p : Path E s l u) :
    (l = [] ∧ u = s) ∨ rank s < rank u := by
  cases p with
  | nil => exact Or.inl ⟨rfl, rfl⟩
  | cons h p => exact Or.inr (Nat.lt_of_lt_of_le (hr _ _ h) (p.rank_le hr))

/-- What a path enters is above where it starts. -/
theorem Path.entered_above (hr : ∀ s t, E s t → rank s < rank t) (p : Path E s l u) {e : σ × σ}
    (he : e ∈ l) : rank s < rank e.2 := by
  induction p with
  | nil => cases he
  | cons h _ ih =>
      rcases List.mem_cons.mp he with rfl | he
      · exact hr _ _ h
      · exact Nat.lt_trans (hr _ _ h) (ih he)

/-- **No state is entered twice** by a path that rises. -/
theorem Path.entered_nodup (hr : ∀ s t, E s t → rank s < rank t) (p : Path E s l u) :
    (l.map Prod.snd).Nodup := by
  induction p with
  | nil => exact List.nodup_nil
  | cons h p ih =>
      refine List.nodup_cons.mpr ⟨fun hmem => ?_, ih⟩
      obtain ⟨e, he, heq⟩ := List.mem_map.mp hmem
      have habove := p.entered_above hr he
      rw [heq] at habove
      exact absurd habove (Nat.lt_irrefl _)

end Lib.Paths
