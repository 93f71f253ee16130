import Mathlib.Logic.Function.Basic

/-!
# `Lib.Lookup` — tables read along a chain of keys

A reader that has a chain of keys, from the most to the least specific, takes the first entry there
is. `firstOf_writes_of_not_mem` says which writes it cannot see: those under keys off its chain.
`firstOf_writes_of_isSome` says which it does not look at: those behind a key that has an entry.
Entries are only ever written over, never taken away, so both hold of whole logs of writes.
-/

namespace Lib.Lookup

variable {K S : Type*} {t u : K → Option S} {k l : K} {s : S} {chain : List K}

/-- The entry of the first key of the chain that has one. -/
def firstOf (t : K → Option S) (chain : List K) : Option S := chain.findSome? t

/-- The readings of two tables that agree along the chain are the same. -/
theorem firstOf_congr (h : ∀ k ∈ chain, t k = u k) : firstOf t chain = firstOf u chain := by
  unfold firstOf
  induction chain with
  | nil => rfl
  | cons k chain ih =>
    have hk : t k = u k := h k List.mem_cons_self
    have hrest : chain.findSome? t = chain.findSome? u :=
      ih fun l hl => h l (List.mem_cons_of_mem k hl)
    simp only [List.findSome?_cons, hk, hrest]

/-- Where the first key has an entry, the rest of the chain is not read. -/
theorem firstOf_cons_of_isSome (h : (t k).isSome = true) : firstOf t (k :: chain) = t k := by
  obtain ⟨s, hs⟩ := Option.isSome_iff_exists.mp h
  simp only [firstOf, List.findSome?_cons, hs]

variable [DecidableEq K]

/-- Put an entry under a key, over the one that is there. -/
def write (t : K → Option S) (k : K) (s : S) : K → Option S :=
  fun l => if l = k then some s else t l

theorem write_of_ne (h : l ≠ k) : write t k s l = t l := if_neg h

/-! ## Logs of writes -/

/-- The table after a log of writes, the oldest first. -/
def writes (t : K → Option S) (log : List (K × S)) : K → Option S :=
  log.foldl (fun t e => write t e.1 e.2) t

variable {older newer : List (K × S)}

/-- What a log leaves under a key depends on the table under that key alone. -/
theorem writes_congr (h : t l = u l) (log : List (K × S)) : writes t log l = writes u log l := by
  induction log generalizing t u with
  | nil => exact h
  | cons e log ih =>
    have hstep : write t e.1 e.2 l = write u e.1 e.2 l := by
      by_cases he : l = e.1
      · simp only [write, he, if_true]
      · rw [write_of_ne he, write_of_ne he]
        exact h
    exact ih hstep

/-- A write anywhere in a log leaves the other keys as they are without it. -/
theorem writes_insert_of_ne (h : l ≠ k) :
    writes t (older ++ (k, s) :: newer) l = writes t (older ++ newer) l := by
  simp only [writes, List.foldl_append, List.foldl_cons]
  exact writes_congr (write_of_ne h) newer

/-- **Writes off the chain are not seen**, wherever in the log they stand. -/
theorem firstOf_writes_of_not_mem (h : k ∉ chain) :
    firstOf (writes t (older ++ (k, s) :: newer)) chain =
      firstOf (writes t (older ++ newer)) chain := by
  refine firstOf_congr fun l hl => writes_insert_of_ne ?_
  rintro rfl
  exact h hl

/-- **Writes behind an entry are not seen**, wherever in the log they stand. -/
theorem firstOf_writes_of_isSome (h : (writes t (older ++ newer) l).isSome = true) (hne : l ≠ k) :
    firstOf (writes t (older ++ (k, s) :: newer)) (l :: chain) =
      firstOf (writes t (older ++ newer)) (l :: chain) := by
  have hl : writes t (older ++ (k, s) :: newer) l = writes t (older ++ newer) l :=
    writes_insert_of_ne hne
  rw [firstOf_cons_of_isSome h, ← hl]
  exact firstOf_cons_of_isSome (by rw [hl]; exact h)

end Lib.Lookup
