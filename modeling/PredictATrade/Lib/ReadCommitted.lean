import Mathlib.Logic.Function.Basic

/-!
# `Lib.ReadCommitted` — row locks under READ COMMITTED

A table maps keys to *slots*. A slot has a committed version, which every statement sees, and it may
be *held*: locked by a transaction, together with the version that transaction will commit. `none`
is a row that does not exist, so an insertion holds a slot whose committed version is `none`, and a
deletion holds one whose next version is.

* `lock`, `write`: take a slot, or go on writing one that is held already. Both are for slots that
  are `free` for the transaction; one that is not free makes the statement wait.
* `commit`, `rollback`: make the held versions the committed ones, or drop them.
* `put`: a single-row statement that is its own transaction.

A statement that changes many rows takes a snapshot (`scan`) and then goes row by row. When it comes
to a row it waits for the lock and looks again (`sweepRow`), so it never sees a row that was committed
after the snapshot. The frame lemmas say which slots each operation leaves alone; with them, that a
held slot stays as it is under whatever other transactions do.
-/

namespace Lib.ReadCommitted

/-- A row: its committed version, and who holds it with which version to come. -/
structure Slot (ρ τ : Type*) where
  committed : Option ρ := none
  held : Option (τ × Option ρ) := none

/-- A table. -/
abbrev Table (κ ρ τ : Type*) := κ → Slot ρ τ

variable {κ ρ τ : Type*} [DecidableEq κ] [DecidableEq τ]

/-- No other transaction holds the slot. -/
def Slot.free (x : Slot ρ τ) (t : τ) : Bool :=
  match x.held with
  | none => true
  | some (t', _) => t' = t

/-- The version a transaction sees: its own, or the committed one. -/
def Slot.view (x : Slot ρ τ) (t : τ) : Option ρ :=
  match x.held with
  | none => x.committed
  | some (t', v) => if t' = t then v else x.committed

/-- The version the slot will have once its holder commits; the committed one if nobody holds it. -/
def Slot.latest (x : Slot ρ τ) : Option ρ :=
  match x.held with
  | none => x.committed
  | some (_, v) => v

/-- The row is the slot's committed version, or the one to come. -/
def Slot.Has (x : Slot ρ τ) (r : ρ) : Prop :=
  x.committed = some r ∨ ∃ t, x.held = some (t, some r)

/-- The row after a transaction has committed. -/
def Slot.commit (x : Slot ρ τ) (t : τ) : Slot ρ τ :=
  if x.held.map Prod.fst = some t then { committed := x.latest } else x

/-- The row after a transaction was rolled back. -/
def Slot.rollback (x : Slot ρ τ) (t : τ) : Slot ρ τ :=
  if x.held.map Prod.fst = some t then { committed := x.committed } else x

namespace Table

/-- Write a version that the transaction will commit; this takes the lock. -/
def write (tb : Table κ ρ τ) (t : τ) (k : κ) (v : Option ρ) : Table κ ρ τ :=
  Function.update tb k ⟨(tb k).committed, some (t, v)⟩

/-- Lock a row and leave it as the transaction sees it. -/
def lock (tb : Table κ ρ τ) (t : τ) (k : κ) : Table κ ρ τ := tb.write t k ((tb k).view t)

/-- The table after a transaction has committed. -/
def commit (tb : Table κ ρ τ) (t : τ) : Table κ ρ τ := fun k => (tb k).commit t

/-- The table after a transaction was rolled back. -/
def rollback (tb : Table κ ρ τ) (t : τ) : Table κ ρ τ := fun k => (tb k).rollback t

/-- A statement on one row that commits at once. -/
def put (tb : Table κ ρ τ) (k : κ) (v : Option ρ) : Table κ ρ τ :=
  Function.update tb k { committed := v }

/-- The snapshot of a statement: the keys among `ks` whose row meets its condition. -/
def scan (tb : Table κ ρ τ) (t : τ) (p : ρ → Bool) (ks : List κ) : List κ :=
  ks.filter fun k => ((tb k).view t).any p

/-- One row of the statement, after the wait for its lock: the condition is checked again. -/
def sweepRow (tb : Table κ ρ τ) (t : τ) (p : ρ → Bool) (f : ρ → Option ρ) (k : κ) : Table κ ρ τ :=
  match (tb k).view t with
  | some r => if p r then tb.write t k (f r) else tb
  | none => tb

end Table

/-! ## Slots -/

section Slots

variable {x : Slot ρ τ} {t t' : τ} {v : Option ρ}

theorem free_of_held (h : x.held = some (t', v)) : x.free t = true ↔ t' = t := by
  simp [Slot.free, h]

@[simp] theorem view_of_none (h : x.held = none) : x.view t = x.committed := by
  simp [Slot.view, h]

theorem view_of_held (h : x.held = some (t, v)) : x.view t = v := by
  simp [Slot.view, h]

theorem commit_of_held (h : x.held = some (t, v)) : x.commit t = { committed := v } := by
  simp [Slot.commit, Slot.latest, h]

/-- Where a transaction holds nothing, its end leaves the slot alone. -/
theorem release_of_not_held {w : Option ρ} (h : ∀ v, x.held ≠ some (t, v)) :
    (if x.held.map Prod.fst = some t then ({ committed := w } : Slot ρ τ) else x) = x := by
  apply if_neg
  intro hm
  obtain ⟨⟨t', v⟩, hv, rfl⟩ := Option.map_eq_some_iff.mp hm
  exact h v hv

/-- After its end the transaction holds nothing, and the others what they held. -/
theorem release_held {w : Option ρ} :
    (if x.held.map Prod.fst = some t then ({ committed := w } : Slot ρ τ) else x).held =
        some (t', v) ↔ x.held = some (t', v) ∧ t' ≠ t := by
  constructor
  · intro h
    split at h
    · cases h
    · rename_i hne
      refine ⟨h, ?_⟩
      rintro rfl
      apply hne
      rw [h]
      rfl
  · rintro ⟨h, hne⟩
    rw [release_of_not_held, h]
    intro v' hv'
    rw [h, Option.some.injEq] at hv'
    exact hne (congrArg Prod.fst hv')

/-- A commit leaves the slots of other transactions, and those nobody holds, alone. -/
theorem commit_of_not_held (h : ∀ v, x.held ≠ some (t, v)) : x.commit t = x :=
  release_of_not_held h

theorem rollback_of_not_held (h : ∀ v, x.held ≠ some (t, v)) : x.rollback t = x :=
  release_of_not_held h

theorem commit_held : (x.commit t).held = some (t', v) ↔ x.held = some (t', v) ∧ t' ≠ t :=
  release_held

theorem rollback_held : (x.rollback t).held = some (t', v) ↔ x.held = some (t', v) ∧ t' ≠ t :=
  release_held

theorem has_of_view {r : ρ} (h : x.view t = some r) : x.Has r := by
  unfold Slot.view at h
  split at h
  · exact Or.inl h
  · rename_i t' v hheld
    by_cases ht : t' = t
    · rw [if_pos ht] at h
      subst h
      exact Or.inr ⟨t', hheld⟩
    · rw [if_neg ht] at h
      exact Or.inl h

/-- A commit makes no version that was not there. -/
theorem has_of_commit {r : ρ} (h : (x.commit t).Has r) : x.Has r := by
  unfold Slot.commit at h
  split at h
  · rcases h with h | ⟨t', h⟩
    · change x.latest = some r at h
      unfold Slot.latest at h
      split at h
      · exact Or.inl h
      · rename_i t' v hheld
        subst h
        exact Or.inr ⟨t', hheld⟩
    · cases h
  · exact h

theorem has_of_rollback {r : ρ} (h : (x.rollback t).Has r) : x.Has r := by
  unfold Slot.rollback at h
  split at h
  · rcases h with h | ⟨t', h⟩
    · exact Or.inl h
    · cases h
  · exact h

/-- A rollback changes no committed version. -/
@[simp] theorem rollback_committed : (x.rollback t).committed = x.committed := by
  unfold Slot.rollback
  split <;> rfl

end Slots

/-! ## Frames -/

section Frames

variable {tb : Table κ ρ τ} {t : τ} {k j : κ} {v : Option ρ}

omit [DecidableEq τ] in
@[simp] theorem write_self : tb.write t k v k = ⟨(tb k).committed, some (t, v)⟩ :=
  Function.update_self _ _ _

omit [DecidableEq τ] in
@[simp] theorem write_of_ne (h : j ≠ k) : tb.write t k v j = tb j := Function.update_of_ne h _ _

omit [DecidableEq τ] in
@[simp] theorem write_committed : (tb.write t k v j).committed = (tb j).committed := by
  by_cases h : j = k
  · subst h; rw [write_self]
  · rw [write_of_ne h]

omit [DecidableEq τ] in
@[simp] theorem put_self : tb.put k v k = { committed := v } := Function.update_self _ _ _

omit [DecidableEq τ] in
@[simp] theorem put_of_ne (h : j ≠ k) : tb.put k v j = tb j := Function.update_of_ne h _ _

omit [DecidableEq τ] in
/-- A write makes no version but its own. -/
theorem has_of_write {r : ρ} (h : (tb.write t k v j).Has r) : (tb j).Has r ∨ (j = k ∧ v = some r) := by
  by_cases hj : j = k
  · subst hj
    rw [write_self] at h
    rcases h with h | ⟨t', h⟩
    · exact Or.inl (Or.inl h)
    · rw [Option.some.injEq, Prod.mk.injEq] at h
      exact Or.inr ⟨rfl, h.2⟩
  · rw [write_of_ne hj] at h
    exact Or.inl h

omit [DecidableEq τ] in
theorem has_of_put {r : ρ} (h : (tb.put k v j).Has r) : (tb j).Has r ∨ (j = k ∧ v = some r) := by
  by_cases hj : j = k
  · subst hj
    rw [put_self] at h
    rcases h with h | ⟨t', h⟩
    · exact Or.inr ⟨rfl, h⟩
    · cases h
  · rw [put_of_ne hj] at h
    exact Or.inl h

/-- What one row of a sweep comes to: nothing, where the transaction sees no row that meets the
condition, or a write. -/
theorem sweepRow_cases (p : ρ → Bool) (f : ρ → Option ρ) :
    ((∀ r, (tb k).view t = some r → p r = false) ∧ tb.sweepRow t p f k = tb) ∨
      ∃ r, (tb k).view t = some r ∧ p r = true ∧ tb.sweepRow t p f k = tb.write t k (f r) := by
  unfold Table.sweepRow
  cases (tb k).view t with
  | none => exact Or.inl ⟨(fun _ hr => nomatch hr), rfl⟩
  | some r =>
      by_cases hp : p r = true
      · exact Or.inr ⟨r, rfl, hp, if_pos hp⟩
      · refine Or.inl ⟨?_, if_neg hp⟩
        intro r' hr
        rw [← Option.some.inj hr]
        exact Bool.eq_false_iff.mpr hp

omit [DecidableEq κ] in
theorem mem_scan {p : ρ → Bool} {ks : List κ} :
    k ∈ tb.scan t p ks ↔ k ∈ ks ∧ ∃ r, (tb k).view t = some r ∧ p r = true := by
  simp [Table.scan, List.mem_filter, Option.any_eq_true]

end Frames

/-! ## Ends of transactions, seen by the others -/

section Ends

variable {x : Slot ρ τ} {t t' : τ} {v : Option ρ}

theorem commit_of_other (h : x.held = some (t', v)) (ht : t' ≠ t) : x.commit t = x := by
  apply commit_of_not_held
  intro w hw
  rw [h, Option.some.injEq] at hw
  exact ht (congrArg Prod.fst hw)

theorem rollback_of_other (h : x.held = some (t', v)) (ht : t' ≠ t) : x.rollback t = x := by
  apply rollback_of_not_held
  intro w hw
  rw [h, Option.some.injEq] at hw
  exact ht (congrArg Prod.fst hw)

/-- A slot is committed to what its holder has written, if that is who commits, and else stays. -/
theorem commit_cases (x : Slot ρ τ) (t : τ) :
    (∃ v, x.held = some (t, v) ∧ x.commit t = { committed := v }) ∨
      ((∀ v, x.held ≠ some (t, v)) ∧ x.commit t = x) := by
  by_cases h : ∃ v, x.held = some (t, v)
  · obtain ⟨v, hv⟩ := h
    exact Or.inl ⟨v, hv, commit_of_held hv⟩
  · have hno : ∀ v, x.held ≠ some (t, v) := fun v hv => h ⟨v, hv⟩
    exact Or.inr ⟨hno, commit_of_not_held hno⟩

end Ends

/-! ## What a sweep reaches

From the snapshot of a sweep to its commit, each row that meets its condition is still before it, or
is held by it in a version that no longer does. Rows committed after the snapshot are not reached. -/

section Reaches

variable {tb tb' : Table κ ρ τ} {t : τ} {p : ρ → Bool} {f : ρ → Option ρ} {todo : List κ}
  {k pick : κ}

/-- The sweep of `t` that has the rows `todo` before it reaches the row `k`. -/
def Reaches (tb : Table κ ρ τ) (t : τ) (p : ρ → Bool) (todo : List κ) (k : κ) : Prop :=
  ∀ r, (tb k).committed = some r → p r = true →
    k ∈ todo ∨ ∃ v, (tb k).held = some (t, v) ∧ ∀ r', v = some r' → p r' = false

omit [DecidableEq κ] in
/-- The snapshot has every row that meets the condition, if the transaction has written none. -/
theorem reaches_scan {ks : List κ} (hks : ∀ r, (tb k).committed = some r → k ∈ ks)
    (hown : ∀ v, (tb k).held = some (t, v) → v = (tb k).committed) :
    Reaches tb t p (tb.scan t p ks) k := by
  intro r hr hm
  left
  refine mem_scan.mpr ⟨hks r hr, r, ?_, hm⟩
  unfold Slot.view
  cases hheld : (tb k).held with
  | none => exact hr
  | some x =>
      obtain ⟨t', v⟩ := x
      by_cases ht : t' = t
      · subst ht
        show (if t' = t' then v else _) = _
        rw [if_pos rfl, hown v hheld, hr]
      · show (if t' = t then v else _) = _
        rw [if_neg ht, hr]

omit [DecidableEq κ] [DecidableEq τ] in
/-- Steps of others, which cannot touch what the sweep holds, and make no row meet its condition. -/
theorem Reaches.others (hr : Reaches tb t p todo k)
    (hheld : ∀ v, (tb k).held = some (t, v) → (tb' k).held = some (t, v))
    (hcom : ∀ r', (tb' k).committed = some r' → p r' = true →
      ∃ r, (tb k).committed = some r ∧ p r = true) : Reaches tb' t p todo k := by
  intro r' hr' hm
  obtain ⟨r, hr₀, hm₀⟩ := hcom r' hr' hm
  rcases hr r hr₀ hm₀ with hmem | ⟨v, hv, hno⟩
  · exact Or.inl hmem
  · exact Or.inr ⟨v, hheld v hv, hno⟩

/-- The sweep takes its next row. -/
theorem Reaches.sweepRow (hr : Reaches tb t p todo k) (hfree : (tb pick).free t = true)
    (hf : ∀ r r', f r = some r' → p r' = false) :
    Reaches (tb.sweepRow t p f pick) t p (todo.erase pick) k := by
  intro r hrow hm
  by_cases hk : k = pick
  · subst hk
    right
    rcases sweepRow_cases (t := t) (k := k) p f with ⟨hno, heq⟩ | ⟨r₀, hview, -, heq⟩
    · rw [heq] at hrow ⊢
      -- the transaction sees no row to write, so it holds one that no longer meets the condition
      cases hheld : (tb k).held with
      | none =>
          have hfalse := hno r (by rw [view_of_none hheld, hrow])
          rw [hm] at hfalse
          cases hfalse
      | some x =>
          obtain ⟨t', v⟩ := x
          have ht := (free_of_held hheld).mp hfree
          subst ht
          exact ⟨v, rfl, fun r' hr' => hno r' (by rw [view_of_held hheld, hr'])⟩
    · rw [heq, write_self]
      exact ⟨_, rfl, fun r' hr' => hf r₀ r' hr'⟩
  · have hslot : (tb.sweepRow t p f pick) k = tb k := by
      rcases sweepRow_cases (t := t) (k := pick) p f with ⟨-, heq⟩ | ⟨r₀, -, -, heq⟩
      · rw [heq]
      · rw [heq, write_of_ne hk]
    rw [hslot] at hrow ⊢
    rcases hr r hrow hm with hmem | hheld
    · exact Or.inl ((List.mem_erase_of_ne hk).mpr hmem)
    · exact Or.inr hheld

omit [DecidableEq κ] in
/-- **After the commit** no row that the sweep reaches meets its condition. -/
theorem Reaches.commit (hr : Reaches tb t p [] k) {r : ρ}
    (hrow : ((tb.commit t) k).committed = some r)
    (hown : ∀ v, (tb k).held = some (t, v) → ∀ r', v = some r' → p r' = true →
      ∃ r, (tb k).committed = some r ∧ p r = true) : p r = false := by
  cases hm : p r with
  | false => rfl
  | true =>
      change ((tb k).commit t).committed = some r at hrow
      rcases commit_cases (tb k) t with ⟨v, hv, heq⟩ | ⟨hno, heq⟩
      · rw [heq] at hrow
        obtain ⟨r₀, hr₀, hm₀⟩ := hown v hv r hrow hm
        rcases hr r₀ hr₀ hm₀ with hmem | ⟨v', hv', hno⟩
        · cases hmem
        · rw [hv, Option.some.injEq, Prod.mk.injEq] at hv'
          rw [hno r (hv'.2 ▸ hrow)] at hm
          cases hm
      · rw [heq] at hrow
        rcases hr r hrow hm with hmem | ⟨v, hv, -⟩
        · cases hmem
        · exact absurd hv (hno v)

end Reaches

end Lib.ReadCommitted
