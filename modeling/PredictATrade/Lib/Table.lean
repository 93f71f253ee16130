import Mathlib.Data.List.Nodup
import Mathlib.Algebra.BigOperators.Group.List.Basic

/-!
# `Lib.Table` — tables as lists of rows

A table is the list of its rows. `updateWhere p f` is `UPDATE … SET f WHERE p`: every row that
meets `p` is rewritten by `f`, in place. The lemmas say what such an update can and cannot do to
what is read off the table: a column `f` leaves alone (`map_updateWhere`), a lookup by such a column
(`find?_updateWhere`), a count (`countP_updateWhere`).
-/

namespace Lib.Table

variable {α β : Type*} {p : α → Bool} {f : α → α} {t : List α}

/-- Rewrite by `f` the rows that satisfy `p`. -/
def updateWhere (p : α → Bool) (f : α → α) (t : List α) : List α :=
  t.map fun r => if p r then f r else r

@[simp] theorem updateWhere_nil : updateWhere p f [] = [] := rfl

@[simp] theorem updateWhere_cons (r : α) :
    updateWhere p f (r :: t) = (if p r then f r else r) :: updateWhere p f t := rfl

/-- A row after the update is the image of a row before it. -/
theorem mem_updateWhere {r : α} :
    r ∈ updateWhere p f t ↔ ∃ s ∈ t, (if p s then f s else s) = r := by
  simp only [updateWhere, List.mem_map]

/-- A column the update does not write keeps its values. -/
theorem map_updateWhere {k : α → β} (h : ∀ r, k (f r) = k r) :
    (updateWhere p f t).map k = t.map k := by
  simp only [updateWhere, List.map_map]
  refine List.map_congr_left fun r _ => ?_
  by_cases hp : p r = true <;> simp [hp, h]

/-- An update seen through `g`, when `g` carries the condition and the rewriting over. -/
theorem map_updateWhere_comm {g : α → β} {p' : β → Bool} {f' : β → β} (hp : ∀ r, p r = p' (g r))
    (hf : ∀ r, g (f r) = f' (g r)) : (updateWhere p f t).map g = updateWhere p' f' (t.map g) := by
  simp only [updateWhere, List.map_map]
  refine List.map_congr_left fun r _ => ?_
  simp only [Function.comp_apply, ← hp, apply_ite g, hf]

/-- An update whose rewriting never does nothing leaves the table alone only where it finds no row. -/
theorem updateWhere_eq_self_iff (h : ∀ r, p r = true → f r ≠ r) :
    updateWhere p f t = t ↔ ∀ r ∈ t, p r = false := by
  induction t with
  | nil => simp
  | cons r t ih =>
      rw [updateWhere_cons, List.cons.injEq, ih, List.forall_mem_cons]
      refine and_congr_left fun _ => ?_
      by_cases hp : p r = true
      · rw [if_pos hp, hp]
        exact iff_of_false (h r hp) Bool.noConfusion
      · rw [if_neg hp]
        exact iff_of_true rfl (Bool.eq_false_iff.mpr hp)

/-- A lookup by a column the update does not write finds the row it found before, updated. -/
theorem find?_updateWhere {q : α → Bool} (h : ∀ r, q (f r) = q r) :
    (updateWhere p f t).find? q = (t.find? q).map fun r => if p r then f r else r := by
  induction t with
  | nil => rfl
  | cons r t ih =>
      have hq : q (if p r then f r else r) = q r := by
        by_cases hp : p r = true <;> simp [hp, h]
      rw [updateWhere_cons, List.find?_cons, List.find?_cons, hq, ih]
      cases q r <;> rfl

/-- An update after which no new row meets `q` does not raise the number of rows that do. -/
theorem countP_updateWhere_le {q : α → Bool} (h : ∀ r ∈ t, p r = true → q (f r) = true → q r = true) :
    (updateWhere p f t).countP q ≤ t.countP q := by
  rw [updateWhere, List.countP_map]
  refine List.countP_mono_left fun r hr hq => ?_
  rw [Function.comp_apply] at hq
  by_cases hp : p r = true
  · rw [if_pos hp] at hq
    exact h r hr hp hq
  · rwa [if_neg hp] at hq

/-- How many rows meet `q` after the update, counted before it. -/
theorem countP_updateWhere {q q' : α → Bool}
    (h : ∀ r, q (if p r then f r else r) = q' r) : (updateWhere p f t).countP q = t.countP q' := by
  rw [updateWhere, List.countP_map]
  exact congrArg (fun c => t.countP c) (funext h)

/-- In a table without duplicate keys, looking up the key of a row finds that row. -/
theorem find?_of_key [BEq β] [LawfulBEq β] {k : α → β} (hnd : (t.map k).Nodup) {r : α}
    (hr : r ∈ t) : t.find? (fun s => k s == k r) = some r := by
  cases hf : t.find? (fun s => k s == k r) with
  | none =>
      have := List.find?_eq_none.mp hf r hr
      simp at this
  | some s =>
      have hs : s ∈ t := List.mem_of_find?_eq_some hf
      have hk : k s = k r := by simpa using List.find?_some hf
      rw [List.inj_on_of_nodup_map hnd hs hr hk]

/-- Without duplicate keys, the rows with the key of a row are that row alone. -/
theorem filter_of_key [BEq β] [LawfulBEq β] {k : α → β} (hnd : (t.map k).Nodup) {r : α}
    (hr : r ∈ t) : t.filter (fun s => k s == k r) = [r] := by
  induction t with
  | nil => cases hr
  | cons s t ih =>
      obtain ⟨hs, hnd⟩ := List.nodup_cons.mp hnd
      rcases List.mem_cons.mp hr with rfl | hr
      · -- no later row has the key of the first
        have hrest : t.filter (fun s => k s == k r) = [] := by
          refine List.filter_eq_nil_iff.mpr fun q hq heq => hs ?_
          rw [← beq_iff_eq.mp heq]
          exact List.mem_map_of_mem hq
        rw [List.filter_cons_of_pos (by simp), hrest]
      · have hne : k s ≠ k r := fun heq => hs (heq ▸ List.mem_map_of_mem hr)
        rw [List.filter_cons_of_neg (by simpa using hne), ih hnd hr]

/-- And those with other keys are the rows before and behind it. -/
theorem filter_ne_of_key [BEq β] [LawfulBEq β] {k : α → β} {s : List α} {r : α}
    (hnd : ((s ++ r :: t).map k).Nodup) : (s ++ r :: t).filter (fun q => k q != k r) = s ++ t := by
  rw [List.map_append, List.map_cons] at hnd
  obtain ⟨-, hnd, hdisj⟩ := List.nodup_append.mp hnd
  obtain ⟨hr, -⟩ := List.nodup_cons.mp hnd
  have hs : s.filter (fun q => k q != k r) = s := by
    refine List.filter_eq_self.mpr fun q hq => bne_iff_ne.mpr ?_
    exact hdisj (k q) (List.mem_map_of_mem hq) (k r) List.mem_cons_self
  have ht : t.filter (fun q => k q != k r) = t := by
    refine List.filter_eq_self.mpr fun q hq => bne_iff_ne.mpr fun heq => hr ?_
    exact heq ▸ List.mem_map_of_mem hq
  rw [List.filter_append, hs, List.filter_cons_of_neg (by simp), ht]

/-- Rows that each have a list of entries under their key: the entries under the key of a row are those
of that row. -/
theorem filter_flatMap_of_key {γ : Type*} [BEq β] [LawfulBEq β] {k : α → β} {key : γ → β}
    {g : α → List γ} (hnd : (t.map k).Nodup) (hg : ∀ r ∈ t, ∀ x ∈ g r, key x = k r) {r : α}
    (hr : r ∈ t) : (t.flatMap g).filter (fun x => key x == k r) = g r := by
  induction t with
  | nil => cases hr
  | cons s t ih =>
      obtain ⟨hs, hnd⟩ := List.nodup_cons.mp hnd
      rw [List.flatMap_cons, List.filter_append]
      rcases List.mem_cons.mp hr with rfl | hr
      · have hown : (g r).filter (fun x => key x == k r) = g r :=
          List.filter_eq_self.mpr fun x hx => by simpa using hg r List.mem_cons_self x hx
        have hrest : (t.flatMap g).filter (fun x => key x == k r) = [] := by
          refine List.filter_eq_nil_iff.mpr fun x hx heq => hs ?_
          obtain ⟨q, hq, hx⟩ := List.mem_flatMap.mp hx
          rw [← beq_iff_eq.mp heq, hg q (List.mem_cons_of_mem _ hq) x hx]
          exact List.mem_map_of_mem hq
        rw [hown, hrest, List.append_nil]
      · have hne : k s ≠ k r := fun heq => hs (heq ▸ List.mem_map_of_mem hr)
        have hfirst : (g s).filter (fun x => key x == k r) = [] := by
          refine List.filter_eq_nil_iff.mpr fun x hx heq => hne ?_
          rw [← hg s List.mem_cons_self x hx]
          exact beq_iff_eq.mp heq
        rw [hfirst, List.nil_append, ih hnd (fun q hq => hg q (List.mem_cons_of_mem _ hq)) hr]

/-- The rows after an update by key: the rewritten one, and those with other keys. -/
theorem mem_updateWhere_key [BEq β] [LawfulBEq β] {k : α → β} (hnd : (t.map k).Nodup) {r : α}
    (hr : r ∈ t) {s : α} :
    s ∈ updateWhere (fun s => k s == k r) f t ↔ s = f r ∨ s ∈ t ∧ k s ≠ k r := by
  rw [mem_updateWhere]
  constructor
  · rintro ⟨q, hq, rfl⟩
    by_cases hk : k q = k r
    · obtain rfl := List.inj_on_of_nodup_map hnd hq hr hk
      exact Or.inl (if_pos (beq_self_eq_true _))
    · rw [if_neg (by simpa using hk)]
      exact Or.inr ⟨hq, hk⟩
  · rintro (rfl | ⟨hs, hk⟩)
    · exact ⟨r, hr, if_pos (beq_self_eq_true _)⟩
    · exact ⟨s, hs, if_neg (by simpa using hk)⟩

/-- Two rows with the same key in a table without duplicate keys are the same row. -/
theorem eq_of_key {k : α → β} (hnd : (t.map k).Nodup) {r s : α} (hr : r ∈ t) (hs : s ∈ t)
    (h : k r = k s) : r = s :=
  List.inj_on_of_nodup_map hnd hr hs h

/-! ## Updates one after the other -/

section

variable {γ : Type*} {q : γ → α → Bool} {g : γ → α → α} {us : List γ}

/-- A list of updates rewrites each row by itself. -/
theorem foldl_updateWhere :
    us.foldl (fun t u => updateWhere (q u) (g u) t) t =
      t.map fun r => us.foldl (fun r u => if q u r then g u r else r) r := by
  induction us generalizing t with
  | nil => exact (List.map_id' t).symm
  | cons u us ih =>
      rw [List.foldl_cons, ih, updateWhere, List.map_map]
      rfl

/-- Updates none of which meets the row leave it alone. -/
theorem foldl_update_other {r : α} (h : ∀ u ∈ us, q u r = false) :
    us.foldl (fun r u => if q u r then g u r else r) r = r := by
  induction us with
  | nil => rfl
  | cons u us ih =>
      rw [List.foldl_cons, if_neg (Bool.eq_false_iff.mp (h u List.mem_cons_self))]
      exact ih fun v hv => h v (List.mem_cons_of_mem _ hv)

/-- Updates that are made for rows of the table, each by the key of its row: the row is rewritten by its
own. -/
theorem foldl_update_own {q : α → α → Bool} {g : α → α → α} {k : α → β} {us : List α} {r : α}
    (hq : ∀ u r, q u r = true → k r = k u) (hg : ∀ u r, k (g u r) = k r) (hnd : (us.map k).Nodup)
    (hr : r ∈ us) :
    us.foldl (fun r u => if q u r then g u r else r) r = if q r r then g r r else r := by
  induction us with
  | nil => cases hr
  | cons u us ih =>
      obtain ⟨hu, hnd⟩ := List.nodup_cons.mp hnd
      rw [List.foldl_cons]
      by_cases heq : r = u
      · subst heq
        refine foldl_update_other fun v hv => Bool.eq_false_iff.mpr fun hqv => hu ?_
        have hkey : k (if q r r then g r r else r) = k r := by
          by_cases h : q r r = true
          · rw [if_pos h, hg]
          · rw [if_neg h]
        rw [← hkey, hq v _ hqv]
        exact List.mem_map_of_mem hv
      · have hmem : r ∈ us := (List.mem_cons.mp hr).resolve_left heq
        have hno : ¬ q u r = true := fun h => hu (hq u r h ▸ List.mem_map_of_mem hmem)
        rw [if_neg hno]
        exact ih hnd hmem

end

end Lib.Table
