import Mathlib.Data.List.Nodup
import Mathlib.Data.List.Perm.Lattice
import Mathlib.Data.List.Perm.Basic

/-!
# `Lib.MapOrder` — nested maps in any order

A language that leaves the order of its maps open may list a map of maps with its outer keys in any order,
and under each outer key with its inner keys in any order. `Order` is such a listing.

* `keysOf_perm`: every order lists the same keys, so what depends on the keys alone is the same for all;
* `exists_order_snoc`: any key may come last;
* `heads_always_iff`: what looks only at the first inner key of each outer key is sure to find a key of some
  kind exactly when one outer key has no other.

Nothing below names a particular map.
-/

namespace Lib.MapOrder

variable {α β : Type*} {outer : List α} {inner : α → List β}

/-- The pairs of keys, in the order of a listing. -/
def keysOf (walk : List (α × List β)) : List (α × β) :=
  walk.flatMap fun x => x.2.map fun b => (x.1, b)

/-- The pairs of the keys of `outer` and the keys that each of them has. -/
def pairs (outer : List α) (inner : α → List β) : List (α × β) :=
  outer.flatMap fun a => (inner a).map fun b => (a, b)

/-- A listing of the outer keys, each with a listing of its inner keys. -/
structure Order (outer : List α) (inner : α → List β) where
  walk : List (α × List β)
  outer_perm : (walk.map Prod.fst).Perm outer
  inner_perm : ∀ x ∈ walk, x.2.Perm (inner x.1)

/-- Listings of the two levels make an order. -/
def orderOf (as : List α) (bs : α → List β) (houter : as.Perm outer)
    (hinner : ∀ a, (bs a).Perm (inner a)) : Order outer inner where
  walk := as.map fun a => (a, bs a)
  outer_perm := by
    rw [List.map_map]
    show (as.map id).Perm _
    rw [List.map_id]
    exact houter
  inner_perm := by
    intro x hx
    obtain ⟨a, -, rfl⟩ := List.mem_map.mp hx
    exact hinner a

/-! ## Keys -/

theorem mem_pairs {key : α × β} : key ∈ pairs outer inner ↔ key.1 ∈ outer ∧ key.2 ∈ inner key.1 := by
  unfold pairs
  simp only [List.mem_flatMap, List.mem_map]
  constructor
  · rintro ⟨a, ha, b, hb, rfl⟩
    exact ⟨ha, hb⟩
  · rintro ⟨ha, hb⟩
    exact ⟨key.1, ha, key.2, hb, rfl⟩

theorem nodup_pairs (houter : outer.Nodup) (hinner : ∀ a, (inner a).Nodup) :
    (pairs outer inner).Nodup := by
  unfold pairs
  rw [List.nodup_flatMap]
  constructor
  · intro a _
    refine (hinner a).map ?_
    intro b b' h
    exact (Prod.mk.inj h).2
  · -- two outer keys share no pair
    refine houter.imp fun hne => ?_
    show List.Disjoint _ _
    rw [List.disjoint_left]
    intro key hkey hkey'
    obtain ⟨b, -, rfl⟩ := List.mem_map.mp hkey
    obtain ⟨b', -, h⟩ := List.mem_map.mp hkey'
    exact hne (Prod.mk.inj h).1.symm

theorem keysOf_map (as : List α) (bs : α → List β) :
    keysOf (as.map fun a => (a, bs a)) = pairs as bs := by
  unfold keysOf pairs
  rw [List.flatMap_map]

/-- **Keys.** Every order lists the same pairs. -/
theorem keysOf_perm (o : Order outer inner) : (keysOf o.walk).Perm (pairs outer inner) := by
  have hinner : (keysOf o.walk).Perm (pairs (o.walk.map Prod.fst) inner) := by
    unfold keysOf pairs
    rw [List.flatMap_map]
    exact List.Perm.flatMap_left _ fun x hx => (o.inner_perm x hx).map _
  exact hinner.trans (o.outer_perm.flatMap_right _)

/-- Any pair comes last in some order. -/
theorem exists_order_snoc [DecidableEq α] [DecidableEq β] {key : α × β}
    (h : key ∈ pairs outer inner) :
    ∃ (o : Order outer inner) (pre : List (α × β)), keysOf o.walk = pre ++ [key] := by
  obtain ⟨a, b⟩ := key
  obtain ⟨ha, hb⟩ := mem_pairs.mp h
  refine ⟨orderOf (outer.erase a ++ [a])
    (fun a' => if a' = a then (inner a).erase b ++ [b] else inner a') ?_ ?_, ?_⟩
  · exact List.perm_append_comm.trans (List.perm_cons_erase ha).symm
  · intro a'
    split
    · rename_i heq
      subst heq
      exact List.perm_append_comm.trans (List.perm_cons_erase hb).symm
    · exact List.Perm.refl _
  · refine ⟨pairs (outer.erase a) (fun a' => if a' = a then (inner a).erase b ++ [b] else inner a') ++
      ((inner a).erase b).map fun b' => (a, b'), ?_⟩
    show keysOf (List.map _ _) = _
    rw [keysOf_map]
    unfold pairs
    rw [List.flatMap_append]
    simp

/-! ## First keys -/

/-- The first inner key of some outer key is of the kind. -/
def HeadIn (p : α × β → Bool) (walk : List (α × List β)) : Prop :=
  ∃ x ∈ walk, ∃ b, x.2.head? = some b ∧ p (x.1, b) = true

/-- **First keys.** They show a key of the kind in every order exactly when one outer key has no others. -/
theorem heads_always_iff {p : α × β → Bool} :
    (∀ o : Order outer inner, HeadIn p o.walk) ↔
      ∃ a ∈ outer, inner a ≠ [] ∧ ∀ b ∈ inner a, p (a, b) = true := by
  constructor
  · intro h
    -- the order that comes to the keys of another kind first
    obtain ⟨x, hx, b, hhead, hb⟩ := h (orderOf outer
      (fun a => (inner a).filter (fun b => !p (a, b)) ++ (inner a).filter (fun b => !!p (a, b)))
      (List.Perm.refl _) fun a => List.filter_append_perm _ _)
    obtain ⟨a, ha, rfl⟩ := List.mem_map.mp hx
    dsimp only at hhead hb
    refine ⟨a, ha, ?_, ?_⟩
    · rintro hnone
      rw [hnone] at hhead
      cases hhead
    · intro b' hb'
      by_contra hother
      have hmem : b' ∈ (inner a).filter fun b => !p (a, b) := by
        rw [List.mem_filter]
        exact ⟨hb', by simpa using hother⟩
      rw [List.head?_append_of_ne_nil _ (List.ne_nil_of_mem hmem)] at hhead
      have hfirst := (List.mem_filter.mp (List.mem_of_mem_head? hhead)).2
      rw [hb] at hfirst
      cases hfirst
  · rintro ⟨a, ha, hne, hall⟩ o
    obtain ⟨x, hx, rfl⟩ := List.mem_map.mp (o.outer_perm.mem_iff.mpr ha)
    have hperm := o.inner_perm x hx
    cases hhead : x.2.head? with
    | none =>
        rw [List.head?_eq_none_iff] at hhead
        rw [hhead] at hperm
        exact absurd hperm.nil_eq.symm hne
    | some b =>
        have hb := hperm.mem_iff.mp (List.mem_of_mem_head? hhead)
        exact ⟨x, hx, b, hhead, hall b hb⟩

end Lib.MapOrder
