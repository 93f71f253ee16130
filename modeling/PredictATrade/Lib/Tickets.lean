import Mathlib.Logic.Function.Basic
import Mathlib.Data.List.Nodup
import PredictATrade.Lib.Runs

/-!
# `Lib.Tickets` — numbers taken, held and passed on

For each key there is a counter. A holder takes the next number of a key, holds it for a while, and then
either passes it on or drops it. Holders take turns in any way, so that a number may be passed on
after a later one.

* `passed_nodup`: no run passes a number of a key on twice.
* `passed_of_taken`: what is so of the keys whose numbers are taken is so of those whose numbers are passed on.
* `passed_ascending`: in a run in which a number of a key is taken only while nobody else holds one of it, the
  numbers of that key are passed on in their order.
-/

namespace Lib.Tickets

open Lib.Runs

variable {H K : Type*}

/-- The last number of each queue, and the number that each holder holds. -/
structure Desk (H K : Type*) where
  last : K → ℕ := fun _ => 0
  held : H → Option (K × ℕ) := fun _ => none
  passed : List (K × ℕ) := []

/-- A holder takes a number, or passes one on. -/
inductive Act (H K : Type*) where
  | take (h : H) (k : K)
  | pass (h : H)
  | drop (h : H)

/-- No number is beyond its counter. -/
structure Counted (s : Desk H K) : Prop where
  passed_le : ∀ t ∈ s.passed, t.2 ≤ s.last t.1
  held_le : ∀ h t, s.held h = some t → t.2 ≤ s.last t.1

/-- Numbers passed on stay out of reach, and those that are held are held by one holder each. -/
structure Once (s : Desk H K) : Prop extends Counted s where
  nodup : s.passed.Nodup
  fresh : ∀ h t, s.held h = some t → t ∉ s.passed
  apart : ∀ h h' t, s.held h = some t → s.held h' = some t → h = h'

/-- The numbers of a key have been passed on in their order, and the one that is held comes next. -/
structure Ascending (k : K) (s : Desk H K) : Prop extends Counted s where
  ascending : s.passed.Pairwise fun t u => t.1 = k → u.1 = k → t.2 < u.2
  next : ∀ h n, s.held h = some (k, n) → ∀ m, (k, m) ∈ s.passed → m < n
  alone : ∀ h h' n m, s.held h = some (k, n) → s.held h' = some (k, m) → h = h'

variable {s : Desk H K} {h h' : H} {k : K} {t u : K × ℕ}

/-- No number is given out at the start. -/
theorem Counted.init : Counted ({} : Desk H K) :=
  ⟨fun _ ht => absurd ht List.not_mem_nil, fun _ _ ht => nomatch ht⟩

/-- No number is given out at the start. -/
theorem Once.init : Once ({} : Desk H K) :=
  { Counted.init with
    nodup := List.nodup_nil
    fresh := fun _ _ ht => nomatch ht
    apart := fun _ _ _ ht => nomatch ht }

/-- No number is given out at the start. -/
theorem Ascending.init : Ascending k ({} : Desk H K) :=
  { Counted.init with
    ascending := List.Pairwise.nil
    next := fun _ _ ht => nomatch ht
    alone := fun _ _ _ _ ht => nomatch ht }

/-- The number that is taken next is beyond all of its key. -/
theorem Counted.next_not_mem (hs : Counted s) (k : K) : (k, s.last k + 1) ∉ s.passed :=
  fun ht => absurd (hs.passed_le _ ht) (Nat.not_succ_le_self _)

theorem Counted.next_not_held (hs : Counted s) (h : H) (k : K) : s.held h ≠ some (k, s.last k + 1) :=
  fun ht => absurd (hs.held_le h _ ht) (Nat.not_succ_le_self _)

/-! ## Steps -/

section

variable [DecidableEq H]

/-- What a holder has after somebody gave a ticket away, it had before. -/
theorem held_of_update_none (hx : Function.update s.held h none h' = some t) :
    h' ≠ h ∧ s.held h' = some t := by
  by_cases hh : h' = h
  · subst hh
    rw [Function.update_self] at hx
    cases hx
  · rw [Function.update_of_ne hh] at hx
    exact ⟨hh, hx⟩

/-- What a holder has after a ticket was taken is that ticket, or it had it before. -/
theorem held_of_update_some (hx : Function.update s.held h (some u) h' = some t) :
    (h' = h ∧ t = u) ∨ (h' ≠ h ∧ s.held h' = some t) := by
  by_cases hh : h' = h
  · subst hh
    rw [Function.update_self, Option.some.injEq] at hx
    exact Or.inl ⟨rfl, hx.symm⟩
  · rw [Function.update_of_ne hh] at hx
    exact Or.inr ⟨hh, hx⟩

end

theorem le_update_last [DecidableEq K] (k : K) (hle : t.2 ≤ s.last t.1) :
    t.2 ≤ Function.update s.last k (s.last k + 1) t.1 := by
  by_cases hk : t.1 = k
  · rw [hk, Function.update_self, ← hk]
    exact Nat.le_succ_of_le hle
  · rwa [Function.update_of_ne hk]

variable [DecidableEq H] [DecidableEq K]

/-- The next number of a key goes to a holder. -/
def Desk.taken (s : Desk H K) (h : H) (k : K) : Desk H K :=
  { s with last := Function.update s.last k (s.last k + 1),
           held := Function.update s.held h (some (k, s.last k + 1)) }

/-- Who holds a ticket takes no other. -/
def step (s : Desk H K) : Act H K → Desk H K
  | .take h k => if s.held h = none then s.taken h k else s
  | .pass h => { s with held := Function.update s.held h none, passed := s.passed ++ (s.held h).toList }
  | .drop h => { s with held := Function.update s.held h none }

/-- Who takes a number of the key is the only one with a number of it. -/
def Alone (k : K) (s : Desk H K) : Act H K → Prop
  | .take h k' => k' = k → ∀ h', h' ≠ h → ∀ n, s.held h' ≠ some (k, n)
  | _ => True

theorem Counted.taken (hs : Counted s) (h : H) (k : K) : Counted (s.taken h k) where
  passed_le t ht := le_update_last k (hs.passed_le t ht)
  held_le h' t ht := by
    rcases held_of_update_some ht with ⟨-, rfl⟩ | ⟨-, ht⟩
    · exact (Function.update_self k _ s.last).ge
    · exact le_update_last k (hs.held_le h' t ht)

theorem Counted.pass (hs : Counted s) (h : H) : Counted (step s (.pass h)) where
  passed_le t ht := by
    rcases List.mem_append.mp ht with ht | ht
    · exact hs.passed_le t ht
    · exact hs.held_le h t (Option.mem_toList.mp ht)
  held_le h' t ht := hs.held_le h' t (held_of_update_none ht).2

theorem Counted.drop (hs : Counted s) (h : H) : Counted (step s (.drop h)) where
  passed_le := hs.passed_le
  held_le h' t ht := hs.held_le h' t (held_of_update_none ht).2

/-! ## No number twice -/

theorem Once.taken (hs : Once s) (h : H) (k : K) : Once (s.taken h k) where
  toCounted := hs.toCounted.taken h k
  nodup := hs.nodup
  fresh h' t ht := by
    rcases held_of_update_some ht with ⟨-, rfl⟩ | ⟨-, ht⟩
    · exact hs.next_not_mem k
    · exact hs.fresh h' t ht
  apart h₁ h₂ t ht₁ ht₂ := by
    rcases held_of_update_some ht₁ with ⟨rfl, rfl⟩ | ⟨-, hu₁⟩ <;>
      rcases held_of_update_some ht₂ with ⟨rfl, he⟩ | ⟨-, hu₂⟩
    · rfl
    · exact absurd hu₂ (hs.next_not_held h₂ k)
    · exact absurd (he ▸ hu₁) (hs.next_not_held h₁ k)
    · exact hs.apart h₁ h₂ t hu₁ hu₂

theorem Once.pass (hs : Once s) (h : H) : Once (step s (.pass h)) where
  toCounted := hs.toCounted.pass h
  nodup := nodup_shown hs.nodup (hs.fresh h)
  fresh h' t ht hmem := by
    obtain ⟨hne, ht⟩ := held_of_update_none ht
    rcases List.mem_append.mp hmem with hmem | hmem
    · exact hs.fresh h' t ht hmem
    · exact hne (hs.apart h' h t ht (Option.mem_toList.mp hmem))
  apart h₁ h₂ t ht₁ ht₂ := hs.apart h₁ h₂ t (held_of_update_none ht₁).2 (held_of_update_none ht₂).2

theorem Once.drop (hs : Once s) (h : H) : Once (step s (.drop h)) where
  toCounted := hs.toCounted.drop h
  nodup := hs.nodup
  fresh h' t ht := hs.fresh h' t (held_of_update_none ht).2
  apart h₁ h₂ t ht₁ ht₂ := hs.apart h₁ h₂ t (held_of_update_none ht₁).2 (held_of_update_none ht₂).2

/-- **Step.** No number is given out twice. -/
theorem Once.step (hs : Once s) (a : Act H K) : Once (step s a) := by
  cases a with
  | take h k =>
    by_cases hh : s.held h = none
    · simpa only [Tickets.step, if_pos hh] using hs.taken h k
    · simpa only [Tickets.step, if_neg hh] using hs
  | pass h => exact hs.pass h
  | drop h => exact hs.drop h

/-- No number of a key is passed on twice. -/
theorem passed_nodup (acts : List (Act H K)) : (run step ({} : Desk H K) acts).passed.Nodup :=
  (run_keeps (fun _ a hs => hs.step a) Once.init acts).nodup

/-! ## Only what was taken -/

variable {Q : K → Prop}

/-- All numbers in sight are of keys that have the property. -/
def Within (Q : K → Prop) (s : Desk H K) : Prop :=
  (∀ t ∈ s.passed, Q t.1) ∧ ∀ h t, s.held h = some t → Q t.1

/-- **Step.** The queues stay within those that are asked for. -/
theorem Within.step (hs : Within Q s) (a : Act H K) (ha : ∀ h k, a = .take h k → Q k) :
    Within Q (step s a) := by
  cases a with
  | take h k =>
    by_cases hh : s.held h = none
    · rw [Tickets.step, if_pos hh]
      refine ⟨hs.1, fun h' t ht => ?_⟩
      rcases held_of_update_some ht with ⟨-, rfl⟩ | ⟨-, ht⟩
      · exact ha h k rfl
      · exact hs.2 h' t ht
    · rwa [Tickets.step, if_neg hh]
  | pass h =>
    refine ⟨fun t ht => ?_, fun h' t ht => hs.2 h' t (held_of_update_none ht).2⟩
    rcases List.mem_append.mp ht with ht | ht
    · exact hs.1 t ht
    · exact hs.2 h t (Option.mem_toList.mp ht)
  | drop h => exact ⟨hs.1, fun h' t ht => hs.2 h' t (held_of_update_none ht).2⟩

/-- Only numbers of keys of which some were taken are passed on. -/
theorem passed_of_taken {acts : List (Act H K)} (ha : ∀ h k, .take h k ∈ acts → Q k) :
    ∀ t ∈ (run step ({} : Desk H K) acts).passed, Q t.1 := by
  have htaken : Along step (fun _ a => ∀ h k, a = .take h k → Q k) ({} : Desk H K) acts :=
    along_mem fun a hmem _ h k he => ha h k (he ▸ hmem)
  have hinit : Within Q ({} : Desk H K) :=
    ⟨fun _ ht => absurd ht List.not_mem_nil, fun _ _ ht => nomatch ht⟩
  exact (along_keeps (fun _ a hs ha => hs.step a ha) hinit htaken).1

/-! ## In order -/

theorem Ascending.taken {k' : K} (hs : Ascending k s) (ha : Alone k s (.take h k')) :
    Ascending k (s.taken h k') where
  toCounted := hs.toCounted.taken h k'
  ascending := hs.ascending
  next h₁ n hn m hm := by
    rcases held_of_update_some hn with ⟨-, he⟩ | ⟨-, hn⟩
    · cases he
      exact Nat.lt_succ_of_le (hs.passed_le _ hm)
    · exact hs.next h₁ n hn m hm
  alone h₁ h₂ n m hn hm := by
    rcases held_of_update_some hn with ⟨rfl, he⟩ | ⟨hne₁, hn'⟩ <;>
      rcases held_of_update_some hm with ⟨rfl, he'⟩ | ⟨hne₂, hm'⟩
    · rfl
    · cases he
      exact absurd hm' (ha rfl h₂ hne₂ m)
    · cases he'
      exact absurd hn' (ha rfl h₁ hne₁ n)
    · exact hs.alone h₁ h₂ n m hn' hm'

theorem Ascending.pass (hs : Ascending k s) (h : H) : Ascending k (step s (.pass h)) where
  toCounted := hs.toCounted.pass h
  ascending := by
    refine List.pairwise_append.mpr ⟨hs.ascending, ?_, ?_⟩
    · cases s.held h with
      | none => exact List.Pairwise.nil
      | some t => exact List.pairwise_singleton _ t
    · rintro ⟨_, m⟩ hm ⟨_, n⟩ hn rfl hk
      obtain rfl : _ = _ := hk
      exact hs.next h n (Option.mem_toList.mp hn) m hm
  next h₁ n hn m hm := by
    obtain ⟨hne, hn⟩ := held_of_update_none hn
    rcases List.mem_append.mp hm with hm | hm
    · exact hs.next h₁ n hn m hm
    · exact absurd (hs.alone h₁ h n m hn (Option.mem_toList.mp hm)) hne
  alone h₁ h₂ n m hn hm :=
    hs.alone h₁ h₂ n m (held_of_update_none hn).2 (held_of_update_none hm).2

theorem Ascending.drop (hs : Ascending k s) (h : H) : Ascending k (step s (.drop h)) where
  toCounted := hs.toCounted.drop h
  ascending := hs.ascending
  next h₁ n hn := hs.next h₁ n (held_of_update_none hn).2
  alone h₁ h₂ n m hn hm :=
    hs.alone h₁ h₂ n m (held_of_update_none hn).2 (held_of_update_none hm).2

/-- **Step.** The numbers of a queue with one holder at a time come in ascending order. -/
theorem Ascending.step (hs : Ascending k s) (a : Act H K) (ha : Alone k s a) :
    Ascending k (step s a) := by
  cases a with
  | take h k' =>
    by_cases hh : s.held h = none
    · simpa only [Tickets.step, if_pos hh] using hs.taken ha
    · simpa only [Tickets.step, if_neg hh] using hs
  | pass h => exact hs.pass h
  | drop h => exact hs.drop h

/-- The numbers of a key are passed on in their order, when each of them is taken by who is alone. -/
theorem passed_ascending {acts : List (Act H K)} (ha : Along step (Alone k) ({} : Desk H K) acts) :
    (run step ({} : Desk H K) acts).passed.Pairwise fun t u => t.1 = k → u.1 = k → t.2 < u.2 :=
  (along_keeps (I := Ascending k) (fun _ a hs ha => hs.step a ha) Ascending.init ha).ascending

end Lib.Tickets
