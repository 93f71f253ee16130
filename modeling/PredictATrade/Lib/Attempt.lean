import Mathlib.Init
import Mathlib.Tactic.Common

/-!
# `Lib.Attempt` — failing computations and transactions

A statement that may fail is a function into `Except`. `transaction` runs one against a state and
keeps the state it produced when it succeeds, or the state it started from when it fails; `next`
puts statements one after the other that commit one by one. The inversion lemmas take a successful
computation apart step by step, so that no proof has to unfold the monad.
-/

namespace Lib.Attempt

universe u v
variable {ε : Type u} {α β σ : Type v}

/-! ## Inversion -/

/-- A sequence succeeds when its first part does and the rest does from there. -/
theorem bind_ok {x : Except ε α} {f : α → Except ε β} {b : β} (h : x >>= f = .ok b) :
    ∃ a, x = .ok a ∧ f a = .ok b := by
  cases x with
  | error e => cases h
  | ok a => exact ⟨a, rfl, h⟩

@[simp] theorem ok_bind (a : α) (f : α → Except ε β) : (Except.ok a >>= f) = f a := rfl

@[simp] theorem error_bind (e : ε) (f : α → Except ε β) :
    ((Except.error e : Except ε α) >>= f) = .error e := rfl

@[simp] theorem pure_eq_ok (a : α) : (pure a : Except ε α) = .ok a := rfl

/-- A guarded computation succeeds when the guard does not fire and the rest succeeds. -/
theorem guard_ok {c : Prop} [Decidable c] {e : ε} {x : Except ε α} {a : α}
    (h : (if c then .error e else x) = .ok a) : ¬ c ∧ x = .ok a := by
  split at h
  · cases h
  · exact ⟨‹_›, h⟩

/-- A sequence can succeed when its first part can, with a value the rest can go on from. -/
theorem exists_bind_ok {x : Except ε α} {f : α → Except ε β} :
    (∃ b, x >>= f = .ok b) ↔ ∃ a, x = .ok a ∧ ∃ b, f a = .ok b := by
  constructor
  · rintro ⟨b, h⟩
    obtain ⟨a, hx, hf⟩ := bind_ok h
    exact ⟨a, hx, b, hf⟩
  · rintro ⟨a, rfl, b, hf⟩
    exact ⟨b, hf⟩

theorem exists_guard_ok {c : Prop} [Decidable c] {e : ε} {x : Except ε α} :
    (∃ a, (if c then .error e else x) = .ok a) ↔ ¬ c ∧ ∃ a, x = .ok a := by
  constructor
  · rintro ⟨a, h⟩
    exact ⟨(guard_ok h).1, a, (guard_ok h).2⟩
  · rintro ⟨hc, a, hx⟩
    exact ⟨a, by rw [if_neg hc, hx]⟩

/-- A fallible pass over a list, applied to every element. -/
theorem mapM_ok_mem {f : α → Except ε β} {l : List α} {l' : List β} (h : l.mapM f = .ok l') {b : β}
    (hb : b ∈ l') : ∃ a ∈ l, f a = .ok b := by
  induction l generalizing l' with
  | nil =>
      rw [List.mapM_nil] at h
      cases h
      cases hb
  | cons a l ih =>
      rw [List.mapM_cons] at h
      obtain ⟨c, hc, h⟩ := bind_ok h
      obtain ⟨rest, hrest, h⟩ := bind_ok h
      cases h
      rcases List.mem_cons.mp hb with rfl | hb
      · exact ⟨a, List.mem_cons_self, hc⟩
      · obtain ⟨a', ha', hf⟩ := ih hrest hb
        exact ⟨a', List.mem_cons_of_mem a ha', hf⟩

/-- A pass whose results show what they were made from. -/
theorem mapM_ok_map {f : α → Except ε β} {g : β → α} (hg : ∀ a b, f a = .ok b → g b = a) {l : List α}
    {l' : List β} (h : l.mapM f = .ok l') : l'.map g = l := by
  induction l generalizing l' with
  | nil =>
      rw [List.mapM_nil] at h
      cases h
      rfl
  | cons a l ih =>
      rw [List.mapM_cons] at h
      obtain ⟨b, hb, h⟩ := bind_ok h
      obtain ⟨rest, hrest, h⟩ := bind_ok h
      cases h
      rw [List.map_cons, hg a b hb, ih hrest]

/-- A pass that cannot fail anywhere does not fail. -/
theorem exists_mapM_ok {f : α → Except ε β} (hf : ∀ a, ∃ b, f a = .ok b) (l : List α) :
    ∃ l', l.mapM f = .ok l' := by
  induction l with
  | nil => exact ⟨[], rfl⟩
  | cons a l ih =>
      obtain ⟨b, hb⟩ := hf a
      obtain ⟨rest, hrest⟩ := ih
      exact ⟨b :: rest, by rw [List.mapM_cons, hb, ok_bind, hrest]; rfl⟩

/-- A pass that leaves what a lookup reads finds the image of what was there before. -/
theorem mapM_ok_find? {f : α → Except ε β} {q : α → Bool} {q' : β → Bool}
    (hq : ∀ a b, f a = .ok b → q' b = q a) {l : List α} {l' : List β} (h : l.mapM f = .ok l') :
    l'.find? q' = none ∧ l.find? q = none ∨
      ∃ a b, l.find? q = some a ∧ l'.find? q' = some b ∧ f a = .ok b := by
  induction l generalizing l' with
  | nil =>
      rw [List.mapM_nil] at h
      cases h
      exact Or.inl ⟨rfl, rfl⟩
  | cons a l ih =>
      rw [List.mapM_cons] at h
      obtain ⟨b, hb, h⟩ := bind_ok h
      obtain ⟨rest, hrest, h⟩ := bind_ok h
      cases h
      have hqa := hq a b hb
      rw [List.find?_cons, List.find?_cons, hqa]
      cases hc : q a with
      | true => exact Or.inr ⟨a, b, rfl, rfl, hb⟩
      | false => exact ih hrest

/-! ## Statements one after the other -/

/-- Go on with `f` when the first part succeeds. What the first part wrote stays written when it
fails: the statements of a sequence commit one by one. -/
def next (r : Except ε α × σ) (f : α → σ → Except ε β × σ) : Except ε β × σ :=
  match r with
  | (.ok a, s) => f a s
  | (.error e, s) => (.error e, s)

/-- A sequence succeeds when its first part does and the rest does from the state it left. -/
theorem next_ok {r : Except ε α × σ} {f : α → σ → Except ε β × σ} {b : β} {s' : σ}
    (h : next r f = (.ok b, s')) : ∃ a s, r = (.ok a, s) ∧ f a s = (.ok b, s') := by
  obtain ⟨x, s⟩ := r
  cases x with
  | error e => cases h
  | ok a => exact ⟨a, s, rfl, h⟩

/-- A guarded statement succeeds when the guard does not fire and the rest succeeds. -/
theorem guard_next_ok {c : Prop} [Decidable c] {e : ε} {s s' : σ} {r : Except ε α × σ} {a : α}
    (h : (if c then (.error e, s) else r) = (.ok a, s')) : ¬ c ∧ r = (.ok a, s') := by
  split at h
  · cases h
  · exact ⟨‹_›, h⟩

/-- What both parts of a sequence keep, the sequence keeps, whether it succeeds or not. -/
theorem next_invariant {I : σ → Prop} {r : Except ε α × σ} {f : α → σ → Except ε β × σ}
    (hr : I r.2) (hf : ∀ a s, I s → I (f a s).2) : I (next r f).2 := by
  obtain ⟨x, s⟩ := r
  cases x with
  | error e => exact hr
  | ok a => exact hf a s hr

/-! ## Transactions -/

/-- Run `body`; commit its state when it succeeds, roll back when it fails. -/
def transaction (body : σ → Except ε (α × σ)) (s : σ) : Except ε α × σ :=
  match body s with
  | .ok (a, s') => (.ok a, s')
  | .error e => (.error e, s)

theorem transaction_of_ok {body : σ → Except ε (α × σ)} {s s' : σ} {a : α}
    (h : body s = .ok (a, s')) : transaction body s = (.ok a, s') := by
  simp only [transaction, h]

/-- **A failed transaction changes nothing.** -/
theorem transaction_of_error {body : σ → Except ε (α × σ)} {s : σ} {e : ε}
    (h : body s = .error e) : transaction body s = (.error e, s) := by
  simp only [transaction, h]

/-- A transaction keeps what its body keeps whenever it succeeds. -/
theorem transaction_invariant {I : σ → Prop} {body : σ → Except ε (α × σ)} {s : σ} (h0 : I s)
    (h : ∀ a s', body s = .ok (a, s') → I s') : I (transaction body s).2 := by
  cases hb : body s with
  | error e => rw [transaction_of_error hb]; exact h0
  | ok r =>
      obtain ⟨a, s'⟩ := r
      rw [transaction_of_ok hb]
      exact h a s' hb

end Lib.Attempt
