import Mathlib.Algebra.Order.Ring.Unbundled.Rat
import Mathlib.Data.Rat.Defs
import Mathlib.Tactic.Linarith

/-!
# `Lib.Number` — numbers that may be infinite or not a number

The values of a floating-point format without its rounding: every rational, the two infinities, and the value
`nan` that an operation without a result leaves behind. A zero has no sign, so what is divided by it takes the
sign of the dividend.

* The operations are total, and `nan` goes through each of them.
* No comparison with `nan` holds, so `¬ a < b` does not give `b ≤ a`.
* `lt_trans`, `le_of_not_lt`: apart from `nan` they are in order.
* `Rounded` is the same with operations that round.
* On finite operands they are the operations of `ℚ`, but for a division by zero.

Nothing below names a particular program.
-/

namespace Lib

/-- A rational, an infinity or no number. -/
inductive Number where
  | nan
  | inf (negative : Bool)
  | fin (q : ℚ)
  deriving DecidableEq

namespace Number

/-- Negation. -/
def neg : Number → Number
  | nan => nan
  | inf s => inf !s
  | fin q => fin (-q)

/-- Addition; opposite infinities have no sum. -/
def add : Number → Number → Number
  | nan, _ | _, nan => nan
  | inf s, inf t => if s = t then inf s else nan
  | inf s, fin _ | fin _, inf s => inf s
  | fin p, fin q => fin (p + q)

/-- Multiplication; zero times an infinity is no number. -/
def mul : Number → Number → Number
  | nan, _ | _, nan => nan
  | inf s, inf t => inf (s != t)
  | inf s, fin q | fin q, inf s => if q = 0 then nan else inf (s != decide (q < 0))
  | fin p, fin q => fin (p * q)

/-- Division; zero by zero and infinity by infinity are no number. -/
def div : Number → Number → Number
  | nan, _ | _, nan => nan
  | inf _, inf _ => nan
  | inf s, fin q => inf (s != decide (q < 0))
  | fin _, inf _ => fin 0
  | fin p, fin q => if q = 0 then if p = 0 then nan else inf (decide (p < 0)) else fin (p / q)

/-- The comparison `a < b`. -/
def lt : Number → Number → Bool
  | nan, _ | _, nan => false
  | inf s, inf t => s && !t
  | inf s, fin _ => s
  | fin _, inf s => !s
  | fin p, fin q => decide (p < q)

/-- The comparison `a ≤ b`. -/
def le : Number → Number → Bool
  | nan, _ | _, nan => false
  | inf s, inf t => s || !t
  | inf s, fin _ => s
  | fin _, inf s => !s
  | fin p, fin q => decide (p ≤ q)

instance : Neg Number := ⟨neg⟩

instance : Add Number := ⟨add⟩

instance : Sub Number := ⟨fun a b => a + -b⟩

instance : Mul Number := ⟨mul⟩

instance : Div Number := ⟨div⟩

instance : LT Number := ⟨fun a b => lt a b⟩

instance : LE Number := ⟨fun a b => le a b⟩

instance decidableLT : DecidableLT Number := fun a b => inferInstanceAs (Decidable (lt a b = true))

instance decidableLE : DecidableLE Number := fun a b => inferInstanceAs (Decidable (le a b = true))

/-! ## Finite operands -/

variable {p q : ℚ}

@[simp] theorem fin_sub_fin : fin p - fin q = fin (p - q) :=
  congrArg fin (sub_eq_add_neg p q).symm

@[simp] theorem fin_mul_fin : fin p * fin q = fin (p * q) := rfl

theorem fin_div_fin (hq : q ≠ 0) : fin p / fin q = fin (p / q) := if_neg hq

@[simp] theorem fin_lt_fin : fin p < fin q ↔ p < q := decide_eq_true_iff

@[simp] theorem fin_le_fin : fin p ≤ fin q ↔ p ≤ q := decide_eq_true_iff

/-! ## No number -/

variable {a : Number}

@[simp] theorem nan_mul : nan * a = nan := by
  cases a <;> rfl

@[simp] theorem nan_sub : nan - a = nan := by
  cases a <;> rfl

@[simp] theorem nan_div : nan / a = nan := by
  cases a <;> rfl

@[simp] theorem not_nan_lt : ¬ nan < a := by
  cases a <;> exact Bool.false_ne_true

@[simp] theorem not_lt_nan : ¬ a < nan := by
  cases a <;> exact Bool.false_ne_true

@[simp] theorem not_le_nan : ¬ a ≤ nan := by
  cases a <;> exact Bool.false_ne_true

/-! ## Order -/

theorem lt_trans {a b c : Number} (hab : a < b) (hbc : b < c) : a < c := by
  cases b with
  | nan => exact absurd hab not_lt_nan
  | inf s =>
      cases s with
      | false => cases c <;> cases hbc
      | true =>
          cases a with
          | nan => exact absurd hab not_nan_lt
          | inf t => cases t <;> cases hab
          | fin p => cases hab
  | fin q =>
      cases a with
      | nan => exact absurd hab not_nan_lt
      | inf s =>
          cases c with
          | nan => exact absurd hbc not_lt_nan
          | inf t =>
              have hs : s = true := hab
              have ht : (!t) = true := hbc
              show (s && !t) = true
              rw [hs, ht]
              rfl
          | fin r => exact hab
      | fin p =>
          cases c with
          | nan => exact absurd hbc not_lt_nan
          | inf t => exact hbc
          | fin r => exact fin_lt_fin.mpr ((fin_lt_fin.mp hab).trans (fin_lt_fin.mp hbc))

theorem lt_irrefl (a : Number) : ¬ a < a := by
  cases a with
  | nan => exact not_lt_nan
  | inf s => cases s <;> exact Bool.false_ne_true
  | fin q => exact fun h => absurd (fin_lt_fin.mp h) (not_lt.mpr le_rfl)

theorem lt_asymm {a b : Number} (hab : a < b) : ¬ b < a := fun hba => lt_irrefl a (lt_trans hab hba)

theorem le_of_lt {a b : Number} (hab : a < b) : a ≤ b := by
  cases a with
  | nan => exact absurd hab not_nan_lt
  | inf s =>
      cases b with
      | nan => exact absurd hab not_lt_nan
      | inf t =>
          have hst : (s && !t) = true := hab
          show (s || !t) = true
          rw [Bool.and_eq_true] at hst
          rw [hst.1, Bool.true_or]
      | fin q => exact hab
  | fin p =>
      cases b with
      | nan => exact absurd hab not_lt_nan
      | inf t => exact hab
      | fin q => exact fin_le_fin.mpr (fin_lt_fin.mp hab).le

theorem le_refl {a : Number} (h : a ≠ nan) : a ≤ a := by
  cases a with
  | nan => exact absurd rfl h
  | inf s => cases s <;> rfl
  | fin q => exact fin_le_fin.mpr le_rfl

/-- Of two numbers one is at most the other. -/
theorem le_of_not_lt {a b : Number} (ha : a ≠ nan) (hb : b ≠ nan) (h : ¬ a < b) : b ≤ a := by
  cases a with
  | nan => exact absurd rfl ha
  | inf s =>
      cases b with
      | nan => exact absurd rfl hb
      | inf t => cases s <;> cases t <;> first | rfl | exact absurd rfl h
      | fin q =>
          cases s with
          | false => rfl
          | true => exact absurd rfl h
  | fin p =>
      cases b with
      | nan => exact absurd rfl hb
      | inf t =>
          cases t with
          | false => exact absurd rfl h
          | true => rfl
      | fin q => exact fin_le_fin.mpr (not_lt.mp fun hlt => h (fin_lt_fin.mpr hlt))

/-! ## Signs -/

/-- A positive number is finite or the positive infinity. -/
theorem pos_cases (h : fin 0 < a) : (∃ q, 0 < q ∧ a = fin q) ∨ a = inf false := by
  cases a with
  | nan => exact absurd h not_lt_nan
  | inf s =>
      cases s with
      | false => exact Or.inr rfl
      | true => cases h
  | fin q => exact Or.inl ⟨q, fin_lt_fin.mp h, rfl⟩

theorem neg_pos (h : a < fin 0) : fin 0 < -a := by
  cases a with
  | nan => exact absurd h not_nan_lt
  | inf s =>
      cases s with
      | false => cases h
      | true => rfl
  | fin q =>
      have hq : q < 0 := fin_lt_fin.mp h
      exact fin_lt_fin.mpr (by linarith)

/-- What a finite number times a positive one is: no number where it is zero times infinity, and otherwise of its
sign. -/
theorem mul_pos_cases {s : Number} (hs : fin 0 < s) (q : ℚ) :
    (fin q * s = nan ↔ q = 0 ∧ s = inf false) ∧ (fin 0 < fin q * s ↔ 0 < q) ∧ (fin q * s < fin 0 ↔ q < 0) := by
  rcases pos_cases hs with ⟨t, ht, rfl⟩ | rfl
  · rw [fin_mul_fin, fin_lt_fin, fin_lt_fin]
    refine ⟨by simp, mul_pos_iff_of_pos_right ht, ?_⟩
    constructor
    · intro h
      by_contra hq
      exact absurd h (not_lt.mpr (mul_nonneg (not_lt.mp hq) ht.le))
    · exact fun hq => mul_neg_of_neg_of_pos hq ht
  · have hmul : fin q * inf false = if q = 0 then nan else inf (false != decide (q < 0)) := rfl
    rw [hmul]
    rcases lt_trichotomy q 0 with hq | rfl | hq
    · have hlt : (false != decide (q < 0)) = true := by simp [hq]
      rw [if_neg hq.ne, hlt]
      refine ⟨by simp [hq.ne], iff_of_false (by exact Bool.false_ne_true) hq.le.not_gt, iff_of_true rfl hq⟩
    · rw [if_pos rfl]
      exact ⟨by simp, iff_of_false not_lt_nan (not_lt.mpr le_rfl), iff_of_false not_nan_lt (not_lt.mpr le_rfl)⟩
    · have hlt : (false != decide (q < 0)) = false := by simp [hq.le]
      rw [if_neg hq.ne', hlt]
      refine ⟨by simp [hq.ne'], iff_of_true rfl hq, iff_of_false (by exact Bool.false_ne_true) hq.le.not_gt⟩

end Number

/-! ## Rounding -/

/-- Numbers with operations that round what is finite. -/
structure Rounded (round : ℚ → ℚ) where
  value : Number
  deriving DecidableEq

namespace Rounded

variable {round : ℚ → ℚ}

/-- A number, rounded. -/
def of (round : ℚ → ℚ) : Number → Rounded round
  | .fin q => ⟨.fin (round q)⟩
  | v => ⟨v⟩

instance : Neg (Rounded round) := ⟨fun a => ⟨-a.value⟩⟩

instance : Add (Rounded round) := ⟨fun a b => of round (a.value + b.value)⟩

instance : Sub (Rounded round) := ⟨fun a b => of round (a.value - b.value)⟩

instance : Mul (Rounded round) := ⟨fun a b => of round (a.value * b.value)⟩

instance : Div (Rounded round) := ⟨fun a b => of round (a.value / b.value)⟩

instance : LT (Rounded round) := ⟨fun a b => a.value < b.value⟩

instance : LE (Rounded round) := ⟨fun a b => a.value ≤ b.value⟩

instance decidableLT : DecidableLT (Rounded round) := fun a b => Number.decidableLT a.value b.value

instance decidableLE : DecidableLE (Rounded round) := fun a b => Number.decidableLE a.value b.value

end Rounded

end Lib
