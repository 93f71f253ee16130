import Mathlib.Algebra.Order.Field.Basic
import Mathlib.Algebra.Order.BigOperators.Group.List
import Mathlib.Algebra.BigOperators.Group.List.Basic
import Mathlib.Tactic.Linarith
import Mathlib.Tactic.FieldSimp
import Mathlib.Tactic.Ring

/-!
# `Lib.Smoothing` — a running average with a mean for its seed

`smooth p a d` moves the average `a` by one value: `(a * (p - 1) + d) / p`. `seeded p k l` starts from
the mean of the first `k` values and smooths the others in; with `k = p` that is Wilder's average
(`wilder`).

A value counts for `1 / p` at most, and for less with each value that follows (`wilder_le`, `wilder_lt`).
So zeros before the values make Wilder's average smaller than the one that is seeded without them
(`wilder_padded_lt`). Bounds of the values bound their average (`seeded_mem`).
-/

namespace Lib.Smoothing

section Field
variable {K : Type*} [Field K]

/-- The average after one more value. -/
def smooth (p a d : K) : K := (a * (p - 1) + d) / p

/-- The average after more values. -/
def smoothAll (p a : K) (l : List K) : K := l.foldl (smooth p) a

/-- The mean of the first `k` values is the seed. -/
def seeded (p : K) (k : ℕ) (l : List K) : K := smoothAll p ((l.take k).sum / k) (l.drop k)

/-- Wilder's average over `n`. -/
def wilder (n : ℕ) (l : List K) : K := seeded n n l

@[simp] theorem smoothAll_nil (p a : K) : smoothAll p a [] = a := rfl

@[simp] theorem smoothAll_cons (p a d : K) (l : List K) :
    smoothAll p a (d :: l) = smoothAll p (smooth p a d) l := rfl

theorem smoothAll_append (p a : K) (l m : List K) :
    smoothAll p a (l ++ m) = smoothAll p (smoothAll p a l) m := List.foldl_append

/-- Over one value the average is the value. -/
theorem smooth_one (a d : K) : smooth 1 a d = d := by simp [smooth]

theorem smoothAll_one (a : K) (l : List K) : smoothAll 1 a l = l.getLastD a := by
  induction l generalizing a with
  | nil => rfl
  | cons d l ih => rw [smoothAll_cons, smooth_one, ih, List.getLastD_cons]

theorem wilder_one (d : K) (l : List K) : wilder 1 (d :: l) = l.getLastD d := by
  simp [wilder, seeded, smoothAll_one]

theorem wilder_one_snoc (l : List K) (d : K) : wilder 1 (l ++ [d]) = d := by
  cases l with
  | nil => simp [wilder, seeded]
  | cons e l => rw [List.cons_append, wilder_one, List.getLastD_concat]

/-- The average is that of before less its share, and the share of the value. -/
theorem smooth_eq {p : K} (hp : p ≠ 0) (a d : K) : smooth p a d = a + d / p - a / p := by
  unfold smooth
  field_simp
  ring

theorem smooth_add (p a b d e : K) : smooth p a d + smooth p b e = smooth p (a + b) (d + e) := by
  unfold smooth
  ring

theorem smoothAll_zeros (p : K) {l : List K} (h : ∀ d ∈ l, d = 0) : smoothAll p 0 l = 0 := by
  induction l with
  | nil => rfl
  | cons d l ih =>
      have hd : d = 0 := h d List.mem_cons_self
      have hzero : smooth p 0 d = 0 := by simp [smooth, hd]
      rw [smoothAll_cons, hzero]
      exact ih fun e he => h e (List.mem_cons_of_mem d he)

theorem wilder_zeros (n : ℕ) {l : List K} (h : ∀ d ∈ l, d = 0) : wilder n l = 0 := by
  have hsum : (l.take n).sum = 0 := List.sum_eq_zero fun d hd => h d (List.mem_of_mem_take hd)
  unfold wilder seeded
  rw [hsum, zero_div]
  exact smoothAll_zeros _ fun d hd => h d (List.mem_of_mem_drop hd)

theorem seeded_append (p : K) {k : ℕ} {l : List K} (h : k ≤ l.length) (m : List K) :
    seeded p k (l ++ m) = smoothAll p (seeded p k l) m := by
  unfold seeded
  rw [List.take_append_of_le_length h, List.drop_append_of_le_length h, smoothAll_append]

/-- With no values beyond the seed the average is the mean. -/
theorem seeded_length (p : K) (l : List K) : seeded p l.length l = l.sum / l.length := by
  simp [seeded]

theorem sum_padded (k : ℕ) (l : List K) : (List.replicate k 0 ++ l).sum = l.sum := by simp

end Field

section Order
variable {K : Type*} [Field K] [LinearOrder K] [IsStrictOrderedRing K] {p a b : K} {l : List K}

/-! ## Smoothing and the order -/

/-- A sum of values that are not negative is positive when one of them is. -/
theorem sum_map_pos_iff {α : Type*} {f : α → K} {l : List α} (h : ∀ x ∈ l, 0 ≤ f x) :
    0 < (l.map f).sum ↔ ∃ x ∈ l, 0 < f x := by
  induction l with
  | nil => simp
  | cons x l ih =>
      obtain ⟨hx, hl⟩ := List.forall_mem_cons.mp h
      have hsum : 0 ≤ (l.map f).sum := List.sum_nonneg (by simpa using hl)
      rw [List.map_cons, List.sum_cons, List.exists_mem_cons_iff, ← ih hl]
      constructor
      · intro hpos
        by_contra hno
        push Not at hno
        linarith
      · rintro (hpos | hpos) <;> linarith

theorem smooth_nonneg {d : K} (hp : 1 ≤ p) (ha : 0 ≤ a) (hd : 0 ≤ d) : 0 ≤ smooth p a d := by
  have hmul : 0 ≤ a * (p - 1) := mul_nonneg ha (by linarith)
  exact div_nonneg (by linarith) (by linarith)

/-- An average stays between bounds of what it is made of. -/
theorem smooth_mem {d lo hi : K} (hp : 1 ≤ p) (ha : lo ≤ a ∧ a ≤ hi) (hd : lo ≤ d ∧ d ≤ hi) :
    lo ≤ smooth p a d ∧ smooth p a d ≤ hi := by
  have hp0 : 0 < p := by linarith
  have hlow := mul_le_mul_of_nonneg_right ha.1 (sub_nonneg.mpr hp)
  have hhigh := mul_le_mul_of_nonneg_right ha.2 (sub_nonneg.mpr hp)
  unfold smooth
  rw [le_div_iff₀ hp0, div_le_iff₀ hp0]
  constructor <;> linarith

theorem smoothAll_mem {lo hi : K} (hp : 1 ≤ p) (ha : lo ≤ a ∧ a ≤ hi)
    (hl : ∀ d ∈ l, lo ≤ d ∧ d ≤ hi) : lo ≤ smoothAll p a l ∧ smoothAll p a l ≤ hi := by
  induction l generalizing a with
  | nil => exact ha
  | cons d l ih =>
      rw [smoothAll_cons]
      exact ih (smooth_mem hp ha (hl d List.mem_cons_self)) fun e he => hl e (List.mem_cons_of_mem d he)

theorem seeded_mem {k : ℕ} {lo hi : K} (hp : 1 ≤ p) (hk : 0 < k) (hlen : k ≤ l.length)
    (hl : ∀ d ∈ l, lo ≤ d ∧ d ≤ hi) : lo ≤ seeded p k l ∧ seeded p k l ≤ hi := by
  have hk0 : (0 : K) < k := Nat.cast_pos.mpr hk
  have htake : (l.take k).length = k := by rw [List.length_take, min_eq_left hlen]
  have hlow := List.card_nsmul_le_sum (l.take k) lo fun d hd => (hl d (List.mem_of_mem_take hd)).1
  have hhigh := List.sum_le_card_nsmul (l.take k) hi fun d hd => (hl d (List.mem_of_mem_take hd)).2
  rw [htake, nsmul_eq_mul, mul_comm] at hlow hhigh
  refine smoothAll_mem hp ?_ fun d hd => hl d (List.mem_of_mem_drop hd)
  rw [le_div_iff₀ hk0, div_le_iff₀ hk0]
  exact ⟨hlow, hhigh⟩

theorem smooth_pos {d : K} (hp : 1 < p) (ha : 0 ≤ a) (hd : 0 ≤ d) (h : 0 < a ∨ 0 < d) :
    0 < smooth p a d := by
  have hmul : 0 ≤ a * (p - 1) := mul_nonneg ha (by linarith)
  apply div_pos _ (by linarith)
  rcases h with h | h
  · have hmul : 0 < a * (p - 1) := mul_pos h (by linarith)
    linarith
  · linarith

/-- An average is positive when what goes into it is. -/
theorem smooth_pos_iff {d : K} (hp : 1 < p) (ha : 0 ≤ a) (hd : 0 ≤ d) :
    0 < smooth p a d ↔ 0 < a ∨ 0 < d := by
  constructor
  · intro h
    by_contra hno
    push Not at hno
    have hzero : smooth p a d = 0 := by
      rw [le_antisymm hno.1 ha, le_antisymm hno.2 hd]
      simp [smooth]
    exact h.ne' hzero
  · exact smooth_pos hp ha hd

theorem smooth_lt_smooth {d : K} (hp : 1 < p) (h : a < b) : smooth p a d < smooth p b d := by
  have hp0 : 0 < p := by linarith
  have hmul : a * (p - 1) < b * (p - 1) := mul_lt_mul_of_pos_right h (by linarith)
  exact div_lt_div_of_pos_right (by linarith) hp0

theorem smoothAll_lt_smoothAll (hp : 1 < p) (h : a < b) : smoothAll p a l < smoothAll p b l := by
  induction l generalizing a b with
  | nil => exact h
  | cons d l ih => exact ih (smooth_lt_smooth hp h)

/-- A value counts for its share at most. -/
theorem smoothAll_le (hp : 1 ≤ p) (ha : 0 ≤ a) (hl : ∀ d ∈ l, 0 ≤ d) :
    smoothAll p a l ≤ a + l.sum / p := by
  induction l generalizing a with
  | nil => simp
  | cons d l ih =>
      have hd : 0 ≤ d := hl d List.mem_cons_self
      have hshare : 0 ≤ a / p := div_nonneg ha (by linarith)
      have hfirst : smooth p a d = a + d / p - a / p := smooth_eq (by linarith) a d
      have hrest := ih (smooth_nonneg hp ha hd) fun e he => hl e (List.mem_cons_of_mem d he)
      rw [smoothAll_cons, List.sum_cons, add_div]
      linarith

/-- A value that is not zero is never smoothed away. -/
theorem smoothAll_pos (hp : 1 < p) (ha : 0 ≤ a) (hl : ∀ d ∈ l, 0 ≤ d) (h : 0 < a + l.sum) :
    0 < smoothAll p a l := by
  induction l generalizing a with
  | nil => simpa using h
  | cons d l ih =>
      have hd : 0 ≤ d := hl d List.mem_cons_self
      have hrest : ∀ e ∈ l, 0 ≤ e := fun e he => hl e (List.mem_cons_of_mem d he)
      have hsum : 0 ≤ l.sum := List.sum_nonneg hrest
      have hnonneg : 0 ≤ smooth p a d := smooth_nonneg hp.le ha hd
      refine ih hnonneg hrest ?_
      rw [List.sum_cons] at h
      rcases lt_or_ge 0 l.sum with hpos | hzero
      · linarith
      · -- nothing follows, so what was there or this value is not zero
        have hnow : 0 < a ∨ 0 < d := by
          by_contra hno
          push Not at hno
          linarith
        linarith [smooth_pos hp ha hd hnow]

/-! ## Wilder's average and the mean -/

variable {n : ℕ}

theorem smoothAll_nonneg (hp : 1 ≤ p) (ha : 0 ≤ a) (hl : ∀ d ∈ l, 0 ≤ d) : 0 ≤ smoothAll p a l := by
  induction l generalizing a with
  | nil => exact ha
  | cons d l ih =>
      rw [smoothAll_cons]
      exact ih (smooth_nonneg hp ha (hl d List.mem_cons_self)) fun e he => hl e (List.mem_cons_of_mem d he)

theorem wilder_nonneg (hn : 1 ≤ n) (hl : ∀ d ∈ l, 0 ≤ d) : 0 ≤ wilder n l := by
  have hn1 : (1 : K) ≤ n := by exact_mod_cast hn
  have htake : 0 ≤ (l.take n).sum := List.sum_nonneg fun d hd => hl d (List.mem_of_mem_take hd)
  exact smoothAll_nonneg hn1 (div_nonneg htake (Nat.cast_nonneg n)) fun d hd => hl d (List.mem_of_mem_drop hd)

theorem wilder_le (hn : 1 ≤ n) (hl : ∀ d ∈ l, 0 ≤ d) : wilder n l ≤ l.sum / n := by
  have hn1 : (1 : K) ≤ n := by exact_mod_cast hn
  have hseed : 0 ≤ (l.take n).sum / n :=
    div_nonneg (List.sum_nonneg fun d hd => hl d (List.mem_of_mem_take hd)) (by linarith)
  have hrest := smoothAll_le hn1 hseed fun d hd => hl d (List.mem_of_mem_drop (i := n) hd)
  have hsum : (l.take n).sum + (l.drop n).sum = l.sum := List.sum_take_add_sum_drop l n
  rw [← hsum, add_div]
  exact hrest

theorem wilder_pos (hn : 1 < n) (hl : ∀ d ∈ l, 0 ≤ d) (h : 0 < l.sum) : 0 < wilder n l := by
  have hn1 : (1 : K) < n := by exact_mod_cast hn
  have htake : 0 ≤ (l.take n).sum := List.sum_nonneg fun d hd => hl d (List.mem_of_mem_take hd)
  have hdrop : 0 ≤ (l.drop n).sum := List.sum_nonneg fun d hd => hl d (List.mem_of_mem_drop hd)
  have hsum : (l.take n).sum + (l.drop n).sum = l.sum := List.sum_take_add_sum_drop l n
  apply smoothAll_pos hn1 (div_nonneg htake (by linarith)) fun d hd => hl d (List.mem_of_mem_drop hd)
  rcases htake.lt_or_eq with hpos | hzero
  · have hseed : 0 < (l.take n).sum / n := div_pos hpos (by linarith)
    linarith
  · rw [← hzero, zero_div]
    linarith

/-- What stands before the last value loses its share to it. -/
theorem wilder_lt {d : K} (hn : 1 < n) (hl : ∀ e ∈ l, 0 ≤ e) (hlen : n ≤ l.length) (h : 0 < l.sum) :
    wilder n (l ++ [d]) < (l ++ [d]).sum / n := by
  have hn0 : (0 : K) < n := by exact_mod_cast (by omega : 0 < n)
  have hbefore : wilder n l ≤ l.sum / n := wilder_le hn.le hl
  have hshare : 0 < wilder n l / n := div_pos (wilder_pos hn hl h) hn0
  have hlast : wilder n (l ++ [d]) = wilder n l + d / n - wilder n l / n := by
    rw [← smooth_eq hn0.ne']
    exact seeded_append _ hlen [d]
  rw [hlast, List.sum_append, List.sum_singleton, add_div]
  linarith

/-! ## Zeros before the values -/

omit [IsStrictOrderedRing K] in
theorem padded_nonneg (k : ℕ) (hl : ∀ d ∈ l, 0 ≤ d) : ∀ d ∈ List.replicate k 0 ++ l, 0 ≤ d := by
  intro d hd
  rcases List.mem_append.mp hd with hd | hd
  · exact (List.eq_of_mem_replicate hd).ge
  · exact hl d hd

/-- Zeros before at most `n` values make the average smaller than the mean. -/
theorem wilder_padded_lt_mean {k : ℕ} {x : K} (hn : 1 < n) (hk : 0 < k) (hx : 0 < x)
    (hl : ∀ d ∈ l, 0 ≤ d) (hfew : (x :: l).length ≤ n) :
    wilder n (List.replicate k 0 ++ x :: l) < (x :: l).sum / (x :: l).length := by
  have hall : ∀ d ∈ x :: l, 0 ≤ d := List.forall_mem_cons.mpr ⟨hx.le, hl⟩
  have hsum : 0 < (x :: l).sum := by
    rw [List.sum_cons]
    linarith [List.sum_nonneg hl]
  rcases hfew.lt_or_eq with hlt | heq
  · -- with fewer values the divisor is smaller
    have hlength : (0 : K) < (x :: l).length := by exact_mod_cast Nat.succ_pos _
    have hmean : (x :: l).sum / n < (x :: l).sum / (x :: l).length :=
      div_lt_div_of_pos_left hsum hlength (by exact_mod_cast hlt)
    have hle := wilder_le hn.le (padded_nonneg k hall)
    rw [sum_padded] at hle
    linarith
  · -- with `n` of them the first one is smoothed
    rw [heq]
    rcases l.eq_nil_or_concat with rfl | ⟨m, d, rfl⟩
    · simp at heq
      omega
    · have hm : ∀ e ∈ x :: m, 0 ≤ e := fun e he => hall e (by simp at he ⊢; tauto)
      have hpos : 0 < (List.replicate k 0 ++ x :: m).sum := by
        rw [sum_padded, List.sum_cons]
        linarith [List.sum_nonneg (List.forall_mem_cons.mp hm).2]
      have hlen : n ≤ (List.replicate k (0 : K) ++ x :: m).length := by
        simp at heq ⊢
        omega
      have hlt := wilder_lt (d := d) hn (padded_nonneg k hm) hlen hpos
      rw [List.append_assoc, sum_padded] at hlt
      simpa using hlt

theorem wilder_padded_lt {k : ℕ} {x : K} (hn : 1 < n) (hk : 0 < k) (hx : 0 < x)
    (hl : ∀ d ∈ l, 0 ≤ d) :
    wilder n (List.replicate k 0 ++ x :: l) < seeded (n : K) (min (x :: l).length n) (x :: l) := by
  have hn1 : (1 : K) < n := by exact_mod_cast hn
  rcases le_total (x :: l).length n with hfew | hmany
  · rw [Nat.min_eq_left hfew, seeded_length]
    exact wilder_padded_lt_mean hn hk hx hl hfew
  · -- the values beyond the first `n` are smoothed into both
    obtain ⟨m, rest, rfl, hm⟩ : ∃ m rest, l = m ++ rest ∧ (x :: m).length = n := by
      refine ⟨l.take (n - 1), l.drop (n - 1), (List.take_append_drop _ _).symm, ?_⟩
      simp at hmany ⊢
      omega
    have hfirst := wilder_padded_lt_mean hn hk hx
      (fun d hd => hl d (List.mem_append_left rest hd)) hm.le
    have hpad : n ≤ (List.replicate k (0 : K) ++ x :: m).length := by
      simp at hm ⊢
      omega
    have hleft : wilder n (List.replicate k 0 ++ x :: (m ++ rest)) =
        smoothAll (n : K) (wilder n (List.replicate k 0 ++ x :: m)) rest := by
      unfold wilder
      rw [← seeded_append _ hpad]
      simp
    have hright : seeded (n : K) n (x :: (m ++ rest)) =
        smoothAll (n : K) ((x :: m).sum / (x :: m).length) rest := by
      rw [← seeded_length (n : K), ← seeded_append _ le_rfl, hm]
      rfl
    rw [Nat.min_eq_right hmany, hleft, hright]
    exact smoothAll_lt_smoothAll hn1 hfirst

end Order

end Lib.Smoothing
