import Mathlib.Algebra.BigOperators.Field
import Mathlib.Algebra.Order.BigOperators.Ring.Finset
import Mathlib.Data.Finset.Max
import Mathlib.Data.List.GetD
import Mathlib.Data.Set.Monotone
import Mathlib.Tactic.FieldSimp
import Mathlib.Tactic.IntervalCases
import Mathlib.Tactic.Linarith
import Mathlib.Tactic.Ring

/-!
# `Lib.Isotonic` — least-squares fits that never decrease

Over finitely many places in an order a target `r` and a weight `w` are given. `IsFit`: of all functions
that never decrease over the places, `f` has the least weighted sum of squared distances to the target.

What makes a function the fit are the sums of `w * (r - f)` from the first place on: none of them is negative, and
where `f` rises they are zero (`IsFit.balanced`, `Balanced.isFit`). A function that meets this is closer to the
target than any other by at least its distance to that other (`Balanced.growth`), so that for positive
weights there is one fit (`IsFit.eqOn`).

`Balanced.of_levels` is about runs of places at equal weights: where no part from the start of a run averages
less than the whole run, and the averages of the runs never decrease, they are the fit. `Level.append` joins
two runs that are in the wrong order.
-/

namespace Lib.Isotonic
open Finset

/-! ## Fits -/

section
variable {ι K : Type*} [LinearOrder ι] [Field K] [LinearOrder K]
variable (s : Finset ι) (w r f : ι → K)

/-- The weighted squared distance. -/
def cost : K := ∑ i ∈ s, w i * (r i - f i) ^ 2

/-- The function never decreases, and no other is nearer. -/
structure IsFit : Prop where
  mono : MonotoneOn f s
  least : ∀ h : ι → K, MonotoneOn h s → cost s w r f ≤ cost s w r h

/-- What the target has over the function up to a place. -/
def excess (k : ι) : K := ∑ i ∈ s with i ≤ k, w i * (r i - f i)

/-- The function never decreases, and its sums are balanced. -/
structure Balanced : Prop where
  mono : MonotoneOn f s
  nonneg : ∀ k ∈ s, 0 ≤ excess s w r f k
  rise : ∀ k ∈ s, (∀ j ∈ s, k < j → f k < f j) → excess s w r f k = 0

end

section
variable {ι K : Type*} [LinearOrder ι] [Field K] [LinearOrder K] [IsStrictOrderedRing K]
variable {s : Finset ι} {w r f g : ι → K}

omit [IsStrictOrderedRing K] in
/-- Only the places count. -/
theorem Balanced.congr {w' r' f' : ι → K} (hw : ∀ i ∈ s, w i = w' i) (hr : ∀ i ∈ s, r i = r' i)
    (hf : ∀ i ∈ s, f i = f' i) (h : Balanced s w r f) : Balanced s w' r' f' := by
  have hexcess (k : ι) : excess s w' r' f' k = excess s w r f k := by
    apply Finset.sum_congr rfl
    intro i hi
    have hs := (Finset.mem_filter.mp hi).1
    rw [hw i hs, hr i hs, hf i hs]
  refine ⟨?_, ?_, ?_⟩
  · intro i hi j hj hij
    rw [← hf i hi, ← hf j hj]
    exact h.mono hi hj hij
  · intro k hk
    rw [hexcess]
    exact h.nonneg k hk
  · intro k hk hrise
    rw [hexcess]
    apply h.rise k hk
    intro j hj hkj
    rw [hf k hk, hf j hj]
    exact hrise j hj hkj

omit [IsStrictOrderedRing K] in
/-- A target that never decreases is balanced by itself. -/
theorem Balanced.self (h : MonotoneOn r s) : Balanced s w r r := by
  have hzero (k : ι) : excess s w r r k = 0 := by
    apply Finset.sum_eq_zero
    intro i _
    rw [sub_self, mul_zero]
  exact ⟨h, fun k _ => (hzero k).ge, fun k _ _ => hzero k⟩

/-- Weights that are all the same do not matter. -/
theorem Balanced.const_weight {c : K} (hc : 0 ≤ c) (h : Balanced s (fun _ => 1) r f) :
    Balanced s (fun _ => c) r f := by
  have hscale (k : ι) : excess s (fun _ => c) r f k = c * excess s (fun _ => 1) r f k := by
    unfold excess
    rw [Finset.mul_sum]
    apply Finset.sum_congr rfl
    intro i _
    rw [one_mul]
  refine ⟨h.mono, ?_, ?_⟩
  · intro k hk
    rw [hscale]
    exact mul_nonneg hc (h.nonneg k hk)
  · intro k hk hrise
    rw [hscale, h.rise k hk hrise, mul_zero]

/-! ## A fit is balanced -/

/-- The function, lowered by `e` up to a place. -/
def lowered (f : ι → K) (k : ι) (e : K) (i : ι) : K := if i ≤ k then f i - e else f i

theorem lowered_mono (hf : MonotoneOn f s) {k : ι} {e : K}
    (hgap : ∀ i ∈ s, i ≤ k → ∀ j ∈ s, k < j → f i - e ≤ f j) : MonotoneOn (lowered f k e) s := by
  intro i hi j hj hij
  unfold lowered
  by_cases hik : i ≤ k
  · rw [if_pos hik]
    by_cases hjk : j ≤ k
    · rw [if_pos hjk]
      exact sub_le_sub_right (hf hi hj hij) e
    · rw [if_neg hjk]
      exact hgap i hi hik j hj (not_le.mp hjk)
  · rw [if_neg hik, if_neg fun hjk => hik (hij.trans hjk)]
    exact hf hi hj hij

omit [LinearOrder K] [IsStrictOrderedRing K] in
theorem cost_lowered (k : ι) (e : K) :
    cost s w r (lowered f k e) =
      cost s w r f + 2 * e * excess s w r f k + e ^ 2 * ∑ i ∈ s with i ≤ k, w i := by
  unfold cost excess
  rw [Finset.sum_filter, Finset.sum_filter, Finset.mul_sum, Finset.mul_sum, ← Finset.sum_add_distrib,
    ← Finset.sum_add_distrib]
  apply Finset.sum_congr rfl
  intro i _
  unfold lowered
  by_cases hik : i ≤ k
  · simp only [if_pos hik]
    ring
  · simp only [if_neg hik]
    ring

/-- A parabola from the origin that is not negative on the way to `d` does not start downwards. -/
theorem nonneg_of_parabola {a b d : K} (hd : 0 < d) (h : ∀ e, 0 < e → e ≤ d → 0 ≤ 2 * e * a + e ^ 2 * b) :
    0 ≤ a := by
  by_contra ha
  have ha := not_le.mp ha
  have hden : 0 < |b| + 1 := by positivity
  set e := min d (-a / (|b| + 1)) with he
  have hpos : 0 < e := lt_min hd (div_pos (neg_pos.mpr ha) hden)
  have hsmall : e * (|b| + 1) ≤ -a := by
    rw [← le_div_iff₀ hden]
    exact min_le_right _ _
  have hb : e * b ≤ e * |b| := mul_le_mul_of_nonneg_left (le_abs_self b) hpos.le
  have hneg : e * (2 * a + e * b) < 0 := by
    apply mul_neg_of_pos_of_neg hpos
    linarith
  have hge := h e hpos (min_le_left _ _)
  have hsame : 2 * e * a + e ^ 2 * b = e * (2 * a + e * b) := by ring
  linarith

theorem IsFit.balanced (h : IsFit s w r f) : Balanced s w r f := by
  have hstep {k : ι} {e : K} (hgap : ∀ i ∈ s, i ≤ k → ∀ j ∈ s, k < j → f i - e ≤ f j) :
      0 ≤ 2 * e * excess s w r f k + e ^ 2 * ∑ i ∈ s with i ≤ k, w i := by
    have hle := h.least _ (lowered_mono h.mono hgap)
    rw [cost_lowered] at hle
    linarith
  have hnonneg : ∀ k ∈ s, 0 ≤ excess s w r f k := by
    intro k _
    apply nonneg_of_parabola (b := ∑ i ∈ s with i ≤ k, w i) one_pos
    intro e hpos _
    apply hstep
    intro i hi hik j hj hkj
    have := h.mono hi hj (hik.trans hkj.le)
    linarith
  refine ⟨h.mono, hnonneg, ?_⟩
  intro k hk hrise
  -- raised by no more than the least gap behind the place, it still never decreases
  obtain ⟨d, hd, hgap⟩ : ∃ d : K, 0 < d ∧ ∀ j ∈ s, k < j → d ≤ f j - f k := by
    rcases (s.filter (k < ·)).eq_empty_or_nonempty with hempty | hne
    · refine ⟨1, one_pos, ?_⟩
      intro j hj hkj
      have := Finset.mem_filter.mpr ⟨hj, hkj⟩
      rw [hempty] at this
      cases this
    · obtain ⟨m, hm, hmin⟩ := Finset.exists_min_image _ f hne
      obtain ⟨hms, hkm⟩ := Finset.mem_filter.mp hm
      refine ⟨f m - f k, sub_pos.mpr (hrise m hms hkm), ?_⟩
      intro j hj hkj
      exact sub_le_sub_right (hmin j (Finset.mem_filter.mpr ⟨hj, hkj⟩)) _
  have hle : 0 ≤ -excess s w r f k := by
    apply nonneg_of_parabola (b := ∑ i ∈ s with i ≤ k, w i) hd
    intro e hpos hed
    have := hstep (k := k) (e := -e) (by
      intro i hi hik j hj hkj
      have h1 := h.mono hi hk hik
      have h2 := hgap j hj hkj
      linarith)
    have hsame : 2 * e * -excess s w r f k + e ^ 2 * ∑ i ∈ s with i ≤ k, w i =
        2 * -e * excess s w r f k + (-e) ^ 2 * ∑ i ∈ s with i ≤ k, w i := by ring
    rwa [hsame]
  have := hnonneg k hk
  linarith

/-! ## A balanced function is the fit -/

/-- Where all sums from the start on are nonnegative, the sum weighed by what never decreases is at most
the whole at the top. -/
theorem sum_mul_le {d : ι → K} (hd : ∀ k ∈ s, 0 ≤ ∑ i ∈ s with i ≤ k, d i) (hg : MonotoneOn g s) {c : K}
    (hc : ∀ i ∈ s, g i ≤ c) : ∑ i ∈ s, d i * g i ≤ (∑ i ∈ s, d i) * c := by
  induction s using Finset.induction_on_max generalizing c with
  | empty => simp
  | insert a s ha ih =>
    have hnot : a ∉ s := fun h => lt_irrefl a (ha a h)
    have hall : (insert a s).filter (· ≤ a) = insert a s := by
      apply Finset.filter_true_of_mem
      intro i hi
      rcases Finset.mem_insert.mp hi with rfl | hi
      · exact le_rfl
      · exact (ha i hi).le
    have hwhole := hd a (Finset.mem_insert_self a s)
    rw [hall, Finset.sum_insert hnot] at hwhole
    have hprev : ∀ k ∈ s, 0 ≤ ∑ i ∈ s with i ≤ k, d i := by
      intro k hk
      have hk' := hd k (Finset.mem_insert_of_mem hk)
      rwa [Finset.filter_insert, if_neg (not_le.mpr (ha k hk))] at hk'
    have hsub : MonotoneOn g s := MonotoneOn.mono hg (Finset.coe_subset.mpr (Finset.subset_insert a s))
    have hrest := ih hprev hsub
      (fun i hi => hg (Finset.mem_insert_of_mem hi) (Finset.mem_insert_self a s) (ha i hi).le)
    have htop := mul_le_mul_of_nonneg_left (hc a (Finset.mem_insert_self a s)) hwhole
    rw [Finset.sum_insert hnot, Finset.sum_insert hnot]
    linarith

omit [IsStrictOrderedRing K] in
/-- Up to a place behind which it only rises nothing is left over. -/
theorem Balanced.sum_lower (h : Balanced s w r f) {p : ι → Prop} [DecidablePred p]
    (hp : ∀ i ∈ s, ∀ j ∈ s, p i → ¬ p j → f i < f j) : ∑ i ∈ s with p i, w i * (r i - f i) = 0 := by
  rcases (s.filter p).eq_empty_or_nonempty with hempty | hne
  · rw [hempty, Finset.sum_empty]
  · obtain ⟨k, hk, hmax⟩ := Finset.exists_max_image _ id hne
    obtain ⟨hks, hpk⟩ := Finset.mem_filter.mp hk
    have hsame : s.filter p = s.filter (· ≤ k) := by
      apply Finset.filter_congr
      intro i hi
      constructor
      · exact fun hpi => hmax i (Finset.mem_filter.mpr ⟨hi, hpi⟩)
      · intro hik
        by_contra hpi
        exact absurd (hp k hks i hi hpk hpi) (not_lt.mpr (h.mono hi hks hik))
    rw [hsame]
    apply h.rise k hks
    intro j hj hkj
    apply hp k hks j hj hpk
    exact fun hpj => absurd (hmax j (Finset.mem_filter.mpr ⟨hj, hpj⟩)) (not_le.mpr hkj)

/-- On each level the target averages to the function. -/
theorem Balanced.sum_mul_self (h : Balanced s w r f) : ∑ i ∈ s, w i * (r i - f i) * f i = 0 := by
  rw [← Finset.sum_fiberwise_of_maps_to (fun i hi => Finset.mem_image_of_mem f hi)]
  apply Finset.sum_eq_zero
  intro v _
  have hle := h.sum_lower (p := fun i => f i ≤ v)
    (fun i _ j _ hi hj => hi.trans_lt (not_le.mp hj))
  have hlt := h.sum_lower (p := fun i => f i < v)
    (fun i _ j _ hi hj => hi.trans_le (not_lt.mp hj))
  have hsplit : ∑ i ∈ s with f i ≤ v, w i * (r i - f i) =
      ∑ i ∈ s with f i < v, w i * (r i - f i) + ∑ i ∈ s with f i = v, w i * (r i - f i) := by
    rw [← Finset.sum_union]
    · apply Finset.sum_congr _ fun _ _ => rfl
      ext i
      simp only [Finset.mem_filter, Finset.mem_union, le_iff_lt_or_eq]
      tauto
    · rw [Finset.disjoint_left]
      intro i hi hi'
      exact (Finset.mem_filter.mp hi).2.ne (Finset.mem_filter.mp hi').2
  have hlevel : ∑ i ∈ s with f i = v, w i * (r i - f i) * f i =
      (∑ i ∈ s with f i = v, w i * (r i - f i)) * v := by
    rw [Finset.sum_mul]
    apply Finset.sum_congr rfl
    intro i hi
    rw [(Finset.mem_filter.mp hi).2]
  rw [hlevel, show ∑ i ∈ s with f i = v, w i * (r i - f i) = 0 by linarith, zero_mul]

/-- Any other function is farther from the target by its distance to the balanced one. -/
theorem Balanced.growth (h : Balanced s w r f) (hg : MonotoneOn g s) :
    cost s w r f + ∑ i ∈ s, w i * (f i - g i) ^ 2 ≤ cost s w r g := by
  have hcross : ∑ i ∈ s, w i * (r i - f i) * g i ≤ 0 := by
    rcases s.eq_empty_or_nonempty with rfl | hne
    · simp
    · have hmax : s.filter (· ≤ s.max' hne) = s :=
        Finset.filter_true_of_mem fun i hi => s.le_max' i hi
      have hlast : excess s w r f (s.max' hne) = 0 := by
        apply h.rise _ (s.max'_mem hne)
        intro j hj hlt
        exact absurd (s.le_max' j hj) (not_le.mpr hlt)
      unfold excess at hlast
      rw [hmax] at hlast
      have := sum_mul_le (d := fun i => w i * (r i - f i)) h.nonneg hg
        (fun i hi => hg hi (s.max'_mem hne) (s.le_max' i hi))
      rwa [hlast, zero_mul] at this
  have hself := h.sum_mul_self
  have hexpand : cost s w r g = cost s w r f + ∑ i ∈ s, w i * (f i - g i) ^ 2 +
      2 * (∑ i ∈ s, w i * (r i - f i) * f i - ∑ i ∈ s, w i * (r i - f i) * g i) := by
    unfold cost
    rw [← Finset.sum_sub_distrib, Finset.mul_sum, ← Finset.sum_add_distrib, ← Finset.sum_add_distrib]
    apply Finset.sum_congr rfl
    intro i _
    ring
  linarith

theorem Balanced.isFit (hw : ∀ i ∈ s, 0 ≤ w i) (h : Balanced s w r f) : IsFit s w r f := by
  refine ⟨h.mono, ?_⟩
  intro g hg
  have hdist : 0 ≤ ∑ i ∈ s, w i * (f i - g i) ^ 2 :=
    Finset.sum_nonneg fun i hi => mul_nonneg (hw i hi) (sq_nonneg _)
  have := h.growth hg
  linarith

/-- **There is one fit.** -/
theorem IsFit.eqOn (hw : ∀ i ∈ s, 0 < w i) (hf : IsFit s w r f) (hg : IsFit s w r g) :
    ∀ i ∈ s, f i = g i := by
  have hdist : ∑ i ∈ s, w i * (f i - g i) ^ 2 ≤ 0 := by
    have := hf.balanced.growth hg.mono
    have := hg.least f hf.mono
    linarith
  have hzero := (Finset.sum_eq_zero_iff_of_nonneg
    (fun i hi => mul_nonneg (hw i hi).le (sq_nonneg (f i - g i)))).mp
    (le_antisymm hdist (Finset.sum_nonneg fun i hi => mul_nonneg (hw i hi).le (sq_nonneg _)))
  intro i hi
  have hsq := (mul_eq_zero.mp (hzero i hi)).resolve_left (hw i hi).ne'
  exact sub_eq_zero.mp (pow_eq_zero_iff two_ne_zero |>.mp hsq)

end

/-! ## Runs of one level -/

section
variable {K : Type*} [Field K]

/-- The mean of a block. -/
def mean (b : List K) : K := b.sum / b.length

/-- Every value replaced by the mean of its run. -/
def levels (bs : List (List K)) : List K := bs.flatMap fun b => List.replicate b.length (mean b)

@[simp] theorem levels_cons (b : List K) (bs : List (List K)) :
    levels (b :: bs) = List.replicate b.length (mean b) ++ levels bs := rfl

theorem length_levels (bs : List (List K)) : (levels bs).length = bs.flatten.length := by
  induction bs with
  | nil => rfl
  | cons b bs ih => rw [levels_cons, List.length_append, List.length_replicate, List.flatten_cons,
      List.length_append, ih]

variable [LinearOrder K] {b b' : List K} {bs : List (List K)}

/-- No part of the run from its start on averages less than the whole. -/
structure Level (b : List K) : Prop where
  ne_nil : b ≠ []
  take : ∀ n ≤ b.length, n * mean b ≤ (b.take n).sum

variable [IsStrictOrderedRing K]

theorem length_mul_mean (hb : b ≠ []) : b.length * mean b = b.sum := by
  have hne : (b.length : K) ≠ 0 := Nat.cast_ne_zero.mpr fun h => hb (List.length_eq_zero_iff.mp h)
  unfold mean
  field_simp

omit [IsStrictOrderedRing K] in
theorem level_singleton (v : K) : Level [v] := by
  refine ⟨List.cons_ne_nil v [], ?_⟩
  intro n hn
  rw [List.length_singleton] at hn
  have hmean : mean [v] = v := by simp [mean]
  rw [hmean]
  interval_cases n
  · simp
  · simp

/-- The mean of two runs together lies between theirs. -/
theorem mean_append (hb : b ≠ []) (hb' : b' ≠ []) (hle : mean b' ≤ mean b) :
    mean b' ≤ mean (b ++ b') ∧ mean (b ++ b') ≤ mean b := by
  have hpos : (0 : K) < (b ++ b').length :=
    Nat.cast_pos.mpr (List.length_pos_of_ne_nil (List.append_ne_nil_of_left_ne_nil hb b'))
  have hsum := length_mul_mean hb
  have hsum' := length_mul_mean hb'
  unfold mean at hle ⊢
  rw [le_div_iff₀ hpos, div_le_iff₀ hpos, List.sum_append, List.length_append, Nat.cast_add]
  unfold mean at hsum hsum'
  have h1 := mul_le_mul_of_nonneg_left hle (Nat.cast_nonneg (α := K) b.length)
  have h2 := mul_le_mul_of_nonneg_left hle (Nat.cast_nonneg (α := K) b'.length)
  constructor <;> nlinarith

/-- **Joining two runs in the wrong order.** -/
theorem Level.append (h : Level b) (h' : Level b') (hle : mean b' ≤ mean b) : Level (b ++ b') := by
  have hne := List.append_ne_nil_of_left_ne_nil h.ne_nil b'
  obtain ⟨hlow, hhigh⟩ := mean_append h.ne_nil h'.ne_nil hle
  have htotal := length_mul_mean hne
  rw [List.sum_append, ← length_mul_mean h.ne_nil, ← length_mul_mean h'.ne_nil, List.length_append,
    Nat.cast_add] at htotal
  refine ⟨hne, ?_⟩
  intro n hn
  rw [List.length_append] at hn
  rw [List.take_append]
  by_cases hnb : n ≤ b.length
  · rw [Nat.sub_eq_zero_of_le hnb, List.take_zero, List.append_nil]
    exact (mul_le_mul_of_nonneg_left hhigh n.cast_nonneg).trans (h.take n hnb)
  · have hnb := (not_le.mp hnb).le
    obtain ⟨m, rfl⟩ := Nat.exists_eq_add_of_le hnb
    rw [Nat.add_sub_cancel_left, List.take_of_length_le hnb, List.sum_append,
      ← length_mul_mean h.ne_nil, Nat.cast_add]
    have hm : m ≤ b'.length := by omega
    have hpart := h'.take m hm
    have hrest := mul_le_mul_of_nonneg_right (Nat.cast_le (α := K).mpr hm) (sub_nonneg.mpr hlow)
    linarith

/-- A mean lies between bounds of the values. -/
theorem Level.mean_mem {lo hi : K} (h : Level b) (hb : ∀ v ∈ b, lo ≤ v ∧ v ≤ hi) :
    lo ≤ mean b ∧ mean b ≤ hi := by
  have hpos : (0 : K) < b.length := Nat.cast_pos.mpr (List.length_pos_of_ne_nil h.ne_nil)
  unfold mean
  rw [le_div_iff₀ hpos, div_le_iff₀ hpos, mul_comm, mul_comm hi, ← nsmul_eq_mul, ← nsmul_eq_mul]
  exact ⟨List.card_nsmul_le_sum b lo fun v hv => (hb v hv).1,
    List.sum_le_card_nsmul b hi fun v hv => (hb v hv).2⟩

theorem levels_mem {lo hi : K} (hbs : ∀ b ∈ bs, Level b) (hb : ∀ v ∈ bs.flatten, lo ≤ v ∧ v ≤ hi) :
    ∀ v ∈ levels bs, lo ≤ v ∧ v ≤ hi := by
  intro v hv
  obtain ⟨b, hmem, hv⟩ := List.mem_flatMap.mp hv
  rw [List.eq_of_mem_replicate hv]
  exact (hbs b hmem).mean_mem fun v' hv' => hb v' (List.mem_flatten.mpr ⟨b, hmem, hv'⟩)

omit [IsStrictOrderedRing K] in
theorem levels_sorted (hbs : bs.Pairwise fun b b' => mean b ≤ mean b') : (levels bs).Pairwise (· ≤ ·) := by
  induction bs with
  | nil => exact List.Pairwise.nil
  | cons b bs ih =>
    obtain ⟨hfirst, hrest⟩ := List.pairwise_cons.mp hbs
    rw [levels_cons, List.pairwise_append]
    refine ⟨List.pairwise_replicate.mpr (Or.inr le_rfl), ih hrest, ?_⟩
    intro v hv v' hv'
    obtain ⟨b', hb', hmem⟩ := List.mem_flatMap.mp hv'
    rw [List.eq_of_mem_replicate hv, List.eq_of_mem_replicate hmem]
    exact hfirst b' hb'

/-- Up to any place the levels sum to no more than the values. -/
theorem take_levels_le (hbs : ∀ b ∈ bs, Level b) (n : ℕ) :
    ((levels bs).take n).sum ≤ (bs.flatten.take n).sum := by
  induction bs generalizing n with
  | nil => exact le_rfl
  | cons b bs ih =>
    have hb := hbs b List.mem_cons_self
    rw [levels_cons, List.flatten_cons, List.take_append, List.take_append, List.length_replicate,
      List.sum_append, List.sum_append]
    refine add_le_add ?_ (ih (fun b' hb' => hbs b' (List.mem_cons_of_mem b hb')) _)
    rw [List.take_replicate, List.sum_replicate, nsmul_eq_mul]
    have htake := hb.take (min n b.length) (min_le_right _ _)
    rwa [← List.take_eq_take_min] at htake

/-- Where the levels rise, and at the end, they sum to as much. -/
theorem take_levels_eq (hbs : ∀ b ∈ bs, Level b) {k : ℕ} (hk : k < bs.flatten.length)
    (hrise : k + 1 < bs.flatten.length → (levels bs).getD k 0 < (levels bs).getD (k + 1) 0) :
    ((levels bs).take (k + 1)).sum = (bs.flatten.take (k + 1)).sum := by
  induction bs generalizing k with
  | nil => rfl
  | cons b bs ih =>
    have hb := hbs b List.mem_cons_self
    rw [List.flatten_cons, List.length_append] at hk hrise
    rw [levels_cons] at hrise ⊢
    rw [List.flatten_cons, List.take_append, List.take_append, List.length_replicate, List.sum_append,
      List.sum_append]
    rcases lt_trichotomy (k + 1) b.length with hlt | heq | hgt
    · -- no rise inside a run
      have := hrise (by omega)
      rw [List.getD_append _ _ _ _ (by rw [List.length_replicate]; omega),
        List.getD_append _ _ _ _ (by rw [List.length_replicate]; omega),
        List.getD_replicate _ (by omega), List.getD_replicate _ hlt] at this
      exact absurd this (lt_irrefl _)
    · rw [heq, Nat.sub_self, List.take_zero, List.take_zero, List.take_replicate, min_self,
        List.take_length, List.sum_replicate, nsmul_eq_mul, length_mul_mean hb.ne_nil]
    · obtain ⟨m, rfl⟩ := Nat.exists_eq_add_of_le (Nat.le_of_lt_succ hgt)
      have hsub : b.length + m + 1 - b.length = m + 1 := by omega
      have hrest := ih (fun b' hb' => hbs b' (List.mem_cons_of_mem b hb')) (k := m) (by omega) (by
        intro hm
        have := hrise (by omega)
        rwa [List.getD_append_right _ _ _ _ (by rw [List.length_replicate]; omega),
          List.getD_append_right _ _ _ _ (by rw [List.length_replicate]; omega),
          List.length_replicate, hsub, Nat.add_sub_cancel_left] at this)
      rw [hsub, hrest, List.take_of_length_le (by rw [List.length_replicate]; omega),
        List.take_of_length_le (show b.length ≤ b.length + m + 1 by omega), List.sum_replicate,
        nsmul_eq_mul, length_mul_mean hb.ne_nil]

omit [LinearOrder K] [IsStrictOrderedRing K] in
theorem sum_range_getD (l : List K) (n : ℕ) : ∑ i ∈ range n, l.getD i 0 = (l.take n).sum := by
  induction n generalizing l with
  | zero => simp
  | succ n ih =>
    cases l with
    | nil => simp
    | cons v l =>
      rw [Finset.sum_range_succ', List.take_succ_cons, List.sum_cons, ← ih l, add_comm]
      rfl

/-- **The levels of runs are the fit**, where they never decrease. -/
theorem Balanced.of_levels (hbs : ∀ b ∈ bs, Level b)
    (hsorted : bs.Pairwise fun b b' => mean b ≤ mean b') :
    Balanced (range bs.flatten.length) (fun _ => 1) (fun i => bs.flatten.getD i 0)
      (fun i => (levels bs).getD i 0) := by
  have hlen := length_levels bs
  have hexcess {k : ℕ} (hk : k ∈ range bs.flatten.length) :
      excess (range bs.flatten.length) (fun _ => 1) (fun i => bs.flatten.getD i 0)
          (fun i => (levels bs).getD i 0) k =
        (bs.flatten.take (k + 1)).sum - ((levels bs).take (k + 1)).sum := by
    have hsame : (range bs.flatten.length).filter (· ≤ k) = range (k + 1) := by
      ext i
      have := Finset.mem_range.mp hk
      simp only [Finset.mem_filter, Finset.mem_range]
      omega
    unfold excess
    rw [hsame, ← sum_range_getD, ← sum_range_getD, ← Finset.sum_sub_distrib]
    exact Finset.sum_congr rfl fun i _ => one_mul _
  refine ⟨?_, ?_, ?_⟩
  · intro i hi j hj hij
    rw [Finset.mem_coe, Finset.mem_range, ← hlen] at hi hj
    rcases hij.eq_or_lt with rfl | hlt
    · exact le_rfl
    · have := List.pairwise_iff_getElem.mp (levels_sorted hsorted) i j hi hj hlt
      rwa [← List.getD_eq_getElem _ 0 hi, ← List.getD_eq_getElem _ 0 hj] at this
  · intro k hk
    rw [hexcess hk]
    exact sub_nonneg.mpr (take_levels_le hbs (k + 1))
  · intro k hk hrise
    rw [hexcess hk, take_levels_eq hbs (Finset.mem_range.mp hk), sub_self]
    exact fun hlt => hrise (k + 1) (Finset.mem_range.mpr hlt) (Nat.lt_succ_self k)

end

end Lib.Isotonic
