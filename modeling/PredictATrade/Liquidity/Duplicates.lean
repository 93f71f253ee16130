import Mathlib.Algebra.Order.Group.Unbundled.Abs
import PredictATrade.Liquidity.Lifecycle

/-!
# `Liquidity.Duplicates` — two open marks of a symbol are far apart

`detect` makes no mark while a young one of the same symbol and timeframe is open: an open mark whose
age is between zero and `ReclaimMaxBars` intervals turns it away. So a new mark is more than that
younger than every open one, and as marks keep their `DetectedAt` and never reopen, all open marks of
a symbol and a timeframe stay that far apart.

The guard computes `time.Duration(ReclaimMaxBars) * interval` in 64 bits. A product that does not fit
wraps around, to a negative number for one, and then the guard turns nothing away.
-/

namespace PredictATrade.Liquidity

open FloatLike (num)
open Lib (Number)
open Lib.Runs

/-- `ReclaimMaxBars` intervals, as a number. -/
def Config.span {F : Type} (cfg : Config F) (tf : String) : ℤ := cfg.reclaimMaxBars * interval tf

/-- Does the product of the guard fit into a duration? -/
def Config.Fits {F : Type} (cfg : Config F) (tf : String) : Prop := cfg.span tf < 2 ^ 63

/-- `ProcessCandle` gets the candles of a symbol and timeframe in the order of their times. -/
def InOrder {F : Type} (i j : Input F) : Prop :=
  i.candle.symbol = j.candle.symbol → i.candle.timeframe = j.candle.timeframe →
    i.candle.time ≤ j.candle.time

/-- Open marks of a symbol and timeframe are more than `ReclaimMaxBars` intervals apart. -/
def Apart {F : Type} (e : Engine F) : Prop :=
  ∀ m ∈ e.marks, ∀ m' ∈ e.marks, m.id ≠ m'.id → m.symbol = m'.symbol → m.timeframe = m'.timeframe →
    isTerminal m.state = false → isTerminal m'.state = false →
      e.cfg.span m.timeframe < |m.detectedAt - m'.detectedAt|

instance {F : Type} (cfg : Config F) (tf : String) : Decidable (cfg.Fits tf) :=
  inferInstanceAs (Decidable (_ < _))

instance {F : Type} (i j : Input F) : Decidable (InOrder i j) :=
  inferInstanceAs (Decidable (_ → _ → _))

instance {F : Type} (e : Engine F) : Decidable (Apart e) :=
  inferInstanceAs (Decidable (∀ m ∈ e.marks, ∀ m' ∈ e.marks, _ → _ → _ → _ → _ → _))

/-! ## The guard -/

/-- A product that fits is computed as it is. -/
theorem wrap64_of_lt {x : ℤ} (h0 : 0 ≤ x) (h : x < 2 ^ 63) : wrap64 x = x := by
  unfold wrap64
  rw [Int.bmod_eq_of_le (by omega) (by omega)]

/-- A difference of times that is not negative may only be cut off at the top. -/
theorem sub_bounds {t u : Time} (h : u ≤ t) : 0 ≤ sub t u ∧ sub t u ≤ t - u := by
  have hnonneg : (0 : ℤ) ≤ t - u := Int.sub_nonneg.mpr h
  constructor
  · exact le_max_of_le_right (le_min (by decide) hnonneg)
  · exact max_le (le_trans (by decide) hnonneg) (min_le_right _ _)

section
variable {F : Type} {cfg : Config F} {m : DevilMark F} {advanced : Bool} {a : Advancing F}

theorem Lives.symbol_eq (h : Lives cfg m advanced a) : a.mark.symbol = m.symbol :=
  congrArg (fun k => k.2.1) h.key

theorem Lives.timeframe_eq (h : Lives cfg m advanced a) : a.mark.timeframe = m.timeframe :=
  congrArg (fun k => k.2.2.1) h.key

theorem Lives.detectedAt_eq (h : Lives cfg m advanced a) : a.mark.detectedAt = m.detectedAt :=
  congrArg (fun k => k.2.2.2.1) h.key

end

variable {F : Type} [FloatLike F]

section
variable {e e' : Engine F} {i : Input F} {f : DevilMark F → Advancing F}
  {born : Option (DevilMark F × DevilEvent F)}

/-- What an open mark that does not turn the candle away says about its age. -/
theorem span_lt_of_unguarded {cfg : Config F} {m : DevilMark F} {c : Candle F} {b : Bar F}
    (h : m.guards cfg c b = false) (hsym : m.symbol = c.symbol) (htf : m.timeframe = c.timeframe)
    (hopen : isTerminal m.state = false) (hpast : m.detectedAt ≤ c.time)
    (hfits : cfg.Fits c.timeframe) : cfg.span c.timeframe < c.time - m.detectedAt := by
  have hfor : m.isFor c = true := by
    unfold DevilMark.isFor
    rw [hsym, htf, beq_self_eq_true, beq_self_eq_true, Bool.and_true]
  unfold DevilMark.guards at h
  rw [hfor, hopen, Bool.not_true, Bool.or_false, if_neg Bool.false_ne_true] at h
  dsimp only at h
  split at h
  · cases h
  · -- the age is not negative, and so it is too large for the guard
    rw [decide_eq_false_iff_not] at h
    obtain ⟨hage, hle⟩ := sub_bounds hpast
    refine lt_of_lt_of_le ?_ hle
    by_cases hneg : cfg.span c.timeframe < 0
    · exact lt_of_lt_of_le hneg hage
    · -- the product fits, so the guard compares with the span itself
      have htimes : times cfg.reclaimMaxBars (interval c.timeframe) = cfg.span c.timeframe :=
        wrap64_of_lt (not_lt.mp hneg) hfits
      rw [htimes] at h
      exact not_le.mp fun hyoung => h ⟨hage, hyoung⟩

/-! ## One candle -/

/-- A mark that is open after the candle was open before it. -/
theorem Processed.open_before (hp : Processed e i f born e') {m : DevilMark F} (hm : m ∈ e.marks)
    (h : isTerminal (f m).mark.state = false) : isTerminal m.state = false := by
  cases hadv : e.advances i m with
  | true => exact advances_open hadv
  | false =>
      have hl := hp.lives m hm
      rw [hadv] at hl
      rwa [hl.still rfl] at h

/-- A new mark is far from every open one. -/
theorem Processed.born_apart (hp : Processed e i f born e') {x : DevilMark F × DevilEvent F}
    (hx : x ∈ born) {m : DevilMark F} (hm : m ∈ e.marks) (hsym : m.symbol = x.1.symbol)
    (htf : m.timeframe = x.1.timeframe) (hopen : isTerminal m.state = false)
    (hpast : m.symbol = i.candle.symbol → m.timeframe = i.candle.timeframe →
      m.detectedAt ≤ i.candle.time)
    (hfits : e.cfg.Fits i.candle.timeframe) :
    e.cfg.span m.timeframe < |m.detectedAt - x.1.detectedAt| := by
  have hnew := hp.newborn x hx
  rw [hnew.symbol] at hsym
  rw [hnew.timeframe] at htf
  have hlt := span_lt_of_unguarded (hnew.unguarded m hm) hsym htf hopen (hpast hsym htf) hfits
  rw [hnew.detectedAt, abs_sub_comm, htf]
  exact lt_of_lt_of_le hlt (le_abs_self _)

/-- **One candle.** It keeps the open marks apart when it does not come before any of them. -/
theorem Processed.apart (hp : Processed e i f born e') (h : Apart e)
    (hpast : ∀ m ∈ e.marks, m.symbol = i.candle.symbol → m.timeframe = i.candle.timeframe →
      m.detectedAt ≤ i.candle.time)
    (hfits : e.cfg.Fits i.candle.timeframe) : Apart e' := by
  intro m₁ h₁ m₂ h₂ hid hsym htf hopen₁ hopen₂
  rw [hp.cfg]
  rcases hp.mem.mp h₁ with ⟨a, ha, rfl⟩ | ⟨ev₁, hb₁⟩ <;>
    rcases hp.mem.mp h₂ with ⟨b, hb, rfl⟩ | ⟨ev₂, hb₂⟩
  · -- two marks that were there are as far apart as they were
    have hla := hp.lives a ha
    have hlb := hp.lives b hb
    rw [hla.id_eq, hlb.id_eq] at hid
    rw [hla.symbol_eq, hlb.symbol_eq] at hsym
    rw [hla.timeframe_eq, hlb.timeframe_eq] at htf
    rw [hla.timeframe_eq, hla.detectedAt_eq, hlb.detectedAt_eq]
    exact h a ha b hb hid hsym htf (hp.open_before ha hopen₁) (hp.open_before hb hopen₂)
  · have hla := hp.lives a ha
    rw [hla.symbol_eq] at hsym
    rw [hla.timeframe_eq] at htf
    rw [hla.timeframe_eq, hla.detectedAt_eq]
    exact hp.born_apart hb₂ ha hsym htf (hp.open_before ha hopen₁) (hpast a ha) hfits
  · have hlb := hp.lives b hb
    rw [hlb.symbol_eq] at hsym
    rw [hlb.timeframe_eq] at htf
    rw [hlb.detectedAt_eq, abs_sub_comm, htf]
    exact hp.born_apart hb₁ hb hsym.symm htf.symm (hp.open_before hb hopen₂) (hpast b hb) hfits
  · -- a candle makes one mark at most
    rw [Option.mem_def] at hb₁ hb₂
    rw [hb₁, Option.some.injEq, Prod.mk.injEq] at hb₂
    rw [hb₂.1] at hid
    exact absurd rfl hid

end

/-! ## Runs -/

/-- Each mark dates from a candle of its symbol and timeframe. -/
theorem dated (cfg : Config F) (is : List (Input F)) :
    ∀ m ∈ (after cfg is).marks, ∃ j ∈ is, m.symbol = j.candle.symbol ∧
      m.timeframe = j.candle.timeframe ∧ m.detectedAt = j.candle.time := by
  induction is using List.reverseRecOn with
  | nil =>
      intro m hm
      cases hm
  | append_singleton is i ih =>
      intro m' hm'
      obtain ⟨f, born, hp⟩ := processCandle_processed (after cfg is) i (inv_run cfg is)
      rw [after_append] at hm'
      rcases hp.mem.mp hm' with ⟨m, hm, rfl⟩ | ⟨ev, hb⟩
      · obtain ⟨j, hj, hsym, htf, hat⟩ := ih m hm
        have hl := hp.lives m hm
        rw [hl.symbol_eq, hl.timeframe_eq, hl.detectedAt_eq]
        exact ⟨j, List.mem_append_left _ hj, hsym, htf, hat⟩
      · have hnew := hp.newborn _ hb
        exact ⟨i, by simp, hnew.symbol, hnew.timeframe, hnew.detectedAt⟩

/-- The run lemma. -/
theorem apart_after (cfg : Config F) {is : List (Input F)} (horder : is.Pairwise InOrder)
    (hfits : ∀ i ∈ is, (newEngine cfg).cfg.Fits i.candle.timeframe) : Apart (after cfg is) := by
  induction is using List.reverseRecOn with
  | nil =>
      intro m hm
      cases hm
  | append_singleton is i ih =>
      obtain ⟨f, born, hp⟩ := processCandle_processed (after cfg is) i (inv_run cfg is)
      obtain ⟨horder', -, hlast⟩ := List.pairwise_append.mp horder
      rw [after_append]
      refine hp.apart (ih horder' ?_) ?_ ?_
      · intro j hj
        exact hfits j (List.mem_append_left _ hj)
      · intro m hm hsym htf
        -- the mark is as old as a candle of the run, which came before this one
        obtain ⟨j, hj, hjsym, hjtf, hat⟩ := dated cfg is m hm
        rw [hat]
        exact hlast j hj i List.mem_cons_self (hjsym.symm.trans hsym) (hjtf.symm.trans htf)
      · rw [after_cfg]
        exact hfits i (by simp)

/-- **No duplicates.** Over every run of `ProcessCandle` whose candles are in order, as long as the
product of the guard fits. -/
theorem apart_throughout (cfg : Config F) (is : List (Input F)) (horder : is.Pairwise InOrder)
    (hfits : ∀ i ∈ is, (newEngine cfg).cfg.Fits i.candle.timeframe) :
    Throughout processCandle Apart (newEngine cfg) is := by
  intro pre hpre
  refine apart_after cfg (horder.sublist hpre.sublist) fun i hi => ?_
  exact hfits i (hpre.subset hi)

/-- A candle of the five-minute chart, `t` minutes after the start. -/
def m5 (t : ℤ) (o h l c : ℚ) : Input Number where
  candle := ⟨"XAUUSD", "M5", t * minute, o, h, l, c, 100, num (1 / 10)⟩
  visit := .listed
  now := t * minute

/-- Two displacements, one right after the other. -/
def displacements : List (Input Number) :=
  [m5 0 1000 1006 999 1005, m5 5 1005 1045 1005 1044, m5 10 1044 1144 1044 1143]

/-- Two displacements that are apart. -/
theorem apart_displacements :
    Throughout processCandle Apart (newEngine (defaultConfig : Config Number)) displacements :=
  apart_throughout _ _ (by decide) (by decide +kernel)

/-- With `ReclaimMaxBars` at 30744574 the product is below zero, and both displacements make a mark. -/
theorem overflow_duplicates :
    displacements.Pairwise InOrder ∧
      ¬ Apart (run processCandle
        (newEngine { (defaultConfig : Config Number) with reclaimMaxBars := 30744574 }) displacements) := by
  decide +kernel

end PredictATrade.Liquidity
