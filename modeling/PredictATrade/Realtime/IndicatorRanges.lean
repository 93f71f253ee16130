import PredictATrade.Realtime.IndicatorProcess

/-!
# `Realtime.IndicatorRanges` — the ranges of what the indicator engine reports

For candles with prices that are not negative: the relative strength, the average directional index and
the stochastic oscillator lie between 0 and 100, the directional indicators add up to at most 100, and the
Bollinger bands are in order. All of it holds after every run.

The average true range is that of the true ranges between bars that have prices, unless it is formed over
a bar that follows a gap: `fATRWilder` skips the bars without a high or a low, but not those behind them
(`indicator_ranges_iff`).

The ranges are those of exact arithmetic. In `float64` a value at the edge of its range can miss it by
its last place, as a stochastic main line of 100.00000000000001 does.
-/

namespace PredictATrade.Realtime.Indicators
open Lib.Smoothing Lib.Windows IndicatorState

/-! ## Relative strength -/

theorem fRSIWilder_mem (closes : List ℚ) (period : ℤ) :
    0 ≤ fRSIWilder closes period ∧ fRSIWilder closes period ≤ 100 := by
  unfold fRSIWilder
  split
  · norm_num
  · next hguard =>
    have hp : 0 < period.toNat := by omega
    have hgain : 0 ≤ wilder period.toNat ((changes closes).map gain) := by
      refine wilder_nonneg hp (List.forall_mem_map.mpr ?_)
      intro change _
      unfold gain
      split <;> linarith
    have hloss : 0 ≤ wilder period.toNat ((changes closes).map loss) := by
      refine wilder_nonneg hp (List.forall_mem_map.mpr ?_)
      intro change _
      unfold loss
      split <;> linarith
    generalize wilder period.toNat ((changes closes).map gain) = avgGain at hgain
    generalize wilder period.toNat ((changes closes).map loss) = avgLoss at hloss
    dsimp only
    split
    · norm_num
    · split
      · norm_num
      · have hrs : 0 ≤ avgGain / avgLoss := div_nonneg hgain hloss
        have hle : 100 / (1 + avgGain / avgLoss) ≤ 100 := by
          rw [div_le_iff₀ (by linarith)]
          linarith
        have hpos : 0 ≤ 100 / (1 + avgGain / avgLoss) := div_nonneg (by norm_num) (by linarith)
        constructor <;> linarith

/-! ## Directional movement -/

/-- The movement of a bar, or of an average of bars, within its true range. -/
structure Movement.Within (m : Movement) : Prop where
  plusDM_nonneg : 0 ≤ m.plusDM
  minusDM_nonneg : 0 ≤ m.minusDM
  sum_le : m.plusDM + m.minusDM ≤ m.tr

/-- A bar reaches no farther beyond the one before it than its true range, and to one side only. -/
theorem movement_within {pb b : Bar} (hpb : pb.Sound) : (movement pb b).Within := by
  obtain ⟨hplus, hminus, -⟩ := movement_nonneg pb b
  refine ⟨hplus, hminus, ?_⟩
  obtain ⟨-, hup, hdown⟩ := trueRange_ge b.high b.low pb.close
  have htr := trueRange_nonneg b.high b.low pb.close
  have hreach : b.high - pb.high ≤ trueRange b.high b.low pb.close := by
    have := le_abs_self (b.high - pb.close)
    linarith [hpb.close_le_high]
  have hdrop : pb.low - b.low ≤ trueRange b.high b.low pb.close := by
    have := neg_abs_le (b.low - pb.close)
    linarith [hpb.low_le_close]
  unfold movement
  split
  · norm_num
  · dsimp only
    split
    · next hplus =>
      rw [if_neg fun hminus => absurd hminus.1 (not_lt.mpr hplus.1.le), add_zero]
      exact hreach
    · rw [zero_add]
      split
      · exact hdrop
      · exact htr

variable {p : ℕ} {avg m : Movement} {ms : List Movement} {bs : List Bar}

theorem movements_within (h : ∀ b ∈ bs, b.Sound) : ∀ m ∈ movements bs, m.Within := by
  refine List.forall_mem_map.mpr ?_
  rintro ⟨pb, b⟩ hs
  exact movement_within (h pb (List.of_mem_zip hs).1)

theorem Movement.Within.next (hp : 0 < p) (havg : avg.Within) (hm : m.Within) : (avg.next p m).Within := by
  have hp1 : (1 : ℚ) ≤ p := by exact_mod_cast hp
  have hp0 : (0 : ℚ) < p := by exact_mod_cast hp
  refine ⟨smooth_nonneg hp1 havg.plusDM_nonneg hm.plusDM_nonneg,
    smooth_nonneg hp1 havg.minusDM_nonneg hm.minusDM_nonneg, ?_⟩
  show smooth (p : ℚ) avg.plusDM m.plusDM + smooth (p : ℚ) avg.minusDM m.minusDM ≤
    smooth (p : ℚ) avg.tr m.tr
  rw [smooth_add]
  have hmul := mul_le_mul_of_nonneg_right havg.sum_le (sub_nonneg.mpr hp1)
  have hsum := hm.sum_le
  exact div_le_div_of_nonneg_right (by linarith) hp0.le

theorem seed_within (hms : ∀ m ∈ ms, m.Within) : (Movement.seed p ms).Within := by
  have htake : ∀ m ∈ ms.take p, m.Within := fun m hm => hms m (List.mem_of_mem_take hm)
  have hp0 : (0 : ℚ) ≤ p := Nat.cast_nonneg p
  refine ⟨div_nonneg (List.sum_nonneg ?_) hp0, div_nonneg (List.sum_nonneg ?_) hp0, ?_⟩
  · exact List.forall_mem_map.mpr fun m hm => (htake m hm).plusDM_nonneg
  · exact List.forall_mem_map.mpr fun m hm => (htake m hm).minusDM_nonneg
  · show ((ms.take p).map (·.plusDM)).sum / (p : ℚ) + ((ms.take p).map (·.minusDM)).sum / (p : ℚ) ≤
      ((ms.take p).map (·.tr)).sum / (p : ℚ)
    rw [← add_div, ← List.sum_map_add]
    exact div_le_div_of_nonneg_right (List.sum_le_sum fun m hm => (htake m hm).sum_le) hp0

/-- Directional indicators that add up to no more than a hundred. -/
def DIRange (d : ℚ × ℚ) : Prop := 0 ≤ d.1 ∧ 0 ≤ d.2 ∧ d.1 + d.2 ≤ 100

theorem Movement.Within.di (h : avg.Within) : DIRange avg.di := by
  unfold Movement.di DIRange
  split
  · next htr =>
    refine ⟨div_nonneg (mul_nonneg (by norm_num) h.plusDM_nonneg) htr.le,
      div_nonneg (mul_nonneg (by norm_num) h.minusDM_nonneg) htr.le, ?_⟩
    rw [← add_div, ← mul_add, div_le_iff₀ htr]
    exact mul_le_mul_of_nonneg_left h.sum_le (by norm_num)
  · norm_num

theorem dis_range (hp : 0 < p) (havg : avg.Within) (hms : ∀ m ∈ ms, m.Within) :
    ∀ d ∈ dis p avg ms, DIRange d := by
  induction ms generalizing avg with
  | nil =>
    intro d hd
    cases hd
  | cons m ms ih =>
    have hnext := havg.next hp (hms m List.mem_cons_self)
    intro d hd
    rcases List.mem_cons.mp hd with rfl | hd
    · exact hnext.di
    · exact ih hnext (fun m' hm' => hms m' (List.mem_cons_of_mem m hm')) d hd

theorem adxVal_mem {d : ℚ × ℚ} (h : DIRange d) {v : ℚ} (hv : adxVal d = some v) : 0 ≤ v ∧ v ≤ 100 := by
  obtain ⟨pdi, mdi⟩ := d
  obtain ⟨hpdi, hmdi, -⟩ := h
  unfold adxVal at hv
  dsimp only at hv hpdi hmdi
  split at hv
  · next hsum =>
    obtain rfl := Option.some.inj hv
    have habs : |pdi - mdi| ≤ pdi + mdi := abs_le.mpr ⟨by linarith, by linarith⟩
    refine ⟨div_nonneg (mul_nonneg (by norm_num) (abs_nonneg _)) hsum.le, ?_⟩
    rw [div_le_iff₀ hsum]
    exact mul_le_mul_of_nonneg_left habs (by norm_num)
  · cases hv

theorem fADXWilder_mem {highs lows closes : List ℚ} (h : ∀ b ∈ bars highs lows closes, b.Sound)
    (period : ℤ) :
    (0 ≤ (fADXWilder highs lows closes period).1 ∧ (fADXWilder highs lows closes period).1 ≤ 100) ∧
      DIRange (fADXWilder highs lows closes period).2 := by
  have hzero : DIRange (0, 0) := ⟨le_rfl, le_rfl, by norm_num⟩
  unfold fADXWilder
  dsimp only
  split
  · exact ⟨⟨le_rfl, by norm_num⟩, hzero⟩
  · next hguard =>
    have hp : 0 < period.toNat := by omega
    have hms := movements_within h
    have hds := dis_range hp (seed_within (p := period.toNat) hms)
      fun m hm => hms m (List.mem_of_mem_drop (i := period.toNat) hm)
    generalize dis period.toNat (.seed period.toNat (movements (bars highs lows closes)))
      ((movements (bars highs lows closes)).drop period.toNat) = ds at hds
    have hlast : DIRange (ds.getLastD (0, 0)) := by
      rcases ds.eq_nil_or_concat' with rfl | ⟨init, d, rfl⟩
      · exact hzero
      · rw [List.getLastD_concat]
        exact hds d (List.mem_append_right init List.mem_cons_self)
    split
    · exact ⟨⟨le_rfl, by norm_num⟩, hlast⟩
    · next hvals =>
      refine ⟨seeded_mem ?_ (by omega) (min_le_left _ _) ?_, hlast⟩
      · exact_mod_cast hp
      · intro v hv
        obtain ⟨d, hd, hval⟩ := List.mem_filterMap.mp hv
        exact adxVal_mem (hds d hd) hval

/-! ## The stochastic oscillator -/

theorem foldl_max_ge (l : List ℚ) (m : ℚ) :
    m ≤ l.foldl (fun m v => if v > m then v else m) m ∧
      ∀ v ∈ l, v ≤ l.foldl (fun m v => if v > m then v else m) m := by
  induction l generalizing m with
  | nil => exact ⟨le_rfl, fun v hv => by cases hv⟩
  | cons x l ih =>
    obtain ⟨hm, hl⟩ := ih (if x > m then x else m)
    have hstep : m ≤ (if x > m then x else m) ∧ x ≤ (if x > m then x else m) := by grind
    refine ⟨hstep.1.trans hm, ?_⟩
    intro v hv
    rcases List.mem_cons.mp hv with rfl | hv
    · exact hstep.2.trans hm
    · exact hl v hv

theorem foldl_min_le (l : List ℚ) (m : ℚ) :
    l.foldl (fun m v => if v < m then v else m) m ≤ m ∧
      ∀ v ∈ l, l.foldl (fun m v => if v < m then v else m) m ≤ v := by
  induction l generalizing m with
  | nil => exact ⟨le_rfl, fun v hv => by cases hv⟩
  | cons x l ih =>
    obtain ⟨hm, hl⟩ := ih (if x < m then x else m)
    have hstep : (if x < m then x else m) ≤ m ∧ (if x < m then x else m) ≤ x := by grind
    refine ⟨hm.trans hstep.1, ?_⟩
    intro v hv
    rcases List.mem_cons.mp hv with rfl | hv
    · exact hm.trans hstep.2
    · exact hl v hv

theorem le_fMax {l : List ℚ} {v : ℚ} (hv : v ∈ l) : v ≤ fMax l := by
  cases l with
  | nil => cases hv
  | cons x l =>
    rcases List.mem_cons.mp hv with rfl | hv
    · exact (foldl_max_ge l v).1
    · exact (foldl_max_ge l x).2 v hv

theorem fMin_le {l : List ℚ} {v : ℚ} (hv : v ∈ l) : fMin l ≤ v := by
  cases l with
  | nil => cases hv
  | cons x l =>
    rcases List.mem_cons.mp hv with rfl | hv
    · exact (foldl_min_le l v).1
    · exact (foldl_min_le l x).2 v hv

/-- A close between a low and a high of the windows. -/
theorem stoch_mem {highs lows : List ℚ} {high low close : ℚ} (hhigh : high ∈ highs) (hlow : low ∈ lows)
    (hclose : low ≤ close ∧ close ≤ high) (hrange : fMax highs - fMin lows > 0) :
    0 ≤ 100 * (close - fMin lows) / (fMax highs - fMin lows) ∧
      100 * (close - fMin lows) / (fMax highs - fMin lows) ≤ 100 := by
  have hmax := le_fMax hhigh
  have hmin := fMin_le hlow
  refine ⟨div_nonneg (by linarith) hrange.le, ?_⟩
  rw [div_le_iff₀ hrange]
  linarith

/-! ## The average true range -/

/-- The bar has prices. -/
structure Bar.Clean (b : Bar) : Prop where
  high_pos : 0 < b.high
  low_pos : 0 < b.low
  close_pos : 0 < b.close

instance Bar.decidableClean (b : Bar) : Decidable b.Clean :=
  decidable_of_iff (0 < b.high ∧ 0 < b.low ∧ 0 < b.close)
    ⟨fun ⟨h, l, c⟩ => ⟨h, l, c⟩, fun ⟨h, l, c⟩ => ⟨h, l, c⟩⟩

/-- The true ranges between neighbours that both have prices. -/
def cleanRanges (bs : List Bar) : List ℚ :=
  ((steps bs).filter fun s => s.1.Clean ∧ s.2.Clean).map fun s => trueRange s.2.high s.2.low s.1.close

/-- The largest of some ranges, zero where there are none. -/
def largest (ranges : List ℚ) : ℚ := ranges.foldr max 0

theorem le_largest {ranges : List ℚ} {r : ℚ} (h : r ∈ ranges) : r ≤ largest ranges := by
  induction ranges with
  | nil => cases h
  | cons x ranges ih =>
    rcases List.mem_cons.mp h with rfl | h
    · exact le_max_left _ _
    · exact (ih h).trans (le_max_right _ _)

theorem largest_nonneg (ranges : List ℚ) : 0 ≤ largest ranges := by
  induction ranges with
  | nil => exact le_rfl
  | cons x ranges ih => exact ih.trans (le_max_right _ _)

/-- The steps to bars with a high and a low. -/
def entering (bs : List Bar) : List (Bar × Bar) := (steps bs).filter fun s => 0 < s.2.high ∧ 0 < s.2.low

/-- Those whose true ranges are averaged, over 14 bars. -/
def averaged (bs : List Bar) : List (Bar × Bar) :=
  if bs.length ≤ 14 ∨ (entering bs).length < 14 then [] else entering bs

theorem trueRanges_eq (bs : List Bar) :
    trueRanges bs = (entering bs).map fun s => trueRange s.2.high s.2.low s.1.close := by
  unfold trueRanges entering
  induction steps bs with
  | nil => rfl
  | cons s l ih =>
    rw [List.filterMap_cons, List.filter_cons, ih]
    by_cases h : 0 < s.2.high ∧ 0 < s.2.low
    · have hkept : ¬ (s.2.high ≤ 0 ∨ s.2.low ≤ 0) := not_or.mpr ⟨not_le.mpr h.1, not_le.mpr h.2⟩
      rw [if_pos (decide_eq_true h), List.map_cons]
      dsimp only
      rw [if_neg hkept]
    · have hskipped : s.2.high ≤ 0 ∨ s.2.low ≤ 0 := by
        rwa [not_and_or, not_lt, not_lt] at h
      rw [if_neg (by rwa [decide_eq_true_eq])]
      dsimp only
      rw [if_pos hskipped]

theorem fATRWilder_averaged (highs lows closes : List ℚ) : fATRWilder highs lows closes 14 =
    if averaged (bars highs lows closes) = [] then 0
    else wilder 14 ((averaged (bars highs lows closes)).map fun s =>
      trueRange s.2.high s.2.low s.1.close) := by
  unfold fATRWilder averaged
  dsimp only
  rw [trueRanges_eq, List.length_map]
  by_cases hlen : (bars highs lows closes).length ≤ 14
  · rw [if_pos (Or.inl (by exact_mod_cast hlen)), if_pos (Or.inl hlen), if_pos rfl]
  · rw [if_neg (by omega)]
    by_cases hfew : (entering (bars highs lows closes)).length < 14
    · rw [if_pos (by exact_mod_cast hfew), if_pos (Or.inr hfew), if_pos rfl]
    · have hne : entering (bars highs lows closes) ≠ [] := by
        rw [Ne, ← List.length_eq_zero_iff]
        omega
      rw [if_neg (by exact_mod_cast hfew), if_neg (not_or.mpr ⟨hlen, hfew⟩), if_neg hne]
      rfl

/-- An average of clean true ranges only lies below the largest of them. -/
theorem fATRWilder_mem {highs lows closes : List ℚ}
    (h : ∀ s ∈ averaged (bars highs lows closes), s.1.Clean ∧ s.2.Clean) :
    0 ≤ fATRWilder highs lows closes 14 ∧
      fATRWilder highs lows closes 14 ≤ largest (cleanRanges (bars highs lows closes)) := by
  rw [fATRWilder_averaged]
  split
  · exact ⟨le_rfl, largest_nonneg _⟩
  · next hne =>
    refine seeded_mem (by norm_num) (by norm_num) ?_ ?_
    · rw [List.length_map]
      unfold averaged at hne ⊢
      split at hne
      · exact absurd rfl hne
      · next hguard =>
        rw [if_neg hguard]
        omega
    · refine List.forall_mem_map.mpr ?_
      intro s hs
      refine ⟨trueRange_nonneg _ _ _, le_largest (List.mem_map.mpr ⟨s, ?_, rfl⟩)⟩
      have hstep : s ∈ steps (bars highs lows closes) := by
        unfold averaged at hs
        split at hs
        · cases hs
        · exact List.mem_of_mem_filter hs
      exact List.mem_filter.mpr ⟨hstep, decide_eq_true (h s hs)⟩

/-! ## The ranges of a report -/

/-- A candle with prices that are not negative. -/
structure PricedCandle extends VolumeCandle where
  opening_nonneg : 0 ≤ opening
  high_nonneg : 0 ≤ high
  low_nonneg : 0 ≤ low
  close_nonneg : 0 ≤ close

/-- The bars of the candles. -/
def barsOf (candles : List Candle) : List Bar := candles.map fun c => ⟨c.high, c.low, c.close⟩

section
variable (lib : MathLib) (lookback : ℕ) (candles : List PricedCandle) (candle : PricedCandle)

/-- The window with a further candle. -/
def windowWith : List Candle := window lookback ((candles ++ [candle]).map (·.toVolumeCandle))

/-- What is expected of the report for a candle. -/
structure InRange (feat : IndicatorFeatures) : Prop where
  rsi : 0 ≤ feat.rsi ∧ feat.rsi ≤ 100
  adx : 0 ≤ feat.adx ∧ feat.adx ≤ 100
  stochMain : 0 ≤ feat.stochMain ∧ feat.stochMain ≤ 100
  di : DIRange (feat.adxPlusDI, feat.adxMinusDI)
  boll : feat.bollLower ≤ feat.bollMiddle ∧ feat.bollMiddle ≤ feat.bollUpper
  atr : 0 ≤ feat.atr ∧ feat.atr ≤ largest (cleanRanges (barsOf (windowWith lookback candles candle)))
  /-- No bar without prices enters the average, in neither role. -/
  gap : candle.toCandle.Valid →
    ∀ s ∈ averaged (barsOf (windowWith lookback candles candle)), s.1.Clean ∧ s.2.Clean

/-- An average is formed over a window in which a price comes right behind a gap. -/
def GapEnters (w : List Candle) : Prop :=
  14 < w.length ∧ 14 ≤ w.tail.countP (fun c => 0 < c.low) ∧
    ∃ s ∈ w.zip w.tail, s.1.low = 0 ∧ 0 < s.2.low

end

/-! ## Bars of candles -/

/-- The bar of a candle. -/
def barOf (c : Candle) : Bar := ⟨c.high, c.low, c.close⟩

/-- The steps between the bars of candles. -/
theorem steps_barsOf (w : List Candle) :
    steps (barsOf w) = (w.zip w.tail).map fun s => (barOf s.1, barOf s.2) := by
  unfold steps barsOf
  rw [← List.map_tail, List.zip_map]
  rfl

theorem entering_length {w : List Candle} (hw : ∀ c ∈ w, c.Valid) :
    (entering (barsOf w)).length = w.tail.countP (fun c => 0 < c.low) := by
  have htail : w.tail = (w.zip w.tail).map Prod.snd := by
    rw [List.map_snd_zip]
    rw [List.length_tail]
    exact Nat.sub_le _ _
  unfold entering
  rw [steps_barsOf, ← List.countP_eq_length_filter, List.countP_map]
  conv_rhs => rw [htail, List.countP_map]
  apply List.countP_congr
  intro s hs
  have hle := (hw s.2 (List.mem_of_mem_tail (List.of_mem_zip hs).2)).low_le_high
  simp only [Function.comp_apply, decide_eq_true_eq, barOf]
  exact ⟨fun h => h.2, fun h => ⟨h.trans_le hle, h⟩⟩

theorem clean_of_low {c : Candle} (h : c.Valid) (hlow : 0 < c.low) : (barOf c).Clean :=
  ⟨hlow.trans_le h.low_le_high, hlow, hlow.trans_le h.low_le_close⟩

section
variable {w : List Candle} (hw : ∀ c ∈ w, c.Valid ∧ 0 ≤ c.low)
include hw

/-- What is averaged over is clean exactly where no price comes right behind a gap. -/
theorem averaged_clean_iff :
    (∀ s ∈ averaged (barsOf w), s.1.Clean ∧ s.2.Clean) ↔ ¬ GapEnters w := by
  have hlen : (barsOf w).length = w.length := List.length_map _
  have hcount := entering_length fun c hc => (hw c hc).1
  have hmem {s : Candle × Candle} (hs : s ∈ w.zip w.tail) : s.1 ∈ w ∧ s.2 ∈ w :=
    ⟨(List.of_mem_zip hs).1, List.mem_of_mem_tail (List.of_mem_zip hs).2⟩
  unfold averaged
  rw [hlen, hcount]
  constructor
  · rintro h ⟨hlong, hmany, s, hs, hgap, hprice⟩
    have hvalid := (hw s.2 (hmem hs).2).1
    have hstep : (barOf s.1, barOf s.2) ∈ entering (barsOf w) := by
      unfold entering
      rw [steps_barsOf]
      refine List.mem_filter.mpr ⟨List.mem_map.mpr ⟨s, hs, rfl⟩, decide_eq_true ?_⟩
      exact ⟨hprice.trans_le hvalid.low_le_high, hprice⟩
    rw [if_neg (by omega)] at h
    exact absurd (h _ hstep).1.low_pos (not_lt.mpr hgap.le)
  · intro h
    split
    · intro s hs
      cases hs
    · next hguard =>
      intro s hs
      unfold entering at hs
      rw [steps_barsOf] at hs
      obtain ⟨hstep, hprice⟩ := List.mem_filter.mp hs
      obtain ⟨q, hq, rfl⟩ := List.mem_map.mp hstep
      have hprice : 0 < q.2.low := (of_decide_eq_true hprice).2
      obtain ⟨hvalid, hnonneg⟩ := hw q.1 (hmem hq).1
      have hlow : 0 < q.1.low := by
        apply lt_of_le_of_ne hnonneg
        intro hgap
        exact h ⟨by omega, by omega, q, hq, hgap.symm, hprice⟩
      exact ⟨clean_of_low hvalid hlow, clean_of_low (hw q.2 (hmem hq).2).1 hprice⟩

end

/-! ## What never leaves its range -/

section
variable {lib : MathLib} {s : IndicatorState} {candle : VolumeCandle} (h : candle.toCandle.Valid)
include h

theorem report_rsi : 0 ≤ (s.process lib candle).2.rsi ∧ (s.process lib candle).2.rsi ≤ 100 := by
  rw [process_rsi h]
  split
  · exact fRSIWilder_mem _ _
  · norm_num

theorem report_adx : (0 ≤ (s.process lib candle).2.adx ∧ (s.process lib candle).2.adx ≤ 100) ∧
    DIRange ((s.process lib candle).2.adxPlusDI, (s.process lib candle).2.adxMinusDI) := by
  obtain ⟨result, hresult, hadx, hplus, hminus⟩ := process_adx lib s h
  rw [hadx, hplus, hminus, hresult]
  split
  · exact fADXWilder_mem (s.push candle).bars_sound 14
  · exact ⟨⟨le_rfl, by norm_num⟩, le_rfl, le_rfl, by norm_num⟩

/-- The candle is the newest of the window. -/
theorem push_concat (hne : (s.push candle).candles ≠ []) :
    ∃ older, (s.push candle).candles = older ++ [candle.toCandle] := by
  have hpush : (s.push candle).candles = (s.candles ++ [candle.toCandle]).rtake s.lookback :=
    (process_eq h).1
  have hpos : 0 < s.lookback := by
    by_contra hzero
    rw [hpush, Nat.eq_zero_of_not_pos hzero, List.rtake_zero] at hne
    exact hne rfl
  exact ⟨_, hpush.trans (rtake_concat hpos)⟩

theorem report_stochMain :
    0 ≤ (s.process lib candle).2.stochMain ∧ (s.process lib candle).2.stochMain ≤ 100 := by
  rw [process_stochMain h]
  split
  · next hguard =>
    have hne : (s.push candle).candles ≠ [] := by
      intro hnil
      have hlen := hguard.1
      unfold IndicatorEngine.fCloses at hlen
      rw [hnil] at hlen
      cases hlen
    obtain ⟨older, holder⟩ := push_concat h hne
    have hlast : candle.toCandle ∈ (s.push candle).candles.rtake 14 := by
      rw [holder, rtake_concat (by norm_num)]
      exact List.mem_append_right _ List.mem_cons_self
    have hhigh : candle.high ∈ (s.push candle).fHighs.rtake 14 := by
      unfold IndicatorEngine.fHighs
      rw [← map_rtake]
      exact List.mem_map_of_mem hlast
    have hlow : candle.low ∈ (s.push candle).fLows.rtake 14 := by
      unfold IndicatorEngine.fLows
      rw [← map_rtake]
      exact List.mem_map_of_mem hlast
    exact stoch_mem hhigh hlow ⟨h.low_le_close, h.close_le_high⟩ hguard.2
  · norm_num

theorem report_bands : (s.process lib candle).2.bollLower ≤ (s.process lib candle).2.bollMiddle ∧
    (s.process lib candle).2.bollMiddle ≤ (s.process lib candle).2.bollUpper := by
  obtain ⟨mean, dev, hdev, hmiddle, hupper, hlower⟩ := process_bands lib s h
  rw [hmiddle, hupper, hlower]
  constructor <;> linarith

variable (lib) in
theorem report_atr_eq {w : List Candle} (hw : (s.push candle).candles = w) :
    (s.process lib candle).2.atr =
      if w.length ≥ 14 then fATRWilder (w.map (·.high)) (w.map (·.low)) (w.map (·.close)) 14 else 0 := by
  rw [process_atr h]
  unfold IndicatorEngine.fHighs IndicatorEngine.fLows IndicatorEngine.fCloses
  rw [hw, List.length_map]

end

theorem bars_of_window (w : List Candle) :
    bars (w.map (·.high)) (w.map (·.low)) (w.map (·.close)) = barsOf w := bars_map w

/-- As long as only clean true ranges are averaged. -/
theorem report_atr {lib : MathLib} {s : IndicatorState} {candle : VolumeCandle}
    (h : candle.toCandle.Valid) {w : List Candle} (hw : (s.push candle).candles = w)
    (hclean : ∀ s ∈ averaged (barsOf w), s.1.Clean ∧ s.2.Clean) :
    0 ≤ (s.process lib candle).2.atr ∧ (s.process lib candle).2.atr ≤ largest (cleanRanges (barsOf w)) := by
  rw [report_atr_eq lib h hw]
  split
  · rw [← bars_of_window] at hclean ⊢
    exact fATRWilder_mem hclean
  · exact ⟨le_rfl, largest_nonneg _⟩

/-! ## The ranges of a run -/

section
variable (lib : MathLib) (lookback : ℕ) (candles : List PricedCandle) (candle : PricedCandle)

theorem windowWith_valid : ∀ c ∈ windowWith lookback candles candle, c.Valid ∧ 0 ≤ c.low := by
  intro c hc
  obtain ⟨hmem, hvalid⟩ := List.mem_filter.mp (rtake_suffix.subset hc)
  refine ⟨of_decide_eq_true hvalid, ?_⟩
  rw [List.map_map] at hmem
  obtain ⟨priced, -, rfl⟩ := List.mem_map.mp hmem
  exact priced.low_nonneg

/-- **The ranges.** After any candles, the report for a further one is in its ranges exactly where the
average true range is not formed over a gap. -/
theorem indicator_ranges_iff :
    InRange lookback candles candle
        (report lib lookback (candles.map (·.toVolumeCandle)) candle.toVolumeCandle) ↔
      ¬ (candle.toCandle.Valid ∧ GapEnters (windowWith lookback candles candle)) := by
  have hw := windowWith_valid lookback candles candle
  by_cases hvalid : candle.toCandle.Valid
  · rw [and_iff_right hvalid, ← averaged_clean_iff hw]
    constructor
    · exact fun h => h.gap hvalid
    · intro hclean
      have hpushed := push_candles lib lookback (candles.map (·.toVolumeCandle)) hvalid
      have hwindow : windowWith lookback candles candle =
          window lookback (candles.map (·.toVolumeCandle) ++ [candle.toVolumeCandle]) := by
        unfold windowWith
        rw [List.map_append]
        rfl
      rw [← hwindow] at hpushed
      obtain ⟨hadx, hdi⟩ := report_adx hvalid
      exact ⟨report_rsi hvalid, hadx, report_stochMain hvalid, hdi, report_bands hvalid,
        report_atr hvalid hpushed hclean, fun _ => hclean⟩
  · have hreport : report lib lookback (candles.map (·.toVolumeCandle)) candle.toVolumeCandle = {} := by
      unfold report
      rw [process_rejected hvalid]
    rw [hreport]
    refine iff_of_true ?_ fun h => hvalid h.1
    exact ⟨⟨le_rfl, by norm_num⟩, ⟨le_rfl, by norm_num⟩, ⟨le_rfl, by norm_num⟩,
      ⟨le_rfl, le_rfl, by norm_num⟩, ⟨le_rfl, le_rfl⟩, ⟨le_rfl, largest_nonneg _⟩,
      fun h => absurd h hvalid⟩

end

/-! ## A gap before the prices -/

/-- A candle of which all prices are the same. -/
def flatCandle (price : ℚ) (h : 0 ≤ price) : PricedCandle where
  opening := price
  high := price
  low := price
  close := price
  volume := 0
  opening_nonneg := h
  high_nonneg := h
  low_nonneg := h
  close_nonneg := h

/-- A candle that stays at 100. -/
def atHundred : PricedCandle := flatCandle 100 (by norm_num)

/-- A gap and thirteen candles at a hundred. -/
def gapped : List PricedCandle := flatCandle 0 le_rfl :: List.replicate 13 atHundred

/-- One more, and the price behind the gap is a fourteenth of the average, where nothing moved. -/
theorem gap_enters_average : ¬ ∃ lib : MathLib,
    InRange 200 gapped atHundred
      (report lib 200 (gapped.map (·.toVolumeCandle)) atHundred.toVolumeCandle) := by
  rintro ⟨lib, hrange⟩
  have hvalid : atHundred.toCandle.Valid := ⟨le_rfl, le_rfl, le_rfl, le_rfl, le_rfl⟩
  have hle := hrange.atr.2
  unfold report at hle
  rw [report_atr_eq lib hvalid (push_candles lib 200 (gapped.map (·.toVolumeCandle)) hvalid)] at hle
  revert hle
  decide +kernel

end PredictATrade.Realtime.Indicators
