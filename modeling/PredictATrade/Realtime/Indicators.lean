import Mathlib.Data.Rat.Defs
import Mathlib.Algebra.Order.Ring.Rat
import PredictATrade.Lib.Smoothing

/-!
# `Realtime.Indicators` — the indicator engine's copies of Wilder's indicators

The indicator engine keeps windows of floats and computes on them with copies of `EMA`, `RSIWilder`,
`ATRWilder` and `ADXWilder` of `pkg/math`. Floats are exact rationals here.

Three of the copies are the reference to the letter. `fADXWilder` leaves out the bars whose directional
sum is zero, where `ADXWilder` counts a zero for each (`agree_iff`); the directional indicators are the
same throughout.
-/

namespace PredictATrade.Realtime.Indicators
open Lib.Smoothing

/-! ## The window -/

/-- The prices of a candle. -/
structure Candle where
  opening : ℚ
  high : ℚ
  low : ℚ
  close : ℚ
  deriving DecidableEq, Repr

/-- The candles that `Process` does not turn away. -/
structure Candle.Valid (c : Candle) : Prop where
  low_le_high : c.low ≤ c.high
  opening_le_high : c.opening ≤ c.high
  close_le_high : c.close ≤ c.high
  low_le_opening : c.low ≤ c.opening
  low_le_close : c.low ≤ c.close

instance Candle.decidableValid (c : Candle) : Decidable c.Valid :=
  decidable_of_iff (c.low ≤ c.high ∧ c.opening ≤ c.high ∧ c.close ≤ c.high ∧ c.low ≤ c.opening ∧
      c.low ≤ c.close)
    ⟨fun ⟨a, b, c, d, e⟩ => ⟨a, b, c, d, e⟩, fun ⟨a, b, c, d, e⟩ => ⟨a, b, c, d, e⟩⟩

/-- What the engine keeps of the candles, the oldest first. -/
structure IndicatorEngine where
  lookback : ℕ
  candles : List Candle
  valid : ∀ c ∈ candles, c.Valid

namespace IndicatorEngine

/-- The highs of the engine's candles. -/
def fHighs (e : IndicatorEngine) : List ℚ := e.candles.map (·.high)

/-- The lows of the engine's candles. -/
def fLows (e : IndicatorEngine) : List ℚ := e.candles.map (·.low)

/-- The closes of the engine's candles. -/
def fCloses (e : IndicatorEngine) : List ℚ := e.candles.map (·.close)

/-- `Process`, as far as the windows go. -/
def process (e : IndicatorEngine) (candle : Candle) : IndicatorEngine :=
  if h : candle.Valid then
    { e with
      candles := (e.candles ++ [candle]).drop (e.candles.length + 1 - e.lookback)
      valid := by
        intro c hc
        rcases List.mem_append.mp (List.mem_of_mem_drop hc) with hc | hc
        · exact e.valid c hc
        · exact List.mem_singleton.mp hc ▸ h }
  else e

end IndicatorEngine

/-! ## Moving averages -/

/-- `EMA`, the exponential average from the first value on. -/
def EMA (values : List ℚ) (period : ℤ) : ℚ :=
  match values with
  | [] => 0
  | v :: vs =>
    if period ≤ 0 then 0
    else
      let multiplier := 2 / ((period + 1 : ℤ) : ℚ)
      vs.foldl (fun ema v => v * multiplier + ema * (1 - multiplier)) v

/-- `fEMAWindow`, the exponential average over the values of a window. -/
def fEMAWindow (values : List ℚ) (period : ℤ) : ℚ :=
  if values.length = 0 ∨ period ≤ 0 then 0
  else
    let multiplier := 2 / ((period + 1 : ℤ) : ℚ)
    values.tail.foldl (fun ema v => v * multiplier + ema * (1 - multiplier)) (values.headD 0)

/-! ## Relative strength -/

/-- The change from each close to the next. -/
def changes (closes : List ℚ) : List ℚ := List.zipWith (fun pc c => c - pc) closes closes.tail

/-- The change, if the price has risen. -/
def gain (change : ℚ) : ℚ := if change > 0 then change else 0

/-- The change without its sign, if the price has not risen. -/
def loss (change : ℚ) : ℚ := if change > 0 then 0 else -change

/-- `RSIWilder`. -/
def RSIWilder (closes : List ℚ) (period : ℤ) : ℚ :=
  if closes.length ≤ period ∨ period ≤ 0 then 0
  else
    let avgGain := wilder period.toNat ((changes closes).map gain)
    let avgLoss := wilder period.toNat ((changes closes).map loss)
    if avgLoss = 0 ∧ avgGain = 0 then 50
    else if avgLoss = 0 then 100
    else
      let rs := avgGain / avgLoss
      100 - 100 / (1 + rs)

/-- `fRSIWilder`. -/
def fRSIWilder (closes : List ℚ) (period : ℤ) : ℚ :=
  if closes.length ≤ period ∨ period ≤ 0 then 0
  else
    let avgGain := wilder period.toNat ((changes closes).map gain)
    let avgLoss := wilder period.toNat ((changes closes).map loss)
    if avgLoss = 0 ∧ avgGain = 0 then 50
    else if avgLoss = 0 then 100
    else
      let rs := avgGain / avgLoss
      100 - 100 / (1 + rs)

/-! ## The true range -/

/-- What the ranges are made of. -/
structure Bar where
  high : ℚ
  low : ℚ
  close : ℚ
  deriving DecidableEq, Repr

/-- The three windows bar by bar, up to the end of the shortest. -/
def bars (highs lows closes : List ℚ) : List Bar := List.zipWith3 Bar.mk highs lows closes

/-- Each bar but the first, after the one before it. -/
def steps (bs : List Bar) : List (Bar × Bar) := bs.zip bs.tail

/-- The true range of a bar after a close. -/
def trueRange (h l pc : ℚ) : ℚ :=
  let hl := |h - l|
  let hc := |h - pc|
  let lc := |l - pc|
  let tr := if hc > hl then hc else hl
  if lc > tr then lc else tr

/-- The true ranges of the bars that are not skipped. -/
def trueRanges (bs : List Bar) : List ℚ :=
  (steps bs).filterMap fun (pb, b) =>
    if b.high ≤ 0 ∨ b.low ≤ 0 then none else some (trueRange b.high b.low pb.close)

/-- `ATRWilder`. -/
def ATRWilder (highs lows closes : List ℚ) (period : ℤ) : ℚ :=
  let bs := bars highs lows closes
  if bs.length ≤ period ∨ period ≤ 0 then 0
  else
    let trs := trueRanges bs
    if trs.length < period then 0 else wilder period.toNat trs

/-- `fATRWilder`. -/
def fATRWilder (highs lows closes : List ℚ) (period : ℤ) : ℚ :=
  let bs := bars highs lows closes
  if bs.length ≤ period ∨ period ≤ 0 then 0
  else
    let trs := trueRanges bs
    if trs.length < period then 0 else wilder period.toNat trs

/-! ## Directional movement -/

/-- The entries of `plusDMs`, `minusDMs` and `trs` for one bar, or their averages. -/
structure Movement where
  plusDM : ℚ := 0
  minusDM : ℚ := 0
  tr : ℚ := 0
  deriving DecidableEq, Repr

/-- The first loop's body. A bar that is skipped leaves the zeros. -/
def movement (pb b : Bar) : Movement :=
  if b.high ≤ 0 ∨ b.low ≤ 0 ∨ pb.high ≤ 0 ∨ pb.low ≤ 0 then {}
  else
    let upMove := b.high - pb.high
    let downMove := pb.low - b.low
    { plusDM := if upMove > downMove ∧ upMove > 0 then upMove else 0
      minusDM := if downMove > upMove ∧ downMove > 0 then downMove else 0
      tr := trueRange b.high b.low pb.close }

/-- The movements between the bars. -/
def movements (bs : List Bar) : List Movement := (steps bs).map fun (pb, b) => movement pb b

/-- The averages over the first `period` bars. -/
def Movement.seed (period : ℕ) (ms : List Movement) : Movement where
  plusDM := ((ms.take period).map (·.plusDM)).sum / period
  minusDM := ((ms.take period).map (·.minusDM)).sum / period
  tr := ((ms.take period).map (·.tr)).sum / period

/-- The smoothed movement after one more. -/
def Movement.next (period : ℕ) (avg m : Movement) : Movement where
  plusDM := smooth period avg.plusDM m.plusDM
  minusDM := smooth period avg.minusDM m.minusDM
  tr := smooth period avg.tr m.tr

/-- The directional indicators for these averages. -/
def Movement.di (avg : Movement) : ℚ × ℚ :=
  if avg.tr > 0 then (100 * avg.plusDM / avg.tr, 100 * avg.minusDM / avg.tr) else (0, 0)

/-- The directional indicators bar by bar, the averages so far being `avg`. -/
def dis (period : ℕ) (avg : Movement) : List Movement → List (ℚ × ℚ)
  | [] => []
  | m :: ms => (avg.next period m).di :: dis period (avg.next period m) ms

/-- The averages after the last bar. -/
def lastAvg (period : ℕ) (avg : Movement) (ms : List Movement) : Movement :=
  ms.foldl (Movement.next period) avg

/-- A bar's entry in `dxValues`. -/
def dxValue : ℚ × ℚ → ℚ
  | (plusDI, minusDI) =>
    let denom := plusDI + minusDI
    if denom > 0 then 100 * |plusDI - minusDI| / denom else 0

/-- A bar's entry in `adxVals`, if it gets one. -/
def adxVal : ℚ × ℚ → Option ℚ
  | (pdi, mdi) => if pdi + mdi > 0 then some (100 * |pdi - mdi| / (pdi + mdi)) else none

/-- `ADXWilder`: the index and the two directional indicators. -/
def ADXWilder (highs lows closes : List ℚ) (period : ℤ) : ℚ × ℚ × ℚ :=
  let bs := bars highs lows closes
  if bs.length ≤ period * 2 ∨ period ≤ 0 then (0, 0, 0)
  else
    let p := period.toNat
    let ms := movements bs
    let dxValues := (dis p (.seed p ms) (ms.drop p)).map dxValue
    if dxValues.length = 0 then (0, 0, 0)
    else
      let (lastPlusDI, lastMinusDI) := (lastAvg p (.seed p ms) (ms.drop p)).di
      (wilder p dxValues, lastPlusDI, lastMinusDI)

/-- `fADXWilder`: the index and the two directional indicators. -/
def fADXWilder (highs lows closes : List ℚ) (period : ℤ) : ℚ × ℚ × ℚ :=
  let bs := bars highs lows closes
  if bs.length ≤ period * 2 ∨ period ≤ 0 then (0, 0, 0)
  else
    let p := period.toNat
    let ms := movements bs
    let ds := dis p (.seed p ms) (ms.drop p)
    let adxVals := ds.filterMap adxVal
    let (plusDI, minusDI) := ds.getLastD (0, 0)
    if adxVals.length = 0 then (0, plusDI, minusDI)
    else
      let seed := min adxVals.length p
      (seeded p seed adxVals, plusDI, minusDI)

/-! ## The copies that are the reference to the letter -/

theorem fEMAWindow_eq (values : List ℚ) (period : ℤ) :
    fEMAWindow values period = EMA values period := by
  cases values with
  | nil => rfl
  | cons v vs => simp [fEMAWindow, EMA]

theorem fRSIWilder_eq (closes : List ℚ) (period : ℤ) :
    fRSIWilder closes period = RSIWilder closes period := rfl

theorem fATRWilder_eq (highs lows closes : List ℚ) (period : ℤ) :
    fATRWilder highs lows closes period = ATRWilder highs lows closes period := rfl

/-! ## Bars that move -/

/-- The bar goes further than the one before it, and further on one side than on the other. -/
def Trends (pb b : Bar) : Prop :=
  (0 < b.high ∧ 0 < b.low ∧ 0 < pb.high ∧ 0 < pb.low) ∧
    b.high - pb.high ≠ pb.low - b.low ∧ (0 < b.high - pb.high ∨ 0 < pb.low - b.low)

/-- The close lies within the bar. -/
structure Bar.Sound (b : Bar) : Prop where
  low_le_close : b.low ≤ b.close
  close_le_high : b.close ≤ b.high

/-- The directional sum of these averages is not zero. -/
def Movement.Directed (m : Movement) : Prop := 0 < m.plusDM + m.minusDM

/-- Nothing of a movement is negative, and the directional parts fit into its range. -/
structure Movement.Sound (m : Movement) : Prop where
  plusDM_nonneg : 0 ≤ m.plusDM
  minusDM_nonneg : 0 ≤ m.minusDM
  tr_nonneg : 0 ≤ m.tr
  tr_pos : m.Directed → 0 < m.tr

/-- What a single bar shows: a movement one way at most. -/
structure Movement.OneWay (m : Movement) : Prop extends Movement.Sound m where
  one_way : m.plusDM = 0 ∨ m.minusDM = 0

theorem trueRange_ge (h l pc : ℚ) :
    |h - l| ≤ trueRange h l pc ∧ |h - pc| ≤ trueRange h l pc ∧ |l - pc| ≤ trueRange h l pc := by
  unfold trueRange
  grind

theorem trueRange_nonneg (h l pc : ℚ) : 0 ≤ trueRange h l pc :=
  (abs_nonneg _).trans (trueRange_ge h l pc).1

theorem trueRange_pos {pb b : Bar} (hpb : pb.Sound) (h : Trends pb b) :
    0 < trueRange b.high b.low pb.close := by
  obtain ⟨-, -, hup | hdown⟩ := h
  · -- the new high is above the last close
    have hge := (trueRange_ge b.high b.low pb.close).2.1
    have hle := le_abs_self (b.high - pb.close)
    linarith [hpb.close_le_high]
  · have hge := (trueRange_ge b.high b.low pb.close).2.2
    have hle := neg_abs_le (b.low - pb.close)
    linarith [hpb.low_le_close]

/-- When a movement has a direction. -/
theorem movement_directed_iff (pb b : Bar) : (movement pb b).Directed ↔ Trends pb b := by
  unfold movement Movement.Directed Trends
  split
  · simp
    grind
  · dsimp only
    grind

theorem movement_tr {pb b : Bar} (h : Trends pb b) :
    (movement pb b).tr = trueRange b.high b.low pb.close := by
  obtain ⟨⟨hh, hl, hph, hpl⟩, -⟩ := h
  unfold movement
  rw [if_neg (by simp [not_le]; grind)]

theorem movement_nonneg (pb b : Bar) :
    0 ≤ (movement pb b).plusDM ∧ 0 ≤ (movement pb b).minusDM ∧ 0 ≤ (movement pb b).tr := by
  unfold movement
  split
  · simp
  · have htr := trueRange_nonneg b.high b.low pb.close
    grind

theorem movement_oneWay {pb b : Bar} (hpb : pb.Sound) : (movement pb b).OneWay := by
  obtain ⟨hplus, hminus, htr⟩ := movement_nonneg pb b
  refine ⟨⟨hplus, hminus, htr, ?_⟩, ?_⟩
  · intro hdirected
    have htrends := (movement_directed_iff pb b).mp hdirected
    rw [movement_tr htrends]
    exact trueRange_pos hpb htrends
  · unfold movement
    grind

/-! ## One bar's averages -/

variable {p : ℕ} {avg m : Movement} {ms : List Movement}

/-- When the averages have a direction after one more movement. -/
theorem directed_next_iff (hp : 1 < p) (havg : avg.Sound) (hm : m.Sound) :
    (avg.next p m).Directed ↔ avg.Directed ∨ m.Directed := by
  have hp1 : (1 : ℚ) < p := by exact_mod_cast hp
  show 0 < smooth (p : ℚ) avg.plusDM m.plusDM + smooth (p : ℚ) avg.minusDM m.minusDM ↔ _
  rw [smooth_add]
  exact smooth_pos_iff hp1 (add_nonneg havg.plusDM_nonneg havg.minusDM_nonneg)
    (add_nonneg hm.plusDM_nonneg hm.minusDM_nonneg)

theorem Movement.Sound.next (hp : 1 < p) (havg : avg.Sound) (hm : m.Sound) :
    (avg.next p m).Sound := by
  have hp1 : (1 : ℚ) < p := by exact_mod_cast hp
  refine ⟨smooth_nonneg hp1.le havg.plusDM_nonneg hm.plusDM_nonneg,
    smooth_nonneg hp1.le havg.minusDM_nonneg hm.minusDM_nonneg,
    smooth_nonneg hp1.le havg.tr_nonneg hm.tr_nonneg, ?_⟩
  intro hdirected
  apply smooth_pos hp1 havg.tr_nonneg hm.tr_nonneg
  exact ((directed_next_iff hp havg hm).mp hdirected).imp havg.tr_pos hm.tr_pos

theorem Movement.Sound.eq_zero (h : avg.Sound) (hno : ¬avg.Directed) :
    avg.plusDM = 0 ∧ avg.minusDM = 0 := by
  have hplus := h.plusDM_nonneg
  have hminus := h.minusDM_nonneg
  unfold Movement.Directed at hno
  constructor <;> linarith

/-- The first movement after none leaves an average that goes one way. -/
theorem Movement.OneWay.next (havg : avg.Sound) (hno : ¬avg.Directed) (hm : m.OneWay) :
    (avg.next p m).plusDM = 0 ∨ (avg.next p m).minusDM = 0 := by
  obtain ⟨hplus, hminus⟩ := havg.eq_zero hno
  refine hm.one_way.imp ?_ ?_
  · intro hzero
    simp [Movement.next, smooth, hplus, hzero]
  · intro hzero
    simp [Movement.next, smooth, hminus, hzero]

/-! ## One bar's entry -/

/-- When the directional indicators are not both zero. -/
theorem di_sum_pos_iff (h : avg.Sound) : 0 < avg.di.1 + avg.di.2 ↔ avg.Directed := by
  unfold Movement.di
  split
  · next htr =>
      rw [← add_div, ← mul_add, div_pos_iff_of_pos_right htr, mul_pos_iff_of_pos_left (by norm_num)]
      rfl
  · next htr => simpa using fun hdirected => htr (h.tr_pos hdirected)

theorem adxVal_eq (d : ℚ × ℚ) : adxVal d = if 0 < d.1 + d.2 then some (dxValue d) else none := by
  unfold adxVal dxValue
  grind

theorem adxVal_of_directed (h : avg.Sound) (hdirected : avg.Directed) :
    adxVal avg.di = some (dxValue avg.di) := by
  rw [adxVal_eq, if_pos ((di_sum_pos_iff h).mpr hdirected)]

theorem adxVal_of_not_directed (h : avg.Sound) (hno : ¬avg.Directed) : adxVal avg.di = none := by
  rw [adxVal_eq, if_neg fun hpos => hno ((di_sum_pos_iff h).mp hpos)]

theorem dxValue_of_not_directed (h : avg.Sound) (hno : ¬avg.Directed) : dxValue avg.di = 0 :=
  if_neg fun hpos => hno ((di_sum_pos_iff h).mp hpos)

theorem dxValue_nonneg (d : ℚ × ℚ) : 0 ≤ dxValue d := by
  unfold dxValue
  dsimp only
  split
  · next hpos => exact div_nonneg (mul_nonneg (by norm_num) (abs_nonneg _)) hpos.le
  · exact le_rfl

theorem dxValue_of_one_way (h : avg.Sound) (hdirected : avg.Directed)
    (hway : avg.plusDM = 0 ∨ avg.minusDM = 0) : dxValue avg.di = 100 := by
  have htr := h.tr_pos hdirected
  have hsum := (di_sum_pos_iff h).mpr hdirected
  have hdi : avg.di = (100 * avg.plusDM / avg.tr, 100 * avg.minusDM / avg.tr) := if_pos htr
  have habs : |avg.di.1 - avg.di.2| = avg.di.1 + avg.di.2 := by
    rcases hway with hzero | hzero
    · have hfst : avg.di.1 = 0 := by simp [hdi, hzero]
      rw [hfst, zero_add] at hsum ⊢
      rw [zero_sub, abs_neg, abs_of_pos hsum]
    · have hsnd : avg.di.2 = 0 := by simp [hdi, hzero]
      rw [hsnd, add_zero] at hsum ⊢
      rw [sub_zero, abs_of_pos hsum]
  show (if 0 < avg.di.1 + avg.di.2 then 100 * |avg.di.1 - avg.di.2| / (avg.di.1 + avg.di.2) else 0) = _
  rw [if_pos hsum, habs, mul_div_assoc, div_self hsum.ne', mul_one]

/-! ## Bar by bar -/

/-- From averages with a directional sum on, every bar has an entry in both. -/
theorem dxs_of_directed (hp : 1 < p) (havg : avg.Sound) (hdirected : avg.Directed)
    (hms : ∀ m ∈ ms, m.OneWay) :
    (dis p avg ms).filterMap adxVal = (dis p avg ms).map dxValue := by
  induction ms generalizing avg with
  | nil => rfl
  | cons m ms ih =>
      have hm : m.OneWay := hms m List.mem_cons_self
      -- a directional sum is never smoothed away
      have hnext : (avg.next p m).Sound := havg.next hp hm.toSound
      have hdir : (avg.next p m).Directed := (directed_next_iff hp havg hm.toSound).mpr (.inl hdirected)
      have hrest := ih hnext hdir fun x hx => hms x (List.mem_cons_of_mem m hx)
      simp only [dis, List.filterMap_cons, adxVal_of_directed hnext hdir, List.map_cons, hrest]

/-- While nothing moves, the copy gets no entries and the reference zeros. -/
theorem dxs_of_still (hp : 1 < p) (havg : avg.Sound) (hno : ¬avg.Directed)
    (hms : ∀ m ∈ ms, m.OneWay) (hstill : ∀ m ∈ ms, ¬m.Directed) :
    (dis p avg ms).filterMap adxVal = [] ∧ ∀ d ∈ (dis p avg ms).map dxValue, d = 0 := by
  induction ms generalizing avg with
  | nil => simp [dis]
  | cons m ms ih =>
      have hm : m.OneWay := hms m List.mem_cons_self
      have hnext : (avg.next p m).Sound := havg.next hp hm.toSound
      have hdir : ¬(avg.next p m).Directed := by
        rw [directed_next_iff hp havg hm.toSound]
        exact not_or.mpr ⟨hno, hstill m List.mem_cons_self⟩
      have hrest := ih hnext hdir (fun x hx => hms x (List.mem_cons_of_mem m hx))
        fun x hx => hstill x (List.mem_cons_of_mem m hx)
      constructor
      · rw [dis, List.filterMap_cons, adxVal_of_not_directed hnext hdir]
        exact hrest.1
      · rw [dis, List.map_cons, List.forall_mem_cons]
        exact ⟨dxValue_of_not_directed hnext hdir, hrest.2⟩

/-- Up to the first bar that moves the reference has zeros that the copy leaves out. -/
theorem dxs_of_late (hp : 1 < p) (havg : avg.Sound) (hno : ¬avg.Directed)
    (hms : ∀ m ∈ ms, m.OneWay) (hmoves : ∃ m ∈ ms, m.Directed) :
    ∃ k l, (dis p avg ms).map dxValue = List.replicate k 0 ++ 100 :: l ∧
      (dis p avg ms).filterMap adxVal = 100 :: l ∧ (∀ d ∈ l, 0 ≤ d) ∧
      (k = 0 ↔ ∃ m ∈ ms.head?, m.Directed) := by
  induction ms generalizing avg with
  | nil => simp at hmoves
  | cons m ms ih =>
      have hm : m.OneWay := hms m List.mem_cons_self
      have hrest : ∀ x ∈ ms, x.OneWay := fun x hx => hms x (List.mem_cons_of_mem m hx)
      have hnext : (avg.next p m).Sound := havg.next hp hm.toSound
      have hiff := directed_next_iff hp havg hm.toSound
      -- the first bar that moves gets 100 in both, since the averages go one way there
      by_cases hdir : m.Directed
      · have hnow : (avg.next p m).Directed := hiff.mpr (.inr hdir)
        have hvalue : dxValue (avg.next p m).di = 100 :=
          dxValue_of_one_way hnext hnow (hm.next havg hno)
        refine ⟨0, (dis p (avg.next p m) ms).map dxValue, ?_, ?_, ?_, by simpa using hdir⟩
        · simp [dis, hvalue]
        · rw [dis, List.filterMap_cons, adxVal_of_directed hnext hnow, hvalue,
            dxs_of_directed hp hnext hnow hrest]
        · intro d hd
          obtain ⟨x, -, rfl⟩ := List.mem_map.mp hd
          exact dxValue_nonneg x
      · have hnow : ¬(avg.next p m).Directed := by
          rw [hiff]
          exact not_or.mpr ⟨hno, hdir⟩
        have hmoves' : ∃ x ∈ ms, x.Directed := by simpa [hdir] using hmoves
        obtain ⟨k, l, hmap, hkept, hl, -⟩ := ih hnext hnow hrest hmoves'
        refine ⟨k + 1, l, ?_, ?_, hl, by simpa using hdir⟩
        · rw [dis, List.map_cons, hmap, dxValue_of_not_directed hnext hnow]
          rfl
        · rw [dis, List.filterMap_cons, adxVal_of_not_directed hnext hnow]
          exact hkept

theorem dis_length : (dis p avg ms).length = ms.length := by
  induction ms generalizing avg with
  | nil => rfl
  | cons m ms ih => simp [dis, ih]

/-- The directional indicators at the last bar are those of the averages after it. -/
theorem dis_getLastD (d : ℚ × ℚ) (h : ms ≠ []) :
    (dis p avg ms).getLastD d = (lastAvg p avg ms).di := by
  induction ms generalizing avg d with
  | nil => exact absurd rfl h
  | cons m ms ih =>
      rw [dis, List.getLastD_cons]
      cases ms with
      | nil => rfl
      | cons x xs => exact ih _ (List.cons_ne_nil x xs)

/-! ## The averages of the entries -/

/-- What the copy returns for its entries. -/
def smoothed (p : ℕ) (adxVals : List ℚ) : ℚ :=
  if adxVals.length = 0 then 0 else seeded p (min adxVals.length p) adxVals

theorem smoothed_eq_wilder {l : List ℚ} (h : p ≤ l.length) (hp : 0 < p) : smoothed p l = wilder p l := by
  unfold smoothed wilder
  rw [if_neg (by omega), Nat.min_eq_right h]

/-- When leaving out the bars without direction changes nothing. -/
theorem smoothed_iff (hp : 1 < p) (havg : avg.Sound) (hms : ∀ m ∈ ms, m.OneWay)
    (hlen : p ≤ ms.length) :
    smoothed p ((dis p avg ms).filterMap adxVal) = wilder p ((dis p avg ms).map dxValue) ↔
      (avg.Directed ∨ ∃ m ∈ ms.head?, m.Directed) ∨ ∀ m ∈ ms, ¬m.Directed := by
  have hmap : p ≤ ((dis p avg ms).map dxValue).length := by rwa [List.length_map, dis_length]
  by_cases hdirected : avg.Directed
  · rw [dxs_of_directed hp havg hdirected hms, smoothed_eq_wilder hmap (by omega)]
    simp [hdirected]
  by_cases hmoves : ∃ m ∈ ms, m.Directed
  · obtain ⟨k, l, hzeros, hkept, hl, hk⟩ := dxs_of_late hp havg hdirected hms hmoves
    have hsome : ¬∀ m ∈ ms, ¬m.Directed := by
      push Not
      exact hmoves
    rw [or_iff_left hsome, or_iff_right hdirected, ← hk, hzeros, hkept]
    -- without zeros in front the two average the same list
    rcases Nat.eq_zero_or_pos k with rfl | hpos
    · rw [hzeros] at hmap
      simpa using smoothed_eq_wilder hmap (by omega)
    · have hlt := wilder_padded_lt hp hpos (by norm_num : (0 : ℚ) < 100) hl
      refine iff_of_false ?_ hpos.ne'
      show smoothed p (100 :: l) ≠ _
      unfold smoothed
      rw [if_neg (by simp)]
      exact hlt.ne'
  · push Not at hmoves
    obtain ⟨hkept, hzeros⟩ := dxs_of_still hp havg hdirected hms hmoves
    rw [hkept, wilder_zeros p hzeros]
    exact iff_of_true rfl (.inr hmoves)

/-! ## A period of one bar -/

theorem Movement.next_one (avg m : Movement) : avg.next 1 m = m := by
  simp [Movement.next, smooth_one]

theorem dis_one : dis 1 avg ms = ms.map Movement.di := by
  induction ms generalizing avg with
  | nil => rfl
  | cons m ms ih => rw [dis, Movement.next_one, ih, List.map_cons]

theorem adxVal_one (h : m.OneWay) : adxVal m.di = if 0 < m.plusDM + m.minusDM then some 100 else none := by
  split
  · next hdir => rw [adxVal_of_directed h.toSound hdir, dxValue_of_one_way h.toSound hdir h.one_way]
  · next hno => exact adxVal_of_not_directed h.toSound hno

theorem smoothed_one {l : List ℚ} {x : ℚ} (hl : ∀ d ∈ l, d = x) (hne : l ≠ []) : smoothed 1 l = x := by
  obtain ⟨m, d, rfl⟩ := l.eq_nil_or_concat'.resolve_left hne
  rw [smoothed_eq_wilder (by simp) one_pos, wilder_one_snoc]
  exact hl d (by simp)

/-- Over one bar the reference looks at the last bar, the copy at the last one that moves. -/
theorem smoothed_one_iff (hms : ∀ m ∈ ms, m.OneWay) (hne : ms ≠ []) :
    smoothed 1 ((dis 1 avg ms).filterMap adxVal) = wilder 1 ((dis 1 avg ms).map dxValue) ↔
      (∃ m ∈ ms.getLast?, m.Directed) ∨ ∀ m ∈ ms, ¬m.Directed := by
  -- over one bar each average is its last entry
  obtain ⟨init, m, rfl⟩ := ms.eq_nil_or_concat'.resolve_left hne
  have hm : m.OneWay := hms m (by simp)
  have hentries : ∀ d ∈ (dis 1 avg (init ++ [m])).filterMap adxVal, d = 100 := by
    intro d hd
    rw [dis_one, List.filterMap_map, List.mem_filterMap] at hd
    obtain ⟨x, hx, hval⟩ := hd
    rw [Function.comp_apply, adxVal_one (hms x hx)] at hval
    grind
  have hempty : (dis 1 avg (init ++ [m])).filterMap adxVal = [] ↔ ∀ x ∈ init ++ [m], ¬x.Directed := by
    rw [dis_one, List.filterMap_map, List.filterMap_eq_nil_iff]
    refine forall₂_congr fun x hx => ?_
    rw [Function.comp_apply, adxVal_one (hms x hx)]
    simp [Movement.Directed]
  have hlast : wilder 1 ((dis 1 avg (init ++ [m])).map dxValue) = dxValue m.di := by
    rw [dis_one, List.map_append, List.map_append]
    exact wilder_one_snoc _ _
  rw [hlast, ← hempty]
  by_cases hkept : (dis 1 avg (init ++ [m])).filterMap adxVal = []
  · -- nothing moves
    have hno : ¬m.Directed := hempty.mp hkept m (by simp)
    rw [hkept, dxValue_of_not_directed hm.toSound hno]
    exact iff_of_true rfl (.inr rfl)
  · rw [smoothed_one hentries hkept]
    by_cases hdir : m.Directed
    · rw [dxValue_of_one_way hm.toSound hdir hm.one_way]
      simp [hdir]
    · rw [dxValue_of_not_directed hm.toSound hdir]
      simp [hdir, hkept]

/-! ## The seed -/

/-- When the seed has a direction. -/
theorem seed_directed_iff (hp : 0 < p) (hms : ∀ m ∈ ms, m.OneWay) :
    (Movement.seed p ms).Directed ↔ ∃ m ∈ ms.take p, m.Directed := by
  have hp0 : (0 : ℚ) < p := by exact_mod_cast hp
  show 0 < ((ms.take p).map (·.plusDM)).sum / (p : ℚ) + ((ms.take p).map (·.minusDM)).sum / (p : ℚ) ↔ _
  rw [← add_div, div_pos_iff_of_pos_right hp0, ← List.sum_map_add]
  apply sum_map_pos_iff
  intro m hm
  have hsound := hms m (List.mem_of_mem_take hm)
  exact add_nonneg hsound.plusDM_nonneg hsound.minusDM_nonneg

/-- The seed is sound. -/
theorem seed_sound (hp : 0 < p) (hms : ∀ m ∈ ms, m.OneWay) : (Movement.seed p ms).Sound := by
  have hp0 : (0 : ℚ) < p := by exact_mod_cast hp
  have htake : ∀ m ∈ ms.take p, m.OneWay := fun m hm => hms m (List.mem_of_mem_take hm)
  refine ⟨div_nonneg (List.sum_nonneg ?_) hp0.le, div_nonneg (List.sum_nonneg ?_) hp0.le,
    div_nonneg (List.sum_nonneg ?_) hp0.le, ?_⟩
  · exact List.forall_mem_map.mpr fun m hm => (htake m hm).plusDM_nonneg
  · exact List.forall_mem_map.mpr fun m hm => (htake m hm).minusDM_nonneg
  · exact List.forall_mem_map.mpr fun m hm => (htake m hm).tr_nonneg
  · intro hdirected
    obtain ⟨m, hm, hdir⟩ := (seed_directed_iff hp hms).mp hdirected
    apply div_pos _ hp0
    rw [sum_map_pos_iff fun x hx => (htake x hx).tr_nonneg]
    exact ⟨m, hm, (htake m hm).tr_pos hdir⟩

/-! ## Where the copies agree -/

/-- The windows in which it does not count that `fADXWilder` leaves out bars: too short ones, and those
where something moves before the first entry is due, or never. Over one bar an entry is about that bar
alone. -/
def NothingLeftOut (bs : List Bar) (period : ℤ) : Prop :=
  bs.length ≤ period * 2 ∨ period ≤ 0 ∨
    if period = 1 then
      (∃ s ∈ (steps bs).getLast?, Trends s.1 s.2) ∨ ∀ s ∈ (steps bs).drop 1, ¬Trends s.1 s.2
    else
      (∃ s ∈ (steps bs).take (period.toNat + 1), Trends s.1 s.2) ∨ ∀ s ∈ steps bs, ¬Trends s.1 s.2

section ADX
variable {highs lows closes : List ℚ} {period : ℤ}

theorem movements_length (bs : List Bar) : (movements bs).length = bs.length - 1 := by
  simp [movements, steps]

theorem movements_oneWay {bs : List Bar} (h : ∀ b ∈ bs, b.Sound) : ∀ m ∈ movements bs, m.OneWay := by
  refine List.forall_mem_map.mpr ?_
  rintro ⟨pb, b⟩ hs
  exact movement_oneWay (h pb (List.of_mem_zip hs).1)

/-- When some movement has a direction. -/
theorem exists_directed_iff (l : List (Bar × Bar)) :
    (∃ m ∈ l.map fun (pb, b) => movement pb b, m.Directed) ↔ ∃ s ∈ l, Trends s.1 s.2 := by
  induction l with
  | nil => simp
  | cons s l ih => rw [List.map_cons, List.exists_mem_cons_iff, ih, List.exists_mem_cons_iff,
      movement_directed_iff]

/-- When no movement has a direction. -/
theorem forall_not_directed_iff (l : List (Bar × Bar)) :
    (∀ m ∈ l.map fun (pb, b) => movement pb b, ¬m.Directed) ↔ ∀ s ∈ l, ¬Trends s.1 s.2 := by
  have h := not_congr (exists_directed_iff l)
  push Not at h
  exact h

/-- The directional indicators at the bars that get an entry. -/
def disOf (p : ℕ) (bs : List Bar) : List (ℚ × ℚ) :=
  dis p (.seed p (movements bs)) ((movements bs).drop p)

/-- Beyond the guard the two part in the average of the entries only. -/
theorem fADXWilder_eq_iff (hlen : ¬((bars highs lows closes).length ≤ period * 2 ∨ period ≤ 0)) :
    fADXWilder highs lows closes period = ADXWilder highs lows closes period ↔
      smoothed period.toNat ((disOf period.toNat (bars highs lows closes)).filterMap adxVal) =
        wilder period.toNat ((disOf period.toNat (bars highs lows closes)).map dxValue) := by
  have hlength : (movements (bars highs lows closes)).length - period.toNat ≠ 0 := by
    rw [movements_length]
    omega
  have hrest : (movements (bars highs lows closes)).drop period.toNat ≠ [] := by
    rwa [Ne, ← List.length_eq_zero_iff, List.length_drop]
  have href : ADXWilder highs lows closes period =
      (wilder period.toNat ((disOf period.toNat (bars highs lows closes)).map dxValue),
        (lastAvg period.toNat (.seed period.toNat (movements (bars highs lows closes)))
          ((movements (bars highs lows closes)).drop period.toNat)).di) := by
    unfold ADXWilder
    simp only [if_neg hlen]
    rw [if_neg (by simpa [dis_length] using hlength)]
    rfl
  have hfast : fADXWilder highs lows closes period =
      (smoothed period.toNat ((disOf period.toNat (bars highs lows closes)).filterMap adxVal),
        (lastAvg period.toNat (.seed period.toNat (movements (bars highs lows closes)))
          ((movements (bars highs lows closes)).drop period.toNat)).di) := by
    unfold fADXWilder smoothed disOf
    simp only [if_neg hlen, dis_getLastD _ hrest]
    split <;> rfl
  rw [href, hfast, Prod.ext_iff]
  exact and_iff_left rfl

/-- Found in the seed or right behind it, or nowhere behind it. -/
theorem seen_iff {α : Type} (P : α → Prop) (p : ℕ) (l : List α) :
    (((∃ x ∈ l.take p, P x) ∨ ∃ x ∈ (l.drop p).head?, P x) ∨ ∀ x ∈ l.drop p, ¬P x) ↔
      (∃ x ∈ l.take (p + 1), P x) ∨ ∀ x ∈ l, ¬P x := by
  have hsucc : (∃ x ∈ l.take (p + 1), P x) ↔
      (∃ x ∈ l.take p, P x) ∨ ∃ x ∈ (l.drop p).head?, P x := by
    rw [List.take_add_one, List.head?_drop]
    simp only [List.mem_append, Option.mem_toList, Option.mem_def, or_and_right, exists_or]
  have hall : (∀ x ∈ l, ¬P x) ↔ (¬∃ x ∈ l.take p, P x) ∧ ∀ x ∈ l.drop p, ¬P x := by
    push Not
    rw [← List.forall_mem_append, List.take_append_drop]
  rw [hsucc, hall]
  -- where the seed has it, both sides hold; elsewhere the two differ by the seed alone
  by_cases hfirst : ∃ x ∈ l.take p, P x
  · exact iff_of_true (.inl (.inl hfirst)) (.inl (.inl hfirst))
  · rw [or_iff_right hfirst, and_iff_right hfirst]

/-- **When the two agree.** The one over floats leaves nothing out that the other counts. -/
theorem fADXWilder_iff (h : ∀ b ∈ bars highs lows closes, b.Sound) :
    fADXWilder highs lows closes period = ADXWilder highs lows closes period ↔
      NothingLeftOut (bars highs lows closes) period := by
  by_cases hlen : (bars highs lows closes).length ≤ period * 2 ∨ period ≤ 0
  · have hfast : fADXWilder highs lows closes period = (0, 0, 0) := if_pos hlen
    have href : ADXWilder highs lows closes period = (0, 0, 0) := if_pos hlen
    rw [hfast, href]
    exact iff_of_true rfl (hlen.imp_right .inl)
  · have hms := movements_oneWay h
    have hguard : ∀ q : Prop, ((bars highs lows closes).length ≤ period * 2 ∨ period ≤ 0 ∨ q) ↔ q := by
      tauto
    have hdrop : ∀ m ∈ (movements (bars highs lows closes)).drop period.toNat, m.OneWay :=
      fun m hm => hms m (List.mem_of_mem_drop hm)
    have hcount : period.toNat ≤ ((movements (bars highs lows closes)).drop period.toNat).length := by
      rw [List.length_drop, movements_length]
      omega
    rw [fADXWilder_eq_iff hlen]
    unfold NothingLeftOut disOf
    rw [hguard]
    -- a period of one bar has its own rule
    split
    · next hone =>
        subst hone
        have hlong : 1 < (movements (bars highs lows closes)).length := by
          rw [movements_length]
          omega
        have hne : (movements (bars highs lows closes)).drop 1 ≠ [] := by
          rw [Ne, List.drop_eq_nil_iff]
          omega
        refine (smoothed_one_iff hdrop hne).trans ?_
        rw [List.getLast?_drop, if_neg (by omega)]
        unfold movements
        rw [List.getLast?_map, ← List.map_drop, forall_not_directed_iff]
        refine or_congr_left ?_
        cases (steps (bars highs lows closes)).getLast? with
        | none => simp
        | some s => simp [movement_directed_iff]
    · next hone =>
        rw [smoothed_iff (by omega) (seed_sound (by omega) hms) hdrop hcount,
          seed_directed_iff (by omega) hms, seen_iff]
        unfold movements
        rw [← List.map_take, exists_directed_iff, forall_not_directed_iff]

end ADX

theorem bars_map (candles : List Candle) :
    bars (candles.map (·.high)) (candles.map (·.low)) (candles.map (·.close)) =
      candles.map fun c => ⟨c.high, c.low, c.close⟩ := by
  unfold bars
  induction candles with
  | nil => rfl
  | cons c cs ih => simp only [List.map_cons, List.zipWith3, ih]

theorem IndicatorEngine.bars_eq (e : IndicatorEngine) :
    bars e.fHighs e.fLows e.fCloses = e.candles.map fun c => ⟨c.high, c.low, c.close⟩ :=
  bars_map e.candles

/-- The bars of an engine are sound. -/
theorem IndicatorEngine.bars_sound (e : IndicatorEngine) :
    ∀ b ∈ bars e.fHighs e.fLows e.fCloses, b.Sound := by
  rw [e.bars_eq]
  refine List.forall_mem_map.mpr ?_
  intro c hc
  exact ⟨(e.valid c hc).low_le_close, (e.valid c hc).close_le_high⟩

/-- Three of the copies always agree with the reference, and all four exactly where nothing is left
out. -/
theorem agree_iff (e : IndicatorEngine) (period : ℤ) :
    (fEMAWindow e.fCloses period = EMA e.fCloses period ∧
      fRSIWilder e.fCloses period = RSIWilder e.fCloses period ∧
      fATRWilder e.fHighs e.fLows e.fCloses period = ATRWilder e.fHighs e.fLows e.fCloses period ∧
      fADXWilder e.fHighs e.fLows e.fCloses period = ADXWilder e.fHighs e.fLows e.fCloses period) ↔
      NothingLeftOut (bars e.fHighs e.fLows e.fCloses) period := by
  rw [and_iff_right (fEMAWindow_eq _ _), and_iff_right (fRSIWilder_eq _ _),
    and_iff_right (fATRWilder_eq _ _ _ _)]
  exact fADXWilder_iff e.bars_sound

/-- Four flat bars and one that rises: the average is 50, and 100 in the copy. -/
theorem flat_bars_left_out :
    ¬∀ (e : IndicatorEngine) (period : ℤ),
      fEMAWindow e.fCloses period = EMA e.fCloses period ∧
      fRSIWilder e.fCloses period = RSIWilder e.fCloses period ∧
      fATRWilder e.fHighs e.fLows e.fCloses period = ATRWilder e.fHighs e.fLows e.fCloses period ∧
      fADXWilder e.fHighs e.fLows e.fCloses period = ADXWilder e.fHighs e.fLows e.fCloses period := by
  intro h
  obtain ⟨-, -, -, heq⟩ := h ([⟨2, 2, 2, 2⟩, ⟨2, 2, 2, 2⟩, ⟨2, 2, 2, 2⟩, ⟨2, 2, 2, 2⟩, ⟨2, 3, 2, 3⟩].foldl
    IndicatorEngine.process ⟨200, [], by simp⟩) 2
  revert heq
  decide +kernel

end PredictATrade.Realtime.Indicators
