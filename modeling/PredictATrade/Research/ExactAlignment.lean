import Mathlib.Data.List.TakeWhile
import Mathlib.Data.Int.ConditionallyCompleteOrder
import PredictATrade.Research.Alignment

/-!
# `Research.ExactAlignment` — the candle that has closed

How long a candle lasts is looked up in one table, by the scan that aligns candles and by the check that
certifies the alignment; a timeframe that the table does not have is taken to last five minutes. Against the
true lengths of the timeframes (`Lengths`), the scan finds the latest candle that has ended exactly when
no candle begins where the two lengths disagree about it (`aligned_exactly_iff`), and the check is exact
exactly when the lengths of all its timeframes agree (`verify_exact_iff`).
-/

namespace PredictATrade.Research

/-! ## Lengths and sorted data -/

/-- The true lengths of the timeframes, in minutes: those of the table for the names that it has. -/
structure Lengths where
  minutes : Timeframe → ℤ
  table : ∀ tf ∈ ["M1", "M5", "M15", "M30", "H1", "H4", "D1"], minutes tf = tfMinutes tf

/-- In microseconds. -/
def Lengths.period (lengths : Lengths) (tf : Timeframe) : ℤ := lengths.minutes tf * 60000000

/-- Candles of other timeframes, each timeframe's sorted by time. -/
structure SortedData where
  data : HigherTfData
  sorted : ∀ tf candles, data.lookup tf = some candles →
    candles.Pairwise fun c c' => c.timestamp ≤ c'.timestamp

/-- The candle has ended at `ts`, if it lasts this long. -/
def Ended (period : ℤ) (ts : Datetime) (c : HistoricalCandle) : Prop := c.timestamp + period ≤ ts

instance decidableEnded (period : ℤ) (ts : Datetime) : DecidablePred (Ended period ts) :=
  fun c => inferInstanceAs (Decidable (c.timestamp + period ≤ ts))

/-- The latest candle that has ended. -/
def lastEnded (period : ℤ) (candles : List HistoricalCandle) (ts : Datetime) :
    Option HistoricalCandle :=
  (candles.filter fun c => Ended period ts c).getLast?

section
variable {candles : List HistoricalCandle} {c : HistoricalCandle} {ts : Datetime} {period : ℤ}

theorem Ended.of_le {c' : HistoricalCandle} (h : Ended period ts c')
    (hle : c.timestamp ≤ c'.timestamp) : Ended period ts c :=
  (Int.add_le_add_right hle period).trans h

/-- On sorted candles the scan that stops at the first open one misses none. -/
theorem takeWhile_eq_filter (hsorted : candles.Pairwise fun c c' => c.timestamp ≤ c'.timestamp) :
    candles.takeWhile (fun c => Ended period ts c) = candles.filter fun c => Ended period ts c := by
  induction candles with
  | nil => rfl
  | cons c candles ih =>
    obtain ⟨hfirst, hrest⟩ := List.pairwise_cons.mp hsorted
    by_cases hended : Ended period ts c
    · rw [List.takeWhile_cons_of_pos (by simpa using hended),
        List.filter_cons_of_pos (by simpa using hended), ih hrest]
    · have hnone : (c :: candles).filter (fun c => Ended period ts c) = [] := by
        refine List.filter_eq_nil_iff.mpr fun c' hc' hended' => ?_
        rcases List.mem_cons.mp hc' with rfl | hc'
        · exact hended (of_decide_eq_true hended')
        · exact hended ((of_decide_eq_true hended' : Ended period ts c').of_le (hfirst c' hc'))
      rw [List.takeWhile_cons_of_neg (by simpa using hended), hnone]

/-- What the latest candle is: it has ended, and no candle that has ended begins after it. -/
theorem lastEnded_spec (hsorted : candles.Pairwise fun c c' => c.timestamp ≤ c'.timestamp)
    (h : lastEnded period candles ts = some c) :
    c ∈ candles ∧ Ended period ts c ∧
      ∀ c' ∈ candles, Ended period ts c' → c'.timestamp ≤ c.timestamp := by
  obtain ⟨pre, hpre⟩ := List.getLast?_eq_some_iff.mp h
  have hmem : c ∈ candles.filter fun c => Ended period ts c := by
    rw [hpre]
    exact List.mem_append_right _ (List.mem_singleton_self c)
  obtain ⟨hc, hended⟩ := List.mem_filter.mp hmem
  refine ⟨hc, of_decide_eq_true hended, fun c' hc' hended' => ?_⟩
  have hmem' : c' ∈ pre ++ [c] := hpre ▸ List.mem_filter.mpr ⟨hc', decide_eq_true hended'⟩
  have hpairs : (pre ++ [c]).Pairwise fun c c' => c.timestamp ≤ c'.timestamp :=
    hpre ▸ hsorted.sublist List.filter_sublist
  rcases List.mem_append.mp hmem' with hmem' | hmem'
  · exact (List.pairwise_append.mp hpairs).2.2 c' hmem' c (List.mem_singleton_self c)
  · rw [List.mem_singleton.mp hmem']

/-- There is none exactly when no candle has ended. -/
theorem lastEnded_eq_none_iff :
    lastEnded period candles ts = none ↔ ∀ c ∈ candles, ¬ Ended period ts c := by
  unfold lastEnded
  rw [List.getLast?_eq_none_iff, List.filter_eq_nil_iff]
  simp only [decide_eq_true_eq]

/-- Two lengths make the same candle the latest exactly when they agree about which candles have
ended. -/
theorem lastEnded_eq_iff {period' : ℤ}
    (hsorted : candles.Pairwise fun c c' => c.timestamp ≤ c'.timestamp) :
    lastEnded period candles ts = lastEnded period' candles ts ↔
      ∀ c ∈ candles, (Ended period ts c ↔ Ended period' ts c) := by
  constructor
  · intro heq c hc
    -- the latest candle has ended by both lengths, and so has every one that began before it
    have hside : ∀ {p q : ℤ}, lastEnded p candles ts = lastEnded q candles ts →
        Ended p ts c → Ended q ts c := by
      intro p q heq hended
      cases hlast : lastEnded p candles ts with
      | none => exact absurd hended (lastEnded_eq_none_iff.mp hlast c hc)
      | some last =>
        have hle := (lastEnded_spec hsorted hlast).2.2 c hc hended
        exact (lastEnded_spec hsorted (heq ▸ hlast)).2.1.of_le hle
    exact ⟨hside heq, hside heq.symm⟩
  · intro h
    unfold lastEnded
    rw [List.filter_congr fun c hc => decide_eq_decide.mpr (h c hc)]

end

/-! ## The aligner -/

section
variable {tfs : List Timeframe} {data : HigherTfData} {ts : Datetime} {tf : Timeframe}

/-- What `get_closed_candle` returns of a configured timeframe. -/
theorem lookup_higherCandles :
    (higherCandles tfs data ts).lookup tf =
      if tf ∈ tfs then (data.lookup tf).bind fun candles => findLastClosedCandle candles ts tf
      else none := by
  induction tfs with
  | nil => rfl
  | cons k tfs ih =>
    let found : Timeframe → Option HistoricalCandle := fun k =>
      (data.lookup k).bind fun candles => findLastClosedCandle candles ts k
    have hmap : ((data.lookup k).bind fun candles =>
        (findLastClosedCandle candles ts k).map fun c => (k, c)) =
          (found k).map fun c => (k, c) := by
      cases hdata : data.lookup k with
      | none => simp only [found, hdata, Option.bind_none, Option.map_none]
      | some candles => simp only [found, hdata, Option.bind_some]
    have hstep : higherCandles (k :: tfs) data ts =
        ((found k).map fun c => (k, c)).toList ++ higherCandles tfs data ts := by
      unfold higherCandles
      rw [List.filterMap_cons, hmap]
      cases found k <;> rfl
    rw [hstep]
    by_cases hk : tf = k
    · subst hk
      rw [if_pos List.mem_cons_self]
      cases hfound : found tf with
      | some c =>
        rw [show (data.lookup tf).bind _ = some c from hfound]
        exact List.lookup_cons_self
      | none =>
        rw [show (data.lookup tf).bind _ = none from hfound]
        show (higherCandles tfs data ts).lookup tf = none
        rw [ih, show (data.lookup tf).bind _ = none from hfound, ite_self]
    · have hmem : tf ∈ k :: tfs ↔ tf ∈ tfs := by
        rw [List.mem_cons, or_iff_right hk]
      rw [if_congr hmem rfl rfl, ← ih]
      cases found k with
      | none => rfl
      | some c =>
        show ((k, c) :: higherCandles tfs data ts).lookup tf = _
        rw [List.lookup_cons, beq_eq_false_iff_ne.mpr hk]

theorem mem_alignFrom {i : ℕ} {primaries : List HistoricalCandle} {a : TimeframeAlignment}
    (h : a ∈ alignFrom tfs data i primaries) :
    ∃ pc ∈ primaries, a.timestamp = pc.timestamp ∧
      a.higherTfCandles = higherCandles tfs data pc.timestamp := by
  induction primaries generalizing i with
  | nil => cases h
  | cons pc primaries ih =>
    rcases List.mem_cons.mp h with rfl | h
    · exact ⟨pc, List.mem_cons_self, rfl, rfl⟩
    · obtain ⟨pc', hpc', hrest⟩ := ih h
      exact ⟨pc', List.mem_cons_of_mem pc hpc', hrest⟩

variable (tfs data) in
theorem exists_alignFrom {i : ℕ} {primaries : List HistoricalCandle} {pc : HistoricalCandle}
    (h : pc ∈ primaries) :
    ∃ a ∈ alignFrom tfs data i primaries, a.timestamp = pc.timestamp ∧
      a.higherTfCandles = higherCandles tfs data pc.timestamp := by
  induction primaries generalizing i with
  | nil => cases h
  | cons pc' primaries ih =>
    rcases List.mem_cons.mp h with rfl | h
    · exact ⟨_, List.mem_cons_self, rfl, rfl⟩
    · obtain ⟨a, ha, hrest⟩ := ih (i := i + 1) h
      exact ⟨a, List.mem_cons_of_mem _ ha, hrest⟩

end

/-- The aligned candle of each configured timeframe is the latest that has truly ended, and absent when
there is none. -/
def AlignedExactly (lengths : Lengths) (tfs : List Timeframe) (data : HigherTfData)
    (a : TimeframeAlignment) : Prop :=
  ∀ tf ∈ tfs, a.higherTfCandles.lookup tf =
    (data.lookup tf).bind fun candles => lastEnded (lengths.period tf) candles a.timestamp

/-- The candle begins where the length of the table and the true length of its timeframe disagree
whether it has ended at `ts`. -/
def Disagree (lengths : Lengths) (tf : Timeframe) (ts : Datetime) (c : HistoricalCandle) : Prop :=
  ts - max (interval tf) (lengths.period tf) < c.timestamp ∧
    c.timestamp ≤ ts - min (interval tf) (lengths.period tf)

/-- Two lengths disagree whether what begins at `start` has ended, in a window between them. -/
theorem sides_iff (start period period' ts : ℤ) :
    (start + period ≤ ts ↔ start + period' ≤ ts) ↔
      ¬ (ts - max period period' < start ∧ start ≤ ts - min period period') := by
  omega

/-- In particular at the time when the shorter one is over. -/
theorem eq_of_sides {period period' : ℤ}
    (h : period ≤ min period period' ↔ period' ≤ min period period') : period = period' := by
  omega

/-- When two lengths agree on what has ended. -/
theorem ended_iff_iff {lengths : Lengths} {tf : Timeframe} {ts : Datetime} {c : HistoricalCandle} :
    (Ended (interval tf) ts c ↔ Ended (lengths.period tf) ts c) ↔ ¬ Disagree lengths tf ts c :=
  sides_iff c.timestamp (interval tf) (lengths.period tf) ts

/-- **Exact alignment.** On sorted data the aligned candles are the latest that have ended exactly when
no candle of a configured timeframe begins where the two lengths disagree about it. -/
theorem aligned_exactly_iff (lengths : Lengths) (tfs : List Timeframe) (d : SortedData)
    (primaries : List HistoricalCandle) :
    (∀ a ∈ align tfs primaries d.data, AlignedExactly lengths tfs d.data a) ↔
      ∀ pc ∈ primaries, ∀ tf ∈ tfs, ∀ candles, d.data.lookup tf = some candles →
        ∀ c ∈ candles, ¬ Disagree lengths tf pc.timestamp c := by
  have hone : ∀ (ts : Datetime), ∀ tf ∈ tfs,
      ((higherCandles tfs d.data ts).lookup tf =
          (d.data.lookup tf).bind fun candles => lastEnded (lengths.period tf) candles ts) ↔
        ∀ candles, d.data.lookup tf = some candles → ∀ c ∈ candles, ¬ Disagree lengths tf ts c := by
    intro ts tf htf
    rw [lookup_higherCandles, if_pos htf]
    cases hdata : d.data.lookup tf with
    | none => exact iff_of_true rfl fun candles h => by cases h
    | some candles =>
      have hsorted := d.sorted tf candles hdata
      have hscan : findLastClosedCandle candles ts tf = lastEnded (interval tf) candles ts :=
        congrArg List.getLast? (takeWhile_eq_filter hsorted)
      rw [Option.bind_some, Option.bind_some, hscan, lastEnded_eq_iff hsorted]
      simp only [ended_iff_iff]
      exact ⟨fun h candles' heq => Option.some.inj heq ▸ h, fun h => h candles rfl⟩
  constructor
  · intro h pc hpc tf htf
    obtain ⟨a, ha, hts, hcandles⟩ := exists_alignFrom tfs d.data (i := 0) hpc
    have hlaw := h a ha tf htf
    rw [hcandles, hts] at hlaw
    exact (hone pc.timestamp tf htf).mp hlaw
  · intro h a ha tf htf
    obtain ⟨pc, hpc, hts, hcandles⟩ := mem_alignFrom ha
    rw [hcandles, hts]
    exact (hone pc.timestamp tf htf).mpr (h pc hpc tf htf)

/-! ## The check -/

/-- No aligned candle truly ends after its alignment. -/
def NoneEndsLater (lengths : Lengths) (alignments : List TimeframeAlignment) : Prop :=
  ∀ a ∈ alignments, ∀ e ∈ a.higherTfCandles, Ended (lengths.period e.1) a.timestamp e.2

/-- **An exact check.** For alignments over some timeframes the check says whether an aligned candle ends
later exactly when the table has the true length of each of them. -/
theorem verify_exact_iff (lengths : Lengths) (tfs : List Timeframe) :
    (∀ alignments : List TimeframeAlignment,
        (∀ a ∈ alignments, ∀ e ∈ a.higherTfCandles, e.1 ∈ tfs) →
        (verifyNoLookahead alignments = true ↔ NoneEndsLater lengths alignments)) ↔
      ∀ tf ∈ tfs, interval tf = lengths.period tf := by
  have hverify : ∀ alignments, verifyNoLookahead alignments = true ↔
      ∀ a ∈ alignments, ∀ e ∈ a.higherTfCandles, Ended (interval e.1) a.timestamp e.2 := by
    intro alignments
    unfold verifyNoLookahead
    simp only [List.all_eq_true, decide_eq_true_eq]
    exact Iff.rfl
  constructor
  · intro h tf htf
    -- one candle, at the time when the shorter of the two lengths is over
    have hone := h
      [{ timestamp := min (interval tf) (lengths.period tf)
         primaryCandle := ⟨0, 0, 0, 0, 0, 0⟩
         higherTfCandles := [(tf, ⟨0, 0, 0, 0, 0, 0⟩)]
         primaryIndex := 0 }]
      (by
        intro a ha e he
        obtain rfl := List.mem_singleton.mp ha
        obtain rfl := List.mem_singleton.mp he
        exact htf)
    rw [hverify] at hone
    simp only [NoneEndsLater, List.forall_mem_singleton, Ended, zero_add] at hone
    exact eq_of_sides hone
  · intro h alignments htfs
    rw [hverify]
    refine forall₂_congr fun a ha => forall₂_congr fun e he => ?_
    rw [h e.1 (htfs a ha e he)]

/-! ## A configuration -/

/-- **Alignment against the true lengths.** For each sorted data the aligned candles are the right ones
exactly when none begins where the lengths disagree. They are the right ones for all sorted data, and
the check is exact on all alignments, exactly when the table has the true length of every configured
timeframe. -/
theorem alignment_exact_iff (lengths : Lengths) (higherTimeframes : List Timeframe) :
    (∀ (d : SortedData) (primaries : List HistoricalCandle),
      (∀ a ∈ align (higherTfs higherTimeframes) primaries d.data,
          AlignedExactly lengths (higherTfs higherTimeframes) d.data a) ↔
        ∀ pc ∈ primaries, ∀ tf ∈ higherTfs higherTimeframes, ∀ candles,
          d.data.lookup tf = some candles →
            ∀ c ∈ candles, ¬ Disagree lengths tf pc.timestamp c) ∧
    ((∀ (d : SortedData) (primaries : List HistoricalCandle),
        ∀ a ∈ align (higherTfs higherTimeframes) primaries d.data,
          AlignedExactly lengths (higherTfs higherTimeframes) d.data a) ∧
      (∀ alignments : List TimeframeAlignment,
        (∀ a ∈ alignments, ∀ e ∈ a.higherTfCandles, e.1 ∈ higherTfs higherTimeframes) →
          (verifyNoLookahead alignments = true ↔ NoneEndsLater lengths alignments)) ↔
      ∀ tf ∈ higherTfs higherTimeframes, interval tf = lengths.period tf) := by
  refine ⟨fun d primaries => aligned_exactly_iff lengths _ d primaries, ?_⟩
  rw [verify_exact_iff]
  refine and_iff_right_of_imp fun hlengths d primaries => ?_
  refine (aligned_exactly_iff lengths _ d primaries).mpr fun pc _ tf htf candles _ c _ => ?_
  refine ended_iff_iff.mp ?_
  rw [hlengths tf htf]

/-! ## A week taken for five minutes -/

/-- A week has 10080 minutes. -/
def withWeeks : Lengths where
  minutes := fun tf => if tf = "W1" then 10080 else tfMinutes tf
  table := by decide

/-- Data of one timeframe, with one candle. -/
def oneCandle (tf : Timeframe) (c : HistoricalCandle) : SortedData where
  data := [(tf, [c])]
  sorted := by
    intro tf' candles h
    rw [List.lookup_cons] at h
    split at h
    · obtain rfl := Option.some.inj h
      exact List.pairwise_singleton _ c
    · cases h

/-- A week that goes up by a hundred. -/
def week : HistoricalCandle :=
  { timestamp := 0, opening := 2000, high := 2110, low := 1990, close := 2100 }

/-- The fifth minute of it. -/
def fifthMinute : HistoricalCandle :=
  { timestamp := 300000000, opening := 2000, high := 2001, low := 1999, close := 2000 }

/-- Five minutes into the week its final candle is aligned, and the check has no objection. -/
theorem week_misaligned :
    (¬ ∀ a ∈ align ["W1"] [fifthMinute] (oneCandle "W1" week).data,
        AlignedExactly withWeeks ["W1"] (oneCandle "W1" week).data a) ∧
      ¬ (verifyNoLookahead (align ["W1"] [fifthMinute] (oneCandle "W1" week).data) = true ↔
        NoneEndsLater withWeeks (align ["W1"] [fifthMinute] (oneCandle "W1" week).data)) := by
  constructor
  · intro h
    have hlaw := h _ List.mem_cons_self "W1" List.mem_cons_self
    revert hlaw
    decide +kernel
  · intro h
    have hlater := h.mp (align_verified _ _ _)
    have hended : (0 : ℤ) + 10080 * 60000000 ≤ 300000000 :=
      hlater _ List.mem_cons_self ("W1", week) (by decide +kernel)
    revert hended
    decide

end PredictATrade.Research
