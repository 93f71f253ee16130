import PredictATrade.Lib.Runs
import PredictATrade.Lib.Windows
import PredictATrade.Realtime.Features

/-!
# `Realtime.Swings` — swing points over whole runs

The structure engine looks for a swing at one bar a candle: the one that has just got its second bar on
the right. It keeps twice `lookback` candles, and when these slide it numbers them anew; the swings keep
their numbers. From then on the bar it looks at always has the same number, and after the first swing
found there every later one passes for one that is found already.

`faithful_throughout_iff` says exactly which sequences of candles are reported as they are: those with no
swing behind another one that far on, where the swings on file also keep the last five of each kind.
-/

namespace PredictATrade.Realtime.Features
open Lib.Runs Lib.Windows

/-! ## The swings of a sequence -/

/-- A swing of the sequence: the price, its kind, and the time of its bar. -/
structure Swing where
  price : Decimal
  isHigh : Bool
  timestamp : Time
  deriving DecidableEq, Repr

/-- The swings at the middle one of five bars. -/
def middleSwings : List Candle → List Swing
  | [a, b, c, d, e] =>
    (if a.high < c.high ∧ b.high < c.high ∧ d.high < c.high ∧ e.high < c.high then
        [⟨c.high, true, c.time⟩] else []) ++
    (if c.low < a.low ∧ c.low < b.low ∧ c.low < d.low ∧ c.low < e.low then
        [⟨c.low, false, c.time⟩] else [])
  | _ => []

/-- The swings of a sequence of candles, in time order. -/
def swingsOf (cs : List Candle) : List Swing := (windows 5 cs).flatMap middleSwings

/-- The swings that the last candle of a sequence confirms. -/
def confirmedBy (cs : List Candle) : List Swing := middleSwings (cs.rtake 5)

/-- The swing highs, or the swing lows. -/
def ofKind (high : Bool) (swings : List Swing) : List Swing := swings.filter (·.isHigh == high)

theorem middleSwings_of_length_lt {l : List Candle} (h : l.length < 5) : middleSwings l = [] := by
  unfold middleSwings
  split
  · simp at h
  · rfl

theorem swingsOf_snoc (cs : List Candle) (c : Candle) :
    swingsOf (cs ++ [c]) = swingsOf cs ++ confirmedBy (cs ++ [c]) := by
  unfold swingsOf confirmedBy
  rw [windows_snoc (by norm_num), List.flatMap_append]
  congr 1
  by_cases h : 5 ≤ cs.length + 1
  · rw [if_pos h, List.flatMap_singleton]
  · -- fewer than five bars have no middle one
    rw [if_neg h]
    have hlen : ((cs ++ [c]).rtake 5).length < 5 := by
      rw [length_rtake, List.length_append, List.length_singleton]
      omega
    rw [middleSwings_of_length_lt hlen]
    rfl

/-! ## Runs -/

/-- `NewStructureEngine`. -/
def newStructureEngine (lookback : ℤ) : StructureEngine :=
  { lookback := if lookback < 10 then 50 else lookback.toNat, confirmBars := 2 }

theorem ten_le_lookback (lookback : ℤ) : 10 ≤ (newStructureEngine lookback).lookback := by
  simp only [newStructureEngine]
  split <;> omega

/-- The swing of a point. -/
def SwingPoint.swing (p : SwingPoint) : Swing := ⟨p.price, p.isHigh, p.timestamp⟩

/-- The swing points that `detectSwings` adds. -/
def StructureEngine.found (e : StructureEngine) : List SwingPoint :=
  if e.candles.length < 5 then [] else e.swingsAt (e.candles.length - 3)

/-- The engine, the candles it has processed, the swing points it has ever recorded, and its last
report. -/
structure Structure where
  engine : StructureEngine
  candles : List Candle := []
  records : List SwingPoint := []
  features : StructureFeatures := {}

/-- The engine before any candle. -/
def start (lookback : ℤ) : Structure := { engine := newStructureEngine lookback }

/-- The engine after one more candle. -/
def next (s : Structure) (c : Candle) : Structure :=
  let (engine, features) := s.engine.process c
  { engine, features, candles := s.candles ++ [c]
    records := s.records ++ (s.engine.remember c).found }

/-- The prices of the swings of a kind. -/
def StructureFeatures.swings (feat : StructureFeatures) (high : Bool) : List Decimal :=
  if high then feat.swingHighs else feat.swingLows

/-- The swing points recorded are the swings of the sequence, and the last five of each kind are
reported. -/
def Faithful (s : Structure) : Prop :=
  s.records.map (·.swing) = swingsOf s.candles ∧
    ∀ high, s.features.swings high = ((ofKind high (swingsOf s.candles)).map (·.price)).rtake 5

instance (s : Structure) : Decidable (Faithful s) := inferInstanceAs (Decidable (_ ∧ _))

/-- The swings at the bars that the engine looks at after its candles begin to slide, or with the last
candle before. -/
def late (lookback : ℕ) (cs : List Candle) : List Swing := swingsOf (cs.drop (lookback * 2 - 5))

/-- The candle confirms no swing after a late one, and the last `lookback` swings have as many of each
kind as are to be reported. -/
def Kept (s : Structure) (c : Candle) : Prop :=
  let swings := swingsOf (s.candles ++ [c])
  (confirmedBy (s.candles ++ [c]) ≠ [] → late s.engine.lookback s.candles = []) ∧
    ∀ high, min 5 (ofKind high swings).length ≤ (ofKind high (swings.rtake s.engine.lookback)).length

/-! ## One candle -/

variable {e : StructureEngine} {c : Candle} {s : Structure}

/-- The candle that is remembered. -/
def CandleInfo.candle (i : CandleInfo) : Candle := ⟨i.high, i.low, i.close, i.timestamp⟩

/-- What the trend leaves alone of the engine. -/
def StructureEngine.core (e : StructureEngine) : ℕ × ℕ × List CandleInfo × List SwingPoint :=
  (e.lookback, e.confirmBars, e.candles, e.swings)

theorem breakUp_frame (feat : StructureFeatures) :
    (e.breakUp c feat).1.core = e.core ∧
      ∀ high, (e.breakUp c feat).2.swings high = feat.swings high := by
  unfold StructureEngine.breakUp
  split
  · exact ⟨rfl, fun _ => rfl⟩
  · split_ifs <;> exact ⟨rfl, fun _ => rfl⟩

theorem breakDown_frame (feat : StructureFeatures) :
    (e.breakDown c feat).1.core = e.core ∧
      ∀ high, (e.breakDown c feat).2.swings high = feat.swings high := by
  unfold StructureEngine.breakDown
  split
  · exact ⟨rfl, fun _ => rfl⟩
  · split_ifs
    · split <;> exact ⟨rfl, fun _ => rfl⟩
    · exact ⟨rfl, fun _ => rfl⟩

/-- The trend is followed on the swings that are on file, and these are what is reported. -/
theorem followTrend_frame :
    (e.followTrend c).1.core = e.core ∧
      ∀ high, (e.followTrend c).2.swings high = e.swingPrices high := by
  obtain ⟨hup, hfeat⟩ := breakUp_frame (e := e) (c := c)
    { swingHighs := e.swingPrices true, swingLows := e.swingPrices false
      currentTrend := e.lastTrend }
  obtain ⟨hdown, hfeat'⟩ := breakDown_frame (c := c) (e := (e.breakUp c _).1) (e.breakUp c _).2
  refine ⟨hdown.trans hup, fun high => ?_⟩
  refine ((hfeat' high).trans (hfeat high)).trans ?_
  cases high <;> rfl

/-- Five bars are where the engine begins to look. -/
theorem detectSwings_eq (hbars : e.confirmBars = 2) (hswings : e.swings.length ≤ e.lookback) :
    e.detectSwings = { e with swings := (e.swings ++ e.found).rtake e.lookback } := by
  have hfew : e.confirmBars * 2 + 1 = 5 := by omega
  unfold StructureEngine.detectSwings StructureEngine.found
  dsimp only
  rw [hfew]
  by_cases h : e.candles.length < 5
  · rw [if_pos h, if_pos h, List.append_nil, rtake_of_length_le hswings]
  · have hstart : max (e.candles.length - e.confirmBars - 1) e.confirmBars = e.candles.length - 3 := by
      omega
    have hcount : e.candles.length - e.confirmBars - (e.candles.length - 3) = 1 := by omega
    rw [if_neg h, if_neg h, hstart, hcount]
    rfl

theorem exists_last_five {α : Type} {l : List α} (h : 5 ≤ l.length) :
    ∃ pre a b c d e, l = pre ++ [a, b, c, d, e] := by
  have hlen : (l.drop (l.length - 5)).length = 5 := by
    rw [List.length_drop]
    omega
  obtain ⟨a, b, c, d, e, hlast⟩ : ∃ a b c d e, l.drop (l.length - 5) = [a, b, c, d, e] := by
    generalize l.drop (l.length - 5) = m at hlen
    match m, hlen with
    | [a, b, c, d, e], _ => exact ⟨a, b, c, d, e, rfl⟩
  refine ⟨l.take (l.length - 5), a, b, c, d, e, ?_⟩
  rw [← hlast, List.take_append_drop]

/-- The bar that the engine looks at is the middle one of the last five, unless its number is found
among the swings. -/
theorem found_spec (hbars : e.confirmBars = 2)
    (hnum : e.candles.map (·.index) = List.range e.candles.length) :
    (∀ r ∈ e.found, r.index + 3 = e.candles.length ∧ r.confirmed = true) ∧
      e.found.map (·.swing) =
        if e.swings.any (·.index + 3 == e.candles.length) then []
        else middleSwings ((e.candles.map (·.candle)).rtake 5) := by
  unfold StructureEngine.found
  by_cases h : e.candles.length < 5
  · rw [if_pos h]
    refine ⟨(fun _ hr => nomatch hr), ?_⟩
    have hfew : ((e.candles.map (·.candle)).rtake 5).length < 5 := by
      rw [length_rtake, List.length_map]
      omega
    rw [middleSwings_of_length_lt hfew, ite_self]
    rfl
  · rw [if_neg h]
    obtain ⟨pre, a, b, c, d, e', hcs⟩ := exists_last_five (not_lt.mp h)
    have hlen : e.candles.length = pre.length + 5 := by simp [hcs]
    have hi : e.candles.length - 3 = pre.length + 2 := by omega
    have hget : ∀ k, e.candles[pre.length + k]? = [a, b, c, d, e'][k]? := by
      intro k
      rw [hcs, List.getElem?_append_right (Nat.le_add_right _ _), Nat.add_sub_cancel_left]
    have hmid : e.candles[pre.length + 2]? = some c := hget 2
    have hindex : c.index = pre.length + 2 := by
      have hmap : (e.candles.map (·.index))[pre.length + 2]? = some c.index := by
        rw [List.getElem?_map, hmid]
        rfl
      rw [hnum, List.getElem?_range (by omega)] at hmap
      exact (Option.some.inj hmap).symm
    have hrtake : (e.candles.map (·.candle)).rtake 5 =
        [a.candle, b.candle, c.candle, d.candle, e'.candle] := by
      rw [hcs, List.map_append]
      exact rtake_append_of_le (Nat.le_refl 5)
    have hseen : (e.swings.any fun p => p.index == c.index) =
        e.swings.any (·.index + 3 == e.candles.length) := by
      refine congrArg e.swings.any (funext fun p => ?_)
      rw [Bool.eq_iff_iff, beq_iff_eq, beq_iff_eq]
      omega
    have hagainst : ∀ p : CandleInfo → CandleInfo → Bool,
        e.againstNeighbours p (pre.length + 2) = (p c b && p c d && (p c a && p c e')) := by
      intro p
      unfold StructureEngine.againstNeighbours
      rw [hmid, hbars]
      have ha : e.candles[pre.length]? = some a := hget 0
      have hb : e.candles[pre.length + 1]? = some b := hget 1
      have hd : e.candles[pre.length + 2 + 1]? = some d := hget 3
      have he : e.candles[pre.length + 2 + 2]? = some e' := hget 4
      simp [List.range', ha, hb, hd, he]
    -- five bars are kept, so that the middle one has two on each side
    rw [hrtake, hi]
    unfold StructureEngine.swingsAt
    rw [hmid]
    dsimp only
    rw [hseen, hagainst, hagainst]
    by_cases hfound : e.swings.any (·.index + 3 == e.candles.length) = true
    · rw [if_pos hfound, if_pos hfound]
      exact ⟨(fun _ hr => nomatch hr), rfl⟩
    · rw [if_neg hfound, if_neg hfound]
      constructor
      · intro r hr
        rcases List.mem_append.mp hr with hr | hr
        all_goals
          obtain ⟨_, rfl⟩ := List.mem_ite_nil_right.mp hr |>.imp_right List.mem_singleton.mp
          exact ⟨by show c.index + 3 = _; omega, rfl⟩
      · simp only [List.map_append, middleSwings, CandleInfo.candle, Bool.and_eq_true,
          decide_eq_true_eq]
        congr 1
        all_goals
          rw [apply_ite (List.map SwingPoint.swing)]
          exact if_congr (by tauto) rfl rfl

/-- What is true of every run, whether it is reported faithfully or not. The records are those made
before the candles slide, which are all the swings there are, and those made later, which all have the
number of the bar that the engine then looks at. -/
structure Shape (L : ℕ) (s : Structure) : Prop where
  lookback : s.engine.lookback = L
  confirmBars : s.engine.confirmBars = 2
  candles : s.engine.candles.map (·.candle) = s.candles.rtake (L * 2)
  numbered : s.engine.candles.map (·.index) = List.range s.engine.candles.length
  swings : s.engine.swings = s.records.rtake L
  confirmed : ∀ r ∈ s.records, r.confirmed = true
  records : ∃ before after, s.records = before ++ after ∧
    before.map (·.swing) = swingsOf (s.candles.take (L * 2 - 1)) ∧
    (∀ r ∈ before, r.index + 3 ≤ s.candles.length ∧ r.index + 3 < L * 2) ∧
    (∀ r ∈ after, r.index + 3 = L * 2) ∧
    (s.candles.length < L * 2 → after = [])
  reported : ∀ high, s.features.swings high =
    ((ofKind high (s.engine.swings.map (·.swing))).map (·.price)).rtake 5

/-- The engine before any candle. -/
theorem shape_start (lookback : ℤ) :
    Shape (newStructureEngine lookback).lookback (start lookback) where
  lookback := rfl
  confirmBars := rfl
  candles := (List.rtake_nil _).symm
  numbered := rfl
  swings := (List.rtake_nil _).symm
  confirmed := fun _ hr => nomatch hr
  records := by
    refine ⟨[], [], rfl, ?_, (fun _ hr => nomatch hr), (fun _ hr => nomatch hr), fun _ => rfl⟩
    show [] = swingsOf (List.take _ [])
    rw [List.take_nil]
    rfl
  reported := fun high => by cases high <;> rfl

theorem remember_frame (e : StructureEngine) (c : Candle) :
    (e.remember c).lookback = e.lookback ∧ (e.remember c).confirmBars = e.confirmBars ∧
      (e.remember c).swings = e.swings := by
  unfold StructureEngine.remember
  dsimp only
  split_ifs <;> exact ⟨rfl, rfl, rfl⟩

theorem renumber_candle (l : List CandleInfo) :
    (l.mapIdx fun i c => { c with index := i }).map (·.candle) = l.map (·.candle) := by
  apply List.ext_getElem?
  intro i
  simp only [List.getElem?_map, List.getElem?_mapIdx, Option.map_map]
  rfl

theorem renumber_index (l : List CandleInfo) :
    (l.mapIdx fun i c => { c with index := i }).map (·.index) = List.range l.length := by
  apply List.ext_getElem?
  intro i
  by_cases hi : i < l.length
  · simp [hi]
  · simp [hi]

/-- The candles kept are the last ones, numbered from zero. -/
theorem remember_candles (hnum : e.candles.map (·.index) = List.range e.candles.length) :
    (e.remember c).candles.map (·.candle) =
        (e.candles.map (·.candle) ++ [c]).rtake (e.lookback * 2) ∧
      (e.remember c).candles.map (·.index) = List.range (e.remember c).candles.length := by
  unfold StructureEngine.remember
  dsimp only
  split_ifs with h
  · constructor
    · rw [renumber_candle]
      show List.map _ (List.rtake _ _) = _
      rw [map_rtake, List.map_append]
      rfl
    · rw [renumber_index, List.length_mapIdx]
  · have hfit : e.candles.length + 1 ≤ e.lookback * 2 := by simpa using h
    constructor
    · rw [rtake_of_length_le (by simpa using hfit), List.map_append]
      rfl
    · rw [List.map_append, hnum, List.length_append, List.length_singleton, List.range_succ]
      rfl

variable {L : ℕ}

/-- The engine after a candle, with the swing points it has found put to the others. -/
theorem Shape.next_core (hs : Shape L s) :
    (next s c).engine.core =
      (L, 2, (s.engine.remember c).candles, (s.records ++ (s.engine.remember c).found).rtake L) := by
  obtain ⟨hlook, hbars, hswings⟩ := remember_frame s.engine c
  rw [hs.lookback] at hlook
  rw [hs.confirmBars] at hbars
  rw [hs.swings] at hswings
  have hfit : (s.engine.remember c).swings.length ≤ (s.engine.remember c).lookback := by
    rw [hswings, hlook, length_rtake]
    exact Nat.min_le_left _ _
  have hcore := (followTrend_frame (e := (s.engine.remember c).detectSwings) (c := c)).1
  refine hcore.trans ?_
  rw [detectSwings_eq hbars hfit]
  show (_, _, _, _) = _
  rw [hlook, hbars, hswings, rtake_rtake_append]

/-- The last five bars of the engine are those of the sequence. -/
theorem Shape.window (hs : Shape L s) (hL : 10 ≤ L) :
    ((s.engine.remember c).candles.map (·.candle)).rtake 5 = (s.candles ++ [c]).rtake 5 := by
  rw [(remember_candles hs.numbered).1, hs.candles, hs.lookback, rtake_rtake_append,
    rtake_rtake (by omega)]

theorem Shape.length (hs : Shape L s) :
    (s.engine.remember c).candles.length = min (s.candles.length + 1) (L * 2) := by
  have hlen := congrArg List.length (remember_candles (c := c) hs.numbered).1
  rw [List.length_map, hs.candles, hs.lookback, rtake_rtake_append, length_rtake,
    List.length_append, List.length_singleton] at hlen
  omega

/-- The number of the bar that is looked at is on file exactly when one was found there late. -/
theorem Shape.seen_iff (hs : Shape L s) (hL : 10 ≤ L) {before after : List SwingPoint}
    (hrec : s.records = before ++ after)
    (hbefore : ∀ r ∈ before, r.index + 3 ≤ s.candles.length ∧ r.index + 3 < L * 2)
    (hafter : ∀ r ∈ after, r.index + 3 = L * 2)
    (hshort : s.candles.length < L * 2 → after = []) :
    (s.engine.remember c).swings.any (·.index + 3 == (s.engine.remember c).candles.length) = true ↔
      after ≠ [] := by
  rw [(remember_frame s.engine c).2.2, hs.swings, hs.length, List.any_eq_true]
  constructor
  · -- an early record has the number of a bar that has gone by
    rintro ⟨r, hr, hindex⟩ hnil
    rw [beq_iff_eq] at hindex
    have hmem : r ∈ before ++ after := hrec ▸ rtake_suffix.subset hr
    rw [hnil, List.append_nil] at hmem
    obtain ⟨h1, h2⟩ := hbefore r hmem
    omega
  · intro hne
    have hlong : ¬ s.candles.length < L * 2 := fun h => hne (hshort h)
    obtain ⟨init, r, rfl⟩ := (List.eq_nil_or_concat' after).resolve_left hne
    obtain ⟨k, rfl⟩ : ∃ k, L = k + 1 := ⟨L - 1, by omega⟩
    refine ⟨r, ?_, ?_⟩
    · rw [hrec, ← List.append_assoc, List.rtake_concat_succ]
      exact List.mem_append_right _ (List.mem_singleton_self r)
    · have hr := hafter r (List.mem_append_right _ (List.mem_singleton_self r))
      rw [beq_iff_eq, hr]
      omega

theorem Shape.found (hs : Shape L s) (hL : 10 ≤ L) :
    (∀ r ∈ (s.engine.remember c).found,
      r.index + 3 = min (s.candles.length + 1) (L * 2) ∧ r.confirmed = true) ∧
    (s.engine.remember c).found.map (·.swing) =
      if (s.engine.remember c).swings.any (·.index + 3 == (s.engine.remember c).candles.length)
      then [] else confirmedBy (s.candles ++ [c]) := by
  have hbars : (s.engine.remember c).confirmBars = 2 :=
    (remember_frame s.engine c).2.1.trans hs.confirmBars
  have hspec := found_spec hbars (remember_candles (c := c) hs.numbered).2
  rw [hs.window hL, hs.length] at hspec
  rw [hs.length]
  exact hspec

/-- The prices of one kind among confirmed swing points. -/
theorem prices_ofKind {ps : List SwingPoint} (h : ∀ p ∈ ps, p.confirmed = true) (high : Bool) :
    (ps.filter fun p => p.confirmed && p.isHigh == high).map (·.price) =
      (ofKind high (ps.map (·.swing))).map (·.price) := by
  unfold ofKind
  rw [List.filter_map, List.map_map]
  congr 1
  apply List.filter_congr
  intro p hp
  rw [h p hp, Bool.true_and]
  rfl

theorem shape_next (hs : Shape L s) (hL : 10 ≤ L) : Shape L (next s c) := by
  have hcore := hs.next_core (c := c)
  obtain ⟨hindex, hfound⟩ := hs.found (c := c) hL
  have hconfirmed : ∀ r ∈ (next s c).records, r.confirmed = true := by
    intro r hr
    rcases List.mem_append.mp hr with hr | hr
    · exact hs.confirmed r hr
    · exact (hindex r hr).2
  have hlook : (next s c).engine.lookback = L := congrArg Prod.fst hcore
  have hcandles : (next s c).engine.candles = (s.engine.remember c).candles :=
    congrArg (·.2.2.1) hcore
  have hswings : (next s c).engine.swings = (next s c).records.rtake L := congrArg (·.2.2.2) hcore
  constructor
  case lookback => exact hlook
  case confirmBars => exact congrArg (·.2.1) hcore
  case candles =>
    rw [hcandles, (remember_candles hs.numbered).1, hs.candles, hs.lookback, rtake_rtake_append]
    rfl
  case numbered =>
    rw [hcandles]
    exact (remember_candles hs.numbered).2
  case swings => exact hswings
  case confirmed => exact hconfirmed
  case records =>
    obtain ⟨before, after, hrec, hmap, hbefore, hafter, hshort⟩ := hs.records
    have hseen := hs.seen_iff (c := c) hL hrec hbefore hafter hshort
    have hrecords : (next s c).records = s.records ++ (s.engine.remember c).found := rfl
    have hlen : (next s c).candles.length = s.candles.length + 1 := by simp [next]
    by_cases hN : s.candles.length + 1 < L * 2
    · -- the candles do not slide yet, and no bar has the number of another
      have hnil : after = [] := hshort (by omega)
      have hnew : ¬ (s.engine.remember c).swings.any
          (·.index + 3 == (s.engine.remember c).candles.length) = true := by
        rw [hseen]
        exact not_not.mpr hnil
      rw [if_neg hnew] at hfound
      refine ⟨before ++ (s.engine.remember c).found, [], ?_, ?_, ?_, (fun _ hr => nomatch hr),
        fun _ => rfl⟩
      · rw [hrecords, hrec, hnil, List.append_nil, List.append_nil]
      · rw [List.map_append, hmap, hfound, List.take_of_length_le (by omega),
          List.take_of_length_le (by omega)]
        exact (swingsOf_snoc s.candles c).symm
      · intro r hr
        rw [hlen]
        rcases List.mem_append.mp hr with hr | hr
        · have := hbefore r hr
          omega
        · have := (hindex r hr).1
          omega
    · refine ⟨before, after ++ (s.engine.remember c).found, ?_, ?_, ?_, ?_, fun h => ?_⟩
      · rw [hrecords, hrec, List.append_assoc]
      · rw [hmap]
        show _ = swingsOf ((s.candles ++ [c]).take (L * 2 - 1))
        rw [List.take_append_of_le_length (by omega)]
      · intro r hr
        have := hbefore r hr
        omega
      · intro r hr
        rcases List.mem_append.mp hr with hr | hr
        · exact hafter r hr
        · have := (hindex r hr).1
          omega
      · omega
  case reported =>
    intro high
    have hframe := followTrend_frame (e := (s.engine.remember c).detectSwings) (c := c)
    have hsame : (s.engine.remember c).detectSwings.swings = (next s c).engine.swings :=
      (congrArg (·.2.2.2) hframe.1).symm
    refine (hframe.2 high).trans ?_
    unfold StructureEngine.swingPrices
    rw [hsame, prices_ofKind]
    · rfl
    · intro p hp
      rw [hswings] at hp
      exact hconfirmed p (rtake_suffix.subset hp)

/-! ## Whole runs -/

/-- The last `L` swings have the last five prices of a kind exactly when they have as many. -/
theorem reported_iff (swings : List Swing) (high : Bool) :
    ((ofKind high (swings.rtake L)).map (·.price)).rtake 5 =
        ((ofKind high swings).map (·.price)).rtake 5 ↔
      min 5 (ofKind high swings).length ≤ (ofKind high (swings.rtake L)).length := by
  have hsuffix : (ofKind high (swings.rtake L)).map (·.price) <:+
      (ofKind high swings).map (·.price) := (rtake_suffix.filter _).map _
  rw [rtake_eq_iff_of_suffix hsuffix, List.length_map, List.length_map]

/-- From a faithful state, one candle is reported faithfully exactly when it is kept. -/
theorem Shape.faithful_next_iff (hs : Shape L s) (hL : 10 ≤ L) (hf : Faithful s) :
    Faithful (next s c) ↔ Kept s c := by
  have hnext := shape_next (c := c) hs hL
  obtain ⟨_, hfound⟩ := hs.found (c := c) hL
  obtain ⟨before, after, hrec, hmap, hbefore, hafter, hshort⟩ := hs.records
  have hseen := hs.seen_iff (c := c) hL hrec hbefore hafter hshort
  -- the swings that are not among the early ones are the late ones
  have hlate : after.map (·.swing) = late L s.candles := by
    have hsplit : swingsOf s.candles =
        swingsOf (s.candles.take (L * 2 - 1)) ++ swingsOf (s.candles.drop (L * 2 - 5)) := by
      have hpos : L * 2 - 5 + 5 - 1 = L * 2 - 1 := by omega
      unfold swingsOf
      rw [← List.flatMap_append, ← hpos, ← windows_split (by norm_num)]
    have hall := hf.1
    rw [hrec, List.map_append, hmap, hsplit] at hall
    exact List.append_cancel_left hall
  have hempty : after = [] ↔ late L s.candles = [] := by rw [← hlate, List.map_eq_nil_iff]
  have hrecords : (next s c).records.map (·.swing) = swingsOf (s.candles ++ [c]) ↔
      (confirmedBy (s.candles ++ [c]) ≠ [] → late L s.candles = []) := by
    show (s.records ++ (s.engine.remember c).found).map _ = _ ↔ _
    rw [List.map_append, hf.1, swingsOf_snoc, List.append_cancel_left_eq, hfound, ← hempty]
    by_cases hnew : after = []
    · rw [if_neg (fun h => hseen.mp h hnew)]
      exact iff_of_true rfl fun _ => hnew
    · rw [if_pos (hseen.mpr hnew)]
      constructor
      · exact fun h hne => absurd h.symm hne
      · exact fun h => (not_not.mp fun hne => hnew (h hne)).symm
  unfold Faithful Kept
  rw [hs.lookback]
  refine Iff.trans (and_congr_right fun heq => ?_) (and_congr_left fun _ => hrecords)
  apply forall_congr'
  intro high
  rw [hnext.reported high, hnext.swings, map_rtake, heq]
  exact reported_iff _ high

/-- **Which runs are faithful.** The swings of a sequence are recorded, each by the second candle after
its bar, and reported in every state exactly when each candle is kept. -/
theorem faithful_throughout_iff (lookback : ℤ) (cs : List Candle) :
    Throughout next Faithful (start lookback) cs ↔ Along next Kept (start lookback) cs := by
  have hL := ten_le_lookback lookback
  have hinit : Faithful (start lookback) := ⟨rfl, fun high => by cases high <;> rfl⟩
  have hrule : Throughout next Faithful (start lookback) cs ↔
      Faithful (start lookback) ∧ Along next Kept (start lookback) cs :=
    throughout_iff (J := Shape (newStructureEngine lookback).lookback)
      (fun _ _ hs => shape_next hs hL) (fun _ _ hs hf => hs.faithful_next_iff hL hf)
      (shape_start lookback)
  rw [hrule]
  exact and_iff_right hinit

/-- Flat bars, with peaks at the bars 17 and 20. -/
def twoPeaks : List Candle :=
  (List.range 23).map fun i =>
    ⟨if i = 17 ∨ i = 20 then 2410 else 2401, 2399, 2400, i⟩

/-- With ten bars of lookback the second peak is missed. -/
theorem second_peak_missed : ¬ Throughout next Faithful (start 10) twoPeaks := by
  intro h
  have hend : Faithful (run next (start 10) twoPeaks) := h twoPeaks List.prefix_rfl
  revert hend
  decide +kernel

end PredictATrade.Realtime.Features
