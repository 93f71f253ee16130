import PredictATrade.Liquidity.Duplicates

/-!
# `Liquidity.Ingest` — the order in which candles are processed

`Ingest` hands each closed candle to a goroutine of its own, and these process their candles in the order in
which they get the lock. What the engine holds for a symbol and timeframe depends on the order of its own
candles and on nothing else, so other candles may come in between. Two candles of one series may not be
swapped, and nothing keeps them from it.

`ingest_as_submitted`: as long as each goroutine finds no earlier one of its series waiting, the marks and the
statistics are those of the candles processed one by one. A candle that makes a mark has to be scored in the same
order of the weights both times: a job carries that order, and the two runs have the same jobs. The order matters, as
sums are rounded (`overtaking_differs`).
-/

namespace PredictATrade.Liquidity
open Lib (Number)
open Lib.Runs

variable {F : Type}

/-! ## The goroutines -/

/-- The engine, and the jobs of the goroutines that wait for its lock, in the order of their submission. -/
structure Detector (F : Type) where
  engine : Engine F
  pending : List (Job F) := []

/-- What happens to the detector. -/
inductive Event (F : Type) where
  /-- `Ingest`; none stands for a nil pointer. -/
  | ingest (candle : Option (Candle F)) (isClosed : Bool) (visit : Visit)
  /-- A goroutine gets the lock; the others keep their order. -/
  | acquire (i : ℕ) (now : Time)

/-- The job for which `Ingest` starts a goroutine. -/
def Event.submits : Event F → Option (Job F)
  | .ingest candle isClosed visit => if isClosed then candle.map fun c => ⟨c, visit⟩ else none
  | .acquire _ _ => none

/-- The key of the engine's maps. -/
def seriesKey (symbol tf : String) : String := symbol ++ "|" ++ tf

/-- The series of a candle. -/
def Candle.series (c : Candle F) : String := seriesKey c.symbol c.timeframe

/-- The series of a job. -/
def Job.series (j : Job F) : String := j.candle.series

/-- The series of a mark. -/
def DevilMark.series (m : DevilMark F) : String := seriesKey m.symbol m.timeframe

section
variable [FloatLike F]

/-- The detector after an event. -/
def Detector.step (d : Detector F) : Event F → Detector F
  | .ingest candle isClosed visit =>
    { d with pending := d.pending ++ (Event.submits (.ingest candle isClosed visit)).toList }
  | .acquire i now =>
    match d.pending[i]? with
    | none => d
    | some j => { engine := processCandle d.engine ⟨j, now⟩, pending := d.pending.eraseIdx i }

/-- What is processed in a step. -/
def Detector.processes (d : Detector F) : Event F → Option (Input F)
  | .ingest _ _ _ => none
  | .acquire i now => d.pending[i]?.map fun j => ⟨j, now⟩

/-- The goroutine that gets the lock is the first of its series. -/
def Detector.InOrder (d : Detector F) : Event F → Prop
  | .ingest _ _ _ => True
  | .acquire i _ => ∀ j ∈ d.pending[i]?, ∀ j' ∈ d.pending.take i, j'.series ≠ j.series

end

/-! ## What the engine holds for a series -/

/-- The mark without its identifier and what was read off the clock. -/
def DevilMark.timeless (m : DevilMark F) : DevilMark F :=
  { m with
    id := 0
    updatedAt := 0
    expiredAt := none
    invalidatedAt := none
    resolvedAt := none }

/-- The configuration, the marks of the series and its statistics. -/
structure SeriesView (F : Type) where
  cfg : Config F
  enabled : Bool
  marks : List (DevilMark F)
  bodies : Option (RollingBuf F)
  vols : Option (RollingBuf F)
  atrEMA : Option F
  prevClose : Option F

/-- The marks of a series. -/
def Engine.marksOf (e : Engine F) (k : String) : List (DevilMark F) :=
  e.marks.filter (·.series = k)

/-- What the engine holds of a series, without what depends on the clock. -/
def Engine.view (k : String) (e : Engine F) : SeriesView F where
  cfg := e.cfg
  enabled := e.enabled
  marks := (e.marksOf k).map (·.timeless)
  bodies := e.bodies k
  vols := e.vols k
  atrEMA := e.atrEMA k
  prevClose := e.prevClose k

/-! ## A mark does not look at the clock -/

/-- The mark of `a` without what was read off the clock. -/
def Advancing.timeless (a : Advancing F) : Advancing F := { mark := a.mark.timeless }

/-- What a stage of `advance` makes of a mark does not depend on the clock. -/
def Blind (stage : Time → Advancing F → Advancing F) : Prop :=
  ∀ now a, (stage now a).timeless = (stage 0 a.timeless).timeless

theorem Blind.congr {stage : Time → Advancing F → Advancing F} (h : Blind stage) {now now' : Time}
    {a a' : Advancing F} (ha : a.timeless = a'.timeless) :
    (stage now a).timeless = (stage now' a').timeless := by
  rw [h, ha, ← h now' a']

variable [FloatLike F]
open FloatLike (num)

section
variable (cfg : Config F) (c : Candle F) (b : Bar F) (atr atrRef dist : F)

theorem blind_touch : Blind fun now a => touch cfg now c b atrRef a := by
  intro now a
  unfold touch Advancing.transition Advancing.set Advancing.timeless
  dsimp only [DevilMark.timeless]
  split_ifs <;> rfl

theorem blind_approach : Blind fun now a => approach cfg now c b dist a := by
  intro now a
  unfold approach Advancing.transition Advancing.set Advancing.timeless
  dsimp only [DevilMark.timeless]
  split_ifs <;> rfl

theorem blind_sweep : Blind fun now a => sweep cfg now c b atr atrRef a := by
  intro now a
  unfold sweep Advancing.transition Advancing.set Advancing.timeless
  dsimp only [DevilMark.timeless]
  cases hdirection : a.mark.direction <;> dsimp only <;> split_ifs <;> simp only [hdirection]

theorem blind_resolve : Blind fun now a => resolve cfg now c b atr atrRef a := by
  intro now a
  unfold resolve Advancing.transition Advancing.set Advancing.timeless DevilMark.reclaims DevilMark.breaks
    DevilMark.reclaim
  dsimp only [DevilMark.timeless]
  split_ifs <;> rfl

theorem blind_confirmReversal : Blind fun now a => confirmReversal cfg now c b a := by
  intro now a
  unfold confirmReversal Advancing.transition Advancing.set Advancing.timeless DevilMark.reverses
  dsimp only [DevilMark.timeless]
  split_ifs <;> rfl

omit [FloatLike F] in
theorem blind_expire : Blind fun now a =>
    (a.transition now .expired b.cl "EXPIRY").set fun m => { m with expiredAt := some now } := by
  intro now a
  unfold Advancing.transition Advancing.set Advancing.timeless
  dsimp only [DevilMark.timeless]
  split_ifs <;> rfl

theorem advance_timeless {m m' : DevilMark F} (h : m.timeless = m'.timeless) (now now' : Time) :
    (advance cfg now c b atr m).timeless = (advance cfg now' c b atr m').timeless := by
  have hatr : m.atrRef atr = m'.atrRef atr := congrArg (·.atrRef atr) h
  have hdist : m.distance b atr = m'.distance b atr := congrArg (·.distance b atr) h
  have hcount : (m.countBar b atr).timeless = (m'.countBar b atr).timeless :=
    congrArg (·.countBar b atr) h
  have hbars : (m.countBar b atr).barsSinceDetect = (m'.countBar b atr).barsSinceDetect :=
    congrArg (·.barsSinceDetect) hcount
  have ha : Advancing.timeless { mark := m.countBar b atr } =
      Advancing.timeless { mark := m'.countBar b atr } := by
    unfold Advancing.timeless
    rw [hcount]
  unfold advance
  dsimp only
  rw [hatr, hdist, hbars]
  split
  · exact (blind_expire b).congr ha
  · apply (blind_confirmReversal cfg c b).congr
    apply (blind_resolve cfg c b atr _).congr
    apply (blind_sweep cfg c b atr _).congr
    apply (blind_approach cfg c b _).congr
    exact (blind_touch cfg c b _).congr ha

end

/-! ## One candle -/

omit [FloatLike F] in
theorem series_of_isFor {m : DevilMark F} {c : Candle F} (h : m.isFor c = true) : m.series = c.series := by
  simp only [DevilMark.isFor, Bool.and_eq_true, beq_iff_eq] at h
  unfold DevilMark.series Candle.series
  rw [h.1, h.2]

/-- What a candle makes of a mark that was there before it. -/
def aged (cfg : Config F) (now : Time) (c : Candle F) (b : Bar F) (atr : F) (m : DevilMark F) : DevilMark F :=
  if m.isFor c && !isTerminal m.state then (advance cfg now c b atr m).mark else m

theorem aged_timeless (cfg : Config F) (c : Candle F) (b : Bar F) (atr : F) {m m' : DevilMark F}
    (h : m.timeless = m'.timeless) (now now' : Time) :
    (aged cfg now c b atr m).timeless = (aged cfg now' c b atr m').timeless := by
  have hfor : m.isFor c = m'.isFor c := congrArg (·.isFor c) h
  have hstate : m.state = m'.state := congrArg (·.state) h
  unfold aged
  rw [hfor, hstate]
  split
  · exact congrArg (·.mark) (advance_timeless cfg c b atr h now now')
  · exact h

/-- Only marks of its own series guard against a candle. -/
theorem any_guards (e : Engine F) (c : Candle F) (b : Bar F) :
    (e.marks.any fun m => m.guards e.cfg c b) =
      ((e.marksOf c.series).map (·.timeless)).any fun m => m.guards e.cfg c b := by
  rw [List.any_map]
  unfold Engine.marksOf
  rw [List.any_filter]
  congr 1
  funext m
  show m.guards e.cfg c b = (decide (m.series = c.series) && m.guards e.cfg c b)
  cases hfor : m.isFor c with
  | true => simp [series_of_isFor hfor]
  | false => simp [DevilMark.guards, hfor]

/-- Two engines that detect the same marks, up to identifiers and clocks. -/
structure Alike (e e' : Engine F) (c : Candle F) (d d' : Engine F) (new new' : List (DevilMark F)) : Prop where
  marks : d.marks = e.marks ++ new
  marks' : d'.marks = e'.marks ++ new'
  timeless : new.map (·.timeless) = new'.map (·.timeless)
  fresh : ∀ m ∈ new, m.id = e.marksCreated ∧ m.series = c.series
  fresh' : ∀ m ∈ new', m.id = e'.marksCreated ∧ m.series = c.series

omit [FloatLike F] in
theorem alike_none (e e' : Engine F) (c : Candle F) : Alike e e' c e e' [] [] :=
  ⟨(List.append_nil _).symm, (List.append_nil _).symm, rfl, by simp, by simp⟩

theorem createMark_alike {e e' : Engine F} (hcfg : e.cfg = e'.cfg) (c : Candle F) (now now' : Time)
    (visit : Visit) (dir : MarkDirection) (b : Bar F) (r : Reading F) :
    ∃ new new', Alike e e' c (e.createMark c now visit dir b r) (e'.createMark c now' visit dir b r) new new' := by
  unfold Engine.createMark
  dsimp only
  rw [hcfg]
  split
  · exact ⟨[], [], alike_none e e' c⟩
  · exact ⟨[_], [_], rfl, rfl, rfl, List.forall_mem_singleton.mpr ⟨rfl, rfl⟩,
      List.forall_mem_singleton.mpr ⟨rfl, rfl⟩⟩

theorem detect_alike {e e' : Engine F} {c : Candle F} (hview : e.view c.series = e'.view c.series)
    (now now' : Time) (visit : Visit) (b : Bar F) (r : Reading F) :
    ∃ new new', Alike e e' c (e.detect c now visit b r) (e'.detect c now' visit b r) new new' := by
  have hcfg : e.cfg = e'.cfg := congrArg (·.cfg) hview
  have hmarks : (e.marksOf c.series).map (·.timeless) = (e'.marksOf c.series).map (·.timeless) :=
    congrArg (·.marks) hview
  -- what guards the candle's level is in the view, up to clocks
  have hany : (e.marks.any fun m => m.guards e.cfg c b) = e'.marks.any fun m => m.guards e'.cfg c b := by
    rw [any_guards, any_guards, hmarks, hcfg]
  have hcreate (dir : MarkDirection) := createMark_alike hcfg c now now' visit dir b r
  unfold Engine.detect
  dsimp only
  rw [hany, hcfg]
  split
  · exact ⟨[], [], alike_none e e' c⟩
  · split
    · exact hcreate .bullish
    · split
      · exact hcreate .bearish
      · exact ⟨[], [], alike_none e e' c⟩

/-- The marks behind `advanceMarks`: those there were have aged, a new one has not. -/
theorem advanceMarks_marks {e d : Engine F} {new : List (DevilMark F)} (h : Inv e)
    (hmarks : d.marks = e.marks ++ new) (hfresh : ∀ m ∈ new, m.id = e.marksCreated) (now : Time)
    (c : Candle F) (b : Bar F) (atr : F) :
    (d.advanceMarks (e.marks.map (·.id)) now c b atr).marks =
      e.marks.map (aged d.cfg now c b atr) ++ new := by
  unfold Engine.advanceMarks
  dsimp only
  rw [List.map_map, hmarks, List.map_append]
  congr 1
  · apply List.map_congr_left
    intro m hm
    have hmem : (e.marks.map (·.id)).contains m.id = true := by
      simpa using ⟨m, hm, rfl⟩
    have hadv : m.advancedBy (e.marks.map (·.id)) c = (m.isFor c && !isTerminal m.state) := by
      unfold DevilMark.advancedBy
      rw [hmem, Bool.and_true]
    show (if m.advancedBy (e.marks.map (·.id)) c then _ else ({ mark := m } : Advancing F)).mark = _
    unfold aged
    rw [hadv]
    split <;> rfl
  · have hstill : ∀ m ∈ new, m.advancedBy (e.marks.map (·.id)) c = false := by
      intro m hm
      have hout : (e.marks.map (·.id)).contains m.id = false := by
        rw [List.contains_eq_any_beq, List.any_eq_false]
        intro id hid
        obtain ⟨m₀, hm₀, rfl⟩ := List.mem_map.mp hid
        -- a new mark's number is one that no mark had
        have hlt := h.fresh m₀ hm₀
        rw [hfresh m hm]
        simp
        omega
      unfold DevilMark.advancedBy
      rw [hout, Bool.and_false]
    have hid : new.map (fun m => m) = new := List.map_id new
    refine Eq.trans (List.map_congr_left ?_) hid
    intro m hm
    show (if m.advancedBy (e.marks.map (·.id)) c then _ else ({ mark := m } : Advancing F)).mark = m
    rw [hstill m hm]
    rfl

theorem aged_series (cfg : Config F) (now : Time) (c : Candle F) (b : Bar F) (atr : F) {m : DevilMark F}
    (h : Tracked m.state ∨ isTerminal m.state = true) : (aged cfg now c b atr m).series = m.series := by
  unfold aged
  split
  · next hadv =>
      have hopen : isTerminal m.state = false := by
        simp only [Bool.and_eq_true, Bool.not_eq_true'] at hadv
        exact hadv.2
      have ht : Tracked m.state := by
        apply h.resolve_right
        simp [hopen]
      have hkey := (advance_follows cfg now c b atr m ht).key
      unfold DevilMark.series
      rw [show (advance cfg now c b atr m).mark.symbol = m.symbol from congrArg (·.2.1) hkey,
        show (advance cfg now c b atr m).mark.timeframe = m.timeframe from congrArg (·.2.2.1) hkey]
  · rfl

/-- The marks of a series age as the whole list does. -/
theorem filter_aged {e : Engine F} (h : Inv e) (now : Time) (c : Candle F) (b : Bar F) (atr : F)
    (k : String) :
    (e.marks.map (aged e.cfg now c b atr)).filter (·.series = k) =
      (e.marksOf k).map (aged e.cfg now c b atr) := by
  unfold Engine.marksOf
  rw [List.filter_map]
  congr 1
  apply List.filter_congr
  intro m hm
  show decide ((aged e.cfg now c b atr m).series = k) = decide (m.series = k)
  rw [aged_series e.cfg now c b atr (h.known m hm)]

/-- Marks that are the same but for the clock age alike. -/
theorem map_aged_timeless (cfg : Config F) (now now' : Time) (c : Candle F) (b : Bar F) (atr : F)
    {ms ms' : List (DevilMark F)} (h : ms.map (·.timeless) = ms'.map (·.timeless)) :
    (ms.map (aged cfg now c b atr)).map (·.timeless) = (ms'.map (aged cfg now' c b atr)).map (·.timeless) := by
  induction ms generalizing ms' with
  | nil =>
      rw [List.map_nil, eq_comm, List.map_eq_nil_iff] at h
      rw [h]
      simp only [List.map_nil]
  | cons m ms ih =>
      rw [List.map_cons, eq_comm, List.map_eq_cons_iff] at h
      obtain ⟨m', ms', rfl, hm, hms⟩ := h
      simp only [List.map_cons]
      rw [ih hms.symm, aged_timeless cfg c b atr hm.symm now now']

theorem read_view {e e' : Engine F} {c : Candle F} (hview : e.view c.series = e'.view c.series)
    (b : Bar F) :
    (e.read c b).1 = (e'.read c b).1 ∧
      (e.read c b).2.view c.series = (e'.read c b).2.view c.series := by
  have hbodies : e.bodies c.series = e'.bodies c.series := congrArg (·.bodies) hview
  have hvols : e.vols c.series = e'.vols c.series := congrArg (·.vols) hview
  have hatr : e.atrEMA c.series = e'.atrEMA c.series := congrArg (·.atrEMA) hview
  have hclose : e.prevClose c.series = e'.prevClose c.series := congrArg (·.prevClose) hview
  have hkey : c.symbol ++ "|" ++ c.timeframe = c.series := rfl
  have hreading : (e.read c b).1 = (e'.read c b).1 := by
    unfold Engine.read
    dsimp only
    rw [hkey, hbodies, hvols, hatr, hclose]
  refine ⟨hreading, ?_⟩
  have hmarks : (e.marksOf c.series).map (·.timeless) = (e'.marksOf c.series).map (·.timeless) :=
    congrArg (·.marks) hview
  have hcfg : e.cfg = e'.cfg := congrArg (·.cfg) hview
  have henabled : e.enabled = e'.enabled := congrArg (·.enabled) hview
  unfold Engine.view
  congr 1
  · simp [Engine.read, put, hkey, hbodies]
  · simp [Engine.read, put, hkey, hvols]
  · show put e.atrEMA c.series (e.read c b).1.atr c.series = put e'.atrEMA c.series (e'.read c b).1.atr c.series
    rw [hreading]
    simp [put]
  · simp [Engine.read, put, hkey]

/-- The marks of the candle's series after it. -/
theorem marksOf_own {e d : Engine F} {new : List (DevilMark F)} {c : Candle F} (h : Inv e)
    (hcfg : d.cfg = e.cfg) (hmarks : d.marks = e.marks ++ new)
    (hfresh : ∀ m ∈ new, m.id = e.marksCreated ∧ m.series = c.series) (now : Time) (b : Bar F) (atr : F) :
    (d.advanceMarks (e.marks.map (·.id)) now c b atr).marksOf c.series =
      (e.marksOf c.series).map (aged e.cfg now c b atr) ++ new := by
  have hnew : new.filter (·.series = c.series) = new :=
    List.filter_eq_self.mpr fun m hm => by simpa using (hfresh m hm).2
  unfold Engine.marksOf
  rw [advanceMarks_marks h hmarks (fun m hm => (hfresh m hm).1), hcfg, List.filter_append, hnew,
    filter_aged h]
  rfl

/-- Detection adds marks and touches nothing else that is in a view. -/
theorem detect_rest (e : Engine F) (c : Candle F) (now : Time) (visit : Visit) (r : Reading F) :
    ∃ marks marksCreated events, e.detect c now visit c.bar r = { e with marks, marksCreated, events } := by
  rcases detect_cases e c now visit r with heq | ⟨m, ev, -, heq⟩
  · exact ⟨e.marks, e.marksCreated, e.events, heq⟩
  · exact ⟨_, _, _, heq⟩

/-- What the engine holds for the candle's series after it. -/
theorem view_own {e : Engine F} {new : List (DevilMark F)} {c : Candle F} {now : Time} {visit : Visit} {r : Reading F}
    (h : Inv e) (hmarks : ((e.read c c.bar).2.detect c now visit c.bar r).marks = e.marks ++ new)
    (hfresh : ∀ m ∈ new, m.id = e.marksCreated ∧ m.series = c.series) :
    (((e.read c c.bar).2.detect c now visit c.bar r).advanceMarks (e.marks.map (·.id)) now c c.bar r.atr).view
        c.series =
      { (e.read c c.bar).2.view c.series with
        marks := ((e.marksOf c.series).map (aged e.cfg now c c.bar r.atr) ++ new).map (·.timeless) } := by
  obtain ⟨marks, created, events, hdetect⟩ := detect_rest (e.read c c.bar).2 c now visit r
  rw [← marksOf_own h (by rw [hdetect]; rfl) hmarks hfresh now c.bar r.atr, hdetect]
  rfl

/-- **Its own series.** What a candle makes of its series depends on what the engine holds for it. -/
theorem processCandle_own {e e' : Engine F} {i j : Input F} (h : Inv e) (h' : Inv e')
    (hjob : i.toJob = j.toJob) (hview : e.view i.series = e'.view i.series) :
    (processCandle e i).view i.series = (processCandle e' j).view i.series := by
  have henabled : e.enabled = e'.enabled := congrArg (·.enabled) hview
  have hcfg : e.cfg = e'.cfg := congrArg (·.cfg) hview
  have hold : (e.marksOf i.series).map (·.timeless) = (e'.marksOf i.series).map (·.timeless) :=
    congrArg (·.marks) hview
  obtain ⟨⟨c, visit⟩, now⟩ := i
  obtain ⟨_, now'⟩ := j
  obtain rfl := hjob
  unfold Job.series at hview hold ⊢
  unfold processCandle
  dsimp only at hview hold ⊢
  rw [henabled]
  split
  · exact hview
  · split
    · exact hview
    · obtain ⟨hreading, hread⟩ := read_view hview c.bar
      rw [hreading]
      generalize (e'.read c c.bar).1 = r
      obtain ⟨new, new', halike⟩ := detect_alike hread now now' visit c.bar r
      rw [view_own h halike.marks halike.fresh, view_own h' halike.marks' halike.fresh', hread,
        List.map_append, List.map_append, halike.timeless, hcfg,
        map_aged_timeless e'.cfg now now' c c.bar r.atr hold]

/-- The marks of another series stay as they are. -/
theorem marksOf_other {e : Engine F} {i : Input F} {k : String} (h : Inv e) (hk : i.series ≠ k) :
    (processCandle e i).marksOf k = e.marksOf k := by
  obtain ⟨f, born, hp⟩ := processCandle_processed e i h
  have hseries : ∀ m ∈ e.marks, (f m).mark.series = m.series := by
    intro m hm
    have hkey := (hp.lives m hm).key
    unfold DevilMark.series
    rw [show (f m).mark.symbol = m.symbol from congrArg (·.2.1) hkey,
      show (f m).mark.timeframe = m.timeframe from congrArg (·.2.2.1) hkey]
  have hborn : (born.toList.map Prod.fst).filter (·.series = k) = [] := by
    refine List.filter_eq_nil_iff.mpr ?_
    intro m hm
    obtain ⟨x, hx, rfl⟩ := List.mem_map.mp hm
    have hnew := hp.newborn x (Option.mem_toList.mp hx)
    have : x.1.series = i.series := by
      unfold DevilMark.series Job.series Candle.series
      rw [hnew.symbol, hnew.timeframe]
    simpa [this] using hk
  have hstill : ∀ m ∈ e.marksOf k, (f m).mark = m := by
    intro m hm
    obtain ⟨hmem, hmk⟩ := List.mem_filter.mp hm
    have hadv : e.advances i m = false := by
      by_contra hadv
      simp only [Bool.not_eq_false, Engine.advances, DevilMark.advancedBy, Bool.and_eq_true] at hadv
      have hfor := series_of_isFor hadv.2.1.1
      exact hk (hfor.symm.trans (by simpa using hmk))
    have hlives := hp.lives m hmem
    rw [hadv] at hlives
    rw [hlives.still rfl]
  unfold Engine.marksOf at hstill ⊢
  rw [hp.marks, List.filter_append, hborn, List.append_nil, List.filter_map]
  have hsame : e.marks.filter ((fun m => decide (m.series = k)) ∘ fun m => (f m).mark) =
      e.marks.filter (·.series = k) := by
    apply List.filter_congr
    intro m hm
    show decide ((f m).mark.series = k) = decide (m.series = k)
    rw [hseries m hm]
  rw [hsame]
  exact (List.map_congr_left hstill).trans (List.map_id _)

/-- **Other series.** A candle leaves what the engine holds for another series. -/
theorem processCandle_other {e : Engine F} {i : Input F} {k : String} (h : Inv e)
    (hk : i.series ≠ k) : (processCandle e i).view k = e.view k := by
  have hmarks := marksOf_other h hk
  have hput {α : Type} (t : String → Option α) (v : α) : put t i.series v k = t k :=
    if_neg hk.symm
  unfold Engine.view
  rw [hmarks]
  unfold processCandle
  dsimp only
  split
  · rfl
  · split
    · rfl
    · obtain ⟨marks, created, events, hdetect⟩ :=
        detect_rest (e.read i.candle i.candle.bar).2 i.candle i.now i.visit
          (e.read i.candle i.candle.bar).1
      rw [hdetect]
      congr 1
      · exact hput e.bodies _
      · exact hput e.vols _
      · exact hput e.atrEMA _
      · exact hput e.prevClose _

/-! ## Runs -/

/-- Engines that have processed the same jobs of a series in the same order hold the same for it. -/
theorem view_run (cfg : Config F) {is js : List (Input F)} {k : String}
    (h : (is.map (·.toJob)).filter (·.series = k) = (js.map (·.toJob)).filter (·.series = k)) :
    (run processCandle (newEngine cfg) is).view k = (run processCandle (newEngine cfg) js).view k := by
  refine run_view (W := Inv) ?_ ?_ ?_ (inv_new cfg) (inv_new cfg) rfl h
  · intro e i hinv
    obtain ⟨f, born, hp⟩ := processCandle_processed e i hinv
    exact hp.inv hinv
  · intro e i k hinv hk
    exact processCandle_other hinv hk
  · intro e e' i j hinv hinv' hjob hview
    exact processCandle_own hinv hinv' hjob hview

/-- A new detector. -/
def Detector.start (cfg : Config F) : Detector F := { engine := newEngine cfg }

/-- The jobs that were submitted. -/
def submitted (evs : List (Event F)) : List (Job F) := evs.filterMap Event.submits

/-- What was processed. -/
def Detector.processed (d : Detector F) (evs : List (Event F)) : List (Input F) :=
  trace Detector.step Detector.processes d evs

/-- The engine of a detector is that of the jobs it has processed. -/
theorem engine_run (d : Detector F) (evs : List (Event F)) :
    (run Detector.step d evs).engine = run processCandle d.engine (d.processed evs) := by
  induction evs generalizing d with
  | nil => rfl
  | cons ev evs ih =>
      rw [run_cons, ih]
      show _ = run processCandle d.engine ((d.processes ev).toList ++ (d.step ev).processed evs)
      rw [run_append]
      cases ev with
      | ingest candle isClosed visit => rfl
      | acquire i now =>
          unfold Detector.step Detector.processes
          dsimp only
          cases d.pending[i]? <;> rfl

omit [FloatLike F] in
/-- The first of a series to be taken out of the list. -/
theorem filter_eraseIdx {pending : List (Job F)} {i : ℕ} {c : Job F} (hc : pending[i]? = some c)
    (hfirst : ∀ c' ∈ pending.take i, c'.series ≠ c.series) (k : String) :
    [c].filter (·.series = k) ++ (pending.eraseIdx i).filter (·.series = k) =
      pending.filter (·.series = k) := by
  obtain ⟨pre, post, hpre, hall, herase⟩ : ∃ pre post, pre = pending.take i ∧ pending = pre ++ c :: post ∧
      pending.eraseIdx i = pre ++ post := by
    obtain ⟨hi, rfl⟩ := List.getElem?_eq_some_iff.mp hc
    refine ⟨pending.take i, pending.drop (i + 1), rfl, ?_, List.eraseIdx_eq_take_drop_succ ..⟩
    rw [List.getElem_cons_drop, List.take_append_drop]
  rw [← hpre] at hfirst
  rw [herase, hall, List.filter_append, List.filter_append]
  by_cases hk : c.series = k
  · have hnone : pre.filter (·.series = k) = [] := by
      refine List.filter_eq_nil_iff.mpr ?_
      intro c' hc'
      simpa [← hk] using hfirst c' hc'
    simp [hnone, hk]
  · simp [hk]

/-- **The step lemma over runs.** Of each series, what was processed and what still waits are what was
submitted, in its order. -/
theorem processed_pending {d : Detector F} {evs : List (Event F)}
    (h : Along Detector.step Detector.InOrder d evs) (k : String) :
    ((d.processed evs).map (·.toJob)).filter (·.series = k) ++
        (run Detector.step d evs).pending.filter (·.series = k) =
      d.pending.filter (·.series = k) ++ (submitted evs).filter (·.series = k) := by
  induction evs generalizing d with
  | nil => simp [Detector.processed, trace, submitted]
  | cons ev evs ih =>
      obtain ⟨hfirst, hrest⟩ := h
      have hih := ih hrest
      cases ev with
      | ingest candle isClosed visit =>
          rw [run_cons]
          show ((d.step _).processed evs |>.map (·.toJob)).filter _ ++ _ = _
          rw [hih]
          show (d.pending ++ (Event.submits (.ingest candle isClosed visit)).toList).filter _ ++ _ = _
          rw [List.filter_append, List.append_assoc, ← List.filter_append]
          congr 2
          unfold submitted
          cases hsub : Event.submits (.ingest candle isClosed visit) with
          | none => rw [List.filterMap_cons_none hsub]; rfl
          | some c => rw [List.filterMap_cons_some hsub]; rfl
      | acquire i now =>
          have hsub : submitted (.acquire i now :: evs) = submitted evs := List.filterMap_cons_none rfl
          rw [run_cons, hsub]
          show (((d.processes (.acquire i now)).toList ++ (d.step (.acquire i now)).processed evs).map
            (·.toJob)).filter _ ++ _ = _
          rw [List.map_append, List.filter_append, List.append_assoc, hih, ← List.append_assoc]
          congr 1
          unfold Detector.step Detector.processes
          dsimp only
          cases hc : d.pending[i]? with
          | none => rfl
          | some c => exact filter_eraseIdx hc (hfirst c hc) k

/-- **Ingest.** If each goroutine that gets the lock is the first of its series, then in the end the engine
holds for each series what it would after processing the candles one by one as they were submitted, each scored
in the same order of the weights. -/
theorem ingest_as_submitted (cfg : Config F) {evs : List (Event F)}
    (h : Along Detector.step Detector.InOrder (.start cfg) evs)
    (hdone : (run Detector.step (.start cfg) evs).pending = []) {is : List (Input F)}
    (his : is.map (·.toJob) = submitted evs) (k : String) :
    (run Detector.step (.start cfg) evs).engine.view k =
      (run processCandle (newEngine cfg) is).view k := by
  have horder := processed_pending h k
  rw [hdone] at horder
  rw [engine_run]
  apply view_run cfg
  rw [his]
  simpa [Detector.start] using horder

/-- A candle that ends at `close`, `t` minutes after the start. -/
def candleAt (tf : String) (t : ℤ) (low high close : ℚ) : Candle Number :=
  ⟨"XAUUSD", tf, t * minute, low, high, low, close, 100, num (1 / 10)⟩

/-- A candle handed to `Ingest`, to be scored in the order of the map literal. -/
def submit (c : Candle Number) : Event Number := .ingest (some c) true .listed

/-- Two candles of one series, and the second goroutine gets the lock first. -/
def overtaking : List (Event Number) :=
  [submit (candleAt "M5" 0 100 101 101), submit (candleAt "M5" 5 101 104 103), .acquire 1 0, .acquire 0 0]

/-- Two candles of which the second makes a mark, and the order in which its weights are gone over. -/
def marking (visit : Visit) : List (Job Double) :=
  [⟨⟨"XAUUSD", "M5", 0, 1000, 1006, 999, 1005, 100, num (1 / 10)⟩, .listed⟩,
    ⟨⟨"XAUUSD", "M5", 5 * minute, 1005, 1045, 1005, 1044, 116, num (1 / 10)⟩, visit⟩]

/-- The weights the other way round. -/
def Visit.reversed : Visit := ⟨Component.all.reverse, List.reverse_perm _⟩

/-- The candles of `marking`, processed as they are submitted. -/
def marked : List (Event Double) :=
  (marking .listed).map (fun j => .ingest (some j.candle) true j.visit) ++ [.acquire 0 0, .acquire 0 0]

/-- The other way round the average true range is another one. And even in their order the candles may leave a mark of
another quality, if its weights are gone over in another order. -/
theorem overtaking_differs :
    (¬∀ (cfg : Config Number) (evs : List (Event Number)),
      ((submitted evs).Pairwise fun j j' => j.candle.time ≤ j'.candle.time) →
      (run Detector.step (.start cfg) evs).pending = [] →
      ∀ is : List (Input Number), is.map (·.toJob) = submitted evs → ∀ k,
        (run Detector.step (.start cfg) evs).engine.view k =
          (run processCandle (newEngine cfg) is).view k) ∧
      ¬∀ (cfg : Config Double) (evs : List (Event Double)),
        ((submitted evs).Pairwise fun j j' => j.candle.time ≤ j'.candle.time) →
        Along Detector.step Detector.InOrder (.start cfg) evs →
        (run Detector.step (.start cfg) evs).pending = [] →
        ∀ is : List (Input Double), is.map (·.candle) = (submitted evs).map (·.candle) → ∀ k,
          (run Detector.step (.start cfg) evs).engine.view k =
            (run processCandle (newEngine cfg) is).view k := by
  constructor
  · intro h
    have hview := h defaultConfig overtaking (by decide +kernel) rfl
      [⟨⟨candleAt "M5" 0 100 101 101, .listed⟩, 0⟩, ⟨⟨candleAt "M5" 5 101 104 103, .listed⟩, 0⟩] rfl
      "XAUUSD|M5"
    have hatr := congrArg (·.atrEMA) hview
    revert hatr
    decide +kernel
  · intro h
    have hfirst : Along Detector.step Detector.InOrder (.start defaultConfig) marked := by
      refine ⟨trivial, trivial, ?_, ?_, trivial⟩ <;>
      · rintro j - j' hj'
        cases hj'
    have hview := h defaultConfig marked (by decide +kernel) hfirst rfl
      ((marking .reversed).map fun j => ⟨j, 0⟩) rfl "XAUUSD|M5"
    have hquality := congrArg (fun v => v.marks.map (·.markQuality)) hview
    revert hquality
    decide +kernel

/-- Two series. The first candle of the one waits while the other one's gets the lock, and the second makes a mark. -/
def mixed : List (Event Number) :=
  [submit (m5 0 1000 1006 999 1005).candle, submit (candleAt "M1" 5 101 104 103),
    submit (m5 5 1005 1045 1005 1044).candle, .acquire 1 0, .acquire 0 0, .acquire 0 0]

/-- Two series of which one is overtaken, and a mark that is made. -/
theorem ingest_as_submitted_mixed :
    Along Detector.step Detector.InOrder (.start defaultConfig) mixed ∧
      ((run Detector.step (.start (defaultConfig : Config Number)) mixed).engine.view "XAUUSD|M5").marks.length = 1 ∧
      (run Detector.step (.start (defaultConfig : Config Number)) mixed).engine.view "XAUUSD|M5" =
        (run processCandle (newEngine defaultConfig)
          [m5 0 1000 1006 999 1005, ⟨⟨candleAt "M1" 5 101 104 103, .listed⟩, 0⟩,
            m5 5 1005 1045 1005 1044]).view "XAUUSD|M5" := by
  have horder : Along Detector.step Detector.InOrder (.start defaultConfig) mixed := by
    refine ⟨trivial, trivial, trivial, ?_, ?_, ?_, trivial⟩
    · rintro j hj j' hj'
      obtain rfl := Option.some.inj hj
      obtain rfl := List.mem_singleton.mp hj'
      decide +kernel
    · rintro j - j' hj'
      cases hj'
    · rintro j - j' hj'
      cases hj'
  exact ⟨horder, by decide +kernel, ingest_as_submitted defaultConfig horder rfl rfl "XAUUSD|M5"⟩

end PredictATrade.Liquidity
