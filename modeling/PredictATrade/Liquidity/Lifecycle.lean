import PredictATrade.Lib.Paths
import PredictATrade.Lib.Table
import PredictATrade.Liquidity.Engine

/-!
# `Liquidity.Lifecycle` — the life of a mark

`nextStates` is the life that is declared for a mark. `advance_follows` says that the candle that
advances a mark takes it along these edges, and emits an event for each; as the edges only lead
forward, the rest is what `Lib.Paths` says of any path. `lifecycle` puts it together over whole runs
of `ProcessCandle`, with the bound on the number of candles that advance a mark.
-/

namespace PredictATrade.Liquidity
open Lib.Runs Lib.Paths Lib.Table
open FloatLike (num)

/-! ## The declared life -/

/-- The states that a state can go on to. -/
def nextStates : MarkState → List MarkState
  | .detected => [.active]
  | .active => [.approaching, .touched, .expired]
  | .approaching => [.touched, .swept, .expired]
  | .touched => [.swept, .expired]
  | .swept => [.reclaiming, .failed, .invalidated, .expired]
  | .reclaiming => [.reversalConfirmed, .expired]
  | .reversalConfirmed => [.signalEligible, .expired]
  | .signalEligible => [.expired]
  | .rejected | .mitigated | .invalidated | .expired | .failed => []

/-- A mark can go from one state to the other. -/
def Edge (s t : MarkState) : Prop := t ∈ nextStates s

instance (s t : MarkState) : Decidable (Edge s t) := inferInstanceAs (Decidable (_ ∈ _))

/-- How far a state is; the terminal states are the furthest. -/
def rank : MarkState → ℕ
  | .detected => 0
  | .active => 1
  | .approaching => 2
  | .touched => 3
  | .swept => 4
  | .reclaiming => 5
  | .rejected => 5
  | .reversalConfirmed => 6
  | .signalEligible => 7
  | .mitigated | .invalidated | .expired | .failed => 8

/-- The states of a mark whose life goes on. -/
def Tracked (s : MarkState) : Prop :=
  s ∈ [MarkState.active, .approaching, .touched, .swept, .reclaiming, .reversalConfirmed,
    .signalEligible]

instance (s : MarkState) : Decidable (Tracked s) := inferInstanceAs (Decidable (_ ∈ _))

/-- The edges lead forward. -/
theorem rank_lt_of_edge (s t : MarkState) (h : Edge s t) : rank s < rank t := by
  revert h
  cases s <;> cases t <;> decide

/-- An edge leads to a state whose life goes on, or to a terminal one. -/
theorem tracked_of_edge {s t : MarkState} (h : Edge s t) : Tracked t ∨ isTerminal t = true := by
  revert h
  cases s <;> cases t <;> decide

theorem edge_expired {s : MarkState} (h : Tracked s) : Edge s .expired := by
  revert h
  cases s <;> decide

/-- Before the touch a mark is new or approached. -/
theorem edge_touched {s : MarkState} (h : Tracked s)
    (hs : s ∉ [MarkState.touched, .swept, .reclaiming, .reversalConfirmed, .signalEligible]) :
    Edge s .touched := by
  revert h hs
  cases s <;> decide

/-- A path from a state whose life goes on ends in one, or in a terminal state. -/
theorem Path.tracked {s t : MarkState} {l : List (MarkState × MarkState)} (p : Path Edge s l t)
    (h : Tracked s ∨ isTerminal s = true) : Tracked t ∨ isTerminal t = true := by
  induction p with
  | nil => exact h
  | cons he _ ih => exact ih (tracked_of_edge he)

variable {F : Type}

/-- The edge that an event reports. -/
def DevilEvent.edge (ev : DevilEvent F) : MarkState × MarkState := (ev.stateFrom, ev.stateTo)

/-- The edges that the events of a mark report. -/
def Engine.log (e : Engine F) (id : ℕ) : List (MarkState × MarkState) :=
  (e.events.filter fun ev => ev.mark.id == id).map (·.edge)

/-! ## One advance -/

/-- What `advance` never changes of a mark after counting the bar. -/
def DevilMark.key (m : DevilMark F) : ℕ × String × String × Time × ℤ :=
  (m.id, m.symbol, m.timeframe, m.detectedAt, m.barsSinceDetect)

/-- From `a` to `a'` the mark has gone along edges of its life, each reported by an event. -/
structure Follows (a a' : Advancing F) : Prop where
  key : a'.mark.key = a.mark.key
  trail : ∃ evs, a'.events = a.events ++ evs ∧ (∀ ev ∈ evs, ev.mark.id = a.mark.id) ∧
    Path Edge a.mark.state (evs.map (·.edge)) a'.mark.state

theorem Follows.refl (a : Advancing F) : Follows a a :=
  ⟨rfl, [], by rw [List.append_nil], (fun _ h => nomatch h), .nil _⟩

theorem Follows.trans {a b c : Advancing F} (h : Follows a b) (h' : Follows b c) : Follows a c := by
  obtain ⟨hk, evs, he, hid, hp⟩ := h
  obtain ⟨hk', evs', he', hid', hp'⟩ := h'
  refine ⟨hk'.trans hk, evs ++ evs', by rw [he', he, List.append_assoc], ?_, ?_⟩
  · intro ev hev
    rcases List.mem_append.mp hev with hev | hev
    · exact hid ev hev
    · have hsame : b.mark.id = a.mark.id := congrArg Prod.fst hk
      rw [hid' ev hev, hsame]
  · rw [List.map_append]
    exact hp.append hp'

/-- Other fields of the mark do not matter. -/
theorem Follows.set {a : Advancing F} {f : DevilMark F → DevilMark F} (hk : (f a.mark).key = a.mark.key)
    (hs : (f a.mark).state = a.mark.state) : Follows a (a.set f) := by
  refine ⟨hk, [], by rw [List.append_nil]; rfl, (fun _ h => nomatch h), ?_⟩
  show Path Edge a.mark.state [] (f a.mark).state
  rw [hs]
  exact .nil _

theorem Follows.transition {a : Advancing F} {now : Time} {to_ : MarkState} {price : F} {etype : String}
    (he : Edge a.mark.state to_) : Follows a (a.transition now to_ price etype) := by
  unfold Advancing.transition
  split
  · exact Follows.refl a
  · refine ⟨rfl, _, rfl, ?_, ?_⟩
    · intro ev hev
      rw [List.mem_singleton.mp hev]
    · exact Path.single he

/-- The form of every step of `advance`: some fields are set, and the mark goes along an edge. -/
theorem Follows.set_transition {a : Advancing F} {f : DevilMark F → DevilMark F} {now : Time}
    {to_ : MarkState} {price : F} {etype : String} (hk : (f a.mark).key = a.mark.key)
    (hs : (f a.mark).state = a.mark.state) (he : Edge a.mark.state to_) :
    Follows a ((a.set f).transition now to_ price etype) := by
  refine Follows.trans (Follows.set hk hs) (Follows.transition ?_)
  show Edge (f a.mark).state to_
  rw [hs]
  exact he

theorem transition_state (a : Advancing F) (now : Time) (to_ : MarkState) (price : F) (etype : String) :
    (a.transition now to_ price etype).mark.state = to_ := by
  unfold Advancing.transition
  split
  · assumption
  · rfl

/-- What the candle makes of a mark, `advanced` or not. -/
structure Lives (cfg : Config F) (m : DevilMark F) (advanced : Bool) (a : Advancing F) : Prop where
  key : a.mark.key = (m.id, m.symbol, m.timeframe, m.detectedAt,
    m.barsSinceDetect + if advanced then 1 else 0)
  ids : ∀ ev ∈ a.events, ev.mark.id = m.id
  trail : Path Edge m.state (a.events.map (·.edge)) a.mark.state
  expires : advanced = true → cfg.markExpiryBars < m.barsSinceDetect + 1 → a.mark.state = .expired
  still : advanced = false → a = { mark := m }

section
variable {cfg : Config F} {m : DevilMark F} {advanced : Bool} {a : Advancing F}

theorem Lives.id_eq (h : Lives cfg m advanced a) : a.mark.id = m.id := congrArg Prod.fst h.key

theorem Lives.bars_eq (h : Lives cfg m advanced a) :
    a.mark.barsSinceDetect = m.barsSinceDetect + if advanced then 1 else 0 :=
  congrArg (fun k => k.2.2.2.2) h.key

theorem Lives.known (h : Lives cfg m advanced a) (hk : Tracked m.state ∨ isTerminal m.state = true) :
    Tracked a.mark.state ∨ isTerminal a.mark.state = true := Path.tracked h.trail hk

theorem lives_still (cfg : Config F) (m : DevilMark F) : Lives cfg m false { mark := m } where
  key := by
    show m.key = _
    simp [DevilMark.key]
  ids _ h := nomatch h
  trail := .nil _
  expires h := nomatch h
  still _ := rfl

end

variable [FloatLike F]

section
variable (cfg : Config F) (now : Time) (c : Candle F) (b : Bar F) (atr atrRef dist : F)
  (a : Advancing F)

theorem touch_follows (h : Tracked a.mark.state) : Follows a (touch cfg now c b atrRef a) := by
  unfold touch
  dsimp only
  split
  · rename_i hcond
    exact Follows.set_transition rfl rfl (edge_touched h hcond.1)
  · exact Follows.refl a

theorem approach_follows : Follows a (approach cfg now c b dist a) := by
  unfold approach
  split
  · rename_i hcond
    refine Follows.set_transition rfl rfl ?_
    rw [hcond.1]
    decide
  · exact Follows.refl a

theorem sweep_follows : Follows a (sweep cfg now c b atr atrRef a) := by
  unfold sweep
  dsimp only
  split
  · rename_i hcond
    have hedge : Edge a.mark.state .swept := by
      rcases hcond.1 with h | h <;> rw [h] <;> decide
    cases a.mark.direction <;> dsimp only <;> split
    · exact Follows.set_transition rfl rfl hedge
    · exact Follows.refl a
    · exact Follows.set_transition rfl rfl hedge
    · exact Follows.refl a
  · exact Follows.refl a

theorem resolve_follows : Follows a (resolve cfg now c b atr atrRef a) := by
  unfold resolve
  dsimp only
  split
  · rename_i hswept
    have hedge : ∀ t ∈ nextStates .swept, Edge a.mark.state t := fun t ht => by rw [hswept]; exact ht
    split
    · exact Follows.set_transition rfl rfl (hedge _ (by decide))
    · split
      · exact Follows.trans (Follows.transition (hedge _ (by decide))) (Follows.set rfl rfl)
      · split
        · exact Follows.trans (Follows.transition (hedge _ (by decide))) (Follows.set rfl rfl)
        · exact Follows.refl a
  · exact Follows.refl a

theorem confirmReversal_follows : Follows a (confirmReversal cfg now c b a) := by
  unfold confirmReversal
  dsimp only
  split
  · rename_i hcond
    have hedge : Edge a.mark.state .reversalConfirmed := by
      rw [hcond.1]
      decide
    refine Follows.trans ?_ (Follows.set rfl rfl)
    split
    · refine Follows.trans ?_ (Follows.transition ?_)
      · exact Follows.set_transition rfl rfl hedge
      · -- the mark has just been confirmed
        rw [transition_state]
        decide
    · exact Follows.set_transition rfl rfl hedge
  · exact Follows.refl a

/-- **One advance.** The bar is counted, and the mark goes along edges of its life, each reported by an
event of its own. -/
theorem advance_follows (m : DevilMark F) (h : Tracked m.state) :
    Follows { mark := m.countBar b atr } (advance cfg now c b atr m) := by
  unfold advance
  dsimp only
  split
  · exact Follows.trans (Follows.transition (edge_expired h)) (Follows.set rfl rfl)
  · refine Follows.trans (touch_follows cfg now c b (m.atrRef atr) _ h) ?_
    refine Follows.trans (approach_follows cfg now c b (m.distance b atr) _) ?_
    refine Follows.trans (sweep_follows cfg now c b atr (m.atrRef atr) _) ?_
    refine Follows.trans (resolve_follows cfg now c b atr (m.atrRef atr) _) ?_
    exact confirmReversal_follows cfg now c b _

/-- A mark that has been advanced too often expires. -/
theorem advance_expires (m : DevilMark F) (h : cfg.markExpiryBars < m.barsSinceDetect + 1) :
    (advance cfg now c b atr m).mark.state = .expired := by
  unfold advance
  dsimp only
  rw [if_pos (show cfg.markExpiryBars < (m.countBar b atr).barsSinceDetect from h)]
  exact transition_state ..

end

/-! ## One candle -/

/-- Does processing the candle advance the mark? -/
def Engine.advances (e : Engine F) (i : Input F) (m : DevilMark F) : Bool :=
  e.enabled && !decide ((i.candle.bar : Bar F).rng ≤ num 0) &&
    m.advancedBy (e.marks.map (·.id)) i.candle

/-- A mark that `detect` has just created, and the event of its creation. -/
structure Newborn (e : Engine F) (c : Candle F) (m : DevilMark F) (ev : DevilEvent F) : Prop where
  id : m.id = e.marksCreated
  symbol : m.symbol = c.symbol
  timeframe : m.timeframe = c.timeframe
  detectedAt : m.detectedAt = c.time
  state : m.state = .active
  bars : m.barsSinceDetect = 0
  event : ev.mark.id = m.id
  edge : ev.edge = (.detected, .active)
  unguarded : ∀ m₀ ∈ e.marks, m₀.guards e.cfg c c.bar = false

/-- What processing a candle does: each mark lives on as `f` says, and one may be born. -/
structure Processed (e : Engine F) (i : Input F) (f : DevilMark F → Advancing F)
    (born : Option (DevilMark F × DevilEvent F)) (e' : Engine F) : Prop where
  cfg : e'.cfg = e.cfg
  marks : e'.marks = e.marks.map (fun m => (f m).mark) ++ born.toList.map Prod.fst
  events : e'.events = e.events ++ born.toList.map Prod.snd ++ e.marks.flatMap fun m => (f m).events
  created : e'.marksCreated = e.marksCreated + born.toList.length
  lives : ∀ m ∈ e.marks, Lives e.cfg m (e.advances i m) (f m)
  newborn : ∀ x ∈ born, Newborn e i.candle x.1 x.2

/-- What holds of the engine between two candles. -/
structure Inv (e : Engine F) : Prop where
  fresh : ∀ m ∈ e.marks, m.id < e.marksCreated
  key : (e.marks.map (·.id)).Nodup
  known : ∀ m ∈ e.marks, Tracked m.state ∨ isTerminal m.state = true
  trail : ∀ m ∈ e.marks, Path Edge .detected (e.log m.id) m.state
  logged : ∀ ev ∈ e.events, ev.mark.id < e.marksCreated
  young : ∀ m ∈ e.marks,
    isTerminal m.state = true ∨ m.barsSinceDetect = 0 ∨ m.barsSinceDetect ≤ e.cfg.markExpiryBars
  bounded : ∀ m ∈ e.marks, 0 ≤ m.barsSinceDetect ∧
    m.barsSinceDetect ≤ max 1 (e.cfg.markExpiryBars + 1)

theorem createMark_cases (e : Engine F) (c : Candle F) (now : Time) (visit : Visit) (dir : MarkDirection)
    (r : Reading F) (h : ∀ m ∈ e.marks, m.guards e.cfg c c.bar = false) :
    e.createMark c now visit dir c.bar r = e ∨
      ∃ m ev, Newborn e c m ev ∧ e.createMark c now visit dir c.bar r =
        { e with
          marks := e.marks ++ [m], marksCreated := e.marksCreated + 1, events := e.events ++ [ev] } := by
  unfold Engine.createMark
  dsimp only
  split
  · exact Or.inl rfl
  · refine Or.inr ⟨_, _, ?_, rfl⟩
    exact ⟨rfl, rfl, rfl, rfl, rfl, rfl, rfl, rfl, h⟩

theorem detect_cases (e : Engine F) (c : Candle F) (now : Time) (visit : Visit) (r : Reading F) :
    e.detect c now visit c.bar r = e ∨
      ∃ m ev, Newborn e c m ev ∧ e.detect c now visit c.bar r =
        { e with
          marks := e.marks ++ [m], marksCreated := e.marksCreated + 1, events := e.events ++ [ev] } := by
  unfold Engine.detect
  dsimp only
  split
  · exact Or.inl rfl
  · rename_i hguard
    have hfree : ∀ m ∈ e.marks, m.guards e.cfg c c.bar = false := by
      intro m hm
      by_contra hg
      exact hguard (List.any_eq_true.mpr ⟨m, hm, Bool.eq_true_of_not_eq_false hg⟩)
    split
    · exact createMark_cases e c now visit .bullish r hfree
    · split
      · exact createMark_cases e c now visit .bearish r hfree
      · exact Or.inl rfl

/-- One mark under `advanceMarks`. -/
theorem lives_advance (cfg : Config F) (before : List ℕ) (i : Input F) (b : Bar F) (atr : F)
    (m : DevilMark F) (h : Tracked m.state ∨ isTerminal m.state = true) :
    Lives cfg m (m.advancedBy before i.candle)
      (if m.advancedBy before i.candle then advance cfg i.now i.candle b atr m
        else { mark := m }) := by
  cases hadv : m.advancedBy before i.candle with
  | false => exact lives_still cfg m
  | true =>
      have hopen : isTerminal m.state = false := by
        simp only [DevilMark.advancedBy, Bool.and_eq_true, Bool.not_eq_true'] at hadv
        exact hadv.1.2
      have ht : Tracked m.state := by
        rcases h with h | h
        · exact h
        · rw [hopen] at h
          cases h
      have hf := advance_follows cfg i.now i.candle b atr m ht
      obtain ⟨evs, hevs, hids, hpath⟩ := hf.trail
      rw [List.nil_append] at hevs
      refine ⟨hf.key, ?_, ?_, ?_, fun h => nomatch h⟩
      · intro ev hev
        exact hids ev (hevs ▸ hev)
      · show Path Edge m.state ((advance cfg i.now i.candle b atr m).events.map (·.edge)) _
        rw [hevs]
        exact hpath
      · intro _ hmax
        exact advance_expires cfg i.now i.candle b atr m hmax

/-- **One candle.** -/
theorem processCandle_processed (e : Engine F) (i : Input F) (h : Inv e) :
    ∃ f born, Processed e i f born (processCandle e i) := by
  have hskip : (∀ m, e.advances i m = false) →
      Processed e i (fun m => { mark := m }) none e := by
    intro hno
    refine ⟨rfl, by simp, ?_, rfl, ?_, fun x hx => nomatch hx⟩
    · simp [List.flatMap_eq_nil_iff]
    · intro m _
      rw [hno m]
      exact lives_still e.cfg m
  unfold processCandle
  dsimp only
  split
  · rename_i hoff
    refine ⟨_, none, hskip fun m => ?_⟩
    simp only [Bool.not_eq_true'] at hoff
    simp [Engine.advances, hoff]
  · rename_i hon
    split
    · rename_i hflat
      refine ⟨_, none, hskip fun m => ?_⟩
      simp [Engine.advances, hflat]
    · rename_i hrange
      have hadv : ∀ m : DevilMark F, e.advances i m = m.advancedBy (e.marks.map (·.id)) i.candle := by
        intro m
        simp only [Bool.not_eq_true', Bool.not_eq_false] at hon
        simp [Engine.advances, hon, hrange]
      set r := (e.read i.candle i.candle.bar).1
      -- reading the candle touches the statistics only
      have hlives : ∀ m ∈ e.marks, Lives e.cfg m (e.advances i m)
          (if m.advancedBy (e.marks.map (·.id)) i.candle then
            advance e.cfg i.now i.candle i.candle.bar r.atr m
          else { mark := m }) := by
        intro m hm
        rw [hadv m]
        exact lives_advance e.cfg _ i i.candle.bar r.atr m (h.known m hm)
      rcases detect_cases (e.read i.candle i.candle.bar).2 i.candle i.now i.visit r with
        hdet | ⟨m, ev, hnew, hdet⟩
      · refine ⟨_, none, ?_, ?_, ?_, ?_, hlives, fun x hx => nomatch hx⟩
        · rw [hdet]; rfl
        · rw [hdet]
          simp [Engine.advanceMarks, Engine.read]
        · rw [hdet]
          simp [Engine.advanceMarks, Engine.read, List.flatMap_map]
        · rw [hdet]; rfl
      · -- the mark that is born has an id that no mark had before
        have hstill : m.advancedBy (e.marks.map (·.id)) i.candle = false := by
          have hout : m.id ∉ e.marks.map (·.id) := by
            intro hmem
            obtain ⟨m₀, hm₀, heq⟩ := List.mem_map.mp hmem
            have hlt := h.fresh m₀ hm₀
            rw [heq, hnew.id] at hlt
            exact absurd hlt (Nat.lt_irrefl _)
          simp only [DevilMark.advancedBy, Bool.and_eq_false_iff]
          exact Or.inr (by simpa using hout)
        refine ⟨_, some (m, ev), ?_, ?_, ?_, ?_, hlives, ?_⟩
        · rw [hdet]; rfl
        · rw [hdet]
          simp [Engine.advanceMarks, Engine.read, hstill]
        · rw [hdet]
          simp [Engine.advanceMarks, Engine.read, List.flatMap_map, hstill]
        · rw [hdet]; rfl
        · intro x hx
          obtain rfl := Option.some.inj hx
          exact ⟨hnew.id, hnew.symbol, hnew.timeframe, hnew.detectedAt, hnew.state, hnew.bars,
            hnew.event, hnew.edge, hnew.unguarded⟩

/-! ## The invariant -/

section
variable {e e' : Engine F} {i : Input F} {f : DevilMark F → Advancing F}
  {born : Option (DevilMark F × DevilEvent F)}

/-- The marks after a candle: those there were, living on, and the one that is born. -/
theorem Processed.mem (hp : Processed e i f born e') {m' : DevilMark F} :
    m' ∈ e'.marks ↔ (∃ m ∈ e.marks, (f m).mark = m') ∨ ∃ ev, (m', ev) ∈ born := by
  rw [hp.marks, List.mem_append, List.mem_map, List.mem_map]
  simp [Option.mem_toList]

/-- The log of a mark grows by what it does under the candle. -/
theorem Processed.log (h : Inv e) (hp : Processed e i f born e') {m : DevilMark F}
    (hm : m ∈ e.marks) : e'.log m.id = e.log m.id ++ (f m).events.map (·.edge) := by
  have hown : (e.marks.flatMap fun m => (f m).events).filter (fun ev => ev.mark.id == m.id) =
      (f m).events :=
    filter_flatMap_of_key h.key (fun m hm ev hev => (hp.lives m hm).ids ev hev) hm
  have hborn : (born.toList.map Prod.snd).filter (fun ev => ev.mark.id == m.id) = [] := by
    refine List.filter_eq_nil_iff.mpr fun ev hev heq => ?_
    obtain ⟨x, hx, rfl⟩ := List.mem_map.mp hev
    have hnew := hp.newborn x (Option.mem_toList.mp hx)
    have hlt := h.fresh m hm
    rw [← beq_iff_eq.mp heq, hnew.event, hnew.id] at hlt
    exact absurd hlt (Nat.lt_irrefl _)
  unfold Engine.log
  rw [hp.events, List.filter_append, List.filter_append, hown, hborn, List.append_nil,
    List.map_append]

/-- The log of a mark that is born is its birth. -/
theorem Processed.log_born (h : Inv e) (hp : Processed e i f born e') {m : DevilMark F}
    {ev : DevilEvent F} (hm : (m, ev) ∈ born) : e'.log m.id = [(.detected, .active)] := by
  have hnew := hp.newborn _ hm
  have hold : e.events.filter (fun ev => ev.mark.id == m.id) = [] := by
    refine List.filter_eq_nil_iff.mpr fun ev' hev heq => ?_
    have hlt := h.logged ev' hev
    rw [beq_iff_eq.mp heq, hnew.id] at hlt
    exact absurd hlt (Nat.lt_irrefl _)
  have hothers : (e.marks.flatMap fun m => (f m).events).filter (fun ev => ev.mark.id == m.id) =
      [] := by
    refine List.filter_eq_nil_iff.mpr fun ev' hev heq => ?_
    obtain ⟨m₀, hm₀, hev⟩ := List.mem_flatMap.mp hev
    have hlt := h.fresh m₀ hm₀
    rw [← (hp.lives m₀ hm₀).ids ev' hev, beq_iff_eq.mp heq, hnew.id] at hlt
    exact absurd hlt (Nat.lt_irrefl _)
  unfold Engine.log
  have hself : [ev].filter (fun ev => ev.mark.id == m.id) = [ev] :=
    List.filter_cons_of_pos (beq_iff_eq.mpr hnew.event)
  rw [hp.events, List.filter_append, List.filter_append, hold, hothers, Option.mem_def.mp hm]
  show ([] ++ [ev].filter _ ++ []).map _ = _
  rw [hself]
  exact congrArg (fun x => [x]) hnew.edge

theorem advances_open {m : DevilMark F} (h : e.advances i m = true) : isTerminal m.state = false := by
  simp only [Engine.advances, DevilMark.advancedBy, Bool.and_eq_true, Bool.not_eq_true'] at h
  exact h.2.1.2

/-- **The step lemma.** -/
theorem Processed.inv (h : Inv e) (hp : Processed e i f born e') : Inv e' where
  fresh m' hm' := by
    rw [hp.created]
    rcases hp.mem.mp hm' with ⟨m, hm, rfl⟩ | ⟨ev, hb⟩
    · rw [(hp.lives m hm).id_eq]
      exact Nat.lt_of_lt_of_le (h.fresh m hm) (Nat.le_add_right _ _)
    · rw [(hp.newborn _ hb).id, Option.mem_def.mp hb]
      exact Nat.lt_succ_self _
  key := by
    have hids : (e.marks.map fun m => (f m).mark).map (·.id) = e.marks.map (·.id) := by
      rw [List.map_map]
      exact List.map_congr_left fun m hm => (hp.lives m hm).id_eq
    rw [hp.marks, List.map_append, hids]
    refine List.nodup_append.mpr ⟨h.key, ?_, ?_⟩
    · cases born <;> simp
    · rintro id hid id' hid' rfl
      obtain ⟨m, hm, rfl⟩ := List.mem_map.mp hid
      obtain ⟨m', hm', heq⟩ := List.mem_map.mp hid'
      obtain ⟨x, hx, rfl⟩ := List.mem_map.mp hm'
      have hlt := h.fresh m hm
      rw [← heq, (hp.newborn x (Option.mem_toList.mp hx)).id] at hlt
      exact absurd hlt (Nat.lt_irrefl _)
  known m' hm' := by
    rcases hp.mem.mp hm' with ⟨m, hm, rfl⟩ | ⟨ev, hb⟩
    · exact (hp.lives m hm).known (h.known m hm)
    · rw [(hp.newborn _ hb).state]
      exact Or.inl (by decide)
  trail m' hm' := by
    rcases hp.mem.mp hm' with ⟨m, hm, rfl⟩ | ⟨ev, hb⟩
    · rw [(hp.lives m hm).id_eq, hp.log h hm]
      exact (h.trail m hm).append (hp.lives m hm).trail
    · rw [hp.log_born h hb, (hp.newborn _ hb).state]
      exact Path.single (by decide)
  logged ev hev := by
    rw [hp.created]
    rw [hp.events, List.mem_append, List.mem_append] at hev
    rcases hev with (hev | hev) | hev
    · exact Nat.lt_of_lt_of_le (h.logged ev hev) (Nat.le_add_right _ _)
    · obtain ⟨x, hx, rfl⟩ := List.mem_map.mp hev
      have hb := Option.mem_toList.mp hx
      rw [(hp.newborn x hb).event, (hp.newborn x hb).id, Option.mem_def.mp hb]
      exact Nat.lt_succ_self _
    · obtain ⟨m, hm, hev⟩ := List.mem_flatMap.mp hev
      rw [(hp.lives m hm).ids ev hev]
      exact Nat.lt_of_lt_of_le (h.fresh m hm) (Nat.le_add_right _ _)
  young m' hm' := by
    rw [hp.cfg]
    rcases hp.mem.mp hm' with ⟨m, hm, rfl⟩ | ⟨ev, hb⟩
    · have hl := hp.lives m hm
      cases hadv : e.advances i m with
      | false =>
          rw [hadv] at hl
          rw [hl.still rfl]
          exact h.young m hm
      | true =>
          rw [hadv] at hl
          by_cases hmax : e.cfg.markExpiryBars < m.barsSinceDetect + 1
          · rw [hl.expires rfl hmax]
            exact Or.inl rfl
          · rw [hl.bars_eq]
            -- one bar older, and not too old yet
            exact Or.inr (Or.inr (not_lt.mp hmax))
    · exact Or.inr (Or.inl (hp.newborn _ hb).bars)
  bounded m' hm' := by
    rw [hp.cfg]
    rcases hp.mem.mp hm' with ⟨m, hm, rfl⟩ | ⟨ev, hb⟩
    · have hbars := (hp.lives m hm).bars_eq
      obtain ⟨hlo, hhi⟩ := h.bounded m hm
      cases hadv : e.advances i m with
      | false =>
          rw [hadv] at hbars
          rw [hbars, if_neg Bool.false_ne_true, add_zero]
          exact ⟨hlo, hhi⟩
      | true =>
          rw [hadv] at hbars
          -- only an open mark is advanced, so it was young
          have hage : m.barsSinceDetect = 0 ∨ m.barsSinceDetect ≤ e.cfg.markExpiryBars := by
            have hy := h.young m hm
            rw [advances_open hadv] at hy
            exact hy.resolve_left (by decide)
          rw [hbars, if_pos rfl]
          omega
    · rw [(hp.newborn _ hb).bars]
      omega

end

/-- A new engine has no marks. -/
theorem inv_new (cfg : Config F) : Inv (newEngine cfg) where
  fresh _ h := nomatch h
  key := List.nodup_nil
  known _ h := nomatch h
  trail _ h := nomatch h
  logged _ h := nomatch h
  young _ h := nomatch h
  bounded _ h := nomatch h

/-- The run lemma. -/
theorem inv_run (cfg : Config F) (is : List (Input F)) :
    Inv (run processCandle (newEngine cfg) is) := by
  refine run_keeps (fun e i h => ?_) (inv_new cfg) is
  obtain ⟨f, born, hp⟩ := processCandle_processed e i h
  exact hp.inv h

/-! ## Runs -/

section
variable {e : Engine F} {m : DevilMark F}

/-- A mark lives on, along the edges of its life. -/
theorem run_follows (h : Inv e) (hm : m ∈ e.marks) (is : List (Input F)) :
    ∃ m' ∈ (run processCandle e is).marks, m'.id = m.id ∧ ∃ l, Path Edge m.state l m'.state := by
  induction is generalizing e m with
  | nil => exact ⟨m, hm, rfl, [], .nil _⟩
  | cons i is ih =>
      obtain ⟨f, born, hp⟩ := processCandle_processed e i h
      have hl := hp.lives m hm
      obtain ⟨m', hm', hid, l, hpath⟩ := ih (hp.inv h) (hp.mem.mpr (Or.inl ⟨m, hm, rfl⟩))
      exact ⟨m', hm', hid.trans hl.id_eq, _, hl.trail.append hpath⟩

/-- A terminal mark stays as it is. -/
theorem run_terminal (h : Inv e) (hm : m ∈ e.marks) (ht : isTerminal m.state = true)
    (is : List (Input F)) : m ∈ (run processCandle e is).marks := by
  induction is generalizing e with
  | nil => exact hm
  | cons i is ih =>
      obtain ⟨f, born, hp⟩ := processCandle_processed e i h
      -- a candle advances open marks only
      have hstill : e.advances i m = false := by
        by_contra hadv
        have hopen := advances_open (Bool.eq_true_of_not_eq_false hadv)
        rw [ht] at hopen
        cases hopen
      have hl := hp.lives m hm
      rw [hstill] at hl
      refine ih (hp.inv h) (hp.mem.mpr (Or.inl ⟨m, hm, ?_⟩))
      rw [hl.still rfl]

end

section
variable (cfg : Config F) (is : List (Input F))

/-- The engine after the candles `is`. -/
def after : Engine F := run processCandle (newEngine cfg) is

/-- Does processing the candle advance the mark `id`? -/
def Engine.advancesId (id : ℕ) (e : Engine F) (i : Input F) : Option Unit :=
  if e.marks.any fun m => m.id == id && e.advances i m then some () else none

/-- How many of the candles advance the mark `id`. -/
def timesAdvanced (id : ℕ) : ℕ :=
  (trace processCandle (Engine.advancesId id) (newEngine cfg) is).length

theorem timesAdvanced_snoc (i : Input F) (id : ℕ) :
    timesAdvanced cfg (is ++ [i]) id =
      timesAdvanced cfg is id + ((after cfg is).advancesId id i).toList.length := by
  unfold timesAdvanced
  rw [trace_snoc, List.length_append]
  rfl

variable {is}

/-- The marks there are tell whether the mark `id` is advanced. -/
theorem advancesId_of_mem {e : Engine F} (h : Inv e) {m : DevilMark F} (hm : m ∈ e.marks)
    (i : Input F) : e.advancesId m.id i = if e.advances i m then some () else none := by
  unfold Engine.advancesId
  refine congrArg (fun p : Bool => if p then some () else none) ?_
  rw [Bool.eq_iff_iff, List.any_eq_true]
  constructor
  · rintro ⟨m₀, hm₀, h₀⟩
    rw [Bool.and_eq_true, beq_iff_eq] at h₀
    rw [eq_of_key h.key hm hm₀ h₀.1.symm]
    exact h₀.2
  · intro hadv
    exact ⟨m, hm, Bool.and_eq_true_iff.mpr ⟨beq_self_eq_true m.id, hadv⟩⟩

/-- `BarsSinceDetect` counts the candles that have advanced the mark. -/
theorem bars_eq_timesAdvanced (is : List (Input F)) :
    (∀ m ∈ (after cfg is).marks, m.barsSinceDetect = timesAdvanced cfg is m.id) ∧
      ∀ id, (after cfg is).marksCreated ≤ id → timesAdvanced cfg is id = 0 := by
  induction is using List.reverseRecOn with
  | nil =>
      constructor
      · intro m hm
        cases hm
      · intros
        rfl
  | append_singleton is i ih =>
      have hinv : Inv (after cfg is) := inv_run cfg is
      obtain ⟨f, born, hp⟩ := processCandle_processed (after cfg is) i hinv
      have hafter : after cfg (is ++ [i]) = processCandle (after cfg is) i := run_snoc ..
      -- an id that was not given yet has not been advanced by this candle either
      have hnone : ∀ id, (after cfg is).marksCreated ≤ id → timesAdvanced cfg (is ++ [i]) id = 0 := by
        intro id hid
        have hobs : (after cfg is).advancesId id i = none := by
          refine if_neg ?_
          rw [List.any_eq_true]
          rintro ⟨m, hm, h⟩
          rw [Bool.and_eq_true, beq_iff_eq] at h
          have hlt := hinv.fresh m hm
          rw [h.1] at hlt
          exact absurd hlt (Nat.not_lt.mpr hid)
        rw [timesAdvanced_snoc, ih.2 id hid, hobs]
        rfl
      rw [hafter]
      constructor
      · intro m' hm'
        rcases hp.mem.mp hm' with ⟨m, hm, rfl⟩ | ⟨ev, hb⟩
        · have hl := hp.lives m hm
          rw [hl.bars_eq, hl.id_eq, timesAdvanced_snoc, ih.1 m hm, advancesId_of_mem hinv hm]
          cases (after cfg is).advances i m <;> simp
        · have hnew := hp.newborn _ hb
          rw [hnew.bars, hnew.id, hnone _ (Nat.le_refl _)]
          rfl
      · intro id hid
        rw [hp.created] at hid
        exact hnone id (Nat.le_trans (Nat.le_add_right _ _) hid)

end

/-- The life of the marks over a run. -/
structure Lifecycle (cfg : Config F) (is : List (Input F)) : Prop where
  /-- States only move forward, from any moment of the run to its end. -/
  forward : ∀ pre post, is = pre ++ post → ∀ m ∈ (after cfg pre).marks,
    ∃ m' ∈ (after cfg is).marks, m'.id = m.id ∧ (m'.state = m.state ∨ rank m.state < rank m'.state)
  /-- Each event of a mark takes it forward as well. -/
  events : ∀ m ∈ (after cfg is).marks, ∀ s ∈ (after cfg is).log m.id, rank s.1 < rank s.2
  absorbing : ∀ pre post, is = pre ++ post → ∀ m ∈ (after cfg pre).marks,
    isTerminal m.state = true → m ∈ (after cfg is).marks
  /-- The candle that creates a mark does not advance it. -/
  newborn : ∀ pre i post, is = pre ++ i :: post → ∀ m ∈ (after cfg (pre ++ [i])).marks,
    (∀ m₀ ∈ (after cfg pre).marks, m₀.id ≠ m.id) →
      m.state = .active ∧ m.barsSinceDetect = 0 ∧
        (after cfg (pre ++ [i])).log m.id = [(.detected, .active)]
  sweptOnce : ∀ m ∈ (after cfg is).marks,
    ((after cfg is).log m.id).countP (fun s => s.2 == .swept) ≤ 1
  /-- The candle that is at least the last of `markExpiryBars + 1` makes the mark terminal. -/
  lifetime : ∀ m ∈ (after cfg is).marks, 1 ≤ timesAdvanced cfg is m.id →
    (newEngine cfg).cfg.markExpiryBars + 1 ≤ timesAdvanced cfg is m.id → isTerminal m.state = true
  /-- No mark is advanced more often than that. -/
  bounded : ∀ m ∈ (after cfg is).marks,
    (timesAdvanced cfg is m.id : ℤ) ≤ max 1 ((newEngine cfg).cfg.markExpiryBars + 1)

theorem after_append (cfg : Config F) (pre post : List (Input F)) :
    after cfg (pre ++ post) = run processCandle (after cfg pre) post := run_append ..

theorem after_cfg (cfg : Config F) (is : List (Input F)) : (after cfg is).cfg = (newEngine cfg).cfg := by
  induction is using List.reverseRecOn with
  | nil => rfl
  | append_singleton is i ih =>
      obtain ⟨f, born, hp⟩ := processCandle_processed (after cfg is) i (inv_run cfg is)
      rw [after_append]
      exact hp.cfg.trans ih

/-- **The life of a mark.** Over every run of `ProcessCandle` from a new engine, whatever the candles,
the configuration and the arithmetic. -/
theorem lifecycle (cfg : Config F) (is : List (Input F)) : Lifecycle cfg is where
  forward := by
    rintro pre post rfl m hm
    rw [after_append]
    obtain ⟨m', hm', hid, l, hpath⟩ := run_follows (inv_run cfg pre) hm post
    exact ⟨m', hm', hid, (hpath.eq_or_rank_lt rank_lt_of_edge).imp (fun h => h.2) fun h => h⟩
  events m hm s hs := rank_lt_of_edge _ _ (((inv_run cfg is).trail m hm).edge hs)
  absorbing := by
    rintro pre post rfl m hm ht
    rw [after_append]
    exact run_terminal (inv_run cfg pre) hm ht post
  newborn := by
    rintro pre i post rfl m hm hnew
    rw [after_append] at hm ⊢
    obtain ⟨f, born, hp⟩ := processCandle_processed (after cfg pre) i (inv_run cfg pre)
    rcases hp.mem.mp hm with ⟨m₀, hm₀, rfl⟩ | ⟨ev, hb⟩
    · exact absurd (hp.lives m₀ hm₀).id_eq.symm (hnew m₀ hm₀)
    · exact ⟨(hp.newborn _ hb).state, (hp.newborn _ hb).bars, hp.log_born (inv_run cfg pre) hb⟩
  sweptOnce m hm := by
    have hnd := ((inv_run cfg is).trail m hm).entered_nodup rank_lt_of_edge
    have hcount := List.nodup_iff_count_le_one.mp hnd .swept
    rwa [List.count, List.countP_map] at hcount
  lifetime m hm hone hmax := by
    have hbars := (bars_eq_timesAdvanced cfg is).1 m hm
    rcases (inv_run cfg is).young m hm with h | h | h
    · exact h
    · rw [hbars] at h
      omega
    · rw [hbars] at h
      change _ ≤ (after cfg is).cfg.markExpiryBars at h
      rw [after_cfg] at h
      omega
  bounded m hm := by
    rw [← (bars_eq_timesAdvanced cfg is).1 m hm, ← after_cfg cfg is]
    exact ((inv_run cfg is).bounded m hm).2

end PredictATrade.Liquidity
