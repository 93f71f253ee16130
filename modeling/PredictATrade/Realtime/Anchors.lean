import Mathlib.Data.Rat.Defs
import Mathlib.Algebra.Order.Ring.Unbundled.Rat
import Mathlib.Algebra.Field.Rat
import Mathlib.Tactic.FieldSimp
import PredictATrade.Lib.Runs
import PredictATrade.Lib.Calendar

/-!
# `Realtime.Anchors` — the start-of-period equity that P&L is measured against

`PnLTracker.Update` reads the anchor of each period, and stores the current equity as one where the
period has none: with `SetNX`, or, over the anchor of an earlier period, with `Set`. Any number of
updates do so at the same time, each operation apart from the next, and each may fail.

`SetNX` and a read that finds an anchor of the period are safe. `Set` is not: between the read that
found the old anchor and the `Set` over it another update may have stored the new one. What holds
of a run, and what is lost by a write that comes too late, is said with the first anchor of each period
(`anchored_throughout_iff`).
-/

namespace PredictATrade.Realtime.Anchors

open Lib.Runs Lib.Calendar

/-! ## Periods -/

/-- The periods. -/
inductive Period where
  | day | week | month
  deriving DecidableEq, Repr

/-- Nanoseconds since 1970. -/
abbrev Time := ℤ

/-- A number with leading zeros. -/
def padded (width : ℕ) (n : ℤ) : String :=
  let digits := toString n
  String.ofList (List.replicate (width - digits.length) '0') ++ digits

/-- The days since 1970. -/
def daysOf (now : Time) : ℤ := now / 86400000000000

/-- The year of a month that is counted from March of the year 0. -/
def yearOf (m : ℤ) : ℤ := (m + 2) / 12

/-- `ISOWeek`: the year and the week are those of the Thursday. -/
def isoWeek (now : Time) : ℤ × ℤ :=
  let thursday := daysOf now - (daysOf now + 3) % 7 + 3 + epoch
  let year := yearOf (monthOf thursday)
  (year, (thursday - monthStart (12 * year - 2)) / 7 + 1)

/-- `PeriodID`. -/
def periodID (now : Time) (p : Period) : String :=
  let d := daysOf now + epoch
  let m := monthOf d
  let month := padded 4 (yearOf m) ++ "-" ++ padded 2 ((m + 2) % 12 + 1)
  match p with
  | .day => month ++ "-" ++ padded 2 (dayOf d + 1)
  | .week => padded 4 (isoWeek now).1 ++ "-W" ++ padded 2 (isoWeek now).2
  | .month => month

/-! ## Data -/

/-- The anchor of a period. -/
structure PeriodAnchor where
  periodID : String
  equity : ℚ
  setAt : Time
  deriving DecidableEq, Repr

/-- What is stored under a key: a record that `json.Unmarshal` takes, no bytes at all, or others. -/
inductive Raw where
  | anchor (a : PeriodAnchor)
  | corrupt
  | empty
  deriving DecidableEq, Repr

/-- The anchor store, with a key for each period. -/
abbrev Store := Period → Option Raw

/-- What an update reports. -/
structure PnLSnapshot where
  known : Bool
  equity : ℚ
  periodPc : Period → Option ℚ
  asOf : Time

/-- The equity of an anchor that is a valid one of the period. -/
def Raw.validFor (id : String) : Raw → Option ℚ
  | .anchor a => if a.periodID = id ∧ 0 < a.equity then some a.equity else none
  | .corrupt | .empty => none

/-- The change against an anchor, in per cent. -/
def pct (equity anchor : ℚ) : ℚ := (equity - anchor) / anchor * 100

/-! ## Updates -/

/-- The operation that comes next; a `Set` knows what the read before it has found. -/
inductive Phase where
  | get
  | setNX
  | getAgain
  | set (found : Raw)
  deriving DecidableEq, Repr

/-- An `Update` on its way. -/
structure Update where
  equity : ℚ
  now : Time
  period : Period := .day
  phase : Phase := .get
  periodPc : Period → Option ℚ := fun _ => none

/-- How an operation ends: it succeeds, it fails without effect, or it has its effect and is reported
as failed. -/
inductive Outcome where
  | ok | lost | unanswered
  deriving DecidableEq, Repr

/-- Where an update is after an operation. -/
inductive Progress where
  | going (u : Update)
  | done (snap : PnLSnapshot)

variable (u : Update) (store : Store) (o : Outcome)

/-- The period id the update computes. -/
def Update.id : String := periodID u.now u.period

/-- The anchor the update stores. -/
def Update.blob : PeriodAnchor := { periodID := u.id, equity := u.equity, setAt := u.now }

/-- A storage failure marks the snapshot unknown. -/
def Update.unknown : Progress :=
  .done { known := false, equity := u.equity, periodPc := u.periodPc, asOf := u.now }

/-- The percentage of the period is there, and the next period comes. -/
def Update.settle (v : ℚ) : Progress :=
  let periodPc := Function.update u.periodPc u.period (some v)
  match u.period with
  | .day => .going { u with period := .week, phase := .get, periodPc }
  | .week => .going { u with period := .month, phase := .get, periodPc }
  | .month => .done { known := true, equity := u.equity, periodPc, asOf := u.now }

/-- Does the operation write? -/
def Update.lands : Bool :=
  o != .lost &&
    match u.phase with
    | .setNX => (store u.period).isNone
    | .set _ => true
    | _ => false

/-- What a read returns, if there is anything in it. -/
def Update.read : Option Raw :=
  if o = .ok then (store u.period).filter fun raw => raw != .empty else none

/-- How `periodPct` goes on after an operation. -/
def Update.answer : Progress :=
  match u.phase with
  | .get =>
    match (u.read store o).bind (Raw.validFor u.id) with
    | some anchor => u.settle (pct u.equity anchor)
    | none => .going { u with phase := .setNX }
  | .setNX =>
    if o ≠ .ok then u.unknown
    else if (store u.period).isNone then u.settle 0
    else .going { u with phase := .getAgain }
  | .getAgain =>
    match u.read store o with
    | none => u.unknown
    | some raw =>
      match raw.validFor u.id with
      | some anchor => u.settle (pct u.equity anchor)
      | none => .going { u with phase := .set raw }
  | .set _ => if o ≠ .ok then u.unknown else u.settle 0

/-! ## Runs -/

/-- The store, the updates on their way, the snapshots they have returned, and the equity of the first
anchor of each period. -/
structure State where
  store : Store
  updates : ℕ → Option Update := fun _ => none
  snapshots : List PnLSnapshot := []
  first : Period → String → Option ℚ

/-- The store as it is found. -/
def start (store : Store) : State :=
  { store, first := fun p id => (store p).bind (Raw.validFor id) }

/-- An anchor is stored. -/
def State.write (s : State) (p : Period) (a : PeriodAnchor) : State :=
  { s with
    store := Function.update s.store p (some (.anchor a))
    first := fun q id =>
      if q = p ∧ id = a.periodID then some ((s.first q id).getD a.equity) else s.first q id }

/-- The update goes on, or it returns. -/
def State.proceed (s : State) (i : ℕ) : Progress → State
  | .going u => { s with updates := Function.update s.updates i (some u) }
  | .done snap =>
    { s with updates := Function.update s.updates i none, snapshots := s.snapshots ++ [snap] }

/-- What happens to the tracker. -/
inductive Event where
  /-- `Update` is called. -/
  | update (i : ℕ) (equity : ℚ) (now : Time)
  /-- The next operation of an update. -/
  | exec (i : ℕ) (o : Outcome)
  /-- The time of a key has run out. -/
  | expire (p : Period)

/-- The state after an event. -/
def step (s : State) : Event → State
  | .update i equity now =>
    if (s.updates i).isSome then s
    else if 0 < equity then s.proceed i (.going { equity, now })
    else s.proceed i (.done { known := false, equity, periodPc := fun _ => none, asOf := now })
  | .exec i o =>
    match s.updates i with
    | none => s
    | some u =>
      let s' := if u.lands s.store o then s.write u.period u.blob else s
      s'.proceed i (u.answer s.store o)
  | .expire p => { s with store := Function.update s.store p none }

/-- The percentage is the one against the first anchor of the period. -/
def Measures (s : State) (now : Time) (equity : ℚ) (p : Period) (v : Option ℚ) : Prop :=
  ∃ anchor, s.first p (periodID now p) = some anchor ∧ v = some (pct equity anchor)

/-- What is asked of a state. -/
structure Anchored (s : State) : Prop where
  /-- A valid anchor that is stored has the equity of the first one of its period. -/
  kept : ∀ p a, s.store p = some (.anchor a) → 0 < a.equity → s.first p a.periodID = some a.equity
  /-- A known snapshot measures against the first anchors. -/
  measured : ∀ snap ∈ s.snapshots, snap.known = true →
    ∀ p, Measures s snap.asOf snap.equity p (snap.periodPc p)
  /-- An anchor is written over only after a read that has found none of the period. -/
  found : ∀ i u raw, s.updates i = some u → u.phase = .set raw → raw.validFor u.id = none

/-- An anchor that is written is the first one of its period, or has the equity of the first. -/
def FirstOrSame (s : State) : Event → Prop
  | .exec i o => ∀ u, s.updates i = some u → u.lands s.store o = true →
    ∀ equity, s.first u.period u.id = some equity → equity = u.equity
  | _ => True

variable {u : Update} {store : Store} {o : Outcome} {s : State}

/-! ## Anchors -/

/-- A record that is valid for a period is an anchor with its id. -/
theorem validFor_eq_some {id : String} {raw : Raw} {e : ℚ} (h : raw.validFor id = some e) :
    ∃ a, raw = .anchor a ∧ a.periodID = id ∧ a.equity = e ∧ 0 < e := by
  cases raw with
  | anchor a =>
      unfold Raw.validFor at h
      dsimp only at h
      split at h
      · rename_i hvalid
        obtain rfl := Option.some.inj h
        exact ⟨a, rfl, hvalid.1, rfl, hvalid.2⟩
      · cases h
  | corrupt => cases h
  | empty => cases h

theorem read_eq_some {raw : Raw} (h : u.read store o = some raw) : store u.period = some raw := by
  unfold Update.read at h
  split at h
  · exact (Option.filter_eq_some_iff.mp h).1
  · cases h

/-- The first anchor of a period does not change. -/
theorem first_write {p q : Period} {a : PeriodAnchor} {id : String} {e : ℚ}
    (h : s.first q id = some e) : (s.write p a).first q id = some e := by
  show (if q = p ∧ id = a.periodID then some ((s.first q id).getD a.equity) else s.first q id) = some e
  rw [h]
  exact ite_self _

/-- And one that may be written is the first, from then on. -/
theorem first_write_self {p : Period} {a : PeriodAnchor}
    (h : ∀ e, s.first p a.periodID = some e → e = a.equity) :
    (s.write p a).first p a.periodID = some a.equity := by
  show (if p = p ∧ a.periodID = a.periodID then _ else _) = some a.equity
  rw [if_pos ⟨rfl, rfl⟩]
  cases hfirst : s.first p a.periodID with
  | none => rfl
  | some e => exact congrArg some (h e hfirst)

/-- What is stored has the equity of the first anchor. -/
def Kept (s : State) : Prop :=
  ∀ p a, s.store p = some (.anchor a) → 0 < a.equity → s.first p a.periodID = some a.equity

theorem Kept.write (hk : Kept s) {p : Period} {a : PeriodAnchor}
    (h : ∀ e, s.first p a.periodID = some e → e = a.equity) : Kept (s.write p a) := by
  intro q b hb hpos
  by_cases hq : q = p
  · subst hq
    have hstore : (s.write q a).store q = some (.anchor a) := Function.update_self ..
    rw [hstore] at hb
    obtain rfl := Raw.anchor.inj (Option.some.inj hb)
    exact first_write_self h
  · -- elsewhere the store is as it was, and so are the first anchors
    have hstore : (s.write p a).store q = s.store q := Function.update_of_ne hq _ _
    rw [hstore] at hb
    exact first_write (hk q b hb hpos)

/-- A write that comes too late is seen at once. -/
theorem Kept.not_write {p : Period} {a : PeriodAnchor} {e : ℚ} (hfirst : s.first p a.periodID = some e)
    (hne : e ≠ a.equity) (hpos : 0 < a.equity) : ¬ Kept (s.write p a) := by
  intro hk
  have hstore : (s.write p a).store p = some (.anchor a) := Function.update_self ..
  have hsame := hk p a hstore hpos
  rw [first_write hfirst] at hsame
  exact hne (Option.some.inj hsame)

theorem Measures.write {now : Time} {equity : ℚ} {p q : Period} {v : Option ℚ} {a : PeriodAnchor}
    (h : Measures s now equity q v) : Measures (s.write p a) now equity q v := by
  obtain ⟨e, hfirst, hv⟩ := h
  exact ⟨e, first_write hfirst, hv⟩

/-! ## Updates -/

/-- The place of a period in the order they are gone through. -/
def Period.rank : Period → ℕ
  | .day => 0
  | .week => 1
  | .month => 2

/-- An update on its way: the periods it has gone through are measured. -/
structure Update.Sound (s : State) (u : Update) : Prop where
  pos : 0 < u.equity
  passed : ∀ p, p.rank < u.period.rank → Measures s u.now u.equity p (u.periodPc p)
  found : ∀ raw, u.phase = .set raw → raw.validFor u.id = none

/-- A snapshot that is known is measured. -/
def PnLSnapshot.Sound (s : State) (snap : PnLSnapshot) : Prop :=
  snap.known = true → ∀ p, Measures s snap.asOf snap.equity p (snap.periodPc p)

/-- What is known of an update that is under way. -/
def Progress.Sound (s : State) : Progress → Prop
  | .going u => u.Sound s
  | .done snap => snap.Sound s

theorem Update.Sound.write (h : u.Sound s) {p : Period} {a : PeriodAnchor} : u.Sound (s.write p a) where
  pos := h.pos
  passed q hq := (h.passed q hq).write
  found := h.found

/-- Nothing but the first anchors matters. -/
theorem Update.Sound.same (h : u.Sound s) {t : State} (hf : t.first = s.first) : u.Sound t where
  pos := h.pos
  passed p hp := by
    unfold Measures
    rw [hf]
    exact h.passed p hp
  found := h.found

/-- A period that is measured is passed. -/
theorem Update.Sound.settle (h : u.Sound s) {v : ℚ}
    (hv : Measures s u.now u.equity u.period (some v)) : (u.settle v).Sound s := by
  have hall : ∀ p, p.rank ≤ u.period.rank →
      Measures s u.now u.equity p (Function.update u.periodPc u.period (some v) p) := by
    intro p hp
    by_cases hpu : p = u.period
    · subst hpu
      rw [Function.update_self]
      exact hv
    · rw [Function.update_of_ne hpu]
      apply h.passed
      apply lt_of_le_of_ne hp
      intro hrank
      apply hpu
      cases p <;> cases hu : u.period <;> rw [hu] at hrank <;> first | rfl | cases hrank
  unfold Update.settle
  cases hu : u.period with
  | day =>
      refine ⟨h.pos, ?_, fun _ hset => nomatch hset⟩
      intro p hp
      rw [hu] at hall
      exact hall p (Nat.le_of_lt_succ hp)
  | week =>
      refine ⟨h.pos, ?_, fun _ hset => nomatch hset⟩
      intro p hp
      rw [hu] at hall
      exact hall p (Nat.le_of_lt_succ hp)
  | month =>
      intro _ p
      rw [hu] at hall
      apply hall p
      cases p <;> decide

/-- Only the phase changes. -/
theorem Update.Sound.to (h : u.Sound s) {phase : Phase}
    (hset : ∀ raw, phase = .set raw → raw.validFor u.id = none) :
    Progress.Sound s (.going { u with phase }) where
  pos := h.pos
  passed := h.passed
  found := hset

theorem Update.Sound.unknown : Progress.Sound s u.unknown := fun h => nomatch h

/-- A read that finds an anchor of the period measures against the first one. -/
theorem measures_of_read (hk : Kept s) {raw : Raw} (hread : u.read s.store o = some raw) {e : ℚ}
    (hvalid : raw.validFor u.id = some e) :
    Measures s u.now u.equity u.period (some (pct u.equity e)) := by
  obtain ⟨a, rfl, hid, rfl, hpos⟩ := validFor_eq_some hvalid
  have hfirst := hk u.period a (read_eq_some hread) hpos
  rw [hid] at hfirst
  exact ⟨a.equity, hfirst, rfl⟩

/-- An anchor that the update has just written is the first one, and the percentage is zero. -/
theorem measures_of_write (h : ∀ e, s.first u.period u.id = some e → e = u.equity) :
    Measures (s.write u.period u.blob) u.now u.equity u.period (some 0) := by
  refine ⟨u.equity, first_write_self h, ?_⟩
  unfold pct
  rw [sub_self, zero_div, zero_mul]

/-- What an operation does to the store. -/
def State.effect (s : State) (u : Update) (o : Outcome) : State :=
  if u.lands s.store o then s.write u.period u.blob else s

/-- **One operation.** Where it may write, the update goes on or returns as it should. -/
theorem Update.Sound.answer (h : u.Sound s) (hk : Kept s)
    (hwrite : u.lands s.store o = true → ∀ e, s.first u.period u.id = some e → e = u.equity) :
    (u.answer s.store o).Sound (s.effect u o) := by
  have hstays : u.lands s.store o = false → s.effect u o = s := by
    intro hno
    unfold State.effect
    rw [hno]
    rfl
  have hwrites : u.lands s.store o = true → s.effect u o = s.write u.period u.blob := by
    intro hyes
    unfold State.effect
    rw [hyes]
    rfl
  have hmoves : u.Sound (s.effect u o) := by
    unfold State.effect
    split
    · exact h.write
    · exact h
  unfold Update.answer
  cases hphase : u.phase with
  | get =>
      have hno : u.lands s.store o = false := by
        unfold Update.lands
        rw [hphase]
        exact Bool.and_false _
      rw [hstays hno]
      dsimp only
      split
      · rename_i anchor hfound
        obtain ⟨raw, hread, hvalid⟩ := Option.bind_eq_some_iff.mp hfound
        exact h.settle (measures_of_read hk hread hvalid)
      · exact h.to fun _ hset => nomatch hset
  | setNX =>
      dsimp only
      split
      · exact Update.Sound.unknown
      · rename_i hok
        rw [not_not] at hok
        -- it lands exactly where nothing is stored
        have hland : u.lands s.store o = (s.store u.period).isNone := by
          unfold Update.lands
          rw [hphase, hok]
          rfl
        split
        · rename_i hnone
          rw [← hland] at hnone
          refine hmoves.settle ?_
          rw [hwrites hnone]
          exact measures_of_write (hwrite hnone)
        · exact hmoves.to fun _ hset => nomatch hset
  | getAgain =>
      have hno : u.lands s.store o = false := by
        unfold Update.lands
        rw [hphase]
        exact Bool.and_false _
      rw [hstays hno]
      dsimp only
      split
      · exact Update.Sound.unknown
      · rename_i raw hread
        split
        · rename_i anchor hvalid
          exact h.settle (measures_of_read hk hread hvalid)
        · rename_i hinvalid
          -- what is found is of another period, and will be written over
          refine h.to ?_
          rintro _ ⟨⟩
          exact hinvalid
  | set found =>
      dsimp only
      split
      · exact Update.Sound.unknown
      · rename_i hok
        rw [not_not] at hok
        have hland : u.lands s.store o = true := by
          unfold Update.lands
          rw [hphase, hok]
          rfl
        refine hmoves.settle ?_
        -- this write lands whatever is stored
        rw [hwrites hland]
        exact measures_of_write (hwrite hland)

/-! ## Steps -/

/-- What holds between two operations. -/
structure Inv (s : State) : Prop where
  kept : Kept s
  snapshots : ∀ snap ∈ s.snapshots, snap.Sound s
  updates : ∀ i u, s.updates i = some u → u.Sound s

theorem Inv.anchored (h : Inv s) : Anchored s where
  kept := h.kept
  measured := h.snapshots
  found i u raw hu hset := (h.updates i u hu).found raw hset

theorem Inv.write (h : Inv s) {p : Period} {a : PeriodAnchor}
    (hfirst : ∀ e, s.first p a.periodID = some e → e = a.equity) : Inv (s.write p a) where
  kept := h.kept.write hfirst
  snapshots snap hsnap hknown p := (h.snapshots snap hsnap hknown p).write
  updates i u hu := (h.updates i u hu).write

theorem Inv.proceed (h : Inv s) (i : ℕ) {x : Progress} (hx : x.Sound s) : Inv (s.proceed i x) := by
  cases x with
  | going u =>
      refine ⟨h.kept, h.snapshots, ?_⟩
      intro j v hv
      have hv : Function.update s.updates i (some u) j = some v := hv
      by_cases hj : j = i
      · subst hj
        rw [Function.update_self] at hv
        obtain rfl := Option.some.inj hv
        exact Update.Sound.same hx rfl
      · rw [Function.update_of_ne hj] at hv
        exact (h.updates j v hv).same rfl
  | done snap =>
      refine ⟨h.kept, ?_, ?_⟩
      · intro t ht
        rcases List.mem_append.mp ht with ht | ht
        · exact h.snapshots t ht
        · obtain rfl := List.mem_singleton.mp ht
          exact hx
      · intro j v hv
        have hv : Function.update s.updates i none j = some v := hv
        by_cases hj : j = i
        · subst hj
          rw [Function.update_self] at hv
          cases hv
        · rw [Function.update_of_ne hj] at hv
          exact (h.updates j v hv).same rfl

theorem kept_proceed {i : ℕ} {x : Progress} : Kept (s.proceed i x) ↔ Kept s := by
  cases x <;> exact Iff.rfl

/-- An update takes its next operation. -/
theorem step_exec {i : ℕ} (hu : s.updates i = some u) :
    step s (.exec i o) = (s.effect u o).proceed i (u.answer s.store o) := by
  show (match s.updates i with | none => s | some u => _) = _
  rw [hu]
  rfl

/-- An event that writes no anchor too late keeps the invariant. -/
theorem Inv.step (h : Inv s) {ev : Event} (hev : FirstOrSame s ev) : Inv (step s ev) := by
  cases ev with
  | update i equity now =>
      show Inv (if _ then _ else _)
      split
      · exact h
      · split
        · rename_i hpos
          -- a new update has gone through no period yet
          refine h.proceed i ⟨hpos, ?_, fun _ hset => nomatch hset⟩
          intro p hp
          exact absurd hp (Nat.not_lt_zero _)
        · exact h.proceed i fun hknown => nomatch hknown
  | exec i o =>
      cases hu : s.updates i with
      | none =>
          have hstay : Anchors.step s (.exec i o) = s := by
            show (match s.updates i with | none => s | some u => _) = s
            rw [hu]
          rw [hstay]
          exact h
      | some u =>
          rw [step_exec hu]
          have hsound := (h.updates i u hu).answer h.kept (hev u hu)
          refine Inv.proceed ?_ i hsound
          unfold State.effect
          split
          · rename_i hland
            exact h.write (hev u hu hland)
          · exact h
  | expire p =>
      -- what is left in the store was there before
      refine ⟨?_, h.snapshots, fun i u hu => (h.updates i u hu).same rfl⟩
      intro q a hq
      have hq : Function.update s.store p none q = some (.anchor a) := hq
      by_cases hqp : q = p
      · subst hqp
        rw [Function.update_self] at hq
        cases hq
      · rw [Function.update_of_ne hqp] at hq
        exact h.kept q a hq

/-- One that does is seen. -/
theorem not_anchored_step (h : Inv s) {ev : Event} (hev : ¬ FirstOrSame s ev) :
    ¬ Anchored (step s ev) := by
  cases ev with
  | update i equity now => exact absurd trivial hev
  | expire p => exact absurd trivial hev
  | exec i o =>
      -- the write lands, and its equity is not that of the first anchor
      have hlate : ∃ u, s.updates i = some u ∧ u.lands s.store o = true ∧
          ∃ e, s.first u.period u.id = some e ∧ e ≠ u.equity := by
        by_contra hnone
        apply hev
        intro u hu hland e he
        by_contra hne
        exact hnone ⟨u, hu, hland, e, he, hne⟩
      obtain ⟨u, hu, hland, e, hfirst, hne⟩ := hlate
      have heffect : s.effect u o = s.write u.period u.blob := if_pos hland
      rw [step_exec hu, heffect]
      intro hgood
      exact Kept.not_write hfirst hne (h.updates i u hu).pos (kept_proceed.mp hgood.kept)

/-- No update is under way at the start. -/
theorem inv_start (store : Store) : Inv (start store) where
  kept p a ha hpos := by
    show (store p).bind (Raw.validFor a.periodID) = some a.equity
    have ha : store p = some (.anchor a) := ha
    rw [ha]
    exact if_pos ⟨rfl, hpos⟩
  snapshots _ h := nomatch h
  updates _ _ h := nomatch h

/-- **P&L anchors.** Over every run of any number of updates, with any store to begin with, any clocks
and any failures: the anchors are kept and measured against in every state exactly when each anchor
that is written is the first one of its period, or has the equity of the first. -/
theorem anchored_throughout_iff (store : Store) (events : List Event) :
    Throughout step Anchored (start store) events ↔ Along step FirstOrSame (start store) events :=
  throughout_iff_along (J := Inv) (fun _ h => h.anchored) (fun _ _ h hev => h.step hev)
    (fun _ _ h hev => not_anchored_step h hev) (inv_start store)

/-- The morning of 23 June 2026. -/
def morning : Time := 1782194400000000000

/-- The day still has yesterday's anchor. -/
def yesterdays : Store
  | .day => some (.anchor ⟨"2026-06-22", 1200, 0⟩)
  | _ => none

/-- Two updates roll the day over at the same time: both have found the old anchor when the first of
them replaces it. -/
def bothRollOver : List Event :=
  [.update 0 1000 morning, .update 1 990 morning, .exec 0 .ok, .exec 0 .ok, .exec 0 .ok,
    .exec 1 .ok, .exec 1 .ok, .exec 1 .ok, .exec 0 .ok, .exec 1 .ok]

/-- The anchor of the day is replaced. -/
theorem anchor_replaced :
    let s := run step (start yesterdays) bothRollOver
    s.first .day "2026-06-23" = some 1000 ∧
      s.store .day = some (.anchor ⟨"2026-06-23", 990, morning⟩) ∧
      ¬ Throughout step Anchored (start yesterdays) bothRollOver := by
  have hfirst : (run step (start yesterdays) bothRollOver).first .day "2026-06-23" = some 1000 := by
    decide +kernel
  have hstore : (run step (start yesterdays) bothRollOver).store .day =
      some (.anchor ⟨"2026-06-23", 990, morning⟩) := by
    decide +kernel
  refine ⟨hfirst, hstore, ?_⟩
  intro h
  have hkept := (h _ List.prefix_rfl).kept .day _ hstore (by decide)
  rw [hfirst] at hkept
  exact absurd hkept (by decide)

end PredictATrade.Realtime.Anchors
