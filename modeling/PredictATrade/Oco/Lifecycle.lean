import PredictATrade.Oco.Group

/-!
# `Oco.Lifecycle` — the winner of a group, and the states it stays in

Two properties of a group's life, both read off the moves its operations can make.

* `winners_iff`: the winner of a group is known whenever its sibling is being cancelled or its
  position is active, *exactly* when no race without a winner is resolved in favour of the first
  fill, and no armed group is triggered on a side that is neither BUY nor SELL;
* `lifecycle_iff`: terminal states are final and a race is left by its resolution alone, *exactly*
  when no broker report contradicts a group in one of these states.
-/

namespace PredictATrade.Oco

open Lib.Runs Lib.Table

variable {g : Group} {op : Op} {now : Time} {side : Side} {buy sell : Bool}

/-! ## The winner -/

namespace Group

/-- One side has won, and it is the other that is, or was, cancelled. -/
def Decided (g : Group) : Prop :=
  (g.winner = .buy ∨ g.winner = .sell) ∧ g.cancelledSide = oppositeSide g.winner

/-- The states in which only one order of the group is left. -/
def Single (g : Group) : Prop := g.state = .activePosition ∨ g.state = .cancellingSibling

/-- Where one order is left, it is known which. -/
def WinnerKnown (g : Group) : Prop := g.Single → g.Decided

instance : DecidablePred WinnerKnown := fun g =>
  inferInstanceAs (Decidable ((g.state = .activePosition ∨ g.state = .cancellingSibling) →
    (g.winner = .buy ∨ g.winner = .sell) ∧ g.cancelledSide = oppositeSide g.winner))

/-- A group with no winner on record has no cancelled side on record either. -/
def Recorded (g : Group) : Prop := g.winner = .none ∧ g.cancelledSide = .none ∨ g.Decided

/-- An operation that cannot leave a group with an unknown winner: a fill is one of BUY or SELL, and
the second fill of a race is closed only where a first is on record. -/
def Attributable (g : Group) : Op → Prop
  | .trigger _ side => g.state = .armed → side = .buy ∨ side = .sell
  | .resolveRace policy =>
      g.state = .raceReconciliation → policy = .closeSecond → g.winner ≠ .none
  | _ => True

theorem none_not_decided (h : g.winner = .none) : ¬ g.Decided := by
  rintro ⟨hb | hs, -⟩
  · rw [h] at hb; exact absurd hb (by decide)
  · rw [h] at hs; exact absurd hs (by decide)

theorem Recorded.decided (h : g.Recorded) (hw : g.winner ≠ .none) : g.Decided :=
  h.resolve_left fun hn => hw hn.1

/-- A move that keeps what is on record, and does not enter a state with one order left, keeps the
winner known. -/
theorem WinnerKnown.of_eq {g' : Group} (hk : g.WinnerKnown) (hr : g.Recorded)
    (hw : g'.winner = g.winner) (hc : g'.cancelledSide = g.cancelledSide)
    (hs : g'.Single → g.Single) : g'.Recorded ∧ g'.WinnerKnown := by
  unfold WinnerKnown Recorded Decided at *
  rw [hw, hc]
  exact ⟨hr, fun h => hk (hs h)⟩

/-- **Step.** The winner stays known. -/
theorem step_known (hr : g.Recorded) (hk : g.WinnerKnown) (ha : g.Attributable op) :
    (g.step op).Recorded ∧ (g.step op).WinnerKnown := by
  have hleft : ∀ {s : GroupState}, s ≠ .activePosition → s ≠ .cancellingSibling →
      ¬ Single { g with state := s } := fun h₁ h₂ h => h.elim h₁ h₂
  generalize hg : g.step op = g'
  have hm := hg ▸ step_moves g op
  clear hg
  cases hm with
  | refused => exact ⟨hr, hk⟩
  | armed h => exact hk.of_eq hr rfl rfl fun hs => absurd hs (hleft (by simp) (by simp))
  | triggered h => exact ⟨.inr ⟨ha h, rfl⟩, fun _ => ⟨ha h, rfl⟩⟩
  | raced h hw => exact hk.of_eq hr rfl rfl fun _ => .inr h
  | confirmed h => exact hk.of_eq hr rfl rfl fun _ => .inr h
  | completed h => exact hk.of_eq hr rfl rfl fun _ => .inl h
  | expired h => exact hk.of_eq hr rfl rfl fun hs => absurd hs (hleft (by simp) (by simp))
  | kept h => exact ⟨hr, fun _ => hr.decided (ha h rfl)⟩
  | flattened h => exact ⟨hr, fun hs => absurd hs (hleft (by simp) (by simp))⟩
  | bothFilled h => exact ⟨hr, fun hs => absurd hs (hleft (by simp) (by simp))⟩
  | filled hw h =>
      have hside : _ = Side.buy ∨ _ = Side.sell := h.imp And.left And.left
      exact ⟨.inr ⟨hside, rfl⟩, fun _ => ⟨hside, rfl⟩⟩

/-- An operation that is not attributable loses the winner at once. -/
theorem step_unknown (ha : ¬ g.Attributable op) :
    ¬ (g.step op).WinnerKnown := by
  cases op with
  | trigger now side =>
      simp only [Attributable, Classical.not_imp] at ha
      obtain ⟨hs, hside⟩ := ha
      have hstep : g.step (.trigger now side) =
          { g with
            winner := side, cancelledSide := oppositeSide side, triggeredAt := some now
            state := .cancellingSibling } := by
        simp [step, exec, trigger, hs]
      intro hk
      rw [hstep] at hk
      exact hside (hk (.inr rfl)).1
  | resolveRace policy =>
      simp only [Attributable, Classical.not_imp, not_not] at ha
      obtain ⟨hs, rfl, hw⟩ := ha
      have hstep : g.step (.resolveRace .closeSecond) =
          { g with reconciliationState := "SECOND_CLOSED", state := .activePosition } := by
        simp [step, exec, resolveRace, hs]
      intro hk
      rw [hstep] at hk
      exact none_not_decided (g := { g with state := .activePosition }) hw (hk (.inl rfl))
  | arm => exact absurd trivial ha
  | confirmCancellation now => exact absurd trivial ha
  | complete => exact absurd trivial ha
  | expire => exact absurd trivial ha
  | reconcileWithBroker now buy sell => exact absurd trivial ha

end Group

namespace Manager

variable {m : Manager} {c : Call}

/-- Of every group the manager has, the winner is known where one order is left. -/
def WinnersKnown (m : Manager) : Prop := ∀ g ∈ m.groups, g.WinnerKnown

instance : DecidablePred WinnersKnown := fun m =>
  inferInstanceAs (Decidable (∀ g ∈ m.groups, g.WinnerKnown))

/-- The call is attributable in every group that it is made on. -/
def Attributable (m : Manager) : Call → Prop
  | .createGroup _ _ _ _ _ => True
  | .onGroup groupID op => ∀ g ∈ m.groups, g.groupID = groupID → g.Attributable op

/-- What the record of each group says, and the winners. -/
def Known (m : Manager) : Prop := ∀ g ∈ m.groups, g.Recorded ∧ g.WinnerKnown

theorem step_known (hk : m.Known) (ha : m.Attributable c) : (m.step c).Known := by
  cases c with
  | createGroup now id plan buy sell =>
      intro g hg
      rcases List.mem_cons.mp hg with rfl | hg
      · exact ⟨.inl ⟨rfl, rfl⟩, fun h => by rcases h with h | h <;> cases h⟩
      · exact hk g (List.mem_filter.mp hg).1
  | onGroup id op =>
      intro g hg
      obtain ⟨h, hh, hgh⟩ := mem_step_onGroup.mp hg
      by_cases hid : h.groupID = id
      · rw [if_pos hid] at hgh
        subst hgh
        exact Group.step_known (hk h hh).1 (hk h hh).2 (ha h hh hid)
      · rw [if_neg hid] at hgh
        exact hgh ▸ hk h hh

/-- An operation that cannot be attributed leaves a winner unknown. -/
theorem step_unknown (ha : ¬ m.Attributable c) : ¬ (m.step c).WinnersKnown := by
  cases c with
  | createGroup now id plan buy sell => exact absurd trivial ha
  | onGroup id op =>
      simp only [Attributable, not_forall] at ha
      obtain ⟨g, hg, hid, ha⟩ := ha
      intro hk
      refine Group.step_unknown ha (hk (g.step op) (mem_step_onGroup.mpr ⟨g, hg, ?_⟩))
      rw [if_pos hid]

/-- **The winner is known.** From the empty manager, in every state of a run, a group whose sibling
is being cancelled or whose position is active has BUY or SELL as its winner and the other side as
the cancelled one, exactly when each call of the run is attributable. -/
theorem winners_iff (calls : List Call) :
    Throughout step WinnersKnown new calls ↔ Along step Attributable new calls := by
  apply throughout_iff_along (J := Known)
  · exact fun m hk g hg => (hk g hg).2
  · exact fun m c => step_known
  · exact fun m c _ => step_unknown
  · exact fun g hg => absurd hg List.not_mem_nil

/-- After a restart the broker reports both orders of a new group as filled, and the second fill is
closed. -/
def unknownWinnerRun : List Call :=
  [.createGroup 0 "g1" "plan1" "buy1" "sell1",
    .onGroup "g1" (.reconcileWithBroker 1 true true),
    .onGroup "g1" (.resolveRace .closeSecond)]

/-- The position is active then, and the group has no winner. -/
theorem winner_lost : ¬ Throughout step WinnersKnown new unknownWinnerRun := by
  intro h
  exact absurd (h unknownWinnerRun List.prefix_rfl) (by decide +kernel)

end Manager

/-! ## The states a group stays in -/

namespace Group

/-- What the broker reports as filled is what the group has on record as filled. -/
def Agrees (g : Group) (buy sell : Bool) : Prop :=
  (buy = true → g.winner = .buy) ∧ (sell = true → g.winner = .sell)

instance : Decidable (g.Agrees buy sell) :=
  inferInstanceAs (Decidable ((buy = true → g.winner = .buy) ∧ (sell = true → g.winner = .sell)))

/-- An operation that respects the states a group is to stay in: no report of the broker contradicts
a group that has ended, nor one in a race except by reporting both sides. -/
def Respects (g : Group) : Op → Prop
  | .reconcileWithBroker _ buy sell =>
      (g.state.Terminal → g.Agrees buy sell) ∧
        (g.state = .raceReconciliation → buy = true ∧ sell = true ∨ g.Agrees buy sell)
  | _ => True

/-- **The lifecycle.** A group that has ended stays in the state it has ended in, and a race goes on
until it is resolved. -/
structure Lifecycle (g₀ : Group) (ops : List Op) : Prop where
  absorbing : ∀ pre mid, pre ++ mid <+: ops → (run step g₀ pre).state.Terminal →
    (run step g₀ (pre ++ mid)).state = (run step g₀ pre).state
  raceHeld : ∀ pre mid, pre ++ mid <+: ops → (run step g₀ pre).state = .raceReconciliation →
    (∀ policy, Op.resolveRace policy ∉ mid) →
    (run step g₀ (pre ++ mid)).state = .raceReconciliation

/-- The report moves the group, unless it agrees with it or repeats that both sides are filled. -/
theorem reconcile_state : (g.step (.reconcileWithBroker now buy sell)).state =
    if buy = true ∧ sell = true then .raceReconciliation
    else if g.Agrees buy sell then g.state else .cancellingSibling := by
  show (g.reconcileWithBroker now buy sell).1.state = _
  have hne : Side.buy ≠ Side.sell := by decide
  unfold reconcileWithBroker Agrees
  cases buy <;> cases sell
  · simp
  · by_cases hw : g.winner = .sell
    · simp [hw]
    · simp [hw, filledAtBroker]
  · by_cases hw : g.winner = .buy
    · simp [hw]
    · simp [hw, filledAtBroker]
  · by_cases hs : g.state = .raceReconciliation
    · simp [hs]
    · simp [hs]

theorem not_agrees_both : ¬ g.Agrees true true := fun h =>
  absurd ((h.1 rfl).symm.trans (h.2 rfl)) (by decide)

/-- A group that has ended, or is in a race, refuses every operation that is neither a report of
the broker nor the resolution of the race. -/
theorem moves_eq_of_held {g' : Group} (hm : Moves g op g')
    (hheld : g.state.Terminal ∨ g.state = .raceReconciliation)
    (hop : ∀ now buy sell, op ≠ .reconcileWithBroker now buy sell)
    (hres : g.state = .raceReconciliation → ∀ policy, op ≠ .resolveRace policy) : g' = g := by
  have hno : ∀ {s : GroupState}, ¬ (s.Terminal ∨ s = .raceReconciliation) → g.state ≠ s :=
    fun hs h => hs (h ▸ hheld)
  cases hm with
  | refused => rfl
  | armed h => exact absurd h (not_or.mpr ⟨hno (by decide), hno (by decide)⟩)
  | triggered h => exact absurd h (hno (by decide))
  | raced h => exact absurd h (hno (by decide))
  | confirmed h => exact absurd h (hno (by decide))
  | completed h => exact absurd h (hno (by decide))
  | expired h => exact absurd h (not_or.mpr ⟨hno (by decide), hno (by decide)⟩)
  | kept h => exact absurd rfl (hres h _)
  | flattened h => exact absurd rfl (hres h _)
  | bothFilled => exact absurd rfl (hop _ _ _)
  | filled => exact absurd rfl (hop _ _ _)

theorem respects_of_no_report (hop : ∀ now buy sell, op ≠ .reconcileWithBroker now buy sell) :
    g.Respects op := by
  cases op with
  | reconcileWithBroker now buy sell => exact absurd rfl (hop now buy sell)
  | _ => trivial

/-- When an operation leaves an ended group ended. -/
theorem terminal_step_iff (ht : g.state.Terminal) :
    (g.step op).state = g.state ↔ g.Respects op := by
  have hrace : g.state ≠ .raceReconciliation := fun h => absurd (h ▸ ht) (by decide)
  have hcancel : g.state ≠ .cancellingSibling := fun h => absurd (h ▸ ht) (by decide)
  by_cases hop : ∃ now buy sell, op = .reconcileWithBroker now buy sell
  · obtain ⟨now, buy, sell, rfl⟩ := hop
    have hresp : g.Respects (.reconcileWithBroker now buy sell) ↔ g.Agrees buy sell := by
      simp only [Respects, ht, hrace, true_imp_iff, false_imp_iff, and_true]
    rw [hresp, reconcile_state]
    by_cases hboth : buy = true ∧ sell = true
    · obtain ⟨rfl, rfl⟩ := hboth
      simp only [and_self, if_true, not_agrees_both, iff_false]
      exact Ne.symm hrace
    · rw [if_neg hboth]
      by_cases ha : g.Agrees buy sell
      · rw [if_pos ha]
        exact iff_of_true rfl ha
      · rw [if_neg ha]
        exact iff_of_false (Ne.symm hcancel) ha
  · have hop : ∀ now buy sell, op ≠ .reconcileWithBroker now buy sell :=
      fun now buy sell h => hop ⟨now, buy, sell, h⟩
    simp only [respects_of_no_report hop, iff_true]
    rw [moves_eq_of_held (step_moves g op) (.inl ht) hop fun h => absurd h hrace]

/-- When an operation leaves a race open. -/
theorem race_step_iff (hr : g.state = .raceReconciliation)
    (hres : ∀ policy, op ≠ .resolveRace policy) :
    (g.step op).state = .raceReconciliation ↔ g.Respects op := by
  have ht : ¬ g.state.Terminal := by rw [hr]; decide
  by_cases hop : ∃ now buy sell, op = .reconcileWithBroker now buy sell
  · obtain ⟨now, buy, sell, rfl⟩ := hop
    have hresp : g.Respects (.reconcileWithBroker now buy sell) ↔
        (buy = true ∧ sell = true ∨ g.Agrees buy sell) := by
      unfold Respects
      exact ⟨fun h => h.2 hr, fun h => ⟨fun hh => absurd hh ht, fun _ => h⟩⟩
    rw [hresp, reconcile_state]
    by_cases hboth : buy = true ∧ sell = true
    · simp only [hboth, and_self, if_true, true_or]
    · by_cases ha : g.Agrees buy sell
      · rw [if_neg hboth, if_pos ha]
        exact iff_of_true hr (.inr ha)
      · rw [if_neg hboth, if_neg ha]
        exact iff_of_false (by decide) fun h => h.elim hboth ha
  · have hop : ∀ now buy sell, op ≠ .reconcileWithBroker now buy sell :=
      fun now buy sell h => hop ⟨now, buy, sell, h⟩
    simp only [respects_of_no_report hop, iff_true]
    rw [moves_eq_of_held (step_moves g op) (.inr hr) hop fun _ => hres, hr]

/-- **Run.** An ended group stays as it has ended. -/
theorem run_terminal {ops : List Op} (ht : g.state.Terminal) (hr : Along step Respects g ops) :
    (run step g ops).state = g.state := by
  induction ops generalizing g with
  | nil => rfl
  | cons op ops ih =>
      have hstep := (terminal_step_iff ht).mpr hr.1
      rw [run_cons, ih (hstep ▸ ht) hr.2, hstep]

/-- **Run.** A race stays open until it is resolved. -/
theorem run_race {ops : List Op} (hs : g.state = .raceReconciliation)
    (hres : ∀ policy, Op.resolveRace policy ∉ ops) (hr : Along step Respects g ops) :
    (run step g ops).state = .raceReconciliation := by
  induction ops generalizing g with
  | nil => exact hs
  | cons op ops ih =>
      have hhead : ∀ policy, op ≠ .resolveRace policy := fun policy h =>
        hres policy (h ▸ List.mem_cons_self)
      have hstep := (race_step_iff hs hhead).mpr hr.1
      rw [run_cons]
      exact ih hstep (fun policy h => hres policy (List.mem_cons_of_mem op h)) hr.2

/-- **Ended groups stay ended, and races go on**, exactly when no report of the broker contradicts a
group in one of these states. -/
theorem lifecycle_iff (g₀ : Group) (ops : List Op) :
    Lifecycle g₀ ops ↔ Along step Respects g₀ ops := by
  constructor
  · intro h
    rw [along_iff]
    rintro pre op post rfl
    have hpre : pre ++ [op] <+: pre ++ op :: post := by simp
    by_cases ht : (run step g₀ pre).state.Terminal
    · have := h.absorbing pre [op] hpre ht
      rw [run_snoc] at this
      exact (terminal_step_iff ht).mp this
    · by_cases hr : (run step g₀ pre).state = .raceReconciliation
      · by_cases hres : ∃ policy, op = .resolveRace policy
        · obtain ⟨policy, rfl⟩ := hres
          trivial
        · have hres : ∀ policy, op ≠ .resolveRace policy := fun policy h => hres ⟨policy, h⟩
          have := h.raceHeld pre [op] hpre hr fun policy hmem =>
            hres policy (List.mem_singleton.mp hmem).symm
          rw [run_snoc] at this
          exact (race_step_iff hr hres).mp this
      · cases op with
        | reconcileWithBroker now buy sell => exact ⟨fun h => absurd h ht, fun h => absurd h hr⟩
        | _ => trivial
  · intro h
    have hmid : ∀ pre mid, pre ++ mid <+: ops → Along step Respects (run step g₀ pre) mid := by
      rintro pre mid ⟨post, rfl⟩
      exact (along_append.mp (along_append.mp h).1).2
    constructor
    · intro pre mid hp ht
      rw [run_append]
      exact run_terminal ht (hmid pre mid hp)
    · intro pre mid hp hs hres
      rw [run_append]
      exact run_race hs hres (hmid pre mid hp)

/-- Both orders are filled and the race is resolved by closing both positions, which completes the group.
After a restart the broker reports, truly, that both were filled. -/
def reopenedRun : List Op :=
  [.arm, .trigger 1 .buy, .trigger 2 .sell, .resolveRace .flattenBoth, .reconcileWithBroker 3 true true]

/-- The same fills, and a report of the sell order alone before the race is resolved. -/
def abandonedRun : List Op :=
  [.arm, .trigger 1 .buy, .trigger 2 .sell, .reconcileWithBroker 3 false true]

/-- The complete group, its race resolved, is moved into a race again, and the report of one side moves a
group out of its race with no call of `ResolveRace`. -/
theorem reopened :
    ¬ Lifecycle (Manager.newGroup 0 "g1" "plan1" "buy1" "sell1") reopenedRun ∧
      ¬ Lifecycle (Manager.newGroup 0 "g1" "plan1" "buy1" "sell1") abandonedRun := by
  constructor
  · intro h
    have hstays := h.absorbing (reopenedRun.take 4) [.reconcileWithBroker 3 true true]
      (by decide +kernel) (by decide +kernel)
    exact absurd hstays (by decide +kernel)
  · intro h
    have hheld := h.raceHeld (abandonedRun.take 3) [.reconcileWithBroker 3 false true]
      (by decide +kernel) (by decide +kernel) (by simp)
    exact absurd hheld (by decide +kernel)

end Group

namespace Manager

variable {m : Manager} {id : String}

end Manager
end PredictATrade.Oco
