import PredictATrade.Oco.Lifecycle

/-!
# `Oco.Fills` — fills that are reported more than once, and on both sides

The broker reports fills at least once and in any order, through `Trigger` and through
`ReconcileWithBroker`. A `History` is a group together with what its run has seen: the sides that a
trigger made the winner, the sides reported as filled before the group had ended, and whether it has
been in a race, or has ended. `fills_iff` says when a run handles its fills: a repeated fill of the
winner is accepted and changes nothing, and fills of both sides lead into a race.
-/

namespace PredictATrade.Oco

open Lib.Runs

/-- The sides an operation reports as filled. -/
def Op.reports : Op → List Side
  | .trigger _ side => [side]
  | .reconcileWithBroker _ buy sell =>
      (if buy then [.buy] else []) ++ (if sell then [.sell] else [])
  | _ => []

/-- A group with the winners it has had. -/
structure History where
  group : Group
  winners : List Side
  reported : List Side
  raced : Bool
  ended : Bool
  deriving DecidableEq

namespace History

/-- The history of a group that has just been created. -/
def created (now : Time) (groupID plan buyOrder sellOrder : String) : History where
  group := Manager.newGroup now groupID plan buyOrder sellOrder
  winners := []
  reported := []
  raced := false
  ended := false

/-- An armed group takes the side it is triggered on as its winner. -/
def wins (h : History) : Op → List Side
  | .trigger _ side => if h.group.state = .armed then [side] else []
  | _ => []

/-- The history after an operation. -/
def step (h : History) (op : Op) : History where
  group := h.group.step op
  winners := h.wins op ++ h.winners
  reported := if h.ended then h.reported else op.reports ++ h.reported
  raced := h.raced || decide ((h.group.step op).state = .raceReconciliation)
  ended := h.ended || decide (h.group.step op).state.Terminal

/-- A repeated fill of the winner is no error and changes nothing, until the group has ended. -/
def Repeats (h : History) (op : Op) : Prop :=
  ∀ now side, op = .trigger now side → side ∈ h.winners → h.ended = false →
    h.group.exec op = (h.group, none)

/-- Where both sides have been reported before the group has ended, the group has been in a race. -/
def Accounted (h : History) : Prop :=
  h.ended = false → .buy ∈ h.reported → .sell ∈ h.reported → h.raced = true

/-- A repeated fill of the winner finds it still the winner, and no race going on. -/
def StillWinner (h : History) : Op → Prop
  | .trigger _ side => side ∈ h.winners → h.ended = false →
      h.group.state ≠ .raceReconciliation ∧ h.group.winner = side
  | _ => True

/-- The fill of the second side is reported while the sibling is being cancelled, or by the broker
together with that of the first. -/
def InTime (h : History) : Op → Prop
  | .trigger _ side => h.ended = false → h.raced = false → side = .buy ∨ side = .sell →
      oppositeSide side ∈ h.reported →
      h.group.state = .cancellingSibling ∧ h.group.winner ≠ side
  | .reconcileWithBroker _ buy sell => h.ended = false → h.raced = false →
      buy = true ∧ sell = true ∨
        (buy = true → Side.sell ∉ h.reported) ∧ (sell = true → Side.buy ∉ h.reported)
  | _ => True

/-! ## What every history keeps -/

/-- The flags tell what state the group is in, and a group with a winner is one of three. -/
structure Inv (h : History) : Prop where
  ended : h.group.state.Terminal → h.ended = true
  raced : h.group.state = .raceReconciliation → h.raced = true
  won : h.winners ≠ [] → h.ended = false → h.group.state = .cancellingSibling ∨
    h.group.state = .activePosition ∨ h.group.state = .raceReconciliation

variable {h : History} {op : Op} {now : Time} {side : Side} {buy sell : Bool}

/-- The history of a new group. -/
theorem created_inv {groupID plan buyOrder sellOrder : String} :
    (created now groupID plan buyOrder sellOrder).Inv where
  ended := fun ht => by rcases ht with ht | ht | ht <;> cases ht
  raced := fun hr => by cases hr
  won := fun hw => absurd rfl hw

/-- When a group has not ended after a step. -/
theorem ended_step_eq_false :
    (h.step op).ended = false ↔ h.ended = false ∧ ¬ (h.group.step op).state.Terminal := by
  show (h.ended || decide _) = false ↔ _
  rw [Bool.or_eq_false_iff, decide_eq_false_iff_not]

/-- When a group has not raced after a step. -/
theorem raced_step_eq_false : (h.step op).raced = false ↔
    h.raced = false ∧ (h.group.step op).state ≠ .raceReconciliation := by
  show (h.raced || decide _) = false ↔ _
  rw [Bool.or_eq_false_iff, decide_eq_false_iff_not]

/-- A group with a winner moves between the three states, until it ends. -/
theorem moves_won {g g' : Group} (hm : Moves g op g')
    (hg : g.state = .cancellingSibling ∨ g.state = .activePosition ∨
      g.state = .raceReconciliation) (ht : ¬ g'.state.Terminal) :
    g'.state = .cancellingSibling ∨ g'.state = .activePosition ∨
      g'.state = .raceReconciliation := by
  have hno : ∀ {s : GroupState}, ¬ (s = .cancellingSibling ∨ s = .activePosition ∨
      s = .raceReconciliation) → g.state ≠ s := fun hs h => hs (h ▸ hg)
  cases hm with
  | refused => exact hg
  | armed h => exact absurd h (not_or.mpr ⟨hno (by decide), hno (by decide)⟩)
  | triggered h => exact .inl rfl
  | raced h hw => exact .inr (.inr rfl)
  | confirmed h => exact .inr (.inl rfl)
  | completed h => exact absurd (.inl rfl) ht
  | expired h => exact absurd (.inr (.inl rfl)) ht
  | kept h => exact .inr (.inl rfl)
  | flattened h => exact absurd (.inl rfl) ht
  | bothFilled h => exact .inr (.inr rfl)
  | filled hw h => exact .inl rfl

theorem trigger_state (g : Group) : (g.step (.trigger now side)).state =
    if g.state = .armed then .cancellingSibling
    else if g.state = .cancellingSibling ∧ g.winner ≠ side then .raceReconciliation
    else g.state := by
  show (g.trigger now side).1.state = _
  unfold Group.trigger
  by_cases hw : g.winner = side
  · cases hs : g.state <;> simp [hs, hw]
  · cases hs : g.state <;> simp [hs, hw]

/-- **Step.** The history goes on telling the state. -/
theorem step_inv (hi : h.Inv) (op : Op) : (h.step op).Inv where
  ended := fun ht => by
    show (h.ended || decide (h.group.step op).state.Terminal) = true
    rw [decide_eq_true (p := (h.group.step op).state.Terminal) ht, Bool.or_true]
  raced := fun hr => by
    show (h.raced || decide ((h.group.step op).state = .raceReconciliation)) = true
    rw [decide_eq_true (p := (h.group.step op).state = .raceReconciliation) hr, Bool.or_true]
  won := fun hw he => by
    obtain ⟨he, ht⟩ := ended_step_eq_false.mp he
    by_cases hnew : h.wins op = []
    · have hold : h.winners ≠ [] := by
        intro hnil
        apply hw
        show h.wins op ++ h.winners = []
        rw [hnew, hnil, List.append_nil]
      exact moves_won (step_moves h.group op) (hi.won hold he) ht
    · cases op with
      | trigger now side =>
          by_cases hs : h.group.state = .armed
          · refine .inl ?_
            show (h.group.step (.trigger now side)).state = _
            rw [trigger_state, if_pos hs]
          · exact absurd (if_neg hs) hnew
      | _ => exact absurd rfl hnew

/-! ## Repeated fills -/

/-- When a fill that comes late is taken for a repetition. -/
theorem trigger_accepts_iff (g : Group) (hg : g.state = .cancellingSibling ∨
      g.state = .activePosition ∨ g.state = .raceReconciliation) :
    g.exec (.trigger now side) = (g, none) ↔
      g.state ≠ .raceReconciliation ∧ g.winner = side := by
  show g.trigger now side = (g, none) ↔ _
  unfold Group.trigger
  rcases hg with hs | hs | hs
  · by_cases hw : g.winner = side
    · simp [hs, hw]
    · simp [hs, hw]
  · by_cases hw : g.winner = side
    · simp [hs, hw]
    · simp [hs, hw]
  · simp [hs]

/-- When a report repeats what is known. -/
theorem repeats_iff (hi : h.Inv) : h.Repeats op ↔ h.StillWinner op := by
  cases op with
  | trigger now side =>
      have hg : side ∈ h.winners → h.ended = false → _ := fun hw he =>
        hi.won (List.ne_nil_of_mem hw) he
      constructor
      · intro hr hw he
        exact (trigger_accepts_iff h.group (hg hw he)).mp (hr now side rfl hw he)
      · rintro hs now' side' ⟨⟩ hw he
        exact (trigger_accepts_iff h.group (hg hw he)).mpr (hs hw he)
  | _ => exact iff_of_true (fun _ _ h => nomatch h) trivial

/-! ## Fills of both sides -/

/-- With the reports of the operation both sides have been reported as filled. -/
def Completes (h : History) (op : Op) : Prop :=
  .buy ∈ op.reports ++ h.reported ∧ .sell ∈ op.reports ++ h.reported

theorem completes_trigger (hone : ¬ (.buy ∈ h.reported ∧ .sell ∈ h.reported)) :
    h.Completes (.trigger now side) ↔
      (side = .buy ∨ side = .sell) ∧ oppositeSide side ∈ h.reported := by
  have hne : Side.buy ≠ Side.sell := by decide
  show .buy ∈ [side] ++ h.reported ∧ .sell ∈ [side] ++ h.reported ↔ _
  simp only [List.singleton_append, List.mem_cons]
  constructor
  · rintro ⟨rfl | hb, hs⟩
    · exact ⟨.inl rfl, hs.resolve_left hne.symm⟩
    · rcases hs with rfl | hs
      · exact ⟨.inr rfl, hb⟩
      · exact absurd ⟨hb, hs⟩ hone
  · rintro ⟨rfl | rfl, ho⟩
    · exact ⟨.inl rfl, .inr ho⟩
    · exact ⟨.inr ho, .inl rfl⟩

/-- A fill that completes the two is reported in time exactly when it leads into a race. -/
theorem inTime_iff (hi : h.Inv) (he : h.ended = false) (hr : h.raced = false)
    (hone : ¬ (.buy ∈ h.reported ∧ .sell ∈ h.reported)) :
    h.InTime op ↔ (h.Completes op → (h.group.step op).state = .raceReconciliation) := by
  have hrace : h.group.state ≠ .raceReconciliation := fun hs => by
    rw [hi.raced hs] at hr
    exact absurd hr (by decide)
  cases op with
  | trigger now side =>
      have hstate : (h.group.step (.trigger now side)).state = .raceReconciliation ↔
          h.group.state = .cancellingSibling ∧ h.group.winner ≠ side := by
        rw [trigger_state]
        split_ifs with ha hc
        · exact iff_of_false (by decide) fun hc => by rw [ha] at hc; exact absurd hc.1 (by decide)
        · exact iff_of_true rfl hc
        · exact iff_of_false hrace hc
      rw [hstate, completes_trigger hone]
      exact ⟨fun ht hc => ht he hr hc.1 hc.2, fun ht _ _ hs ho => ht ⟨hs, ho⟩⟩
  | reconcileWithBroker now buy sell =>
      have hone' : buy = true ∧ sell = true ∨
          (h.group.step (.reconcileWithBroker now buy sell)).state ≠ .raceReconciliation := by
        rw [Group.reconcile_state]
        split_ifs with hb ha
        · exact .inl hb
        · exact .inr hrace
        · exact .inr (by decide)
      simp only [InTime, he, hr, true_imp_iff]
      by_cases hboth : buy = true ∧ sell = true
      · obtain ⟨rfl, rfl⟩ := hboth
        exact iff_of_true (.inl ⟨rfl, rfl⟩) fun _ => Group.reconcile_state
      · simp only [hboth, hone'.resolve_left hboth, false_or, imp_false]
        have hne : Side.buy ≠ Side.sell := by decide
        unfold Completes Op.reports
        cases buy <;> cases sell
        · simpa using fun hb hs => hone ⟨hb, hs⟩
        · simp [hne]
        · simp [hne.symm]
        · exact absurd ⟨rfl, rfl⟩ hboth
  | arm => exact iff_of_true trivial fun hc => absurd hc hone
  | confirmCancellation now => exact iff_of_true trivial fun hc => absurd hc hone
  | complete => exact iff_of_true trivial fun hc => absurd hc hone
  | expire => exact iff_of_true trivial fun hc => absurd hc hone
  | resolveRace policy => exact iff_of_true trivial fun hc => absurd hc hone

/-- What was reported of a group that has not ended. -/
theorem reported_step (he : h.ended = false) : (h.step op).reported = op.reports ++ h.reported := by
  show (if h.ended = true then _ else _) = _
  rw [he]
  rfl

/-- A report in time keeps the fills accounted for. -/
theorem step_accounted (hi : h.Inv) (ha : h.Accounted) (ht : h.InTime op) :
    (h.step op).Accounted := by
  intro he hbuy hsell
  have he₀ := (ended_step_eq_false.mp he).1
  rw [reported_step he₀] at hbuy hsell
  by_contra hr
  rw [Bool.not_eq_true] at hr
  obtain ⟨hr₀, hnow⟩ := raced_step_eq_false.mp hr
  have hone : ¬ (.buy ∈ h.reported ∧ .sell ∈ h.reported) := fun hb => by
    rw [ha he₀ hb.1 hb.2] at hr₀
    exact absurd hr₀ (by decide)
  exact hnow ((inTime_iff hi he₀ hr₀ hone).mp ht ⟨hbuy, hsell⟩)

/-- Nothing that is reported as filled ends a group. -/
theorem report_not_terminal {g : Group} (hg : ¬ g.state.Terminal) (hop : op.reports ≠ []) :
    ¬ (g.step op).state.Terminal := by
  cases op with
  | trigger now side =>
      rw [trigger_state]
      split_ifs
      · decide
      · decide
      · exact hg
  | reconcileWithBroker now buy sell =>
      rw [Group.reconcile_state]
      split_ifs
      · decide
      · exact hg
      · decide
  | _ => exact absurd rfl hop

/-- A report that is late leaves a double fill that no race has accounted for. -/
theorem step_unaccounted (hi : h.Inv) (ha : h.Accounted) (ht : ¬ h.InTime op) :
    ¬ (h.step op).Accounted := by
  have hflags : h.ended = false ∧ h.raced = false := by
    constructor
    · by_contra he
      refine ht ?_
      cases op <;> first | trivial | exact fun he' => absurd he' he
    · by_contra hr
      refine ht ?_
      cases op <;> first | trivial | exact fun _ hr' => absurd hr' hr
  obtain ⟨he, hr⟩ := hflags
  have hone : ¬ (.buy ∈ h.reported ∧ .sell ∈ h.reported) := fun hb => by
    rw [ha he hb.1 hb.2] at hr
    exact absurd hr (by decide)
  rw [inTime_iff hi he hr hone, Classical.not_imp] at ht
  obtain ⟨hc, hnow⟩ := ht
  have hreports : op.reports ≠ [] := fun hnil => hone (by
    unfold Completes at hc
    rwa [hnil] at hc)
  have hterm : ¬ h.group.state.Terminal := fun hg => by
    rw [hi.ended hg] at he
    exact absurd he (by decide)
  intro hacc
  have hraced := hacc (ended_step_eq_false.mpr ⟨he, report_not_terminal hterm hreports⟩)
    (by rw [reported_step he]; exact hc.1) (by rw [reported_step he]; exact hc.2)
  rw [raced_step_eq_false.mpr ⟨hr, hnow⟩] at hraced
  exact absurd hraced (by decide)

/-! ## Runs -/

/-- **Fills at least once.** Over a run of a created group, repeated fills of the winner are
accepted without effect and a double fill leads into a race, exactly when each repeated fill finds
its side still the winner and no race going on, and each second fill is reported in time. -/
theorem fills_iff (now : Time) (groupID plan buyOrder sellOrder : String) (ops : List Op) :
    Along step Repeats (created now groupID plan buyOrder sellOrder) ops ∧
        Throughout step Accounted (created now groupID plan buyOrder sellOrder) ops ↔
      Along step (fun h op => h.StillWinner op ∧ h.InTime op)
        (created now groupID plan buyOrder sellOrder) ops := by
  have hrep : Along step Repeats (created now groupID plan buyOrder sellOrder) ops ↔
      Along step StillWinner (created now groupID plan buyOrder sellOrder) ops :=
    along_congr (I := Inv) (fun _ op hi => step_inv hi op) (fun _ _ hi => repeats_iff hi)
      created_inv
  have hacc : Throughout step Accounted (created now groupID plan buyOrder sellOrder) ops ↔
      Along step InTime (created now groupID plan buyOrder sellOrder) ops := by
    have hnone : (created now groupID plan buyOrder sellOrder).Accounted :=
      fun _ hb => absurd hb List.not_mem_nil
    rw [throughout_iff (J := Inv) (fun _ op hi => step_inv hi op) ?_ created_inv]
    · exact and_iff_right hnone
    · intro h op hi hacc
      exact ⟨fun hnext => by_contra fun ht => step_unaccounted hi hacc ht hnext, step_accounted hi hacc⟩
  rw [hrep, hacc, along_and]

/-- Buy is filled, the sell order confirmed as cancelled, and then reported as filled after all. -/
def lateFillRun : List Op :=
  [.arm, .trigger 1 .buy, .confirmCancellation 2, .trigger 3 .sell]

/-- The second fill is answered with an error, and the position of the first stays active. -/
theorem late_fill_lost :
    ¬ (Along step Repeats (created 0 "g1" "plan1" "buy1" "sell1") lateFillRun ∧
      Throughout step Accounted (created 0 "g1" "plan1" "buy1" "sell1") lateFillRun) := by
  rintro ⟨-, h⟩
  exact absurd (h lateFillRun List.prefix_rfl (by decide +kernel) (by decide +kernel)
    (by decide +kernel)) (by decide +kernel)

end History
end PredictATrade.Oco
