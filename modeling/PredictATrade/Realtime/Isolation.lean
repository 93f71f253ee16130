import PredictATrade.Realtime.TradeResults

/-!
# `Realtime.Isolation` — what the results of other keys do to a key

The records are kept by key, and a result writes no record but its own (`deliver_states_of_ne`).
The set of processed close events is not kept by key: a result whose id some other key has used is
dropped. `isolated_iff` compares a run with the run of one key's results alone. The record of the
key is the same after every prefix *exactly* when no result of the key comes with an id that other
keys have used and the key has not.
-/

namespace PredictATrade.Realtime

open Lib.Runs

namespace RecoveryManager

variable {m : RecoveryManager} {es : List Delivery} {key : AccountStrategyKey}

/-- The deliveries addressed to one key. -/
def only (key : AccountStrategyKey) (es : List Delivery) : List Delivery :=
  es.filter fun d => d.result.key = key

/-- The manager has processed no close event yet, as `NewManager` leaves it. It may hold records
that were seeded without the id of a close event. -/
structure Unused (m : RecoveryManager) : Prop where
  noneProcessed : m.processedCloseEvents = []
  noLastId : ∀ key r, m.states key = some r → r.lastCloseEventID = ""

theorem unused_new (cfg : RecoveryConfig) : (new cfg).Unused :=
  ⟨rfl, fun _ _ h => nomatch h⟩

/-- The key's record evolves as if the manager had seen the key's own results only. -/
def Isolated (m : RecoveryManager) (key : AccountStrategyKey) (es : List Delivery) : Prop :=
  ∀ pre, pre <+: es →
    (run deliver m pre).states key = (run deliver m (only key pre)).states key

/-- When a result of the key has an id that was delivered before, it was delivered for the key. -/
def OwnIds (key : AccountStrategyKey) (es : List Delivery) : Prop :=
  ∀ pre d, pre ++ [d] <+: es → d.result.key = key → d.result.closeEventID ≠ "" →
    (∃ a ∈ pre, a.result.closeEventID = d.result.closeEventID) →
    ∃ a ∈ pre, a.result.closeEventID = d.result.closeEventID ∧ a.result.key = key

/-! ## Projections -/

theorem only_snoc_self {pre : List Delivery} {d : Delivery} (h : d.result.key = key) :
    only key (pre ++ [d]) = only key pre ++ [d] := by
  simp only [only, List.filter_append, List.filter_cons, h, decide_true, if_true, List.filter_nil]

theorem only_snoc_ne {pre : List Delivery} {d : Delivery} (h : d.result.key ≠ key) :
    only key (pre ++ [d]) = only key pre := by
  simp only [only, List.filter_append, List.filter_cons, h, decide_false, Bool.false_eq_true,
    if_false, List.filter_nil, List.append_nil]

theorem mem_only {a : Delivery} : a ∈ only key es ↔ a ∈ es ∧ a.result.key = key := by
  simp only [only, List.mem_filter, decide_eq_true_eq]

/-! ## The last id of a record -/

/-- The last id a record carries is one of a delivered result of its key. -/
theorem lastCloseEventID_run (hm : m.Unused) {r : StateRecord}
    (h : (run deliver m es).states key = some r) :
    r.lastCloseEventID = "" ∨
      ∃ a ∈ es, a.result.key = key ∧ a.result.closeEventID = r.lastCloseEventID := by
  induction es using List.reverseRecOn generalizing r with
  | nil => exact Or.inl (hm.noLastId key r h)
  | append_singleton pre d ih =>
      have lift : ∀ {r : StateRecord}, (run deliver m pre).states key = some r →
          r.lastCloseEventID = "" ∨
            ∃ a ∈ pre ++ [d], a.result.key = key ∧ a.result.closeEventID = r.lastCloseEventID := by
        intro r hr
        rcases ih hr with h0 | ⟨a, ha, hk⟩
        · exact Or.inl h0
        · exact Or.inr ⟨a, List.mem_append_left _ ha, hk⟩
      rw [run_snoc] at h
      by_cases hk : d.result.key = key
      · by_cases hd : (run deliver m pre).Duplicate d.result
        · rw [deliver_of_duplicate hd] at h
          exact lift h
        · subst hk
          rw [deliver_states_self hd] at h
          have hid := StateRecord.lastCloseEventID_record (run deliver m pre).config d.now
            ((run deliver m pre).getOrCreate d.result.key d.result.tradingDay d.now) d.result
          rw [Option.some.inj h] at hid
          by_cases he : d.result.closeEventID = ""
          · -- an event without an id keeps the one the record had
            rw [hid, if_neg (not_not.mpr he)]
            cases hs : (run deliver m pre).states d.result.key with
            | none => left; simp only [getOrCreate, hs]
            | some r' => simp only [getOrCreate, hs]; exact lift hs
          · refine Or.inr ⟨d, List.mem_append_right _ (List.mem_singleton_self d), rfl, ?_⟩
            rw [hid, if_pos he]
      · rw [deliver_states_of_ne hk] at h
        exact lift h

/-! ## The exact condition -/

/-- Where the ids are the key's own, a result is a duplicate in the run of all keys exactly when it
is one in the run of the key. -/
theorem duplicate_only_iff (hm : m.Unused) (hown : OwnIds key es) {pre : List Delivery}
    {d : Delivery} (hp : pre ++ [d] <+: es) (hk : d.result.key = key) :
    (run deliver m pre).Duplicate d.result ↔ (run deliver m (only key pre)).Duplicate d.result := by
  unfold Duplicate
  apply and_congr_right
  intro he
  simp only [mem_processed_run, hm.noneProcessed, List.not_mem_nil, false_or, mem_only]
  constructor
  · rintro ⟨-, ha⟩
    obtain ⟨a, ha, hid, hak⟩ := hown pre d hp hk he ha
    exact ⟨he, a, ⟨ha, hak⟩, hid⟩
  · rintro ⟨-, a, ⟨ha, -⟩, hid⟩
    exact ⟨he, a, ha, hid⟩

/-- **Isolation, exactly.** A key's record is that of the run of its own results, after every prefix,
if and only if the key is sent no id that other keys have used before it. -/
theorem isolated_iff (hm : m.Unused) (key : AccountStrategyKey) (es : List Delivery) :
    m.Isolated key es ↔ OwnIds key es := by
  constructor
  · intro h pre d hp hk he ⟨a, ha, hid⟩
    by_contra hno
    -- the run of all keys drops the result, the run of the key records it
    have hdup : (run deliver m pre).Duplicate d.result :=
      ⟨he, mem_processed_run.mpr (Or.inr ⟨he, a, ha, hid⟩)⟩
    have hnew : ¬ (run deliver m (only key pre)).Duplicate d.result := by
      rintro ⟨-, hmem⟩
      rcases mem_processed_run.mp hmem with h0 | ⟨-, b, hb, hbid⟩
      · rw [hm.noneProcessed] at h0
        exact List.not_mem_nil h0
      · exact hno ⟨b, (mem_only.mp hb).1, hbid, (mem_only.mp hb).2⟩
    have hpre := h pre ((List.prefix_append _ _).trans hp)
    have hall := h (pre ++ [d]) hp
    rw [only_snoc_self hk, run_snoc, run_snoc, deliver_of_duplicate hdup] at hall
    subst hk
    rw [deliver_states_self hnew] at hall
    rcases lastCloseEventID_run hm hall with h0 | ⟨b, hb, hbk, hbid⟩
    · rw [StateRecord.lastCloseEventID_record, if_pos he] at h0
      exact he h0
    · rw [StateRecord.lastCloseEventID_record, if_pos he] at hbid
      exact hno ⟨b, hb, hbid, hbk⟩
  · intro hown pre hp
    induction pre using List.reverseRecOn with
    | nil => rfl
    | append_singleton pre d ih =>
        have hpre := ih ((List.prefix_append _ _).trans hp)
        by_cases hk : d.result.key = key
        · have hdup := duplicate_only_iff hm hown hp hk
          rw [only_snoc_self hk, run_snoc, run_snoc]
          by_cases hd : (run deliver m pre).Duplicate d.result
          · rw [deliver_of_duplicate hd, deliver_of_duplicate (hdup.mp hd)]
            exact hpre
          · have hd' : ¬ (run deliver m (only key pre)).Duplicate d.result := mt hdup.mpr hd
            subst hk
            rw [deliver_states_self hd, deliver_states_self hd']
            simp only [getOrCreate, hpre, run_deliver_config]
        · rw [only_snoc_ne hk, run_snoc, deliver_states_of_ne hk]
          exact hpre

/-- A loss of ten, closed at noon on a Monday under the given event id. -/
def lossOfTen (accountID closeEventID : String) : Delivery :=
  { now := 1788782400000
    result :=
      { accountID := accountID
        strategyID := .standardScalping
        symbol := "XAUUSD"
        closeEventID := closeEventID
        pnl := -10
        isWin := false
        isLoss := true
        closedAt := some 1788782400000
        tradingDay := some 1788782400000 } }

/-- Two accounts whose results have ids of their own. -/
theorem isolated_iff_two_accounts :
    (new {}).Isolated (lossOfTen "acc2" "c2").result.key [lossOfTen "acc1" "c1", lossOfTen "acc2" "c2"] ↔
      OwnIds (lossOfTen "acc2" "c2").result.key [lossOfTen "acc1" "c1", lossOfTen "acc2" "c2"] :=
  isolated_iff (unused_new {}) _ _

/-- The second account's loss has the id of the first one's, and is never recorded. -/
theorem shared_id_suppresses_loss :
    (run deliver (new {}) [lossOfTen "acc1" "c1", lossOfTen "acc2" "c1"]).states
        (lossOfTen "acc2" "c1").result.key = none ∧
      ((run deliver (new {}) (only (lossOfTen "acc2" "c1").result.key
        [lossOfTen "acc1" "c1", lossOfTen "acc2" "c1"])).states
          (lossOfTen "acc2" "c1").result.key).map StateRecord.consecutiveLosses = some 1 ∧
      ¬ (new {}).Isolated (lossOfTen "acc2" "c1").result.key
        [lossOfTen "acc1" "c1", lossOfTen "acc2" "c1"] := by
  have hfull : (run deliver (new {}) [lossOfTen "acc1" "c1", lossOfTen "acc2" "c1"]).states
      (lossOfTen "acc2" "c1").result.key = none := by decide +kernel
  have hown : ((run deliver (new {}) (only (lossOfTen "acc2" "c1").result.key
      [lossOfTen "acc1" "c1", lossOfTen "acc2" "c1"])).states
        (lossOfTen "acc2" "c1").result.key).map StateRecord.consecutiveLosses = some 1 := by
    decide +kernel
  refine ⟨hfull, hown, fun h => ?_⟩
  rw [← h _ List.prefix_rfl, hfull] at hown
  simp at hown

end RecoveryManager

end PredictATrade.Realtime
