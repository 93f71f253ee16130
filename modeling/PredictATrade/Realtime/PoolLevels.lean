import Mathlib.Algebra.Order.Group.Abs
import Mathlib.Algebra.Order.Ring.Rat
import Mathlib.Data.List.Nodup
import PredictATrade.Lib.Runs
import PredictATrade.Realtime.Features

/-!
# `Realtime.PoolLevels` — the pools of a level and its sweeps

`LiquidityEngine.process` makes its pools anew from the swings at every candle and leaves the old ones on
file. A level is to have one pool, two levels at most the tolerance apart are to give one, and a level is to
be swept once while it stays among the swings.

Levels that are equal give no pool, and a pair that stays listed gives its pools again, to be swept again.
`pools_of_levels` is the run in which neither happens (`Keeps`). That the direction of a sweep tells the side
that the candle closed on holds of every call.
-/

namespace PredictATrade.Realtime.Features
open Lib.Runs

/-- A call: the candle and the swings that are listed at it. -/
structure LevelCall where
  candle : Candle
  swings : List Decimal
  deriving DecidableEq, Repr

/-- The engine, and the levels that have been swept and are listed ever since. -/
structure LevelRun where
  engine : LiquidityEngine := {}
  swept : List Decimal := []
  deriving DecidableEq, Repr

/-- The other levels at most the tolerance from `s`, one for each of their places. -/
def near (tolerance : Decimal) (swings : List Decimal) (s : Decimal) : List Decimal :=
  swings.filter fun s₂ => s ≠ s₂ ∧ |s - s₂| ≤ tolerance

namespace LevelRun
variable (w : LevelRun) (call : LevelCall)

/-- The sweeps that the call records. -/
def recorded : List SweepEvent :=
  (w.engine.poolsFor call.candle call.swings).flatMap (LiquidityEngine.sweepEvents call.candle)

/-- The pools on file after the call. -/
def poolsAfter : List LiquidityPool := (w.engine.process call.candle call.swings).1.pools

/-- The levels listed at the call that have been swept since they are listed. -/
def sweptAfter : List Decimal :=
  (w.swept ++ (w.recorded call).map (·.price)).filter (· ∈ call.swings)

/-- The run after one more call. -/
def step : LevelRun := ⟨(w.engine.process call.candle call.swings).1, w.sweptAfter call⟩

/-- What is expected of a call. -/
structure Law : Prop where
  one : ((w.poolsAfter call).map (·.price)).Nodup
  pair : call.swings.Pairwise fun s s₂ =>
    |s - s₂| ≤ w.engine.tolerance → ∃ pool ∈ w.poolsAfter call, pool.price = s ∨ pool.price = s₂
  once : (w.sweptAfter call).Nodup
  direction : ∀ event ∈ w.recorded call,
    (event.direction = "SELL_SIDE_SWEEP" ∧ event.price ≤ call.candle.high ∧
        call.candle.close < event.price) ∨
      (event.direction = "BUY_SIDE_SWEEP" ∧ call.candle.low ≤ event.price ∧
        event.price < call.candle.close)

/-- The levels that the call makes a pool for. -/
def newLevels : List Decimal :=
  call.swings.filter fun s => near w.engine.tolerance call.swings s ≠ []

/-- The call does not meet a slip. A level that is listed twice has no other near it, and its pool is on
file; one that has another near it has just that one, and no pool on file; and what the cut to twenty pools
takes away is not listed. -/
structure Keeps : Prop where
  equal : ∀ s, 1 < call.swings.count s →
    near w.engine.tolerance call.swings s = [] ∧ ∃ pool ∈ w.engine.pools, pool.price = s
  alone : ∀ s ∈ call.swings, (near w.engine.tolerance call.swings s).length ≤ 1
  fresh : ∀ s ∈ w.newLevels call, ∀ pool ∈ w.engine.pools, pool.price ≠ s
  few : (w.newLevels call).length ≤ 20
  cut : ∀ pool ∈ w.engine.pools.take (w.engine.pools.length + (w.newLevels call).length - 20),
    pool.price ∉ call.swings

/-- What a run without slips keeps: a level has one pool, and the pool of a level that has been swept is
marked. -/
structure Sound : Prop where
  one : (w.engine.pools.map (·.price)).Nodup
  once : w.swept.Nodup
  marked : ∀ s ∈ w.swept, ∃ pool ∈ w.engine.pools, pool.price = s ∧ pool.swept = true

end LevelRun

/-! ## Pools and their sweeps -/

namespace LiquidityEngine
variable (c : Candle) (swings : List Decimal) (e : LiquidityEngine)

/-- The pool that a pair gives its level. -/
def newPool (s : Decimal) : LiquidityPool := { price := s, createdAt := c.time }

/-- A level gets a pool for each other level near it. -/
theorem detectPools_eq :
    e.detectPools c swings = swings.flatMap fun s => (near e.tolerance swings s).map fun _ => newPool c s := by
  have hinner : ∀ (s : Decimal) (others : List Decimal),
      (others.flatMap fun s₂ => if s = s₂ then [] else if |s - s₂| ≤ e.tolerance then [newPool c s] else []) =
        (near e.tolerance others s).map fun _ => newPool c s := by
    intro s others
    induction others with
    | nil => rfl
    | cons s₂ others ih =>
      rw [List.flatMap_cons, ih]
      unfold near
      by_cases heq : s = s₂
      · rw [if_pos heq, List.filter_cons_of_neg (by simp [heq])]
        rfl
      · rw [if_neg heq]
        by_cases htol : |s - s₂| ≤ e.tolerance
        · rw [if_pos htol, List.filter_cons_of_pos (by simp [heq, htol])]
          rfl
        · rw [if_neg htol, List.filter_cons_of_neg (by simp [htol])]
          rfl
  unfold detectPools
  exact congrArg swings.flatMap (funext fun s => hinner s swings)

/-- Where each level has one other near it at most, each that has one gets one pool. -/
theorem detectPools_of_alone (halone : ∀ s ∈ swings, (near e.tolerance swings s).length ≤ 1) :
    e.detectPools c swings =
      (swings.filter fun s => near e.tolerance swings s ≠ []).map (newPool c) := by
  rw [detectPools_eq]
  have hsome : ∀ levels : List Decimal, (∀ s ∈ levels, s ∈ swings) →
      (levels.flatMap fun s => (near e.tolerance swings s).map fun _ => newPool c s) =
        (levels.filter fun s => near e.tolerance swings s ≠ []).map (newPool c) := by
    intro levels hsub
    induction levels with
    | nil => rfl
    | cons s levels ih =>
      rw [List.flatMap_cons, ih fun s' hs' => hsub s' (List.mem_cons_of_mem _ hs')]
      have hle := halone s (hsub s List.mem_cons_self)
      cases hnear : near e.tolerance swings s with
      | nil => rw [List.filter_cons_of_neg (by simp [hnear]), List.map_nil, List.nil_append]
      | cons s₂ rest =>
        rw [hnear, List.length_cons] at hle
        obtain rfl := List.length_eq_zero_iff.mp (Nat.le_zero.mp (Nat.succ_le_succ_iff.mp hle))
        rw [List.filter_cons_of_pos (by simp [hnear])]
        rfl
  exact hsome swings fun _ hs => hs

/-- The candle sweeps the pool. -/
def Sweeps (pool : LiquidityPool) : Prop :=
  pool.swept = false ∧ (pool.price ≤ c.high ∧ c.close < pool.price ∨ c.low ≤ pool.price ∧ pool.price < c.close)

instance decidableSweeps (pool : LiquidityPool) : Decidable (Sweeps c pool) :=
  inferInstanceAs (Decidable (_ ∧ _))

/-- A pool is swept once by a candle. -/
theorem map_price_sweepEvents (pool : LiquidityPool) :
    (sweepEvents c pool).map (·.price) = if Sweeps c pool then [pool.price] else [] := by
  unfold sweepEvents Sweeps
  by_cases hswept : pool.swept = true
  · simp [hswept]
  rw [Bool.not_eq_true] at hswept
  by_cases hsell : pool.price ≤ c.high ∧ c.close < pool.price
  · have hbuy : ¬ (c.low ≤ pool.price ∧ pool.price < c.close) := fun h => lt_asymm hsell.2 h.2
    simp [hswept, hsell, hbuy]
  · by_cases hbuy : c.low ≤ pool.price ∧ pool.price < c.close
    · simp [hswept, hsell, hbuy]
    · simp [hswept, hsell, hbuy]

theorem map_price_flatMap_sweepEvents (pools : List LiquidityPool) :
    (pools.flatMap (sweepEvents c)).map (·.price) = (pools.filter (Sweeps c)).map (·.price) := by
  induction pools with
  | nil => rfl
  | cons pool pools ih =>
    rw [List.flatMap_cons, List.map_append, ih, map_price_sweepEvents]
    by_cases h : Sweeps c pool
    · rw [if_pos h, List.filter_cons_of_pos (by simpa using h)]
      rfl
    · rw [if_neg h, List.filter_cons_of_neg (by simpa using h)]
      rfl

@[simp] theorem price_markSwept (pool : LiquidityPool) : (markSwept c pool).price = pool.price := by
  unfold markSwept
  split <;> rfl

theorem swept_markSwept {pool : LiquidityPool} (h : pool.swept = true ∨ Sweeps c pool) :
    (markSwept c pool).swept = true := by
  unfold markSwept
  by_cases hnone : sweepEvents c pool = []
  · rw [if_pos hnone]
    rcases h with h | h
    · exact h
    · have hmap := map_price_sweepEvents c pool
      rw [hnone, if_pos h] at hmap
      cases hmap
  · rw [if_neg hnone]

/-- The direction of a sweep tells the side that the candle closed on. -/
theorem direction_of_mem_sweepEvents {pool : LiquidityPool} {event : SweepEvent}
    (h : event ∈ sweepEvents c pool) :
    (event.direction = "SELL_SIDE_SWEEP" ∧ event.price ≤ c.high ∧ c.close < event.price) ∨
      (event.direction = "BUY_SIDE_SWEEP" ∧ c.low ≤ event.price ∧ event.price < c.close) := by
  unfold sweepEvents at h
  by_cases hswept : pool.swept = true
  · rw [if_pos hswept] at h
    cases h
  rw [if_neg hswept, List.mem_append] at h
  rcases h with h | h
  · left
    split at h
    · next hsell =>
      rw [List.mem_singleton.mp h]
      exact ⟨rfl, hsell⟩
    · cases h
  · right
    split at h
    · next hbuy =>
      rw [List.mem_singleton.mp h]
      exact ⟨rfl, hbuy⟩
    · cases h

end LiquidityEngine

/-! ## One call -/

namespace LevelRun
variable {w : LevelRun} {call : LevelCall}

/-- The pools before the candle is compared with them. -/
theorem poolsFor_eq (hkeeps : w.Keeps call) :
    w.engine.poolsFor call.candle call.swings =
      w.engine.pools ++ (w.newLevels call).map (LiquidityEngine.newPool call.candle) := by
  unfold LiquidityEngine.poolsFor newLevels
  rw [LiquidityEngine.detectPools_of_alone call.candle call.swings w.engine hkeeps.alone]

theorem poolsAfter_eq (hkeeps : w.Keeps call) :
    w.poolsAfter call =
      ((w.engine.poolsFor call.candle call.swings).map (LiquidityEngine.markSwept call.candle)).drop
        (w.engine.pools.length + (w.newLevels call).length - 20) := by
  unfold poolsAfter LiquidityEngine.process keepLast
  dsimp only
  rw [List.length_map, poolsFor_eq hkeeps, List.length_append, List.length_map]

/-- No level has two of the pools that the candle is compared with. -/
theorem nodup_poolsFor (h : w.Sound) (hkeeps : w.Keeps call) :
    ((w.engine.poolsFor call.candle call.swings).map (·.price)).Nodup := by
  rw [poolsFor_eq hkeeps, List.map_append, List.map_map]
  have hprices : ((·.price) ∘ LiquidityEngine.newPool call.candle : Decimal → Decimal) = id := rfl
  rw [hprices, List.map_id]
  refine List.nodup_append.mpr ⟨h.one, ?_, ?_⟩
  · -- a level that has another near it is listed once
    rw [List.nodup_iff_count_le_one]
    intro s
    by_cases hs : s ∈ w.newLevels call
    · have hnear : near w.engine.tolerance call.swings s ≠ [] := by
        simpa using (List.mem_filter.mp hs).2
      refine (List.filter_sublist.count_le s).trans (not_lt.mp fun hcount => ?_)
      exact hnear (hkeeps.equal s hcount).1
    · rw [List.count_eq_zero_of_not_mem hs]
      exact Nat.zero_le 1
  · intro s hs s' hs' heq
    obtain ⟨pool, hpool, rfl⟩ := List.mem_map.mp hs
    exact hkeeps.fresh s' hs' pool hpool heq

/-- The pool of a listed level is not cut off. -/
theorem mem_poolsAfter (hkeeps : w.Keeps call) {pool : LiquidityPool}
    (hpool : pool ∈ w.engine.poolsFor call.candle call.swings) (hlisted : pool.price ∈ call.swings) :
    LiquidityEngine.markSwept call.candle pool ∈ w.poolsAfter call := by
  rw [poolsAfter_eq hkeeps, ← List.map_drop]
  apply List.mem_map_of_mem
  have hparts := List.take_append_drop (w.engine.pools.length + (w.newLevels call).length - 20)
    (w.engine.poolsFor call.candle call.swings)
  rw [← hparts, List.mem_append] at hpool
  apply hpool.resolve_left
  intro hcut
  -- what is cut off is old, as the new pools fit in
  have hle : w.engine.pools.length + (w.newLevels call).length - 20 ≤ w.engine.pools.length := by
    have := hkeeps.few
    omega
  rw [poolsFor_eq hkeeps, List.take_append_of_le_length hle] at hcut
  exact hkeeps.cut pool hcut hlisted

/-- Two levels within the tolerance have a pool on file. -/
theorem pool_of_pair (hkeeps : w.Keeps call) :
    call.swings.Pairwise fun s s₂ =>
      |s - s₂| ≤ w.engine.tolerance → ∃ pool ∈ w.poolsAfter call, pool.price = s ∨ pool.price = s₂ := by
  have hheld : ∀ pool ∈ w.engine.poolsFor call.candle call.swings, pool.price ∈ call.swings →
      ∃ pool' ∈ w.poolsAfter call, pool'.price = pool.price := by
    intro pool hpool hlisted
    exact ⟨_, mem_poolsAfter hkeeps hpool hlisted, LiquidityEngine.price_markSwept _ _⟩
  rw [List.pairwise_iff_forall_sublist]
  intro s s₂ hsub htol
  have hs : s ∈ call.swings := hsub.subset List.mem_cons_self
  by_cases heq : s = s₂
  · -- a level listed twice has nothing near it, so its pool has to be there already
    subst heq
    have hcount : 1 < call.swings.count s := by
      have hle := hsub.count_le s
      rw [List.count_cons_self, List.count_cons_self] at hle
      omega
    obtain ⟨-, pool, hpool, rfl⟩ := hkeeps.equal s hcount
    obtain ⟨pool', hmem, hprice⟩ := hheld pool (List.mem_append_left _ hpool) hs
    exact ⟨pool', hmem, Or.inl hprice⟩
  · have hs₂ : s₂ ∈ call.swings := hsub.subset (List.mem_cons_of_mem _ (List.mem_singleton_self _))
    have hnew : s ∈ w.newLevels call := by
      refine List.mem_filter.mpr ⟨hs, ?_⟩
      have hmem : s₂ ∈ near w.engine.tolerance call.swings s :=
        List.mem_filter.mpr ⟨hs₂, by simp [heq, htol]⟩
      simpa using List.ne_nil_of_mem hmem
    have hpool : LiquidityEngine.newPool call.candle s ∈ w.engine.poolsFor call.candle call.swings := by
      rw [poolsFor_eq hkeeps]
      exact List.mem_append_right _ (List.mem_map_of_mem hnew)
    obtain ⟨pool', hmem, hprice⟩ := hheld _ hpool hs
    exact ⟨pool', hmem, Or.inl hprice⟩

theorem recorded_prices (w : LevelRun) (call : LevelCall) :
    (w.recorded call).map (·.price) =
      ((w.engine.poolsFor call.candle call.swings).filter (LiquidityEngine.Sweeps call.candle)).map
        (·.price) :=
  LiquidityEngine.map_price_flatMap_sweepEvents _ _

/-- What has been swept is not swept again while it stays listed. -/
theorem nodup_sweptAfter (h : w.Sound) (hkeeps : w.Keeps call) : (w.sweptAfter call).Nodup := by
  unfold sweptAfter
  apply List.Nodup.filter
  rw [recorded_prices]
  refine List.nodup_append.mpr ⟨h.once, ?_, ?_⟩
  · exact (nodup_poolsFor h hkeeps).sublist (List.filter_sublist.map _)
  · rintro s hs s' hs' rfl
    obtain ⟨marked, hmem, hprice, hswept⟩ := h.marked s hs
    obtain ⟨pool, hpool, hprice'⟩ := List.mem_map.mp hs'
    obtain ⟨hpool, hsweeps⟩ := List.mem_filter.mp hpool
    -- the level has one pool, and that is marked
    have hsame : pool = marked :=
      List.inj_on_of_nodup_map (nodup_poolsFor h hkeeps) hpool (List.mem_append_left _ hmem)
        (hprice'.trans hprice.symm)
    have hsweeps : LiquidityEngine.Sweeps call.candle pool := by simpa using hsweeps
    rw [hsame] at hsweeps
    exact Bool.false_ne_true (hsweeps.1.symm.trans hswept)

/-- The pool of a level that has been swept is marked. -/
theorem marked_after (h : w.Sound) (hkeeps : w.Keeps call) {s : Decimal} (hs : s ∈ w.sweptAfter call) :
    ∃ pool ∈ w.poolsAfter call, pool.price = s ∧ pool.swept = true := by
  obtain ⟨hs, hlisted⟩ := List.mem_filter.mp hs
  have hlisted : s ∈ call.swings := by simpa using hlisted
  have hpool : ∃ pool ∈ w.engine.poolsFor call.candle call.swings, pool.price = s ∧
      (pool.swept = true ∨ LiquidityEngine.Sweeps call.candle pool) := by
    rcases List.mem_append.mp hs with hs | hs
    · obtain ⟨pool, hmem, hprice, hswept⟩ := h.marked s hs
      exact ⟨pool, List.mem_append_left _ hmem, hprice, Or.inl hswept⟩
    · rw [recorded_prices] at hs
      obtain ⟨pool, hpool, hprice⟩ := List.mem_map.mp hs
      obtain ⟨hmem, hsweeps⟩ := List.mem_filter.mp hpool
      exact ⟨pool, hmem, hprice, Or.inr (by simpa using hsweeps)⟩
  obtain ⟨pool, hmem, rfl, hswept⟩ := hpool
  exact ⟨_, mem_poolsAfter hkeeps hmem hlisted, LiquidityEngine.price_markSwept _ _,
    LiquidityEngine.swept_markSwept _ hswept⟩

theorem nodup_poolsAfter (h : w.Sound) (hkeeps : w.Keeps call) :
    ((w.poolsAfter call).map (·.price)).Nodup := by
  rw [poolsAfter_eq hkeeps, List.map_drop, List.map_map]
  have hprices : ((·.price) ∘ LiquidityEngine.markSwept call.candle : LiquidityPool → Decimal) = (·.price) :=
    funext (LiquidityEngine.price_markSwept call.candle)
  rw [hprices]
  exact (nodup_poolsFor h hkeeps).sublist (List.drop_sublist _ _)

/-- **Step.** The pools stay those of the levels. -/
theorem Sound.step (h : w.Sound) (hkeeps : w.Keeps call) : (w.step call).Sound where
  one := nodup_poolsAfter h hkeeps
  once := nodup_sweptAfter h hkeeps
  marked _ hs := marked_after h hkeeps hs

/-- A call that meets no slip keeps the law. -/
theorem law_of_keeps (h : w.Sound) (hkeeps : w.Keeps call) : w.Law call where
  one := nodup_poolsAfter h hkeeps
  pair := pool_of_pair hkeeps
  once := nodup_sweptAfter h hkeeps
  direction event hevent := by
    obtain ⟨pool, -, hmem⟩ := List.mem_flatMap.mp hevent
    exact LiquidityEngine.direction_of_mem_sweepEvents _ hmem

/-- There is no pool at the start. -/
theorem new_sound : Sound {} where
  one := List.nodup_nil
  once := List.nodup_nil
  marked _ hs := absurd hs List.not_mem_nil

end LevelRun

/-! ## Runs -/

/-- **The pools of a run.** In a run none of whose calls meets a slip, a level has one pool at a time, levels
within the tolerance have one, and a level is swept once while it is listed. -/
theorem pools_of_levels (calls : List LevelCall) (hkeeps : Along LevelRun.step LevelRun.Keeps {} calls) :
    Along LevelRun.step LevelRun.Law {} calls :=
  hkeeps.of_keeps (I := LevelRun.Sound) (fun _ _ h hc => h.step hc) (fun _ _ h hc => LevelRun.law_of_keeps h hc)
    LevelRun.new_sound

/-- The wick goes over 100 and the candle closes under it. -/
def wickOver : Candle := { high := 101, low := 99, close := 99, time := 0 }

/-- Two levels near each other are listed, and swept. -/
def nearCall : LevelCall := ⟨wickOver, [100, 2001 / 20]⟩

/-- The pair is not listed again. -/
theorem pools_of_levels_near : Along LevelRun.step LevelRun.Law {} [nearCall, ⟨wickOver, [100]⟩] := by
  apply pools_of_levels
  refine ⟨⟨?_, by decide +kernel, by decide +kernel, by decide +kernel, by decide +kernel⟩,
    ⟨?_, by decide +kernel, by decide +kernel, by decide +kernel, by decide +kernel⟩, trivial⟩
  · intro s hs
    have hnodup : nearCall.swings.Nodup := by decide +kernel
    exact absurd hs (not_lt.mpr (List.nodup_iff_count_le_one.mp hnodup s))
  · intro s hs
    exact absurd hs (not_lt.mpr (List.nodup_iff_count_le_one.mp (List.nodup_singleton 100) s))

/-! ## Equal levels, and a pair that stays listed -/

/-- Equal levels give no pool, and a pair that is listed at two candles has two pools a level, and is swept
at both. -/
theorem pools_of_levels_slip :
    ¬ Along LevelRun.step LevelRun.Law {} [⟨wickOver, [100, 100]⟩] ∧
      ¬ Along LevelRun.step LevelRun.Law {} [nearCall, nearCall] ∧
      ¬ ((LevelRun.step {} nearCall).sweptAfter nearCall).Nodup := by
  refine ⟨?_, ?_, by decide +kernel⟩
  · rintro ⟨hlaw, -⟩
    exact absurd hlaw.pair (by decide +kernel)
  · rintro ⟨-, hlaw, -⟩
    exact absurd hlaw.one (by decide +kernel)

end PredictATrade.Realtime.Features
