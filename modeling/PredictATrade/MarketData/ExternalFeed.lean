import Mathlib.Algebra.BigOperators.Group.List.Basic
import Mathlib.Algebra.GroupWithZero.Nat
import PredictATrade.Lib.MapOrder
import PredictATrade.MarketData.Aggregator

/-!
# `MarketData.ExternalFeed` — the fallback for a feed that is stale

With external candles the bars of the master node are the candles, and an iteration of `FlushClosedCandles`
closes a bucket from ticks only where the feed of its symbol and timeframe is stale. Before it looks at the
builders the iteration probes whether anything is stale at all, and the probe looks at one timeframe of
each symbol: the first in the order of the map, which Go leaves open. One fresh feed in each symbol is
enough for an iteration that closes nothing.

The maps are kept with what makes them maps (`BuilderMap`), and an order of them is any listing of their
keys (`Lib.MapOrder`). `external_fallback_iff` says for which states the iteration closes the buckets that
it should, in every order and with whatever the reader of the channel takes meanwhile.
-/

namespace PredictATrade.MarketData

open Lib.Runs Lib.MapOrder
open Realtime (Timeframe)

/-! ## Maps -/

/-- The two levels of maps: no symbol twice, and each builder under its own symbol and timeframe. -/
structure BuilderMap where
  symbols : List Symbol
  candles : Key → Option CandleBuilder
  nodup : symbols.Nodup
  listed : ∀ key b, candles key = some b → key.1 ∈ symbols
  own : ∀ key b, candles key = some b → (b.symbol, b.timeframe) = key

/-- All timeframes. -/
def allTimeframes : List Timeframe := [.m1, .m5, .m15, .m30, .h1, .h4, .d1, .w1, .mn1]

theorem mem_allTimeframes (tf : Timeframe) : tf ∈ allTimeframes := by
  cases tf <;> decide

namespace BuilderMap

/-- No builder. -/
def empty : BuilderMap := ⟨[], fun _ => none, List.nodup_nil, by simp, by simp⟩

/-- A builder is put under its symbol and its timeframe. -/
def put (m : BuilderMap) (b : CandleBuilder) : BuilderMap where
  symbols := if b.symbol ∈ m.symbols then m.symbols else m.symbols ++ [b.symbol]
  candles := Function.update m.candles (b.symbol, b.timeframe) (some b)
  nodup := by
    split
    · exact m.nodup
    · rename_i hnew
      exact List.nodup_append.mpr ⟨m.nodup, List.nodup_singleton _, by
        rintro s hs t ht rfl
        exact hnew (List.mem_singleton.mp ht ▸ hs)⟩
  listed := by
    intro key c hc
    by_cases hkey : key = (b.symbol, b.timeframe)
    · subst hkey
      split
      · assumption
      · exact List.mem_append_right _ (List.mem_singleton_self _)
    · rw [Function.update_of_ne hkey] at hc
      split
      · exact m.listed key c hc
      · exact List.mem_append_left _ (m.listed key c hc)
  own := by
    intro key c hc
    by_cases hkey : key = (b.symbol, b.timeframe)
    · subst hkey
      rw [Function.update_self] at hc
      obtain rfl := Option.some.inj hc
      rfl
    · rw [Function.update_of_ne hkey] at hc
      exact m.own key c hc

/-- The timeframes that have a builder of the symbol. -/
def timeframes (m : BuilderMap) (s : Symbol) : List Timeframe :=
  allTimeframes.filter fun tf => (m.candles (s, tf)).isSome

/-- An order in which the maps may be iterated: each symbol, with its timeframes. -/
abbrev Order (m : BuilderMap) := Lib.MapOrder.Order m.symbols m.timeframes

end BuilderMap

/-! ## The aggregator -/

/-- What the channel takes: a bar of the master node, the candle that is forming, marked as partial, or a
closed candle. -/
inductive Emission where
  | external (c : Candle)
  | forming (c : Candle)
  | closed (c : Candle)
  deriving DecidableEq

/-- The candle, if it is closed. -/
def Emission.closed? : Emission → Option Candle
  | .closed c => some c
  | .external _ | .forming _ => none

/-- The aggregator with external candles, and what its channel has taken. -/
structure ExternalAggregator where
  builders : BuilderMap
  lastExternal : Key → Option Time
  candleChan : List Emission
  emitted : List Emission

/-- `externalStaleAfter`, of 90 seconds. -/
def externalStaleAfter : Duration := 90000000000

namespace ExternalAggregator

/-- The reader takes so many candles. -/
def read (a : ExternalAggregator) (n : ℕ) : ExternalAggregator :=
  { a with candleChan := a.candleChan.drop n }

/-- A send that a full channel drops. -/
def send (a : ExternalAggregator) (e : Emission) : ExternalAggregator :=
  if a.candleChan.length < Aggregator.capacity then
    { a with candleChan := a.candleChan ++ [e], emitted := a.emitted ++ [e] }
  else a

/-- `PushExternalCandle`. -/
def pushExternalCandle (a : ExternalAggregator) (c : Candle) : ExternalAggregator :=
  { a with
    lastExternal := Function.update a.lastExternal (c.symbol, c.timeframe) (some c.time) }.send
      (.external c)

/-- The closed candles that the channel has taken. -/
def closed (a : ExternalAggregator) : List Candle := a.emitted.filterMap Emission.closed?

/-- `externalStale`. -/
def externalStale (a : ExternalAggregator) (now : Time) (key : Key) : Bool :=
  match a.lastExternal key with
  | none => true
  | some last => decide (externalStaleAfter < now - last)

/-- The probe: the first timeframe of each symbol, until one is stale. -/
def probe (a : ExternalAggregator) (now : Time) : List (Symbol × List Timeframe) → Bool
  | [] => false
  | (_, []) :: rest => a.probe now rest
  | (s, tf :: _) :: rest => if a.externalStale now (s, tf) then true else a.probe now rest

section
variable (off now : Time)

/-- The bucket of the builder has ended, in the time of the broker. -/
def Ended (b : CandleBuilder) : Prop := b.bucketStart + off * hour + b.period < now + off * hour

instance decidableEnded (b : CandleBuilder) : Decidable (Ended off now b) :=
  inferInstanceAs (Decidable (b.bucketStart + off * hour + b.period < now + off * hour))

/-- The body of the loop over the builders. The reader takes candles before each of the two sends. -/
def flushBuilder (reads : Key → Bool → ℕ) (a : ExternalAggregator) (key : Key) : ExternalAggregator :=
  match a.builders.candles key with
  | none => a
  | some b =>
    if b.updated = false then a
    else
      let a :=
        if a.externalStale now key then
          (a.read (reads key false)).send (.forming (b.candle off))
        else a
      if a.externalStale now key = true ∧ Ended off now b then
        let a := (a.read (reads key true)).send (.closed (b.candle off))
        { a with
          builders := a.builders.put
            { b.placeholder off now with symbol := key.1, timeframe := key.2 } }
      else a

/-- One iteration of `FlushClosedCandles`; the probe and the loop range over the maps each for itself. -/
def flushClosedCandles (a : ExternalAggregator) (probed looped : a.builders.Order)
    (reads : Key → Bool → ℕ) : ExternalAggregator :=
  if a.probe now probed.walk then run (flushBuilder off now reads) a (keysOf looped.walk) else a

/-! ## What is claimed -/

/-- The keys that have a builder. -/
def keys (a : ExternalAggregator) : List Key := pairs a.builders.symbols a.builders.timeframes

/-- The builder holds ticks, its bucket has ended and its feed is stale. -/
def Due (a : ExternalAggregator) (key : Key) (b : CandleBuilder) : Prop :=
  b.updated = true ∧ a.externalStale now key = true ∧ Ended off now b

instance decidableDue (a : ExternalAggregator) (key : Key) (b : CandleBuilder) :
    Decidable (Due off now a key b) :=
  inferInstanceAs (Decidable (b.updated = true ∧ a.externalStale now key = true ∧ Ended off now b))

/-- The candle that is due under a key, if there is one. -/
def dueCandle (a : ExternalAggregator) (key : Key) : Option Candle :=
  (a.builders.candles key).bind fun b => if Due off now a key b then some (b.candle off) else none

/-- The iteration closes the bucket of each due builder once, and of no other. -/
def FallsBack (a : ExternalAggregator) : Prop :=
  ∀ (probed looped : a.builders.Order) (reads : Key → Bool → ℕ),
    ∃ cs, (a.flushClosedCandles off now probed looped reads).closed = a.closed ++ cs ∧
      cs.Perm (a.keys.filterMap (a.dueCandle off now))

/-! ## When it holds -/

/-- The candles that the loop sends for a key. -/
def demand (a : ExternalAggregator) (key : Key) : ℕ :=
  match a.builders.candles key with
  | none => 0
  | some b =>
    if b.updated = true ∧ a.externalStale now key = true then if Ended off now b then 2 else 1 else 0

/-- Some symbol has builders, and the feeds of all of them are stale. -/
def AllStale (a : ExternalAggregator) (s : Symbol) : Prop :=
  a.builders.timeframes s ≠ [] ∧
    ∀ tf ∈ a.builders.timeframes s, a.externalStale now (s, tf) = true

/-- Nothing is due; or every probe sees a stale feed, and the channel has room for all that is sent. -/
def Covered (a : ExternalAggregator) : Prop :=
  a.keys.filterMap (a.dueCandle off now) = [] ∨
    ((∃ s, a.AllStale now s) ∧
      a.candleChan.length + (a.keys.map (a.demand off now)).sum ≤ Aggregator.capacity)

end

/-! ## Keys -/

variable {m : BuilderMap}

theorem mem_timeframes {s : Symbol} {tf : Timeframe} :
    tf ∈ m.timeframes s ↔ (m.candles (s, tf)).isSome = true := by
  unfold BuilderMap.timeframes
  rw [List.mem_filter, and_iff_right (mem_allTimeframes tf)]

theorem nodup_timeframes (s : Symbol) : (m.timeframes s).Nodup :=
  List.Nodup.filter _ (by decide)

variable {a : ExternalAggregator} {off now : Time} {reads : Key → Bool → ℕ} {key : Key}

theorem mem_keys : key ∈ a.keys ↔ (a.builders.candles key).isSome = true := by
  unfold keys
  rw [mem_pairs, mem_timeframes]
  refine ⟨And.right, fun h => ⟨?_, h⟩⟩
  obtain ⟨b, hb⟩ := Option.isSome_iff_exists.mp h
  exact a.builders.listed key b hb

/-- An order lists each key that has a builder once. -/
theorem keysOf_perm_keys (o : a.builders.Order) : (keysOf o.walk).Perm a.keys := keysOf_perm o

theorem nodup_keysOf (o : a.builders.Order) : (keysOf o.walk).Nodup :=
  (keysOf_perm_keys o).nodup_iff.mpr (nodup_pairs a.builders.nodup nodup_timeframes)

/-! ## The probe -/

/-- The probe sees the first timeframe of each symbol. -/
theorem probe_iff {walk : List (Symbol × List Timeframe)} :
    a.probe now walk = true ↔ HeadIn (a.externalStale now) walk := by
  unfold HeadIn
  induction walk with
  | nil => simp [probe]
  | cons x walk ih =>
      obtain ⟨s, tfs⟩ := x
      cases tfs with
      | nil =>
          show a.probe now walk = true ↔ _
          rw [ih]
          simp
      | cons tf tfs =>
          show (if _ then true else a.probe now walk) = true ↔ _
          split
          · rename_i hstale
            exact iff_of_true rfl ⟨_, List.mem_cons_self, tf, rfl, hstale⟩
          · rename_i hfresh
            rw [ih]
            simp [hfresh]

/-- Every probe sees a stale feed exactly when some symbol has only stale ones. -/
theorem probe_always_iff :
    (∀ o : a.builders.Order, a.probe now o.walk = true) ↔ ∃ s, a.AllStale now s := by
  simp only [probe_iff]
  rw [heads_always_iff]
  apply exists_congr
  intro s
  refine ⟨And.right, fun h => ⟨?_, h⟩⟩
  obtain ⟨tf, htf⟩ := List.exists_mem_of_ne_nil _ h.1
  obtain ⟨b, hb⟩ := Option.isSome_iff_exists.mp (mem_timeframes.mp htf)
  exact a.builders.listed (s, tf) b hb

/-! ## One builder -/

theorem read_length_le (n : ℕ) : (a.read n).candleChan.length ≤ a.candleChan.length := by
  show (a.candleChan.drop n).length ≤ _
  rw [List.length_drop]
  exact Nat.sub_le _ _

@[simp] theorem read_zero : a.read 0 = a := rfl

@[simp] theorem read_closed (n : ℕ) : (a.read n).closed = a.closed := rfl

@[simp] theorem read_builders (n : ℕ) : (a.read n).builders = a.builders := rfl

@[simp] theorem read_lastExternal (n : ℕ) : (a.read n).lastExternal = a.lastExternal := rfl

@[simp] theorem send_builders (e : Emission) : (a.send e).builders = a.builders := by
  unfold send
  split <;> rfl

@[simp] theorem send_lastExternal (e : Emission) : (a.send e).lastExternal = a.lastExternal := by
  unfold send
  split <;> rfl

/-- A send puts one candle into a channel that has room. -/
theorem send_length (e : Emission) : (a.send e).candleChan.length =
    if a.candleChan.length < Aggregator.capacity then a.candleChan.length + 1
    else a.candleChan.length := by
  unfold send
  split
  · exact List.length_append
  · rfl

theorem send_closed (e : Emission) : (a.send e).closed =
    if a.candleChan.length < Aggregator.capacity then a.closed ++ e.closed?.toList else a.closed := by
  unfold send
  split
  · show (a.emitted ++ [e]).filterMap Emission.closed? = _
    rw [List.filterMap_append]
    cases e <;> rfl
  · rfl

theorem send_forming_closed (c : Candle) : (a.send (.forming c)).closed = a.closed := by
  rw [send_closed]
  show (if _ then a.closed ++ [] else a.closed) = a.closed
  rw [List.append_nil, ite_self]

/-- What the body of the loop does: nothing, one send, or two sends and another builder. -/
inductive Flushed (off now : Time) (reads : Key → Bool → ℕ) (a : ExternalAggregator) (key : Key) :
    ExternalAggregator → Prop where
  | idle (hdemand : a.demand off now key = 0) (hdue : a.dueCandle off now key = none) :
      Flushed off now reads a key a
  | forming (c : Candle) (hdemand : a.demand off now key = 1) (hdue : a.dueCandle off now key = none) :
      Flushed off now reads a key ((a.read (reads key false)).send (.forming c))
  | closing (c : Candle) (m : BuilderMap) (hdemand : a.demand off now key = 2)
      (hdue : a.dueCandle off now key = some c)
      (hothers : ∀ key', key' ≠ key → m.candles key' = a.builders.candles key') :
      Flushed off now reads a key
        { (((a.read (reads key false)).send (.forming c)).read (reads key true)).send (.closed c) with
          builders := m }

theorem demand_of_builder (off now : Time) {b : CandleBuilder} (hb : a.builders.candles key = some b) :
    a.demand off now key =
      if b.updated = true ∧ a.externalStale now key = true then if Ended off now b then 2 else 1
      else 0 := by
  unfold demand
  rw [hb]

theorem dueCandle_of_builder (off now : Time) {b : CandleBuilder} (hb : a.builders.candles key = some b) :
    a.dueCandle off now key = if Due off now a key b then some (b.candle off) else none := by
  unfold dueCandle
  rw [hb]
  rfl

theorem flushed (off now : Time) (reads : Key → Bool → ℕ) (a : ExternalAggregator) (key : Key) :
    Flushed off now reads a key (flushBuilder off now reads a key) := by
  unfold flushBuilder
  cases hb : a.builders.candles key with
  | none =>
      refine .idle ?_ ?_
      · unfold demand
        rw [hb]
      · unfold dueCandle
        rw [hb]
        rfl
  | some b =>
      have hdemand := demand_of_builder off now hb
      have hdue := dueCandle_of_builder off now hb
      dsimp only
      cases hupdated : b.updated with
      | false =>
          rw [if_pos rfl]
          rw [hupdated] at hdemand
          refine .idle (hdemand.trans (if_neg ?_)) (hdue.trans (if_neg ?_))
          · rintro ⟨h, -⟩
            cases h
          · rintro ⟨h, -⟩
            rw [hupdated] at h
            cases h
      | true =>
          rw [if_neg (by decide)]
          cases hstale : a.externalStale now key with
          | false =>
              rw [if_neg Bool.false_ne_true, hstale, if_neg fun h => Bool.false_ne_true h.1]
              rw [hstale] at hdemand
              refine .idle (hdemand.trans (if_neg ?_)) (hdue.trans (if_neg ?_))
              · rintro ⟨-, h⟩
                cases h
              · rintro ⟨-, h, -⟩
                rw [hstale] at h
                cases h
          | true =>
              rw [if_pos rfl]
              -- the sends leave the feeds as they are
              have hsent : ((a.read (reads key false)).send
                  (.forming (b.candle off))).externalStale now key = true := by
                unfold externalStale at hstale ⊢
                rw [send_lastExternal, read_lastExternal]
                exact hstale
              rw [hupdated, hstale, if_pos ⟨rfl, rfl⟩] at hdemand
              by_cases hended : Ended off now b
              · rw [if_pos ⟨hsent, hended⟩]
                rw [if_pos hended] at hdemand
                refine .closing (b.candle off) _ hdemand
                  (hdue.trans (if_pos ⟨hupdated, hstale, hended⟩)) ?_
                intro key' hne
                rw [send_builders, read_builders, send_builders, read_builders]
                exact Function.update_of_ne hne _ _
              · rw [if_neg fun h => hended h.2]
                rw [if_neg hended] at hdemand
                exact .forming (b.candle off) hdemand (hdue.trans (if_neg fun h => hended h.2.2))

/-- The keys other than its own are left alone. -/
theorem flushBuilder_others (off now : Time) (reads : Key → Bool → ℕ) (a : ExternalAggregator)
    {key' : Key} (h : key' ≠ key) :
    (flushBuilder off now reads a key).builders.candles key' = a.builders.candles key' ∧
      (flushBuilder off now reads a key).lastExternal = a.lastExternal := by
  have hcases := flushed off now reads a key
  generalize flushBuilder off now reads a key = after at hcases ⊢
  cases hcases with
  | idle => exact ⟨rfl, rfl⟩
  | forming c => simp
  | closing c m _ _ hothers => exact ⟨hothers key' h, by simp⟩

/-- A key that is due demands two places. -/
theorem demand_of_due (hdue : (a.dueCandle off now key).isSome = true) : a.demand off now key = 2 := by
  have hcases := flushed off now (fun _ _ => 0) a key
  generalize flushBuilder off now (fun _ _ => 0) a key = after at hcases
  cases hcases with
  | idle _ hnone => simp [hnone] at hdue
  | forming c _ hnone => simp [hnone] at hdue
  | closing c m hdemand => exact hdemand

/-- No more is sent than the key demands. -/
theorem flushBuilder_length_le (off now : Time) (reads : Key → Bool → ℕ) (a : ExternalAggregator)
    (key : Key) : (flushBuilder off now reads a key).candleChan.length ≤
      a.candleChan.length + a.demand off now key := by
  have hcases := flushed off now reads a key
  generalize flushBuilder off now reads a key = after at hcases ⊢
  have hsend : ∀ (a : ExternalAggregator) (n : ℕ) (e : Emission),
      ((a.read n).send e).candleChan.length ≤ a.candleChan.length + 1 := by
    intro a n e
    have hread := read_length_le (a := a) n
    rw [send_length]
    split <;> omega
  cases hcases with
  | idle hdemand => exact Nat.le_add_right _ _
  | forming c hdemand =>
      rw [hdemand]
      exact hsend a _ _
  | closing c m hdemand =>
      rw [hdemand]
      have hforming := hsend a (reads key false) (.forming c)
      exact (hsend _ (reads key true) (.closed c)).trans (by omega)

/-- And all of it is, into a channel that nobody reads, as far as that has room. -/
theorem le_flushBuilder_length (off now : Time) (a : ExternalAggregator)
    (hreads : ∀ b, reads key b = 0) :
    min Aggregator.capacity (a.candleChan.length + a.demand off now key) ≤
      (flushBuilder off now reads a key).candleChan.length := by
  have hcases := flushed off now reads a key
  generalize flushBuilder off now reads a key = after at hcases ⊢
  have hsend : ∀ (a : ExternalAggregator) (e : Emission), min Aggregator.capacity
      (a.candleChan.length + 1) ≤ (a.send e).candleChan.length := by
    intro a e
    rw [send_length]
    split <;> omega
  cases hcases with
  | idle hdemand =>
      rw [hdemand]
      omega
  | forming c hdemand =>
      rw [hdemand, hreads, read_zero]
      exact hsend a _
  | closing c m hdemand =>
      rw [hdemand, hreads, hreads, read_zero, read_zero]
      have hforming := hsend a (.forming c)
      have hclosed := hsend (a.send (.forming c)) (.closed c)
      show _ ≤ ((a.send (.forming c)).send (.closed c)).candleChan.length
      omega

/-- With room for what the key demands, its candle is closed if it is due. -/
theorem flushBuilder_closed_of_room
    (hroom : a.candleChan.length + a.demand off now key ≤ Aggregator.capacity) :
    (flushBuilder off now reads a key).closed = a.closed ++ (a.dueCandle off now key).toList := by
  have hcases := flushed off now reads a key
  generalize flushBuilder off now reads a key = after at hcases ⊢
  cases hcases with
  | idle _ hdue =>
      rw [hdue]
      exact (List.append_nil _).symm
  | forming c _ hdue =>
      rw [hdue, send_forming_closed, read_closed]
      exact (List.append_nil _).symm
  | closing c m hdemand hdue =>
      rw [hdemand] at hroom
      rw [hdue]
      have hbefore : (((a.read (reads key false)).send (.forming c)).read
          (reads key true)).candleChan.length < Aggregator.capacity := by
        have hread := read_length_le (a := a) (reads key false)
        have hread' := read_length_le (a := (a.read (reads key false)).send (.forming c)) (reads key true)
        rw [send_length] at hread'
        split at hread' <;> omega
      show ((((a.read _).send _).read _).send (.closed c)).closed = _
      rw [send_closed, if_pos hbefore, read_closed, send_forming_closed, read_closed]
      rfl

/-- What is closed is due, whatever room there is. -/
theorem flushBuilder_closed (off now : Time) (reads : Key → Bool → ℕ) (a : ExternalAggregator)
    (key : Key) : ∃ cs, (flushBuilder off now reads a key).closed = a.closed ++ cs ∧
      cs.length ≤ (a.dueCandle off now key).toList.length := by
  have hcases := flushed off now reads a key
  generalize flushBuilder off now reads a key = after at hcases ⊢
  cases hcases with
  | idle => exact ⟨[], (List.append_nil _).symm, Nat.zero_le _⟩
  | forming c =>
      refine ⟨[], ?_, Nat.zero_le _⟩
      rw [send_forming_closed, read_closed]
      exact (List.append_nil _).symm
  | closing c m _ hdue =>
      rw [hdue]
      show ∃ cs, ((((a.read _).send _).read _).send (.closed c)).closed = _ ∧ _
      rw [send_closed, read_closed, send_forming_closed, read_closed]
      split
      · exact ⟨[c], rfl, le_rfl⟩
      · exact ⟨[], (List.append_nil _).symm, Nat.zero_le _⟩

/-- A channel that the sends fill up drops the closed candle, which comes last. -/
theorem flushBuilder_closed_of_full (hreads : ∀ b, reads key b = 0)
    (hfull : Aggregator.capacity < a.candleChan.length + a.demand off now key) :
    (flushBuilder off now reads a key).closed = a.closed := by
  have hcases := flushed off now reads a key
  generalize flushBuilder off now reads a key = after at hcases ⊢
  cases hcases with
  | idle => rfl
  | forming c => rw [send_forming_closed, read_closed]
  | closing c m hdemand =>
      rw [hdemand] at hfull
      rw [hreads, hreads, read_zero, read_zero]
      have hbefore : ¬ (a.send (.forming c)).candleChan.length < Aggregator.capacity := by
        rw [send_length]
        split <;> omega
      show ((a.send (.forming c)).send (.closed c)).closed = _
      rw [send_closed, if_neg hbefore, send_forming_closed]

/-! ## The loop -/

theorem dueCandle_congr {a' : ExternalAggregator}
    (h : a'.builders.candles key = a.builders.candles key ∧ a'.lastExternal = a.lastExternal) :
    a'.dueCandle off now key = a.dueCandle off now key := by
  have hstale : a'.externalStale now key = a.externalStale now key := by
    unfold externalStale
    rw [h.2]
  unfold dueCandle
  rw [h.1]
  refine congrArg (Option.bind _) (funext fun b => if_congr ?_ rfl rfl)
  unfold Due
  rw [hstale]

theorem demand_congr {a' : ExternalAggregator}
    (h : a'.builders.candles key = a.builders.candles key ∧ a'.lastExternal = a.lastExternal) :
    a'.demand off now key = a.demand off now key := by
  have hstale : a'.externalStale now key = a.externalStale now key := by
    unfold externalStale
    rw [h.2]
  unfold demand
  rw [h.1, hstale]

section
variable {L : List Key}

/-- A key that the loop has not come to is as it was. -/
theorem run_others (off now : Time) (reads : Key → Bool → ℕ) (a : ExternalAggregator)
    (hkey : key ∉ L) :
    (run (flushBuilder off now reads) a L).builders.candles key = a.builders.candles key ∧
      (run (flushBuilder off now reads) a L).lastExternal = a.lastExternal := by
  induction L generalizing a with
  | nil => exact ⟨rfl, rfl⟩
  | cons key' L ih =>
      rw [List.mem_cons, not_or] at hkey
      obtain ⟨hne, hnew⟩ := hkey
      have hstep := flushBuilder_others off now reads a hne
      rw [run_cons, (ih _ hnew).1, (ih _ hnew).2]
      exact hstep

theorem demands_after (hnew : key ∉ L) :
    L.map ((flushBuilder off now reads a key).demand off now) = L.map (a.demand off now) := by
  apply List.map_congr_left
  intro key' hkey'
  exact demand_congr (flushBuilder_others off now reads a (ne_of_mem_of_not_mem hkey' hnew))

theorem dueCandles_after (hnew : key ∉ L) :
    L.filterMap ((flushBuilder off now reads a key).dueCandle off now) =
      L.filterMap (a.dueCandle off now) := by
  apply List.filterMap_congr
  intro key' hkey'
  exact dueCandle_congr (flushBuilder_others off now reads a (ne_of_mem_of_not_mem hkey' hnew))

theorem filterMap_cons_toList {α β : Type*} (f : α → Option β) (x : α) (xs : List α) :
    (x :: xs).filterMap f = (f x).toList ++ xs.filterMap f := by
  rw [List.filterMap_cons]
  cases f x <;> rfl

/-- **With room for all.** The loop closes what is due under its keys, in its order. -/
theorem run_closed_of_room (hnd : L.Nodup)
    (hroom : a.candleChan.length + (L.map (a.demand off now)).sum ≤ Aggregator.capacity) :
    (run (flushBuilder off now reads) a L).closed = a.closed ++ L.filterMap (a.dueCandle off now) := by
  induction L generalizing a with
  | nil => exact (List.append_nil _).symm
  | cons key L ih =>
      obtain ⟨hnew, hnd⟩ := List.nodup_cons.mp hnd
      rw [List.map_cons, List.sum_cons] at hroom
      have hlen := flushBuilder_length_le off now reads a key
      rw [run_cons, ih hnd, flushBuilder_closed_of_room (by omega), dueCandles_after hnew,
        filterMap_cons_toList, List.append_assoc]
      rw [demands_after hnew]
      omega

/-- The loop closes no more than what is due. -/
theorem run_closed (off now : Time) (reads : Key → Bool → ℕ) (a : ExternalAggregator)
    (hnd : L.Nodup) : ∃ cs, (run (flushBuilder off now reads) a L).closed = a.closed ++ cs ∧
      cs.length ≤ (L.filterMap (a.dueCandle off now)).length := by
  induction L generalizing a with
  | nil => exact ⟨[], (List.append_nil _).symm, le_rfl⟩
  | cons key L ih =>
      obtain ⟨hnew, hnd⟩ := List.nodup_cons.mp hnd
      obtain ⟨cs, hcs, hlen⟩ := flushBuilder_closed off now reads a key
      obtain ⟨cs', hcs', hlen'⟩ := ih (flushBuilder off now reads a key) hnd
      refine ⟨cs ++ cs', ?_, ?_⟩
      · rw [run_cons, hcs', hcs, List.append_assoc]
      · rw [dueCandles_after hnew] at hlen'
        rw [filterMap_cons_toList, List.length_append, List.length_append]
        omega

/-- The loop fills a channel that nobody reads. -/
theorem le_run_length (off now : Time) (a : ExternalAggregator) (hnd : L.Nodup)
    (hreads : ∀ key b, reads key b = 0) :
    min Aggregator.capacity (a.candleChan.length + (L.map (a.demand off now)).sum) ≤
      (run (flushBuilder off now reads) a L).candleChan.length := by
  induction L generalizing a with
  | nil => exact Nat.min_le_right _ _
  | cons key L ih =>
      obtain ⟨hnew, hnd⟩ := List.nodup_cons.mp hnd
      have hstep := le_flushBuilder_length off now a (hreads key)
      have hrest := ih (flushBuilder off now reads a key) hnd
      rw [demands_after hnew] at hrest
      rw [run_cons, List.map_cons, List.sum_cons]
      omega

/-- **Without.** A key that comes last is not closed. -/
theorem run_closed_of_full (hnd : (L ++ [key]).Nodup)
    (hdue : (a.dueCandle off now key).isSome = true)
    (hfull : Aggregator.capacity < a.candleChan.length + ((L ++ [key]).map (a.demand off now)).sum) :
    ∃ cs, (run (flushBuilder off now fun _ _ => 0) a (L ++ [key])).closed = a.closed ++ cs ∧
      cs.length < ((L ++ [key]).filterMap (a.dueCandle off now)).length := by
  obtain ⟨hndL, -, hdisjoint⟩ := List.nodup_append.mp hnd
  have hnew : key ∉ L := fun hmem => hdisjoint key hmem key (List.mem_singleton_self key) rfl
  have hothers := run_others off now (fun _ _ => 0) a hnew
  obtain ⟨cs, hcs, hlen⟩ := run_closed off now (fun _ _ => 0) a hndL
  refine ⟨cs, ?_, ?_⟩
  · rw [run_snoc, flushBuilder_closed_of_full fun _ => rfl, hcs]
    -- the loop has filled the channel, all but the one place for the forming candle
    have hfilled := le_run_length off now a hndL fun _ _ => rfl
    have htwo := demand_of_due hdue
    rw [List.map_append, List.sum_append] at hfull
    simp only [List.map_cons, List.map_nil, List.sum_cons, List.sum_nil] at hfull
    rw [demand_congr hothers]
    omega
  · obtain ⟨c, hc⟩ := Option.isSome_iff_exists.mp hdue
    rw [List.filterMap_append, filterMap_cons_toList, hc, List.length_append]
    exact Nat.lt_succ_of_le hlen

end

/-! ## The iteration -/

theorem flushClosedCandles_of_probe {probed looped : a.builders.Order}
    (h : a.probe now probed.walk = true) :
    a.flushClosedCandles off now probed looped reads =
      run (flushBuilder off now reads) a (keysOf looped.walk) := if_pos h

/-- Something is due, and so a key is. -/
theorem exists_due (h : a.keys.filterMap (a.dueCandle off now) ≠ []) :
    ∃ key, (a.dueCandle off now key).isSome = true := by
  obtain ⟨c, hc⟩ := List.exists_mem_of_ne_nil _ h
  obtain ⟨key, -, hkey⟩ := List.mem_filterMap.mp hc
  exact ⟨key, Option.isSome_iff_exists.mpr ⟨c, hkey⟩⟩

theorem candles_of_due (h : (a.dueCandle off now key).isSome = true) :
    (a.builders.candles key).isSome = true := by
  unfold dueCandle at h
  cases hb : a.builders.candles key with
  | none =>
      rw [hb] at h
      exact h
  | some b => rfl

/-- Where something is due, a probe that sees no stale feed would leave it. -/
theorem FallsBack.probe (h : FallsBack off now a) (hdue : a.keys.filterMap (a.dueCandle off now) ≠ [])
    (o : a.builders.Order) : a.probe now o.walk = true := by
  by_contra hfresh
  obtain ⟨cs, hcs, hperm⟩ := h o o fun _ _ => 0
  have hidle : a.flushClosedCandles off now o o (fun _ _ => 0) = a := if_neg hfresh
  rw [hidle, List.self_eq_append_right] at hcs
  rw [hcs] at hperm
  exact hdue hperm.nil_eq.symm

/-- And a channel without room would drop what is due under the key that comes last. -/
theorem FallsBack.room (h : FallsBack off now a) (hsome : a.keys.filterMap (a.dueCandle off now) ≠ []) :
    a.candleChan.length + (a.keys.map (a.demand off now)).sum ≤ Aggregator.capacity := by
  obtain ⟨key, hdue⟩ := exists_due hsome
  obtain ⟨last, L, hlast⟩ := exists_order_snoc (mem_keys.mpr (candles_of_due hdue))
  by_contra hfull
  rw [not_le] at hfull
  have hsum := ((keysOf_perm_keys last).map (a.demand off now)).sum_eq
  have hall := (keysOf_perm_keys last).filterMap (a.dueCandle off now)
  have hnd := nodup_keysOf last
  rw [hlast] at hsum hall hnd
  rw [← hsum] at hfull
  obtain ⟨cs, hcs, hfew⟩ := run_closed_of_full hnd hdue hfull
  obtain ⟨cs', hcs', hperm⟩ := h last last fun _ _ => 0
  rw [flushClosedCandles_of_probe (h.probe hsome last), hlast, hcs, List.append_cancel_left_eq] at hcs'
  rw [← hcs'] at hperm
  have hlen := (hperm.trans hall.symm).length_eq
  omega

/-- Where nothing is due, nothing is closed. -/
theorem fallsBack_of_idle (h : a.keys.filterMap (a.dueCandle off now) = []) : FallsBack off now a := by
  intro probed looped reads
  refine ⟨[], ?_, by rw [h]⟩
  rw [List.append_nil]
  unfold flushClosedCandles
  split
  · obtain ⟨cs, hcs, hlen⟩ := run_closed off now reads a (nodup_keysOf looped)
    have hall := (keysOf_perm_keys looped).filterMap (a.dueCandle off now)
    rw [h] at hall
    rw [hall.eq_nil] at hlen
    rw [hcs, List.eq_nil_of_length_eq_zero (Nat.le_zero.mp hlen), List.append_nil]
  · rfl

/-- With a probe that sees a stale feed and a channel with room, the loop closes what is due. -/
theorem fallsBack_of_room (hprobe : ∀ o : a.builders.Order, a.probe now o.walk = true)
    (hroom : a.candleChan.length + (a.keys.map (a.demand off now)).sum ≤ Aggregator.capacity) :
    FallsBack off now a := by
  intro probed looped reads
  rw [flushClosedCandles_of_probe (hprobe probed)]
  have hsum := ((keysOf_perm_keys looped).map (a.demand off now)).sum_eq
  refine ⟨_, run_closed_of_room (nodup_keysOf looped) ?_,
    (keysOf_perm_keys looped).filterMap (a.dueCandle off now)⟩
  rw [hsum]
  exact hroom

/-- **External feeds.** An iteration closes the bucket of each builder with a stale feed that is due, once,
and no other, in every order of the maps and with any reads of the channel, exactly when nothing is due, or
some symbol has only stale feeds and the channel has room. -/
theorem external_fallback_iff (off now : Time) (a : ExternalAggregator) :
    FallsBack off now a ↔ Covered off now a := by
  constructor
  · intro h
    by_cases hidle : a.keys.filterMap (a.dueCandle off now) = []
    · exact Or.inl hidle
    · exact Or.inr ⟨probe_always_iff.mp (h.probe hidle), h.room hidle⟩
  · rintro (hidle | ⟨hstale, hroom⟩)
    · exact fallsBack_of_idle hidle
    · exact fallsBack_of_room (probe_always_iff.mpr hstale) hroom

/-- The builders that the first tick opens, ten seconds into their buckets. -/
def firstTick : Tick := ⟨"XAUUSD", 1999, 2001, 2000, 1, 10000000000⟩

/-- Five minutes later the node has sent the bar of the sixth minute, and none of five minutes. -/
def minuteBarOnly : ExternalAggregator :=
  ExternalAggregator.pushExternalCandle
    { builders := supportedTFs.foldl (fun m tf => m.put (firstTick.builder 0 tf)) BuilderMap.empty
      lastExternal := fun _ => none
      candleChan := []
      emitted := [] }
    { symbol := "XAUUSD", timeframe := .m1, time := 300000000000, open_ := 2000, high := 2001,
      low := 1999, close := 2000, volume := 1, quality := .complete, alignment := .utc }

/-- The shorter timeframes first. -/
def shortFirst (m : BuilderMap) : m.Order :=
  orderOf m.symbols m.timeframes (List.Perm.refl _) fun _ => List.Perm.refl _

/-- The longer ones first. -/
def longFirst (m : BuilderMap) : m.Order :=
  orderOf m.symbols (fun s => (m.timeframes s).reverse) (List.Perm.refl _)
    fun _ => List.reverse_perm _

/-- The five minutes are over and have no bar. They are closed if the probe comes to a longer timeframe
first, and not if it comes to the minute. -/
theorem minute_bar_hides :
    (minuteBarOnly.flushClosedCandles 0 310000000000 (longFirst _) (longFirst _)
        fun _ _ => 0).closed.map Candle.timeframe = [.m5] ∧
      (minuteBarOnly.flushClosedCandles 0 310000000000 (shortFirst _) (longFirst _)
        fun _ _ => 0).closed = [] ∧
      ¬ FallsBack 0 310000000000 minuteBarOnly := by
  have hlong : (minuteBarOnly.flushClosedCandles 0 310000000000 (longFirst _) (longFirst _)
      fun _ _ => 0).closed.map Candle.timeframe = [.m5] := by decide +kernel
  have hshort : (minuteBarOnly.flushClosedCandles 0 310000000000 (shortFirst _) (longFirst _)
      fun _ _ => 0).closed = [] := by decide +kernel
  have hdue : (minuteBarOnly.keys.filterMap (minuteBarOnly.dueCandle 0 310000000000)).length = 1 := by
    decide +kernel
  refine ⟨hlong, hshort, fun h => ?_⟩
  obtain ⟨cs, hcs, hperm⟩ := h (shortFirst _) (longFirst _) fun _ _ => 0
  rw [hshort] at hcs
  rw [(List.append_eq_nil_iff.mp hcs.symm).2] at hperm
  rw [hperm.nil_eq.symm] at hdue
  cases hdue

end ExternalAggregator

end PredictATrade.MarketData
