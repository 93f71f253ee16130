import Mathlib.Data.List.Nodup
import Mathlib.Data.List.ProdSigma
import PredictATrade.MarketData.Aggregator

/-!
# `MarketData.Exactness` — one candle for a bucket, over all of its ticks

A bucket is exact when it has no ticks and no candle, when its ticks are in the open builder, or when
one candle over all of its ticks has been emitted and the builder is not open at it (`BucketExact`).

A tick for a bucket whose candle has been emitted opens the bucket again: a late tick, after another
bucket has been opened or after a flush. `candles_exact_iff` says that besides this only two things
break exactness: a full channel, which drops the candle, and a volume that does not fit in 64 bits.
-/

namespace PredictATrade.MarketData

open Lib.Runs
open Realtime (Decimal Timeframe)

/-! ## What is claimed -/

/-- The time lies in the interval from `start` on, which is aligned to the time of the broker. -/
def Contains (off : ℤ) (tf : Timeframe) (start t : Time) : Prop :=
  (start + off * hour) % timeframeDuration tf = 0 ∧ start ≤ t ∧ t < start + timeframeDuration tf

instance (off : ℤ) (tf : Timeframe) (start t : Time) : Decidable (Contains off tf start t) :=
  inferInstanceAs (Decidable (_ ∧ _))

/-- The ticks of a bucket, in the order in which they came. -/
def ticksIn (off : ℤ) (fed : List Tick) (key : Key) (start : Time) : List Tick :=
  fed.filter fun t => decide (t.symbol = key.1 ∧ Contains off key.2 start t.sourceTimestamp)

/-- First mid, highest ask, lowest bid and last mid. -/
structure Aggregates (ts : List Tick) (o h l c : Decimal) : Prop where
  first : ts.head?.map Tick.mid = some o
  highest : (∃ t ∈ ts, t.ask = h) ∧ ∀ t ∈ ts, t.ask ≤ h
  lowest : (∃ t ∈ ts, t.bid = l) ∧ ∀ t ∈ ts, l ≤ t.bid
  last : ts.getLast?.map Tick.mid = some c

/-- The volume of the ticks. -/
def volumeOf (ts : List Tick) : ℤ := (ts.map fun t => t.tickVolume.toInt).sum

/-- The ticks of a bucket, its candles and its open builder belong together. -/
inductive BucketExact (ts : List Tick) (es : List Candle) (b : Option CandleBuilder) : Prop where
  | untouched (ht : ts = []) (he : es = []) (hb : b = none)
  | opened (b₀ : CandleBuilder) (hb : b = some b₀) (he : es = [])
      (ha : Aggregates ts b₀.open_ b₀.high b₀.low b₀.close)
      (hv : b₀.volume = Int64.ofInt (volumeOf ts))
  | closed (c : Candle) (he : es = [c]) (hb : b = none)
      (ha : Aggregates ts c.open_ c.high c.low c.close) (hv : c.volume.toInt = volumeOf ts)

namespace Aggregator

/-- What has been emitted, in its order. -/
def emitted (a : Aggregator) : List Candle := a.received ++ a.candleChan

/-- The candles of a key that were emitted for a start. -/
def emittedFor (a : Aggregator) (key : Key) (start : Time) : List Candle :=
  a.emitted.filter fun c => c.symbol == key.1 && c.timeframe == key.2 && c.time == start

/-- The builder, if it has ticks of the bucket. -/
def openAt (a : Aggregator) (key : Key) (start : Time) : Option CandleBuilder :=
  (a.candles key).filter fun b => b.updated && b.bucketStart == start

end Aggregator

/-- The candles of a key are those of its ticks. -/
def KeyExact (off : ℤ) (fed : List Tick) (a : Aggregator) (key : Key) : Prop :=
  ∀ start, BucketExact (ticksIn off fed key start) (a.emittedFor key start) (a.openAt key start)

/-- **Exactness**, of every bucket of every symbol in every supported timeframe. -/
def Exact (off : ℤ) (s : State) : Prop :=
  ∀ key : Key, key.2 ∈ supportedTFs → KeyExact off s.fed s.agg key

/-! ## When it holds -/

/-- The channel has room for the candle of the builder, whose volume fits. -/
def Sendable (off : ℤ) (fed : List Tick) (a : Aggregator) (b : CandleBuilder) : Prop :=
  a.candleChan.length < Aggregator.capacity ∧
    -2 ^ 63 ≤ volumeOf (ticksIn off fed (b.symbol, b.timeframe) b.bucketStart) ∧
    volumeOf (ticksIn off fed (b.symbol, b.timeframe) b.bucketStart) < 2 ^ 63

section

variable (off : ℤ) (fed : List Tick)

/-- The bucket of the tick has not been closed, and the bucket that the tick closes can be sent. -/
def OrderlyTick (tick : Tick) (reads : Timeframe → ℕ) (a : Aggregator) (tf : Timeframe) : Prop :=
  a.emittedFor (tick.symbol, tf) (bucketStart off tf tick.sourceTimestamp) = [] ∧
    ∀ b, a.candles (tick.symbol, tf) = some b → b.updated = true →
      b.bucketStart ≠ bucketStart off tf tick.sourceTimestamp →
        Sendable off fed (a.read (reads tf)) b

/-- The bucket that the flush closes can be sent. -/
def OrderlyFlush (now : Time) (reads : Key → ℕ) (a : Aggregator) (key : Key) : Prop :=
  ∀ b, a.candles key = some b → b.updated = true →
    b.bucketStart + off * hour + b.period < now + off * hour →
      Sendable off fed (a.read (reads key)) b

end

/-- No tick comes for a bucket that has been closed, and every candle can be sent. -/
def Orderly (off : ℤ) (s : State) : Input → Prop
  | .tick tick reads =>
    Along (processTimeframe off tick reads) (OrderlyTick off s.fed tick reads)
      (s.agg.addSymbol tick.symbol) supportedTFs
  | .flush now order reads =>
    order.Perm s.agg.keys →
      Along (flushKey off now reads) (OrderlyFlush off s.fed now reads) s.agg order

/-! ## Buckets -/

theorem timeframeDuration_pos (tf : Timeframe) : 0 < timeframeDuration tf := by
  cases tf <;> decide

/-- The start of the bucket that a time is in. -/
theorem aligned_iff {p : ℤ} (hpos : 0 < p) (o start t : ℤ) :
    ((start + o) % p = 0 ∧ start ≤ t ∧ t < start + p) ↔ t + o - (t + o) % p - o = start := by
  constructor
  · rintro ⟨halign, hle, hlt⟩
    obtain ⟨k, hk⟩ := Int.dvd_of_emod_eq_zero halign
    have hsum : t + o = (t - start) + p * k := by omega
    have hmod : (t + o) % p = t - start := by
      rw [hsum, Int.add_mul_emod_self_left]
      exact Int.emod_eq_of_lt (by omega) (by omega)
    omega
  · intro h
    have hnonneg := Int.emod_nonneg (t + o) (by omega : p ≠ 0)
    have hlt := Int.emod_lt_of_pos (t + o) hpos
    have hstart : start + o = p * ((t + o) / p) := by
      have := Int.emod_add_mul_ediv (t + o) p
      omega
    refine ⟨?_, by omega, by omega⟩
    rw [hstart]
    exact Int.mul_emod_right p _

variable {off : ℤ} {tf : Timeframe} {start t : Time}

/-- A time lies in one aligned interval, the one that `bucketStart` computes. -/
theorem contains_iff : Contains off tf start t ↔ bucketStart off tf t = start :=
  aligned_iff (timeframeDuration_pos tf) (off * hour) start t

variable {fed ts : List Tick} {es : List Candle} {tick : Tick} {b : CandleBuilder}
  {o h l c : Decimal}

theorem ticksIn_snoc {key : Key} (hsym : tick.symbol = key.1) :
    ticksIn off (fed ++ [tick]) key start =
      if bucketStart off key.2 tick.sourceTimestamp = start then ticksIn off fed key start ++ [tick]
      else ticksIn off fed key start := by
  unfold ticksIn
  rw [List.filter_append]
  by_cases hs : bucketStart off key.2 tick.sourceTimestamp = start
  · rw [if_pos hs, List.filter_cons_of_pos (by simp [hsym, contains_iff, hs]), List.filter_nil]
  · rw [if_neg hs, List.filter_cons_of_neg (by simp [contains_iff, hs]), List.filter_nil,
      List.append_nil]

theorem ticksIn_other {key : Key} (hsym : tick.symbol ≠ key.1) :
    ticksIn off (fed ++ [tick]) key start = ticksIn off fed key start := by
  unfold ticksIn
  rw [List.filter_append, List.filter_cons_of_neg (by simp [hsym]), List.filter_nil,
    List.append_nil]

theorem volumeOf_snoc (ts : List Tick) (tick : Tick) :
    volumeOf (ts ++ [tick]) = volumeOf ts + tick.tickVolume.toInt := by
  simp [volumeOf]

/-! ### What a tick makes of a bucket -/

theorem aggregates_singleton (tick : Tick) :
    Aggregates [tick] tick.mid tick.ask tick.bid tick.mid where
  first := rfl
  highest := ⟨⟨tick, List.mem_singleton.mpr rfl, rfl⟩, fun t ht => by
    rw [List.mem_singleton.mp ht]⟩
  lowest := ⟨⟨tick, List.mem_singleton.mpr rfl, rfl⟩, fun t ht => by
    rw [List.mem_singleton.mp ht]⟩
  last := rfl

theorem Aggregates.ne_nil (ha : Aggregates ts o h l c) : ts ≠ [] := by
  rintro rfl
  cases ha.first

theorem Aggregates.snoc (ha : Aggregates ts o h l c) (tick : Tick) :
    Aggregates (ts ++ [tick]) o (if h < tick.ask then tick.ask else h)
      (if tick.bid < l then tick.bid else l) tick.mid := by
  have hlast : tick ∈ ts ++ [tick] := List.mem_append_right _ (List.mem_singleton.mpr rfl)
  constructor
  · rw [List.head?_append_of_ne_nil _ ha.ne_nil]
    exact ha.first
  · obtain ⟨⟨t₀, ht₀, hask⟩, hle⟩ := ha.highest
    constructor
    · split_ifs
      · exact ⟨tick, hlast, rfl⟩
      · exact ⟨t₀, List.mem_append_left _ ht₀, hask⟩
    · intro t ht
      rcases List.mem_append.mp ht with ht | ht
      · have := hle t ht
        split_ifs with hlt
        · exact le_trans this (le_of_lt hlt)
        · exact this
      · rw [List.mem_singleton.mp ht]
        split_ifs with hlt
        · exact le_refl _
        · exact not_lt.mp hlt
  · obtain ⟨⟨t₀, ht₀, hbid⟩, hle⟩ := ha.lowest
    constructor
    · split_ifs
      · exact ⟨tick, hlast, rfl⟩
      · exact ⟨t₀, List.mem_append_left _ ht₀, hbid⟩
    · intro t ht
      rcases List.mem_append.mp ht with ht | ht
      · have := hle t ht
        split_ifs with hlt
        · exact le_trans (le_of_lt hlt) this
        · exact this
      · rw [List.mem_singleton.mp ht]
        split_ifs with hlt
        · exact le_refl _
        · exact not_lt.mp hlt
  · rw [List.getLast?_concat]
    rfl

/-- A builder that starts with the tick makes its bucket exact when there is no candle of it yet. -/
theorem bucket_new (hb : BucketExact ts es none) {b₀ : CandleBuilder} (ho : b₀.open_ = tick.mid)
    (hh : b₀.high = tick.ask) (hl : b₀.low = tick.bid) (hc : b₀.close = tick.mid)
    (hv : b₀.volume = tick.tickVolume) : BucketExact (ts ++ [tick]) es (some b₀) ↔ es = [] := by
  constructor
  · intro hnew
    cases hnew with
    | untouched ht he _ => exact he
    | opened _ _ he _ _ => exact he
    | closed _ _ hb' _ _ => cases hb'
  · rintro rfl
    cases hb with
    | opened _ hb' _ _ _ => cases hb'
    | closed _ he _ _ _ => cases he
    | untouched ht _ _ =>
        subst ht
        refine .opened b₀ rfl rfl ?_ ?_
        · rw [ho, hh, hl, hc]
          exact aggregates_singleton tick
        · rw [hv]
          simp [volumeOf]

/-- A tick that goes on with the bucket keeps it exact. -/
theorem bucket_update (hb : BucketExact ts es (some b)) (hu : b.updated = true) (tick : Tick) :
    BucketExact (ts ++ [tick]) es (some (b.update tick)) ∧ es = [] := by
  cases hb with
  | untouched _ _ hb' => cases hb'
  | closed _ _ hb' _ _ => cases hb'
  | opened b₀ hb' he ha hv =>
      obtain rfl := Option.some.inj hb'
      refine ⟨.opened _ rfl he ?_ ?_, he⟩
      · simp only [CandleBuilder.update, hu, if_true]
        exact ha.snoc tick
      · simp only [CandleBuilder.update, hu, if_true]
        rw [volumeOf_snoc, Int64.ofInt_add, Int64.ofInt_toInt, hv]

/-- The candle of a builder closes its bucket when it is sent and its volume fits. -/
theorem bucket_close (hb : BucketExact ts es (some b)) (room : Prop) [Decidable room] :
    BucketExact ts (es ++ if room then [b.candle off] else []) none ↔
      room ∧ -2 ^ 63 ≤ volumeOf ts ∧ volumeOf ts < 2 ^ 63 := by
  cases hb with
  | untouched _ _ hb' => cases hb'
  | closed _ _ hb' _ _ => cases hb'
  | opened b₀ hb' he ha hv =>
      obtain rfl := Option.some.inj hb'
      rw [he, List.nil_append]
      constructor
      · intro hclosed
        cases hclosed with
        | untouched ht _ _ => exact absurd ht ha.ne_nil
        | opened _ hb' _ _ _ => cases hb'
        | closed c hc _ _ hvol =>
            split_ifs at hc with hroom
            rw [← hvol]
            exact ⟨hroom, c.volume.le_toInt, c.volume.toInt_lt⟩
      · rintro ⟨hroom, hlow, hhigh⟩
        rw [if_pos hroom]
        refine .closed (b.candle off) rfl rfl ha ?_
        show b.volume.toInt = volumeOf ts
        rw [hv, Int64.toInt_ofInt_of_le hlow hhigh]

/-! ## What a step does to a key -/

namespace Aggregator

variable {a : Aggregator} {key key' : Key} {n : ℕ}

theorem emittedFor_read : (a.read n).emittedFor key start = a.emittedFor key start := by
  have hsame : (a.read n).emitted = a.emitted := by
    show (a.received ++ a.candleChan.take n) ++ a.candleChan.drop n = _
    rw [List.append_assoc, List.take_append_drop]
    rfl
  rw [emittedFor, hsame, emittedFor]

theorem emittedFor_put : (a.put key b).emittedFor key' start = a.emittedFor key' start := rfl

theorem emittedFor_emitCandle : (a.emitCandle off b).emittedFor key start =
    a.emittedFor key start ++ if (b.symbol, b.timeframe) = key ∧ b.bucketStart = start then
      (if a.candleChan.length < capacity then [b.candle off] else []) else [] := by
  unfold emitCandle emittedFor emitted
  by_cases hroom : a.candleChan.length < capacity
  · rw [if_pos hroom, if_pos hroom, ← List.append_assoc, List.filter_append]
    congr 1
    by_cases hkey : (b.symbol, b.timeframe) = key ∧ b.bucketStart = start
    · obtain ⟨rfl, rfl⟩ := hkey
      rw [if_pos ⟨rfl, rfl⟩, List.filter_cons_of_pos (by simp [CandleBuilder.candle]),
        List.filter_nil]
    · rw [if_neg hkey, List.filter_cons_of_neg, List.filter_nil]
      intro h
      simp only [CandleBuilder.candle, Bool.and_eq_true, beq_iff_eq] at h
      exact hkey ⟨Prod.ext h.1.1 h.1.2, h.2⟩
  · rw [if_neg hroom, if_neg hroom, ite_self, List.append_nil]

theorem candles_emitCandle : (a.emitCandle off b).candles = a.candles := by
  unfold emitCandle
  split_ifs <;> rfl

theorem openAt_put_self : (a.put key b).openAt key start =
    if b.updated = true ∧ b.bucketStart = start then some b else none := by
  simp only [openAt, put, Function.update_self, Option.filter_some, Bool.and_eq_true, beq_iff_eq]

theorem openAt_put_of_ne (h : key' ≠ key) : (a.put key b).openAt key' start = a.openAt key' start := by
  simp only [openAt, put, Function.update_of_ne h]

theorem openAt_none (h : a.candles key = none) : a.openAt key start = none := by
  simp only [openAt, h, Option.filter_none]

theorem openAt_some (h : a.candles key = some b) : a.openAt key start =
    if b.updated = true ∧ b.bucketStart = start then some b else none := by
  simp only [openAt, h, Option.filter_some, Bool.and_eq_true, beq_iff_eq]

/-- A builder that no tick has updated is not open. -/
theorem openAt_untouched (h : a.candles key = some b) (hu : b.updated = false) (start : Time) :
    a.openAt key start = none := by
  rw [openAt_some h, if_neg]
  rintro ⟨hup, -⟩
  rw [hu] at hup
  cases hup

end Aggregator

/-- A builder is under its own key, and no symbol is listed twice. -/
structure WellFormed (a : Aggregator) : Prop where
  builders : ∀ key b, a.candles key = some b → (b.symbol, b.timeframe) = key
  symbols : a.symbols.Nodup

variable {a : Aggregator} {key key' : Key} {reads : Timeframe → ℕ} {now : Time} {taken : Key → ℕ}

/-- The bucket of a builder is closed by another builder that has no ticks of it. -/
theorem close_own (hw : WellFormed a) (b' : CandleBuilder) (hb : a.candles key = some b)
    (hu : b.updated = true) (hne : ¬ (b'.updated = true ∧ b'.bucketStart = b.bucketStart))
    (hk : KeyExact off fed a key) :
    BucketExact (ticksIn off fed key b.bucketStart)
        (((a.emitCandle off b).put key b').emittedFor key b.bucketStart)
        (((a.emitCandle off b).put key b').openAt key b.bucketStart) ↔ Sendable off fed a b := by
  have hkey := hw.builders key b hb
  have hopen : a.openAt key b.bucketStart = some b := by
    rw [Aggregator.openAt_some hb, if_pos ⟨hu, rfl⟩]
  have hexact := hk b.bucketStart
  rw [hopen] at hexact
  rw [Aggregator.openAt_put_self, if_neg hne, Aggregator.emittedFor_put,
    Aggregator.emittedFor_emitCandle, if_pos ⟨hkey, rfl⟩, bucket_close hexact, Sendable, hkey]

/-- A builder is put, with the tick, where none is open. -/
theorem put_own {b' : CandleBuilder} (hopen : ∀ start, a.openAt (tick.symbol, tf) start = none)
    (hnew : b'.open_ = tick.mid ∧ b'.high = tick.ask ∧ b'.low = tick.bid ∧ b'.close = tick.mid ∧
      b'.volume = tick.tickVolume)
    (hat : b'.updated = true ∧ b'.bucketStart = bucketStart off tf tick.sourceTimestamp)
    (hk : KeyExact off fed a (tick.symbol, tf)) :
    KeyExact off (fed ++ [tick]) (a.put (tick.symbol, tf) b') (tick.symbol, tf) ↔
      a.emittedFor (tick.symbol, tf) (bucketStart off tf tick.sourceTimestamp) = [] := by
  obtain ⟨ho, hh, hl, hc, hv⟩ := hnew
  have hbucket : ∀ start, BucketExact (ticksIn off fed (tick.symbol, tf) start)
      (a.emittedFor (tick.symbol, tf) start) none := by
    intro start
    have := hk start
    rwa [hopen] at this
  constructor
  · intro h
    have h₀ := h (bucketStart off tf tick.sourceTimestamp)
    rw [ticksIn_snoc rfl, if_pos rfl, Aggregator.emittedFor_put, Aggregator.openAt_put_self,
      if_pos hat] at h₀
    exact (bucket_new (hbucket _) ho hh hl hc hv).mp h₀
  · intro he start
    rw [ticksIn_snoc rfl, Aggregator.emittedFor_put, Aggregator.openAt_put_self]
    by_cases hs : bucketStart off tf tick.sourceTimestamp = start
    · subst hs
      rw [if_pos rfl, if_pos hat]
      exact (bucket_new (hbucket _) ho hh hl hc hv).mpr he
    · rw [if_neg hs, if_neg fun h => hs (hat.2.symm.trans h.2)]
      exact hbucket start

/-- The tick goes on with the bucket that is open. -/
theorem update_own (hb : a.candles (tick.symbol, tf) = some b) (hu : b.updated = true)
    (hs : b.bucketStart = bucketStart off tf tick.sourceTimestamp)
    (hk : KeyExact off fed a (tick.symbol, tf)) :
    KeyExact off (fed ++ [tick]) (a.put (tick.symbol, tf) (b.update tick)) (tick.symbol, tf) ∧
      a.emittedFor (tick.symbol, tf) (bucketStart off tf tick.sourceTimestamp) = [] := by
  have hat : (b.update tick).updated = true ∧
      (b.update tick).bucketStart = bucketStart off tf tick.sourceTimestamp := by
    simp only [CandleBuilder.update, hu, if_true, hs, and_self]
  have h₀ := hk (bucketStart off tf tick.sourceTimestamp)
  rw [Aggregator.openAt_some hb, if_pos ⟨hu, hs⟩] at h₀
  refine ⟨fun start => ?_, (bucket_update h₀ hu tick).2⟩
  rw [ticksIn_snoc rfl, Aggregator.emittedFor_put, Aggregator.openAt_put_self]
  by_cases heq : bucketStart off tf tick.sourceTimestamp = start
  · subst heq
    rw [if_pos rfl, if_pos hat]
    exact (bucket_update h₀ hu tick).1
  · rw [if_neg heq, if_neg fun h => heq (hat.2.symm.trans h.2)]
    have := hk start
    rwa [Aggregator.openAt_some hb, if_neg fun h => heq (hs.symm.trans h.2)] at this

/-- The tick opens another bucket, and so closes the one that is open. -/
theorem close_open_own (hw : WellFormed a) (hb : a.candles (tick.symbol, tf) = some b)
    (hu : b.updated = true) (hs : b.bucketStart ≠ bucketStart off tf tick.sourceTimestamp)
    (hk : KeyExact off fed a (tick.symbol, tf)) :
    KeyExact off (fed ++ [tick])
        ((a.emitCandle off b).put (tick.symbol, tf) (tick.builder off tf)) (tick.symbol, tf) ↔
      a.emittedFor (tick.symbol, tf) (bucketStart off tf tick.sourceTimestamp) = [] ∧
        Sendable off fed a b := by
  have hclose := close_own hw (tick.builder off tf) hb hu (fun h => hs h.2.symm) hk
  have hnone : ∀ start, b.bucketStart ≠ start →
      BucketExact (ticksIn off fed (tick.symbol, tf) start)
        (a.emittedFor (tick.symbol, tf) start) none := by
    intro start hne
    have := hk start
    rwa [Aggregator.openAt_some hb, if_neg fun h => hne h.2] at this
  have hother : ∀ start, b.bucketStart ≠ start →
      ((a.emitCandle off b).put (tick.symbol, tf) (tick.builder off tf)).emittedFor
        (tick.symbol, tf) start = a.emittedFor (tick.symbol, tf) start := by
    intro start hne
    rw [Aggregator.emittedFor_put, Aggregator.emittedFor_emitCandle, if_neg fun h => hne h.2,
      List.append_nil]
  have hopened : BucketExact
      (ticksIn off fed (tick.symbol, tf) (bucketStart off tf tick.sourceTimestamp) ++ [tick])
      (a.emittedFor (tick.symbol, tf) (bucketStart off tf tick.sourceTimestamp))
      (some (tick.builder off tf)) ↔
        a.emittedFor (tick.symbol, tf) (bucketStart off tf tick.sourceTimestamp) = [] :=
    bucket_new (hnone _ hs) rfl rfl rfl rfl rfl
  constructor
  · intro h
    constructor
    · have h₀ := h (bucketStart off tf tick.sourceTimestamp)
      rw [ticksIn_snoc rfl, if_pos rfl, hother _ hs, Aggregator.openAt_put_self,
        if_pos ⟨rfl, rfl⟩] at h₀
      exact hopened.mp h₀
    · have h₁ := h b.bucketStart
      rw [ticksIn_snoc rfl, if_neg hs.symm] at h₁
      exact hclose.mp h₁
  · rintro ⟨he, hsend⟩ start
    rw [ticksIn_snoc rfl]
    by_cases heq : bucketStart off tf tick.sourceTimestamp = start
    · subst heq
      rw [if_pos rfl, hother _ hs, Aggregator.openAt_put_self, if_pos ⟨rfl, rfl⟩]
      exact hopened.mpr he
    · rw [if_neg heq]
      by_cases hb' : b.bucketStart = start
      · subst hb'
        exact hclose.mpr hsend
      · rw [hother _ hb', Aggregator.openAt_put_self, if_neg fun h => heq h.2]
        exact hnone start hb'

theorem keyExact_read {n : ℕ} : KeyExact off fed (a.read n) key ↔ KeyExact off fed a key := by
  unfold KeyExact
  simp only [Aggregator.emittedFor_read]
  exact Iff.rfl

theorem WellFormed.read (hw : WellFormed a) (n : ℕ) : WellFormed (a.read n) := ⟨hw.1, hw.2⟩

/-- `ProcessTick` in one timeframe keeps the key of the tick exact precisely when it is orderly. -/
theorem tick_own (hw : WellFormed a) (hk : KeyExact off fed a (tick.symbol, tf)) :
    KeyExact off (fed ++ [tick]) (processTimeframe off tick reads a tf) (tick.symbol, tf) ↔
      OrderlyTick off fed tick reads a tf := by
  have hk₁ : KeyExact off fed (a.read (reads tf)) (tick.symbol, tf) := keyExact_read.mpr hk
  have hw₁ := hw.read (reads tf)
  have hcandles : (a.read (reads tf)).candles = a.candles := rfl
  unfold processTimeframe OrderlyTick
  rw [← Aggregator.emittedFor_read (n := reads tf), ← hcandles]
  generalize a.read (reads tf) = a₁ at hk₁ hw₁ ⊢
  cases hb : a₁.candles (tick.symbol, tf) with
  | none =>
      simp only [hb]
      rw [put_own (fun start => Aggregator.openAt_none hb) ⟨rfl, rfl, rfl, rfl, rfl⟩ ⟨rfl, rfl⟩ hk₁]
      exact (and_iff_left fun b hb' => nomatch hb').symm
  | some b =>
      simp only [hb]
      by_cases hs : b.bucketStart = bucketStart off tf tick.sourceTimestamp
      · rw [if_pos hs]
        have hvac : ∀ b', some b = some b' → b'.updated = true →
            b'.bucketStart ≠ bucketStart off tf tick.sourceTimestamp → Sendable off fed a₁ b' :=
          fun b' hb' _ hne => absurd (Option.some.inj hb' ▸ hs) hne
        rw [and_iff_left hvac]
        cases hu : b.updated with
        | true =>
            have hown := update_own hb hu hs hk₁
            exact iff_of_true hown.1 hown.2
        | false =>
            refine put_own (Aggregator.openAt_untouched hb hu) ?_ ?_ hk₁
            · simp [CandleBuilder.update, hu]
            · simp [CandleBuilder.update, hu, hs]
      · rw [if_neg hs]
        cases hu : b.updated with
        | true =>
            simp only [if_true]
            rw [close_open_own hw₁ hb hu hs hk₁]
            refine and_congr_right fun _ => ⟨?_, fun h => h b rfl hu hs⟩
            rintro hsend b' hb' _ _
            obtain rfl := Option.some.inj hb'
            exact hsend
        | false =>
            simp only [Bool.false_eq_true, if_false]
            rw [put_own (Aggregator.openAt_untouched hb hu) ⟨rfl, rfl, rfl, rfl, rfl⟩ ⟨rfl, rfl⟩ hk₁]
            refine (and_iff_left ?_).symm
            intro b' hb' hu' _
            obtain rfl := Option.some.inj hb'
            rw [hu] at hu'
            cases hu'

/-- A flush keeps the key that it comes to exact precisely when it is orderly. -/
theorem flush_own (hw : WellFormed a) (hk : KeyExact off fed a key) :
    KeyExact off fed (flushKey off now taken a key) key ↔
      OrderlyFlush off fed now taken a key := by
  have hk₁ : KeyExact off fed (a.read (taken key)) key := keyExact_read.mpr hk
  have hw₁ := hw.read (taken key)
  have hcandles : (a.read (taken key)).candles = a.candles := rfl
  unfold flushKey OrderlyFlush
  rw [← hcandles]
  generalize a.read (taken key) = a₁ at hk₁ hw₁ ⊢
  cases hb : a₁.candles key with
  | none =>
      simp only [hb]
      exact iff_of_true hk₁ fun b hb' => nomatch hb'
  | some b =>
      simp only [hb]
      by_cases hc : b.updated = true ∧ b.bucketStart + off * hour + b.period < now + off * hour
      · rw [if_pos hc]
        have hclose := close_own hw₁ (b.placeholder off now) hb hc.1 (fun h => nomatch h.1) hk₁
        constructor
        · rintro h b' hb' _ _
          obtain rfl := Option.some.inj hb'
          exact hclose.mp (h b.bucketStart)
        · intro hsend start
          by_cases heq : b.bucketStart = start
          · subst heq
            exact hclose.mpr (hsend b rfl hc.1 hc.2)
          · rw [Aggregator.emittedFor_put, Aggregator.emittedFor_emitCandle,
              if_neg fun h => heq h.2, List.append_nil, Aggregator.openAt_put_self,
              if_neg fun h => nomatch h.1]
            have := hk₁ start
            rwa [Aggregator.openAt_some hb, if_neg fun h => heq h.2] at this
      · rw [if_neg hc]
        refine iff_of_true hk₁ fun b' hb' hu hpast => ?_
        obtain rfl := Option.some.inj hb'
        exact absurd ⟨hu, hpast⟩ hc

/-! ## What a step leaves alone -/

/-- The key looks as before. -/
def Untouched (a a' : Aggregator) (key : Key) : Prop :=
  ∀ start, a'.emittedFor key start = a.emittedFor key start ∧
    a'.openAt key start = a.openAt key start

variable {a' : Aggregator}

theorem Untouched.keyExact (h : Untouched a a' key) :
    KeyExact off fed a' key ↔ KeyExact off fed a key :=
  forall_congr' fun start => by rw [(h start).1, (h start).2]

theorem untouched_read (n : ℕ) : Untouched a (a.read n) key :=
  fun _ => ⟨Aggregator.emittedFor_read, rfl⟩

theorem untouched_put (h : key' ≠ key) : Untouched a (a.put key b) key' :=
  fun _ => ⟨rfl, Aggregator.openAt_put_of_ne h⟩

theorem untouched_emitCandle (h : key' ≠ (b.symbol, b.timeframe)) :
    Untouched a (a.emitCandle off b) key' := by
  intro start
  constructor
  · rw [Aggregator.emittedFor_emitCandle, if_neg fun hk => h hk.1.symm, List.append_nil]
  · rw [Aggregator.openAt, Aggregator.candles_emitCandle, Aggregator.openAt]

theorem Untouched.trans {a'' : Aggregator} (h : Untouched a a' key) (h' : Untouched a' a'' key) :
    Untouched a a'' key :=
  fun start => ⟨(h' start).1.trans (h start).1, (h' start).2.trans (h start).2⟩

theorem update_key (tick : Tick) (b : CandleBuilder) :
    ((b.update tick).symbol, (b.update tick).timeframe) = (b.symbol, b.timeframe) := by
  unfold CandleBuilder.update
  split_ifs <;> rfl

/-- What the step for a key can do: put a builder of the key, after its old one was emitted or not. -/
inductive KeyStep (off : ℤ) (key : Key) (a : Aggregator) : Aggregator → Prop where
  | keep : KeyStep off key a a
  | put (b : CandleBuilder) (hb : (b.symbol, b.timeframe) = key) : KeyStep off key a (a.put key b)
  | close (b b' : CandleBuilder) (hb : (b.symbol, b.timeframe) = key)
      (hb' : (b'.symbol, b'.timeframe) = key) : KeyStep off key a ((a.emitCandle off b).put key b')

/-- What a tick does to the candles of its key. -/
theorem processTimeframe_step (hw : WellFormed a) :
    KeyStep off (tick.symbol, tf) (a.read (reads tf)) (processTimeframe off tick reads a tf) := by
  have hw₁ := hw.read (reads tf)
  unfold processTimeframe
  generalize a.read (reads tf) = a₁ at hw₁ ⊢
  cases hb : a₁.candles (tick.symbol, tf) with
  | none =>
      simp only [hb]
      exact .put _ rfl
  | some b =>
      simp only [hb]
      split_ifs
      · exact .put _ ((update_key tick b).trans (hw₁.builders _ b hb))
      · exact .close b _ (hw₁.builders _ b hb) rfl
      · exact .put _ rfl

/-- What a flush does to the candles of a key. -/
theorem flushKey_step (hw : WellFormed a) :
    KeyStep off key (a.read (taken key)) (flushKey off now taken a key) := by
  have hw₁ := hw.read (taken key)
  unfold flushKey
  generalize a.read (taken key) = a₁ at hw₁ ⊢
  cases hb : a₁.candles key with
  | none =>
      simp only [hb]
      exact .keep
  | some b =>
      simp only [hb]
      split_ifs
      · exact .close b _ (hw₁.builders _ b hb) (hw₁.builders _ b hb)
      · exact .keep

theorem KeyStep.untouched (h : KeyStep off key a a') (hne : key' ≠ key) : Untouched a a' key' := by
  cases h with
  | keep => exact fun _ => ⟨rfl, rfl⟩
  | put b hb => exact untouched_put hne
  | close b b' hb hb' => exact (untouched_emitCandle (hb.symm ▸ hne)).trans (untouched_put hne)

theorem tick_other (hw : WellFormed a) (hne : key ≠ (tick.symbol, tf)) :
    Untouched a (processTimeframe off tick reads a tf) key :=
  (untouched_read (reads tf)).trans ((processTimeframe_step hw).untouched hne)

theorem flush_other (hw : WellFormed a) (hne : key' ≠ key) :
    Untouched a (flushKey off now taken a key) key' :=
  (untouched_read (taken key)).trans ((flushKey_step hw).untouched hne)

/-! ## Well-formedness -/

theorem WellFormed.put (hw : WellFormed a) (hb : (b.symbol, b.timeframe) = key) :
    WellFormed (a.put key b) := by
  refine ⟨fun key' b' hb' => ?_, hw.symbols⟩
  by_cases hk : key' = key
  · subst hk
    simp only [Aggregator.put, Function.update_self, Option.some.injEq] at hb'
    exact hb' ▸ hb
  · simp only [Aggregator.put, Function.update_of_ne hk] at hb'
    exact hw.builders key' b' hb'

theorem WellFormed.emitCandle (hw : WellFormed a) : WellFormed (a.emitCandle off b) := by
  unfold Aggregator.emitCandle
  split_ifs
  · exact ⟨hw.1, hw.2⟩
  · exact hw

theorem WellFormed.addSymbol (hw : WellFormed a) (symbol : Symbol) :
    WellFormed (a.addSymbol symbol) := by
  unfold Aggregator.addSymbol
  split_ifs with h
  · exact hw
  · refine ⟨hw.1, ?_⟩
    rw [List.nodup_append]
    refine ⟨hw.symbols, List.nodup_singleton symbol, ?_⟩
    rintro s hs s' hs' rfl
    exact h (List.mem_singleton.mp hs' ▸ hs)

theorem KeyStep.wellFormed (h : KeyStep off key a a') (hw : WellFormed a) : WellFormed a' := by
  cases h with
  | keep => exact hw
  | put b hb => exact hw.put hb
  | close b b' hb hb' => exact hw.emitCandle.put hb'

theorem tick_wellFormed (hw : WellFormed a) :
    WellFormed (processTimeframe off tick reads a tf) :=
  (processTimeframe_step hw).wellFormed (hw.read (reads tf))

theorem flush_wellFormed (hw : WellFormed a) : WellFormed (flushKey off now taken a key) :=
  (flushKey_step hw).wellFormed (hw.read (taken key))

theorem keys_nodup (hw : WellFormed a) : a.keys.Nodup :=
  List.Nodup.product hw.symbols (by decide)

/-! ## Whole steps -/

theorem untouched_addSymbol (symbol : Symbol) : Untouched a (a.addSymbol symbol) key := by
  unfold Aggregator.addSymbol
  split_ifs <;> exact fun _ => ⟨rfl, rfl⟩

/-- A tick keeps its own symbol exact precisely when it is orderly, and leaves the others alone. -/
theorem processTick_exact (hw : WellFormed a)
    (h : ∀ key : Key, key.2 ∈ supportedTFs → KeyExact off fed a key) :
    (∀ key : Key, key.2 ∈ supportedTFs →
        KeyExact off (fed ++ [tick]) (processTick off tick reads a) key) ↔
      Along (processTimeframe off tick reads) (OrderlyTick off fed tick reads)
        (a.addSymbol tick.symbol) supportedTFs := by
  have hw₁ := hw.addSymbol tick.symbol
  have hown : (∀ tf ∈ supportedTFs,
      KeyExact off (fed ++ [tick]) (processTick off tick reads a) (tick.symbol, tf)) ↔
        Along (processTimeframe off tick reads) (OrderlyTick off fed tick reads)
          (a.addSymbol tick.symbol) supportedTFs := run_keys (W := WellFormed)
    (E := fun a tf => KeyExact off fed a (tick.symbol, tf))
    (F := fun a tf => KeyExact off (fed ++ [tick]) a (tick.symbol, tf))
    (fun a tf hw => tick_wellFormed hw) (fun a tf hw hk => tick_own hw hk)
    (fun a tf j hw hne => (tick_other hw fun hk => hne (congrArg Prod.snd hk)).keyExact)
    (fun a tf j hw hne => (tick_other hw fun hk => hne (congrArg Prod.snd hk)).keyExact)
    (by decide) hw₁ (fun tf htf => (untouched_addSymbol _).keyExact.mpr (h (tick.symbol, tf) htf))
  rw [← hown]
  constructor
  · exact fun hall tf htf => hall (tick.symbol, tf) htf
  · rintro hall ⟨symbol, tf⟩ htf
    by_cases hsym : tick.symbol = symbol
    · subst hsym
      exact hall tf htf
    · have hrun : WellFormed (processTick off tick reads a) ∧
          KeyExact off fed (processTick off tick reads a) (symbol, tf) := run_keeps
        (I := fun a => WellFormed a ∧ KeyExact off fed a (symbol, tf))
        (fun a j hi => ⟨tick_wellFormed hi.1, (tick_other hi.1
          fun hk => hsym (congrArg Prod.fst hk).symm).keyExact.mpr hi.2⟩)
        ⟨hw₁, (untouched_addSymbol _).keyExact.mpr (h (symbol, tf) htf)⟩ supportedTFs
      intro start
      rw [ticksIn_other hsym]
      exact hrun.2 start

/-- An iteration of the flush keeps every key exact precisely when it is orderly. -/
theorem flush_exact (hw : WellFormed a) {order : List Key}
    (h : ∀ key : Key, key.2 ∈ supportedTFs → KeyExact off fed a key) :
    (∀ key : Key, key.2 ∈ supportedTFs → KeyExact off fed (flush off now order taken a) key) ↔
      (order.Perm a.keys →
        Along (flushKey off now taken) (OrderlyFlush off fed now taken) a order) := by
  unfold flush
  by_cases hperm : order.Perm a.keys
  · rw [if_pos hperm, forall_prop_of_true hperm]
    have hsupported : ∀ key ∈ order, key.2 ∈ supportedTFs := by
      intro key hkey
      obtain ⟨s, -, hs⟩ := List.mem_flatMap.mp (hperm.mem_iff.mp hkey)
      obtain ⟨tf, htf, rfl⟩ := List.mem_map.mp hs
      exact htf
    have hown := run_keys (W := WellFormed) (E := KeyExact off fed) (F := KeyExact off fed)
      (P := OrderlyFlush off fed now taken) (fun a key hw => flush_wellFormed hw)
      (fun a key hw hk => flush_own hw hk)
      (fun a key j hw hne => (flush_other hw hne).keyExact)
      (fun a key j hw hne => (flush_other hw hne).keyExact)
      (hperm.nodup_iff.mpr (keys_nodup hw)) hw fun key hkey => h key (hsupported key hkey)
    rw [← hown]
    constructor
    · exact fun hall key hkey => hall key (hsupported key hkey)
    · intro hall key hkey
      by_cases hmem : key ∈ order
      · exact hall key hmem
      · have hrest : KeyExact off fed (run (flushKey off now taken) a order) key ↔
            KeyExact off fed a key := run_other (W := WellFormed)
          (fun a key hw => flush_wellFormed hw)
          (fun a key j hw hne => (flush_other hw hne).keyExact) hw hmem
        exact hrest.mpr (h key hkey)
  · rw [if_neg hperm]
    exact iff_of_true h fun hp => absurd hp hperm

/-- A step from an exact state leads to one precisely when it is orderly. -/
theorem step_exact {s : State} {i : Input} (hw : WellFormed s.agg) (h : Exact off s) :
    Exact off (step off s i) ↔ Orderly off s i := by
  cases i with
  | tick tick reads => exact processTick_exact hw h
  | flush now order reads => exact flush_exact hw h

/-- **Step.** The candles stay under their keys. -/
theorem step_wellFormed {s : State} {i : Input} (hw : WellFormed s.agg) :
    WellFormed (step off s i).agg := by
  cases i with
  | tick tick reads =>
      exact run_keeps (I := WellFormed) (fun a tf hw => tick_wellFormed hw) (hw.addSymbol _) _
  | flush now order reads =>
      show WellFormed (flush off now order reads s.agg)
      unfold flush
      split_ifs
      · exact run_keeps (I := WellFormed) (fun a key hw => flush_wellFormed hw) hw _
      · exact hw

/-- **Candles.** In a run from the start, of any ticks in any order and any flushes, every bucket is
exact at any time precisely when each step is orderly. -/
theorem candles_exact_iff (off : ℤ) (is : List Input) :
    Throughout (step off) (Exact off) State.start is ↔
      Along (step off) (Orderly off) State.start is := by
  have hwell : WellFormed State.start.agg := ⟨(fun _ _ h => nomatch h), List.nodup_nil⟩
  have hexact : Exact off State.start := fun _ _ _ => .untouched rfl rfl rfl
  have hiff : Throughout (step off) (Exact off) State.start is ↔
      Exact off State.start ∧ Along (step off) (Orderly off) State.start is := by
    refine throughout_iff (J := fun s => WellFormed s.agg) ?_ ?_ hwell
    · intro s i hs
      exact step_wellFormed hs
    · intro s i hs he
      exact step_exact hs he
  exact hiff.trans (and_iff_right hexact)

/-! ## A late tick -/

/-- One tick of a volume of one, so many seconds after the zero time. -/
def tickAt (seconds : ℤ) : Tick := ⟨"XAUUSD", 1999, 2001, 2000, 1, seconds * 1000000000⟩

/-- A tick in the first minute, one in the second, one more in the first, and one in the second. -/
def lateRun : List Input :=
  [.tick (tickAt 10) (fun _ => 0), .tick (tickAt 70) (fun _ => 0), .tick (tickAt 50) (fun _ => 0),
    .tick (tickAt 80) (fun _ => 0)]

/-- A tick in the first minute, a flush in the second, one more tick in the first, and a flush. -/
def flushedRun : List Input :=
  [.tick (tickAt 10) (fun _ => 0),
    .flush 61000000000 (supportedTFs.map fun tf => ("XAUUSD", tf)) (fun _ => 0),
    .tick (tickAt 50) (fun _ => 0),
    .flush 62000000000 (supportedTFs.map fun tf => ("XAUUSD", tf)) (fun _ => 0)]

/-- An exact bucket has one candle at most. -/
theorem BucketExact.once {b₀ : Option CandleBuilder} (h : BucketExact ts es b₀) :
    es.length ≤ 1 := by
  cases h with
  | untouched _ he _ => rw [he]; exact Nat.zero_le 1
  | opened _ _ he _ _ => rw [he]; exact Nat.zero_le 1
  | closed _ he _ _ _ => rw [he]; exact Nat.le_refl 1

/-- Both runs emit two candles for the first minute. -/
theorem late_tick_emits_twice :
    ¬ Throughout (step 0) (Exact 0) State.start lateRun ∧
      ¬ Throughout (step 0) (Exact 0) State.start flushedRun := by
  constructor
  · intro h
    have hone := (h lateRun List.prefix_rfl ("XAUUSD", .m1) (by decide) 0).once
    exact absurd hone (by decide +kernel)
  · intro h
    have hone := (h flushedRun List.prefix_rfl ("XAUUSD", .m1) (by decide) 0).once
    exact absurd hone (by decide +kernel)

end PredictATrade.MarketData
