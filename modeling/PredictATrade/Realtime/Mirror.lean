import PredictATrade.Realtime.Breaks

/-!
# `Realtime.Mirror` — a run and its mirror image

Turned upside down, a sequence of candles has its swing highs where it had its swing lows, and a structure
engine that treats the sides alike would follow it with the opposite trend and the opposite breaks. The
engine does as far as the swings go, up to one thing: a bar that is both kinds of swing is recorded with its
high first, and where only the later `lookback` records are kept, the cut can fall between the two
(`Uncut`).

The breaks are mirrored only as long as the trend never turns (`mirror_throughout_iff`). A turn downwards is a
change of character, a turn upwards a break of structure; and a candle beyond both sides leaves either trend
bearish.
-/

namespace PredictATrade.Realtime.Features
open Lib.Runs Lib.Windows

/-! ## Mirror images -/

/-- Every price `p` becomes `k - p`, and highs and lows change places. -/
def Candle.mirror (k : Decimal) (c : Candle) : Candle := ⟨k - c.low, k - c.high, k - c.close, c.time⟩

/-- The point in the mirror. -/
def SwingPoint.mirror (k : Decimal) (p : SwingPoint) : SwingPoint :=
  { p with price := k - p.price, isHigh := !p.isHigh }

/-- The trend the other way. -/
def Trend.opposite : Trend → Trend
  | .bullish => .bearish
  | .bearish => .bullish
  | .neutral => .neutral

/-- The move the other way. -/
def Move.swap (m : Move) : Move := ⟨m.below, m.above⟩

variable {k : Decimal} {R R' : List SwingPoint} {L : ℕ}

/-! ## The records of the two runs -/

/-- The records of a run and of its mirror image, bar by bar. Where a bar is both kinds of swing, its high is
recorded first, so that the two records stand in the other order in the mirror image. -/
inductive Twin (k : Decimal) : List SwingPoint → List SwingPoint → Prop
  | nil : Twin k [] []
  | one {R R' : List SwingPoint} (p : SwingPoint) (h : Twin k R R') :
      Twin k (R ++ [p]) (R' ++ [p.mirror k])
  | both {R R' : List SwingPoint} (hi lo : SwingPoint) (hhi : hi.isHigh = true)
      (hlo : lo.isHigh = false) (hbar : hi.index = lo.index) (h : Twin k R R') :
      Twin k (R ++ [hi, lo]) (R' ++ [lo.mirror k, hi.mirror k])

theorem Twin.index (h : Twin k R R') : R'.map (·.index) = R.map (·.index) := by
  induction h with
  | nil => rfl
  | one p _ ih => simp [ih, SwingPoint.mirror]
  | both hi lo _ _ hbar _ ih => simp [ih, SwingPoint.mirror, hbar]

/-- The prices of the swing points of one kind. -/
def prices (high : Bool) (ps : List SwingPoint) : List Decimal :=
  (ofKind high (ps.map (·.swing))).map (·.price)

theorem prices_append (high : Bool) (ps qs : List SwingPoint) :
    prices high (ps ++ qs) = prices high ps ++ prices high qs := by
  simp only [prices, ofKind, List.map_append, List.filter_append]

theorem prices_single (high : Bool) (p : SwingPoint) :
    prices high [p] = if p.isHigh = high then [p.price] else [] := by
  by_cases h : p.isHigh = high <;> simp [prices, ofKind, SwingPoint.swing, h]

theorem prices_mirror_single (high : Bool) (p : SwingPoint) :
    prices high [p.mirror k] = (prices (!high) [p]).map (k - ·) := by
  simp only [prices_single, SwingPoint.mirror]
  cases p.isHigh <;> cases high <;> rfl

/-- The highs of the mirror image are the lows, mirrored. -/
theorem Twin.prices (h : Twin k R R') (high : Bool) :
    prices high R' = (prices (!high) R).map (k - ·) := by
  induction h with
  | nil => rfl
  | one p _ ih => rw [prices_append, prices_append, List.map_append, ih, prices_mirror_single]
  | @both R R' hi lo hhi hlo _ _ ih =>
    have hpair : ∀ p q : SwingPoint, [p, q] = [p] ++ [q] := fun _ _ => rfl
    rw [hpair, hpair]
    simp only [prices_append, List.map_append, ih, prices_mirror_single]
    congr 1
    -- the two are of different kinds, so that only one of them counts
    simp only [prices_single, hhi, hlo]
    cases high <;> rfl

/-- The last records of the two runs are those of the same bars, unless the first of them is the later one
of a bar's two. -/
theorem Twin.rtake (h : Twin k R R') (n : ℕ) :
    Twin k (R.rtake n) (R'.rtake n) ∨
      ∃ pre hi lo post post', R = pre ++ hi :: lo :: post ∧ hi.isHigh = true ∧ lo.isHigh = false ∧
        hi.index = lo.index ∧ post.length + 1 = n ∧ Twin k post post' ∧
        R.rtake n = lo :: post ∧ R'.rtake n = hi.mirror k :: post' := by
  induction h generalizing n with
  | nil => exact Or.inl (by simpa using Twin.nil)
  | @one R R' p h ih =>
    cases n with
    | zero => exact Or.inl (by simpa using Twin.nil)
    | succ n =>
      rw [List.rtake_concat_succ, List.rtake_concat_succ]
      rcases ih n with ih | ⟨pre, hi, lo, post, post', rfl, hhi, hlo, hbar, hlen, hpost, hcut, hcut'⟩
      · exact Or.inl (ih.one p)
      · refine Or.inr ⟨pre, hi, lo, post ++ [p], post' ++ [p.mirror k], by simp, hhi, hlo, hbar, ?_,
          hpost.one p, by simp [hcut], by simp [hcut']⟩
        rw [List.length_append, List.length_singleton, hlen]
  | @both R R' hi lo hhi hlo hbar h ih =>
    have hsplit : ∀ (l : List SwingPoint) (p q : SwingPoint), l ++ [p, q] = l ++ [p] ++ [q] := by simp
    rcases n with _ | _ | n
    · exact Or.inl (by simpa using Twin.nil)
    · refine Or.inr ⟨R, hi, lo, [], [], rfl, hhi, hlo, hbar, rfl, Twin.nil, ?_, ?_⟩
      · rw [hsplit, List.rtake_concat_succ, List.rtake_zero, List.nil_append]
      · rw [hsplit, List.rtake_concat_succ, List.rtake_zero, List.nil_append]
    · have htake : ∀ (l : List SwingPoint) (p q : SwingPoint),
          (l ++ [p, q]).rtake (n + 1 + 1) = l.rtake n ++ [p, q] := by
        intro l p q
        rw [hsplit, List.rtake_concat_succ, List.rtake_concat_succ, ← hsplit]
      rw [htake, htake]
      rcases ih n with ih | ⟨pre, hi', lo', post, post', rfl, hhi', hlo', hbar', hlen, hpost, hcut,
        hcut'⟩
      · exact Or.inl (ih.both hi lo hhi hlo hbar)
      · refine Or.inr ⟨pre, hi', lo', post ++ [hi, lo], post' ++ [lo.mirror k, hi.mirror k], by simp,
          hhi', hlo', hbar', ?_, hpost.both hi lo hhi hlo hbar, by simp [hcut], by simp [hcut']⟩
        rw [List.length_append]
        show post.length + 2 + 1 = n + 1 + 1
        omega

/-- Where the first record that is kept is the low of a bar that is both, five of each kind follow. -/
def UncutAt (L : ℕ) (records : List SwingPoint) : Prop :=
  ∀ pre hi lo post, records = pre ++ hi :: lo :: post → hi.isHigh = true → lo.isHigh = false →
    hi.index = lo.index → post.length + 1 = L → ∀ high, 5 ≤ (prices high post).length

theorem Twin.reported (h : Twin k R R') (hcut : UncutAt L R) (high : Bool) :
    (Features.prices high (R'.rtake L)).rtake 5 =
      ((Features.prices (!high) (R.rtake L)).rtake 5).map (k - ·) := by
  rcases h.rtake L with h | ⟨pre, hi, lo, post, post', rfl, hhi, hlo, hbar, hlen, hpost, hR, hR'⟩
  · rw [h.prices, map_rtake]
  · have hfive := hcut pre hi lo post rfl hhi hlo hbar hlen
    have hfive' : 5 ≤ ((Features.prices (!high) post).map (k - ·)).length := by
      rw [List.length_map]
      exact hfive _
    rw [hR, hR', ← List.singleton_append, ← List.singleton_append (l := post), prices_append,
      prices_append, hpost.prices, rtake_append_of_le hfive', rtake_append_of_le (hfive _), map_rtake]

/-! ## The swings of a bar -/

/-- The record of a swing at a bar. -/
def Swing.point (i : ℕ) (s : Swing) : SwingPoint := ⟨s.price, s.isHigh, s.timestamp, i, true⟩

theorem eq_map_point {F : List SwingPoint} {i : ℕ}
    (h : ∀ r ∈ F, r.index = i ∧ r.confirmed = true) : F = (F.map (·.swing)).map (Swing.point i) := by
  induction F with
  | nil => rfl
  | cons r F ih =>
    obtain ⟨hindex, hconf⟩ := h r List.mem_cons_self
    have hr : Swing.point i r.swing = r := by
      cases r
      subst hindex hconf
      rfl
    rw [List.map_cons, List.map_cons, hr, ← ih fun x hx => h x (List.mem_cons_of_mem r hx)]

theorem middleSwings_of_length_ne {l : List Candle} (h : l.length ≠ 5) : middleSwings l = [] := by
  unfold middleSwings
  split
  · exact absurd rfl h
  · rfl

/-- The swings at the middle one of some bars, and at its mirror image. -/
theorem Twin.middleSwings (h : Twin k R R') (i : ℕ) (l : List Candle) :
    Twin k (R ++ (Features.middleSwings l).map (Swing.point i))
      (R' ++ (Features.middleSwings (l.map (Candle.mirror k))).map (Swing.point i)) := by
  by_cases hlen : l.length = 5
  · match l, hlen with
    | [a, b, c, d, e], _ =>
      let up : Prop := a.high < c.high ∧ b.high < c.high ∧ d.high < c.high ∧ e.high < c.high
      let down : Prop := c.low < a.low ∧ c.low < b.low ∧ c.low < d.low ∧ c.low < e.low
      have himage : Features.middleSwings ([a, b, c, d, e].map (Candle.mirror k)) =
          (if down then [⟨k - c.low, true, c.time⟩] else []) ++
            (if up then [⟨k - c.high, false, c.time⟩] else []) := by
        simp only [List.map, Features.middleSwings, Candle.mirror, sub_lt_sub_iff_left, up, down]
      have hbars : Features.middleSwings [a, b, c, d, e] =
          (if up then [⟨c.high, true, c.time⟩] else []) ++
            (if down then [⟨c.low, false, c.time⟩] else []) := rfl
      rw [himage, hbars]
      by_cases hup : up
      · by_cases hdown : down
        · rw [if_pos hup, if_pos hdown, if_pos hup, if_pos hdown]
          exact h.both ⟨c.high, true, c.time, i, true⟩ ⟨c.low, false, c.time, i, true⟩ rfl rfl rfl
        · rw [if_pos hup, if_neg hdown, if_pos hup, if_neg hdown]
          exact h.one ⟨c.high, true, c.time, i, true⟩
      · by_cases hdown : down
        · rw [if_neg hup, if_pos hdown, if_neg hup, if_pos hdown]
          exact h.one ⟨c.low, false, c.time, i, true⟩
        · rw [if_neg hup, if_neg hdown, if_neg hup, if_neg hdown]
          simpa using h
  · rw [middleSwings_of_length_ne hlen, middleSwings_of_length_ne (by simpa using hlen)]
    simpa using h

/-! ## The two runs -/

variable {s m : Structure} {c : Candle}

/-- What a run and its mirror image keep in common whatever they do. -/
structure Paired (k : Decimal) (L : ℕ) (s m : Structure) : Prop where
  shape : Shape L s
  shape' : Shape L m
  candles : m.candles = s.candles.map (Candle.mirror k)
  twin : Twin k s.records m.records

/-- The engine and its mirror before any candle. -/
theorem paired_start (k : Decimal) (lookback : ℤ) :
    Paired k (newStructureEngine lookback).lookback (start lookback) (start lookback) :=
  ⟨shape_start lookback, shape_start lookback, rfl, Twin.nil⟩

theorem confirmedBy_mirror (k : Decimal) (cs : List Candle) :
    confirmedBy (cs.map (Candle.mirror k)) =
      middleSwings ((cs.rtake 5).map (Candle.mirror k)) := by
  rw [confirmedBy, map_rtake]

/-- Both runs look at the same bar, and both find its number taken or neither does. -/
theorem Paired.seen (h : Paired k L s m) :
    (m.engine.remember (c.mirror k)).candles.length = (s.engine.remember c).candles.length ∧
      (m.engine.remember (c.mirror k)).swings.map (·.index) =
        (s.engine.remember c).swings.map (·.index) := by
  constructor
  · rw [h.shape.length, h.shape'.length, h.candles, List.length_map]
  · rw [(remember_frame _ _).2.2, (remember_frame _ _).2.2, h.shape.swings, h.shape'.swings, map_rtake,
      map_rtake, h.twin.index]

theorem Paired.twin_next (h : Paired k L s m) (hL : 10 ≤ L) :
    Twin k (s.records ++ (s.engine.remember c).found)
      (m.records ++ (m.engine.remember (c.mirror k)).found) := by
  obtain ⟨hindex, hfound⟩ := h.shape.found (c := c) hL
  obtain ⟨hindex', hfound'⟩ := h.shape'.found (c := c.mirror k) hL
  obtain ⟨hlen, hswings⟩ := h.seen (c := c)
  have hany : ∀ (n : ℕ) (l : List SwingPoint), l.any (·.index + 3 == n) =
      (l.map (·.index)).any (· + 3 == n) := fun n l => by rw [List.any_map]; rfl
  rw [hany, hlen, hswings, ← hany] at hfound'
  have hbars : m.candles ++ [c.mirror k] = (s.candles ++ [c]).map (Candle.mirror k) := by
    rw [h.candles, List.map_append]
    rfl
  rw [hbars, confirmedBy_mirror] at hfound'
  by_cases hseen : (s.engine.remember c).swings.any
      (·.index + 3 == (s.engine.remember c).candles.length) = true
  · rw [if_pos hseen, List.map_eq_nil_iff] at hfound hfound'
    rw [hfound, hfound']
    simpa using h.twin
  · rw [if_neg hseen] at hfound hfound'
    have hpoints := eq_map_point (F := (s.engine.remember c).found)
      (i := min (s.candles.length + 1) (L * 2) - 3)
      fun r hr => ⟨by have := (hindex r hr).1; omega, (hindex r hr).2⟩
    have hpoints' := eq_map_point (F := (m.engine.remember (c.mirror k)).found)
      (i := min (s.candles.length + 1) (L * 2) - 3) fun r hr => by
        have hr' := hindex' r hr
        rw [h.candles, List.length_map] at hr'
        exact ⟨by omega, hr'.2⟩
    rw [hpoints, hpoints', hfound, hfound']
    exact h.twin.middleSwings _ _

/-- **Step.** The engine and its mirror stay paired. -/
theorem Paired.next (h : Paired k L s m) (hL : 10 ≤ L) :
    Paired k L (Features.next s c) (Features.next m (c.mirror k)) where
  shape := shape_next h.shape hL
  shape' := shape_next h.shape' hL
  candles := by
    show m.candles ++ [c.mirror k] = (s.candles ++ [c]).map _
    rw [h.candles, List.map_append]
    rfl
  twin := h.twin_next hL

/-- The cut leaves five of each kind, if it falls inside a bar. -/
def Uncut (s : Structure) : Prop := UncutAt s.engine.lookback s.records

/-- The swings on which the sides are looked at are the mirrored ones. -/
theorem Paired.swings (h : Paired k L s m) (hcut : Uncut s) (high : Bool) :
    m.features.swings high = (s.features.swings (!high)).map (k - ·) := by
  rw [h.shape.reported, h.shape'.reported, h.shape.swings, h.shape'.swings]
  rw [Uncut, h.shape.lookback] at hcut
  exact h.twin.reported hcut high

/-! ## How many swings there are

Two swings of one kind are at least three bars apart. From a `lookback` of thirteen on the records are too
few for a cut that leaves fewer than five of a kind. -/

theorem ofKind_middleSwings (high : Bool) (a b c d e : Candle) :
    ofKind high (middleSwings [a, b, c, d, e]) =
      if high then
        if a.high < c.high ∧ b.high < c.high ∧ d.high < c.high ∧ e.high < c.high then
          [⟨c.high, true, c.time⟩] else []
      else if c.low < a.low ∧ c.low < b.low ∧ c.low < d.low ∧ c.low < e.low then
        [⟨c.low, false, c.time⟩] else [] := by
  unfold middleSwings ofKind
  rw [List.filter_append]
  cases high
  · split_ifs <;> simp_all
  · split_ifs <;> simp_all

theorem length_ofKind_middleSwings_le (high : Bool) (l : List Candle) :
    (ofKind high (middleSwings l)).length ≤ 1 := by
  by_cases hlen : l.length = 5
  · match l, hlen with
    | [a, b, c, d, e], _ =>
      rw [ofKind_middleSwings]
      split_ifs <;> simp
  · rw [middleSwings_of_length_ne hlen]
    exact Nat.zero_le 1

/-- A bar has no swing of the kind of a swing one or two bars later. -/
theorem ofKind_middleSwings_eq_nil {high : Bool} {a b c d e : Candle}
    (h : ofKind high (middleSwings [a, b, c, d, e]) ≠ []) (y z : Candle) :
    ofKind high (middleSwings [z, a, b, c, d]) = [] ∧
      ofKind high (middleSwings [y, z, a, b, c]) = [] := by
  simp only [ofKind_middleSwings] at h ⊢
  cases high with
  | true =>
    simp only [if_true] at h ⊢
    have hc := (ite_ne_right_iff.mp h).1
    constructor
    · exact if_neg fun hb => absurd hb.2.2.1 (not_lt.mpr hc.2.1.le)
    · exact if_neg fun ha => absurd ha.2.2.2 (not_lt.mpr hc.1.le)
  | false =>
    simp only [Bool.false_eq_true, if_false] at h ⊢
    have hc := (ite_ne_right_iff.mp h).1
    constructor
    · exact if_neg fun hb => absurd hb.2.2.1 (not_lt.mpr hc.2.1.le)
    · exact if_neg fun ha => absurd ha.2.2.2 (not_lt.mpr hc.1.le)

/-- The last candles of a sequence of at least five. -/
theorem confirmedBy_append (pre : List Candle) (a b c d e : Candle) :
    confirmedBy (pre ++ [a, b, c, d, e]) = middleSwings [a, b, c, d, e] := by
  unfold confirmedBy
  rw [rtake_append_of_le (by simp)]
  rfl

theorem confirmedBy_of_length_lt {l : List Candle} (h : l.length < 5) : confirmedBy l = [] := by
  apply middleSwings_of_length_lt
  rw [length_rtake]
  omega

/-- What a swing of a kind says of the two candles before it. -/
theorem ofKind_confirmedBy_eq_nil {high : Bool} {pre : List Candle} {a b c d e : Candle}
    (h : ofKind high (confirmedBy (pre ++ [a, b, c, d, e])) ≠ []) :
    ofKind high (confirmedBy (pre ++ [a, b, c, d])) = [] ∧
      ofKind high (confirmedBy (pre ++ [a, b, c])) = [] := by
  rw [confirmedBy_append] at h
  rcases List.eq_nil_or_concat' pre with rfl | ⟨pre, z, rfl⟩
  · rw [confirmedBy_of_length_lt (by simp), confirmedBy_of_length_lt (by simp)]
    exact ⟨rfl, rfl⟩
  · have hone : confirmedBy (pre ++ [z] ++ [a, b, c, d]) = middleSwings [z, a, b, c, d] := by
      rw [List.append_assoc]
      exact confirmedBy_append pre z a b c d
    rw [hone]
    rcases List.eq_nil_or_concat' pre with rfl | ⟨pre, y, rfl⟩
    · rw [confirmedBy_of_length_lt (by simp)]
      exact ⟨(ofKind_middleSwings_eq_nil h z z).1, rfl⟩
    · have htwo : confirmedBy (pre ++ [y] ++ [z] ++ [a, b, c]) = middleSwings [y, z, a, b, c] := by
        rw [List.append_assoc, List.append_assoc]
        exact confirmedBy_append pre y z a b c
      rw [htwo]
      exact ofKind_middleSwings_eq_nil h y z

theorem ofKind_append (high : Bool) (l l' : List Swing) :
    ofKind high (l ++ l') = ofKind high l ++ ofKind high l' := List.filter_append _ _

/-- Of each kind there are at most a third as many swings as candles. -/
theorem length_ofKind_swingsOf (high : Bool) (cs : List Candle) :
    ofKind high (swingsOf cs) = [] ∨ 3 * (ofKind high (swingsOf cs)).length + 2 ≤ cs.length := by
  by_cases hlen : cs.length < 5
  · refine Or.inl ?_
    unfold swingsOf
    rw [windows_eq_nil hlen]
    rfl
  · obtain ⟨pre, a, b, c, d, e, rfl⟩ := exists_last_five (not_lt.mp hlen)
    have hsnoc : ∀ (l : List Candle) (x : Candle), ofKind high (swingsOf (l ++ [x])) =
        ofKind high (swingsOf l) ++ ofKind high (confirmedBy (l ++ [x])) := by
      intro l x
      rw [swingsOf_snoc, ofKind_append]
    have hlast := hsnoc (pre ++ [a, b, c, d]) e
    have hlast' := hsnoc (pre ++ [a, b, c]) d
    have hlast'' := hsnoc (pre ++ [a, b]) c
    simp only [List.append_assoc, List.cons_append, List.nil_append] at hlast hlast' hlast''
    by_cases hnone : ofKind high (confirmedBy (pre ++ [a, b, c, d, e])) = []
    · rw [hlast, hnone, List.append_nil]
      refine (length_ofKind_swingsOf high (pre ++ [a, b, c, d])).imp_right fun h => ?_
      rw [List.length_append] at h ⊢
      exact h.trans (Nat.le_succ _)
    · -- the last three candles have this one swing of the kind
      obtain ⟨hd, hc⟩ := ofKind_confirmedBy_eq_nil hnone
      rw [hlast, hlast', hd, hlast'', hc, List.append_nil, List.append_nil]
      right
      have hone : (ofKind high (confirmedBy (pre ++ [a, b, c, d, e]))).length ≤ 1 :=
        length_ofKind_middleSwings_le high _
      have hpre : (pre ++ [a, b]).length + 3 = (pre ++ [a, b, c, d, e]).length := by simp
      have hfive : 5 ≤ (pre ++ [a, b, c, d, e]).length := by simp
      rw [List.length_append]
      rcases length_ofKind_swingsOf high (pre ++ [a, b]) with h | h
      · rw [h, List.length_nil]
        omega
      · omega
termination_by cs.length

/-- The records of a kind are at most one more than the swings of the first candles, those before the
candles of the engine begin to slide. -/
def Few (L : ℕ) (s : Structure) : Prop :=
  ∀ high, (prices high s.records).length ≤
    (ofKind high (swingsOf (s.candles.take (L * 2 - 1)))).length + 1

theorem length_swingsOf_take_snoc (high : Bool) (n : ℕ) (cs : List Candle) (c : Candle) :
    (ofKind high (swingsOf (cs.take n))).length ≤
      (ofKind high (swingsOf ((cs ++ [c]).take n))).length := by
  by_cases h : n ≤ cs.length
  · rw [List.take_append_of_le_length h]
  · have hlen : (cs ++ [c]).length ≤ n := by
      rw [List.length_append, List.length_singleton]
      omega
    rw [List.take_of_length_le (by omega), List.take_of_length_le hlen, swingsOf_snoc, ofKind_append,
      List.length_append]
    exact Nat.le_add_right _ _

theorem length_prices (high : Bool) (ps : List SwingPoint) :
    (prices high ps).length = (ofKind high (ps.map (·.swing))).length := List.length_map _

/-- **Step.** The records stay few. -/
theorem few_next (hs : Shape L s) (hL : 10 ≤ L) (h : Few L s) : Few L (next s c) := by
  intro high
  have hgrow := length_swingsOf_take_snoc high (L * 2 - 1) s.candles c
  have hfound := (hs.found (c := c) hL).2
  obtain ⟨before, after, hsplit, hmap, hbefore, hafter, hshort⟩ := hs.records
  have hseen := hs.seen_iff (c := c) hL hsplit hbefore hafter hshort
  show (prices high (s.records ++ (s.engine.remember c).found)).length ≤
    (ofKind high (swingsOf ((s.candles ++ [c]).take (L * 2 - 1)))).length + 1
  rw [prices_append, List.length_append]
  by_cases hafter' : after = []
  · -- nothing is recorded yet beyond the swings of the first candles
    have hall : (prices high s.records).length =
        (ofKind high (swingsOf (s.candles.take (L * 2 - 1)))).length := by
      rw [length_prices, hsplit, hafter', List.append_nil, hmap]
    rw [if_neg fun hc => hseen.mp hc hafter'] at hfound
    have hone : (prices high (s.engine.remember c).found).length ≤ 1 := by
      rw [length_prices, hfound]
      exact length_ofKind_middleSwings_le high _
    omega
  · rw [if_pos (hseen.mpr hafter'), List.map_eq_nil_iff] at hfound
    have hkept := h high
    rw [hfound]
    show (prices high s.records).length + 0 ≤ _
    omega

/-- There are few records before any candle. -/
theorem few_start (lookback : ℤ) : Few (newStructureEngine lookback).lookback (start lookback) :=
  fun _ => Nat.zero_le _

theorem length_prices_add (ps : List SwingPoint) :
    (prices true ps).length + (prices false ps).length = ps.length := by
  induction ps with
  | nil => rfl
  | cons p ps ih =>
    have hp := prices_append true [p] ps
    have hp' := prices_append false [p] ps
    rw [List.singleton_append] at hp hp'
    rw [hp, hp', prices_single, prices_single, List.length_append, List.length_append,
      List.length_cons]
    cases p.isHigh <;> simp <;> omega

/-- With a `lookback` of thirteen bars or more no cut leaves fewer than five of a kind. -/
theorem Few.uncut (h : Few L s) (hL : 13 ≤ L) : UncutAt L s.records := by
  rintro pre hi lo post hrec hhi hlo - hlen high
  -- with the bar that is cut, the other kind has at least as many records as are kept, less four
  have hbound : ∀ kind, 3 * (prices kind s.records).length ≤ L * 2 := by
    intro kind
    have hfew := h kind
    have htake := List.length_take_le (L * 2 - 1) s.candles
    rcases length_ofKind_swingsOf kind (s.candles.take (L * 2 - 1)) with hn | hn
    · rw [hn, List.length_nil] at hfew
      omega
    · omega
  have hpair : ∀ kind, (prices kind post).length + 1 ≤ (prices kind s.records).length := by
    intro kind
    have hsplit : pre ++ hi :: lo :: post = pre ++ [hi] ++ [lo] ++ post := by simp
    rw [hrec, hsplit, prices_append, prices_append, prices_append, prices_single, prices_single, hhi,
      hlo]
    cases kind <;> simp
  have hsum := length_prices_add post
  have htrue := hbound true
  have hfalse := hbound false
  have htrue' := hpair true
  have hfalse' := hpair false
  cases high <;> omega

/-! ## The sides -/

theorem looking_swingPrices (s : Structure) (c : Candle) (high : Bool) :
    (s.looking c).swingPrices high = (next s c).features.swings high := by
  have hframe : ((s.looking c).followTrend c).2.swings high = (s.looking c).swingPrices high :=
    followTrend_frame.2 high
  rw [(next_eq_process s c).2, process_eq_followTrend, ← hframe]
  rfl

theorem any_getLast?_mirror (k : Decimal) (l : List Decimal) (p : Decimal → Bool) :
    ((l.map (k - ·)).getLast?.any p) = l.getLast?.any fun x => p (k - x) := by
  rw [List.getLast?_map, Option.any_map]

/-- The mirror image is above where the run is below. -/
theorem Paired.move (h : Paired k L (Features.next s c) (Features.next m (c.mirror k)))
    (hcut : Uncut (Features.next s c)) :
    (m.looking (c.mirror k)).move (c.mirror k) = ((s.looking c).move c).swap := by
  have hswings : ∀ high, (m.looking (c.mirror k)).swingPrices high =
      ((s.looking c).swingPrices (!high)).map (k - ·) := by
    intro high
    rw [looking_swingPrices, looking_swingPrices]
    exact h.swings hcut high
  unfold StructureEngine.move StructureEngine.above StructureEngine.below Move.swap
  rw [hswings, hswings, any_getLast?_mirror, any_getLast?_mirror]
  simp [Candle.mirror]

/-- The kind and the direction of a break. -/
def kindOf (b : StructureEvent) : StructureEventType × Trend := (b.type, b.direction)

/-- The break the other way. -/
def oppositeKind (x : StructureEventType × Trend) : StructureEventType × Trend := (x.1, x.2.opposite)

/-- The breaks of a move. -/
def Move.kinds (m : Move) (t : Trend) : List (StructureEventType × Trend) :=
  (m.up t).toList.map (.bos, ·) ++ (m.downBOS t).toList.map (.bos, ·) ++
    (m.downCHoCH t).toList.map (.chOCH, ·)

theorem toList_map_kindOf {o : Option StructureEvent} {type : StructureEventType}
    (h : ∀ b ∈ o, b.type = type) : o.toList.map kindOf = (directionOf o).toList.map (type, ·) := by
  cases o with
  | none => rfl
  | some b =>
    have hb := h b rfl
    subst hb
    rfl

theorem type_of_mem_ite {p : Prop} [Decidable p] {o : Option Decimal}
    {f : Decimal → StructureEvent} {type : StructureEventType} (hf : ∀ x, (f x).type = type) :
    ∀ b ∈ (if p then o.map f else none), b.type = type := by
  intro b hb
  split_ifs at hb
  · obtain ⟨x, -, rfl⟩ := Option.map_eq_some_iff.mp hb
    exact hf x
  · cases hb

theorem breaks_kinds (e : StructureEngine) (c : Candle) :
    (e.breaks c).map kindOf = (e.move c).kinds e.lastTrend := by
  have hup : ∀ b ∈ e.upBreak c, b.type = .bos := type_of_mem_ite fun _ => rfl
  have hdown : ∀ b ∈ e.downBOS c, b.type = .bos := type_of_mem_ite fun _ => rfl
  have hturn : ∀ b ∈ e.downCHoCH c, b.type = .chOCH := type_of_mem_ite fun _ => rfl
  unfold StructureEngine.breaks Move.kinds
  rw [List.map_append, List.map_append, toList_map_kindOf hup, toList_map_kindOf hdown,
    toList_map_kindOf hturn, directionOf_upBreak, directionOf_downBOS, directionOf_downCHoCH]

/-- From opposite trends, the mirrored move makes the mirrored breaks unless the trend turns. -/
theorem Move.opposite_iff {m : Move} (hm : m ≠ ⟨true, true⟩) (t : Trend) :
    m.swap.kinds t.opposite = (m.kinds t).map oppositeKind ∧
        m.swap.trend t.opposite = (m.trend t).opposite ↔
      (m.above = true → t ≠ .bearish) ∧ (m.below = true → t ≠ .bullish) := by
  obtain ⟨_ | _, _ | _⟩ := m <;> cases t <;> first | exact absurd rfl hm | decide

/-- From two bearish trends it never does. -/
theorem Move.not_opposite {m : Move} (hm : m ≠ ⟨true, true⟩) :
    ¬ (m.swap.kinds .bearish = (m.kinds .bearish).map oppositeKind ∧
      m.swap.trend .bearish = (m.trend .bearish).opposite) := by
  obtain ⟨_ | _, _ | _⟩ := m <;> first | exact absurd rfl hm | decide

/-! ## Symmetry -/

/-- The report on a candle and on its mirror image: the mirrored swings, the same kinds of breaks in the
opposite directions, and the opposite trends. -/
structure Symmetric (k : Decimal) (w v : Watched) : Prop where
  swings : ∀ high, v.structure_.features.swings high =
    (w.structure_.features.swings (!high)).map (k - ·)
  made : v.made.map kindOf = (w.made.map kindOf).map oppositeKind
  trend : v.structure_.features.currentTrend = w.structure_.features.currentTrend.opposite

/-- The candle does not close beyond both sides, or nothing is asked of it. -/
def SymmetricUnlessBoth (k : Decimal) (p : Watched × Watched) : Prop :=
  p.1.moved ≠ ⟨true, true⟩ → Symmetric k p.1 p.2

/-- A candle for the run, and its mirror image for the other. -/
def observeBoth (k : Decimal) (p : Watched × Watched) (c : Candle) : Watched × Watched :=
  (observe p.1 c, observe p.2 (c.mirror k))

/-- A candle that closes beyond one side or neither comes after one that does so too, and does not turn the
trend. -/
def Straight (w : Watched) (c : Candle) : Prop :=
  w.move c ≠ ⟨true, true⟩ → w.moved ≠ ⟨true, true⟩ ∧
    ((w.move c).above = true → w.structure_.engine.lastTrend ≠ .bearish) ∧
    ((w.move c).below = true → w.structure_.engine.lastTrend ≠ .bullish)

/-- What the two runs keep in common as long as no cut falls inside a bar. -/
structure Reflected (k : Decimal) (L : ℕ) (w v : Watched) : Prop where
  paired : Paired k L w.structure_ v.structure_
  swings : ∀ high, v.structure_.features.swings high =
    (w.structure_.features.swings (!high)).map (k - ·)
  current : w.structure_.features.currentTrend = w.structure_.engine.lastTrend
  current' : v.structure_.features.currentTrend = v.structure_.engine.lastTrend
  both : w.moved = ⟨true, true⟩ →
    w.structure_.engine.lastTrend = .bearish ∧ v.structure_.engine.lastTrend = .bearish

theorem reflected_watch (k : Decimal) (lookback : ℤ) :
    Reflected k (newStructureEngine lookback).lookback (watch lookback) (watch lookback) where
  paired := paired_start k lookback
  swings := fun high => by cases high <;> rfl
  current := rfl
  current' := rfl
  both := fun h => by cases h

theorem observe_current (w : Watched) (c : Candle) :
    (observe w c).structure_.features.currentTrend = (observe w c).structure_.engine.lastTrend := by
  obtain ⟨hengine, hfeatures⟩ := observe_followTrend w c
  obtain ⟨-, -, -, -, -, hcurrent⟩ := followTrend_spec (w.structure_.looking c) c
  rw [hengine, hfeatures, hcurrent]

theorem made_kinds (w : Watched) (c : Candle) :
    (observe w c).made.map kindOf = (w.move c).kinds w.structure_.engine.lastTrend := by
  refine (breaks_kinds (w.structure_.looking c) c).trans ?_
  rw [(looking_trend w.structure_ c).1]
  rfl

variable {w v : Watched}

/-- The move of the other run. -/
theorem Reflected.move (h : Reflected k L w v) (hL : 10 ≤ L)
    (hcut : Uncut (next w.structure_ c)) : v.move (c.mirror k) = (w.move c).swap :=
  (h.paired.next hL).move hcut

/-- **Step.** The breaks of the mirror are those of the engine, the other way. -/
theorem Reflected.observe (h : Reflected k L w v) (hL : 10 ≤ L)
    (hcut : Uncut (next w.structure_ c)) :
    Reflected k L (Features.observe w c) (Features.observe v (c.mirror k)) where
  paired := h.paired.next hL
  swings := (h.paired.next hL).swings hcut
  current := observe_current w c
  current' := observe_current v _
  both := by
    intro hboth
    have hmove : w.move c = ⟨true, true⟩ := hboth
    rw [observe_trend, observe_trend, h.move hL hcut, hmove]
    exact ⟨rfl, rfl⟩

/-- One candle: from symmetric runs, the reports are symmetric exactly when it is straight. -/
theorem Reflected.symmetric_iff (h : Reflected k L w v) (hL : 10 ≤ L)
    (hcut : Uncut (next w.structure_ c)) (hs : SymmetricUnlessBoth k (w, v)) :
    SymmetricUnlessBoth k (observeBoth k (w, v) c) ↔ Straight w c := by
  have hnext := h.observe hL hcut
  show (w.move c ≠ ⟨true, true⟩ → _) ↔ (w.move c ≠ ⟨true, true⟩ → _)
  refine imp_congr_right fun hm => ?_
  have hiff : Symmetric k (Features.observe w c) (Features.observe v (c.mirror k)) ↔
      (w.move c).swap.kinds v.structure_.engine.lastTrend =
          ((w.move c).kinds w.structure_.engine.lastTrend).map oppositeKind ∧
        (w.move c).swap.trend v.structure_.engine.lastTrend =
          ((w.move c).trend w.structure_.engine.lastTrend).opposite := by
    rw [← made_kinds, ← h.move hL hcut, ← made_kinds, ← observe_trend, ← observe_trend,
      ← observe_current, ← observe_current]
    exact ⟨fun hsym => ⟨hsym.made, hsym.trend⟩, fun hsym => ⟨hnext.swings, hsym.1, hsym.2⟩⟩
  refine hiff.trans ?_
  by_cases hboth : w.moved = ⟨true, true⟩
  · obtain ⟨ht, ht'⟩ := h.both hboth
    rw [ht, ht']
    exact iff_of_false (Move.not_opposite hm) fun hc => hc.1 hboth
  · have htrend := (hs hboth).trend
    rw [h.current, h.current'] at htrend
    rw [htrend, and_iff_right hboth]
    exact Move.opposite_iff hm _

/-- The run and its mirror image, from the first engine. -/
def watchBoth (lookback : ℤ) : Watched × Watched := (watch lookback, watch lookback)

/-- After the candle no cut falls inside a bar, or five of each kind are kept. -/
def UncutAfter (w : Watched) (c : Candle) : Prop := Uncut (next w.structure_ c)

/-- **Which runs are mirrored.** As long as no cut falls inside a bar, the reports are symmetric in every
state exactly when each candle is straight. -/
theorem mirror_throughout_iff (lookback : ℤ) (k : Decimal) {cs : List Candle}
    (hcut : Along observe UncutAfter (watch lookback) cs) :
    Throughout (observeBoth k) (SymmetricUnlessBoth k) (watchBoth lookback) cs ↔
      Along observe Straight (watch lookback) cs := by
  have hpart : ∀ P : Watched → Candle → Prop,
      Along (observeBoth k) (fun p c => P p.1 c) (watchBoth lookback) cs ↔
        Along observe P (watch lookback) cs :=
    fun P => along_part (f := Prod.fst) (t := watchBoth lookback) fun _ _ => rfl
  have hL := ten_le_lookback lookback
  have hinit := reflected_watch k lookback
  have hgood : SymmetricUnlessBoth k (watchBoth lookback) := fun _ => ⟨hinit.swings, rfl, rfl⟩
  generalize (newStructureEngine lookback).lookback = L at hL hinit
  have hkeep : ∀ (p : Watched × Watched) (c : Candle), Reflected k L p.1 p.2 → UncutAfter p.1 c →
      Reflected k L (observeBoth k p c).1 (observeBoth k p c).2 := fun _ _ h hc => h.observe hL hc
  have hstep : ∀ (p : Watched × Watched) (c : Candle), Reflected k L p.1 p.2 → UncutAfter p.1 c →
      SymmetricUnlessBoth k p → (SymmetricUnlessBoth k (observeBoth k p c) ↔ Straight p.1 c) :=
    fun _ _ h hc hs => h.symmetric_iff hL hc hs
  rw [← hpart Straight]
  exact throughout_iff_under hkeep hstep hinit hgood ((hpart UncutAfter).mpr hcut)

theorem uncut_along (lookback : ℤ) (h : 13 ≤ (newStructureEngine lookback).lookback)
    (cs : List Candle) : Along observe UncutAfter (watch lookback) cs := by
  have hL := ten_le_lookback lookback
  have hinit := And.intro (shape_start lookback) (few_start lookback)
  generalize (newStructureEngine lookback).lookback = L at h hL hinit
  have hkeep : ∀ (w : Watched) (c : Candle), Shape L w.structure_ ∧ Few L w.structure_ →
      Shape L (observe w c).structure_ ∧ Few L (observe w c).structure_ :=
    fun _ _ hw => ⟨shape_next hw.1 hL, few_next hw.1 hL hw.2⟩
  refine along_of_keeps (I := fun w : Watched => Shape L w.structure_ ∧ Few L w.structure_) hkeep ?_
    hinit cs
  intro w c hw
  obtain ⟨hshape, hfew⟩ := hkeep w c hw
  have hlook : (next w.structure_ c).engine.lookback = L := hshape.lookback
  show UncutAt (next w.structure_ c).engine.lookback (next w.structure_ c).records
  rw [hlook]
  exact hfew.uncut h

/-- **Does structure direction follow the market symmetrically?** The component agrees with the last break
in every state exactly in the runs each of whose candles is steady. The mirror image is reported
symmetrically exactly when each candle is straight; only with a `lookback` of ten to twelve bars can a cut
inside a bar make a difference besides. -/
theorem structure_symmetric_iff (lookback : ℤ) (cs : List Candle) :
    (Throughout observe ReadRight (watch lookback) cs ↔ Along observe Steady (watch lookback) cs) ∧
      ∀ k, (10 ≤ lookback → lookback ≤ 12 → Along observe UncutAfter (watch lookback) cs) →
        (Throughout (observeBoth k) (SymmetricUnlessBoth k) (watchBoth lookback) cs ↔
          Along observe Straight (watch lookback) cs) := by
  refine ⟨component_throughout_iff lookback cs, fun k hcut => mirror_throughout_iff lookback k ?_⟩
  by_cases h : 10 ≤ lookback ∧ lookback ≤ 12
  · exact hcut h.1 h.2
  · apply uncut_along
    simp only [newStructureEngine]
    split <;> omega

/-! ## Up, down and up again -/

/-- A bar with a high of 2412 and a low of 2388 among flat ones, a close above it, one below it, and one
above it again. -/
def turns : List Candle :=
  [⟨2405, 2395, 2400, 0⟩, ⟨2405, 2395, 2400, 1⟩, ⟨2412, 2388, 2400, 2⟩, ⟨2405, 2395, 2400, 3⟩,
    ⟨2405, 2395, 2400, 4⟩, ⟨2415, 2395, 2413, 5⟩, ⟨2405, 2385, 2387, 6⟩, ⟨2415, 2395, 2413, 7⟩]

instance decidableReadRight (w : Watched) : Decidable (ReadRight w) :=
  inferInstanceAs (Decidable (_ ∧ _))

instance decidableSteady (w : Watched) (c : Candle) : Decidable (Steady w c) := by
  unfold Steady Move.Steady
  split <;> infer_instance

instance decidableStraight (w : Watched) (c : Candle) : Decidable (Straight w c) :=
  inferInstanceAs (Decidable (_ → _))

/-- After the second close above it, the component is still SHORT. The close below it is a change of
character, which in the mirror image is a break of structure. -/
theorem turn_read_wrong :
    ¬ Throughout observe ReadRight (watch 50) turns ∧
      ¬ Throughout (observeBoth 4800) (SymmetricUnlessBoth 4800) (watchBoth 50) turns := by
  constructor
  · intro h
    have hend : ReadRight (run observe (watch 50) turns) := h turns List.prefix_rfl
    revert hend
    decide +kernel
  · intro h
    have hseven : SymmetricUnlessBoth 4800 (run (observeBoth 4800) (watchBoth 50) (turns.take 7)) :=
      h (turns.take 7) (List.take_prefix 7 turns)
    have hmade := (hseven (by decide +kernel)).made
    revert hmade
    decide +kernel

/-- Up to the first close above it, everything is read right and mirrored. -/
theorem first_break_symmetric :
    Throughout observe ReadRight (watch 50) (turns.take 6) ∧
      Throughout (observeBoth 4800) (SymmetricUnlessBoth 4800) (watchBoth 50) (turns.take 6) := by
  have hiff := structure_symmetric_iff 50 (turns.take 6)
  constructor
  · exact hiff.1.mpr (by decide +kernel)
  · refine (hiff.2 4800 fun _ h => ?_).mpr (by decide +kernel)
    exact absurd h (by decide)

end PredictATrade.Realtime.Features
