import Mathlib.Data.List.Sort
import PredictATrade.Calibration.Parity
import PredictATrade.Lib.Isotonic

/-!
# `Calibration.IsotonicFit` — the isotonic fit without the library

Where scikit-learn is not there, `_fit_isotonic` sorts the scores into twenty bins and pools the rates of
their labels until they never decrease. `isotonic_fit_iff` compares this with the least-squares fit in
which each sample counts once: the predictions are in the unit interval and never decrease, and they are
that fit exactly where the bins have values that balance both the samples and the rates as they are pooled.
There each bin counts once, and one without samples counts with a rate of a half.
-/

namespace PredictATrade.Calibration
open Lib.Interpolation Lib.Isotonic

/-! ## Fitting -/

namespace ProbabilityCalibrator

/-- The number of bins. -/
def nBins : ℕ := 20

/-- The lower edge of a bin. -/
def edge (i : ℕ) : ℚ := i / nBins

/-- The middle of a bin. -/
def center (i : ℕ) : ℚ := (edge i + edge (i + 1)) / 2

/-- `min(n_bins - 1, int(x * n_bins))`. -/
def binIndex (x : ℚ) : ℕ := min (nBins - 1) ⌊x * nBins⌋.toNat

/-- The sums and counts of the bins. -/
structure Tally where
  sums : ℕ → ℚ := fun _ => 0
  counts : ℕ → ℕ := fun _ => 0

/-- The tally with one more sample. -/
def Tally.add (t : Tally) (x : ℚ) (y : ℤ) : Tally where
  sums := Function.update t.sums (binIndex x) (t.sums (binIndex x) + y)
  counts := Function.update t.counts (binIndex x) (t.counts (binIndex x) + 1)

/-- The samples, tallied by their bins. -/
def tally (samples : List (ℚ × ℤ)) : Tally := samples.foldl (fun t s => t.add s.1 s.2) {}

/-- The rate of a bin, one half without samples. -/
def Tally.rate (t : Tally) (i : ℕ) : ℚ := if t.counts i > 0 then t.sums i / t.counts i else 1 / 2

/-- The order of tuples. -/
def TupleLe (a b : ℚ × ℚ) : Prop := a.1 < b.1 ∨ a.1 = b.1 ∧ a.2 ≤ b.2

instance decidableTupleLe (a b : ℚ × ℚ) : Decidable (TupleLe a b) :=
  inferInstanceAs (Decidable (a.1 < b.1 ∨ a.1 = b.1 ∧ a.2 ≤ b.2))

/-- `sorted`. -/
def sorted (pairs : List (ℚ × ℚ)) : List (ℚ × ℚ) := pairs.insertionSort TupleLe

/-- A pair right behind the last one is merged with it. -/
def mergeNear (merged : List (ℚ × ℚ)) (item : ℚ × ℚ) : List (ℚ × ℚ) :=
  match merged.getLast? with
  | some last =>
    if |last.1 - item.1| < 1 / 10 ^ 12 then merged.dropLast ++ [(item.1, (last.2 + item.2) / 2)]
    else merged ++ [item]
  | none => [item]

/-- The average of a block. -/
def average (blk : List (ℚ × ℚ)) : ℚ := (blk.map (·.2)).sum / blk.length

/-- The inner loop, at the block `cur`, and whether it changes anything. -/
def poolFrom (cur : List (ℚ × ℚ)) : List (List (ℚ × ℚ)) → List (List (ℚ × ℚ)) × Bool
  | [] => ([cur], false)
  | nxt :: blocks =>
    if average cur > average nxt then ((poolFrom (cur ++ nxt) blocks).1, true)
    else (cur :: (poolFrom nxt blocks).1, (poolFrom nxt blocks).2)

/-- One pass of the pooling, and whether it has pooled anything. -/
def pool : List (List (ℚ × ℚ)) → List (List (ℚ × ℚ)) × Bool
  | [] => ([], false)
  | cur :: blocks => poolFrom cur blocks

/-- The outer loop, for as many rounds as there are blocks at most. -/
def pools : ℕ → List (List (ℚ × ℚ)) → List (List (ℚ × ℚ))
  | 0, blocks => blocks
  | rounds + 1, blocks =>
    if (pool blocks).2 then pools rounds (pool blocks).1 else (pool blocks).1

/-- `_pava`. -/
def pava (pairs : List (ℚ × ℚ)) : List (ℚ × ℚ) :=
  let merged := (sorted pairs).foldl mergeNear []
  let blocks := pools merged.length (merged.map fun m => [m])
  sorted (blocks.flatMap fun blk => blk.map fun q => (q.1, clamp (average blk) 0 1))

/-- The fallback of `_fit_isotonic`. -/
def fitBins (xs : List ℚ) (labels : List ℤ) : List (ℚ × ℚ) :=
  let t := tally (xs.zip labels)
  pava ((List.range nBins).map fun i => (center i, t.rate i))

/-- Harrell's C. -/
def manualAuc (labels : List ℤ) (probs : List ℚ) : Option ℚ :=
  let pos := ((probs.zip labels).filter (·.2 = 1)).map (·.1)
  let neg := ((probs.zip labels).filter (·.2 = 0)).map (·.1)
  if pos = [] ∨ neg = [] then none
  else
    let total := (pos.flatMap fun pp => neg.map fun np =>
      if pp > np then (1 : ℚ) else if pp = np then 1 / 2 else 0).sum
    some (total / (pos.length * neg.length))

section
variable (exp : ℚ → ℚ) (cal : ProbabilityCalibrator)

/-- The probability for a score that is brought to the unit interval. -/
def probaFromX (x : ℚ) : ℚ :=
  match cal.method with
  | .logistic => sigmoid exp (cal.a * x + cal.b)
  | .isotonic => cal.interpBins x

/-- The area under the curve, where there are two kinds of labels. -/
def auc (xs : List ℚ) (labels : List ℤ) : Option ℚ :=
  if labels.dedup.length < 2 then none else manualAuc labels (xs.map (cal.probaFromX exp))

/-- None where the lengths do not match. -/
def fit (fitLogistic : List ℚ → List ℤ → ℚ × ℚ) (now : String) (scores : List ℚ) (labels : List ℤ) :
    Option ProbabilityCalibrator :=
  if scores.length ≠ labels.length then none
  else
    let xs := scores.map norm
    let fitted := match cal.method with
      | .logistic => { cal with a := (fitLogistic xs labels).1, b := (fitLogistic xs labels).2 }
      | .isotonic => { cal with bins := fitBins xs labels }
    some { fitted with nSamples := scores.length, oosAuc := fitted.auc exp xs labels, trainedAt := now }

end

/-! ## Pooling -/

section
variable {cur blk : List (ℚ × ℚ)} {blocks : List (List (ℚ × ℚ))}

theorem average_eq (blk : List (ℚ × ℚ)) : average blk = mean (blk.map (·.2)) := by
  unfold average mean
  rw [List.length_map]

theorem poolFrom_flatten : (poolFrom cur blocks).1.flatten = cur ++ blocks.flatten := by
  induction blocks generalizing cur with
  | nil => rfl
  | cons nxt blocks ih =>
    unfold poolFrom
    split
    · show (poolFrom (cur ++ nxt) blocks).1.flatten = _
      rw [ih, List.append_assoc, List.flatten_cons]
    · show (cur :: (poolFrom nxt blocks).1).flatten = _
      rw [List.flatten_cons, ih, List.flatten_cons]

/-- A block is joined to the next only where the two are in the wrong order. -/
theorem poolFrom_level (hcur : Level (cur.map (·.2))) (h : ∀ blk ∈ blocks, Level (blk.map (·.2))) :
    ∀ blk ∈ (poolFrom cur blocks).1, Level (blk.map (·.2)) := by
  induction blocks generalizing cur with
  | nil =>
    intro blk hblk
    rw [List.mem_singleton.mp hblk]
    exact hcur
  | cons nxt blocks ih =>
    have hnxt := h nxt List.mem_cons_self
    have hrest := fun blk hblk => h blk (List.mem_cons_of_mem nxt hblk)
    unfold poolFrom
    split
    · next hgt =>
      rw [average_eq, average_eq] at hgt
      apply ih _ hrest
      rw [List.map_append]
      exact hcur.append hnxt hgt.le
    · intro blk hblk
      rcases List.mem_cons.mp hblk with rfl | hblk
      · exact hcur
      · exact ih hnxt hrest blk hblk

theorem poolFrom_length (cur : List (ℚ × ℚ)) (blocks : List (List (ℚ × ℚ))) :
    (poolFrom cur blocks).1.length ≤ blocks.length + 1 ∧
    ((poolFrom cur blocks).2 = true → (poolFrom cur blocks).1.length < blocks.length + 1) := by
  induction blocks generalizing cur with
  | nil => exact ⟨le_rfl, fun h => by cases h⟩
  | cons nxt blocks ih =>
    unfold poolFrom
    split
    · have hle := (ih (cur ++ nxt)).1
      rw [List.length_cons]
      exact ⟨hle.trans (Nat.le_succ _), fun _ => Nat.lt_succ_of_le hle⟩
    · obtain ⟨hle, hlt⟩ := ih nxt
      rw [List.length_cons, List.length_cons]
      exact ⟨Nat.succ_le_succ hle, fun h => Nat.succ_lt_succ (hlt h)⟩

/-- A round that changes nothing finds the averages in order. -/
theorem poolFrom_steady (h : (poolFrom cur blocks).2 = false) :
    (poolFrom cur blocks).1 = cur :: blocks ∧
      (cur :: blocks).IsChain fun b b' => average b ≤ average b' := by
  induction blocks generalizing cur with
  | nil => exact ⟨rfl, List.isChain_singleton cur⟩
  | cons nxt blocks ih =>
    unfold poolFrom at h ⊢
    split at h
    · cases h
    · next hle =>
      obtain ⟨hsame, hchain⟩ := ih h
      rw [if_neg hle, hsame]
      exact ⟨rfl, List.isChain_cons_cons.mpr ⟨not_lt.mp hle, hchain⟩⟩

theorem pools_flatten (rounds : ℕ) : (pools rounds blocks).flatten = blocks.flatten := by
  have hpool (blocks : List (List (ℚ × ℚ))) : (pool blocks).1.flatten = blocks.flatten := by
    cases blocks with
    | nil => rfl
    | cons cur blocks => exact poolFrom_flatten
  induction rounds generalizing blocks with
  | zero => rfl
  | succ rounds ih =>
    unfold pools
    split
    · rw [ih, hpool]
    · exact hpool blocks

theorem pools_level (h : ∀ blk ∈ blocks, Level (blk.map (·.2))) (rounds : ℕ) :
    ∀ blk ∈ pools rounds blocks, Level (blk.map (·.2)) := by
  have hpool {blocks : List (List (ℚ × ℚ))} (h : ∀ blk ∈ blocks, Level (blk.map (·.2))) :
      ∀ blk ∈ (pool blocks).1, Level (blk.map (·.2)) := by
    cases blocks with
    | nil => exact h
    | cons cur blocks =>
      exact poolFrom_level (h cur List.mem_cons_self) fun blk hblk => h blk (List.mem_cons_of_mem cur hblk)
  induction rounds generalizing blocks with
  | zero => exact h
  | succ rounds ih =>
    unfold pools
    split
    · exact ih (hpool h)
    · exact hpool h

/-- As many rounds as there are blocks put the averages in order. -/
theorem pools_sorted {rounds : ℕ} (h : blocks.length ≤ rounds) :
    (pools rounds blocks).IsChain fun b b' => average b ≤ average b' := by
  induction rounds generalizing blocks with
  | zero =>
    rw [List.length_eq_zero_iff.mp (Nat.le_zero.mp h)]
    exact List.isChain_nil
  | succ rounds ih =>
    unfold pools
    cases blocks with
    | nil => exact List.isChain_nil
    | cons cur blocks =>
      split
      · next hchanged =>
        have hlt := (poolFrom_length cur blocks).2 hchanged
        apply ih
        rw [List.length_cons] at h
        exact Nat.le_of_lt_succ (hlt.trans_le h)
      · next hsteady =>
        obtain ⟨hsame, hchain⟩ := poolFrom_steady (Bool.eq_false_iff.mpr hsteady)
        show (poolFrom cur blocks).1.IsChain _
        rw [hsame]
        exact hchain

end

/-! ## Pairs that are apart -/

section
variable {pairs : List (ℚ × ℚ)}

/-- The pairs are in order, and too far apart to be merged. -/
def Apart (a b : ℚ × ℚ) : Prop := a.1 + 1 / 10 ^ 12 ≤ b.1

theorem Apart.lt {a b : ℚ × ℚ} (h : Apart a b) : a.1 < b.1 :=
  lt_of_lt_of_le (lt_add_of_pos_right a.1 (by norm_num)) h

theorem sorted_eq (h : pairs.Pairwise fun a b => a.1 < b.1) : sorted pairs = pairs :=
  (h.imp fun hlt => Or.inl hlt : pairs.Pairwise TupleLe).insertionSort_eq

theorem foldl_mergeNear (acc : List (ℚ × ℚ)) (h : (acc ++ pairs).Pairwise Apart) :
    pairs.foldl mergeNear acc = acc ++ pairs := by
  induction pairs generalizing acc with
  | nil => rw [List.foldl_nil, List.append_nil]
  | cons item pairs ih =>
    have hstep : mergeNear acc item = acc ++ [item] := by
      unfold mergeNear
      cases hlast : acc.getLast? with
      | none =>
        rw [List.getLast?_eq_none_iff.mp hlast]
        rfl
      | some last =>
        have hapart : Apart last item :=
          (List.pairwise_append.mp h).2.2 last (List.mem_of_getLast? hlast) item List.mem_cons_self
        dsimp only
        rw [if_neg]
        rw [abs_of_neg (sub_neg.mpr hapart.lt)]
        unfold Apart at hapart
        linarith
    have hassoc : acc ++ item :: pairs = (acc ++ [item]) ++ pairs := by simp
    rw [List.foldl_cons, hstep, hassoc]
    exact ih _ (hassoc ▸ h)

theorem clamp_unit {v : ℚ} (h : 0 ≤ v ∧ v ≤ 1) : clamp v 0 1 = v := by
  unfold clamp
  rw [if_neg (not_lt.mpr h.1), if_neg (not_lt.mpr h.2)]

theorem map_level (blk : List (ℚ × ℚ)) (v : ℚ) :
    (blk.map fun q => (q.1, v)) = (blk.map (·.1)).zip (List.replicate blk.length v) := by
  induction blk with
  | nil => rfl
  | cons q blk ih =>
    rw [List.map_cons, List.map_cons, List.length_cons, List.replicate_succ, List.zip_cons_cons, ih]

/-- Each place of a block with its average. -/
theorem flatMap_averages {blocks : List (List (ℚ × ℚ))}
    (hunit : ∀ blk ∈ blocks, 0 ≤ average blk ∧ average blk ≤ 1) :
    (blocks.flatMap fun blk => blk.map fun q => (q.1, clamp (average blk) 0 1)) =
      (blocks.flatten.map (·.1)).zip (levels (blocks.map fun blk => blk.map (·.2))) := by
  induction blocks with
  | nil => rfl
  | cons blk blocks ih =>
    rw [List.flatMap_cons, ih fun b hb => hunit b (List.mem_cons_of_mem blk hb),
      clamp_unit (hunit blk List.mem_cons_self), map_level, List.flatten_cons, List.map_append, List.map_cons,
      levels_cons, List.length_map, ← average_eq, List.zip_append]
    rw [List.length_map, List.length_replicate]

/-- **The pooled pairs.** They stand at the places of the pairs, with the levels of runs of their values. -/
theorem pava_spec (hapart : pairs.Pairwise Apart) (hunit : ∀ q ∈ pairs, 0 ≤ q.2 ∧ q.2 ≤ 1) :
    ∃ bs : List (List ℚ), bs.flatten = pairs.map (·.2) ∧ (∀ b ∈ bs, Level b) ∧
      bs.Pairwise (fun b b' => mean b ≤ mean b') ∧ pava pairs = (pairs.map (·.1)).zip (levels bs) := by
  have hlt := hapart.imp fun h => h.lt
  set blocks := pools pairs.length (pairs.map fun m => [m]) with hblocks
  have hflat : blocks.flatten = pairs := by
    rw [hblocks, pools_flatten, ← List.flatMap_def, List.flatMap_singleton']
  have hlevel : ∀ blk ∈ blocks, Level (blk.map (·.2)) := by
    apply pools_level
    intro blk hblk
    obtain ⟨q, -, rfl⟩ := List.mem_map.mp hblk
    exact level_singleton q.2
  have hchain : blocks.IsChain fun b b' => average b ≤ average b' :=
    pools_sorted (by rw [List.length_map])
  have haverage : ∀ blk ∈ blocks, 0 ≤ average blk ∧ average blk ≤ 1 := by
    intro blk hblk
    rw [average_eq]
    apply (hlevel blk hblk).mean_mem
    intro v hv
    obtain ⟨q, hq, rfl⟩ := List.mem_map.mp hv
    exact hunit q (hflat ▸ List.mem_flatten.mpr ⟨blk, hblk, hq⟩)
  refine ⟨blocks.map fun blk => blk.map (·.2), ?_, ?_, ?_, ?_⟩
  · rw [← List.map_flatten, hflat]
  · intro b hb
    obtain ⟨blk, hblk, rfl⟩ := List.mem_map.mp hb
    exact hlevel blk hblk
  · rw [List.pairwise_map]
    have : IsTrans (List (ℚ × ℚ)) fun b b' => average b ≤ average b' := ⟨fun _ _ _ => le_trans⟩
    exact (List.isChain_iff_pairwise.mp hchain).imp fun h => by rwa [average_eq, average_eq] at h
  · have hmerged : (sorted pairs).foldl mergeNear [] = pairs := by
      rw [sorted_eq hlt]
      exact foldl_mergeNear [] hapart
    unfold pava
    dsimp only
    rw [hmerged, ← hblocks, flatMap_averages haverage, hflat]
    apply sorted_eq
    rw [← List.pairwise_map (f := Prod.fst) (R := fun a b => a < b), List.map_fst_zip]
    · exact List.pairwise_map.mpr hlt
    · rw [length_levels, ← List.map_flatten, hflat, List.length_map, List.length_map]

end

/-! ## The bins of a fit -/

theorem center_eq (i : ℕ) : center i = (2 * i + 1) / 40 := by
  unfold center edge nBins
  push_cast
  ring

theorem center_succ_le {i j : ℕ} (h : i < j) : center i + 1 / 20 ≤ center j := by
  have hcast : (i : ℚ) + 1 ≤ j := by exact_mod_cast h
  rw [center_eq, center_eq]
  linarith

theorem centers_apart (v : ℕ → ℚ) (n : ℕ) :
    ((List.range n).map fun i => (center i, v i)).Pairwise Apart := by
  rw [List.pairwise_map]
  apply List.pairwise_lt_range.imp
  intro i j hij
  have := center_succ_le hij
  unfold Apart
  dsimp only
  have : (1 / 10 ^ 12 : ℚ) ≤ 1 / 20 := by norm_num
  linarith

/-- The labels of a bin are between none and all of its samples. -/
theorem tally_bounds {samples : List (ℚ × ℤ)} (h : ∀ s ∈ samples, s.2 = 0 ∨ s.2 = 1) (i : ℕ) :
    0 ≤ (tally samples).sums i ∧ (tally samples).sums i ≤ (tally samples).counts i := by
  have hfold (t : Tally) (ht : 0 ≤ t.sums i ∧ t.sums i ≤ t.counts i) :
      0 ≤ (samples.foldl (fun t s => t.add s.1 s.2) t).sums i ∧
        (samples.foldl (fun t s => t.add s.1 s.2) t).sums i ≤
          (samples.foldl (fun t s => t.add s.1 s.2) t).counts i := by
    induction samples generalizing t with
    | nil => exact ht
    | cons s samples ih =>
      apply ih fun s' hs' => h s' (List.mem_cons_of_mem s hs')
      unfold Tally.add
      by_cases hi : i = binIndex s.1
      · subst hi
        dsimp only
        rw [Function.update_self, Function.update_self]
        push_cast
        rcases h s List.mem_cons_self with hy | hy
        · rw [hy, Int.cast_zero]
          constructor <;> linarith
        · rw [hy, Int.cast_one]
          constructor <;> linarith
      · dsimp only
        rwa [Function.update_of_ne hi, Function.update_of_ne hi]
  exact hfold {} ⟨le_rfl, by simp⟩

theorem rate_mem {samples : List (ℚ × ℤ)} (h : ∀ s ∈ samples, s.2 = 0 ∨ s.2 = 1) (i : ℕ) :
    0 ≤ (tally samples).rate i ∧ (tally samples).rate i ≤ 1 := by
  obtain ⟨hlow, hhigh⟩ := tally_bounds h i
  unfold Tally.rate
  split
  · exact ⟨div_nonneg hlow (Nat.cast_nonneg _), div_le_one_of_le₀ hhigh (Nat.cast_nonneg _)⟩
  · norm_num

theorem getD_map_range (f : ℕ → ℚ) {n i : ℕ} (hi : i < n) : ((List.range n).map f).getD i 0 = f i := by
  rw [List.getD_eq_getElem _ 0 (by rwa [List.length_map, List.length_range]), List.getElem_map,
    List.getElem_range]

theorem zip_map_range (c : ℕ → ℚ) {n : ℕ} {l : List ℚ} (hlen : l.length = n) :
    ((List.range n).map c).zip l = (List.range n).map fun i => (c i, l.getD i 0) := by
  apply List.ext_getElem
  · rw [List.length_zip, hlen, List.length_map, List.length_map, List.length_range, min_self]
  · intro i _ hi
    rw [List.length_map, List.length_range] at hi
    rw [List.getElem_zip, List.getElem_map, List.getElem_map, List.getElem_range,
      List.getD_eq_getElem l 0 (hlen ▸ hi)]

/-- Pairs at the centres, pooled: the centres with the plain least-squares fit of their values. -/
theorem pava_centers {rate : ℕ → ℚ} (h : ∀ i, 0 ≤ rate i ∧ rate i ≤ 1) (n : ℕ) :
    ∃ v : ℕ → ℚ, pava ((List.range n).map fun i => (center i, rate i)) =
        (List.range n).map (fun i => (center i, v i)) ∧
      (∀ i < n, 0 ≤ v i ∧ v i ≤ 1) ∧ Balanced (Finset.range n) (fun _ => 1) rate v := by
  have hunit : ∀ q ∈ (List.range n).map (fun i => (center i, rate i)), 0 ≤ q.2 ∧ q.2 ≤ 1 := by
    intro q hq
    obtain ⟨i, -, rfl⟩ := List.mem_map.mp hq
    exact h i
  obtain ⟨bs, hflat, hlevel, hsorted, hpava⟩ := pava_spec (centers_apart rate n) hunit
  have hvalues : ((List.range n).map fun i => (center i, rate i)).map (·.2) = (List.range n).map rate := by
    rw [List.map_map]
    rfl
  have hplaces : ((List.range n).map fun i => (center i, rate i)).map (·.1) = (List.range n).map center := by
    rw [List.map_map]
    rfl
  have hbounds : ∀ v ∈ levels bs, 0 ≤ v ∧ v ≤ 1 := by
    apply levels_mem hlevel
    intro v hv
    rw [hflat] at hv
    obtain ⟨q, hq, rfl⟩ := List.mem_map.mp hv
    exact hunit q hq
  rw [hvalues] at hflat
  have hlen : bs.flatten.length = n := by rw [hflat, List.length_map, List.length_range]
  have hlevels : (levels bs).length = n := by rw [length_levels, hlen]
  refine ⟨fun i => (levels bs).getD i 0, ?_, ?_, ?_⟩
  · rw [hpava, hplaces]
    exact zip_map_range center hlevels
  · intro i hi
    show 0 ≤ (levels bs).getD i 0 ∧ (levels bs).getD i 0 ≤ 1
    rw [List.getD_eq_getElem _ 0 (hlevels.symm ▸ hi)]
    exact hbounds _ (List.getElem_mem _)
  · have hbalanced := Balanced.of_levels hlevel hsorted
    rw [hlen, hflat] at hbalanced
    exact hbalanced.congr (fun _ _ => rfl) (fun i hi => getD_map_range rate (Finset.mem_range.mp hi)) fun _ _ => rfl

/-! ## Predictions -/

theorem neverFalls_of_sorted {bin : ℚ × ℚ} {bins : List (ℚ × ℚ)}
    (h : (bin :: bins).Pairwise fun a b => a.2 ≤ b.2) : neverFalls bin.2 (bins.map knotOf) = true := by
  induction bins generalizing bin with
  | nil => rfl
  | cons bin' bins ih =>
    obtain ⟨hfirst, hrest⟩ := List.pairwise_cons.mp h
    show (if bin'.2 < bin.2 then false else neverFalls bin'.2 (bins.map knotOf)) = true
    rw [if_neg (not_lt.mpr (hfirst bin' List.mem_cons_self))]
    exact ih hrest

/-- Over bins in order the interpolation stays in the unit interval, never decreases, and goes through the
bins. -/
theorem interpBins_spec {cal : ProbabilityCalibrator} (hne : cal.bins ≠ [])
    (hlt : cal.bins.Pairwise fun a b => a.1 < b.1) (hle : cal.bins.Pairwise fun a b => a.2 ≤ b.2) :
    (∀ x, 0 ≤ cal.interpBins x ∧ cal.interpBins x ≤ 1) ∧ Monotone cal.interpBins ∧
      ∀ q ∈ cal.bins, cal.interpBins q.1 = clampProb q.2 := by
  obtain ⟨bin, bins, hbins⟩ := List.exists_cons_of_ne_nil hne
  have hmonotonic : binsMonotonic (cal.bins.map knotOf) = true := by
    rw [hbins] at hle ⊢
    exact neverFalls_of_sorted hle
  have hsame : cal.interpBins = Calibration.interpBins (cal.bins.map knotOf) :=
    funext fun x => (interpBins_knotOf hmonotonic x).symm
  refine ⟨?_, ?_, ?_⟩
  · rw [hsame]
    exact interpBins_mem hmonotonic
  · rw [hsame]
    exact interpBins_mono hmonotonic
  · intro q hq
    have hknots : (bins.map knotOf).map (·.knot) = bins := by
      rw [List.map_map]
      exact List.map_id bins
    rw [hbins] at hq hlt
    rw [hsame, hbins, List.map_cons, interpBins_cons, hknots]
    exact congrArg clampProb (interpolate_knot (k := bin) hlt hq)

theorem norm_center {i : ℕ} (hi : i < nBins) : norm (100 * center i) = center i := by
  have hcast : (i : ℚ) + 1 ≤ 20 := by exact_mod_cast hi
  have hpos : (0 : ℚ) ≤ i := Nat.cast_nonneg i
  unfold norm clamp
  rw [center_eq, if_neg (by linarith), if_neg (by linarith)]
  ring

/-- The predictions of a calibrator whose bins are centres with values in order. -/
theorem predictProba_centers (exp : ℚ → ℚ) {cal : ProbabilityCalibrator} {v : ℕ → ℚ}
    (hmethod : cal.method = .isotonic)
    (hbins : cal.bins = (List.range nBins).map fun i => (center i, v i))
    (hv : MonotoneOn v (Finset.range nBins)) (hunit : ∀ i < nBins, 0 ≤ v i ∧ v i ≤ 1) :
    (∀ score, 0 ≤ cal.predictProba exp score ∧ cal.predictProba exp score ≤ 1) ∧
      Monotone (cal.predictProba exp) ∧
      ∀ i ∈ Finset.range nBins, cal.predictProba exp (100 * center i) = v i := by
  have hpredict (score : ℚ) : cal.predictProba exp score = cal.interpBins (norm score) := by
    unfold predictProba
    rw [hmethod]
    exact Rat.cast_id _
  have hne : cal.bins ≠ [] := by
    rw [hbins]
    exact List.cons_ne_nil _ _
  have hlt : cal.bins.Pairwise fun a b => a.1 < b.1 := by
    rw [hbins]
    exact (centers_apart v nBins).imp fun h => h.lt
  have hle : cal.bins.Pairwise fun a b => a.2 ≤ b.2 := by
    rw [hbins, List.pairwise_map]
    apply List.pairwise_lt_range.imp_of_mem
    intro i j hi hj hij
    exact hv (Finset.mem_range.mpr (List.mem_range.mp hi)) (Finset.mem_range.mpr (List.mem_range.mp hj))
      hij.le
  obtain ⟨hmem, hmono, hknots⟩ := interpBins_spec hne hlt hle
  refine ⟨?_, ?_, ?_⟩
  · intro score
    rw [hpredict]
    exact hmem _
  · intro score score' hscore
    rw [hpredict, hpredict, norm_eq, norm_eq]
    exact hmono (normalized_mono hscore)
  · intro i hi
    have hi := Finset.mem_range.mp hi
    have hknot : (center i, v i) ∈ cal.bins := by
      rw [hbins]
      exact List.mem_map.mpr ⟨i, List.mem_range.mpr hi, rfl⟩
    rw [hpredict, norm_center hi, hknots _ hknot]
    exact clamp_unit (hunit i hi)

end ProbabilityCalibrator

/-! ## Training sets -/

open ProbabilityCalibrator

/-- Scores with a label of zero or one each. -/
structure TrainingSet where
  scores : List ℚ
  labels : List ℤ
  length_eq : scores.length = labels.length
  binary : ∀ y ∈ labels, y = 0 ∨ y = 1

namespace TrainingSet
variable (t : TrainingSet)

/-- The tally of the training data. -/
def tally : Tally := ProbabilityCalibrator.tally ((t.scores.map norm).zip t.labels)

/-- The bins that received samples. -/
def nonEmpty : Finset ℕ := (Finset.range nBins).filter fun i => 0 < t.tally.counts i

/-- How many samples a bin has. -/
def samples (i : ℕ) : ℚ := t.tally.counts i

/-- The part of the samples of a bin that is labelled with one. -/
def empiricalRate (i : ℕ) : ℚ := t.tally.sums i / t.tally.counts i

/-- What is expected of the predictions: at the centres of the bins with samples they are the least-squares
fit of the rates of these bins, each sample counting once. The other bins have no part in it. -/
structure Calibrated (predict : ℚ → ℚ) : Prop where
  mem : ∀ score, 0 ≤ predict score ∧ predict score ≤ 1
  mono : Monotone predict
  fit : IsFit t.nonEmpty t.samples t.empiricalRate fun i => predict (100 * center i)

/-- Some values balance the rates of all bins, each counting once and a half where there is none, and
balance the samples as well. -/
def BalancedTogether : Prop :=
  ∃ v : ℕ → ℚ, Balanced (Finset.range nBins) (fun _ => 1) t.tally.rate v ∧
    Balanced t.nonEmpty t.samples t.empiricalRate v

variable {t}

theorem rate_eq {i : ℕ} (hi : i ∈ t.nonEmpty) : t.tally.rate i = t.empiricalRate i :=
  if_pos (Finset.mem_filter.mp hi).2

/-- Rates that never decrease, the made-up ones among them, need no pooling. -/
theorem balancedTogether_of_mono (h : MonotoneOn t.tally.rate (Finset.range nBins)) :
    t.BalancedTogether := by
  refine ⟨t.tally.rate, Balanced.self h, ?_⟩
  have hmono : MonotoneOn t.tally.rate t.nonEmpty :=
    h.mono (Finset.coe_subset.mpr (Finset.filter_subset _ _))
  exact (Balanced.self hmono).congr (fun _ _ => rfl) (fun i hi => rate_eq hi) fun _ _ => rfl

/-- Where every bin has as many samples, counting bins is counting samples. -/
theorem balancedTogether_of_even {c : ℕ} (hc : 0 < c) (h : ∀ i < nBins, t.tally.counts i = c) :
    t.BalancedTogether := by
  have hbinary : ∀ s ∈ (t.scores.map norm).zip t.labels, s.2 = 0 ∨ s.2 = 1 :=
    fun s hs => t.binary s.2 (List.of_mem_zip hs).2
  obtain ⟨v, -, -, hv⟩ := pava_centers (rate_mem hbinary) nBins
  have hall : t.nonEmpty = Finset.range nBins := by
    apply Finset.filter_true_of_mem
    intro i hi
    rw [h i (Finset.mem_range.mp hi)]
    exact hc
  have hrate : ∀ i ∈ Finset.range nBins, t.tally.rate i = t.empiricalRate i :=
    fun i hi => rate_eq (hall ▸ hi)
  have hcount : ∀ i ∈ Finset.range nBins, (c : ℚ) = t.samples i := by
    intro i hi
    unfold samples
    rw [h i (Finset.mem_range.mp hi)]
  refine ⟨v, hv, ?_⟩
  rw [hall]
  exact (hv.const_weight c.cast_nonneg).congr hcount hrate fun _ _ => rfl

variable (exp : ℚ → ℚ) (fitLogistic : List ℚ → List ℤ → ℚ × ℚ) (now : String)
variable (cal : ProbabilityCalibrator)

/-- **The isotonic fit.** What is fitted to a training set is in the unit interval and never decreases. -/
theorem fit_isotonic (t : TrainingSet) :
    ∃ (fitted : ProbabilityCalibrator) (v : ℕ → ℚ),
      fit exp { cal with method := .isotonic } fitLogistic now t.scores t.labels = some fitted ∧
        (∀ score, 0 ≤ fitted.predictProba exp score ∧ fitted.predictProba exp score ≤ 1) ∧
        Monotone (fitted.predictProba exp) ∧
        (∀ i ∈ Finset.range nBins, fitted.predictProba exp (100 * center i) = v i) ∧
        Balanced (Finset.range nBins) (fun _ => 1) t.tally.rate v := by
  have hbinary : ∀ s ∈ (t.scores.map norm).zip t.labels, s.2 = 0 ∨ s.2 = 1 :=
    fun s hs => t.binary s.2 (List.of_mem_zip hs).2
  obtain ⟨fitted, hfit, hmethod, hbins⟩ : ∃ fitted,
      fit exp { cal with method := .isotonic } fitLogistic now t.scores t.labels = some fitted ∧
        fitted.method = .isotonic ∧ fitted.bins = fitBins (t.scores.map norm) t.labels := by
    unfold fit
    rw [if_neg (not_not.mpr t.length_eq)]
    dsimp only
    refine ⟨_, rfl, ?_, ?_⟩
    · rfl
    · dsimp only
  obtain ⟨v, hpava, hunit, hv⟩ := pava_centers (rate_mem hbinary) nBins
  have hpooled : fitBins (t.scores.map norm) t.labels = (List.range nBins).map fun i => (center i, v i) := by
    unfold fitBins
    exact hpava
  obtain ⟨hmem, hmono, hcenters⟩ :=
    predictProba_centers exp hmethod (hbins.trans hpooled) hv.mono hunit
  exact ⟨fitted, v, hfit, hmem, hmono, hcenters, hv⟩

/-- **The fit counts samples** exactly where some values balance the samples together with the rates that
are pooled. -/
theorem isotonic_fit_iff (t : TrainingSet) :
    (∃ fitted, fit exp { cal with method := .isotonic } fitLogistic now t.scores t.labels = some fitted ∧
        t.Calibrated (fitted.predictProba exp)) ↔
      t.BalancedTogether := by
  obtain ⟨fitted, v, hfit, hmem, hmono, hcenters, hv⟩ := fit_isotonic exp fitLogistic now cal t
  have hcenters' : ∀ i ∈ t.nonEmpty, fitted.predictProba exp (100 * center i) = v i :=
    fun i hi => hcenters i (Finset.mem_filter.mp hi).1
  have hpos : ∀ i ∈ t.nonEmpty, 0 ≤ t.samples i := fun i _ => Nat.cast_nonneg _
  rw [hfit]
  constructor
  · rintro ⟨fitted', hfitted, h⟩
    obtain rfl := Option.some.inj hfitted
    exact ⟨v, hv, h.fit.balanced.congr (fun _ _ => rfl) (fun _ _ => rfl) hcenters'⟩
  · rintro ⟨v', hv', hsamples⟩
    -- the rates have one plain fit
    have hsame : ∀ i ∈ Finset.range nBins, v' i = v i :=
      IsFit.eqOn (fun _ _ => one_pos) (hv'.isFit fun _ _ => zero_le_one) (hv.isFit fun _ _ => zero_le_one)
    have hv'centers : ∀ i ∈ t.nonEmpty, v' i = fitted.predictProba exp (100 * center i) := by
      intro i hi
      rw [hcenters' i hi, hsame i (Finset.mem_filter.mp hi).1]
    refine ⟨fitted, rfl, hmem, hmono, ?_⟩
    exact (hsamples.congr (fun _ _ => rfl) (fun _ _ => rfl) hv'centers).isFit hpos

end TrainingSet

/-! ## A sample at the top -/

/-- One sample with the best score that did not win. -/
def topMiss : TrainingSet := ⟨[100], [0], rfl, by decide⟩

/-- What is fitted to it. -/
def topMissFit : ProbabilityCalibrator where
  method := .isotonic
  bins := (List.range nBins).map fun i => (center i, 19 / 40)
  nSamples := 1

/-- The empty bins below it raise the prediction at the top to almost a half. -/
theorem isotonic_fit_distorted :
    ¬ ∃ fitted, fit id { method := .isotonic } (fun _ _ => (0, 0)) "" topMiss.scores topMiss.labels =
        some fitted ∧ topMiss.Calibrated (fitted.predictProba id) := by
  rintro ⟨fitted, hfit, hcal⟩
  have hfitted : fit id { method := .isotonic } (fun _ _ => (0, 0)) "" topMiss.scores topMiss.labels =
      some topMissFit := by decide +kernel
  have hone : topMiss.nonEmpty = {19} := by decide +kernel
  have hpredict : predictProba id topMissFit (100 * center 19) = (19 / 40 : ℚ) := by decide +kernel
  have hrate : topMiss.empiricalRate 19 = 0 := by decide +kernel
  have hsamples : topMiss.samples 19 = 1 := by decide +kernel
  have hleast := hcal.fit.least (fun _ => 0) monotoneOn_const
  rw [hfitted] at hfit
  rw [← Option.some.inj hfit, hone] at hleast
  unfold cost at hleast
  rw [Finset.sum_singleton, Finset.sum_singleton] at hleast
  dsimp only at hleast
  rw [hpredict, hrate, hsamples] at hleast
  norm_num at hleast

end PredictATrade.Calibration
