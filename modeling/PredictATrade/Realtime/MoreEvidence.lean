import PredictATrade.Lib.Capping
import PredictATrade.Realtime.Scoring

/-!
# `Realtime.MoreEvidence` — one contribution more

The caps on the families scale the contributions of both sides together, so a contribution added to one
side also takes from the others of its family. The other side only loses. The side it is added to gains, as the
gain outweighs the smaller factor; but the factor is a quotient of doubles, and where the gain is nothing, its last
place can take from the score (`more_evidence_takes`).

`capFactor_spread` bounds the factor by the exact one, and `evidence_monotone` puts the two together: exactly for the
other side, and for its own side up to the roundings of the factors.
-/

namespace PredictATrade.Realtime.Strategy
open Lib.Binary64 Lib.Capping

/-! ## The caps as factors -/

section
variable {evidence evidence' : List EvidenceContribution} {dir : Direction} {pillar : String}

/-- The factor that the caps apply to a family. -/
def capFactor (evidence : List EvidenceContribution) (pillar : String) : Decimal :=
  match familyMax pillar with
  | none => 1
  | some max =>
    if fl max < familySum pillar evidence then newFromFloat (fl (fl max / familySum pillar evidence)) else 1

/-- What the caps do to one contribution of the evidence. -/
def capped (evidence : List EvidenceContribution) (e : EvidenceContribution) : EvidenceContribution :=
  match familyMax e.pillar with
  | none => e
  | some max =>
    let sum := familySum e.pillar evidence
    if fl max < sum then
      let scale := fl (fl max / sum)
      { e with
        contribution := e.contribution * newFromFloat scale
        normalizedValue := e.contribution * newFromFloat scale }
    else e

theorem applyFamilyCaps_eq : applyFamilyCaps evidence = evidence.map (capped evidence) := rfl

/-- What the cap of a family leaves of a piece of evidence. -/
theorem capped_spec (evidence : List EvidenceContribution) (e : EvidenceContribution) :
    (capped evidence e).pillar = e.pillar ∧ (capped evidence e).direction = e.direction ∧
      (capped evidence e).contribution = e.contribution * capFactor evidence e.pillar := by
  simp only [capped, capFactor]
  cases familyMax e.pillar with
  | none => exact ⟨rfl, rfl, (mul_one _).symm⟩
  | some c =>
    by_cases h : fl c < familySum e.pillar evidence
    · simp only [if_pos h, and_self]
    · simp only [if_neg h, mul_one, and_self]

/-- The contributions to a side after the caps. -/
theorem sideScore_capped :
    sideScore dir (applyFamilyCaps evidence) =
      scaled (·.pillar) (·.contribution) (capFactor evidence) (·.direction == dir) evidence * 100 := by
  have hdir : ((fun e : EvidenceContribution => e.direction == dir) ∘ capped evidence) =
      fun e => e.direction == dir := by
    funext e
    simp only [Function.comp_apply, (capped_spec evidence e).2.1]
  have hcontrib : (EvidenceContribution.contribution ∘ capped evidence) =
      fun e => e.contribution * capFactor evidence e.pillar := by
    funext e
    simp only [Function.comp_apply, (capped_spec evidence e).2.2]
  rw [sideScore, applyFamilyCaps_eq, List.filter_map, hdir, List.map_map, hcontrib]
  rfl

/-- The contributions of a family are all scaled by its factor. -/
theorem family_scaled :
    ((applyFamilyCaps evidence).filter (·.pillar == pillar)).map (·.contribution) =
      (evidence.filter (·.pillar == pillar)).map fun e =>
        e.contribution * capFactor evidence pillar := by
  have hpillar : ((fun e : EvidenceContribution => e.pillar == pillar) ∘ capped evidence) =
      fun e => e.pillar == pillar := by
    funext e
    simp only [Function.comp_apply, (capped_spec evidence e).1]
  rw [applyFamilyCaps_eq, List.filter_map, hpillar, List.map_map]
  apply List.map_congr_left
  intro e he
  have heq : e.pillar = pillar := by simpa using (List.mem_filter.mp he).2
  simp only [Function.comp_apply, (capped_spec evidence e).2.2, heq]

/-! ## The factor and the exact one -/

/-- Contributions that are normal numbers as doubles, with sums far from the largest double. -/
structure Ordinary (evidence : List EvidenceContribution) : Prop where
  normal : ∀ x ∈ evidence, Normal x.contribution
  finite : ∀ pillar, familySum pillar evidence < 2 ^ 1000

/-- The caps as doubles. -/
def maxima (pillar : String) : Option Float64 := (familyMax pillar).map fl

/-- The sum of a family's contributions. -/
def exactSum (pillar : String) (evidence : List EvidenceContribution) : Decimal :=
  total (·.pillar) (·.contribution) pillar evidence

theorem familyMax_ge {c : ℚ} (h : familyMax pillar = some c) : 1 / 8 ≤ c := by
  unfold familyMax at h
  split at h <;> cases h <;> norm_num

theorem eighth_le_fl {c : ℚ} (h : 1 / 8 ≤ c) : 1 / 8 ≤ fl c := by
  have hdouble := double_zpow (e := -3) (by norm_num)
  have hle := hdouble.le_fl (le_trans (by norm_num) h)
  norm_num at hle ⊢
  exact hle

theorem maxima_pos {c : Float64} (h : maxima pillar = some c) : 0 < c := by
  obtain ⟨m, hm, rfl⟩ := Option.map_eq_some_iff.mp h
  exact lt_of_lt_of_le (by norm_num) (eighth_le_fl (familyMax_ge hm))

theorem exactSum_nonneg (h : Ordinary evidence) : 0 ≤ exactSum pillar evidence := by
  apply List.sum_nonneg
  intro v hv
  obtain ⟨x, hx, rfl⟩ := List.mem_map.mp hv
  exact (h.normal x (List.mem_of_mem_filter hx)).nonneg

/-- The sum of a family, up to the rounding of each contribution and of each addition. -/
theorem familySum_spread (h : Ordinary evidence) (pillar : String) :
    0 ≤ familySum pillar evidence ∧
      familySum pillar evidence ≤ exactSum pillar evidence * spread ^ (evidence.length + 1) ∧
      exactSum pillar evidence ≤ familySum pillar evidence * spread ^ (evidence.length + 1) := by
  set family := evidence.filter (·.pillar == pillar) with hfamily
  have hnormal : ∀ x ∈ family, Normal x.contribution := fun x hx =>
    h.normal x (List.mem_of_mem_filter hx)
  have hdoubles : ∀ v ∈ family.map (·.contribution.float64), Double v ∧ 0 ≤ v := by
    intro v hv
    obtain ⟨x, hx, rfl⟩ := List.mem_map.mp hv
    exact ⟨double_fl _, fl_nonneg (hnormal x hx).nonneg⟩
  obtain ⟨h0, hup, hdown⟩ := flSum_spread (fun v hv => (hdoubles v hv).1) fun v hv => (hdoubles v hv).2
  have hsum : exactSum pillar evidence = (family.map (·.contribution)).sum := by
    unfold exactSum total
    simp only [beq_eq_decide] at hfamily
    rw [hfamily]
  have hterms : (family.map (·.contribution.float64)).sum ≤ exactSum pillar evidence * spread := by
    rw [hsum, ← List.sum_map_mul_right]
    exact List.sum_le_sum fun x hx => (fl_spread (hnormal x hx)).1
  have hterms' : exactSum pillar evidence ≤ (family.map (·.contribution.float64)).sum * spread := by
    rw [hsum, ← List.sum_map_mul_right]
    exact List.sum_le_sum fun x hx => (fl_spread (hnormal x hx)).2
  have hlen : (family.map (·.contribution.float64)).length ≤ evidence.length := by
    rw [List.length_map]
    exact List.length_filter_le _ _
  have hpow : spread ^ (family.map (·.contribution.float64)).length ≤ spread ^ evidence.length :=
    pow_le_pow_right₀ one_le_spread hlen
  have hexact : 0 ≤ exactSum pillar evidence := exactSum_nonneg h
  have hs0 : (0 : ℚ) ≤ (family.map (·.contribution.float64)).sum :=
    List.sum_nonneg fun v hv => (hdoubles v hv).2
  refine ⟨h0, ?_, ?_⟩
  · calc familySum pillar evidence ≤ _ := hup
      _ ≤ exactSum pillar evidence * spread * spread ^ evidence.length :=
          mul_le_mul hterms hpow (pow_nonneg spread_pos.le _) (mul_nonneg hexact spread_pos.le)
      _ = _ := by ring
  · calc exactSum pillar evidence ≤ (family.map (·.contribution.float64)).sum * spread := hterms'
      _ ≤ familySum pillar evidence * spread ^ evidence.length * spread := by
          apply mul_le_mul_of_nonneg_right _ spread_pos.le
          exact hdown.trans (mul_le_mul_of_nonneg_left hpow h0)
      _ = _ := by ring

/-- The scale of a family over its cap, up to the rounding of the quotient and of its decimal. -/
theorem scale_spread {c sum : ℚ} (hc : 1 / 8 ≤ c) (hc1 : c ≤ sum) (hsum : sum < 2 ^ 1000) :
    newFromFloat (fl (c / sum)) ≤ c / sum * spread ^ 2 ∧ c / sum ≤ newFromFloat (fl (c / sum)) * spread ^ 2 := by
  have hpos : 0 < sum := by linarith
  have hlarge : (2 : ℚ) ^ (-1010 : ℤ) ≤ c / sum := by
    rw [le_div_iff₀ hpos]
    calc (2 : ℚ) ^ (-1010 : ℤ) * sum ≤ 2 ^ (-1010 : ℤ) * 2 ^ (1000 : ℤ) :=
          mul_le_mul_of_nonneg_left (by exact_mod_cast hsum.le) (two_zpow_pos _).le
      _ = 2 ^ (-10 : ℤ) := by rw [← zpow_add₀ (by norm_num)]; norm_num
      _ ≤ 1 / 8 := by norm_num
      _ ≤ c := hc
  have hnormal : Normal (c / sum) := by
    refine Or.inr (le_trans ?_ hlarge)
    exact zpow_le_zpow_right₀ (by norm_num) (by norm_num)
  obtain ⟨hup, hdown⟩ := fl_spread hnormal
  have hback : fl (newFromFloat (fl (c / sum))) = fl (c / sum) := fl_shortest (double_fl _)
  -- the decimal is a normal number as well, as it rounds to one
  have hdecimal : Normal (newFromFloat (fl (c / sum))) := by
    refine Or.inr ?_
    by_contra hlt
    have hle := (double_zpow (e := -1022) (by norm_num)).fl_le (not_le.mp hlt).le
    rw [hback] at hle
    have hge := (double_zpow (e := -1010) (by norm_num)).le_fl hlarge
    have hgap : (2 : ℚ) ^ (-1022 : ℤ) < 2 ^ (-1010 : ℤ) := zpow_lt_zpow_right₀ (by norm_num) (by norm_num)
    linarith
  obtain ⟨hup', hdown'⟩ := fl_spread hdecimal
  rw [hback] at hup' hdown'
  constructor
  · calc newFromFloat (fl (c / sum)) ≤ fl (c / sum) * spread := hdown'
      _ ≤ c / sum * spread * spread := mul_le_mul_of_nonneg_right hup spread_pos.le
      _ = _ := by ring
  · calc c / sum ≤ fl (c / sum) * spread := hdown
      _ ≤ newFromFloat (fl (c / sum)) * spread * spread := mul_le_mul_of_nonneg_right hup' spread_pos.le
      _ = _ := by ring

/-- The exact factor of a family. -/
def exactFactor (evidence : List EvidenceContribution) (pillar : String) : ℚ :=
  factor (maxima pillar) (exactSum pillar evidence)

/-- The factor is between nothing and one. -/
theorem capFactor_bounds (h : Ordinary evidence) (pillar : String) :
    0 < capFactor evidence pillar ∧ capFactor evidence pillar ≤ 1 := by
  unfold capFactor
  cases hmax : familyMax pillar with
  | none => exact ⟨one_pos, le_rfl⟩
  | some c =>
    dsimp only
    have hc := eighth_le_fl (familyMax_ge hmax)
    split
    · next hlt =>
      have hpos : 0 < familySum pillar evidence := by linarith
      have hquot : 0 < fl c / familySum pillar evidence := div_pos (by linarith) hpos
      obtain ⟨-, hdown⟩ := scale_spread hc hlt.le (h.finite pillar)
      refine ⟨pos_of_mul_pos_left (hquot.trans_le hdown) (by positivity), ?_⟩
      -- a quotient below one does not round above one, nor does its decimal
      have hone : Double (1 : ℚ) := double_zpow (e := 0) (by norm_num)
      have hle : fl (fl c / familySum pillar evidence) ≤ 1 :=
        hone.fl_le ((div_le_one hpos).mpr hlt.le)
      exact (shortest_mono (double_fl _) hone hle).trans_eq shortest_one
    · exact ⟨one_pos, le_rfl⟩

/-- A quotient by a sum, from the quotient by a sum that is that far away. -/
theorem div_le_div_mul {c s t p : ℚ} (hc : 0 ≤ c) (hs : 0 < s) (ht : 0 < t) (h : t ≤ s * p) :
    c / s ≤ c / t * p := by
  rw [div_mul_eq_mul_div, div_le_div_iff₀ hs ht, mul_assoc, mul_comm p]
  exact mul_le_mul_of_nonneg_left h hc

/-- **The factor** is the exact one, but for the roundings of the sum and of the quotient. -/
theorem capFactor_spread (h : Ordinary evidence) (pillar : String) :
    capFactor evidence pillar ≤ exactFactor evidence pillar * spread ^ (evidence.length + 3) ∧
      exactFactor evidence pillar ≤ capFactor evidence pillar * spread ^ (evidence.length + 3) := by
  obtain ⟨-, hsum, hsum'⟩ := familySum_spread h pillar
  have hbounds := capFactor_bounds h pillar
  have hone := one_le_spread
  have hpow : (1 : ℚ) ≤ spread ^ (evidence.length + 3) := one_le_pow₀ hone
  have hpow1 : (0 : ℚ) < spread ^ (evidence.length + 1) := pow_pos spread_pos _
  unfold exactFactor maxima
  unfold capFactor at hbounds ⊢
  cases hmax : familyMax pillar with
  | none => simpa [factor] using hpow
  | some c =>
    rw [hmax] at hbounds
    dsimp only [Option.map_some] at hbounds ⊢
    have hc := eighth_le_fl (familyMax_ge hmax)
    have hfactor : factor (some (fl c)) (exactSum pillar evidence) ≤ 1 := by
      rcases lt_or_ge (fl c) (exactSum pillar evidence) with hlt | hle
      · rw [factor_of_lt hlt, div_le_one (by linarith)]
        exact hlt.le
      · rw [factor_of_le hle]
    by_cases hover : fl c < familySum pillar evidence
    · rw [if_pos hover] at hbounds ⊢
      have hspos : 0 < familySum pillar evidence := by linarith
      obtain ⟨hup, hdown⟩ := scale_spread hc hover.le (h.finite pillar)
      have htpos : 0 < exactSum pillar evidence :=
        pos_of_mul_pos_left (hspos.trans_le hsum) hpow1.le
      have hquot : fl c / familySum pillar evidence ≤
          fl c / exactSum pillar evidence * spread ^ (evidence.length + 1) :=
        div_le_div_mul (by linarith) hspos htpos hsum'
      have hback : fl c / exactSum pillar evidence ≤
          newFromFloat (fl (fl c / familySum pillar evidence)) * spread ^ (evidence.length + 3) := by
        calc _ ≤ fl c / familySum pillar evidence * spread ^ (evidence.length + 1) :=
              div_le_div_mul (by linarith) htpos hspos hsum
          _ ≤ newFromFloat (fl (fl c / familySum pillar evidence)) * spread ^ 2 *
                spread ^ (evidence.length + 1) := mul_le_mul_of_nonneg_right hdown hpow1.le
          _ = _ := by ring
      rcases lt_or_ge (fl c) (exactSum pillar evidence) with hlt | hle
      · rw [factor_of_lt hlt]
        refine ⟨?_, hback⟩
        calc _ ≤ fl c / familySum pillar evidence * spread ^ 2 := hup
          _ ≤ fl c / exactSum pillar evidence * spread ^ (evidence.length + 1) * spread ^ 2 :=
              mul_le_mul_of_nonneg_right hquot (by positivity)
          _ = _ := by ring
      · rw [factor_of_le hle, one_mul]
        exact ⟨hbounds.2.trans hpow, ((one_le_div htpos).mpr hle).trans hback⟩
    · rw [if_neg hover, one_mul]
      refine ⟨?_, hfactor.trans hpow⟩
      rcases lt_or_ge (fl c) (exactSum pillar evidence) with hlt | hle
      · have htpos : 0 < exactSum pillar evidence := by linarith
        have hreach : exactSum pillar evidence ≤ fl c * spread ^ (evidence.length + 1) :=
          hsum'.trans (mul_le_mul_of_nonneg_right (not_lt.mp hover) hpow1.le)
        have hmore : fl c * spread ^ (evidence.length + 1) ≤ fl c * spread ^ (evidence.length + 3) :=
          mul_le_mul_of_nonneg_left (pow_le_pow_right₀ hone (by omega)) (by linarith)
        rw [factor_of_lt hlt, div_mul_eq_mul_div, le_div_iff₀ htpos, one_mul]
        exact hreach.trans hmore
      · rw [factor_of_le hle, one_mul]
        exact hpow

end

/-! ## One contribution more -/

section
variable {xs ys : List EvidenceContribution} {e : EvidenceContribution} {dir : Direction}
  {candidate trade : Float64} {pillar : String}

theorem familySum_insert_le (xs ys : List EvidenceContribution) (pillar : String) (h : 0 ≤ e.contribution) :
    familySum pillar (xs ++ ys) ≤ familySum pillar (xs ++ e :: ys) := by
  unfold familySum
  rw [List.filter_append, List.filter_append, List.map_append, List.map_append, List.filter_cons]
  split
  · rw [List.map_cons]
    exact flSum_insert_le _ _ (fl_nonneg h)
  · exact le_rfl

theorem Ordinary.contribution_nonneg (h : Ordinary (xs ++ e :: ys)) : 0 ≤ e.contribution :=
  (h.normal e (by simp)).nonneg

theorem Ordinary.erase (h : Ordinary (xs ++ e :: ys)) : Ordinary (xs ++ ys) where
  normal x hx := h.normal x (by
    rw [List.mem_append] at hx
    rw [List.mem_append, List.mem_cons]
    exact hx.imp id Or.inr)
  finite pillar := (familySum_insert_le xs ys pillar h.contribution_nonneg).trans_lt (h.finite pillar)

/-- No factor grows. -/
theorem capFactor_insert_le (h : Ordinary (xs ++ e :: ys)) (pillar : String) :
    capFactor (xs ++ e :: ys) pillar ≤ capFactor (xs ++ ys) pillar := by
  have hsum := familySum_insert_le xs ys pillar h.contribution_nonneg
  have hone := (capFactor_bounds h pillar).2
  unfold capFactor at hone ⊢
  cases hmax : familyMax pillar with
  | none => exact le_rfl
  | some c =>
    rw [hmax] at hone
    dsimp only at hone ⊢
    have hc := eighth_le_fl (familyMax_ge hmax)
    by_cases hbefore : fl c < familySum pillar (xs ++ ys)
    · rw [if_pos hbefore, if_pos (hbefore.trans_le hsum)]
      apply shortest_mono (double_fl _) (double_fl _)
      exact fl_mono (div_le_div_of_nonneg_left (by linarith) (by linarith) hsum)
    · rw [if_neg hbefore]
      exact hone

/-- The other side loses. -/
theorem sideScore_insert_le (h : Ordinary (xs ++ e :: ys)) (hdir : e.direction ≠ dir) :
    sideScore dir (applyFamilyCaps (xs ++ e :: ys)) ≤ sideScore dir (applyFamilyCaps (xs ++ ys)) := by
  have hdrop : (xs ++ e :: ys).filter (·.direction == dir) = (xs ++ ys).filter (·.direction == dir) := by
    rw [List.filter_append, List.filter_append, List.filter_cons_of_neg (by simpa using hdir)]
  have hsame : scaled (·.pillar) (·.contribution) (capFactor (xs ++ e :: ys)) (·.direction == dir)
        (xs ++ e :: ys) =
      scaled (·.pillar) (·.contribution) (capFactor (xs ++ e :: ys)) (·.direction == dir) (xs ++ ys) := by
    unfold scaled
    rw [hdrop]
  rw [sideScore_capped, sideScore_capped, hsame]
  apply mul_le_mul_of_nonneg_right _ (by norm_num)
  have hle := scaled_le_mul (·.pillar) (·.direction == dir) (fun x hx => (h.erase.normal x hx).nonneg) fun j =>
      (capFactor_insert_le h j).trans_eq (mul_one (capFactor (xs ++ ys) j)).symm
  rwa [mul_one] at hle

/-- What a score keeps at least when a contribution is added to its side: all of it where the family of the
contribution is not scaled, and all but the roundings of the factors where it is. -/
def keeps (evidence : List EvidenceContribution) (pillar : String) : ℚ :=
  if capFactor evidence pillar = 1 then 1 else 1 / spread ^ (2 * evidence.length + 5)

theorem scaled_insert (f : String → ℚ) (h : e.direction = dir) :
    scaled (·.pillar) (·.contribution) f (·.direction == dir) (xs ++ e :: ys) =
      scaled (·.pillar) (·.contribution) f (·.direction == dir) (xs ++ ys) + e.contribution * f e.pillar := by
  have hperm : scaled (·.pillar) (·.contribution) f (·.direction == dir) (xs ++ e :: ys) =
      scaled (·.pillar) (·.contribution) f (·.direction == dir) (e :: (xs ++ ys)) :=
    ((List.perm_middle.filter _).map _).sum_eq
  rw [hperm, scaled_cons, if_pos (by simpa using h), add_comm]

/-- Where its family is not scaled, a contribution changes no factor. -/
theorem capFactor_of_unscaled (h : Ordinary (xs ++ e :: ys)) (hone : capFactor (xs ++ e :: ys) e.pillar = 1)
    (pillar : String) : capFactor (xs ++ ys) pillar = capFactor (xs ++ e :: ys) pillar := by
  by_cases hp : e.pillar = pillar
  · subst hp
    apply le_antisymm
    · rw [hone]
      exact (capFactor_bounds h.erase _).2
    · exact capFactor_insert_le h _
  · have hsum : familySum pillar (xs ++ e :: ys) = familySum pillar (xs ++ ys) := by
      unfold familySum
      rw [List.filter_append, List.filter_append, List.filter_cons_of_neg (by simpa using hp)]
    unfold capFactor
    rw [hsum]

/-- Its own side gains, but for the roundings. -/
theorem sideScore_mul_keeps_le (h : Ordinary (xs ++ e :: ys)) (hdir : e.direction = dir) :
    sideScore dir (applyFamilyCaps (xs ++ ys)) * keeps (xs ++ e :: ys) e.pillar ≤
      sideScore dir (applyFamilyCaps (xs ++ e :: ys)) := by
  have hnn := h.contribution_nonneg
  rw [sideScore_capped, sideScore_capped, mul_right_comm]
  apply mul_le_mul_of_nonneg_right _ (by norm_num)
  unfold keeps
  split
  · next hone =>
    rw [mul_one, scaled_insert _ hdir, hone, mul_one, funext (capFactor_of_unscaled h hone)]
    linarith
  · -- through the shares under the exact factors
    set after := xs ++ e :: ys with hafter
    have hlen : after.length = (xs ++ ys).length + 1 := by simp [hafter]; omega
    have hbefore := scaled_le_mul (·.pillar) (·.direction == dir) (fun x hx => (h.erase.normal x hx).nonneg)
      fun j => (capFactor_spread h.erase j).1
    have hgrow : share (·.pillar) (·.contribution) maxima (·.direction == dir) (xs ++ ys) ≤
        share (·.pillar) (·.contribution) maxima (·.direction == dir) after := by
      have hperm : (xs ++ e :: ys).Perm (e :: (xs ++ ys)) := List.perm_middle
      rw [hafter, share_perm hperm]
      refine le_share_cons (fun _ _ => maxima_pos) (fun x hx => ?_) (by simpa using hdir)
      exact (h.normal x (List.perm_middle.mem_iff.mpr hx)).nonneg
    have hbehind := scaled_le_mul (·.pillar) (·.direction == dir) (fun x hx => (h.normal x hx).nonneg)
      fun j => (capFactor_spread h j).2
    have hpow : (0 : ℚ) < spread ^ (2 * after.length + 5) := pow_pos spread_pos _
    rw [mul_one_div, div_le_iff₀ hpow]
    calc _ ≤ share (·.pillar) (·.contribution) maxima (·.direction == dir) (xs ++ ys) *
          spread ^ ((xs ++ ys).length + 3) := hbefore
      _ ≤ share (·.pillar) (·.contribution) maxima (·.direction == dir) after *
            spread ^ ((xs ++ ys).length + 3) := mul_le_mul_of_nonneg_right hgrow (pow_pos spread_pos _).le
      _ ≤ scaled (·.pillar) (·.contribution) (capFactor after) (·.direction == dir) after *
            spread ^ (after.length + 3) * spread ^ ((xs ++ ys).length + 3) :=
          mul_le_mul_of_nonneg_right hbehind (pow_pos spread_pos _).le
      _ = _ := by
          rw [mul_assoc, ← pow_add]
          congr 2
          omega

/-- A family with a cap adds up to its cap at most, but for the roundings. -/
theorem exactSum_capped_le {evidence : List EvidenceContribution} (h : Ordinary evidence) {c : ℚ}
    (hc : familyMax pillar = some c) :
    exactSum pillar (applyFamilyCaps evidence) ≤ c * spread ^ (evidence.length + 4) := by
  have hscaled : exactSum pillar (applyFamilyCaps evidence) =
      exactSum pillar evidence * capFactor evidence pillar := by
    have hfamily := congrArg List.sum (@family_scaled evidence pillar)
    rw [List.sum_map_mul_right] at hfamily
    simpa only [exactSum, total, beq_eq_decide] using hfamily
  have hexact : exactSum pillar evidence * exactFactor evidence pillar ≤ fl c := by
    unfold exactFactor maxima
    rw [hc]
    exact mul_factor_le (lt_of_lt_of_le (by norm_num) (eighth_le_fl (familyMax_ge hc)))
  have hnormal : Normal c := by
    have hge := familyMax_ge hc
    refine Or.inr (le_trans ?_ hge)
    calc (2 : ℚ) ^ (-1022 : ℤ) ≤ 2 ^ (-3 : ℤ) := zpow_le_zpow_right₀ (by norm_num) (by norm_num)
      _ = 1 / 8 := by norm_num
  have hpow : (0 : ℚ) ≤ spread ^ (evidence.length + 3) := pow_nonneg spread_pos.le _
  rw [hscaled]
  calc _ ≤ exactSum pillar evidence * (exactFactor evidence pillar * spread ^ (evidence.length + 3)) :=
        mul_le_mul_of_nonneg_left (capFactor_spread h pillar).1 (exactSum_nonneg h)
    _ = exactSum pillar evidence * exactFactor evidence pillar * spread ^ (evidence.length + 3) := by ring
    _ ≤ fl c * spread ^ (evidence.length + 3) := mul_le_mul_of_nonneg_right hexact hpow
    _ ≤ c * spread * spread ^ (evidence.length + 3) :=
        mul_le_mul_of_nonneg_right (fl_spread hnormal).1 hpow
    _ = _ := by ring

theorem scoreDirection_scores (evidence : List EvidenceContribution) :
    (scoreDirectionWithThresholds evidence candidate trade 0).longScore = sideScore .buy evidence ∧
      (scoreDirectionWithThresholds evidence candidate trade 0).shortScore =
        sideScore .sell evidence := by
  simp only [scoreDirectionWithThresholds, sub_zero, ite_self]
  split <;> exact ⟨rfl, rfl⟩

/-- A lead that a factor leaves standing is still one after the contribution. -/
theorem leads_after {own own' other other' k level : ℚ} (hown : own * k ≤ own') (hother : other' ≤ other)
    (hlead : level < own ∧ other + minDominanceMargin ≤ own)
    (hroom : k = 1 ∨ level < own * k ∧ other + minDominanceMargin ≤ own * k) :
    level < own' ∧ other' + minDominanceMargin ≤ own' := by
  rcases hroom with rfl | hroom
  · rw [mul_one] at hown
    exact ⟨hlead.1.trans_le hown, by linarith [hlead.2]⟩
  · exact ⟨hroom.1.trans_le hown, by linarith [hroom.2]⟩

/-- A lead of the other side was one before, or the factor took the dominance away. -/
theorem leads_before {own own' other other' k level : ℚ} (hown : own * k ≤ own') (hother : other' ≤ other)
    (hlead : level < other' ∧ own' + minDominanceMargin ≤ other') :
    (level < other ∧ own + minDominanceMargin ≤ other) ∨
      k ≠ 1 ∧ own * k + minDominanceMargin ≤ other ∧ other < own + minDominanceMargin := by
  by_cases hbefore : own + minDominanceMargin ≤ other
  · exact Or.inl ⟨hlead.1.trans_le hother, hbefore⟩
  · refine Or.inr ⟨fun hone => hbefore ?_, by linarith [hlead.2], not_le.mp hbefore⟩
    rw [hone, mul_one] at hown
    linarith [hlead.2]

/-- **Evidence monotonicity.** Ordinary contributions, any thresholds, no conflict penalty. A BUY contribution more, at
any place, does not raise the short score, and leaves of the long score at least what it keeps: all of it where the
family of the contribution is not scaled, and all but the roundings of the factors where it is. A BUY stays a BUY, and
what is a SELL was one before, unless a scaled family's roundings reach the threshold or the margin. The same with the
sides exchanged. After the caps every capped family adds up to its cap at most, but for the roundings, and its
contributions are what they were times one positive factor. -/
theorem evidence_monotone (xs ys : List EvidenceContribution) (e : EvidenceContribution)
    (candidate trade : Float64) (h : Ordinary (xs ++ e :: ys)) :
    let before := scoreDirectionWithThresholds (applyFamilyCaps (xs ++ ys)) candidate trade 0
    let after := scoreDirectionWithThresholds (applyFamilyCaps (xs ++ e :: ys)) candidate trade 0
    let k := keeps (xs ++ e :: ys) e.pillar
    (e.direction = .buy →
      before.longScore * k ≤ after.longScore ∧ after.shortScore ≤ before.shortScore ∧
        (before.direction = .buy →
          k = 1 ∨ (candidate < before.longScore * k ∧
            before.shortScore + minDominanceMargin ≤ before.longScore * k) → after.direction = .buy) ∧
        (after.direction = .sell → before.direction = .sell ∨
          k ≠ 1 ∧ before.longScore * k + minDominanceMargin ≤ before.shortScore ∧
            before.shortScore < before.longScore + minDominanceMargin)) ∧
    (e.direction = .sell →
      before.shortScore * k ≤ after.shortScore ∧ after.longScore ≤ before.longScore ∧
        (before.direction = .sell →
          k = 1 ∨ (candidate < before.shortScore * k ∧
            before.longScore + minDominanceMargin ≤ before.shortScore * k) → after.direction = .sell) ∧
        (after.direction = .buy → before.direction = .buy ∨
          k ≠ 1 ∧ before.shortScore * k + minDominanceMargin ≤ before.longScore ∧
            before.longScore < before.shortScore + minDominanceMargin)) ∧
    ∀ (evidence : List EvidenceContribution) (pillar : String) (cap : ℚ),
      Ordinary evidence → familyMax pillar = some cap →
        exactSum pillar (applyFamilyCaps evidence) ≤ cap * spread ^ (evidence.length + 4) ∧
        ∃ s, 0 < s ∧
          ((applyFamilyCaps evidence).filter (·.pillar == pillar)).map (·.contribution) =
            (evidence.filter (·.pillar == pillar)).map fun x => x.contribution * s := by
  intro before after k
  have hlong : before.longScore = sideScore .buy _ := (scoreDirection_scores _).1
  have hshort : before.shortScore = sideScore .sell _ := (scoreDirection_scores _).2
  have hlong' : after.longScore = sideScore .buy _ := (scoreDirection_scores _).1
  have hshort' : after.shortScore = sideScore .sell _ := (scoreDirection_scores _).2
  rw [hlong, hshort, hlong', hshort']
  refine ⟨?_, ?_, ?_⟩
  · intro hdir
    have hown : sideScore .buy _ * k ≤ _ := sideScore_mul_keeps_le h hdir
    have hother : sideScore .sell _ ≤ _ := sideScore_insert_le h (by simp [hdir])
    refine ⟨hown, hother, fun hbuy hroom => ?_, fun hsell => ?_⟩
    · exact scoreDirection_buy_iff.mpr (leads_after hown hother (scoreDirection_buy_iff.mp hbuy) hroom)
    · exact (leads_before hown hother (scoreDirection_sell_iff.mp hsell)).imp_left scoreDirection_sell_iff.mpr
  · intro hdir
    have hown : sideScore .sell _ * k ≤ _ := sideScore_mul_keeps_le h hdir
    have hother : sideScore .buy _ ≤ _ := sideScore_insert_le h (by simp [hdir])
    refine ⟨hown, hother, fun hsell hroom => ?_, fun hbuy => ?_⟩
    · exact scoreDirection_sell_iff.mpr (leads_after hown hother (scoreDirection_sell_iff.mp hsell) hroom)
    · exact (leads_before hown hother (scoreDirection_buy_iff.mp hbuy)).imp_left scoreDirection_buy_iff.mpr
  · intro evidence pillar cap hev hcap
    exact ⟨exactSum_capped_le hev hcap, capFactor evidence pillar, (capFactor_bounds hev pillar).1, family_scaled⟩

end

/-- A reading of a family. -/
def reading (pillar : String) (dir : Direction) (contribution : Decimal) : EvidenceContribution :=
  addEvidence pillar "EMA_ALIGN" dir 15 contribution .derived ""

/-- Two contributions to the structure, capped to 25.000000000000002 in all; with a third one they are capped to
24.9999999999999984. The buy is lost at a threshold of 25, a sell appears five points ahead, and the first sum was over
the cap. -/
theorem more_evidence_takes :
    let structure_ := reading "STRUCTURE" .buy
    let two := [structure_ (15 / 100), structure_ (15 / 100)]
    let three := two ++ [structure_ (6 / 100)]
    let sell := reading "MOMENTUM" .sell (30 / 100)
    let score evidence := scoreDirectionWithThresholds (applyFamilyCaps evidence) 25 40 0
    (score three).longScore < (score two).longScore ∧
      (score two).direction = .buy ∧ (score three).direction = .noTrade ∧
      (score (sell :: two)).direction = .noTrade ∧ (score (sell :: three)).direction = .sell ∧
      25 / 100 < exactSum "STRUCTURE" (applyFamilyCaps two) := by
  decide +kernel

/-- Evidence of one family is ordinary if that family's sum is. -/
theorem ordinary_of_one {evidence : List EvidenceContribution} (pillar : String)
    (hnormal : ∀ x ∈ evidence, Normal x.contribution) (hall : ∀ x ∈ evidence, x.pillar = pillar)
    (hfinite : familySum pillar evidence < 2 ^ 1000) : Ordinary evidence where
  normal := hnormal
  finite pillar' := by
    by_cases hp : pillar' = pillar
    · rw [hp]
      exact hfinite
    · have hnone : evidence.filter (·.pillar == pillar') = [] := by
        rw [List.filter_eq_nil_iff]
        intro x hx
        rw [hall x hx]
        simpa using Ne.symm hp
      unfold familySum
      rw [hnone]
      exact pow_pos (by norm_num) 1000

/-- Into a family over its cap, between a BUY and a SELL. -/
theorem trend_monotone :
    let before := scoreDirectionWithThresholds
      (applyFamilyCaps ([reading "TREND" .buy (3 / 10)] ++ [reading "TREND" .sell (1 / 10)])) 10 25 0
    let after := scoreDirectionWithThresholds
      (applyFamilyCaps ([reading "TREND" .buy (3 / 10)] ++
        reading "TREND" .buy (2 / 10) :: [reading "TREND" .sell (1 / 10)])) 10 25 0
    before.longScore / spread ^ 11 ≤ after.longScore ∧ after.shortScore ≤ before.shortScore ∧
      before.direction = .buy ∧ after.direction = .buy := by
  have hordinary : Ordinary ([reading "TREND" .buy (3 / 10)] ++
      reading "TREND" .buy (2 / 10) :: [reading "TREND" .sell (1 / 10)]) :=
    ordinary_of_one "TREND" (by decide +kernel) (by decide) (by decide +kernel)
  obtain ⟨hown, hother, hstays, -⟩ := (evidence_monotone [reading "TREND" .buy (3 / 10)]
    [reading "TREND" .sell (1 / 10)] (reading "TREND" .buy (2 / 10)) 10 25 hordinary).1 rfl
  have hkeeps : keeps ([reading "TREND" .buy (3 / 10)] ++
      reading "TREND" .buy (2 / 10) :: [reading "TREND" .sell (1 / 10)]) "TREND" = 1 / spread ^ 11 := by
    decide +kernel
  have hbuy : (scoreDirectionWithThresholds (applyFamilyCaps ([reading "TREND" .buy (3 / 10)] ++
      [reading "TREND" .sell (1 / 10)])) 10 25 0).direction = .buy := by decide +kernel
  refine ⟨?_, hother, hbuy, hstays hbuy (Or.inr (by decide +kernel))⟩
  rw [div_eq_mul_one_div, ← hkeeps]
  exact hown

end PredictATrade.Realtime.Strategy
