import PredictATrade.DeviceAuth.TokenFlow

/-!
# `DeviceAuth.TokenFamilies` — one live token for a family, and none after a reuse

A family has at most one live token in every state of every run (`one_live_run`). That no token of a
family is accepted once a reuse of it has been answered holds of the runs in which no rotation of the
family commits while the reuse is revoking the family (`token_families`): such a rotation inserts a
row that the `UPDATE` of the reuse does not see (`successor_survives`).
-/

namespace PredictATrade.DeviceAuth.Tokens

open Lib.ReadCommitted Lib.Runs

/-- The call that takes the step. -/
def Input.actor : Input → Option CallId
  | .time _ => none
  | .begin c _ | .exec c _ | .abort c => some c

namespace State

variable {s s' s₀ : State} {c c' : CallId} {k : TokenHash} {p p' : Call} {i : Input} {f : Id}

/-! ## What is claimed -/

/-- The family of the token that the step accepts. -/
def accepted (s : State) : Input → Option Id
  | .exec c _ =>
    match s.calls c with
    | some (.rotateCommit token _) => some token.tokenFamily
    | _ => none
  | _ => none

/-- The family whose reuse the step answers. -/
def reuseAnswered (s : State) : Input → Option Id
  | .exec c _ =>
    match s.calls c with
    | some (.reuseSweep token []) => some token.tokenFamily
    | _ => none
  | _ => none

/-- The step commits a rotation while a reuse is revoking the family. -/
def Overtakes (s : State) (i : Input) : Prop :=
  ∃ c pick token drawn, i = .exec c pick ∧ s.calls c = some (.rotateCommit token drawn) ∧
    ∃ c' token' todo, s.calls c' = some (.reuseSweep token' todo) ∧
      token'.tokenFamily = token.tokenFamily

/-- **Token families.** A family has at most one live token at any time, and none of its tokens is
accepted after a reuse of it has been answered. -/
structure Families (s₀ : State) (is : List Input) : Prop where
  once : Throughout step OneLive s₀ is
  dead : ∀ pre i mid j post f, is = pre ++ i :: (mid ++ j :: post) →
    reuseAnswered (run step s₀ pre) i = some f →
    accepted (run step s₀ (pre ++ i :: mid)) j ≠ some f

/-! ## What one step touches -/

/-- What a step of the call `a` makes of the table. -/
inductive Touches (s : State) (a : Option CallId) :
    Table TokenHash RefreshToken CallId → Prop where
  | same : Touches s a s.tokens
  | write (c : CallId) (k : TokenHash) (v : Option RefreshToken) (ha : a = some c)
      (hfree : ∀ c' v, (s.tokens k).held = some (c', v) → c' = c) :
      Touches s a (s.tokens.write c k v)
  | commit (c : CallId) (p : Call) (ha : a = some c) (hc : s.calls c = some p) :
      Touches s a (s.tokens.commit c)
  | rollback (c : CallId) (ha : a = some c) : Touches s a (s.tokens.rollback c)

/-- A row is free for a call when no other holds it. -/
theorem free_iff {x : Slot RefreshToken CallId} :
    x.free c = true ↔ ∀ c' v, x.held = some (c', v) → c' = c := by
  constructor
  · intro h c' v hh
    exact (free_of_held hh).mp h
  · intro h
    unfold Slot.free
    cases hh : x.held with
    | none => rfl
    | some y => exact decide_eq_true (h y.1 y.2 hh)

theorem advance_touches (hi : s.Inv) (hcall : s.calls c = some p) (pick : TokenHash) :
    Touches s (some c) (s.advance c pick p).tokens := by
  have hnext : ∀ c' v, (s.tokens s.next).held = some (c', v) → c' = c := by
    intro c' v h
    rw [hi.next_empty] at h
    cases h
  cases p with
  | done answer => exact .same
  | activateInsert deviceId => exact .write c _ _ rfl hnext
  | activateCommit token => exact .commit c _ rfl hcall
  | lookup h deviceId =>
      show Touches s (some c) (s.advanceLookup c h deviceId).tokens
      unfold advanceLookup
      cases (s.tokens h).committed with
      | none => exact .same
      | some token =>
          by_cases hfree : (s.tokens h).free c = true
          · simp only [hfree, if_true]
            split_ifs
            · exact .write c h _ rfl (free_iff.mp hfree)
            · exact .same
            · exact .same
            · exact .write c h _ rfl (free_iff.mp hfree)
          · simp only [hfree]
            exact .same
  | reuseScan token => exact .same
  | reuseSweep token todo =>
      simp only [advance]
      split_ifs with hdone hpick
      · exact .commit c _ rfl hcall
      · show Touches s (some c) (s.tokens.sweepRow c _ _ pick)
        rcases sweep_cases s c pick token.tokenFamily with ⟨-, heq⟩ | ⟨t, -, -, heq⟩
        · rw [heq]; exact .same
        · rw [heq]; exact .write c pick _ rfl (free_iff.mp hpick.2)
      · exact .same
  | markUsed token =>
      obtain ⟨hslot, -⟩ := hi.owes c _ hcall
      refine .write c _ _ rfl fun c' v h => ?_
      rw [hslot, Option.some.injEq, Prod.mk.injEq] at h
      exact h.1.symm
  | insertSuccessor token => exact .write c _ _ rfl hnext
  | rotateCommit token drawn => exact .commit c _ rfl hcall

/-- A step touches the rows of its call. -/
theorem step_touches (hi : s.Inv) (i : Input) : Touches s i.actor (s.step i).tokens := by
  cases i with
  | time t => exact .same
  | begin c p =>
      simp only [step]
      split_ifs
      · exact .same
      · exact .same
  | exec c pick =>
      cases hc : s.calls c with
      | none => rw [step_exec_idle hc]; exact .same
      | some p => rw [step_exec hc]; exact advance_touches hi hc pick
  | abort c =>
      show Touches s (some c) (s.abort c).tokens
      rcases abort_cases s c with heq | heq
      · rw [heq]; exact .same
      · rw [heq]; exact .rollback c rfl

/-- What a call holds, the steps of the others leave alone. -/
theorem step_kept (hi : s.Inv) (ha : i.actor ≠ some c) {v : Option RefreshToken}
    (hheld : (s.tokens k).held = some (c, v)) : (s.step i).tokens k = s.tokens k := by
  have ht := step_touches hi i
  generalize (s.step i).tokens = tokens at ht ⊢
  cases ht with
  | same => rfl
  | write c' j w ha' hfree =>
      apply write_of_ne
      rintro rfl
      exact ha (ha'.trans (congrArg some (hfree c v hheld).symm))
  | commit c' p ha' hc => exact commit_of_other hheld fun h => ha (h ▸ ha')
  | rollback c' ha' => exact rollback_of_other hheld fun h => ha (h ▸ ha')

/-- What a step does to a row. -/
theorem step_change (hi : s.Inv) (i : Input) (k : TokenHash) :
    Change s i.actor k ((s.step i).tokens k).committed := by
  have ht := step_touches hi i
  generalize (s.step i).tokens = tokens at ht ⊢
  cases ht with
  | same => exact .same rfl
  | write c j w ha hfree => exact .same write_committed
  | commit c p ha hc => exact ha ▸ commit_change hi hc k
  | rollback c ha => exact .same rollback_committed

theorem goto_calls_of_ne (h : c' ≠ c) : (s.goto c p).calls c' = s.calls c' :=
  Function.update_of_ne h _ _

theorem advance_calls (hne : c' ≠ c) (pick : TokenHash) :
    (s.advance c pick p).calls c' = s.calls c' := by
  cases p with
  | done answer => rfl
  | lookup h deviceId =>
      show (s.advanceLookup c h deviceId).calls c' = _
      unfold advanceLookup
      cases (s.tokens h).committed with
      | none => exact goto_calls_of_ne hne
      | some token =>
          dsimp only
          split_ifs
          · exact goto_calls_of_ne hne
          · exact goto_calls_of_ne hne
          · exact goto_calls_of_ne hne
          · exact goto_calls_of_ne hne
          · rfl
  | reuseSweep token todo =>
      simp only [advance]
      split_ifs
      · exact goto_calls_of_ne hne
      · exact goto_calls_of_ne hne
      · rfl
  | _ => exact goto_calls_of_ne hne

/-- A call moves by its own steps only. -/
theorem step_calls (ha : i.actor ≠ some c) : (s.step i).calls c = s.calls c := by
  cases i with
  | time t => rfl
  | begin c' p =>
      have hne : c ≠ c' := fun h => ha (congrArg some h.symm)
      simp only [step]
      split_ifs
      · exact goto_calls_of_ne hne
      · rfl
  | exec c' pick =>
      have hne : c ≠ c' := fun h => ha (congrArg some h.symm)
      cases hc : s.calls c' with
      | none => rw [step_exec_idle hc]
      | some p => rw [step_exec hc]; exact advance_calls hne pick
  | abort c' =>
      have hne : c ≠ c' := fun h => ha (congrArg some h.symm)
      show (s.abort c').calls c = _
      rcases abort_cases s c' with heq | heq
      · rw [heq]
      · rw [heq]; exact goto_calls_of_ne hne

/-! ## Families that are closed -/

/-- The family is known, and none of its rows is live. -/
structure Closed (s : State) (f : Id) : Prop where
  known : ∃ root, (s.tokens f).committed = some root
  rows : ∀ k, ¬ Live (s.tokens k).committed f

/-- A rotation in hand has a live row of its family. -/
theorem rotation_live (hi : s.Inv) {token drawn : RefreshToken}
    (hc : s.calls c = some (.rotateCommit token drawn)) :
    Live (s.tokens token.tokenHash).committed token.tokenFamily := by
  obtain ⟨⟨now, hslot⟩, hu, -⟩ := hi.owes c _ hc
  exact ⟨token, by rw [hslot], rfl, hu⟩

/-- **Step.** A closed family stays closed. -/
theorem closed_step (hi : s.Inv) (hf : Closed s f) (i : Input) : Closed (s.step i) f := by
  constructor
  · obtain ⟨root, hroot⟩ := hf.known
    exact ((step_change hi i f).kept hroot).imp fun _ h => h.1
  · intro k hl
    rcases (step_change hi i k).live hl with ⟨hold, -⟩ | hb
    · exact hf.rows k hold
    · generalize i.actor = a at hb
      cases hb with
      | activated c token hc =>
          -- an activation commits into a family that nobody knows
          obtain ⟨hslot, hfam, -⟩ := hi.owes c _ hc
          obtain ⟨root, hroot⟩ := hf.known
          rw [hfam, hslot] at hroot
          cases hroot
      | rotated c token drawn hc =>
          obtain ⟨-, -, -, hfam, -⟩ := hi.owes c _ hc
          refine hf.rows token.tokenHash ?_
          rw [hfam]
          exact rotation_live hi hc

theorem Closed.not_accepted (hi : s.Inv) (hf : Closed s f) : accepted s i ≠ some f := by
  intro h
  cases i with
  | exec c pick =>
      simp only [accepted] at h
      split at h
      · rename_i token drawn hc
        obtain rfl := Option.some.inj h
        exact hf.rows _ (rotation_live hi hc)
      · cases h
  | time t => cases h
  | begin c p => cases h
  | abort c => cases h

/-! ## The reach of a reuse -/

/-- Each reuse that is revoking its family reaches all rows of it. -/
def Swept (s : State) : Prop :=
  ∀ c token todo, s.calls c = some (.reuseSweep token todo) → ∀ k,
    Reaches s.tokens c (inFamily token.tokenFamily) todo k

theorem revokedAt_not_inFamily {now : Time} {t t' : RefreshToken}
    (h : some (revokedAt now t) = some t') : inFamily f t' = false := by
  obtain rfl := Option.some.inj h
  simp [inFamily, revokedAt]

theorem inFamily_family {t : RefreshToken} (h : inFamily f t = true) : t.tokenFamily = f := by
  simp only [inFamily, Bool.and_eq_true, beq_iff_eq] at h
  exact h.1

/-- The steps of others do not take a row out of the reach of a reuse, unless they overtake it. -/
theorem Swept.others (hi : s.Inv) (hs : Swept s) (hno : ¬ Overtakes s i)
    (ha : i.actor ≠ some c) {token : RefreshToken} {todo : List TokenHash}
    (hc : s.calls c = some (.reuseSweep token todo)) (k : TokenHash) :
    Reaches (s.step i).tokens c (inFamily token.tokenFamily) todo k := by
  refine (hs c token todo hc k).others (fun v hv => by rw [step_kept hi ha hv, hv]) ?_
  intro t' ht' hp
  have hchange := step_change hi i k
  rw [ht'] at hchange
  cases hchange with
  | same hv => exact ⟨t', hv.symm, hp⟩
  | spent t₀ t₁ ht₀ hv hsp =>
      obtain rfl := Option.some.inj hv
      exact ⟨t₀, ht₀, hsp.inFamily hp⟩
  | activated c' token' _ hc' hk hnone hv =>
      obtain rfl := Option.some.inj hv
      obtain ⟨hslot', hfam', -⟩ := hi.owes c' _ hc'
      obtain ⟨v, hslot⟩ := hi.owes c _ hc
      obtain ⟨-, -, root, hroot⟩ := hi.row token.tokenHash token (by rw [hslot])
      rw [← inFamily_family hp, hfam', hslot'] at hroot
      cases hroot
  | rotated c' token' drawn hac hc' hk hnone hv =>
      obtain rfl := Option.some.inj hv
      obtain ⟨-, -, -, hfam', -⟩ := hi.owes c' _ hc'
      refine absurd ?_ hno
      cases i with
      | exec c'' pick =>
          obtain rfl := Option.some.inj hac
          exact ⟨c'', pick, token', t', rfl, hc', c, token, todo, hc,
            (inFamily_family hp).symm.trans hfam'⟩
      | time t => cases hac
      | begin c'' p =>
          -- a call that begins commits nothing
          obtain rfl := Option.some.inj hac
          simp only [step] at ht'
          split_ifs at ht'
          · exact absurd (hnone.symm.trans ht') (by simp)
          · exact absurd (hnone.symm.trans ht') (by simp)
      | abort c'' =>
          change ((s.abort c'').tokens k).committed = some t' at ht'
          rcases abort_cases s c'' with heq | heq
          · rw [heq, hnone] at ht'
            cases ht'
          · rw [heq] at ht'
            exact absurd (hnone.symm.trans (rollback_committed.symm.trans ht')) (by simp)

theorem goto_calls_self : (s.goto c p).calls c = some p := Function.update_self _ _ _

/-- Where a sweep of the call has come from: its snapshot, or the row before. -/
theorem advance_sweep (hcall : s.calls c = some p) {pick : TokenHash} {token : RefreshToken}
    {todo : List TokenHash} (h : (s.advance c pick p).calls c = some (.reuseSweep token todo)) :
    (p = .reuseScan token ∧ todo = s.tokens.scan c (inFamily token.tokenFamily) (List.range s.next) ∧
        (s.advance c pick p).tokens = s.tokens) ∨
      (∃ todo₀, p = .reuseSweep token todo₀ ∧ (s.tokens pick).free c = true ∧
        todo = todo₀.erase pick ∧ (s.advance c pick p).tokens =
          s.tokens.sweepRow c (inFamily token.tokenFamily)
            (fun t => some (revokedAt (s.began c) t)) pick) ∨
      s.advance c pick p = s := by
  cases p with
  | reuseScan token₀ =>
      obtain ⟨rfl, rfl⟩ := Call.reuseSweep.inj (Option.some.inj (goto_calls_self.symm.trans h))
      exact .inl ⟨rfl, rfl, rfl⟩
  | reuseSweep token₀ todo₀ =>
      simp only [advance] at h ⊢
      split_ifs at h ⊢ with hdone hpick
      · cases goto_calls_self.symm.trans h
      · obtain ⟨rfl, rfl⟩ := Call.reuseSweep.inj (Option.some.inj (goto_calls_self.symm.trans h))
        exact .inr (.inl ⟨todo₀, rfl, hpick.2, rfl, rfl⟩)
      · exact .inr (.inr rfl)
  | lookup h₀ deviceId =>
      change (s.advanceLookup c h₀ deviceId).calls c = _ at h
      unfold advanceLookup at h
      split at h
      · cases goto_calls_self.symm.trans h
      · split_ifs at h
        · cases goto_calls_self.symm.trans h
        · cases goto_calls_self.symm.trans h
        · cases goto_calls_self.symm.trans h
        · cases goto_calls_self.symm.trans h
        · cases hcall.symm.trans h
  | done answer => exact .inr (.inr rfl)
  | activateInsert deviceId => cases goto_calls_self.symm.trans h
  | activateCommit token₀ => cases goto_calls_self.symm.trans h
  | markUsed token₀ => cases goto_calls_self.symm.trans h
  | insertSuccessor token₀ => cases goto_calls_self.symm.trans h
  | rotateCommit token₀ drawn => cases goto_calls_self.symm.trans h

/-- **Step.** A reuse goes on reaching every row of its family, unless a rotation overtakes it. -/
theorem swept_step (hi : s.Inv) (hs : Swept s) (hno : ¬ Overtakes s i) : Swept (s.step i) := by
  intro c token todo hc k
  by_cases ha : i.actor = some c
  · cases i with
    | time t => cases ha
    | begin c' p =>
        obtain rfl := Option.some.inj ha
        simp only [step] at hc ⊢
        split_ifs at hc ⊢ with h
        · have hp : p = .reuseSweep token todo := Option.some.inj (goto_calls_self.symm.trans hc)
          rw [hp] at h
          exact h.2.elim
        · exact hs c' token todo hc k
    | exec c' pick =>
        obtain rfl := Option.some.inj ha
        cases hcall : s.calls c' with
        | none =>
            rw [step_exec_idle hcall] at hc
            cases hcall.symm.trans hc
        | some p =>
            rw [step_exec hcall] at hc ⊢
            rcases advance_sweep hcall hc with ⟨rfl, rfl, heq⟩ | ⟨todo₀, rfl, hfree, rfl, heq⟩ | heq
            · rw [heq]
              refine reaches_scan (fun t ht => List.mem_range.mpr (hi.row k t ht).2.1) ?_
              intro v hv
              obtain ⟨-, p, hp, hexp⟩ := hi.held k c' v hv
              obtain rfl := Option.some.inj (hcall.symm.trans hp)
              obtain ⟨t, ht, rfl⟩ := hexp
              exact ht.symm
            · rw [heq]
              exact (hs c' token todo₀ hcall k).sweepRow hfree fun t t' => revokedAt_not_inFamily
            · rw [heq] at hc ⊢
              exact hs c' token todo hc k
    | abort c' =>
        obtain rfl := Option.some.inj ha
        change (s.abort c').calls c' = _ at hc
        show Reaches (s.abort c').tokens c' _ todo k
        rcases abort_cases s c' with heq | heq
        · rw [heq] at hc ⊢
          exact hs c' token todo hc k
        · rw [heq] at hc
          cases goto_calls_self.symm.trans hc
  · rw [step_calls ha] at hc
    exact hs.others hi hno ha hc k

/-- A reuse that has revoked its family closes it. -/
theorem closed_of_answer (hi : s.Inv) (hs : Swept s) (h : reuseAnswered s i = some f) :
    Closed (s.step i) f := by
  cases i with
  | exec c pick =>
      simp only [reuseAnswered] at h
      split at h
      · rename_i token hc
        obtain rfl := Option.some.inj h
        have hcommit : (s.step (.exec c pick)).tokens = s.tokens.commit c := by
          rw [step_exec hc]
          rfl
        constructor
        · obtain ⟨v, hslot⟩ := hi.owes c _ hc
          obtain ⟨-, -, root, hroot⟩ := hi.row token.tokenHash token (by rw [hslot])
          exact ((step_change hi (.exec c pick) token.tokenFamily).kept hroot).imp fun _ h => h.1
        · rintro k ⟨t, ht, hf, hu⟩
          rw [hcommit] at ht
          have hmatch : inFamily token.tokenFamily t = true := by
            simp [inFamily, hf, hu.2]
          have hno := (hs c token [] hc k).commit ht fun v hv t' hv' hp => by
            obtain ⟨-, p, hp₀, hexp⟩ := hi.held k c v hv
            obtain rfl := Option.some.inj (hc.symm.trans hp₀)
            obtain ⟨t₀, ht₀, hown | ⟨now, hown⟩⟩ := hexp
            · obtain rfl := Option.some.inj (hown.symm.trans hv')
              exact ⟨t₀, ht₀, hp⟩
            · rw [revokedAt_not_inFamily (hown.symm.trans hv')] at hp
              cases hp
          rw [hmatch] at hno
          cases hno
      · cases h
  | time t => cases h
  | begin c p => cases h
  | abort c => cases h

/-! ## Runs -/

/-- A family has at most one live token, in every state of every run. -/
theorem one_live_run (now : Time) (is : List Input) : (run step (start now) is).Inv :=
  run_keeps (I := Inv) (fun _ i hi => step_inv hi i) (start_inv now) is

/-- **Run.** A reuse reaches every row of its family. -/
theorem swept_run {is : List Input} (hi : s.Inv) (hs : Swept s)
    (h : Along step (fun s i => ¬ Overtakes s i) s is) : Swept (run step s is) := by
  induction is generalizing s with
  | nil => exact hs
  | cons i is ih => exact ih (step_inv hi i) (swept_step hi hs h.1) h.2

/-- **Run.** A closed family stays closed. -/
theorem closed_run (hi : s.Inv) (hf : Closed s f) (is : List Input) :
    Closed (run step s is) f := by
  induction is generalizing s with
  | nil => exact hf
  | cons i is ih => exact ih (step_inv hi i) (closed_step hi hf i)

/-- **Token families.** In a run in which no rotation overtakes a reuse of its family, a family has
at most one live token at any time, and none of its tokens is accepted after a reuse of it has been
answered. (The first of the two holds of every run: `one_live_run`.) -/
theorem token_families (now : Time) (is : List Input)
    (h : Along step (fun s i => ¬ Overtakes s i) (start now) is) : Families (start now) is := by
  constructor
  · exact fun pre _ => (one_live_run now pre).one
  · rintro pre i mid j post f rfl hanswer
    have hi := one_live_run now pre
    have hswept := swept_run (start_inv now) (fun c token todo h => nomatch h)
      (along_append.mp h).1
    have hclosed := closed_of_answer hi hswept hanswer
    rw [run_append, run_cons]
    have hrest := closed_run (step_inv hi i) hclosed mid
    exact hrest.not_accepted (run_keeps (I := Inv) (fun _ i hi => step_inv hi i) (step_inv hi i) mid)

/-! ## Two runs -/

/-- The call is revoking a family. -/
def sweeping : Call → Bool
  | .reuseSweep _ _ => true
  | _ => false

/-- The step commits no rotation while a call below `n` is revoking a family. -/
def CalmBelow (n : ℕ) (s : State) : Input → Bool
  | .exec c _ =>
    match s.calls c with
    | some (.rotateCommit _ _) => (List.range n).all fun c' => !(s.calls c').any sweeping
    | _ => true
  | _ => true

theorem CalmBelow.not_overtakes {n : ℕ} (hidle : ∀ c, n ≤ c → s.calls c = none)
    (h : CalmBelow n s i = true) : ¬ Overtakes s i := by
  rintro ⟨c, pick, token, drawn, rfl, hc, c', token', todo, hc', -⟩
  simp only [CalmBelow, hc, List.all_eq_true, List.mem_range] at h
  rcases Nat.lt_or_ge c' n with hlt | hge
  · simpa [hc', sweeping] using h c' hlt
  · cases hc'.symm.trans (hidle c' hge)

/-- Where only calls below `n` take part, looking at these is enough. -/
theorem calm_of_below {n : ℕ} {is : List Input} (hidle : ∀ c, n ≤ c → s.calls c = none)
    (hacts : ∀ j ∈ is, ∀ c, j.actor = some c → c < n)
    (h : Along step (fun s i => CalmBelow n s i = true) s is) :
    Along step (fun s i => ¬ Overtakes s i) s is := by
  induction is generalizing s with
  | nil => trivial
  | cons i is ih =>
      refine ⟨CalmBelow.not_overtakes hidle h.1, ih ?_ ?_ h.2⟩
      · intro c hc
        rw [step_calls fun ha => Nat.not_lt.mpr hc (hacts i List.mem_cons_self c ha)]
        exact hidle c hc
      · exact fun j hj => hacts j (List.mem_cons_of_mem i hj)

/-- The call executes as many statements. -/
def execs (c : CallId) (picks : List TokenHash) : List Input := picks.map (.exec c)

/-- Device 1 is activated and its token rotated; then the first token is presented once more, and
after it the second. -/
def reuseRun : List Input :=
  [.begin 0 (.activateInsert 1)] ++ execs 0 [0, 0] ++
    [.begin 1 (.lookup 0 none)] ++ execs 1 [0, 0, 0, 0] ++
    [.begin 2 (.lookup 0 none)] ++ execs 2 [0, 0, 0, 1, 0] ++
    [.begin 3 (.lookup 1 none)] ++ execs 3 [0, 0, 0, 1, 0]

/-- A token that is used again closes its family. -/
theorem token_families_reuseRun :
    (run step (start 0) reuseRun).calls 1 = some (.done (.refreshed 1)) ∧
      (run step (start 0) reuseRun).calls 2 =
        some (.done (.refused "Session invalidated due to token reuse")) ∧
      Families (start 0) reuseRun := by
  have hcalm : Along step (fun s i => CalmBelow 4 s i = true) (start 0) reuseRun := by
    decide +kernel
  have hacts : ∀ j ∈ reuseRun, ∀ c, j.actor = some c → c < 4 := by decide +kernel
  exact ⟨by decide +kernel, by decide +kernel,
    token_families 0 reuseRun (calm_of_below (fun _ _ => rfl) hacts hcalm)⟩

/-- The token of device 1 is rotated twice. Before the second rotation commits, the first token is
presented once more, and its family revoked. -/
def overtakenRun : List Input :=
  [.begin 0 (.activateInsert 1)] ++ execs 0 [0, 0] ++
    [.begin 1 (.lookup 0 none)] ++ execs 1 [0, 0, 0, 0] ++
    [.begin 2 (.lookup 1 none)] ++ execs 2 [0, 0, 0] ++
    [.begin 3 (.lookup 0 none)] ++ execs 3 [0, 0] ++
    execs 2 [0] ++ execs 3 [0, 1]

/-- The successor that the rotation inserted is presented after the reuse has been answered. -/
def survivorRun : List Input := [.begin 4 (.lookup 2 none)] ++ execs 4 [0, 0, 0]

/-- A rotation that overtakes the sweep leaves a successor behind. -/
theorem successor_survives :
    ¬ Families (start 0) (overtakenRun ++ .exec 3 0 :: (survivorRun ++ [.exec 4 0])) := by
  intro h
  exact h.dead overtakenRun (.exec 3 0) survivorRun (.exec 4 0) [] 0 rfl
    (by decide +kernel) (by decide +kernel)

end State
end PredictATrade.DeviceAuth.Tokens
