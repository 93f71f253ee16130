import PredictATrade.Auth.Sweeps

/-!
# `Auth.Families` — token families

A family has at most one live session, in every state of every run (`families_once`). That a family
is dead for good once a reuse detection of it has committed holds of the runs in which no rotation
of the family commits while the detection is under way (`families`): the detection's `UPDATE` does not
see the row that such a rotation inserts (`rotation_survives_reuse`).
-/

namespace PredictATrade.Auth

open Lib.ReadCommitted Lib.Runs

namespace State

variable {env : Env} {s s₀ : State} {c c' : CallId} {p : Call} {f : ℕ} {i : Input}

/-! ## What is claimed -/

/-- A family has at most one live session. -/
def OneLive (s : State) : Prop :=
  ∀ f i j, Live (s.sessions i).committed f → Live (s.sessions j).committed f → i = j

/-- The family whose reuse detection the step commits. -/
def reuseCommitted (s : State) : Input → Option ℕ
  | .exec c _ =>
    match s.calls c with
    | some (.sweep (.family f) [] _) => some f
    | _ => none
  | _ => none

/-- The step commits a rotation in a family while a reuse detection of the family is between its
snapshot and its commit. -/
def Overtakes (s : State) (i : Input) : Prop :=
  ∃ c pick session user new f, i = .exec c pick ∧
    s.calls c = some (.rotateCommit session user new f) ∧
    ∃ c' todo after, s.calls c' = some (.sweep (.family f) todo after)

/-! ## Families in the hands of calls -/

/-- No committed row, and no call but `c`, has the family. -/
structure Unborn (s : State) (c : CallId) (f : ℕ) : Prop where
  rows : ∀ k r, (s.sessions k).committed = some r → r.tokenFamily ≠ some f
  calls : ∀ c' p, c' ≠ c → s.calls c' = some p → p.familyOf ≠ some f

/-- A rotation commits into the family of the row that it replaces, or, if that row has none, into
one that nobody else knows. -/
def Born (s : State) : Prop :=
  ∀ c k u new f, s.calls c = some (.rotateCommit k u new f) →
    Live (s.sessions k).committed f ∨ (f < s.next ∧ Unborn s c f)

/-- Where a call has its family from: it had it, or from a committed row, or it is new. -/
theorem familyOf_step (h : s.SessionInv) {p' : Call} (h' : (s.step env i).calls c = some p')
    (hf : p'.familyOf = some f) :
    (∃ p, s.calls c = some p ∧ p.familyOf = some f) ∨
      (∃ k r, (s.sessions k).committed = some r ∧ r.tokenFamily = some f) ∨ f = s.next + 2 := by
  rcases step_follows h' with ⟨hsame, -⟩ | ⟨-, -, hstart⟩ | rfl | ⟨pick, p, -, hp, hfollows⟩
  · exact Or.inl ⟨p', hsame, hf⟩
  · rw [plain_familyOf (starts_plain hstart)] at hf
    cases hf
  · cases hf
  · cases hfollows with
    | next hnext =>
        cases hnext with
        | scan query after =>
            refine Or.inl ⟨_, hp, ?_⟩
            cases query <;> exact hf
        | _ => cases hf
    | @refreshLock _ session _ _ r _ hfree hview htoken huser hlocked =>
        cases hlocked with
        | reuse hrev hfam =>
            refine Or.inr (Or.inl ⟨session, r, ?_, ?_⟩)
            · rw [← view_of_holdsNone (h.holdsNone hp fun _ _ _ => id) session, hview]
            · rw [hfam]
              exact hf
        | _ => cases hf
    | @rotateInsert session user family new f' hnew hfam =>
        have hff : f' = f := Option.some.inj hf
        rw [hff] at hfam
        cases family with
        | none => exact Or.inr (Or.inr hfam)
        | some f₀ =>
            obtain ⟨v, hv⟩ := h.locks c _ session hp rfl
            obtain ⟨-, ⟨r, hr, -, hrf, -⟩, -⟩ := h.holding hp hv
            refine Or.inr (Or.inl ⟨session, r, hr, ?_⟩)
            rw [hrf, hfam]
            rfl
    | @sweepRow query todo todo' after pick hpick htodo =>
        refine Or.inl ⟨_, hp, ?_⟩
        cases query <;> exact hf
    | _ => cases hf

/-- Where the family of a committed row has come from. -/
theorem row_step (h : s.SessionInv) {k : SessionId} {r : Session}
    (hr : ((s.step env i).sessions k).committed = some r) (hf : r.tokenFamily = some f) :
    (∃ r₀, (s.sessions k).committed = some r₀ ∧ r₀.tokenFamily = some f) ∨ f = s.next + 2 ∨
      ∃ c session user, i.actor = some c ∧ s.calls c = some (.rotateCommit session user k f) := by
  rcases (step_effect env h i).change k with hfades | ⟨c, user, origin, -, -, -, hv⟩ |
    ⟨c, session, user, f', ha, hc, -, hv⟩
  · obtain ⟨r₀, hr₀, hf₀⟩ := hfades.family hr
    exact Or.inl ⟨r₀, hr₀, hf₀.trans hf⟩
  · obtain ⟨r', hr', -, hf', -⟩ := hv
    rw [hr, Option.some.injEq] at hr'
    rw [← hr', hf, Option.some.injEq] at hf'
    exact Or.inr (Or.inl hf')
  · obtain ⟨r', hr', -, hf', -⟩ := hv
    rw [hr, Option.some.injEq] at hr'
    rw [← hr', hf, Option.some.injEq] at hf'
    rw [← hf'] at hc
    exact Or.inr (Or.inr ⟨c, session, user, ha, hc⟩)

/-- A family that only one call has stays with that call while the others take their steps. -/
theorem unborn_step (h : s.SessionInv) (hf : f < s.next) (hu : Unborn s c f)
    (hactor : i.actor ≠ some c) : Unborn (s.step env i) c f := by
  constructor
  · intro k r hr hrf
    rcases row_step h hr hrf with ⟨r₀, hr₀, hf₀⟩ | hnew | ⟨c', session, user, ha, hc'⟩
    · exact hu.rows k r₀ hr₀ hf₀
    · omega
    · have hne : c' ≠ c := by
        rintro rfl
        exact hactor ha
      exact hu.calls c' _ hne hc' rfl
  · intro c' p' hne hp' hpf
    rcases familyOf_step h hp' hpf with ⟨p, hp, hpf⟩ | ⟨k, r, hr, hrf⟩ | hnew
    · exact hu.calls c' p hne hp hpf
    · exact hu.rows k r hr hrf
    · omega

/-- **Step.** A rotation commits into a family that is live, or its own. -/
theorem born_step (h : s.SessionInv) (hb : Born s) : Born (s.step env i) := by
  intro c k u new f hc
  have heffect := step_effect env h i
  rcases rotateCommit_step hc with ⟨hsame, hidle⟩ | ⟨family, pick, rfl, hp, -, hfam⟩
  · rcases hidle with hactor | hidle
    · rcases hb c k u new f hsame with hlive | ⟨hf, hu⟩
      · obtain ⟨v, hv⟩ := h.locks c _ k hsame rfl
        rw [heffect.kept k c v hactor hv]
        exact Or.inl hlive
      · exact Or.inr ⟨Nat.lt_of_lt_of_le hf heffect.next, unborn_step h hf hu hactor⟩
    · rw [hidle]
      exact hb c k u new f hsame
  · obtain ⟨v, hv⟩ := h.locks c _ k hp rfl
    obtain ⟨-, ⟨r, hr, -, hrf, hrev⟩, -⟩ := h.holding hp hv
    have hcommitted : ∀ j, ((s.step env (.exec c pick)).sessions j).committed =
        (s.sessions j).committed := by
      intro j
      rw [step_exec hp]
      exact write_committed
    cases family with
    | some f₀ =>
        left
        rw [hcommitted k, hfam]
        exact ⟨r, hr, hrf, hrev⟩
    | none =>
        right
        have hbig : f = s.next + 2 := hfam
        have hnext : (s.step env (.exec c pick)).next = s.next + 3 := by
          rw [step_exec hp]
          rfl
        refine ⟨by omega, ?_, ?_⟩
        · intro j r' hr' hf'
          rw [hcommitted j] at hr'
          have := h.family j r' f hr' hf'
          omega
        · intro c' p' hne hp' hpf
          have hactor : (Input.exec c pick).actor ≠ some c' := fun he =>
            hne (Option.some.inj he).symm
          rw [step_calls_of_ne hactor] at hp'
          have := h.bound c' p' f hp' hpf
          omega

/-! ## Closed families -/

/-- No session of the family is live, and no call is about to change that. -/
structure Closed (s : State) (f : ℕ) : Prop where
  bound : f < s.next
  dead : ∀ k, ¬ Live (s.sessions k).committed f
  alone : ∀ c k u new, s.calls c ≠ some (.rotateCommit k u new f)

/-- **Step.** A closed family stays closed. -/
theorem closed_step (h : s.SessionInv) (hcl : Closed s f) : Closed (s.step env i) f := by
  have heffect := step_effect env h i
  refine ⟨Nat.lt_of_lt_of_le hcl.bound heffect.next, ?_, ?_⟩
  · intro k hl
    rcases heffect.change k with hfades | ⟨c, user, origin, -, -, -, hv⟩ |
      ⟨c, session, user, f', -, hc, -, hv⟩
    · exact hcl.dead k (hfades.live hl)
    · have hff := hv.family_eq hl
      have := hcl.bound
      omega
    · have hff := hv.family_eq hl
      rw [← hff] at hc
      exact hcl.alone c session user k hc
  · intro c k u new hc
    rcases rotateCommit_step hc with ⟨hsame, -⟩ | ⟨family, pick, -, hp, -, hfam⟩
    · exact hcl.alone c k u new hsame
    · obtain ⟨v, hv⟩ := h.locks c _ k hp rfl
      obtain ⟨-, ⟨r, hr, -, hrf, hrev⟩, -⟩ := h.holding hp hv
      cases family with
      | some f₀ =>
          rw [hfam] at hcl
          exact hcl.dead k ⟨r, hr, hrf, hrev⟩
      | none =>
          have hbig : f = s.next + 2 := hfam
          have := hcl.bound
          omega

/-! ## Reuse detections under way -/

/-- A reuse detection between its snapshot and its commit reaches every row. -/
def Swept (s : State) : Prop :=
  ∀ c f todo after, s.calls c = some (.sweep (.family f) todo after) →
    ∀ k, Reaches s c (.family f) todo k

theorem matches_family {r : Session} :
    (SessionQuery.family f).matches r = true ↔ r.tokenFamily = some f ∧ r.revokedAt = none := by
  simp [SessionQuery.matches]

/-- A row of another family is nothing to the detection. -/
theorem reaches_of_rotates {k : SessionId} {todo : List SessionId} {user : UserId} {f' : ℕ}
    (hv : Rotates (s.sessions k).committed user (some f')) (hne : f' ≠ f) :
    Reaches s c (.family f) todo k := by
  intro r hr hm
  obtain ⟨hrf, hrev⟩ := matches_family.mp hm
  exact absurd (hv.family_eq ⟨r, hr, hrf, hrev⟩).symm hne

/-- **Step.** A sweep goes on reaching every row, unless a rotation overtakes it. -/
theorem swept_step (h : s.SessionInv) (hs : Swept s) (hno : ¬ Overtakes s i) :
    Swept (s.step env i) := by
  intro c f todo after hc k
  rcases (step_effect env h i).change k with hfades | ⟨c₁, user, origin, ha, hc₁, -, hv⟩ |
    ⟨c₁, session, user, f', ha, hc₁, hnone, hv⟩
  · rcases reaches_step h hc hfades with ⟨-, hr⟩ | ⟨todo', hc', hr⟩
    · exact hr
    · exact hr (hs c f todo' after hc' k)
  · -- a new session has a new family
    refine reaches_of_rotates hv ?_
    have hbound : f < s.next := by
      rcases sweep_step hc with ⟨hc', -⟩ | ⟨todo', hc'⟩
      · exact h.bound c _ f hc' rfl
      · exact h.bound c _ f hc' rfl
    omega
  · refine reaches_of_rotates hv ?_
    rintro rfl
    rcases sweep_step hc with ⟨hc', hactor⟩ | ⟨todo', hc'⟩
    · rw [hactor, Option.some.injEq] at ha
      rw [← ha, hc'] at hc₁
      cases hc₁
    · -- the rotation overtakes the detection
      by_cases hi : ∃ c pick, i = .exec c pick
      · obtain ⟨c₂, pick, rfl⟩ := hi
        rw [show c₂ = c₁ from Option.some.inj ha] at hno
        exact hno ⟨c₁, pick, session, user, k, f', rfl, hc₁, c, todo', after, hc'⟩
      · rw [committed_of_not_exec fun c pick he => hi ⟨c, pick, he⟩, hnone] at hv
        obtain ⟨r, hr, -⟩ := hv
        cases hr

/-- **The commit of a reuse detection** closes the family. -/
theorem closed_of_commit (h : s.SessionInv) (hb : Born s) (hs : Swept s)
    (hf : reuseCommitted s i = some f) : Closed (s.step env i) f := by
  have hcommit : ∃ c pick after, i = .exec c pick ∧
      s.calls c = some (.sweep (.family f) [] after) := by
    unfold reuseCommitted at hf
    split at hf
    · rename_i c pick
      split at hf
      · rename_i f' after hc
        rw [Option.some.injEq] at hf
        subst hf
        exact ⟨c, pick, after, rfl, hc⟩
      · cases hf
    · cases hf
  obtain ⟨c, pick, after, rfl, hc⟩ := hcommit
  have heffect := step_effect env h (.exec c pick)
  have hsessions : (s.step env (.exec c pick)).sessions = s.sessions.commit c := by
    rw [step_exec hc]
    cases after <;> rfl
  refine ⟨Nat.lt_of_lt_of_le (h.bound c _ f hc rfl) heffect.next, ?_, ?_⟩
  · intro k hl
    have hfades : Fades (s.sessions k).committed
        ((s.step env (.exec c pick)).sessions k).committed := by
      rcases heffect.change k with hfades | ⟨c₁, user, origin, ha, hc₁, -, -⟩ |
        ⟨c₁, session, user, f', ha, hc₁, -, -⟩
      · exact hfades
      · rw [← Option.some.inj ha, hc] at hc₁
        cases hc₁
      · rw [← Option.some.inj ha, hc] at hc₁
        cases hc₁
    obtain ⟨r, hr, hrf, hrev⟩ := hl
    have hno := (hs c f [] after hc k).commit hsessions hfades hr
    rw [matches_family.mpr ⟨hrf, hrev⟩] at hno
    cases hno
  · intro c' k u new hc'
    rcases rotateCommit_step hc' with ⟨hsame, -⟩ | ⟨family, pick', he, hp, -, -⟩
    · have hne : c ≠ c' := by
        rintro rfl
        rw [hc] at hsame
        cases hsame
      rcases hb c' k u new f hsame with hlive | ⟨-, hunborn⟩
      · -- the row that the rotation replaces is held by it, not by the detection
        obtain ⟨r, hr, hrf, hrev⟩ := hlive
        obtain ⟨v, hv⟩ := h.locks c' _ k hsame rfl
        rcases hs c f [] after hc k r hr (matches_family.mpr ⟨hrf, hrev⟩) with hmem | ⟨v', hv', -⟩
        · cases hmem
        · rw [hv, Option.some.injEq] at hv'
          exact hne (congrArg Prod.fst hv').symm
      · exact hunborn.calls c _ hne hc rfl
    · injection he with hcc
      rw [← hcc, hc] at hp
      cases hp

/-! ## Runs -/

/-- At most one session of a family is live, in every state of every run. -/
theorem families_once (env : Env) (h : Quiescent s₀) (is : List Input) :
    OneLive (run (State.step env) s₀ is) := (sessionInv_run env h is).once

/-- Every run in which no rotation overtakes a reuse detection of its family. -/
theorem closed_run (env : Env) (h : Quiescent s₀) {is : List Input}
    (hp : Along (State.step env) (fun s i => ¬ Overtakes s i) s₀ is) :
    ∀ f ∈ trace (State.step env) reuseCommitted s₀ is, Closed (run (State.step env) s₀ is) f := by
  suffices hJ : (run (State.step env) s₀ is).SessionInv ∧ Born (run (State.step env) s₀ is) ∧
      Swept (run (State.step env) s₀ is) ∧
      ∀ f ∈ [] ++ trace (State.step env) reuseCommitted s₀ is,
        Closed (run (State.step env) s₀ is) f from hJ.2.2.2
  refine traced
    (J := fun s shown => s.SessionInv ∧ Born s ∧ Swept s ∧ ∀ f ∈ shown, Closed s f) ?_ ?_ hp
  · rintro s i shown ⟨hi, hb, hs, hcl⟩ hno
    refine ⟨(step_effect env hi i).inv, born_step hi hb, swept_step hi hs hno, ?_⟩
    intro f hf
    rcases List.mem_append.mp hf with hold | hnew
    · exact closed_step hi (hcl f hold)
    · exact closed_of_commit hi hb hs (Option.mem_toList.mp hnew)
  · refine ⟨sessionInv_of_quiescent h, ?_, ?_, fun f hf => nomatch hf⟩
    · intro c k u new f hc
      rw [h.calls c] at hc
      cases hc
    · intro c f todo after hc
      rw [h.calls c] at hc
      cases hc

/-- **Families.** At most one session of a family is live, in every state of every run. In a run in
which no rotation overtakes a reuse detection of its family, no session of a family is live once a
reuse detection of it has committed. -/
theorem families (env : Env) (h : Quiescent s₀) (is : List Input) :
    Throughout (State.step env) OneLive s₀ is ∧
      (Along (State.step env) (fun s i => ¬ Overtakes s i) s₀ is →
        ∀ pre, pre <+: is → ∀ f ∈ trace (State.step env) reuseCommitted s₀ pre,
          ∀ k, ¬ Live ((run (State.step env) s₀ pre).sessions k).committed f) := by
  constructor
  · intro pre _
    exact families_once env h pre
  · rintro hp pre ⟨post, rfl⟩ f hf
    exact (closed_run env h (along_append.mp hp).1 f hf).dead

/-- No rotation commits. -/
def CommitsNoRotation (s : State) : Input → Bool
  | .exec c _ =>
    match s.calls c with
    | some (.rotateCommit ..) => false
    | _ => true
  | _ => true

theorem not_overtakes (h : CommitsNoRotation s i = true) : ¬ Overtakes s i := by
  rintro ⟨c, pick, session, user, new, f, rfl, hc, -⟩
  unfold CommitsNoRotation at h
  simp only [hc] at h
  cases h

/-- A user registers and logs out; then the token of the session is presented again. -/
def reuseRun : List Input :=
  [.call 0 (.register true "user" "password")] ++ execs 0 [0, 0, 0] ++
  [.call 1 (.logout 0 (some 2))] ++ execs 1 [0, 1, 0] ++
  [.call 2 (.refresh 2)] ++ execs 2 [0, 0, 0, 0]

/-- The reuse of a token closes its family. -/
theorem families_reuseRun :
    3 ∈ trace (State.step Env.transparent) reuseCommitted {} reuseRun ∧
      ¬ Live ((run (State.step Env.transparent) {} reuseRun).sessions 1).committed 3 := by
  have hreuse : 3 ∈ trace (State.step Env.transparent) reuseCommitted {} reuseRun := by
    decide +kernel
  have hcalm : Along (State.step Env.transparent) (fun s i => CommitsNoRotation s i = true) {}
      reuseRun := by
    decide +kernel
  exact ⟨hreuse, (families Env.transparent quiescent_empty reuseRun).2
    (hcalm.imp fun _ _ => not_overtakes) reuseRun List.prefix_rfl 3 hreuse 1⟩

/-- A user registers, the account is approved and the session is rotated once. Call 2 rotates it
again, and before its commit call 3 presents the first token, which has been rotated already. -/
def overtakingRun : List Input :=
  [.call 0 (.register true "user" "password")] ++ execs 0 [0, 0, 0] ++ [.setStatus 0 .active] ++
  [.call 1 (.refresh 2)] ++ execs 1 [0, 0, 0, 0, 0] ++
  [.call 2 (.refresh 5)] ++ execs 2 [0, 0, 0, 0] ++
  [.call 3 (.refresh 2)] ++ execs 3 [0, 0, 0] ++
  execs 2 [0] ++ execs 3 [4, 0]

/-- A rotation that overtakes the sweep leaves a session of the family behind. -/
theorem rotation_survives_reuse :
    Quiescent {} ∧
      3 ∈ trace (State.step Env.transparent) reuseCommitted {} overtakingRun ∧
      Live ((run (State.step Env.transparent) {} overtakingRun).sessions 7).committed 3 := by
  refine ⟨quiescent_empty, by decide +kernel, ⟨0, 8, some 3, refreshTokenExpiry, none⟩, ?_, rfl, rfl⟩
  decide +kernel

end State

end PredictATrade.Auth
