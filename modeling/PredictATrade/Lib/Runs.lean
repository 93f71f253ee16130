import Mathlib.Data.List.Infix

/-!
# `Lib.Runs` — runs of a deterministic transition function

A *system* here is a function `step : σ → ι → σ`: a state, an input, the next state. A run is the
list of inputs taken, and everything said about a run is said about the states its prefixes reach.

The rules the rest of the development uses are

* `run_keeps`: what every step keeps, every run keeps;
* `traced`: an invariant of the state and of what the run has shown so far;
* `throughout_iff_along`: where one step from a good state stays good *exactly* when it is allowed,
  a run visits good states only exactly when each of its steps is allowed; `throughout_iff` is the
  same from any first state;
* `run_sim`: where each step is seen as at most one step of another system, a run is seen as a run of it;
* `run_view`: where each step touches the view of its own key only, runs that have the same inputs for a
  key leave the same view of it, however they mix the keys.

Nothing below names a particular system.
-/

namespace Lib.Runs

variable {σ ι ω : Type*} {step : σ → ι → σ} {I : σ → Prop} {P : σ → ι → Prop}

/-- The state reached by taking the inputs `is` one after the other. -/
def run (step : σ → ι → σ) (s : σ) (is : List ι) : σ := is.foldl step s

/-- Each input of the run is taken in a state in which `P` allows it. -/
def Along (step : σ → ι → σ) (P : σ → ι → Prop) : σ → List ι → Prop
  | _, [] => True
  | s, i :: is => P s i ∧ Along step P (step s i) is

instance decidableAlong [∀ s i, Decidable (P s i)] :
    ∀ (s : σ) (is : List ι), Decidable (Along step P s is)
  | _, [] => .isTrue trivial
  | s, i :: is =>
    have : Decidable (Along step P (step s i) is) := decidableAlong (step s i) is
    inferInstanceAs (Decidable (P s i ∧ Along step P (step s i) is))

/-- `I` holds in every state the run goes through, its first and its last included. -/
def Throughout (step : σ → ι → σ) (I : σ → Prop) (s : σ) (is : List ι) : Prop :=
  ∀ pre, pre <+: is → I (run step s pre)

/-- What a run shows of itself: the observations of its steps, in their order. -/
def trace (step : σ → ι → σ) (obs : σ → ι → Option ω) : σ → List ι → List ω
  | _, [] => []
  | s, i :: is => (obs s i).toList ++ trace step obs (step s i) is

/-- The states some run from an initial state reaches. -/
inductive Reachable (step : σ → ι → σ) (init : σ → Prop) : σ → Prop where
  | init {s : σ} (h : init s) : Reachable step init s
  | step {s : σ} (i : ι) (h : Reachable step init s) : Reachable step init (step s i)

/-! ## Unfolding a run -/

@[simp] theorem run_nil (s : σ) : run step s [] = s := rfl

@[simp] theorem run_cons (s : σ) (i : ι) (is : List ι) :
    run step s (i :: is) = run step (step s i) is := rfl

/-- A run goes on where the one before it has ended. -/
theorem run_append (s : σ) (is js : List ι) :
    run step s (is ++ js) = run step (run step s is) js := List.foldl_append

/-- A run is extended at its end by one step. -/
theorem run_snoc (s : σ) (is : List ι) (i : ι) :
    run step s (is ++ [i]) = step (run step s is) i := by
  rw [run_append, run_cons, run_nil]

theorem along_append {s : σ} {is js : List ι} :
    Along step P s (is ++ js) ↔ Along step P s is ∧ Along step P (run step s is) js := by
  induction is generalizing s with
  | nil => exact iff_of_eq (true_and _).symm
  | cons i is ih =>
      show P s i ∧ Along step P (step s i) (is ++ js) ↔ (P s i ∧ _) ∧ _
      rw [ih, and_assoc]
      rfl

theorem Along.imp {Q : σ → ι → Prop} (h : ∀ s i, P s i → Q s i) {s : σ} {is : List ι}
    (hp : Along step P s is) : Along step Q s is := by
  induction is generalizing s with
  | nil => trivial
  | cons i is ih => exact ⟨h s i hp.1, ih hp.2⟩

theorem along_and {Q : σ → ι → Prop} {s : σ} {is : List ι} :
    Along step (fun s i => P s i ∧ Q s i) s is ↔ Along step P s is ∧ Along step Q s is := by
  induction is generalizing s with
  | nil => exact iff_of_true trivial ⟨trivial, trivial⟩
  | cons i is ih => simp only [Along, ih, and_and_and_comm]

/-- Under an invariant, two conditions that agree on each step agree on each run. -/
theorem along_congr {Q : σ → ι → Prop} (hstep : ∀ s i, I s → I (step s i))
    (h : ∀ s i, I s → (P s i ↔ Q s i)) {s : σ} (h0 : I s) {is : List ι} :
    Along step P s is ↔ Along step Q s is := by
  induction is generalizing s with
  | nil => exact Iff.rfl
  | cons i is ih => simp only [Along, h s i h0, ih (hstep s i h0)]

/-- What an invariant allows at each step, it allows along each run. -/
theorem along_of_keeps (hstep : ∀ s i, I s → I (step s i)) (h : ∀ s i, I s → P s i) {s : σ}
    (h0 : I s) (is : List ι) : Along step P s is := by
  induction is generalizing s with
  | nil => trivial
  | cons i is ih => exact ⟨h s i h0, ih (hstep s i h0)⟩

/-- A run is allowed when each of its steps is, in the state the steps before it lead to. -/
theorem along_iff {s : σ} {is : List ι} :
    Along step P s is ↔ ∀ pre i post, is = pre ++ i :: post → P (run step s pre) i := by
  constructor
  · rintro hp pre i post rfl
    exact (along_append.mp hp).2.1
  · intro h
    induction is generalizing s with
    | nil => trivial
    | cons i is ih =>
        refine ⟨h [] i is rfl, ih fun pre j post he => ?_⟩
        exact h (i :: pre) j post (congrArg (List.cons i) he)

theorem along_mem {s : σ} {is : List ι} (h : ∀ i ∈ is, ∀ s, P s i) : Along step P s is := by
  refine along_iff.mpr fun pre i post he => h i ?_ _
  rw [he]
  exact List.mem_append_right pre List.mem_cons_self

theorem trace_append {obs : σ → ι → Option ω} {s : σ} {is js : List ι} :
    trace step obs s (is ++ js) = trace step obs s is ++ trace step obs (run step s is) js := by
  induction is generalizing s with
  | nil => rfl
  | cons i is ih =>
      show _ ++ trace step obs (step s i) (is ++ js) = (_ ++ _) ++ _
      rw [ih, List.append_assoc]
      rfl

theorem trace_snoc {obs : σ → ι → Option ω} {s : σ} {is : List ι} {i : ι} :
    trace step obs s (is ++ [i]) = trace step obs s is ++ (obs (run step s is) i).toList := by
  rw [trace_append]
  show _ ++ (_ ++ []) = _
  rw [List.append_nil]

/-- What the step at one place shows. -/
theorem trace_some_getElem? (o : σ → ι → ω) (s : σ) (is : List ι) (n : ℕ) :
    (trace step (fun s i => some (o s i)) s is)[n]? = is[n]?.map (o (run step s (is.take n))) := by
  induction is generalizing s n with
  | nil => rfl
  | cons i is ih =>
      cases n with
      | zero => rfl
      | succ n => exact ih (step s i) n

theorem throughout_nil {s : σ} : Throughout step I s [] ↔ I s := by
  constructor
  · intro h; exact h [] List.prefix_rfl
  · intro h pre hp
    rw [List.prefix_nil.mp hp]; exact h

/-- A run is good throughout when its first state is, and the rest of it from the next one. -/
theorem throughout_cons {s : σ} {i : ι} {is : List ι} :
    Throughout step I s (i :: is) ↔ I s ∧ Throughout step I (step s i) is := by
  constructor
  · intro h
    refine ⟨h [] (List.nil_prefix), fun pre hp => ?_⟩
    exact h (i :: pre) (List.cons_prefix_cons.mpr ⟨rfl, hp⟩)
  · rintro ⟨h0, h⟩ pre hp
    cases pre with
    | nil => exact h0
    | cons j pre =>
        obtain ⟨rfl, hp'⟩ := List.cons_prefix_cons.mp hp
        exact h pre hp'

/-! ## Invariants -/

/-- The invariant rule for a property every step keeps. -/
theorem run_keeps (hstep : ∀ s i, I s → I (step s i)) {s : σ} (h0 : I s) (is : List ι) :
    I (run step s is) := by
  induction is generalizing s with
  | nil => exact h0
  | cons i is ih => exact ih (hstep s i h0)

/-- The invariant rule for a property that every allowed step keeps. -/
theorem along_keeps (hstep : ∀ s i, I s → P s i → I (step s i)) {s : σ} (h0 : I s) {is : List ι}
    (hp : Along step P s is) : I (run step s is) := by
  induction is generalizing s with
  | nil => exact h0
  | cons i is ih => exact ih (hstep s i h0 hp.1) hp.2

/-- What an invariant gives at each allowed step, it gives along each run whose steps are allowed. -/
theorem Along.of_keeps {Q : σ → ι → Prop} (hstep : ∀ s i, I s → P s i → I (step s i))
    (h : ∀ s i, I s → P s i → Q s i) {s : σ} (h0 : I s) {is : List ι} (hp : Along step P s is) :
    Along step Q s is := by
  induction is generalizing s with
  | nil => trivial
  | cons i is ih => exact ⟨h s i h0 hp.1, ih (hstep s i h0 hp.1) hp.2⟩

/-- What a run shows, some step of it shows. -/
theorem mem_trace {obs : σ → ι → Option ω} {s : σ} {is : List ι} {x : ω}
    (h : x ∈ trace step obs s is) :
    ∃ pre i post, is = pre ++ i :: post ∧ obs (run step s pre) i = some x := by
  induction is generalizing s with
  | nil => cases h
  | cons i is ih =>
      rcases List.mem_append.mp h with h | h
      · exact ⟨[], i, is, rfl, Option.mem_toList.mp h⟩
      · obtain ⟨pre, j, post, rfl, hobs⟩ := ih h
        exact ⟨i :: pre, j, post, rfl, hobs⟩

/-- The invariant rule for the state together with what the run has shown so far. -/
theorem traced {obs : σ → ι → Option ω} {J : σ → List ω → Prop}
    (hstep : ∀ s i shown, J s shown → P s i → J (step s i) (shown ++ (obs s i).toList)) {s : σ}
    {shown : List ω} (h0 : J s shown) {is : List ι} (hp : Along step P s is) :
    J (run step s is) (shown ++ trace step obs s is) := by
  induction is generalizing s shown with
  | nil =>
      show J s (shown ++ [])
      rw [List.append_nil]
      exact h0
  | cons i is ih =>
      have hnext := ih (hstep s i shown h0 hp.1) hp.2
      rw [List.append_assoc] at hnext
      exact hnext

/-- A run that shows nothing twice goes on to do so, as long as the next thing it shows is new. -/
theorem nodup_shown {shown : List ω} {o : Option ω} (h : shown.Nodup)
    (hnew : ∀ x, o = some x → x ∉ shown) : (shown ++ o.toList).Nodup := by
  cases o with
  | none =>
      show (shown ++ []).Nodup
      rw [List.append_nil]
      exact h
  | some x =>
      refine List.nodup_append.mpr ⟨h, by simp, ?_⟩
      rintro y hy z hz rfl
      rw [Option.mem_toList, Option.some.injEq] at hz
      exact hnew x rfl (hz ▸ hy)

/-- **The exact rule.** `J` is an inductive strengthening of `I`: an allowed step keeps it, and a
step that is not allowed leaves `I` at once. Then a run from `J` is good throughout exactly when
each of its steps is allowed. -/
theorem throughout_iff_along {J : σ → Prop} (hJ : ∀ s, J s → I s)
    (hkeep : ∀ s i, J s → P s i → J (step s i))
    (hleave : ∀ s i, J s → ¬ P s i → ¬ I (step s i)) {s : σ} {is : List ι} (h0 : J s) :
    Throughout step I s is ↔ Along step P s is := by
  induction is generalizing s with
  | nil => simp only [throughout_nil, Along, iff_true]; exact hJ s h0
  | cons i is ih =>
      rw [throughout_cons]
      by_cases hp : P s i
      · simp only [Along, hp, true_and, ih (hkeep s i h0 hp)]
        exact and_iff_right (hJ s h0)
      · -- the state right after the forbidden step is itself one the run goes through
        have hbad : ¬ Throughout step I (step s i) is := fun h =>
          hleave s i h0 hp (h [] List.nil_prefix)
        simp only [Along, hp, false_and, iff_false, not_and]
        exact fun _ => hbad

/-- **The exact rule from any state.** `J` holds of the whole run anyway, and under it a step from a
good state is good exactly when it is allowed. Then a run is good throughout exactly when its first
state is and each of its steps is allowed. -/
theorem throughout_iff {J : σ → Prop} (hJ : ∀ s i, J s → J (step s i))
    (hstep : ∀ s i, J s → I s → (I (step s i) ↔ P s i)) {s : σ} {is : List ι} (hs : J s) :
    Throughout step I s is ↔ I s ∧ Along step P s is := by
  by_cases h0 : I s
  · rw [and_iff_right h0]
    refine throughout_iff_along (J := fun s => J s ∧ I s) (fun _ h => h.2) ?_ ?_ ⟨hs, h0⟩
    · intro s i h hp
      exact ⟨hJ s i h.1, (hstep s i h.1 h.2).mpr hp⟩
    · intro s i h hp hgood
      exact hp ((hstep s i h.1 h.2).mp hgood)
  · -- the first state is one the run goes through
    exact iff_of_false (fun h => h0 (h [] List.nil_prefix)) fun h => h0 h.1

/-- The same, where one step says all there is to say. -/
theorem throughout_iff_of_step (hstep : ∀ s i, I s → (I (step s i) ↔ P s i)) {s : σ} {is : List ι} :
    Throughout step I s is ↔ I s ∧ Along step P s is :=
  throughout_iff (J := fun _ => True) (fun _ _ h => h) (fun s i _ => hstep s i) trivial

/-- **The exact rule under an assumption.** In a run each of whose steps `A` allows, `J` holds of every
state, and under both a step from a good state is good exactly when `P` allows it. -/
theorem throughout_iff_under {J : σ → Prop} {A : σ → ι → Prop}
    (hJ : ∀ s i, J s → A s i → J (step s i))
    (hstep : ∀ s i, J s → A s i → I s → (I (step s i) ↔ P s i)) {s : σ} {is : List ι} (hs : J s)
    (h0 : I s) (ha : Along step A s is) : Throughout step I s is ↔ Along step P s is := by
  induction is generalizing s with
  | nil => exact iff_of_true (throughout_nil.mpr h0) trivial
  | cons i is ih =>
      rw [throughout_cons, and_iff_right h0]
      have hi := hstep s i hs ha.1 h0
      constructor
      · intro h
        have hgood : I (step s i) := h [] List.nil_prefix
        exact ⟨hi.mp hgood, (ih (hJ s i hs ha.1) hgood ha.2).mp h⟩
      · intro h
        exact (ih (hJ s i hs ha.1) (hi.mpr h.1) ha.2).mpr h.2

/-- A condition on a part of the state that has a run of its own. -/
theorem along_part {τ : Type*} {step' : τ → ι → τ} {f : τ → σ}
    (hf : ∀ t i, f (step' t i) = step (f t) i) {t : τ} {is : List ι} :
    Along step' (fun t i => P (f t) i) t is ↔ Along step P (f t) is := by
  induction is generalizing t with
  | nil => exact Iff.rfl
  | cons i is ih =>
      show P (f t) i ∧ Along step' _ (step' t i) is ↔ P (f t) i ∧ Along step P (step (f t) i) is
      rw [ih, hf]

/-- Invariants of reachable states: they hold initially and every step keeps them. -/
theorem Reachable.invariant {init : σ → Prop} (hinit : ∀ s, init s → I s)
    (hstep : ∀ s i, I s → I (step s i)) {s : σ} (h : Reachable step init s) : I s := by
  induction h with
  | init h => exact hinit _ h
  | step i _ ih => exact hstep _ i ih

/-- The end of a run from a reachable state is reachable. -/
theorem Reachable.run {init : σ → Prop} {s : σ} (h : Reachable step init s) (is : List ι) :
    Reachable step init (run step s is) := by
  induction is generalizing s with
  | nil => exact h
  | cons i is ih => exact ih (Reachable.step i h)

/-! ## Simulation -/

section

variable {τ κ : Type*} {step' : τ → κ → τ} {f : σ → τ} {acts : σ → ι → Option κ}

/-- A system each of whose steps is seen as at most one step of another runs as the other does. -/
theorem run_sim (hf : ∀ s i, f (step s i) = (acts s i).elim (f s) (step' (f s))) (s : σ) (is : List ι) :
    f (run step s is) = run step' (f s) (trace step acts s is) := by
  induction is generalizing s with
  | nil => rfl
  | cons i is ih =>
      rw [run_cons, ih, hf]
      show _ = run step' (f s) ((acts s i).toList ++ trace step acts (step s i) is)
      cases acts s i with
      | none => rfl
      | some a => rfl

/-- What is asked of the steps of the other, as it is asked of those that are seen as them. -/
theorem along_sim {Q : τ → κ → Prop} (hf : ∀ s i, f (step s i) = (acts s i).elim (f s) (step' (f s)))
    {s : σ} {is : List ι} (h : Along step (fun s i => ∀ a, acts s i = some a → Q (f s) a) s is) :
    Along step' Q (f s) (trace step acts s is) := by
  induction is generalizing s with
  | nil => trivial
  | cons i is ih =>
      have hi := ih h.2
      rw [hf] at hi
      show Along step' Q (f s) ((acts s i).toList ++ trace step acts (step s i) is)
      cases ha : acts s i with
      | none => rwa [ha] at hi
      | some a =>
          rw [ha] at hi
          exact ⟨h.1 a ha, hi⟩

end

/-! ## Runs over keys -/

section

variable {κ : Type*} {step : σ → κ → σ} {W : σ → Prop} {E F P : σ → κ → Prop} {s : σ} {ks : List κ}

/-- What the steps for other keys leave alone, a run over other keys leaves alone. -/
theorem run_other (hW : ∀ s k, W s → W (step s k))
    (hF : ∀ s k j, W s → j ≠ k → (F (step s k) j ↔ F s j)) {j : κ} (hs : W s) (hj : j ∉ ks) :
    F (run step s ks) j ↔ F s j := by
  induction ks generalizing s with
  | nil => exact Iff.rfl
  | cons k ks ih =>
      rw [List.mem_cons, not_or] at hj
      exact (ih (hW s k hs) hj.2).trans (hF s k j hs hj.1)

/-- **The rule for keys.** A run goes over different keys, and each step touches its own key only: it
turns `E` into `F` there exactly when `P` allows it. Then the run does so for all of them exactly
when each of its steps is allowed. -/
theorem run_keys (hW : ∀ s k, W s → W (step s k))
    (hown : ∀ s k, W s → E s k → (F (step s k) k ↔ P s k))
    (hE : ∀ s k j, W s → j ≠ k → (E (step s k) j ↔ E s j))
    (hF : ∀ s k j, W s → j ≠ k → (F (step s k) j ↔ F s j))
    (hnd : ks.Nodup) (hs : W s) (h : ∀ k ∈ ks, E s k) :
    (∀ k ∈ ks, F (run step s ks) k) ↔ Along step P s ks := by
  induction ks generalizing s with
  | nil => exact iff_of_true (fun k hk => absurd hk List.not_mem_nil) trivial
  | cons k ks ih =>
      obtain ⟨hk, hnd⟩ := List.nodup_cons.mp hnd
      have hrest : ∀ j ∈ ks, E (step s k) j := by
        intro j hj
        have hne : j ≠ k := fun heq => hk (heq ▸ hj)
        exact (hE s k j hs hne).mpr (h j (List.mem_cons_of_mem k hj))
      have hfirst : F (run step (step s k) ks) k ↔ P s k :=
        (run_other hW hF (hW s k hs) hk).trans (hown s k hs (h k List.mem_cons_self))
      rw [List.forall_mem_cons, run_cons, ih hnd (hW s k hs) hrest, hfirst]
      rfl

end

/-! ## Views of keys -/

section

variable {σ ι κ τ ν : Type*} [DecidableEq κ] {step : σ → ι → σ} {W : σ → Prop} {tag : ι → τ} {key : τ → κ}
  {view : κ → σ → ν} {k : κ} {s s' : σ}

/-- Inputs of other keys can be left out, as far as the view of a key is concerned. -/
theorem run_view_filter (hW : ∀ s i, W s → W (step s i))
    (hother : ∀ s i k, W s → key (tag i) ≠ k → view k (step s i) = view k s)
    (hown : ∀ s s' i j, W s → W s' → tag i = tag j → view (key (tag i)) s = view (key (tag i)) s' →
      view (key (tag i)) (step s i) = view (key (tag i)) (step s' j))
    (hs : W s) (hs' : W s') (hview : view k s = view k s') (is : List ι) :
    view k (run step s is) = view k (run step s' (is.filter fun i => key (tag i) = k)) := by
  induction is generalizing s s' with
  | nil => exact hview
  | cons i is ih =>
      by_cases hk : key (tag i) = k
      · rw [List.filter_cons_of_pos (by simpa using hk), run_cons, run_cons]
        apply ih (hW s i hs) (hW s' i hs')
        subst hk
        exact hown s s' i i hs hs' rfl hview
      · rw [List.filter_cons_of_neg (by simpa using hk), run_cons]
        exact ih (hW s i hs) hs' ((hother s i k hs hk).trans hview)

omit [DecidableEq κ] in
/-- Inputs of one key with the same tags. -/
theorem run_view_tags (hW : ∀ s i, W s → W (step s i))
    (hown : ∀ s s' i j, W s → W s' → tag i = tag j → view (key (tag i)) s = view (key (tag i)) s' →
      view (key (tag i)) (step s i) = view (key (tag i)) (step s' j))
    (hs : W s) (hs' : W s') (hview : view k s = view k s') {is js : List ι}
    (hkey : ∀ i ∈ is, key (tag i) = k) (htags : is.map tag = js.map tag) :
    view k (run step s is) = view k (run step s' js) := by
  induction is generalizing s s' js with
  | nil =>
      rw [List.map_nil, eq_comm, List.map_eq_nil_iff] at htags
      rw [htags]
      exact hview
  | cons i is ih =>
      rw [List.map_cons, eq_comm, List.map_eq_cons_iff] at htags
      obtain ⟨j, js, rfl, htag, htags⟩ := htags
      obtain ⟨rfl, hkey⟩ := List.forall_mem_cons.mp hkey
      rw [run_cons, run_cons]
      exact ih (hW s i hs) (hW s' j hs') (hown s s' i j hs hs' htag.symm hview) hkey htags.symm

/-- **The rule for views.** Each step touches the view of its own key only, and what it makes of it depends
on the view and on the input's tag. Then the view of a key after a run depends on the tags of the inputs
that have the key, in their order, and on nothing else. -/
theorem run_view (hW : ∀ s i, W s → W (step s i))
    (hother : ∀ s i k, W s → key (tag i) ≠ k → view k (step s i) = view k s)
    (hown : ∀ s s' i j, W s → W s' → tag i = tag j → view (key (tag i)) s = view (key (tag i)) s' →
      view (key (tag i)) (step s i) = view (key (tag i)) (step s' j))
    (hs : W s) (hs' : W s') (hview : view k s = view k s') {is js : List ι}
    (htags : (is.map tag).filter (key · = k) = (js.map tag).filter (key · = k)) :
    view k (run step s is) = view k (run step s' js) := by
  rw [List.filter_map, List.filter_map] at htags
  rw [run_view_filter hW hother hown hs hs rfl is, run_view_filter hW hother hown hs' hs' rfl js]
  refine run_view_tags hW hown hs hs' hview ?_ htags
  intro i hi
  simpa using (List.mem_filter.mp hi).2

end

end Lib.Runs
