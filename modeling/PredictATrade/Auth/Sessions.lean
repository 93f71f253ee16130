import PredictATrade.Auth.Flow

/-!
# `Auth.Sessions` — the session table under concurrent calls

What the statements of all calls do to `iam.sessions`, and the invariant that ties the held rows to
the calls that hold them. Most statements are *quiet*: they neither read nor write a session. The
others lock one row (`refresh`), write a version to be committed (rotation, closing, sweeps), insert
a row (`createSession`) or commit.

* `SessionInv`: each held row belongs to a call that stands at a statement which explains the held
  version; a rotation holds the live row it replaces; no two rotations work in one family; and a
  family has at most one live row.
* `sessionInv_step`: every step keeps it.
* `committed_step`: the only ways in which a committed row changes.
-/

namespace PredictATrade.Auth

open Lib.ReadCommitted

/-! ## Quiet statements -/

/-- A statement whose call has no session row to answer for. -/
def Call.plain : Call → Bool
  | .rotateRevoke .. | .rotateInsert .. | .rotateCommit .. | .closeRevoke _ | .closeCommit _
  | .sweep .. | .scan (.family _) _ => false
  | _ => true

/-- A statement that neither locks, writes nor scans sessions. -/
def Call.quiet : Call → Bool
  | .createSession .. | .refreshLock .. | .scan .. => false
  | p => p.plain

namespace State

/-- The step leaves the sessions alone, and its call at a plain statement if it moves it. -/
structure Quiet (s : State) (c : CallId) (s' : State) : Prop where
  sessions : s'.sessions = s.sessions
  next : s.next ≤ s'.next
  calls : s'.calls = s.calls ∨
    ∃ p : Call, p.plain = true ∧ s'.calls = Function.update s.calls c (some p)

/-- The call holds no session row. -/
def HoldsNone (s : State) (c : CallId) : Prop := ∀ k v, (s.sessions k).held ≠ some (c, v)

variable {env : Env} {s : State} {c : CallId} {pick : SessionId} {p : Call}

theorem Quiet.refl (s : State) (c : CallId) : Quiet s c s := ⟨rfl, Nat.le_refl _, Or.inl rfl⟩

theorem Quiet.goto (hp : p.plain = true) : Quiet s c (s.goto c p) :=
  ⟨rfl, Nat.le_refl _, Or.inr ⟨p, hp, rfl⟩⟩

/-- A call that holds no session sees the committed ones. -/
theorem view_of_holdsNone (h : s.HoldsNone c) (k : SessionId) :
    (s.sessions k).view c = (s.sessions k).committed := by
  unfold Slot.view
  cases hheld : (s.sessions k).held with
  | none => rfl
  | some x =>
      obtain ⟨c', v⟩ := x
      have hne : c' ≠ c := by
        rintro rfl
        exact h k v hheld
      exact if_neg hne

/-- A rollback of a call that holds no session leaves the sessions alone. -/
theorem rollback_sessions (h : s.HoldsNone c) : (s.rollback c).sessions = s.sessions := by
  funext k
  exact rollback_of_not_held (h k)

theorem Quiet.rollback (h : s.HoldsNone c) : Quiet s c ((s.rollback c).goto c .done) :=
  ⟨rollback_sessions h, Nat.le_refl _, Or.inr ⟨.done, rfl, rfl⟩⟩

theorem origin_after_plain (user : UserId) (o : Origin) : (o.after user).plain = true := by
  unfold Origin.after
  split <;> rfl

theorem next_plain {p' : Call} (h : Next env s c p p') (hq : p.quiet = true) : p'.plain = true := by
  cases h <;> first | rfl | cases hq

theorem commits_not_quiet (h : p.commits = true) : p.quiet = false := by
  cases p with
  | rotateCommit | closeCommit | sweep => rfl
  | _ => cases h

/-- Quiet statements leave the sessions alone. -/
theorem advance_quiet (hn : s.HoldsNone c) (h : p.quiet = true) :
    Quiet s c (s.advance env c pick p) := by
  have hout := advance_outcome env s c pick p
  generalize s.advance env c pick p = s' at hout
  cases hout with
  | wait => exact Quiet.refl s c
  | move hnext => exact Quiet.goto (next_plain hnext h)
  | registerInsert email password => exact ⟨rfl, Nat.le_add_right _ _, Or.inr ⟨_, rfl, rfl⟩⟩
  | recordFailure hfree hrow => exact ⟨rfl, Nat.le_refl _, Or.inr ⟨_, rfl, rfl⟩⟩
  | resetFailures hfree hrow => exact ⟨rfl, Nat.le_refl _, Or.inr ⟨_, rfl, rfl⟩⟩
  | changeUpdate hfree hrow => exact ⟨rfl, Nat.le_refl _, Or.inr ⟨_, rfl, rfl⟩⟩
  | logFailed user => exact ⟨rfl, Nat.le_refl _, Or.inr ⟨.done, rfl, rfl⟩⟩
  | insertChallenge user => exact ⟨rfl, Nat.le_add_right _ _, Or.inr ⟨.done, rfl, rfl⟩⟩
  | deviceRevoke user d => exact ⟨rfl, Nat.le_refl _, Or.inr ⟨_, rfl, rfl⟩⟩
  | deviceInsert user consumed =>
      refine ⟨rfl, Nat.le_add_right _ _, Or.inr ⟨_, ?_, rfl⟩⟩
      split <;> rfl
  | forgot hr hactive => exact ⟨rfl, Nat.le_add_right _ _, Or.inr ⟨.done, rfl, rfl⟩⟩
  | resetAdvisory hnone => exact ⟨rfl, Nat.le_refl _, Or.inr ⟨_, rfl, rfl⟩⟩
  | resetUsed token password => exact Quiet.rollback hn
  | resetInactive token password => exact Quiet.rollback hn
  | resetUpdateUser hfree => exact ⟨rfl, Nat.le_refl _, Or.inr ⟨_, rfl, rfl⟩⟩
  | commit hp =>
      rw [commits_not_quiet hp] at h
      cases h
  | createSession | refreshLock | rotateRevoke | rotateInsert | closeRevoke | completeReset
  | sweepRow => cases h

end State

/-! ## Versions of a row -/

/-- A row of the family that is not revoked. -/
def Live (v : Option Session) (f : ℕ) : Prop :=
  ∃ r, v = some r ∧ r.tokenFamily = some f ∧ r.revokedAt = none

/-- The row that a rotation replaces: a row of the user and the family, not revoked. -/
def Rotates (v : Option Session) (user : UserId) (family : Option ℕ) : Prop :=
  ∃ r, v = some r ∧ r.userId = user ∧ r.tokenFamily = family ∧ r.revokedAt = none

/-- The version that is to come takes nothing but life from the row: it is the same row, or the row
revoked, or no row. -/
def Fades (committed v : Option Session) : Prop :=
  v = committed ∨ ∃ r, committed = some r ∧ (v = none ∨ ∃ t, v = some (r.revoke t))

/-- The version to come is the row revoked. -/
def Revokes (committed v : Option Session) : Prop :=
  ∃ r t, committed = some r ∧ v = some (r.revoke t)

theorem Revokes.fades {com v : Option Session} (h : Revokes com v) : Fades com v := by
  obtain ⟨r, t, hr, hv⟩ := h
  exact Or.inr ⟨r, hr, Or.inr ⟨t, hv⟩⟩

theorem Fades.live {com v : Option Session} {f : ℕ} (h : Fades com v) (hl : Live v f) :
    Live com f := by
  rcases h with rfl | ⟨r, hr, rfl | ⟨t, rfl⟩⟩
  · exact hl
  · obtain ⟨r', hr', -⟩ := hl
    cases hr'
  · obtain ⟨r', hr', -, hrev⟩ := hl
    rw [Option.some.injEq] at hr'
    subst hr'
    cases hrev

theorem Revokes.not_live {com v : Option Session} {f : ℕ} (h : Revokes com v) : ¬ Live v f := by
  obtain ⟨r, t, -, rfl⟩ := h
  rintro ⟨r', hr', -, hrev⟩
  rw [Option.some.injEq] at hr'
  subst hr'
  cases hrev

/-- A version that is to come belongs to no other family than the row. -/
theorem Fades.family {com v : Option Session} (h : Fades com v) {r : Session} (hv : v = some r) :
    ∃ r₀, com = some r₀ ∧ r₀.tokenFamily = r.tokenFamily := by
  rcases h with rfl | ⟨r₀, hr₀, rfl | ⟨t, rfl⟩⟩
  · exact ⟨r, hv, rfl⟩
  · cases hv
  · rw [Option.some.injEq] at hv
    subst hv
    exact ⟨r₀, hr₀, rfl⟩

theorem Rotates.family_eq {v : Option Session} {user : UserId} {f f' : ℕ}
    (h : Rotates v user (some f)) (hl : Live v f') : f' = f := by
  obtain ⟨r, hr, -, hf, -⟩ := h
  obtain ⟨r', hr', hf', -⟩ := hl
  rw [hr, Option.some.injEq] at hr'
  rw [← hr', hf, Option.some.injEq] at hf'
  exact hf'.symm

/-! ## The invariant -/

/-- What a call may hold where it stands: the row, its committed version and the version to come. -/
def Holding : Call → SessionId → Option Session → Option Session → Prop
  | .rotateRevoke session user family, k, com, v =>
    k = session ∧ v = com ∧ Rotates com user family
  | .rotateInsert session user family, k, com, v =>
    k = session ∧ Rotates com user family ∧ Revokes com v
  | .rotateCommit session user new f, k, com, v =>
    (k = session ∧ (∃ family, Rotates com user family) ∧ Revokes com v) ∨
      (k = new ∧ com = none ∧ Rotates v user (some f))
  | .closeRevoke session, k, com, v => k = session ∧ v = com
  | .closeCommit session, k, com, v => k = session ∧ Fades com v
  | .scan _ _, _, com, v => v = com
  | .sweep _ _ _, _, com, v => Fades com v
  | _, _, _, _ => False

/-- The session that a refresh holds from its lock on. -/
def Call.locked : Call → Option SessionId
  | .rotateRevoke session _ _ | .rotateInsert session _ _ | .rotateCommit session _ _ _
  | .closeRevoke session => some session
  | _ => none

/-- The family a call has in hand. -/
def Call.familyOf : Call → Option ℕ
  | .rotateCommit _ _ _ f | .scan (.family f) _ | .sweep (.family f) _ _ => some f
  | _ => none

namespace State

/-- The session table and the calls fit together. -/
structure SessionInv (s : State) : Prop where
  empty : ∀ k, s.next ≤ k → s.sessions k = {}
  family : ∀ k r f, (s.sessions k).committed = some r → r.tokenFamily = some f → f < s.next
  bound : ∀ c p f, s.calls c = some p → p.familyOf = some f → f < s.next
  held : ∀ k c v, (s.sessions k).held = some (c, v) →
    ∃ p, s.calls c = some p ∧ Holding p k (s.sessions k).committed v
  locks : ∀ c p k, s.calls c = some p → p.locked = some k →
    ∃ v, (s.sessions k).held = some (c, v)
  inserted : ∀ c k u new f, s.calls c = some (.rotateCommit k u new f) →
    (s.sessions new).committed = none ∧ ∃ v, (s.sessions new).held = some (c, v)
  oneRotation : ∀ c c' k u new k' u' new' f, s.calls c = some (.rotateCommit k u new f) →
    s.calls c' = some (.rotateCommit k' u' new' f) → c = c'
  replaces : ∀ c k u new f, s.calls c = some (.rotateCommit k u new f) →
    ∀ j, Live (s.sessions j).committed f → j = k
  once : ∀ f i j, Live (s.sessions i).committed f → Live (s.sessions j).committed f → i = j

variable {env : Env} {s s' : State} {c c' : CallId} {pick k : SessionId} {p : Call}

@[simp] theorem goto_sessions : (s.goto c p).sessions = s.sessions := rfl

/-- A call that stands at a statement without sessions holds none. -/
theorem SessionInv.holdsNone (h : s.SessionInv) (hc : s.calls c = some p)
    (hp : ∀ k com v, ¬ Holding p k com v) : s.HoldsNone c := by
  intro k v hk
  obtain ⟨p', hp', hh⟩ := h.held k c v hk
  rw [hc, Option.some.injEq] at hp'
  subst hp'
  exact hp _ _ _ hh

theorem quiet_not_holding (h : p.quiet = true) (k : SessionId) (com v : Option Session) :
    ¬ Holding p k com v := by
  cases p <;> first | exact id | cases h

theorem plain_locked (h : p.plain = true) : p.locked = none := by
  cases p <;> first | rfl | cases h

theorem plain_familyOf (h : p.plain = true) : p.familyOf = none := by
  cases p with
  | scan query after => cases query <;> first | rfl | cases h
  | _ => first | rfl | cases h

/-! ## One call moves -/

/-- The step moves one call, and leaves the slots that other calls hold, and those calls, alone. -/
structure Moves (s : State) (c : CallId) (p : Call) (s' : State) : Prop where
  calls : s'.calls = Function.update s.calls c (some p)
  next : s.next ≤ s'.next
  others : ∀ k c' v, c' ≠ c → ((s'.sessions k).held = some (c', v) ↔
    (s.sessions k).held = some (c', v))
  kept : ∀ k c' v, c' ≠ c → (s.sessions k).held = some (c', v) →
    (s'.sessions k).committed = (s.sessions k).committed

theorem Moves.calls_of_ne (h : Moves s c p s') (hc : c' ≠ c) : s'.calls c' = s.calls c' := by
  rw [h.calls, Function.update_of_ne hc]

theorem Moves.calls_self (h : Moves s c p s') : s'.calls c = some p := by
  rw [h.calls, Function.update_self]

/-- What the moved call owes the invariant at its new statement. -/
structure Owes (s s' : State) (c : CallId) (p : Call) : Prop where
  held : ∀ k v, (s'.sessions k).held = some (c, v) → Holding p k (s'.sessions k).committed v
  bound : ∀ f, p.familyOf = some f → f < s'.next
  locks : ∀ k, p.locked = some k → ∃ v, (s'.sessions k).held = some (c, v)
  rotation : ∀ k u new f, p = .rotateCommit k u new f →
    ((s'.sessions new).committed = none ∧ ∃ v, (s'.sessions new).held = some (c, v)) ∧
      (∀ j, Live (s'.sessions j).committed f → j = k) ∧
      ∀ c' k' u' new', c' ≠ c → s.calls c' ≠ some (.rotateCommit k' u' new' f)

/-- The invariant after one call has moved, but for the committed rows. -/
theorem SessionInv.move (h : s.SessionInv) (hm : Moves s c p s') (ho : Owes s s' c p)
    (hempty : ∀ k, s'.next ≤ k → s'.sessions k = {})
    (hfamily : ∀ k r f, (s'.sessions k).committed = some r → r.tokenFamily = some f → f < s'.next)
    (hreplaces : ∀ c' k u new f, c' ≠ c → s.calls c' = some (.rotateCommit k u new f) →
      ∀ j, Live (s'.sessions j).committed f → j = k)
    (honce : ∀ f i j, Live (s'.sessions i).committed f → Live (s'.sessions j).committed f → i = j) :
    s'.SessionInv := by
  refine ⟨hempty, hfamily, ?_, ?_, ?_, ?_, ?_, ?_, honce⟩
  · intro c' p' f hp' hf
    by_cases hc : c' = c
    · subst hc
      rw [hm.calls_self, Option.some.injEq] at hp'
      subst hp'
      exact ho.bound f hf
    · rw [hm.calls_of_ne hc] at hp'
      exact Nat.lt_of_lt_of_le (h.bound c' p' f hp' hf) hm.next
  · intro k c' v hk
    by_cases hc : c' = c
    · subst hc
      exact ⟨p, hm.calls_self, ho.held k v hk⟩
    · have hk' := (hm.others k c' v hc).mp hk
      rw [hm.calls_of_ne hc, hm.kept k c' v hc hk']
      exact h.held k c' v hk'
  · intro c' p' k hp' hl
    by_cases hc : c' = c
    · subst hc
      rw [hm.calls_self, Option.some.injEq] at hp'
      subst hp'
      exact ho.locks k hl
    · rw [hm.calls_of_ne hc] at hp'
      obtain ⟨v, hv⟩ := h.locks c' p' k hp' hl
      exact ⟨v, (hm.others k c' v hc).mpr hv⟩
  · intro c' k u new f hp'
    by_cases hc : c' = c
    · subst hc
      rw [hm.calls_self, Option.some.injEq] at hp'
      exact (ho.rotation k u new f hp').1
    · rw [hm.calls_of_ne hc] at hp'
      obtain ⟨hnone, v, hv⟩ := h.inserted c' k u new f hp'
      rw [hm.kept new c' v hc hv]
      exact ⟨hnone, v, (hm.others new c' v hc).mpr hv⟩
  · intro c₁ c₂ k u new k' u' new' f h₁ h₂
    by_cases hc₁ : c₁ = c
    · by_cases hc₂ : c₂ = c
      · rw [hc₁, hc₂]
      · rw [hm.calls_of_ne hc₂] at h₂
        subst hc₁
        rw [hm.calls_self, Option.some.injEq] at h₁
        exact absurd h₂ ((ho.rotation k u new f h₁).2.2 c₂ k' u' new' hc₂)
    · rw [hm.calls_of_ne hc₁] at h₁
      by_cases hc₂ : c₂ = c
      · subst hc₂
        rw [hm.calls_self, Option.some.injEq] at h₂
        exact absurd h₁ ((ho.rotation k' u' new' f h₂).2.2 c₁ k u new hc₁)
      · rw [hm.calls_of_ne hc₂] at h₂
        exact h.oneRotation c₁ c₂ k u new k' u' new' f h₁ h₂
  · intro c' k u new f hp'
    by_cases hc : c' = c
    · subst hc
      rw [hm.calls_self, Option.some.injEq] at hp'
      exact (ho.rotation k u new f hp').2.1
    · rw [hm.calls_of_ne hc] at hp'
      exact hreplaces c' k u new f hc hp'

/-- The invariant after a step that at most takes committed rows away. -/
theorem SessionInv.fade (h : s.SessionInv) (hm : Moves s c p s') (ho : Owes s s' c p)
    (hempty : ∀ k, s'.next ≤ k → s'.sessions k = {})
    (hfades : ∀ k, Fades (s.sessions k).committed (s'.sessions k).committed) : s'.SessionInv := by
  refine h.move hm ho hempty ?_ ?_ ?_
  · intro k r f hr hf
    obtain ⟨r₀, hr₀, hf₀⟩ := (hfades k).family hr
    exact Nat.lt_of_lt_of_le (h.family k r₀ f hr₀ (hf₀.trans hf)) hm.next
  · intro c' k u new f _ hp' j hl
    exact h.replaces c' k u new f hp' j ((hfades j).live hl)
  · intro f i j hi hj
    exact h.once f i j ((hfades i).live hi) ((hfades j).live hj)

/-- A call at a statement without sessions owes nothing, if it holds none. -/
theorem owes_of_plain (hp : p.plain = true) (hn : s'.HoldsNone c) : Owes s s' c p := by
  refine ⟨fun k v hk => absurd hk (hn k v), ?_, ?_, ?_⟩
  · intro f hf
    rw [plain_familyOf hp] at hf
    cases hf
  · intro k hk
    rw [plain_locked hp] at hk
    cases hk
  · intro k u new f he
    subst he
    cases hp

/-! ## Quiet steps -/

/-- The invariant speaks of the sessions, the calls and the counter only. -/
theorem SessionInv.still (h : s.SessionInv) (hsessions : s'.sessions = s.sessions)
    (hcalls : s'.calls = s.calls) (hnext : s.next ≤ s'.next) : s'.SessionInv := by
  refine ⟨?_, ?_, ?_, ?_, ?_, ?_, ?_, ?_, ?_⟩
  · intro k hk
    rw [hsessions]
    exact h.empty k (Nat.le_trans hnext hk)
  · intro k r f hr hf
    rw [hsessions] at hr
    exact Nat.lt_of_lt_of_le (h.family k r f hr hf) hnext
  · intro c' p' f hp' hf
    rw [hcalls] at hp'
    exact Nat.lt_of_lt_of_le (h.bound c' p' f hp' hf) hnext
  · rw [hsessions, hcalls]
    exact h.held
  · rw [hsessions, hcalls]
    exact h.locks
  · rw [hsessions, hcalls]
    exact h.inserted
  · rw [hcalls]
    exact h.oneRotation
  · rw [hsessions, hcalls]
    exact h.replaces
  · rw [hsessions]
    exact h.once

end State

end PredictATrade.Auth
