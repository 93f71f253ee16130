import PredictATrade.Auth.Sessions
import PredictATrade.Lib.Runs

/-!
# `Auth.SessionSteps` — what one step does to the sessions

The statements that are not quiet, one after the other, and from them `step_effect`: a step keeps
the invariant of the session table, leaves what other calls hold alone, and changes a committed row
only in one of three ways. It takes life from it (`Fades`), `createSession` inserts it in a family of
its own, or a rotation commits it in the family of the row that it replaces.
-/

namespace PredictATrade.Auth

open Lib.ReadCommitted

namespace State

variable {env : Env} {s s' : State} {c c' : CallId} {pick k : SessionId} {p : Call}

/-! ## Effects -/

/-- How the committed version of a row may change, by a step of the call `a`. -/
inductive Change (s : State) (a : Option CallId) (k : SessionId) (v : Option Session) : Prop where
  | fades (h : Fades (s.sessions k).committed v)
  | created (c : CallId) (user : UserId) (origin : Origin) (ha : a = some c)
      (hc : s.calls c = some (.createSession user origin)) (hk : k = s.next)
      (hv : Rotates v user (some (s.next + 2)))
  | rotated (c : CallId) (session : SessionId) (user : UserId) (f : ℕ) (ha : a = some c)
      (hc : s.calls c = some (.rotateCommit session user k f))
      (hnone : (s.sessions k).committed = none) (hv : Rotates v user (some f))

/-- One step, taken by the call `a` if by any. -/
structure Effect (s : State) (a : Option CallId) (s' : State) : Prop where
  inv : s'.SessionInv
  next : s.next ≤ s'.next
  others : ∀ k c v, a ≠ some c →
    ((s'.sessions k).held = some (c, v) ↔ (s.sessions k).held = some (c, v))
  kept : ∀ k c v, a ≠ some c → (s.sessions k).held = some (c, v) →
    (s'.sessions k).committed = (s.sessions k).committed
  change : ∀ k, Change s a k (s'.sessions k).committed

/-- A step that leaves sessions and calls as they are. -/
theorem SessionInv.stillEffect (h : s.SessionInv) {a : Option CallId}
    (hsessions : s'.sessions = s.sessions) (hcalls : s'.calls = s.calls)
    (hnext : s.next ≤ s'.next) : Effect s a s' := by
  refine ⟨h.still hsessions hcalls hnext, hnext, ?_, ?_, ?_⟩
  · intro k c v _
    rw [hsessions]
  · intro k c v _ _
    rw [hsessions]
  · intro k
    rw [hsessions]
    exact .fades (Or.inl rfl)

/-- A call that moves has an effect of its own only. -/
theorem Moves.effect (hm : Moves s c p s') (hi : s'.SessionInv)
    (hchange : ∀ k, Change s (some c) k (s'.sessions k).committed) : Effect s (some c) s' := by
  refine ⟨hi, hm.next, ?_, ?_, hchange⟩
  · intro k c' v hc
    exact hm.others k c' v fun h => hc (congrArg some h.symm)
  · intro k c' v hc
    exact hm.kept k c' v fun h => hc (congrArg some h.symm)

/-- A step that at most takes committed rows away. -/
theorem SessionInv.fadeEffect (h : s.SessionInv) (hm : Moves s c p s') (ho : Owes s s' c p)
    (hempty : ∀ k, s'.next ≤ k → s'.sessions k = {})
    (hfades : ∀ k, Fades (s.sessions k).committed (s'.sessions k).committed) :
    Effect s (some c) s' :=
  hm.effect (h.fade hm ho hempty hfades) fun k => .fades (hfades k)

theorem SessionInv.quietEffect (h : s.SessionInv) (hn : s.HoldsNone c) (hq : Quiet s c s') :
    Effect s (some c) s' := by
  rcases hq.calls with hcalls | ⟨p, hp, hcalls⟩
  · exact h.stillEffect hq.sessions hcalls hq.next
  · have hn' : s'.HoldsNone c := by
      unfold HoldsNone
      rw [hq.sessions]
      exact hn
    refine h.fadeEffect ⟨hcalls, hq.next, ?_, ?_⟩ (owes_of_plain hp hn') ?_ ?_
    · intro k c' v _
      rw [hq.sessions]
    · intro k c' v _ _
      rw [hq.sessions]
    · intro k hk
      rw [hq.sessions]
      exact h.empty k (Nat.le_trans hq.next hk)
    · intro k
      rw [hq.sessions]
      exact Or.inl rfl

/-! ## Rows and the counter -/

/-- A session was drawn before. -/
theorem SessionInv.lt_next (h : s.SessionInv) (hk : s.sessions k ≠ {}) : k < s.next := by
  rcases Nat.lt_or_ge k s.next with hlt | hge
  · exact hlt
  · exact absurd (h.empty k hge) hk

theorem SessionInv.lt_next_of_row (h : s.SessionInv) {r : Session}
    (hr : (s.sessions k).committed = some r) : k < s.next := by
  apply h.lt_next
  intro he
  rw [he] at hr
  cases hr

theorem SessionInv.lt_next_of_held (h : s.SessionInv) {v : Option Session}
    (hv : (s.sessions k).held = some (c, v)) : k < s.next := by
  apply h.lt_next
  intro he
  rw [he] at hv
  cases hv

/-- A family was drawn before. -/
theorem SessionInv.family_lt (h : s.SessionInv) {f : ℕ} (hl : Live (s.sessions k).committed f) :
    f < s.next := by
  obtain ⟨r, hr, hf, -⟩ := hl
  exact h.family k r f hr hf

/-! ## `createSession` -/

theorem insertSession_sessions_self (s : State) (user : UserId) :
    (s.insertSession user).sessions s.next =
      { committed := some
          { userId := user
            refreshTokenHash := s.next + 1
            tokenFamily := some (s.next + 2)
            expiresAt := s.now + refreshTokenExpiry } } := put_self

theorem insertSession_sessions_of_ne (user : UserId) (h : k ≠ s.next) :
    (s.insertSession user).sessions k = s.sessions k := put_of_ne h

/-- A new session. -/
theorem SessionInv.createSession (h : s.SessionInv) {user : UserId} {origin : Origin}
    (hc : s.calls c = some (.createSession user origin)) :
    Effect s (some c) ((s.insertSession user).goto c (origin.after user)) := by
  have hn : s.HoldsNone c := h.holdsNone hc fun _ _ _ => id
  have hfree : (s.sessions s.next).held = none := by
    rw [h.empty s.next (Nat.le_refl _)]
  have hself := insertSession_sessions_self s user
  have hne := fun (k : SessionId) (hk : k ≠ s.next) =>
    insertSession_sessions_of_ne (s := s) (k := k) user hk
  -- the only row of the new family is the new one
  have hlive : ∀ j f, Live (((s.insertSession user).goto c (origin.after user)).sessions j).committed
      f → (j = s.next ∧ f = s.next + 2) ∨ Live (s.sessions j).committed f := by
    intro j f hl
    rw [goto_sessions] at hl
    by_cases hj : j = s.next
    · subst hj
      obtain ⟨r, hr, hf, -⟩ := hl
      rw [hself, Option.some.injEq] at hr
      subst hr
      exact Or.inl ⟨rfl, (Option.some.inj hf).symm⟩
    · rw [hne j hj] at hl
      exact Or.inr hl
  have hm : Moves s c (origin.after user) ((s.insertSession user).goto c (origin.after user)) := by
    refine ⟨rfl, Nat.le_add_right _ _, ?_, ?_⟩
    · intro k c' v _
      rw [goto_sessions]
      by_cases hk : k = s.next
      · subst hk
        rw [hself, hfree]
      · rw [hne k hk]
    · intro k c' v _ hk
      rw [goto_sessions, hne k]
      rintro rfl
      rw [hfree] at hk
      cases hk
  refine hm.effect (h.move hm (owes_of_plain (origin_after_plain user origin) ?_) ?_ ?_ ?_ ?_) ?_
  · intro k v hk
    rw [goto_sessions] at hk
    by_cases hkn : k = s.next
    · subst hkn
      rw [hself] at hk
      cases hk
    · rw [hne k hkn] at hk
      exact hn k v hk
  · intro k hk
    have hlt : s.next < k := Nat.lt_of_lt_of_le (Nat.lt_add_of_pos_right (by decide)) hk
    rw [goto_sessions, hne k (Nat.ne_of_gt hlt)]
    exact h.empty k (Nat.le_of_lt hlt)
  · intro k r f hr hf
    show f < s.next + 3
    rw [goto_sessions] at hr
    by_cases hk : k = s.next
    · subst hk
      rw [hself, Option.some.injEq] at hr
      subst hr
      have := Option.some.inj hf
      omega
    · rw [hne k hk] at hr
      have := h.family k r f hr hf
      omega
  · intro c' k u new f _ hp' j hl
    rcases hlive j f hl with ⟨-, hf⟩ | hl
    · have := h.bound c' _ f hp' rfl
      omega
    · exact h.replaces c' k u new f hp' j hl
  · intro f i j hi hj
    rcases hlive i f hi with ⟨hi, hfi⟩ | hi
    · rcases hlive j f hj with ⟨hj, -⟩ | hj
      · rw [hi, hj]
      · have := h.family_lt hj
        omega
    · rcases hlive j f hj with ⟨-, hfj⟩ | hj
      · have := h.family_lt hi
        omega
      · exact h.once f i j hi hj
  · intro k
    rw [goto_sessions]
    by_cases hk : k = s.next
    · subst hk
      rw [hself]
      exact .created c user origin rfl hc rfl ⟨_, rfl, rfl, rfl, rfl⟩
    · rw [hne k hk]
      exact .fades (Or.inl rfl)

/-! ## Writing a version that is to come -/

section Writing

variable {v : Option Session}

/-- Another transaction holds nothing in a slot that is free. -/
theorem not_held_of_free {x : Slot Session CallId} (h : x.free c = true) (hc : c' ≠ c)
    (v : Option Session) : x.held ≠ some (c', v) := by
  intro hv
  exact hc ((free_of_held hv).mp h)

theorem free_of_own {x : Slot Session CallId} (h : x.held = some (c, v)) : x.free c = true :=
  (free_of_held h).mpr rfl

/-- A write to a slot that is free for the call. -/
theorem moves_write (hfree : (s.sessions k).free c = true)
    (hsessions : s'.sessions = s.sessions.write c k v)
    (hcalls : s'.calls = Function.update s.calls c (some p)) (hnext : s.next ≤ s'.next) :
    Moves s c p s' := by
  refine ⟨hcalls, hnext, ?_, ?_⟩
  · intro j c' v' hc
    rw [hsessions]
    by_cases hj : j = k
    · subst hj
      rw [write_self]
      constructor
      · intro h
        rw [Option.some.injEq] at h
        exact absurd (congrArg Prod.fst h).symm hc
      · intro h
        exact absurd h (not_held_of_free hfree hc v')
    · rw [write_of_ne hj]
  · intro j c' v' _ _
    rw [hsessions, write_committed]

/-- A call that writes to one row, which it may hold, and goes on to a statement that explains what
it holds then. -/
theorem SessionInv.write (h : s.SessionInv) (hfree : (s.sessions k).free c = true)
    (hk : k < s.next) (hsessions : s'.sessions = s.sessions.write c k v)
    (hcalls : s'.calls = Function.update s.calls c (some p)) (hnext : s.next ≤ s'.next)
    (ho : Owes s s' c p) : Effect s (some c) s' := by
  refine h.fadeEffect (moves_write hfree hsessions hcalls hnext) ho ?_ ?_
  · intro j hj
    have hne : j ≠ k := Nat.ne_of_gt (Nat.lt_of_lt_of_le hk (Nat.le_trans hnext hj))
    rw [hsessions, write_of_ne hne]
    exact h.empty j (Nat.le_trans hnext hj)
  · intro j
    rw [hsessions, write_committed]
    exact Or.inl rfl

/-- What a call owes after a write, if it held no other row. -/
theorem owes_write (hsessions : s'.sessions = s.sessions.write c k v)
    (honly : ∀ j v', j ≠ k → (s.sessions j).held ≠ some (c, v'))
    (hholding : Holding p k (s.sessions k).committed v)
    (hbound : ∀ f, p.familyOf = some f → f < s'.next)
    (hlocks : ∀ j, p.locked = some j → j = k)
    (hrotation : ∀ j u new f, p ≠ .rotateCommit j u new f) : Owes s s' c p := by
  refine ⟨?_, hbound, ?_, fun j u new f he => absurd he (hrotation j u new f)⟩
  · intro j v' hj
    rw [hsessions] at hj ⊢
    by_cases hjk : j = k
    · subst hjk
      rw [write_self, Option.some.injEq, Prod.mk.injEq] at hj
      rw [write_self, ← hj.2]
      exact hholding
    · rw [write_of_ne hjk] at hj
      exact absurd hj (honly j v' hjk)
  · intro j hj
    rw [hlocks j hj, hsessions, write_self]
    exact ⟨v, rfl⟩

end Writing

/-! ## `refresh` up to its commit -/

/-- The row that the lock of a refresh is to take. -/
theorem SessionInv.refreshLock (h : s.SessionInv) {token session user status}
    (hc : s.calls c = some (.refreshLock token session user status)) :
    Effect s (some c) (s.refreshLock c token session user status) := by
  have hn : s.HoldsNone c := h.holdsNone hc fun _ _ _ => id
  unfold State.refreshLock
  by_cases hfree : (s.sessions session).free c = true
  · rw [if_pos hfree]
    have hview : (s.sessions session).view c = (s.sessions session).committed :=
      view_of_holdsNone hn session
    rw [hview]
    cases hrow : (s.sessions session).committed with
    | none => exact h.quietEffect hn (Quiet.goto rfl)
    | some r =>
        have hlocked : ∀ p : Call, Holding p session (some r) (some r) →
            (∀ f, p.familyOf = some f → f < s.next) → (∀ j, p.locked = some j → j = session) →
            (∀ j u new f, p ≠ .rotateCommit j u new f) →
            Effect s (some c) ((s.setSessions (s.sessions.lock c session)).goto c p) := by
          intro p hholding hbound hlocks hrotation
          refine h.write hfree (h.lt_next_of_row hrow) rfl rfl (Nat.le_refl _) ?_
          refine owes_write rfl (fun j v' _ => hn j v') ?_ hbound hlocks hrotation
          rw [hview, hrow]
          exact hholding
        show Effect s (some c) (if r.refreshTokenHash = token ∧ r.userId = user then _ else _)
        by_cases hmatch : r.refreshTokenHash = token ∧ r.userId = user
        · rw [if_pos hmatch]
          by_cases hrev : r.revokedAt = none
          · rw [if_neg (Classical.not_not.mpr hrev)]
            have hholds : ∀ p : Call, p.familyOf = none → Holding p session (some r) (some r) →
                p.locked = some session → (∀ j u new f, p ≠ .rotateCommit j u new f) →
                Effect s (some c) ((s.setSessions (s.sessions.lock c session)).goto c p) := by
              intro p hfam hholding hl hrotation
              refine hlocked p hholding (fun f hf => ?_) (fun j hj => ?_) hrotation
              · rw [hfam] at hf
                cases hf
              · rw [hl] at hj
                exact (Option.some.inj hj).symm
            split_ifs
            · exact hholds (.closeRevoke session) rfl ⟨rfl, rfl⟩ rfl (by rintro _ _ _ _ ⟨⟩)
            · exact hholds (.closeRevoke session) rfl ⟨rfl, rfl⟩ rfl (by rintro _ _ _ _ ⟨⟩)
            · exact hholds (.rotateRevoke session user r.tokenFamily) rfl
                ⟨rfl, rfl, r, rfl, hmatch.2, rfl, hrev⟩ rfl (by rintro _ _ _ _ ⟨⟩)
          · rw [if_pos hrev]
            cases hfam : r.tokenFamily with
            | none =>
                exact hlocked (.closeCommit session) ⟨rfl, Or.inl rfl⟩ (by rintro _ ⟨⟩)
                  (by rintro _ ⟨⟩) (by rintro _ _ _ _ ⟨⟩)
            | some f =>
                refine hlocked (.scan (.family f) .commit) rfl (fun f' hf => ?_)
                  (by rintro _ ⟨⟩) (by rintro _ _ _ _ ⟨⟩)
                rw [← Option.some.inj hf]
                exact h.family session r f hrow hfam
        · rw [if_neg hmatch]
          exact h.quietEffect hn (Quiet.goto rfl)
  · rw [if_neg hfree]
    exact h.stillEffect rfl rfl (Nat.le_refl _)

/-- What a call may hold, read where it stands. -/
theorem SessionInv.holding (h : s.SessionInv) (hc : s.calls c = some p) {v : Option Session}
    (hv : (s.sessions k).held = some (c, v)) : Holding p k (s.sessions k).committed v := by
  obtain ⟨p', hp', hh⟩ := h.held k c v hv
  rw [hc, Option.some.injEq] at hp'
  rw [hp']
  exact hh

theorem revokeLocked_of_view {r : Session} (hview : (s.sessions k).view c = some r) :
    s.revokeLocked c k = s.setSessions (s.sessions.write c k (some (r.revoke s.now))) := by
  unfold State.revokeLocked
  rw [hview]

/-- The old session of a rotation. -/
theorem SessionInv.rotateRevoke (h : s.SessionInv) {session user family}
    (hc : s.calls c = some (.rotateRevoke session user family)) :
    Effect s (some c) ((s.revokeLocked c session).goto c (.rotateInsert session user family)) := by
  obtain ⟨v, hv⟩ := h.locks c _ session hc rfl
  obtain ⟨-, hvcom, r, hr, hrest⟩ := h.holding hc hv
  have hview : (s.sessions session).view c = some r := by
    rw [view_of_held hv, hvcom, hr]
  rw [revokeLocked_of_view hview]
  refine h.write (free_of_own hv) (h.lt_next_of_held hv) rfl rfl (Nat.le_refl _) ?_
  refine owes_write rfl ?_ ⟨rfl, ⟨r, hr, hrest⟩, r, s.now, hr, rfl⟩ (fun _ hf => nomatch hf)
    (fun _ hj => (Option.some.inj hj).symm) fun _ _ _ _ he => nomatch he
  intro j v' hj hj'
  exact hj (h.holding hc hj').1

/-- The revocation of a session that is over. -/
theorem SessionInv.closeRevoke (h : s.SessionInv) {session}
    (hc : s.calls c = some (.closeRevoke session)) :
    Effect s (some c) ((s.revokeLocked c session).goto c (.closeCommit session)) := by
  obtain ⟨v, hv⟩ := h.locks c _ session hc rfl
  obtain ⟨-, hvcom⟩ := h.holding hc hv
  have honly : ∀ j v', j ≠ session → (s.sessions j).held ≠ some (c, v') := fun j v' hj hj' =>
    hj (h.holding hc hj').1
  have hview : (s.sessions session).view c = (s.sessions session).committed := by
    rw [view_of_held hv, hvcom]
  cases hr : (s.sessions session).committed with
  | some r =>
      rw [revokeLocked_of_view (hview.trans hr)]
      refine h.write (free_of_own hv) (h.lt_next_of_held hv) rfl rfl (Nat.le_refl _) ?_
      exact owes_write rfl honly ⟨rfl, Or.inr ⟨r, hr, Or.inr ⟨s.now, rfl⟩⟩⟩
        (fun _ hf => nomatch hf) (fun _ hj => nomatch hj) fun _ _ _ _ he => nomatch he
  | none =>
      -- a deleted row; the statement finds nothing to revoke
      have hstill : s.revokeLocked c session = s := by
        unfold State.revokeLocked
        rw [hview, hr]
      rw [hstill]
      have ho : Owes s (s.goto c (.closeCommit session)) c (.closeCommit session) := by
        refine ⟨?_, (fun _ hf => nomatch hf), (fun _ hl => nomatch hl), fun _ _ _ _ he => nomatch he⟩
        intro k v' hk
        obtain ⟨hks, hvc⟩ := h.holding hc hk
        exact ⟨hks, Or.inl hvc⟩
      exact h.fadeEffect ⟨rfl, Nat.le_refl _, fun _ _ _ _ => Iff.rfl, fun _ _ _ _ _ => rfl⟩ ho
        h.empty fun _ => Or.inl rfl

/-- The family that the successor of a rotation joins has no live row but the one it replaces, and
no other rotation is about to commit into it. -/
theorem SessionInv.alone (h : s.SessionInv) {session user family f}
    (hv : ∃ v, (s.sessions session).held = some (c, v))
    (hrot : Rotates (s.sessions session).committed user family)
    (hf : f = family.getD (s.next + 2)) :
    (∀ j, Live (s.sessions j).committed f → j = session) ∧
      ∀ c' k' u' new', c' ≠ c → s.calls c' ≠ some (.rotateCommit k' u' new' f) := by
  obtain ⟨r, hr, -, hfam, hrev⟩ := hrot
  cases family with
  | none =>
      have hbig : s.next + 2 = f := hf.symm
      constructor
      · intro j hl
        have := h.family_lt hl
        omega
      · intro c' k' u' new' _ hp
        have := h.bound c' _ f hp rfl
        omega
  | some f₀ =>
      have hff : f₀ = f := hf.symm
      subst hff
      have hlive : Live (s.sessions session).committed f₀ := ⟨r, hr, hfam, hrev⟩
      constructor
      · intro j hl
        exact h.once f₀ j session hl hlive
      · intro c' k' u' new' hne hp
        -- the other rotation would hold the same row
        have hk := h.replaces c' k' u' new' f₀ hp session hlive
        obtain ⟨v, hv⟩ := hv
        obtain ⟨v', hv'⟩ := h.locks c' _ k' hp rfl
        rw [← hk, hv, Option.some.injEq] at hv'
        exact hne (congrArg Prod.fst hv').symm

/-- The new session of a rotation. -/
theorem SessionInv.rotateInsert (h : s.SessionInv) {session user family}
    (hc : s.calls c = some (.rotateInsert session user family)) :
    Effect s (some c) (s.rotateInsert c session user family) := by
  obtain ⟨v, hv⟩ := h.locks c _ session hc rfl
  obtain ⟨-, hrot, hrevokes⟩ := h.holding hc hv
  have hslot : s.sessions s.next = {} := h.empty s.next (Nat.le_refl _)
  have hfree : (s.sessions s.next).free c = true := by
    rw [hslot]
    rfl
  have hne : session ≠ s.next := Nat.ne_of_lt (h.lt_next_of_held hv)
  have halone := h.alone ⟨v, hv⟩ hrot (f := family.getD (s.next + 2)) rfl
  have hbound : family.getD (s.next + 2) < s.next + 3 := by
    cases family with
    | none => exact Nat.lt_succ_self _
    | some f =>
        obtain ⟨r, hr, -, hf, -⟩ := hrot
        exact Nat.lt_of_lt_of_le (h.family session r f hr hf) (Nat.le_add_right _ _)
  unfold State.rotateInsert
  refine h.fadeEffect (moves_write hfree rfl rfl (Nat.le_add_right _ _)) ?_ ?_ ?_
  · refine ⟨?_, ?_, ?_, ?_⟩
    · intro k v' hk
      by_cases hkn : k = s.next
      · subst hkn
        refine Or.inr ⟨rfl, ?_, ?_⟩
        · rw [goto_sessions]
          show ((s.sessions.write c s.next _) s.next).committed = none
          rw [write_self, hslot]
        · change ((s.sessions.write c s.next _) s.next).held = _ at hk
          rw [write_self, Option.some.injEq, Prod.mk.injEq] at hk
          rw [← hk.2]
          exact ⟨_, rfl, rfl, rfl, rfl⟩
      · change ((s.sessions.write c s.next _) k).held = _ at hk
        show Holding _ k ((s.sessions.write c s.next _) k).committed v'
        rw [write_of_ne hkn] at hk ⊢
        obtain ⟨hks, hrot', hrev'⟩ := h.holding hc hk
        exact Or.inl ⟨hks, ⟨family, hrot'⟩, hrev'⟩
    · intro f hf
      rw [← Option.some.inj hf]
      exact hbound
    · intro k hk
      have hks : session = k := Option.some.inj hk
      subst hks
      refine ⟨v, ?_⟩
      show ((s.sessions.write c s.next _) session).held = _
      rw [write_of_ne hne]
      exact hv
    · intro k u new f he
      injection he with hk hu hnew hf
      subst hk hnew hf
      refine ⟨?_, ?_, halone.2⟩
      · show ((s.sessions.write c s.next _) s.next).committed = none ∧
          ∃ v, ((s.sessions.write c s.next _) s.next).held = some (c, v)
        rw [write_self, hslot]
        exact ⟨rfl, _, rfl⟩
      intro j hl
      refine halone.1 j ?_
      rw [goto_sessions] at hl
      change Live ((s.sessions.write c s.next _) j).committed _ at hl
      rw [write_committed] at hl
      exact hl
  · intro k hk
    have hlt : s.next < k := Nat.lt_of_lt_of_le (Nat.lt_add_of_pos_right (by decide)) hk
    show (s.sessions.write c s.next _) k = {}
    rw [write_of_ne (Nat.ne_of_gt hlt)]
    exact h.empty k (Nat.le_of_lt hlt)
  · intro k
    show Fades _ ((s.sessions.write c s.next _) k).committed
    rw [write_committed]
    exact Or.inl rfl

/-! ## Commits -/

theorem moves_commit (hsessions : s'.sessions = s.sessions.commit c)
    (hcalls : s'.calls = Function.update s.calls c (some p)) (hnext : s'.next = s.next) :
    Moves s c p s' := by
  refine ⟨hcalls, Nat.le_of_eq hnext.symm, ?_, ?_⟩
  · intro k c' v hc
    rw [hsessions]
    show ((s.sessions k).commit c).held = _ ↔ _
    rw [commit_held]
    exact and_iff_left hc
  · intro k c' v hc hk
    rw [hsessions]
    show ((s.sessions k).commit c).committed = _
    rw [commit_of_not_held]
    intro v' hv'
    rw [hk, Option.some.injEq] at hv'
    exact hc (congrArg Prod.fst hv')

theorem holdsNone_commit (hsessions : s'.sessions = s.sessions.commit c) : s'.HoldsNone c := by
  intro k v hk
  rw [hsessions] at hk
  exact (commit_held.mp hk).2 rfl

theorem commit_empty (h : s.SessionInv) (hsessions : s'.sessions = s.sessions.commit c)
    (hnext : s'.next = s.next) (hk : s'.next ≤ k) : s'.sessions k = {} := by
  rw [hnext] at hk
  rw [hsessions]
  show (s.sessions k).commit c = {}
  rw [h.empty k hk]
  rfl

/-- What a commit makes of a slot: the version to come of those the call holds. -/
theorem commit_slot (hsessions : s'.sessions = s.sessions.commit c) (k : SessionId) :
    (∃ v, (s.sessions k).held = some (c, v) ∧ (s'.sessions k).committed = v) ∨
      (s'.sessions k).committed = (s.sessions k).committed := by
  rw [hsessions]
  show (∃ v, _ ∧ ((s.sessions k).commit c).committed = v) ∨ ((s.sessions k).commit c).committed = _
  by_cases hk : ∃ v, (s.sessions k).held = some (c, v)
  · obtain ⟨v, hv⟩ := hk
    left
    exact ⟨v, hv, by rw [commit_of_held hv]⟩
  · right
    rw [commit_of_not_held fun v hv => hk ⟨v, hv⟩]

/-- The commit of a call that has only taken rows away. -/
theorem SessionInv.commitFades (h : s.SessionInv) (hp : p.plain = true)
    (hsessions : s'.sessions = s.sessions.commit c)
    (hcalls : s'.calls = Function.update s.calls c (some p)) (hnext : s'.next = s.next)
    (hfades : ∀ k v, (s.sessions k).held = some (c, v) → Fades (s.sessions k).committed v) :
    Effect s (some c) s' := by
  refine h.fadeEffect (moves_commit hsessions hcalls hnext)
    (owes_of_plain hp (holdsNone_commit hsessions)) (fun k => commit_empty h hsessions hnext) ?_
  intro k
  rcases commit_slot hsessions k with ⟨v, hv, hcom⟩ | hcom
  · rw [hcom]
    exact hfades k v hv
  · rw [hcom]
    exact Or.inl rfl

/-- The commit of a rotation: the row it replaces is revoked, and its successor is there. -/
theorem SessionInv.rotateCommit (h : s.SessionInv) {session user new f}
    (hc : s.calls c = some (.rotateCommit session user new f)) :
    Effect s (some c) ((s.commit c).goto c .done) := by
  have hsessions : ((s.commit c).goto c .done).sessions = s.sessions.commit c := rfl
  have hm : Moves s c .done ((s.commit c).goto c .done) := moves_commit rfl rfl rfl
  obtain ⟨vs, hvs⟩ := h.locks c _ session hc rfl
  have hslot := fun k => commit_slot hsessions k
  have hnext : ((s.commit c).goto c .done).next = s.next := rfl
  generalize (s.commit c).goto c .done = s' at *
  -- a live row afterwards is the successor, or was live before and is not the one replaced
  have hlive : ∀ j f', Live (s'.sessions j).committed f' →
      (j = new ∧ f' = f) ∨ (Live (s.sessions j).committed f' ∧ j ≠ session) := by
    intro j f' hl
    rcases hslot j with ⟨v, hv, hcom⟩ | hcom
    · rw [hcom] at hl
      rcases h.holding hc hv with ⟨-, -, hrevokes⟩ | ⟨hj, -, hrot⟩
      · exact absurd hl hrevokes.not_live
      · exact Or.inl ⟨hj, hrot.family_eq hl⟩
    · by_cases hj : j = session
      · -- the row replaced is held, so its committed version is the revoked one
        subst hj
        have hcommitted : (s'.sessions j).committed = vs := by
          rw [hsessions]
          show ((s.sessions j).commit c).committed = vs
          rw [commit_of_held hvs]
        rw [hcommitted] at hl
        rcases h.holding hc hvs with ⟨-, -, hrevokes⟩ | ⟨-, hnone, -⟩
        · exact absurd hl hrevokes.not_live
        · rw [← hcommitted, hcom, hnone] at hl
          obtain ⟨r, hr, -⟩ := hl
          cases hr
      · rw [hcom] at hl
        exact Or.inr ⟨hl, hj⟩
  refine hm.effect (h.move hm (owes_of_plain rfl (holdsNone_commit hsessions)) ?_ ?_ ?_ ?_) ?_
  · intro k hk
    exact commit_empty h hsessions hnext hk
  · intro k r f' hr hf'
    rw [hnext]
    rcases hslot k with ⟨v, hv, hcom⟩ | hcom
    · rw [hcom] at hr
      rcases h.holding hc hv with ⟨-, -, hrevokes⟩ | ⟨-, -, r', hr', -, hfam, -⟩
      · obtain ⟨r₀, hr₀, hfam⟩ := hrevokes.fades.family hr
        exact h.family k r₀ f' hr₀ (hfam.trans hf')
      · rw [hr', Option.some.injEq] at hr
        subst hr
        rw [hfam, Option.some.injEq] at hf'
        rw [← hf']
        exact h.bound c _ f hc rfl
    · rw [hcom] at hr
      exact h.family k r f' hr hf'
  · intro c' k u new' f' hne hp j hl
    rcases hlive j f' hl with ⟨-, hf'⟩ | ⟨hl, -⟩
    · rw [hf'] at hp
      exact absurd (h.oneRotation c' c k u new' session user new f hp hc) hne
    · exact h.replaces c' k u new' f' hp j hl
  · intro f' i j hi hj
    rcases hlive i f' hi with ⟨hi, hfi⟩ | ⟨hi, hni⟩
    · rcases hlive j f' hj with ⟨hj, -⟩ | ⟨hj, hnj⟩
      · rw [hi, hj]
      · rw [hfi] at hj
        exact absurd (h.replaces c session user new f hc j hj) hnj
    · rcases hlive j f' hj with ⟨-, hfj⟩ | ⟨hj, -⟩
      · rw [hfj] at hi
        exact absurd (h.replaces c session user new f hc i hi) hni
      · exact h.once f' i j hi hj
  · intro k
    rcases hslot k with ⟨v, hv, hcom⟩ | hcom
    · rw [hcom]
      rcases h.holding hc hv with ⟨-, -, hrevokes⟩ | ⟨hk, hnone, hrot⟩
      · exact .fades hrevokes.fades
      · subst hk
        exact .rotated c session user f rfl hc hnone hrot
    · rw [hcom]
      exact .fades (Or.inl rfl)

/-- The commit of that revocation. -/
theorem SessionInv.closeCommit (h : s.SessionInv) {session}
    (hc : s.calls c = some (.closeCommit session)) :
    Effect s (some c) ((s.commit c).goto c .done) :=
  h.commitFades rfl rfl rfl rfl fun _ _ hv => (h.holding hc hv).2

/-! ## Statements on many sessions -/

/-- A statement on many sessions never asks for a row that it made. -/
theorem Fades.apply {com : Option Session} {r : Session} (h : Fades com (some r)) (now : ℤ)
    (query : SessionQuery) : Fades com (query.apply now r) := by
  have hcom : ∃ r₀, com = some r₀ ∧ ∀ t, r.revoke t = r₀.revoke t := by
    rcases h with h | ⟨r₀, hr₀, h | ⟨t, h⟩⟩
    · exact ⟨r, h.symm, fun _ => rfl⟩
    · cases h
    · rw [Option.some.injEq] at h
      subst h
      exact ⟨r₀, hr₀, fun _ => rfl⟩
  obtain ⟨r₀, hr₀, hrevoke⟩ := hcom
  cases query with
  | allOf user => exact Or.inr ⟨r₀, hr₀, Or.inl rfl⟩
  | _ => exact Or.inr ⟨r₀, hr₀, Or.inr ⟨now, congrArg some (hrevoke now)⟩⟩

/-- The rows that an update will go through. -/
theorem SessionInv.scan (h : s.SessionInv) {query after}
    (hc : s.calls c = some (.scan query after)) : Effect s (some c) (s.scanSessions c query after) := by
  refine h.fadeEffect (p := .sweep query (s.sessions.scan c query.matches (List.range s.next)) after)
    ⟨rfl, Nat.le_refl _, fun _ _ _ _ => Iff.rfl, fun _ _ _ _ _ => rfl⟩ ?_ h.empty
    fun _ => Or.inl rfl
  refine ⟨?_, ?_, (fun _ hl => nomatch hl), fun _ _ _ _ he => nomatch he⟩
  · intro k v hk
    exact Or.inl (h.holding hc hk)
  · intro f hf
    refine h.bound c _ f hc ?_
    cases query <;> exact hf

/-- What the call sees of a row, while it sweeps. -/
theorem SessionInv.sweep_view (h : s.SessionInv) {query todo after}
    (hc : s.calls c = some (.sweep query todo after)) (hfree : (s.sessions k).free c = true) :
    Fades (s.sessions k).committed ((s.sessions k).view c) := by
  cases hheld : (s.sessions k).held with
  | none =>
      rw [view_of_none hheld]
      exact Or.inl rfl
  | some x =>
      obtain ⟨c', v⟩ := x
      have hcc := (free_of_held hheld).mp hfree
      subst hcc
      rw [view_of_held hheld]
      exact h.holding hc hheld

/-- One row of an update. -/
theorem SessionInv.sweepOne (h : s.SessionInv) {query todo todo' after}
    (hc : s.calls c = some (.sweep query todo after)) (hfree : (s.sessions k).free c = true) :
    Effect s (some c)
      ((s.setSessions (s.sessions.sweepRow c query.matches (query.apply s.now) k)).goto c
        (.sweep query todo' after)) := by
  have hbound : ∀ f, (Call.sweep query todo' after).familyOf = some f → f < s.next := by
    intro f hf
    refine h.bound c _ f hc ?_
    cases query <;> exact hf
  rcases sweepRow_cases (t := c) (k := k) query.matches (query.apply s.now) with
    ⟨-, heq⟩ | ⟨r, hview, -, heq⟩
  · rw [heq]
    refine h.fadeEffect (p := .sweep query todo' after)
      ⟨rfl, Nat.le_refl _, fun _ _ _ _ => Iff.rfl, fun _ _ _ _ _ => rfl⟩ ?_ h.empty
      fun _ => Or.inl rfl
    exact ⟨fun k v hk => h.holding hc hk, hbound, (fun _ hl => nomatch hl),
      fun _ _ _ _ he => nomatch he⟩
  · rw [heq]
    have hfades := h.sweep_view hc hfree
    rw [hview] at hfades
    have hk : k < s.next := by
      apply h.lt_next
      intro he
      rw [he] at hview
      cases hview
    refine h.write hfree hk rfl rfl (Nat.le_refl _) ?_
    refine ⟨?_, hbound, (fun _ hl => nomatch hl), fun _ _ _ _ he => nomatch he⟩
    intro j v hj
    change ((s.sessions.write c k _) j).held = _ at hj
    show Fades ((s.sessions.write c k _) j).committed v
    by_cases hjk : j = k
    · subst hjk
      rw [write_self, Option.some.injEq, Prod.mk.injEq] at hj
      rw [write_self, ← hj.2]
      exact Fades.apply hfades s.now query
    · rw [write_of_ne hjk] at hj ⊢
      exact h.holding hc hj

/-- The next row of an update, or its end. -/
theorem SessionInv.sweep (h : s.SessionInv) {query todo after}
    (hc : s.calls c = some (.sweep query todo after)) :
    Effect s (some c) (s.sweepSessions c query todo after pick) := by
  have hfades : ∀ k v, (s.sessions k).held = some (c, v) → Fades (s.sessions k).committed v :=
    fun _ _ hv => h.holding hc hv
  cases todo with
  | nil =>
      cases after with
      | commit => exact h.commitFades (p := .done) rfl rfl rfl rfl hfades
      | completeReset sub jti => exact h.commitFades (p := .done) rfl rfl rfl rfl hfades
  | cons k ks =>
      show Effect s (some c) (if pick ∈ k :: ks ∧ (s.sessions pick).free c = true then _ else s)
      by_cases hpick : pick ∈ k :: ks ∧ (s.sessions pick).free c = true
      · rw [if_pos hpick]
        exact h.sweepOne hc hpick.2
      · rw [if_neg hpick]
        exact h.stillEffect rfl rfl (Nat.le_refl _)

/-! ## One step -/

/-- A rollback. -/
theorem SessionInv.rollback (h : s.SessionInv) : Effect s (some c) ((s.rollback c).goto c .done) := by
  have hn : ((s.rollback c).goto c .done).HoldsNone c := fun k v hk => (rollback_held.mp hk).2 rfl
  refine h.fadeEffect ⟨rfl, Nat.le_refl _, ?_, ?_⟩ (owes_of_plain rfl hn) ?_ ?_
  · intro k c' v hc
    show ((s.sessions k).rollback c).held = _ ↔ _
    rw [rollback_held]
    exact and_iff_left hc
  · intro k c' v _ _
    exact rollback_committed
  · intro k hk
    show (s.sessions k).rollback c = {}
    rw [h.empty k hk]
    rfl
  · intro k
    exact Or.inl rollback_committed

/-- A call that starts holds nothing. -/
theorem starts_plain (h : Starts s p) : p.plain = true := by
  cases h <;> rfl

/-- **Step.** What a call's step does to the sessions. -/
theorem SessionInv.advance (h : s.SessionInv) (hc : s.calls c = some p) :
    Effect s (some c) (s.advance env c pick p) := by
  by_cases hq : p.quiet = true
  · have hn : s.HoldsNone c := h.holdsNone hc (quiet_not_holding hq)
    exact h.quietEffect hn (advance_quiet hn hq)
  · cases p with
    | createSession user origin => exact h.createSession hc
    | refreshLock token session user status => exact h.refreshLock hc
    | rotateRevoke session user family => exact h.rotateRevoke hc
    | rotateInsert session user family => exact h.rotateInsert hc
    | rotateCommit session user new f => exact h.rotateCommit hc
    | closeRevoke session => exact h.closeRevoke hc
    | closeCommit session => exact h.closeCommit hc
    | scan query after => exact h.scan hc
    | sweep query todo after => exact h.sweep hc
    | _ => exact absurd rfl hq

/-- **One step.** It keeps the invariant; what it does to the sessions is an `Effect` of its call. -/
theorem step_effect (env : Env) (h : s.SessionInv) (i : Input) :
    Effect s i.actor (s.step env i) := by
  have hstep := step_inv env s i
  generalize s.step env i = s' at hstep
  cases hstep with
  | @call c request hc =>
      have hn : s.HoldsNone c := by
        intro k v hk
        obtain ⟨p, hp, -⟩ := h.held k c v hk
        rw [hc] at hp
        cases hp
      exact h.quietEffect hn (Quiet.goto (starts_plain (request_starts s request)))
  | exec pick hc => exact h.advance hc
  | abort hc => exact h.rollback
  | _ => exact h.stillEffect rfl rfl (Nat.le_refl _)

/-- Where a rotation that is about to commit has come from. -/
theorem rotateCommit_step {i : Input} {k u new f}
    (h' : (s.step env i).calls c = some (.rotateCommit k u new f)) :
    (s.calls c = some (.rotateCommit k u new f) ∧ (i.actor ≠ some c ∨ s.step env i = s)) ∨
      ∃ family pick, i = .exec c pick ∧ s.calls c = some (.rotateInsert k u family) ∧
        new = s.next ∧ f = family.getD (s.next + 2) := by
  rcases step_follows h' with hsame | ⟨-, -, hstart⟩ | hdone | ⟨pick, p, hi, hp, hfollows⟩
  · exact Or.inl hsame
  · cases hstart
  · cases hdone
  · right
    cases hfollows with
    | next hnext => cases hnext
    | refreshLock _ _ _ _ hlocked => cases hlocked
    | rotateInsert hnew hf => exact ⟨_, pick, hi, hp, hnew, hf⟩

/-- Only a statement changes a committed row. -/
theorem committed_of_not_exec {i : Input} (hi : ∀ c pick, i ≠ .exec c pick) (k : SessionId) :
    ((s.step env i).sessions k).committed = (s.sessions k).committed := by
  have hstep := step_inv env s i
  generalize s.step env i = s' at hstep
  cases hstep with
  | @exec c p pick hc => exact absurd rfl (hi c pick)
  | abort hc => exact rollback_committed
  | _ => rfl

end State

/-! ## Runs -/

/-- Nothing is going on: no call is running and no row is locked. What the tables hold, the service
has written: keys, tokens and families are ones the counter has passed, a token names one session,
and no family has two live sessions. -/
structure Quiescent (s : State) : Prop where
  calls : ∀ c, s.calls c = none
  advisory : ∀ key, s.advisory key = none
  users : ∀ u, (s.users u).held = none
  sessions : ∀ k, (s.sessions k).held = none
  freshUser : ∀ u, s.next ≤ u → (s.users u).committed = none
  freshSession : ∀ k, s.next ≤ k → (s.sessions k).committed = none
  freshDevice : ∀ d, s.next ≤ d → s.devices d = none
  token : ∀ k r, (s.sessions k).committed = some r → r.refreshTokenHash < s.next
  oneToken : ∀ i j r r', (s.sessions i).committed = some r → (s.sessions j).committed = some r' →
    r.refreshTokenHash = r'.refreshTokenHash → i = j
  family : ∀ k r f, (s.sessions k).committed = some r → r.tokenFamily = some f → f < s.next
  oneLive : ∀ f i j, Live (s.sessions i).committed f → Live (s.sessions j).committed f → i = j

/-- The service before its first call. -/
theorem quiescent_empty : Quiescent {} := by
  refine ⟨fun _ => rfl, fun _ => rfl, fun _ => rfl, fun _ => rfl, fun _ _ => rfl, fun _ _ => rfl,
    fun _ _ => rfl, (fun _ _ h => nomatch h), (fun _ _ _ _ h => nomatch h),
    (fun _ _ _ h => nomatch h), ?_⟩
  rintro f i j ⟨r, hr, -⟩
  cases hr

/-- Libraries for runs on given inputs: a password is its own hash, and the code is the secret. -/
def Env.transparent : Env where
  compare := fun password passwordHash => password == passwordHash
  hash := id
  totp := fun code secret _ => code == secret
  lockKey := id

/-- The statements of a call, one after the other. -/
def execs (c : CallId) (picks : List SessionId) : List Input := picks.map (Input.exec c)

namespace State

variable {env : Env} {s₀ : State}

theorem slot_eq {x : Slot Session CallId} (hheld : x.held = none) (hcom : x.committed = none) :
    x = {} := by
  cases x
  cases hheld
  cases hcom
  rfl

/-- The tables keep the invariant while no call is under way. -/
theorem sessionInv_of_quiescent (h : Quiescent s₀) : s₀.SessionInv := by
  have hcalls : ∀ c p, s₀.calls c ≠ some p := by
    intro c p hp
    rw [h.calls c] at hp
    cases hp
  refine ⟨?_, h.family, ?_, ?_, ?_, ?_, ?_, ?_, h.oneLive⟩
  · intro k hk
    exact slot_eq (h.sessions k) (h.freshSession k hk)
  · intro c p f hp
    exact absurd hp (hcalls c p)
  · intro k c v hk
    rw [h.sessions k] at hk
    cases hk
  · intro c p k hp
    exact absurd hp (hcalls c p)
  · intro c k u new f hp
    exact absurd hp (hcalls c _)
  · intro c c' k u new k' u' new' f hp
    exact absurd hp (hcalls c _)
  · intro c k u new f hp
    exact absurd hp (hcalls c _)

/-- The invariant of the session table holds in every state of every run. -/
theorem sessionInv_run (env : Env) (h : Quiescent s₀) (is : List Input) :
    (Lib.Runs.run (State.step env) s₀ is).SessionInv :=
  Lib.Runs.run_keeps (I := SessionInv) (fun _ i hi => (step_effect env hi i).inv)
    (sessionInv_of_quiescent h) is

end State

end PredictATrade.Auth
