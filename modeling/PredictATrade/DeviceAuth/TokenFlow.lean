import PredictATrade.Lib.ReadCommitted
import PredictATrade.Lib.Runs
import PredictATrade.DeviceAuth.Schema

/-!
# `DeviceAuth.TokenFlow` — refresh tokens under READ COMMITTED

`activate` and `refresh`, statement by statement, as far as they concern the refresh tokens. Both are
transactions. `refresh` locks the row of the token presented; a token that has been used or revoked
revokes its family, by an `UPDATE` of many rows, and any other is marked as used and gets a successor
in its family.

The random draws are fresh: a new token's hash is `next`, and an activation uses the same draw for its
family. A statement that waits for a lock leaves the state as it is. A transaction may be aborted at
any time, by the database or because its connection is lost.

`Inv` says what each call holds, and that a family has one live token at most.
-/

namespace PredictATrade.DeviceAuth.Tokens

open Lib.ReadCommitted Lib.Runs

/-- A call of the service. -/
abbrev CallId := ℕ

/-! ## Calls -/

/-- What a call comes to. -/
inductive Answer where
  | activated (token : TokenHash)
  | refreshed (token : TokenHash)
  | refused (text : String)
  | aborted
  deriving DecidableEq, Repr

/-- The next statement of a call. -/
inductive Call where
  | done (answer : Answer)
  /- `activate` -/
  | activateInsert (deviceId : Id)
  | activateCommit (token : RefreshToken)
  /- `refresh` -/
  | lookup (h : TokenHash) (deviceId : Option Id)
  | reuseScan (token : RefreshToken)
  | reuseSweep (token : RefreshToken) (todo : List TokenHash)
  | markUsed (token : RefreshToken)
  | insertSuccessor (token : RefreshToken)
  | rotateCommit (token drawn : RefreshToken)
  deriving DecidableEq, Repr

/-- The tokens, the clock, and how far each call is. -/
structure State where
  now : Time
  tokens : Table TokenHash RefreshToken CallId
  next : ℕ
  /-- `now()` of a transaction is the time of its `BEGIN`. -/
  began : CallId → Time
  calls : CallId → Option Call

/-- What happens next: the clock is read anew, a call begins, executes a statement (which of many rows
the statement comes to is `pick`), or is aborted. -/
inductive Input where
  | time (t : Time)
  | begin (c : CallId) (p : Call)
  | exec (c : CallId) (pick : TokenHash)
  | abort (c : CallId)

/-- The first statement of a call. -/
def Call.First : Call → Prop
  | .activateInsert _ | .lookup _ _ => True
  | _ => False

instance : DecidablePred Call.First
  | .activateInsert _ | .lookup _ _ => inferInstanceAs (Decidable True)
  | .done _ | .activateCommit _ | .reuseScan _ | .reuseSweep _ _ | .markUsed _
  | .insertSuccessor _ | .rotateCommit _ _ => inferInstanceAs (Decidable False)

/-- The rows that a reuse revokes. -/
def inFamily (family : Id) (t : RefreshToken) : Bool :=
  t.tokenFamily == family && t.revokedAt.isNone

/-- The token, revoked. -/
def revokedAt (now : Time) (t : RefreshToken) : RefreshToken := { t with revokedAt := some now }

/-- The token, used. -/
def usedAt (now : Time) (t : RefreshToken) : RefreshToken := { t with usedAt := some now }

namespace State

/-- The state with a call at another point. -/
def goto (s : State) (c : CallId) (p : Call) : State :=
  { s with calls := Function.update s.calls c (some p) }

/-- The state with other tokens. -/
def setTokens (s : State) (tokens : Table TokenHash RefreshToken CallId) : State :=
  { s with tokens := tokens }

/-- Insert a token under the hash drawn for it. -/
def insert (s : State) (c : CallId) (token : RefreshToken) : State :=
  { s with tokens := s.tokens.write c s.next (some token), next := s.next + 1 }

/-- The statement that looks a token up, and locks it, with the code up to the next one. -/
def advanceLookup (s : State) (c : CallId) (h : TokenHash) (deviceId : Option Id) : State :=
  match (s.tokens h).committed with
  | none => s.goto c (.done (.refused "Invalid refresh token"))
  | some token =>
    if (s.tokens h).free c then
      if token.usedAt.isSome || token.revokedAt.isSome then
        (s.setTokens (s.tokens.lock c h)).goto c (.reuseScan token)
      -- both refusals roll back, and so give the lock back
      else if token.expiresAt < s.now then s.goto c (.done (.refused "Refresh token expired"))
      else if deviceId.any (· != token.deviceId) then
        s.goto c (.done (.refused "Device mismatch"))
      else (s.setTokens (s.tokens.lock c h)).goto c (.markUsed token)
    else s

/-- The next statement of a call, with the code up to the one after it. -/
def advance (s : State) (c : CallId) (pick : TokenHash) : Call → State
  | .done _ => s
  | .activateInsert deviceId =>
    let token := newToken s.next deviceId s.next (s.began c)
    (s.insert c token).goto c (.activateCommit token)
  | .activateCommit token =>
    (s.setTokens (s.tokens.commit c)).goto c (.done (.activated token.tokenHash))
  | .lookup h deviceId => s.advanceLookup c h deviceId
  | .reuseScan token =>
    s.goto c (.reuseSweep token (s.tokens.scan c (inFamily token.tokenFamily) (List.range s.next)))
  | .reuseSweep token todo =>
    if todo = [] then
      (s.setTokens (s.tokens.commit c)).goto c
        (.done (.refused "Session invalidated due to token reuse"))
    else if pick ∈ todo ∧ (s.tokens pick).free c then
      (s.setTokens (s.tokens.sweepRow c (inFamily token.tokenFamily)
        (fun t => some (revokedAt (s.began c) t)) pick)).goto c (.reuseSweep token (todo.erase pick))
    else s
  | .markUsed token =>
    (s.setTokens (s.tokens.write c token.tokenHash (some (usedAt (s.began c) token)))).goto c
      (.insertSuccessor token)
  | .insertSuccessor token =>
    let drawn := newToken s.next token.deviceId token.tokenFamily (s.began c)
    (s.insert c drawn).goto c (.rotateCommit token drawn)
  | .rotateCommit _ drawn =>
    (s.setTokens (s.tokens.commit c)).goto c (.done (.refreshed drawn.tokenHash))

/-- A call that has not ended yet is rolled back. -/
def abort (s : State) (c : CallId) : State :=
  match s.calls c with
  | none | some (.done _) => s
  | some _ => (s.setTokens (s.tokens.rollback c)).goto c (.done .aborted)

/-- The state after one more input. -/
def step (s : State) : Input → State
  | .time t => { s with now := t }
  | .begin c p =>
    if s.calls c = none ∧ p.First then
      { s.goto c p with began := Function.update s.began c s.now }
    else s
  | .exec c pick =>
    match s.calls c with
    | some p => s.advance c pick p
    | none => s
  | .abort c => s.abort c

/-- Before the first call: no tokens yet. -/
def start (now : Time) : State where
  now := now
  tokens := fun _ => {}
  next := 0
  began := fun _ => now
  calls := fun _ => none

end State

/-! ## Live tokens -/

/-- Neither used nor revoked. -/
def Unspent (t : RefreshToken) : Prop := t.usedAt = none ∧ t.revokedAt = none

instance : DecidablePred Unspent := fun t =>
  inferInstanceAs (Decidable (t.usedAt = none ∧ t.revokedAt = none))

/-- The row is an unspent token of the family. -/
def Live (row : Option RefreshToken) (f : Id) : Prop :=
  ∃ t, row = some t ∧ t.tokenFamily = f ∧ Unspent t

/-- A version of a row that a statement may leave behind. -/
inductive Spends (t : RefreshToken) : RefreshToken → Prop where
  | same : Spends t t
  | used (now : Time) : Spends t (usedAt now t)
  | revoked (now : Time) : Spends t (revokedAt now t)

theorem Spends.tokenHash {t t' : RefreshToken} (h : Spends t t') : t'.tokenHash = t.tokenHash := by
  cases h <;> rfl

theorem Spends.tokenFamily {t t' : RefreshToken} (h : Spends t t') :
    t'.tokenFamily = t.tokenFamily := by
  cases h <;> rfl

theorem Spends.unspent {t t' : RefreshToken} (h : Spends t t') (hu : Unspent t') : t' = t := by
  cases h with
  | same => rfl
  | used now => exact absurd hu.1 (by simp [usedAt])
  | revoked now => exact absurd hu.2 (by simp [revokedAt])

theorem Spends.inFamily {t t' : RefreshToken} {f : Id} (h : Spends t t')
    (hf : inFamily f t' = true) : inFamily f t = true := by
  cases h with
  | same => exact hf
  | used now => exact hf
  | revoked now => simp [Tokens.inFamily, revokedAt] at hf

/-! ## The invariant -/

/-- The version that a call holds of a row is explained by where the call stands. -/
def Call.Explains (k : TokenHash) (com v : Option RefreshToken) : Call → Prop
  | .activateCommit token => k = token.tokenHash ∧ com = none ∧ v = some token
  | .reuseScan _ => ∃ t, com = some t ∧ v = some t
  | .reuseSweep _ _ => ∃ t, com = some t ∧ (v = some t ∨ ∃ now, v = some (revokedAt now t))
  | .markUsed token => k = token.tokenHash ∧ com = some token ∧ v = some token
  | .insertSuccessor token =>
      k = token.tokenHash ∧ com = some token ∧ ∃ now, v = some (usedAt now token)
  | .rotateCommit token drawn =>
      (k = token.tokenHash ∧ com = some token ∧ ∃ now, v = some (usedAt now token)) ∨
        (k = drawn.tokenHash ∧ com = none ∧ v = some drawn)
  | _ => False

/-- What a call holds, going by where it stands. -/
def Call.Owes (tokens : Table TokenHash RefreshToken CallId) (c : CallId) : Call → Prop
  | .activateCommit token =>
      tokens token.tokenHash = ⟨none, some (c, some token)⟩ ∧
        token.tokenFamily = token.tokenHash ∧ Unspent token
  | .reuseScan token => tokens token.tokenHash = ⟨some token, some (c, some token)⟩
  | .reuseSweep token _ =>
      ∃ v, tokens token.tokenHash = ⟨some token, some (c, v)⟩
  | .markUsed token =>
      tokens token.tokenHash = ⟨some token, some (c, some token)⟩ ∧ Unspent token
  | .insertSuccessor token =>
      (∃ now, tokens token.tokenHash = ⟨some token, some (c, some (usedAt now token))⟩) ∧
        Unspent token
  | .rotateCommit token drawn =>
      (∃ now, tokens token.tokenHash = ⟨some token, some (c, some (usedAt now token))⟩) ∧
        Unspent token ∧ tokens drawn.tokenHash = ⟨none, some (c, some drawn)⟩ ∧
        drawn.tokenFamily = token.tokenFamily ∧ Unspent drawn
  | _ => True

namespace State

/-- A family has at most one live token. -/
def OneLive (s : State) : Prop :=
  ∀ f i j, Live (s.tokens i).committed f → Live (s.tokens j).committed f → i = j

/-- The rows, the locks and the calls belong together. -/
structure Inv (s : State) : Prop where
  row : ∀ k t, (s.tokens k).committed = some t → t.tokenHash = k ∧ k < s.next ∧
    ∃ root, (s.tokens t.tokenFamily).committed = some root
  held : ∀ k c v, (s.tokens k).held = some (c, v) → k < s.next ∧
    ∃ p, s.calls c = some p ∧ p.Explains k (s.tokens k).committed v
  owes : ∀ c p, s.calls c = some p → p.Owes s.tokens c
  one : s.OneLive

/-! ## Steps that keep the invariant -/

variable {s s' : State} {c c' : CallId} {k : TokenHash} {p p' : Call} {i : Input}

theorem owes_of_slots {tb tb' : Table TokenHash RefreshToken CallId} (h : p.Owes tb c)
    (hsame : ∀ k v, (tb k).held = some (c, v) → tb' k = tb k) : p.Owes tb' c := by
  have hslot : ∀ {k com v}, tb k = ⟨com, some (c, v)⟩ → tb' k = ⟨com, some (c, v)⟩ :=
    fun {k com v} hk => (hsame k v (by rw [hk])).trans hk
  cases p with
  | activateCommit token => exact ⟨hslot h.1, h.2⟩
  | reuseScan token => exact hslot h
  | reuseSweep token todo => exact h.imp fun v hv => hslot hv
  | markUsed token => exact ⟨hslot h.1, h.2⟩
  | insertSuccessor token => exact ⟨h.1.imp fun now hk => hslot hk, h.2⟩
  | rotateCommit token drawn =>
      exact ⟨h.1.imp fun now hk => hslot hk, h.2.1, hslot h.2.2.1, h.2.2.2⟩
  | _ => trivial

/-- A call moves on to `p'`: it leaves the slots of the others alone, and its own are explained by
where it stands then. -/
theorem Inv.move (hi : s.Inv) (hcalls : s'.calls = Function.update s.calls c (some p'))
    (hother : ∀ k c' v, c' ≠ c → (s.tokens k).held = some (c', v) → s'.tokens k = s.tokens k)
    (hheld : ∀ k c' v, (s'.tokens k).held = some (c', v) →
      (c' ≠ c ∧ (s.tokens k).held = some (c', v)) ∨
        (c' = c ∧ k < s'.next ∧ p'.Explains k (s'.tokens k).committed v))
    (hnext : s.next ≤ s'.next) (howes : p'.Owes s'.tokens c)
    (hrow : ∀ k t, (s'.tokens k).committed = some t → t.tokenHash = k ∧ k < s'.next ∧
      ∃ root, (s'.tokens t.tokenFamily).committed = some root) (hone : s'.OneLive) : s'.Inv := by
  refine ⟨hrow, ?_, ?_, hone⟩
  · intro k c' v hk
    rcases hheld k c' v hk with ⟨hne, hold⟩ | ⟨rfl, hlt, hexp⟩
    · obtain ⟨hlt, p, hp, hexp⟩ := hi.held k c' v hold
      refine ⟨Nat.lt_of_lt_of_le hlt hnext, p, ?_, ?_⟩
      · rw [hcalls, Function.update_of_ne hne]; exact hp
      · rw [hother k c' v hne hold]; exact hexp
    · exact ⟨hlt, p', by rw [hcalls, Function.update_self], hexp⟩
  · intro c' p hp
    by_cases hne : c' = c
    · subst hne
      rw [hcalls, Function.update_self] at hp
      exact Option.some.inj hp ▸ howes
    · rw [hcalls, Function.update_of_ne hne] at hp
      exact owes_of_slots (hi.owes c' p hp) fun k v hk => hother k c' v hne hk

/-- The same where no committed version changes. -/
theorem Inv.moveHeld (hi : s.Inv) (hcalls : s'.calls = Function.update s.calls c (some p'))
    (hcom : ∀ k, (s'.tokens k).committed = (s.tokens k).committed)
    (hother : ∀ k c' v, c' ≠ c → (s.tokens k).held = some (c', v) → s'.tokens k = s.tokens k)
    (hheld : ∀ k c' v, (s'.tokens k).held = some (c', v) →
      (c' ≠ c ∧ (s.tokens k).held = some (c', v)) ∨
        (c' = c ∧ k < s'.next ∧ p'.Explains k (s.tokens k).committed v))
    (hnext : s.next ≤ s'.next) (howes : p'.Owes s'.tokens c) : s'.Inv := by
  refine hi.move hcalls hother ?_ hnext howes ?_ ?_
  · intro k c' v hk
    rw [hcom k]
    exact hheld k c' v hk
  · intro k t ht
    rw [hcom] at ht
    obtain ⟨hhash, hlt, root, hroot⟩ := hi.row k t ht
    exact ⟨hhash, Nat.lt_of_lt_of_le hlt hnext, root, by rw [hcom]; exact hroot⟩
  · intro f i j hli hlj
    rw [hcom] at hli hlj
    exact hi.one f i j hli hlj

/-- A call moves on without touching a row. -/
theorem Inv.goto (hi : s.Inv)
    (hexp : ∀ p, s.calls c = some p → ∀ k com v, p.Explains k com v → p'.Explains k com v)
    (howes : p'.Owes s.tokens c) : (s.goto c p').Inv := by
  refine hi.moveHeld rfl (fun _ => rfl) (fun _ _ _ _ _ => rfl) ?_ (Nat.le_refl _) howes
  intro k c' v hk
  obtain ⟨hlt, p, hp, he⟩ := hi.held k c' v hk
  by_cases hne : c' = c
  · subst hne
    exact .inr ⟨rfl, hlt, hexp p hp k _ v he⟩
  · exact .inl ⟨hne, hk⟩

/-- A call moves on by writing a row that is free for it. -/
theorem Inv.write (hi : s.Inv) {v : Option RefreshToken} (hcall : s.calls c = some p)
    (htokens : s'.tokens = s.tokens.write c k v)
    (hcalls : s'.calls = Function.update s.calls c (some p')) (hnext : s.next ≤ s'.next)
    (hlt : k < s'.next) (hfree : ∀ c' v, (s.tokens k).held = some (c', v) → c' = c)
    (hexp : p'.Explains k (s.tokens k).committed v)
    (hrest : ∀ j com v, j ≠ k → p.Explains j com v → p'.Explains j com v)
    (howes : p'.Owes s'.tokens c) : s'.Inv := by
  refine hi.moveHeld hcalls ?_ ?_ ?_ hnext howes
  · intro j
    rw [htokens, write_committed]
  · intro j c' w hne hj
    rw [htokens, write_of_ne]
    rintro rfl
    exact hne (hfree c' w hj)
  · intro j c' w hj
    rw [htokens] at hj
    by_cases hjk : j = k
    · subst hjk
      rw [write_self, Option.some.injEq, Prod.mk.injEq] at hj
      obtain ⟨rfl, rfl⟩ := hj
      exact .inr ⟨rfl, hlt, hexp⟩
    · rw [write_of_ne hjk] at hj
      obtain ⟨hjlt, p₀, hp₀, he⟩ := hi.held j c' w hj
      by_cases hne : c' = c
      · subst hne
        obtain rfl := Option.some.inj (hcall.symm.trans hp₀)
        exact .inr ⟨rfl, Nat.lt_of_lt_of_le hjlt hnext, hrest j _ w hjk he⟩
      · exact .inl ⟨hne, hj⟩

theorem Inv.rollback (hi : s.Inv) (answer : Answer) :
    ((s.setTokens (s.tokens.rollback c)).goto c (.done answer)).Inv := by
  refine hi.moveHeld rfl (fun _ => rollback_committed) ?_ ?_ (Nat.le_refl _) trivial
  · intro k c' v hne hk
    exact rollback_of_other hk hne
  · intro k c' v hk
    obtain ⟨hold, hne⟩ := rollback_held.mp hk
    exact .inl ⟨hne, hold⟩

/-! ## Commits -/

/-- How the committed version of a row may change, by a step of the call `a`. -/
inductive Change (s : State) (a : Option CallId) (k : TokenHash) (v : Option RefreshToken) :
    Prop where
  | same (hv : v = (s.tokens k).committed)
  | spent (t t' : RefreshToken) (ht : (s.tokens k).committed = some t) (hv : v = some t')
      (hs : Spends t t')
  | activated (c : CallId) (token : RefreshToken) (ha : a = some c)
      (hc : s.calls c = some (.activateCommit token)) (hk : k = token.tokenHash)
      (hnone : (s.tokens k).committed = none) (hv : v = some token)
  | rotated (c : CallId) (token drawn : RefreshToken) (ha : a = some c)
      (hc : s.calls c = some (.rotateCommit token drawn)) (hk : k = drawn.tokenHash)
      (hnone : (s.tokens k).committed = none) (hv : v = some drawn)

theorem Change.kept {a : Option CallId} {v : Option RefreshToken} (h : Change s a k v)
    {t : RefreshToken} (ht : (s.tokens k).committed = some t) :
    ∃ t', v = some t' ∧ Spends t t' := by
  cases h with
  | same hv => exact ⟨t, hv.trans ht, .same⟩
  | spent t₀ t' ht₀ hv hs =>
      obtain rfl := Option.some.inj (ht.symm.trans ht₀)
      exact ⟨t', hv, hs⟩
  | activated c token ha hc hk hnone hv => rw [ht] at hnone; cases hnone
  | rotated c token drawn ha hc hk hnone hv => rw [ht] at hnone; cases hnone

theorem commit_change (hi : s.Inv) (hcall : s.calls c = some p) (k : TokenHash) :
    Change s (some c) k ((s.tokens.commit c) k).committed := by
  rcases commit_cases (s.tokens k) c with ⟨v, hv, heq⟩ | ⟨-, heq⟩
  · show Change s (some c) k ((s.tokens k).commit c).committed
    rw [heq]
    obtain ⟨-, p₀, hp₀, hexp⟩ := hi.held k c v hv
    obtain rfl := Option.some.inj (hcall.symm.trans hp₀)
    cases p with
    | activateCommit token =>
        obtain ⟨hk, hnone, rfl⟩ := hexp
        exact .activated c token rfl hcall hk hnone rfl
    | reuseScan token =>
        obtain ⟨t, ht, rfl⟩ := hexp
        exact .spent t t ht rfl .same
    | reuseSweep token todo =>
        obtain ⟨t, ht, rfl | ⟨now, rfl⟩⟩ := hexp
        · exact .spent t t ht rfl .same
        · exact .spent t _ ht rfl (.revoked now)
    | markUsed token =>
        obtain ⟨-, ht, rfl⟩ := hexp
        exact .spent token token ht rfl .same
    | insertSuccessor token =>
        obtain ⟨-, ht, now, rfl⟩ := hexp
        exact .spent token _ ht rfl (.used now)
    | rotateCommit token drawn =>
        rcases hexp with ⟨-, ht, now, rfl⟩ | ⟨hk, hnone, rfl⟩
        · exact .spent token _ ht rfl (.used now)
        · exact .rotated c token drawn rfl hcall hk hnone rfl
    | done answer => exact hexp.elim
    | activateInsert deviceId => exact hexp.elim
    | lookup h deviceId => exact hexp.elim
  · show Change s (some c) k ((s.tokens k).commit c).committed
    rw [heq]
    exact .same rfl

/-- A commit of the call `a` that brings the row to a family: of an activation, or of a rotation. -/
inductive Brings (s : State) : Option CallId → TokenHash → Id → Prop where
  | activated (c : CallId) (token : RefreshToken) (hc : s.calls c = some (.activateCommit token)) :
      Brings s (some c) token.tokenHash token.tokenFamily
  | rotated (c : CallId) (token drawn : RefreshToken)
      (hc : s.calls c = some (.rotateCommit token drawn)) :
      Brings s (some c) drawn.tokenHash drawn.tokenFamily

/-- A commit brings one row. -/
theorem Brings.unique {a : Option CallId} {i j : TokenHash} {f f' : Id} (h : s.Brings a i f)
    (h' : s.Brings a j f') : i = j := by
  cases h with
  | activated c token hc =>
      cases h' with
      | activated _ token' hc' =>
          cases hc.symm.trans hc'
          rfl
      | rotated _ token' drawn' hc' => cases hc.symm.trans hc'
  | rotated c token drawn hc =>
      cases h' with
      | activated _ token' hc' => cases hc.symm.trans hc'
      | rotated _ token' drawn' hc' =>
          cases hc.symm.trans hc'
          rfl

/-- A row that is live after a step was live before it, or is the one that the step commits. -/
theorem Change.live {a : Option CallId} {v : Option RefreshToken} {f : Id} (h : Change s a k v)
    (hl : Live v f) : (Live (s.tokens k).committed f ∧ v = (s.tokens k).committed) ∨
      s.Brings a k f := by
  obtain ⟨t, hv, rfl, hu⟩ := hl
  cases h with
  | same hsame => exact .inl ⟨⟨t, hsame ▸ hv, rfl, hu⟩, hsame⟩
  | spent t₀ t' ht₀ hv' hs =>
      obtain rfl := Option.some.inj (hv'.symm.trans hv)
      obtain rfl := hs.unspent hu
      exact .inl ⟨⟨t', ht₀, rfl, hu⟩, hv'.trans ht₀.symm⟩
  | activated c token ha hc hk hnone hv' =>
      obtain rfl := Option.some.inj (hv'.symm.trans hv)
      subst ha hk
      exact .inr (.activated c _ hc)
  | rotated c token drawn ha hc hk hnone hv' =>
      obtain rfl := Option.some.inj (hv'.symm.trans hv)
      subst ha hk
      exact .inr (.rotated c token _ hc)

/-- No committed row is of a family whose first token is not committed. -/
theorem Inv.unborn (hi : s.Inv) {f : Id} (hf : (s.tokens f).committed = none) :
    ¬ Live (s.tokens k).committed f := by
  rintro ⟨t, ht, rfl, -⟩
  obtain ⟨-, -, root, hroot⟩ := hi.row k t ht
  rw [hf] at hroot
  cases hroot

theorem Inv.commit (hi : s.Inv) (hcall : s.calls c = some p) (answer : Answer) :
    ((s.setTokens (s.tokens.commit c)).goto c (.done answer)).Inv := by
  have hchange := commit_change hi hcall
  refine hi.move rfl ?_ ?_ (Nat.le_refl _) trivial ?_ ?_
  · intro k c' v hne hk
    exact commit_of_other hk hne
  · intro k c' v hk
    obtain ⟨hold, hne⟩ := commit_held.mp hk
    exact .inl ⟨hne, hold⟩
  · intro k t ht
    change ((s.tokens.commit c) k).committed = some t at ht
    have hroot : ∀ f root, (s.tokens f).committed = some root →
        ∃ root', ((s.tokens.commit c) f).committed = some root' := fun f root h =>
      ((hchange f).kept h).imp fun _ h => h.1
    have hc := hchange k
    rw [ht] at hc
    cases hc with
    | same hv =>
        obtain ⟨hhash, hlt, root, h⟩ := hi.row k t hv.symm
        exact ⟨hhash, hlt, hroot _ root h⟩
    | spent t₀ t' ht₀ hv hs =>
        obtain rfl := Option.some.inj hv
        obtain ⟨hhash, hlt, root, h⟩ := hi.row k t₀ ht₀
        exact ⟨hs.tokenHash.trans hhash, hlt, hs.tokenFamily ▸ hroot _ root h⟩
    | activated c' token ha hc' hk hnone hv =>
        obtain rfl := Option.some.inj hv
        obtain ⟨hslot, hfam, -⟩ := hi.owes c' _ hc'
        have hlt := (hi.held _ c' _ (by rw [hslot])).1
        refine ⟨hk.symm, hk ▸ hlt, t, ?_⟩
        rw [hfam, ← hk]
        exact ht
    | rotated c' token drawn ha hc' hk hnone hv =>
        obtain rfl := Option.some.inj hv
        obtain ⟨⟨now, hslot⟩, -, hdrawn, hfam, -⟩ := hi.owes c' _ hc'
        have hlt := (hi.held _ c' _ (by rw [hdrawn])).1
        obtain ⟨-, -, root, h⟩ := hi.row token.tokenHash token (by rw [hslot])
        exact ⟨hk.symm, hk ▸ hlt, hfam ▸ hroot _ root h⟩
  · -- the step commits at most one live row, and its family had none but the one that is spent
    intro f i j hli hlj
    change Live ((s.tokens.commit c) i).committed f at hli
    change Live ((s.tokens.commit c) j).committed f at hlj
    have hnew : ∀ i j, Live (s.tokens i).committed f →
        ((s.tokens.commit c) i).committed = (s.tokens i).committed →
        Live ((s.tokens.commit c) j).committed f → i = j := by
      intro i j hi₀ hsame hlj
      rcases (hchange j).live hlj with ⟨hj₀, -⟩ | hb
      · exact hi.one f i j hi₀ hj₀
      · cases hb with
        | activated _ token hc' =>
            obtain ⟨hslot, hfam, -⟩ := hi.owes c _ hc'
            exact absurd hi₀ (hi.unborn (by rw [hfam, hslot]))
        | rotated _ token drawn hc' =>
            obtain ⟨⟨now, hslot⟩, hu, -, hfam, -⟩ := hi.owes c _ hc'
            have hlive : Live (s.tokens token.tokenHash).committed drawn.tokenFamily :=
              ⟨token, by rw [hslot], hfam.symm, hu⟩
            obtain rfl := hi.one _ i token.tokenHash hi₀ hlive
            have hcom : ((s.tokens.commit c) token.tokenHash).committed =
                some (usedAt now token) := by
              show ((s.tokens token.tokenHash).commit c).committed = _
              rw [commit_of_held (v := some (usedAt now token)) (by rw [hslot])]
            rw [hsame, hslot] at hcom
            exact absurd (Option.some.inj hcom ▸ hu.1 : (usedAt now token).usedAt = none)
              (by simp [usedAt])
    rcases (hchange i).live hli with ⟨hi₀, hsame⟩ | hbi
    · exact hnew i j hi₀ hsame hlj
    · rcases (hchange j).live hlj with ⟨hj₀, hsame⟩ | hbj
      · exact (hnew j i hj₀ hsame hli).symm
      · exact hbi.unique hbj

/-! ## The statements -/

theorem Inv.next_empty (hi : s.Inv) : s.tokens s.next = {} := by
  have hcom : (s.tokens s.next).committed = none := by
    cases h : (s.tokens s.next).committed with
    | none => rfl
    | some t => exact absurd (hi.row _ t h).2.1 (lt_irrefl _)
  have hheld : (s.tokens s.next).held = none := by
    cases h : (s.tokens s.next).held with
    | none => rfl
    | some x => exact absurd (hi.held _ x.1 x.2 h).1 (lt_irrefl _)
  cases h : s.tokens s.next
  rw [h] at hcom hheld
  exact congrArg₂ Slot.mk hcom hheld

/-- A call whose position explains nothing holds nothing. -/
theorem Inv.holds_none (hi : s.Inv) (hcall : s.calls c = some p)
    (hexp : ∀ k com v, ¬ p.Explains k com v) {v : Option RefreshToken} :
    (s.tokens k).held ≠ some (c, v) := by
  intro h
  obtain ⟨-, p₀, hp₀, he⟩ := hi.held k c v h
  obtain rfl := Option.some.inj (hcall.symm.trans hp₀)
  exact hexp _ _ _ he

theorem Inv.insert (hi : s.Inv) {token : RefreshToken} (hcall : s.calls c = some p)
    (hexp : p'.Explains s.next none (some token))
    (hrest : ∀ j com v, j ≠ s.next → p.Explains j com v → p'.Explains j com v)
    (howes : p'.Owes (s.tokens.write c s.next (some token)) c) :
    ((s.insert c token).goto c p').Inv := by
  refine hi.write hcall rfl rfl (Nat.le_succ _) (Nat.lt_succ_self _) ?_ ?_ hrest howes
  · intro c' v h
    rw [hi.next_empty] at h
    cases h
  · rw [hi.next_empty]
    exact hexp

/-- Locking a committed row that nobody holds writes it as it is. -/
theorem lock_eq_write {token : RefreshToken} {h : TokenHash}
    (hcom : (s.tokens h).committed = some token) (hheld : (s.tokens h).held = none) :
    s.tokens.lock c h = s.tokens.write c h (some token) := by
  unfold Table.lock
  rw [view_of_none hheld, hcom]

/-- A row that is free for a call that holds nothing is held by nobody. -/
theorem held_of_free {h : TokenHash} (hfree : (s.tokens h).free c = true)
    (hnone : ∀ {v}, (s.tokens h).held ≠ some (c, v)) : (s.tokens h).held = none := by
  cases hh : (s.tokens h).held with
  | none => rfl
  | some x =>
      obtain ⟨c', v⟩ := x
      obtain rfl := (free_of_held hh).mp hfree
      exact absurd hh hnone

theorem Inv.lookup (hi : s.Inv) {h : TokenHash} {deviceId : Option Id}
    (hcall : s.calls c = some (.lookup h deviceId)) : (s.advanceLookup c h deviceId).Inv := by
  have hnone : ∀ {k v}, (s.tokens k).held ≠ some (c, v) :=
    hi.holds_none hcall fun _ _ _ he => he
  have hidle : ∀ {p'}, p'.Owes s.tokens c → (s.goto c p').Inv := fun howes =>
    hi.goto (fun p hp k com v he => by
      obtain rfl := Option.some.inj (hcall.symm.trans hp)
      exact he.elim) howes
  unfold advanceLookup
  cases hcom : (s.tokens h).committed with
  | none => exact hidle trivial
  | some token =>
      by_cases hfree : (s.tokens h).free c = true
      · simp only [hfree, if_true]
        have hheld : (s.tokens h).held = none := held_of_free hfree hnone
        obtain rfl : token.tokenHash = h := (hi.row h token hcom).1
        have hslot : s.tokens.write c token.tokenHash (some token) token.tokenHash =
            ⟨some token, some (c, some token)⟩ := by
          rw [write_self, hcom]
        have hwrite : ∀ {p'}, p'.Explains token.tokenHash (some token) (some token) →
            p'.Owes (s.tokens.write c token.tokenHash (some token)) c →
            ((s.setTokens (s.tokens.lock c token.tokenHash)).goto c p').Inv := by
          intro p' hexp howes
          rw [lock_eq_write hcom hheld]
          refine hi.write hcall rfl rfl (Nat.le_refl _) (hi.row _ token hcom).2.1 ?_ ?_ ?_ howes
          · intro c' v hh
            rw [hheld] at hh
            cases hh
          · rw [hcom]
            exact hexp
          · exact fun _ _ _ _ he => he.elim
        split_ifs with hspent hexpired hdevice
        · exact hwrite ⟨token, rfl, rfl⟩ hslot
        · exact hidle trivial
        · exact hidle trivial
        · refine hwrite ⟨rfl, rfl, rfl⟩ ⟨hslot, ?_⟩
          simp only [Bool.or_eq_true, not_or, Bool.not_eq_true, Option.isSome_eq_false_iff,
            Option.isNone_iff_eq_none] at hspent
          exact hspent
      · simp only [hfree]
        exact hi

/-- One row of the `UPDATE` of a reuse: nothing, or the row is revoked. -/
theorem sweep_cases (s : State) (c : CallId) (pick : TokenHash) (f : Id) :
    ((∀ t, (s.tokens pick).view c = some t → inFamily f t = false) ∧
      s.tokens.sweepRow c (inFamily f) (fun t => some (revokedAt (s.began c) t)) pick = s.tokens) ∨
    ∃ t, (s.tokens pick).view c = some t ∧ inFamily f t = true ∧
      s.tokens.sweepRow c (inFamily f) (fun t => some (revokedAt (s.began c) t)) pick =
        s.tokens.write c pick (some (revokedAt (s.began c) t)) :=
  sweepRow_cases _ _

theorem Inv.sweep (hi : s.Inv) {token : RefreshToken} {todo todo' : List TokenHash}
    {pick : TokenHash} (hcall : s.calls c = some (.reuseSweep token todo))
    (hfree : (s.tokens pick).free c = true) :
    ((s.setTokens (s.tokens.sweepRow c (inFamily token.tokenFamily)
      (fun t => some (revokedAt (s.began c) t)) pick)).goto c (.reuseSweep token todo')).Inv := by
  obtain ⟨v₀, hslot⟩ := hi.owes c _ hcall
  rcases sweep_cases s c pick token.tokenFamily with ⟨-, heq⟩ | ⟨t, hview, hp, heq⟩
  · rw [heq]
    refine hi.goto (fun p hp k com v he => ?_) ⟨v₀, hslot⟩
    obtain rfl := Option.some.inj (hcall.symm.trans hp)
    exact he
  · have hcom : (s.tokens pick).committed = some t := by
      cases hh : (s.tokens pick).held with
      | none => rw [← hview, view_of_none hh]
      | some x =>
          -- a version of its own that is not revoked is the committed one
          obtain ⟨c', v⟩ := x
          obtain rfl := (free_of_held hh).mp hfree
          rw [view_of_held hh] at hview
          obtain ⟨-, p₀, hp₀, he⟩ := hi.held _ _ _ hh
          obtain rfl := Option.some.inj (hcall.symm.trans hp₀)
          obtain ⟨t₀, ht₀, hv | ⟨now, hv⟩⟩ := he
          · rw [ht₀, ← hv, hview]
          · rw [hview] at hv
            obtain rfl := Option.some.inj hv
            simp [inFamily, revokedAt] at hp
    rw [heq]
    refine hi.write hcall rfl rfl (Nat.le_refl _) (hi.row pick t hcom).2.1 ?_
      ⟨t, hcom, .inr ⟨_, rfl⟩⟩ (fun _ _ _ _ he => he) ?_
    · intro c' v hh
      exact (free_of_held hh).mp hfree
    · by_cases hk : token.tokenHash = pick
      · subst hk
        refine ⟨some (revokedAt (s.began c) t), ?_⟩
        show s.tokens.write c _ _ token.tokenHash = _
        rw [write_self, hslot]
      · refine ⟨v₀, ?_⟩
        show s.tokens.write c _ _ token.tokenHash = _
        rw [write_of_ne hk, hslot]

/-- A call's step keeps the invariant. -/
theorem advance_inv (hi : s.Inv) (hcall : s.calls c = some p) (pick : TokenHash) :
    (s.advance c pick p).Inv := by
  cases p with
  | done answer => exact hi
  | activateInsert deviceId =>
      refine hi.insert hcall ⟨rfl, rfl, rfl⟩ (fun _ _ _ _ he => he.elim) ⟨?_, rfl, rfl, rfl⟩
      show s.tokens.write c s.next _ s.next = _
      rw [write_self, hi.next_empty]
  | activateCommit token => exact hi.commit hcall _
  | lookup h deviceId => exact hi.lookup hcall
  | reuseScan token =>
      refine hi.goto (fun p hp k com v he => ?_) ⟨_, hi.owes c _ hcall⟩
      obtain rfl := Option.some.inj (hcall.symm.trans hp)
      obtain ⟨t, ht, hv⟩ := he
      exact ⟨t, ht, .inl hv⟩
  | reuseSweep token todo =>
      simp only [advance]
      split_ifs with hdone hpick
      · exact hi.commit hcall _
      · exact hi.sweep hcall hpick.2
      · exact hi
  | markUsed token =>
      obtain ⟨hslot, hu⟩ := hi.owes c _ hcall
      have hlt := (hi.held _ c _ (by rw [hslot])).1
      refine hi.write hcall rfl rfl (Nat.le_refl _) hlt ?_ ?_ ?_ ⟨⟨s.began c, ?_⟩, hu⟩
      · intro c' v hh
        rw [hslot, Option.some.injEq, Prod.mk.injEq] at hh
        exact hh.1.symm
      · rw [hslot]
        exact ⟨rfl, rfl, _, rfl⟩
      · exact fun j com v hj he => absurd he.1 hj
      · show s.tokens.write c _ _ token.tokenHash = _
        rw [write_self, hslot]
  | insertSuccessor token =>
      obtain ⟨⟨now, hslot⟩, hu⟩ := hi.owes c _ hcall
      have hne : token.tokenHash ≠ s.next :=
        Nat.ne_of_lt (hi.held _ c _ (by rw [hslot])).1
      refine hi.insert hcall (.inr ⟨rfl, rfl, rfl⟩) (fun j com v _ he => .inl he)
        ⟨⟨now, ?_⟩, hu, ?_, rfl, rfl, rfl⟩
      · rw [write_of_ne hne, hslot]
      · show s.tokens.write c s.next _ s.next = _
        rw [write_self, hi.next_empty]
  | rotateCommit token drawn => exact hi.commit hcall _

/-- A call takes its next step. -/
theorem step_exec {pick : TokenHash} (hc : s.calls c = some p) :
    s.step (.exec c pick) = s.advance c pick p := by
  simp only [step, hc]

/-- A call that was not started takes no step. -/
theorem step_exec_idle {pick : TokenHash} (hc : s.calls c = none) : s.step (.exec c pick) = s := by
  simp only [step, hc]

theorem abort_cases (s : State) (c : CallId) : s.abort c = s ∨
    s.abort c = (s.setTokens (s.tokens.rollback c)).goto c (.done .aborted) := by
  unfold abort
  cases hc : s.calls c with
  | none => exact .inl rfl
  | some p =>
      cases p with
      | done answer => exact .inl rfl
      | _ => exact .inr rfl

/-- **Step.** The invariant is kept. -/
theorem step_inv (hi : s.Inv) (i : Input) : (s.step i).Inv := by
  cases i with
  | time t => exact ⟨hi.row, hi.held, hi.owes, hi.one⟩
  | begin c p =>
      simp only [step]
      split_ifs with h
      · have hidle : ∀ {k v}, (s.tokens k).held ≠ some (c, v) := by
          intro k v hh
          obtain ⟨-, p₀, hp₀, -⟩ := hi.held k c v hh
          rw [h.1] at hp₀
          cases hp₀
        have hcalls : ({ s.goto c p with began := Function.update s.began c s.now } : State).calls =
            Function.update s.calls c (some p) := rfl
        refine hi.moveHeld hcalls (fun _ => rfl) (fun _ _ _ _ _ => rfl) ?_ (Nat.le_refl _) ?_
        · intro k c' v hk
          refine .inl ⟨?_, hk⟩
          rintro rfl
          exact hidle hk
        · cases p with
          | activateInsert deviceId => trivial
          | lookup h deviceId => trivial
          | _ => exact h.2.elim
      · exact hi
  | exec c pick =>
      cases hc : s.calls c with
      | none => rw [step_exec_idle hc]; exact hi
      | some p => rw [step_exec hc]; exact advance_inv hi hc pick
  | abort c =>
      show (s.abort c).Inv
      rcases abort_cases s c with heq | heq
      · rw [heq]; exact hi
      · rw [heq]; exact hi.rollback .aborted

/-- The invariant holds at the start. -/
theorem start_inv (now : Time) : (start now).Inv where
  row := fun k t h => nomatch h
  held := fun k c v h => nomatch h
  owes := fun c p h => nomatch h
  one := fun f i j h => by
    obtain ⟨t, h, -⟩ := h
    cases h

end State
end PredictATrade.DeviceAuth.Tokens
