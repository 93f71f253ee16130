import PredictATrade.EdgePoll.Queue

/-!
# `EdgePoll.Entitlement` — who is handed which signal

One `poll`, from its first statement to its last, on any content of the tables. `poll_rows` says which
rows it hands out: of the rows that are due, the oldest ones that the entitlement `WHERE` spares.

That `WHERE` spares a row that it should withdraw where it looks for the strategy in the text of a list
by `LIKE`, where it compares with NULL because the payload has the other spelling of the key, and where
the device has no row to join. `poll_entitled_iff` says that there is no other way.
-/

namespace PredictATrade.EdgePoll

open Lib.Sql Lib.Table
open DeviceAuth (Id Time LicenseStatus)

/-! ## A poll -/

/-- The readings of the clock, one for each statement that reads it. -/
structure Clock where
  deadLetter : Time
  reclaim : Time
  expire : Time
  claim : Time

section

variable (env : Env) (t : Tables) (clock : Clock) (device : Id) (locked : Id → Bool) (max : ℕ)
  (q : Queue)

/-- The queue that the claim finds; `none` where the expiry statement fails. -/
def beforeClaim : Option Queue :=
  (((q.deadLetter clock.deadLetter device).reclaim clock.reclaim device).expire env clock.expire
    device).map fun q => q.entitle t device

/-- `poll`: the queue after it, and the rows that it returns. -/
def poll : Option (Queue × List QueueRow) :=
  (beforeClaim env t clock device q).map fun q =>
    (q.claim clock.claim device locked max, q.claimed clock.claim device locked max)

/-! ## What is claimed -/

end

/-- The texts among the elements of an array. -/
def elements : List Jsonb → List String
  | [] => []
  | .string s :: xs => s :: elements xs
  | _ :: xs => elements xs

/-- The list is empty, or the strategy is an element of it. -/
def Grants : Option Jsonb → String → Prop
  | none, _ | some .null, _ | some (.array []), _ => True
  | some (.array items), s => s ∈ elements items
  | some _, _ => False

instance decidableGrants : ∀ list s, Decidable (Grants list s)
  | none, _ | some .null, _ | some (.array []), _ => .isTrue trivial
  | some (.array (x :: xs)), s => inferInstanceAs (Decidable (s ∈ elements (x :: xs)))
  | some (.bool _), _ | some (.number _ _), _ | some (.string _), _ | some (.object _), _ =>
    .isFalse id

/-- The device is not revoked and is bound to a license in force; the license and its plan grant the
strategy. -/
def Entitled (t : Tables) (device : Id) (s : String) : Prop :=
  ∃ d ∈ t.devices device, d.revokedAt = none ∧ ∃ l ∈ t.license d,
    (l.status = .active ∨ l.status = .pending) ∧ Grants l.allowedStrategies s ∧
      ∀ p ∈ t.plan d, Grants p.allowedStrategies s

/-- **Entitlement.** Every row with a strategy that the poll returns is one the device is entitled
to. -/
def HandsOutEntitled (t : Tables) (out : Option (Queue × List QueueRow)) : Prop :=
  ∀ o ∈ out, ∀ r ∈ o.2, ∀ s ∈ strategyId r.payload, Entitled t r.deviceId s

/-! ## When it holds -/

section

variable (env : Env) (t : Tables) (clock : Clock) (device : Id) (locked : Id → Bool) (max : ℕ)
  (q : Queue) (r : QueueRow)

/-- The row waits for the device once the stale ones have been given up or reclaimed. -/
def due : Bool :=
  r.waits device || (r.stale clock.reclaim device &&
    !(r.stale clock.deadLetter device && decide (50 ≤ r.attempts)))

/-- A row that is due has an expiry that is no time. -/
def Fails : Prop := q.rows.any (fun r => due clock device r && r.malformed env) = true

/-- The oldest rows that are due, in date, spared by the entitlement `WHERE` and not locked. -/
def spared : List QueueRow :=
  (((q.rows.filter fun r =>
      due clock device r && !r.pastExpiry env clock.expire && !t.withdraws r).mergeSort
    fun r r' => decide (r.createdAt ≤ r'.createdAt)).filter fun r => !locked r.id).take max

end

/-- The list has elements, the strategy is none of them, and still the list does not exclude it: the
payload spells the key the other way, or the text of the list matches. -/
def Passed (list : Option Jsonb) (payload : Jsonb) (s : String) : Prop :=
  ¬ Grants list s ∧ (payload.get "StrategyID" = none ∨
    ∃ j ∈ list, like ('%' :: (s.toList ++ ['%'])) j.chars = true)

/-- The row has a strategy, and its device has no row, or a list of its license or of its plan passes
the strategy wrongly. -/
def Slips (t : Tables) (r : QueueRow) : Prop :=
  ∃ s ∈ strategyId r.payload, t.devices r.deviceId = none ∨ ∃ d ∈ t.devices r.deviceId,
    (∃ l ∈ t.license d, Passed l.allowedStrategies r.payload s) ∨
      ∃ p ∈ t.plan d, Passed p.allowedStrategies r.payload s

/-! ## The entitlement `WHERE` -/

section

variable {t : Tables} {list : Option Jsonb} {payload : Jsonb} {s : String} {r : QueueRow}

theorem set_iff {j : Jsonb} :
    (!(["".toList, "null".toList, "[]".toList].contains j.chars)) = true ↔
      j ≠ .null ∧ j ≠ .array [] := by
  have hnil : j.chars ≠ "".toList := j.chars_ne_nil
  rw [Bool.not_eq_true', ← Bool.not_eq_true, List.contains_iff_mem]
  simp only [List.mem_cons, List.not_mem_nil, or_false, not_or, hnil, not_false_eq_true, true_and,
    Jsonb.chars_eq_null, Jsonb.chars_eq_brackets, ne_eq]

/-- A list excludes a strategy when it has elements, the strategy is not NULL and the text of the list
does not match it. -/
theorem excludes_iff {id : Option String} :
    excludes list id = some true ↔ ∃ j ∈ list, (j ≠ .null ∧ j ≠ .array []) ∧
      ∃ s ∈ id, like ('%' :: (s.toList ++ ['%'])) j.chars = false := by
  unfold excludes
  rw [and3_eq_true, and3_eq_true]
  cases list with
  | none => simp
  | some j =>
      cases id with
      | none => simp
      | some s => simp [← set_iff]

/-- A list that is empty grants every strategy. -/
theorem grants_of_empty (h : ∀ j ∈ list, j = .null ∨ j = .array []) : Grants list s := by
  cases list with
  | none => exact trivial
  | some j =>
      rcases h j rfl with rfl | rfl
      · exact trivial
      · exact trivial

theorem strategyId_of_pascal {s' : String} (hs : s ∈ strategyId payload)
    (h : payload.get "StrategyID" = some s') : s' = s := by
  unfold strategyId at hs
  rw [h] at hs
  exact Option.some.inj hs

/-- Where a list does not exclude the strategy, it grants it or passes it wrongly. -/
theorem grants_iff_not_passed (hs : s ∈ strategyId payload)
    (hno : ¬ excludes list (payload.get "StrategyID") = some true) :
    Grants list s ↔ ¬ Passed list payload s := by
  constructor
  · exact fun h hp => hp.1 h
  · intro hp
    by_contra hg
    refine hp ⟨hg, ?_⟩
    cases hid : payload.get "StrategyID" with
    | none => exact .inl rfl
    | some s' =>
        obtain rfl := strategyId_of_pascal hs hid
        rw [hid, excludes_iff] at hno
        by_cases hempty : ∀ j ∈ list, j = .null ∨ j = .array []
        · exact absurd (grants_of_empty hempty) hg
        · obtain ⟨j, hj⟩ := not_forall.mp hempty
          obtain ⟨hmem, hset⟩ := Classical.not_imp.mp hj
          refine .inr ⟨j, hmem, Bool.not_eq_false _ |>.mp fun hlike => hno ?_⟩
          exact ⟨j, hmem, not_or.mp hset, s', rfl, hlike⟩

/-- A row that the `WHERE` spares, of a device that has a row: the part about the device and the
license. -/
theorem spares {d : Device} (hd : t.devices r.deviceId = some d) (hs : s ∈ strategyId r.payload)
    (h : t.withdraws r = false) :
    d.revokedAt = none ∧ ∃ l ∈ t.license d, (l.status = .active ∨ l.status = .pending) ∧
      ¬ excludes l.allowedStrategies (r.payload.get "StrategyID") = some true ∧
      ∀ p ∈ t.plan d, ¬ excludes p.allowedStrategies (r.payload.get "StrategyID") = some true := by
  have hun : ¬ unentitled d (t.license d) (t.plan d) r.payload = some true := by
    intro hun
    have hsome : strategyId r.payload = some s := hs
    simp [Tables.withdraws, hd, hsome, hun] at h
  unfold unentitled at hun
  rw [or3_eq_true, or3_eq_true, or3_eq_true, or3_eq_true] at hun
  simp only [not_or] at hun
  obtain ⟨⟨⟨⟨hrev, hlic⟩, hstatus⟩, hl⟩, hp⟩ := hun
  refine ⟨by simpa using hrev, ?_⟩
  cases hlicense : t.license d with
  | none => simp [hlicense] at hlic
  | some l =>
      rw [hlicense] at hstatus hl
      refine ⟨l, rfl, ?_, hl, ?_⟩
      · by_contra hno
        simp only [not_or] at hno
        exact hstatus (by simp [hno.1, hno.2])
      · intro p hplan
        rw [Option.mem_def.mp hplan] at hp
        exact hp

/-- A row that the `WHERE` spares belongs to a device entitled to it, unless the row slips. -/
theorem entitled_iff (h : t.withdraws r = false) :
    (∀ s ∈ strategyId r.payload, Entitled t r.deviceId s) ↔ ¬ Slips t r := by
  constructor
  · rintro he ⟨s, hs, hno | ⟨d, hd, hpassed⟩⟩
    · obtain ⟨d, hd, -⟩ := he s hs
      rw [hno] at hd
      cases hd
    · obtain ⟨d', hd', -, l, hl, -, hgl, hgp⟩ := he s hs
      obtain rfl := Option.some.inj (hd'.symm.trans hd)
      rcases hpassed with ⟨l', hl', hp⟩ | ⟨p, hp, hpp⟩
      · obtain rfl := Option.some.inj (hl'.symm.trans hl)
        exact hp.1 hgl
      · exact hpp.1 (hgp p hp)
  · intro hno s hs
    cases hd : t.devices r.deviceId with
    | none => exact absurd ⟨s, hs, .inl hd⟩ hno
    | some d =>
        obtain ⟨hrev, l, hl, hstatus, hxl, hxp⟩ := spares hd hs h
        refine ⟨d, hd, hrev, l, hl, hstatus, (grants_iff_not_passed hs hxl).mpr ?_, ?_⟩
        · exact fun hp => hno ⟨s, hs, .inr ⟨d, hd, .inl ⟨l, hl, hp⟩⟩⟩
        · intro p hp
          refine (grants_iff_not_passed hs (hxp p hp)).mpr fun hpp => ?_
          exact hno ⟨s, hs, .inr ⟨d, hd, .inr ⟨p, hp, hpp⟩⟩⟩

end

/-! ## The rows that a poll hands out -/

/-- What the statements before the claim leave alone. -/
structure Kept (r r' : QueueRow) : Prop where
  id : r'.id = r.id
  deviceId : r'.deviceId = r.deviceId
  payload : r'.payload = r.payload
  createdAt : r'.createdAt = r.createdAt

section

variable {env : Env} {t : Tables} {clock : Clock} {device : Id} {locked : Id → Bool} {max : ℕ}
  {q q' : Queue} {r r' : QueueRow}

theorem Kept.trans {r'' : QueueRow} (h : Kept r r') (h' : Kept r' r'') : Kept r r'' :=
  ⟨h'.id.trans h.id, h'.deviceId.trans h.deviceId, h'.payload.trans h.payload,
    h'.createdAt.trans h.createdAt⟩

theorem Kept.ite {c : Prop} [Decidable c] {f : QueueRow → QueueRow} (hf : ∀ r, Kept r (f r)) :
    Kept r (if c then f r else r) := by
  split_ifs
  · exact hf r
  · exact ⟨rfl, rfl, rfl, rfl⟩

theorem Kept.pastExpiry (h : Kept r r') (now : Time) :
    r'.pastExpiry env now = r.pastExpiry env now := by
  unfold QueueRow.pastExpiry QueueRow.expiresAt
  rw [h.payload]

theorem Kept.malformed (h : Kept r r') : r'.malformed env = r.malformed env := by
  unfold QueueRow.malformed QueueRow.expiresAt
  rw [h.payload]

theorem Kept.withdraws (h : Kept r r') : t.withdraws r' = t.withdraws r := by
  unfold Tables.withdraws
  rw [h.deviceId, h.payload]

/-- After a statement that expires rows that wait, those wait that it has not expired. -/
theorem waits_expired {c : QueueRow → Bool} {f : QueueRow → QueueRow}
    (hf : ∀ r, (f r).status = .expired) :
    (if (r.waits device && c r) = true then f r else r).waits device =
      (r.waits device && !c r) := by
  by_cases hc : (r.waits device && c r) = true
  · rw [if_pos hc]
    rw [Bool.and_eq_true] at hc
    rw [hc.1, hc.2, QueueRow.waits, hf]
    exact Bool.and_false _
  · rw [if_neg hc]
    cases hw : r.waits device with
    | false => rfl
    | true =>
        rw [hw, Bool.true_and, Bool.not_eq_true] at hc
        rw [hc]
        rfl

/-- A statement that expires rows that wait, row by row. -/
theorem expired_rows {c : QueueRow → Bool} {f : QueueRow → QueueRow}
    (hq : q'.rows = updateWhere (fun r => r.waits device && c r) f q.rows)
    (hk : ∀ r, Kept r (f r)) (hf : ∀ r, (f r).status = .expired) :
    ∃ g, q'.rows = q.rows.map g ∧ ∀ r, Kept r (g r) ∧
      (g r).waits device = (r.waits device && !c r) :=
  ⟨_, hq, fun _ => ⟨Kept.ite hk, waits_expired hf⟩⟩

theorem entitled_rows (t : Tables) (device : Id) (q : Queue) :
    ∃ g, (q.entitle t device).rows = q.rows.map g ∧ ∀ r, Kept r (g r) ∧
      (g r).waits device = (r.waits device && !t.withdraws r) := by
  have hrows : (q.entitle t device).rows = updateWhere (fun r => r.waits device && t.withdraws r)
      (fun r => { r with status := .expired, lastError := r.note " entitlement-revoked;" })
      q.rows := rfl
  exact expired_rows hrows (fun r => ⟨rfl, rfl, rfl, rfl⟩) fun r => rfl

theorem deadLetter_rows (now : Time) (device : Id) (q : Queue) :
    ∃ g, (q.deadLetter now device).rows = q.rows.map g ∧ ∀ r, Kept r (g r) ∧
      (g r).waits device = r.waits device ∧ ∀ now', (g r).stale now' device =
        (r.stale now' device && !(r.stale now device && decide (50 ≤ r.attempts))) := by
  refine ⟨_, rfl, fun r => ?_⟩
  by_cases hd : (r.stale now device && decide (50 ≤ r.attempts)) = true
  · have hfl := (QueueRow.stale_iff.mp (Bool.and_eq_true _ _ |>.mp hd).1).2.1
    rw [if_pos hd, hd]
    refine ⟨⟨rfl, rfl, rfl, rfl⟩, ?_, fun now' => ?_⟩
    · simp only [QueueRow.waits, hfl]
      rfl
    · simp [QueueRow.stale]
  · rw [if_neg hd]
    rw [Bool.not_eq_true] at hd
    rw [hd]
    exact ⟨⟨rfl, rfl, rfl, rfl⟩, rfl, fun now' => (Bool.and_true _).symm⟩

theorem reclaim_rows (now : Time) (device : Id) (q : Queue) :
    ∃ g, (q.reclaim now device).rows = q.rows.map g ∧ ∀ r, Kept r (g r) ∧
      (g r).waits device = (r.waits device || r.stale now device) := by
  refine ⟨_, rfl, fun r => ?_⟩
  by_cases hs : r.stale now device = true
  · rw [if_pos hs, hs, Bool.or_true]
    exact ⟨⟨rfl, rfl, rfl, rfl⟩, by simp [QueueRow.waits, (QueueRow.stale_iff.mp hs).1]⟩
  · rw [if_neg hs]
    rw [Bool.not_eq_true] at hs
    rw [hs, Bool.or_false]
    exact ⟨⟨rfl, rfl, rfl, rfl⟩, rfl⟩

/-- The dead-letter statement and the reclaim, row by row. -/
theorem reclaimed_rows (clock : Clock) (device : Id) (q : Queue) :
    ∃ g, ((q.deadLetter clock.deadLetter device).reclaim clock.reclaim device).rows =
      q.rows.map g ∧ ∀ r, Kept r (g r) ∧ (g r).waits device = due clock device r := by
  obtain ⟨g, hg, hrow⟩ := deadLetter_rows clock.deadLetter device q
  obtain ⟨g', hg', hrow'⟩ :=
    reclaim_rows clock.reclaim device (q.deadLetter clock.deadLetter device)
  refine ⟨g' ∘ g, by rw [hg', hg, List.map_map], fun r => ?_⟩
  obtain ⟨hkept, hwaits, hstale⟩ := hrow r
  obtain ⟨hkept', hwaits'⟩ := hrow' (g r)
  exact ⟨hkept.trans hkept', by rw [Function.comp_apply, hwaits', hwaits, hstale, due]⟩

/-- The statements before the claim, row by row. They fail where a row that is due has an expiry that
is no time. -/
theorem beforeClaim_rows (env : Env) (t : Tables) (clock : Clock) (device : Id) (q : Queue) :
    (Fails env clock device q ∧ beforeClaim env t clock device q = none) ∨
      ¬ Fails env clock device q ∧ ∃ q' g, beforeClaim env t clock device q = some q' ∧
        q'.rows = q.rows.map g ∧ ∀ r, Kept r (g r) ∧ (g r).waits device =
          (due clock device r && !r.pastExpiry env clock.expire && !t.withdraws r) := by
  obtain ⟨g, hg, hrow⟩ := reclaimed_rows clock device q
  have hfails : ((q.deadLetter clock.deadLetter device).reclaim clock.reclaim device).rows.any
      (fun r => r.waits device && r.malformed env) =
        q.rows.any fun r => due clock device r && r.malformed env := by
    rw [hg, List.any_map]
    refine congrArg (List.any q.rows) (funext fun r => ?_)
    rw [Function.comp_apply, (hrow r).2, (hrow r).1.malformed]
  unfold beforeClaim Fails
  cases hq : ((q.deadLetter clock.deadLetter device).reclaim clock.reclaim device).expire env
      clock.expire device with
  | none =>
      refine .inl ⟨?_, rfl⟩
      rw [← hfails]
      unfold Queue.expire at hq
      split_ifs at hq with h
      exact h
  | some q' =>
      refine .inr ⟨?_, ?_⟩
      · rw [← hfails]
        unfold Queue.expire at hq
        split_ifs at hq with h
        exact h
      · obtain ⟨g', hg', hrow'⟩ := expired_rows (Queue.expire_eq hq)
          (fun r => ⟨rfl, rfl, rfl, rfl⟩) fun r => rfl
        obtain ⟨g'', hg'', hrow''⟩ := entitled_rows t device q'
        refine ⟨_, (g'' ∘ g') ∘ g, rfl, by rw [hg'', hg', hg, List.map_map, List.map_map], ?_⟩
        intro r
        have hkept := (hrow r).1.trans (hrow' (g r)).1
        refine ⟨hkept.trans (hrow'' _).1, ?_⟩
        rw [Function.comp_apply, Function.comp_apply, (hrow'' _).2, (hrow' _).2, (hrow r).2,
          hkept.withdraws, (hrow r).1.pastExpiry]

/-- The batch is what is spared, as the statements before the claim leave it. -/
theorem batch_eq_spared {g : QueueRow → QueueRow} (hg : q'.rows = q.rows.map g)
    (hrow : ∀ r, Kept r (g r) ∧ (g r).waits device =
      (due clock device r && !r.pastExpiry env clock.expire && !t.withdraws r)) :
    q'.batch device locked max = (spared env t clock device locked max q).map g := by
  have hwaits : ((fun r => r.waits device) ∘ g) = fun r =>
      due clock device r && !r.pastExpiry env clock.expire && !t.withdraws r :=
    funext fun r => (hrow r).2
  have hlocked : ((fun r => !locked r.id) ∘ g) = fun r => !locked r.id := by
    funext r
    rw [Function.comp_apply, (hrow r).1.id]
  unfold Queue.batch spared
  rw [hg, List.filter_map, hwaits, ← List.map_mergeSort, List.filter_map, hlocked, List.map_take]
  intro r _ r' _
  rw [(hrow r).1.createdAt, (hrow r').1.createdAt]

/-- **What a poll hands out**: nothing where it fails, and else the rows it spares. -/
theorem poll_rows (env : Env) (t : Tables) (clock : Clock) (device : Id) (locked : Id → Bool)
    (max : ℕ) (q : Queue) :
    (Fails env clock device q ∧ poll env t clock device locked max q = none) ∨
      ¬ Fails env clock device q ∧ ∃ q' rows, ∃ g : QueueRow → QueueRow,
        poll env t clock device locked max q = some (q', rows) ∧
          (∀ r, (g r).payload = r.payload ∧ (g r).deviceId = r.deviceId) ∧
          ∀ r', r' ∈ rows ↔ ∃ r ∈ spared env t clock device locked max q, g r = r' := by
  rcases beforeClaim_rows env t clock device q with ⟨hf, hnone⟩ | ⟨hf, q', g, hq', hg, hrow⟩
  · exact .inl ⟨hf, by simp only [poll, hnone, Option.map_none]⟩
  · refine .inr ⟨hf, q'.claim clock.claim device locked max,
      q'.claimed clock.claim device locked max, fun r => Queue.handedOut clock.claim (g r), ?_, ?_, ?_⟩
    · simp only [poll, hq', Option.map_some]
    · exact fun r => ⟨(hrow r).1.payload, (hrow r).1.deviceId⟩
    · intro r'
      rw [Queue.mem_claimed, batch_eq_spared hg hrow]
      simp only [List.mem_map, exists_exists_and_eq_and]

end

/-- **Entitlement.** A poll hands out only rows that the device is entitled to exactly when it fails,
or none of the rows it spares slips. -/
theorem poll_entitled_iff (env : Env) (t : Tables) (clock : Clock) (device : Id)
    (locked : Id → Bool) (max : ℕ) (q : Queue) :
    HandsOutEntitled t (poll env t clock device locked max q) ↔
      Fails env clock device q ∨ ∀ r ∈ spared env t clock device locked max q, ¬ Slips t r := by
  have hspared : ∀ r ∈ spared env t clock device locked max q, t.withdraws r = false := by
    intro r hr
    have hfilter := (List.mem_filter.mp (List.mem_of_mem_take hr)).1
    have hrow := (List.mem_filter.mp (List.mem_mergeSort.mp hfilter)).2
    rw [Bool.and_eq_true] at hrow
    exact Bool.not_eq_true' _ |>.mp hrow.2
  rcases poll_rows env t clock device locked max q with
    ⟨hf, hnone⟩ | ⟨hf, q', rows, g, hpoll, hg, hrows⟩
  · rw [hnone]
    exact iff_of_true (fun _ h => nomatch h) (.inl hf)
  · rw [or_iff_right hf, hpoll]
    constructor
    · intro h r hr
      refine (entitled_iff (hspared r hr)).mp fun s hs => ?_
      have hent := h _ rfl (g r) ((hrows _).mpr ⟨r, hr, rfl⟩) s (by rw [(hg r).1]; exact hs)
      rwa [(hg r).2] at hent
    · rintro h o ho r' hr' s hs
      obtain rfl := Option.some.inj ho
      obtain ⟨r, hr, rfl⟩ := (hrows r').mp hr'
      rw [(hg r).1] at hs
      rw [(hg r).2]
      exact (entitled_iff (hspared r hr)).mpr (h r hr) s hs

/-! ## Three rows that slip -/

instance decidableEntitled (t : Tables) (device : Id) (s : String) : Decidable (Entitled t device s) :=
  inferInstanceAs (Decidable (∃ d ∈ t.devices device, d.revokedAt = none ∧ ∃ l ∈ t.license d,
    (l.status = .active ∨ l.status = .pending) ∧ Grants l.allowedStrategies s ∧
      ∀ p ∈ t.plan d, Grants p.allowedStrategies s))

/-- Device 1 holds an active license for one strategy, and its plan names none. -/
def oneStrategy (strategy : String) : Tables where
  devices d := if d = 1 then some ⟨none, some 1, none⟩ else none
  licenses l := if l = 1 then some ⟨.active, 1, some (.array [.string strategy])⟩ else none
  plans p := if p = 1 then some ⟨some (.array [])⟩ else none

/-- One row waits for device 1; no text is a time. -/
def pollOne (strategy : String) (payload : Jsonb) : Option (Queue × List QueueRow) :=
  poll ⟨fun _ => none⟩ (oneStrategy strategy) ⟨0, 0, 0, 0⟩ 1 (fun _ => false) 10
    (Queue.empty.insert { id := 1, deviceId := 1, signalId := "s1", payload := payload,
                          createdAt := 0 })

/-- A part of a name, a name with an underscore for another character, and the other spelling of the
key. -/
theorem slipped_rows :
    ¬ HandsOutEntitled (oneStrategy "ULTRA_SCALPING")
        (pollOne "ULTRA_SCALPING" (.object [("StrategyID", .string "SCALPING")])) ∧
      ¬ HandsOutEntitled (oneStrategy "TREND-SWING")
        (pollOne "TREND-SWING" (.object [("StrategyID", .string "TREND_SWING")])) ∧
      ¬ HandsOutEntitled (oneStrategy "MARNIE_FIB")
        (pollOne "MARNIE_FIB" (.object [("strategy_id", .string "ATEN")])) := by
  unfold HandsOutEntitled
  decide +kernel

end PredictATrade.EdgePoll
