import PredictATrade.DeviceAuth.Slots

/-!
# `DeviceAuth.Provisioning` — what `ensureActiveLicenseForSubscription` leaves behind

The statements of one call, nothing in between (`provision`). The call goes as far as its write when
`control.plans` has the column `max_devices` and none of its first four statements fails
(`Provisions`); else the licenses are as they were (`provision_of_not`). When it writes, it rewrites
the license that it looks at (`provision_existing`), or issues the user's first
(`provision_first`).
-/

namespace PredictATrade.DeviceAuth.Slots

open Lib.Table Lib.Attempt

/-! ## The license it looks at -/

/-- `ORDER BY (status = 'ACTIVE') DESC, issued_at DESC LIMIT 1`, one row after the other. -/
def prefer (acc : Option LicenseRow) (l : LicenseRow) : Option LicenseRow :=
  match acc with
  | none => some l
  | some m =>
    if l.status = .active ∧ m.status ≠ .active ∨
        ((l.status = .active ↔ m.status = .active) ∧ m.issuedAt < l.issuedAt) then some l
    else acc

theorem existingLicense_eq (t : Tables) (userId : Id) :
    existingLicense t userId = (t.licenses.filter (·.userId == userId)).foldl prefer none := rfl

/-- `r` is one of the rows, if there is any. -/
structure Preferred (rows : List LicenseRow) (r : Option LicenseRow) : Prop where
  mem : ∀ l, r = some l → l ∈ rows
  empty : r = none → rows = []

theorem Preferred.snoc {rows : List LicenseRow} {acc : Option LicenseRow}
    (h : Preferred rows acc) (l : LicenseRow) : Preferred (rows ++ [l]) (prefer acc l) := by
  have hlast : l ∈ rows ++ [l] := List.mem_append_right rows (List.mem_singleton_self l)
  have hsome : ∃ m, prefer acc l = some m ∧ m ∈ rows ++ [l] := by
    cases acc with
    | none => exact ⟨l, rfl, hlast⟩
    | some m =>
        simp only [prefer]
        split_ifs
        · exact ⟨l, rfl, hlast⟩
        · exact ⟨m, rfl, List.mem_append_left [l] (h.mem m rfl)⟩
  obtain ⟨m, hm, hmem⟩ := hsome
  rw [hm]
  refine ⟨?_, ?_⟩
  · rintro n ⟨⟩
    exact hmem
  · intro hnone
    cases hnone

theorem Preferred.foldl {seen : List LicenseRow} {acc : Option LicenseRow} (h : Preferred seen acc)
    (rows : List LicenseRow) : Preferred (seen ++ rows) (rows.foldl prefer acc) := by
  induction rows generalizing seen acc with
  | nil =>
      rw [List.append_nil]
      exact h
  | cons l rows ih =>
      have hrest := ih (h.snoc l)
      rw [List.append_assoc] at hrest
      exact hrest

theorem existingLicense_preferred (t : Tables) (userId : Id) :
    Preferred (t.licenses.filter (·.userId == userId)) (existingLicense t userId) := by
  rw [existingLicense_eq]
  have hnil : Preferred [] none := ⟨fun l h => (by cases h), fun _ => rfl⟩
  exact hnil.foldl _

section
variable {t : Tables} {userId : Id} {l : LicenseRow}

theorem existingLicense_none (h : existingLicense t userId = none) (hl : l ∈ t.licenses) :
    l.userId ≠ userId := by
  intro hu
  have hnil := (existingLicense_preferred t userId).empty h
  have hmem : l ∈ t.licenses.filter (·.userId == userId) :=
    List.mem_filter.mpr ⟨hl, beq_iff_eq.mpr hu⟩
  rw [hnil] at hmem
  cases hmem

theorem existingLicense_mem (h : existingLicense t userId = some l) :
    l ∈ t.licenses ∧ l.userId = userId := by
  obtain ⟨hl, hu⟩ := List.mem_filter.mp ((existingLicense_preferred t userId).mem l h)
  exact ⟨hl, beq_iff_eq.mp hu⟩

end

/-! ## The call -/

section

variable (env : Env) (now : Time) (billing : Billing) (faults : ℕ → Bool) (subscription drawn : Id)
  (licenseKey : String)

/-- Execute the statements of a call from the `n`-th on, `fuel` of them at most. A statement that
fails ends the call. -/
def ensureFrom : (fuel n : ℕ) → EnsureAt → Tables → Tables × Call
  | 0, _, pc, t => (t, .ensureActive subscription drawn licenseKey pc)
  | fuel + 1, n, pc, t =>
    if faults n then (t, .aborted)
    else
      match ensureActive env now billing (fun _ => false) t subscription drawn licenseKey pc with
      | some (t', .ensureActive _ _ _ pc') => ensureFrom fuel (n + 1) pc' t'
      | some (t', call) => (t', call)
      | none => (t, .ensureActive subscription drawn licenseKey pc)

/-- `ensureActiveLicenseForSubscription` from its first statement to its end. -/
def provision (t : Tables) : Tables × Call :=
  ensureFrom env now billing faults subscription drawn licenseKey 5 0 .subscription t

/-- The subscription is on file, with its plan. -/
structure OnFile (sub : Subscription) (p : Plan) : Prop where
  subscription : billing.subscriptions.find? (fun s =>
    s.id == subscription && billing.plans.any (·.id == s.planId)) = some sub
  plan : billing.plans.find? (·.id == sub.planId) = some p

/-- The call goes as far as its write. -/
def Provisions : Prop := env.plansHaveMaxDevices = true ∧ ∀ n < 4, faults n = false

instance : Decidable (Provisions env faults) := by unfold Provisions; infer_instance

/-- What the call makes of the license that it looks at. -/
def provisioned (planId : Id) (l : LicenseRow) : LicenseRow :=
  if l.status = .active then { l with planId := planId, subscriptionId := some subscription }
  else
    { l with
      status := .active
      planId := planId
      subscriptionId := some subscription
      revokedAt := none
      expiresAt := some (max (l.expiresAt.getD (now + days 30)) (now + days 30)) }

/-- The license that it issues. -/
def firstLicense (userId : Id) (p : Plan) : LicenseRow :=
  { id := drawn, licenseKey := licenseKey, status := .active, maxDevices := p.maxDevices.getD 1,
    expiresAt := some (now + days 30), userId := userId, planId := p.id,
    subscriptionId := some subscription, issuedAt := now }

end

section

variable {env : Env} {now : Time} {billing : Billing} {faults : ℕ → Bool} {subscription drawn : Id}
  {licenseKey : String} {fuel n : ℕ} {pc pc' : EnsureAt} {t t' : Tables} {sub : Subscription}
  {p : Plan} {l m : LicenseRow} {call : Call}

theorem ensureFrom_fault (hf : faults n = true) :
    ensureFrom env now billing faults subscription drawn licenseKey (fuel + 1) n pc t =
      (t, .aborted) := by
  simp only [ensureFrom, hf, if_true]

/-- A statement that does not fail leads to the next. -/
theorem ensureFrom_step (hf : faults n = false)
    (h : ensureActive env now billing (fun _ => false) t subscription drawn licenseKey pc =
      some (t', .ensureActive subscription drawn licenseKey pc')) :
    ensureFrom env now billing faults subscription drawn licenseKey (fuel + 1) n pc t =
      ensureFrom env now billing faults subscription drawn licenseKey fuel (n + 1) pc' t' := by
  simp only [ensureFrom, hf, h, Bool.false_eq_true, if_false]

theorem ensureFrom_done {r : Except Failure Answer} (hf : faults n = false)
    (h : ensureActive env now billing (fun _ => false) t subscription drawn licenseKey pc =
      some (t', .done r)) :
    ensureFrom env now billing faults subscription drawn licenseKey (fuel + 1) n pc t =
      (t', .done r) := by
  simp only [ensureFrom, hf, h, Bool.false_eq_true, if_false]

theorem ensureFrom_aborted (hf : faults n = false)
    (h : ensureActive env now billing (fun _ => false) t subscription drawn licenseKey pc =
      some (t', .aborted)) :
    ensureFrom env now billing faults subscription drawn licenseKey (fuel + 1) n pc t =
      (t', .aborted) := by
  simp only [ensureFrom, hf, h, Bool.false_eq_true, if_false]

/-- How many statements a call still has at most. -/
def EnsureAt.left : EnsureAt → ℕ
  | .subscription => 5
  | .plan _ _ => 4
  | .existing _ _ => 3
  | .syncPlan _ _ | .syncSubscription _ | .reactivate _ _ | .issue _ _ => 2
  | .unrevoke _ => 1

/-- A statement ends the call, or leaves fewer statements. -/
theorem ensureActive_next (env : Env) (now : Time) (billing : Billing) (subscription drawn : Id)
    (licenseKey : String) (t : Tables) (pc : EnsureAt) :
    ∃ t' call, ensureActive env now billing (fun _ => false) t subscription drawn licenseKey pc =
      some (t', call) ∧ ((∃ r, call = .done r) ∨ call = .aborted ∨
        ∃ pc', call = .ensureActive subscription drawn licenseKey pc' ∧ pc'.left < pc.left) := by
  cases pc with
  | subscription =>
      simp only [ensureActive]
      split
      · exact ⟨_, _, rfl, Or.inl ⟨_, rfl⟩⟩
      · exact ⟨_, _, rfl, Or.inr (Or.inr ⟨_, rfl, Nat.lt_succ_self 4⟩)⟩
  | plan userId planId =>
      simp only [ensureActive]
      split
      · split
        · exact ⟨_, _, rfl, Or.inl ⟨_, rfl⟩⟩
        · exact ⟨_, _, rfl, Or.inr (Or.inr ⟨_, rfl, Nat.lt_succ_self 3⟩)⟩
      · exact ⟨_, _, rfl, Or.inr (Or.inl rfl)⟩
  | existing userId p =>
      simp only [ensureActive]
      split
      · exact ⟨_, _, rfl, Or.inr (Or.inr ⟨_, rfl, Nat.lt_succ_self 2⟩)⟩
      split_ifs
      · exact ⟨_, _, rfl, Or.inr (Or.inr ⟨_, rfl, Nat.lt_succ_self 2⟩)⟩
      · exact ⟨_, _, rfl, Or.inr (Or.inr ⟨_, rfl, Nat.lt_succ_self 2⟩)⟩
      · exact ⟨_, _, rfl, Or.inl ⟨_, rfl⟩⟩
      · exact ⟨_, _, rfl, Or.inr (Or.inr ⟨_, rfl, Nat.lt_succ_self 2⟩)⟩
  | syncPlan id p => exact ⟨_, _, rfl, Or.inl ⟨_, rfl⟩⟩
  | syncSubscription id => exact ⟨_, _, rfl, Or.inl ⟨_, rfl⟩⟩
  | reactivate id p => exact ⟨_, _, rfl, Or.inr (Or.inr ⟨_, rfl, Nat.lt_succ_self 1⟩)⟩
  | unrevoke id => exact ⟨_, _, rfl, Or.inl ⟨_, rfl⟩⟩
  | issue userId p =>
      simp only [ensureActive]
      split
      · exact ⟨_, _, rfl, Or.inr (Or.inl rfl)⟩
      · exact ⟨_, _, rfl, Or.inl ⟨_, rfl⟩⟩

/-- With fuel for the statements that are left, the call ends. -/
theorem ensureFrom_ends (hfuel : pc.left ≤ fuel) :
    (∃ r, (ensureFrom env now billing faults subscription drawn licenseKey fuel n pc t).2 =
      .done r) ∨
    (ensureFrom env now billing faults subscription drawn licenseKey fuel n pc t).2 = .aborted := by
  induction fuel generalizing n pc t with
  | zero => cases pc <;> simp [EnsureAt.left] at hfuel
  | succ fuel ih =>
      cases hf : faults n with
      | true =>
          rw [ensureFrom_fault hf]
          exact Or.inr rfl
      | false =>
          obtain ⟨t', call, hnext, ⟨r, rfl⟩ | rfl | ⟨pc', rfl, hlt⟩⟩ :=
            ensureActive_next env now billing subscription drawn licenseKey t pc
          · rw [ensureFrom_done hf hnext]
            exact Or.inl ⟨r, rfl⟩
          · rw [ensureFrom_aborted hf hnext]
            exact Or.inr rfl
          · rw [ensureFrom_step hf hnext]
            exact ih (by omega)

/-- **The call ends.** -/
theorem provision_ends :
    (∃ r, (provision env now billing faults subscription drawn licenseKey t).2 = .done r) ∨
      (provision env now billing faults subscription drawn licenseKey t).2 = .aborted :=
  ensureFrom_ends le_rfl

/-- The un-revoking of the devices, whether it fails or not, leaves the licenses alone. -/
theorem ensureFrom_unrevoke {id : Id} :
    (ensureFrom env now billing faults subscription drawn licenseKey 1 n (.unrevoke id)
      t).1.licenses = t.licenses := by
  cases hf : faults n with
  | true => rw [ensureFrom_fault hf]
  | false =>
      rw [ensureFrom_done hf rfl]
      rfl

theorem OnFile.first (hon : OnFile billing subscription sub p) :
    ensureActive env now billing (fun _ => false) t subscription drawn licenseKey .subscription =
      some (t, .ensureActive subscription drawn licenseKey (.plan sub.userId sub.planId)) := by
  simp only [ensureActive, hon.subscription]

/-- The two statements that look the subscription and its plan up. -/
theorem provision_reads (hon : OnFile billing subscription sub p)
    (hcol : env.plansHaveMaxDevices = true) (h0 : faults 0 = false) (h1 : faults 1 = false) :
    provision env now billing faults subscription drawn licenseKey t =
      ensureFrom env now billing faults subscription drawn licenseKey 3 2 (.existing sub.userId p)
        t := by
  have hplan : ensureActive env now billing (fun _ => false) t subscription drawn licenseKey
      (.plan sub.userId sub.planId) =
        some (t, .ensureActive subscription drawn licenseKey (.existing sub.userId p)) := by
    simp only [ensureActive, hcol, hon.plan, if_true]
  rw [provision, ensureFrom_step h0 hon.first, ensureFrom_step h1 hplan]

/-- The third statement chooses the write, or ends the call. -/
theorem existing_next (env : Env) (now : Time) (billing : Billing) (subscription drawn : Id)
    (licenseKey : String) (t : Tables) (userId : Id) (p : Plan) :
    (∃ pc', ensureActive env now billing (fun _ => false) t subscription drawn licenseKey
      (.existing userId p) = some (t, .ensureActive subscription drawn licenseKey pc')) ∨
    ∃ r, ensureActive env now billing (fun _ => false) t subscription drawn licenseKey
      (.existing userId p) = some (t, .done r) := by
  simp only [ensureActive]
  split
  · exact Or.inl ⟨_, rfl⟩
  split_ifs
  · exact Or.inl ⟨_, rfl⟩
  · exact Or.inl ⟨_, rfl⟩
  · exact Or.inr ⟨_, rfl⟩
  · exact Or.inl ⟨_, rfl⟩

/-- **The license that the call looks at is rewritten**, and no other. -/
theorem provision_existing (hon : OnFile billing subscription sub p)
    (hprov : Provisions env faults) (hl : existingLicense t sub.userId = some l) :
    m ∈ (provision env now billing faults subscription drawn licenseKey t).1.licenses ↔
      m = provisioned now subscription p.id l ∨ m ∈ t.licenses ∧ m.id ≠ l.id := by
  obtain ⟨hcol, hf⟩ := hprov
  obtain ⟨hmem, -⟩ := existingLicense_mem hl
  have h2 : faults 2 = false := hf 2 (by decide)
  have h3 : faults 3 = false := hf 3 (by decide)
  rw [provision_reads hon hcol (hf 0 (by decide)) (hf 1 (by decide))]
  by_cases hact : l.status = .active
  · have hrow : provisioned now subscription p.id l =
        { l with planId := p.id, subscriptionId := some subscription } := by
      simp only [provisioned, hact, if_true]
    rw [hrow]
    by_cases hp : l.planId = p.id
    · by_cases hs : l.subscriptionId = some subscription
      · -- nothing is written
        have hnext : ensureActive env now billing (fun _ => false) t subscription drawn licenseKey
            (.existing sub.userId p) = some (t, .done (.ok (.license l.id "already_active"))) := by
          simp only [ensureActive, hl, hact, hp, hs, ne_eq, not_true_eq_false, if_true, if_false]
        rw [ensureFrom_done h2 hnext, ← hp, ← hs]
        constructor
        · intro hm
          by_cases hid : m.id = l.id
          · exact Or.inl (eq_of_key t.key hm hmem hid)
          · exact Or.inr ⟨hm, hid⟩
        · rintro (rfl | ⟨hm, -⟩)
          · exact hmem
          · exact hm
      · have hnext : ensureActive env now billing (fun _ => false) t subscription drawn licenseKey
            (.existing sub.userId p) =
              some (t, .ensureActive subscription drawn licenseKey (.syncSubscription l.id)) := by
          simp only [ensureActive, hl, hact, hp, hs, ne_eq, not_true_eq_false, not_false_eq_true,
            if_true, if_false]
        rw [ensureFrom_step h2 hnext, ensureFrom_done h3 rfl, ← hp]
        exact mem_updateWhere_key t.key hmem
    · have hnext : ensureActive env now billing (fun _ => false) t subscription drawn licenseKey
          (.existing sub.userId p) =
            some (t, .ensureActive subscription drawn licenseKey (.syncPlan l.id p)) := by
        simp only [ensureActive, hl, hact, hp, ne_eq, not_false_eq_true, if_true]
      rw [ensureFrom_step h2 hnext, ensureFrom_done h3 rfl]
      exact mem_updateWhere_key t.key hmem
  · have hrow : provisioned now subscription p.id l =
        { l with
          status := .active
          planId := p.id
          subscriptionId := some subscription
          revokedAt := none
          expiresAt := some (max (l.expiresAt.getD (now + days 30)) (now + days 30)) } := by
      simp only [provisioned, hact, if_false]
    have hnext : ensureActive env now billing (fun _ => false) t subscription drawn licenseKey
        (.existing sub.userId p) =
          some (t, .ensureActive subscription drawn licenseKey (.reactivate l.id p)) := by
      simp only [ensureActive, hl, hact, if_false]
    rw [hrow, ensureFrom_step h2 hnext, ensureFrom_step h3 rfl, ensureFrom_unrevoke]
    exact mem_updateWhere_key t.key hmem

theorem insertLicense_new (h : t.hasLicense l.id l.licenseKey = false) :
    ∃ t', t.insertLicense l = some t' ∧ t'.licenses = t.licenses ++ [l] :=
  ⟨_, dif_neg (by rw [h]; exact Bool.false_ne_true), rfl⟩

/-- **The first license of a user is issued**, when its id and its key are new. -/
theorem provision_first (hon : OnFile billing subscription sub p) (hprov : Provisions env faults)
    (hnone : existingLicense t sub.userId = none) :
    m ∈ (provision env now billing faults subscription drawn licenseKey t).1.licenses ↔
      m ∈ t.licenses ∨ t.hasLicense drawn licenseKey = false ∧
        m = firstLicense now subscription drawn licenseKey sub.userId p := by
  obtain ⟨hcol, hf⟩ := hprov
  have h2 : faults 2 = false := hf 2 (by decide)
  have h3 : faults 3 = false := hf 3 (by decide)
  have hnext : ensureActive env now billing (fun _ => false) t subscription drawn licenseKey
      (.existing sub.userId p) =
        some (t, .ensureActive subscription drawn licenseKey (.issue sub.userId p)) := by
    simp only [ensureActive, hnone]
  rw [provision_reads hon hcol (hf 0 (by decide)) (hf 1 (by decide)), ensureFrom_step h2 hnext]
  cases hnew : t.hasLicense drawn licenseKey with
  | true =>
      have hissue : ensureActive env now billing (fun _ => false) t subscription drawn licenseKey
          (.issue sub.userId p) = some (t, .aborted) := by
        simp only [ensureActive, Tables.insertLicense, hnew, dite_true]
      rw [ensureFrom_aborted h3 hissue]
      simp
  | false =>
      obtain ⟨t', hins, hrows⟩ :=
        insertLicense_new (l := firstLicense now subscription drawn licenseKey sub.userId p) hnew
      have hissue : ensureActive env now billing (fun _ => false) t subscription drawn licenseKey
          (.issue sub.userId p) = some (t', .done (.ok (.license drawn "issued"))) := by
        simp only [firstLicense] at hins
        simp only [ensureActive, hins]
      rw [ensureFrom_done h3 hissue, hrows, List.mem_append, List.mem_singleton]
      exact or_congr_right (and_iff_right rfl).symm

/-- The third statement writes nothing, and when the fourth fails nothing is written. -/
theorem ensureFrom_existing_fault (h3 : faults 3 = true) :
    (ensureFrom env now billing faults subscription drawn licenseKey 3 2 (.existing sub.userId p)
      t).1 = t := by
  cases h2 : faults 2 with
  | true => rw [ensureFrom_fault h2]
  | false =>
      rcases existing_next env now billing subscription drawn licenseKey t sub.userId p with
        ⟨pc', hpc⟩ | ⟨r, hr⟩
      · rw [ensureFrom_step h2 hpc, ensureFrom_fault h3]
      · rw [ensureFrom_done h2 hr]

/-- **A call that does not get as far as its write leaves the licenses as they are.** -/
theorem provision_of_not (hon : OnFile billing subscription sub p)
    (hprov : ¬ Provisions env faults) :
    (provision env now billing faults subscription drawn licenseKey t).1 = t := by
  cases h0 : faults 0 with
  | true => rw [provision, ensureFrom_fault h0]
  | false =>
  cases h1 : faults 1 with
  | true => rw [provision, ensureFrom_step h0 hon.first, ensureFrom_fault h1]
  | false =>
  cases hcol : env.plansHaveMaxDevices with
  | false =>
      have hplan : ensureActive env now billing (fun _ => false) t subscription drawn licenseKey
          (.plan sub.userId sub.planId) = some (t, .aborted) := by
        simp only [ensureActive, hcol, Bool.false_eq_true, if_false]
      rw [provision, ensureFrom_step h0 hon.first, ensureFrom_aborted h1 hplan]
  | true =>
  rw [provision_reads hon hcol h0 h1]
  cases h3 : faults 3 with
  | true => exact ensureFrom_existing_fault h3
  | false =>
      have h2 : faults 2 = true := by
        by_contra h2
        refine hprov ⟨hcol, fun n hn => ?_⟩
        rw [Bool.not_eq_true] at h2
        obtain rfl | rfl | rfl | rfl : n = 0 ∨ n = 1 ∨ n = 2 ∨ n = 3 := by omega
        · exact h0
        · exact h1
        · exact h2
        · exact h3
      rw [ensureFrom_fault h2]

end
end PredictATrade.DeviceAuth.Slots
