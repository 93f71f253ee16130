import Mathlib.Data.List.Perm.Basic
import PredictATrade.DeviceAuth.DeviceLimit

/-!
# `DeviceAuth.SlotLocks` — what the lock of an activation protects

An activation locks its license before it counts the devices. Until it commits, no other activation of
the license begins, no device is registered for it and its slots are not written: what it has read
stays true (`Call.Current`). Only the statement that un-revokes the devices of a license does not look
at the license at all. In a run in which that statement does not meet an open activation, an
activation that binds a new device fits, if the license has a slot (`activation_fits`).
-/

namespace PredictATrade.DeviceAuth.Slots

open Lib.Runs Lib.Table

/-- The license exists and has `n` slots. -/
def Tables.HasSlots (t : Tables) (k : Id) (n : ℤ) : Prop :=
  ∃ l ∈ t.licenses, l.id = k ∧ l.maxDevices = n

/-- What an open activation has read is still so. -/
def Call.Current (t : Tables) : Call → Prop
  | .activate _ _ (.devices l) => t.HasSlots l.id l.maxDevices
  | .activate _ _ (.commit l none) =>
    t.HasSlots l.id l.maxDevices ∧ (t.usable l.id = 0 ∨ (t.usable l.id : ℤ) < l.deviceLimit)
  | _ => True

/-! ## What others leave alone -/

/-- From `t` to `t'` the license keeps its slots, and gets no more usable devices. -/
structure Frame (k : Id) (t t' : Tables) : Prop where
  slots : ∀ n, t.HasSlots k n → t'.HasSlots k n
  usable : t'.usable k ≤ t.usable k

namespace Frame

variable {k : Id} {t t' : Tables} {c : Change}

theorem refl (k : Id) (t : Tables) : Frame k t t := ⟨fun _ h => h, Nat.le_refl _⟩

theorem trans {t'' : Tables} (h : Frame k t t') (h' : Frame k t' t'') : Frame k t t'' :=
  ⟨fun n hn => h'.slots n (h.slots n hn), Nat.le_trans h'.usable h.usable⟩

/-- A write of a license: of another one, or one that leaves the slots alone. -/
theorem updateLicense {j : Id} {f : LicenseRow → LicenseRow} {hf : ∀ l, (f l).id = l.id}
    (h : j ≠ k ∨ ∀ l, (f l).maxDevices = l.maxDevices) : Frame k t (t.updateLicense j f hf) := by
  refine ⟨?_, Nat.le_refl _⟩
  rintro n ⟨l, hl, rfl, rfl⟩
  refine ⟨_, mem_updateWhere.mpr ⟨l, hl, rfl⟩, ?_⟩
  by_cases hp : (l.id == j) = true
  · rw [if_pos hp]
    rcases h with hne | hmax
    · exact absurd (beq_iff_eq.mp hp).symm hne
    · exact ⟨hf l, hmax l⟩
  · rw [if_neg hp]
    exact ⟨rfl, rfl⟩

theorem insertDevice {d : DeviceRow} (hins : t.insertDevice d = some t')
    (hd : d.boundLicenseId ≠ some k) : Frame k t t' := by
  refine ⟨?_, (Tables.usable_insertDevice_other hins hd).le⟩
  rintro n ⟨l, hm, h⟩
  exact ⟨l, (Tables.usable_insertDevice hins k).1 ▸ hm, h⟩

theorem insertLicense {l : LicenseRow} (hins : t.insertLicense l = some t') : Frame k t t' := by
  unfold Tables.insertLicense at hins
  split at hins
  · cases hins
  · cases hins
    refine ⟨?_, Nat.le_refl _⟩
    rintro n ⟨m, hm, h⟩
    exact ⟨m, List.mem_append_left _ hm, h⟩

end Frame

/-- The changes that concern the slots of a license. -/
def Change.Concerns (k : Id) : Change → Prop
  | .add j | .unrevoke j | .slots j _ => j = k
  | .keep | .issue _ => False

theorem Writes.frame {k : Id} {t t' : Tables} {c : Change} (hw : Writes t c t')
    (hc : ¬ c.Concerns k) : Frame k t t' := by
  induction hw with
  | same => exact .refl k t
  | devices hd => exact ⟨fun _ h => h, countP_updateWhere_le fun d _ _ hq => hd k d hq⟩
  | license _ hmax ih => exact (ih hc).trans (.updateLicense (.inr hmax))
  | unbound hins hd => exact .insertDevice hins (Tables.not_bound_of_none hd)
  | device hins hd =>
      refine .insertDevice hins fun heq => hc ?_
      rw [Tables.bound_of_usableOn hd] at heq
      exact Option.some.inj heq
  | refused hno => exact .refl k t
  | unrevoke j => exact ⟨fun _ h => h, (Tables.usable_unrevoke_other fun heq => hc heq.symm).le⟩
  | slots hmax => exact .updateLicense (.inl hc)
  | issue hins => exact .insertLicense hins

section

variable {env : Env} {now : Time} {billing : Billing} {locked : Id → Bool} {t t' : Tables}
  {p p' : Call} {k : Id}

/-- A statement whose change concerns a license un-revokes its devices, or the call holds the license,
or no other does: the foreign key check of an insert waits for the lock. -/
theorem advance_concerns (hadv : advance env now billing locked t p = some (t', p'))
    (hc : (p.change t).Concerns k) :
    p.change t = .unrevoke k ∨ p.holds = some k ∨ locked k = false := by
  cases p with
  | registerDevice body drawn pc =>
      cases pc with
      | insert license =>
          cases license with
          | none => exact absurd hc id
          | some j =>
              have hj : j = k := by
                simp only [Call.change, Tables.insertChange] at hc
                split at hc
                · exact absurd hc id
                · exact hc
              simp only [advance, registerDevice] at hadv
              split at hadv
              · cases hadv
              · rename_i hfree
                exact .inr (.inr (hj ▸ Bool.eq_false_iff.mpr hfree))
      | lookup | update | license | count => exact absurd hc id
  | activate req drawn pc =>
      cases pc with
      | commit l reused =>
          cases reused with
          | none =>
              simp only [Call.change, Tables.insertChange] at hc
              split at hc
              · exact absurd hc id
              · exact .inr (.inl (congrArg some hc))
          | some device => exact absurd hc id
      | lock | devices => exact absurd hc id
  | activateLicense id pc =>
      cases pc with
      | unrevoke => exact .inl (congrArg Change.unrevoke hc)
      | read | update => exact hc.elim
  | ensureActive subscription drawn licenseKey pc =>
      cases pc with
      | unrevoke license => exact .inl (congrArg Change.unrevoke hc)
      | issue userId p =>
          simp only [Call.change, Tables.issueChange] at hc
          split at hc <;> exact absurd hc id
      | subscription | plan | existing | syncPlan | syncSubscription | reactivate => exact hc.elim
  | changeLicensePlan id body pc =>
      cases pc with
      | commit license planId =>
          simp only [Call.change] at hc
          repeat' split at hc
          · exact hc.elim
          · exact .inr (.inl (congrArg some hc))
          · exact hc.elim
      | lock | plan => exact hc.elim
  | renewLicense | resetLicense | forceLogoutLicense | revokeDevice | done | aborted => exact hc.elim

/-- A call that does not hold the license leaves it alone while another does, unless it un-revokes
its devices. -/
theorem advance_frame (hk : locked k = true) (hhold : p.holds ≠ some k)
    (hrev : p.change t ≠ .unrevoke k)
    (hadv : advance env now billing locked t p = some (t', p')) : Frame k t t' := by
  refine (advance_writes hadv).frame fun hc => ?_
  rcases advance_concerns hadv hc with h | h | hfree
  · exact hrev h
  · exact hhold h
  · rw [hk] at hfree
    cases hfree

/-! ## What a call holds, and has read -/

/-- Outside an open transaction nothing has been read that must stay so. -/
theorem current_of_free (hp : p.holds = none) : p.Current t := by
  cases p with
  | activate req drawn pc =>
      cases pc with
      | lock => trivial
      | devices l => cases hp
      | commit l reused => cases hp
  | registerDevice | activateLicense | ensureActive | renewLicense | changeLicensePlan
  | resetLicense | forceLogoutLicense | revokeDevice | done | aborted => trivial

/-- What has been read stays so across steps that leave the license alone. -/
theorem Call.Current.frame (h : p.Current t) (hf : ∀ k, p.holds = some k → Frame k t t') :
    p.Current t' := by
  cases hp : p.holds with
  | none => exact current_of_free hp
  | some k =>
      have hfk := hf k hp
      cases p with
      | activate req drawn pc =>
          cases pc with
          | lock => trivial
          | devices l =>
              cases hp
              exact hfk.slots _ h
          | commit l reused =>
              cases hp
              cases reused with
              | some d => trivial
              | none =>
                  refine ⟨hfk.slots _ h.1, ?_⟩
                  have hle := hfk.usable
                  rcases h.2 with hnone | hlt
                  · left
                    omega
                  · right
                    omega
      | registerDevice | activateLicense | ensureActive | renewLicense | changeLicensePlan
      | resetLicense | forceLogoutLicense | revokeDevice | done | aborted => trivial

/-- An activation that chooses a new device has counted fewer than there are slots, or none. -/
theorem room_of_choose {l : LicenseRow} {fp : Fingerprint}
    (h : chooseDevice l.toLicense fp ((t.usableDevices l.id).map (·.toDevice)) = .ok none) :
    t.usable l.id = 0 ∨ (t.usable l.id : ℤ) < l.deviceLimit := by
  have hlen : ((t.usableDevices l.id).map (·.toDevice)).length = t.usable l.id := by
    rw [List.length_map, Tables.usable, List.countP_eq_length_filter]
    rfl
  unfold chooseDevice at h
  split at h
  · cases h
  · split at h
    · rename_i hroom
      rw [hlen] at hroom
      rcases hroom with hnone | hlt
      · left
        rw [← hlen, List.length_eq_zero_iff]
        exact List.isEmpty_iff.mp hnone
      · exact .inr hlt
    · cases h

/-- A call that goes on to hold nothing. -/
theorem after_free (hp : p'.holds = none) :
    p'.Current t' ∧ ∀ k, p'.holds = some k → p.holds = some k ∨ locked k = false := by
  refine ⟨current_of_free hp, fun k hk => ?_⟩
  rw [hp] at hk
  cases hk

/-- `activate` takes the lock of a license that no other call holds, and reads the license. -/
theorem activate_holds {req : ActivationRequest} {drawn : Id} {pc : ActivateAt}
    (hcur : (Call.activate req drawn pc).Current t)
    (hadv : activate env now locked t req drawn pc = some (t', p')) :
    p'.Current t' ∧ ∀ k, p'.holds = some k →
      (Call.activate req drawn pc).holds = some k ∨ locked k = false := by
  cases pc with
  | lock =>
      simp only [activate] at hadv
      split at hadv
      · cases hadv
        exact after_free rfl
      · rename_i l hl
        split at hadv
        · cases hadv
        · rename_i hfree
          split at hadv
          · cases hadv
            exact after_free rfl
          · cases hadv
            refine ⟨⟨l, List.mem_of_find?_eq_some hl, rfl, rfl⟩, fun k hk => .inr ?_⟩
            rw [Call.holds, Option.some.injEq] at hk
            exact hk ▸ Bool.eq_false_iff.mpr hfree
  | devices l =>
      simp only [activate] at hadv
      split at hadv
      · cases hadv
        exact after_free rfl
      · rename_i reused hchoose
        cases hadv
        refine ⟨?_, fun k hk => .inl hk⟩
        cases reused with
        | some d => trivial
        | none => exact ⟨hcur, room_of_choose hchoose⟩
  | commit l reused =>
      have hdone : p'.holds = none := by
        cases reused with
        | some d =>
            cases hadv
            rfl
        | none =>
            simp only [activate] at hadv
            split at hadv <;> cases hadv <;> rfl
      exact after_free hdone

theorem changeLicensePlan_holds {id : Id} {body : ChangePlanBody} {pc : ChangePlanAt}
    (hadv : changeLicensePlan billing locked t id body pc = some (t', p')) :
    p'.Current t' ∧ ∀ k, p'.holds = some k →
      (Call.changeLicensePlan id body pc).holds = some k ∨ locked k = false := by
  cases pc with
  | lock =>
      simp only [changeLicensePlan] at hadv
      split at hadv
      · cases hadv
        exact after_free rfl
      · split at hadv
        · cases hadv
          exact after_free rfl
        · split at hadv
          · cases hadv
          · rename_i hfree
            split at hadv
            · cases hadv
              exact after_free rfl
            · split at hadv <;> cases hadv
              · exact after_free rfl
              · refine ⟨trivial, fun k hk => .inr ?_⟩
                rw [Call.holds, Option.some.injEq] at hk
                exact hk ▸ Bool.eq_false_iff.mpr hfree
  | plan license planId =>
      simp only [changeLicensePlan] at hadv
      split at hadv <;> cases hadv
      · exact ⟨trivial, fun k hk => .inl hk⟩
      · exact after_free rfl
  | commit license planId =>
      simp only [changeLicensePlan] at hadv
      split at hadv <;> cases hadv <;> exact after_free rfl

/-- The other methods open no transaction. -/
theorem advance_free (hact : ∀ req drawn pc, p ≠ .activate req drawn pc)
    (hplan : ∀ id body pc, p ≠ .changeLicensePlan id body pc)
    (hadv : advance env now billing locked t p = some (t', p')) : p'.holds = none := by
  cases p with
  | registerDevice body drawn pc =>
      cases pc <;> simp only [advance, registerDevice] at hadv <;> repeat' split at hadv
      all_goals cases hadv
      all_goals rfl
  | activate req drawn pc => exact absurd rfl (hact req drawn pc)
  | activateLicense id pc =>
      cases pc <;> simp only [advance, activateLicense] at hadv <;> repeat' split at hadv
      all_goals cases hadv
      all_goals rfl
  | ensureActive subscription drawn licenseKey pc =>
      cases pc <;> simp only [advance, ensureActive] at hadv <;> repeat' split at hadv
      all_goals cases hadv
      all_goals rfl
  | renewLicense id validDays pc =>
      cases pc <;> simp only [advance, renewLicense] at hadv <;> repeat' split at hadv
      all_goals cases hadv
      all_goals rfl
  | changeLicensePlan id body pc => exact absurd rfl (hplan id body pc)
  | resetLicense id pc =>
      cases pc <;> simp only [advance, resetLicense] at hadv <;> repeat' split at hadv
      all_goals cases hadv
      all_goals rfl
  | forceLogoutLicense id pc =>
      cases pc <;> simp only [advance, forceLogoutLicense] at hadv <;> repeat' split at hadv
      all_goals cases hadv
      all_goals rfl
  | revokeDevice id =>
      cases hadv
      rfl
  | done result => cases hadv
  | aborted => cases hadv

theorem advance_holds (hcur : p.Current t)
    (hadv : advance env now billing locked t p = some (t', p')) :
    p'.Current t' ∧ ∀ k, p'.holds = some k → p.holds = some k ∨ locked k = false := by
  by_cases hact : ∃ req drawn pc, p = .activate req drawn pc
  · obtain ⟨req, drawn, pc, rfl⟩ := hact
    exact activate_holds hcur hadv
  · by_cases hplan : ∃ id body pc, p = .changeLicensePlan id body pc
    · obtain ⟨id, body, pc, rfl⟩ := hplan
      exact changeLicensePlan_holds hadv
    · have hfree : p'.holds = none :=
        advance_free (fun req drawn pc h => hact ⟨req, drawn, pc, h⟩)
          (fun id body pc h => hplan ⟨id, body, pc, h⟩) hadv
      exact after_free hfree

end

/-! ## Runs -/

namespace State

variable {env : Env} {s : State} {n : ℕ}

/-- No license is un-revoked while a transaction has it locked. -/
def Undisturbed (env : Env) (s : State) (i : Input) : Prop :=
  ∀ k, s.change env i = .unrevoke k → ∀ p ∈ s.calls, p.holds ≠ some k

/-- No two calls hold one license, and what they have read is still so. -/
structure Inv (s : State) : Prop where
  exclusive : (s.calls.filterMap Call.holds).Nodup
  current : ∀ p ∈ s.calls, p.Current s.tables

/-- Nothing is locked at the start. -/
theorem Inv.start (now : Time) (billing : Billing) (t : Tables) :
    (State.start now billing t).Inv :=
  ⟨List.nodup_nil, fun _ hp => absurd hp List.not_mem_nil⟩

/-- A call that holds nothing yet joins. -/
theorem Inv.begin (h : s.Inv) {p : Call} (hp : p.holds = none) : (s.begin p).Inv := by
  constructor
  · show ((s.calls ++ [p]).filterMap Call.holds).Nodup
    rw [List.filterMap_append, List.filterMap_cons_none hp, List.filterMap_nil, List.append_nil]
    exact h.exclusive
  · intro q hq
    rcases List.mem_append.mp hq with hq | hq
    · exact h.current q hq
    · rw [List.mem_singleton.mp hq]
      exact current_of_free hp

/-- Call number `n` goes on from `p` to `p'`, and the tables from those of `s` to `t'`: what the other
calls hold is left alone, and what the call itself holds no other does. -/
theorem Inv.set (h : s.Inv) (hn : n < s.calls.length) {p' : Call} {t' : Tables}
    (hcur : p'.Current t')
    (hother : ∀ q ∈ s.calls.eraseIdx n, ∀ k, q.holds = some k → Frame k s.tables t')
    (hnew : ∀ k, p'.holds = some k → s.locked n k = false) :
    Inv { s with tables := t', calls := s.calls.set n p' } := by
  -- up to order, the calls are the one that goes on and the others
  have hperm : (s.calls.set n p').Perm (p' :: s.calls.eraseIdx n) :=
    List.set_perm_cons_eraseIdx hn p'
  have hrest : ((s.calls.eraseIdx n).filterMap Call.holds).Nodup :=
    h.exclusive.sublist ((List.eraseIdx_sublist _ _).filterMap _)
  constructor
  · show ((s.calls.set n p').filterMap Call.holds).Nodup
    rw [(hperm.filterMap Call.holds).nodup_iff]
    cases hp : p'.holds with
    | none => rwa [List.filterMap_cons_none hp]
    | some k =>
        rw [List.filterMap_cons_some hp]
        refine List.nodup_cons.mpr ⟨fun hk => ?_, hrest⟩
        obtain ⟨q, hq, hqk⟩ := List.mem_filterMap.mp hk
        have hlocked : s.locked n k = true :=
          List.any_eq_true.mpr ⟨q, hq, beq_iff_eq.mpr hqk⟩
        rw [hnew k hp] at hlocked
        cases hlocked
  · intro q hq
    rcases List.mem_cons.mp (hperm.mem_iff.mp hq) with rfl | hq
    · exact hcur
    · exact (h.current q (List.mem_of_mem_eraseIdx hq)).frame (hother q hq)

/-- What a call holds no other holds. -/
theorem Inv.alone (h : s.Inv) {p q : Call} {k : Id} (hc : s.calls[n]? = some p)
    (hq : q ∈ s.calls.eraseIdx n) (hqk : q.holds = some k) : p.holds ≠ some k := by
  intro hp
  obtain ⟨hn, rfl⟩ := List.getElem?_eq_some_iff.mp hc
  have hnd := h.exclusive
  rw [← ((List.getElem_cons_eraseIdx_perm hn).filterMap Call.holds).nodup_iff,
    List.filterMap_cons_some hp] at hnd
  exact (List.nodup_cons.mp hnd).1 (List.mem_filterMap.mpr ⟨q, hq, hqk⟩)

theorem Inv.exec (h : s.Inv) (hu : s.Undisturbed env (.exec n)) : (s.step env (.exec n)).Inv := by
  simp only [step]
  cases hnext : s.next env n with
  | none => exact h
  | some r =>
      obtain ⟨p, hc, hadv⟩ := Option.bind_eq_some_iff.mp hnext
      obtain ⟨hn, hget⟩ := List.getElem?_eq_some_iff.mp hc
      have hp : p ∈ s.calls := hget ▸ List.getElem_mem hn
      obtain ⟨hcur, hholds⟩ := advance_holds (h.current p hp) hadv
      refine h.set hn hcur ?_ ?_
      · -- what another call holds is locked for this one
        intro q hq k hqk
        have hlocked : s.locked n k = true := List.any_eq_true.mpr ⟨q, hq, beq_iff_eq.mpr hqk⟩
        refine advance_frame hlocked (h.alone hc hq hqk) (fun hrev => ?_) hadv
        refine hu k ?_ q (List.mem_of_mem_eraseIdx hq) hqk
        simp only [change, hnext, hc]
        exact hrev
      · -- what the call holds now it held before, or nobody did
        intro k hk
        rcases hholds k hk with hown | hfree
        · refine Bool.eq_false_iff.mpr fun hlocked => ?_
          obtain ⟨q, hq, hqk⟩ := List.any_eq_true.mp hlocked
          exact h.alone hc hq (beq_iff_eq.mp hqk) hown
        · exact hfree

theorem Inv.abort (h : s.Inv) : (s.step env (.abort n)).Inv := by
  simp only [step]
  by_cases hn : n < s.calls.length
  · refine h.set hn trivial (fun q _ k _ => .refl k s.tables) ?_
    intro k hk
    cases hk
  · rw [List.set_eq_of_length_le (Nat.le_of_not_lt hn)]
    exact h

/-- **Step.** No two calls hold one license, and what they have read is still so. -/
theorem step_inv {i : Input} (h : s.Inv) (hu : s.Undisturbed env i) : (s.step env i).Inv := by
  cases i with
  | exec n => exact h.exec hu
  | abort n => exact h.abort
  | time t | billing b => exact ⟨h.exclusive, h.current⟩
  | registerDevice body drawn | activate req drawn | activateLicense id
  | ensureActive subscription drawn licenseKey | renewLicense id validDays
  | changeLicensePlan id body | resetLicense id | forceLogoutLicense id | revokeDevice id =>
      exact h.begin rfl

/-- **Run.** No two calls hold one license, and what they have read is still so. -/
theorem run_inv {is : List Input} (h : s.Inv) (hu : Along (step env) (Undisturbed env) s is) :
    (run (step env) s is).Inv := by
  induction is generalizing s with
  | nil => exact h
  | cons i is ih => exact ih (step_inv h hu.1) hu.2

/-- **The lock protects the count.** Where no license is un-revoked while it is locked, an activation
that is about to bind a new device to a license with a slot fits. -/
theorem activation_fits {now : Time} {billing : Billing} {t : Tables} {is : List Input}
    (hu : Along (step env) (Undisturbed env) (start now billing t) is) {req : ActivationRequest}
    {drawn : Id} {l : LicenseRow}
    (hc : .activate req drawn (.commit l none) ∈ (run (step env) (start now billing t) is).calls)
    (hslot : 1 ≤ l.maxDevices) :
    (Change.add l.id).Fits (run (step env) (start now billing t) is).tables := by
  obtain ⟨⟨m, hm, hid, hmax⟩, hroom⟩ := (run_inv (.start now billing t) hu).current _ hc
  intro r hr hrid
  have hsame : r = m := eq_of_key (Tables.key _) hr hm (hrid.trans hid.symm)
  rw [hsame, hmax]
  rcases hroom with hnone | hlt
  · rw [hnone]
    omega
  · rwa [License.deviceLimit, if_neg (by omega)] at hlt

/-- Two devices are activated at once on a license with one slot: the second waits for the lock. -/
def lockedRun : List Input :=
  let req : ActivationRequest := { licenseKey := "PAT-1", fingerprint := {} }
  [.activate req 11, .activate req 12, .exec 0, .exec 1, .exec 0]

/-- The first device of `lockedRun` fits. -/
theorem activation_fits_locked :
    (Change.add 1).Fits (run (step someEnv) (start 0 ⟨[⟨4, none⟩], []⟩ oneSlot) lockedRun).tables := by
  have hu : Along (step someEnv) (Undisturbed someEnv) (start 0 ⟨[⟨4, none⟩], []⟩ oneSlot)
      lockedRun := by
    refine ⟨?_, ?_, ?_, ?_, ?_, trivial⟩ <;> rintro _ ⟨⟩
  exact activation_fits hu (l := someLicense 1) (.head _) (by decide)

end State

end PredictATrade.DeviceAuth.Slots
