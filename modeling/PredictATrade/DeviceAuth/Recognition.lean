import Mathlib.Algebra.Order.BigOperators.Group.List
import Mathlib.Algebra.Order.Group.Nat
import PredictATrade.DeviceAuth.Service

/-!
# `DeviceAuth.Recognition` — a device that activates twice

Two activations of one license with one fingerprint. `bestMatch` is a running maximum
(`scan_spec`), and a fingerprint scores 100 against the row that it leaves (`score_self`), so the
second activation finds the device of the first (`bestMatch_snoc`, `bestMatch_map`) — unless there
was nothing to score. A fingerprint of which no component is known leaves a row without components,
and such a row scores 0 against everything, itself included.
-/

namespace PredictATrade.DeviceAuth
open Lib.Table Lib.Attempt

/-! ## Scores -/

/-- Some component of the fingerprint is known. -/
def Fingerprint.Known (fp : Fingerprint) : Prop :=
  fp.machineGuid.isSome ∨ fp.systemUuid.isSome ∨ fp.motherboard.isSome ∨
    fp.installationId.isSome ∨ fp.disk.isSome

instance Fingerprint.decidableKnown (fp : Fingerprint) : Decidable fp.Known :=
  inferInstanceAs (Decidable (_ ∨ _ ∨ _ ∨ _ ∨ _))

/-- A fingerprint matches the row that it left in every component that the row has. -/
theorem score_self {fp : Fingerprint} (h : fp.Known) : computeMatchScore fp fp = 100 := by
  obtain ⟨a, b, c, d, e⟩ := fp
  cases a <;> cases b <;> cases c <;> cases d <;> cases e <;>
    simp [Fingerprint.Known] at h <;>
    simp [computeMatchScore, weightedComponents]

/-- The step of the search. -/
def scan (fp : Fingerprint) (acc : Option (Device × ℕ)) (d : Device) : Option (Device × ℕ) :=
  let score := computeMatchScore fp d.fingerprint
  match acc with
  | none => some (d, score)
  | some (_, top) => if top < score then some (d, score) else acc

theorem bestMatch_eq (fp : Fingerprint) (devices : List Device) :
    bestMatch fp devices =
      match devices.foldl (scan fp) none with
      | some (d, score) => if matchThreshold ≤ score then some d else none
      | none => none := rfl

/-- The search from a device on: the score it ends with bounds those of all devices, and is the score
it began with or that of a device it has seen. -/
theorem scan_spec (fp : Fingerprint) (devices : List Device) (d : Device) (top : ℕ) :
    ∃ d' top', devices.foldl (scan fp) (some (d, top)) = some (d', top') ∧ top ≤ top' ∧
      (∀ x ∈ devices, computeMatchScore fp x.fingerprint ≤ top') ∧
      (top' = top ∨ ∃ x ∈ devices, computeMatchScore fp x.fingerprint = top') := by
  induction devices generalizing d top with
  | nil => exact ⟨d, top, rfl, le_rfl, fun x hx => absurd hx List.not_mem_nil, Or.inl rfl⟩
  | cons x devices ih =>
    rw [List.foldl_cons]
    by_cases h : top < computeMatchScore fp x.fingerprint
    · rw [show scan fp (some (d, top)) x = some (x, computeMatchScore fp x.fingerprint) from if_pos h]
      obtain ⟨d', top', hfold, hle, hall, hmem⟩ := ih x (computeMatchScore fp x.fingerprint)
      refine ⟨d', top', hfold, h.le.trans hle, ?_, Or.inr ?_⟩
      · exact List.forall_mem_cons.mpr ⟨hle, hall⟩
      · rcases hmem with rfl | ⟨y, hy, hscore⟩
        · exact ⟨x, List.mem_cons_self, rfl⟩
        · exact ⟨y, List.mem_cons_of_mem x hy, hscore⟩
    · rw [show scan fp (some (d, top)) x = some (d, top) from if_neg h]
      obtain ⟨d', top', hfold, hle, hall, hmem⟩ := ih d top
      refine ⟨d', top', hfold, hle, ?_, ?_⟩
      · exact List.forall_mem_cons.mpr ⟨(not_lt.mp h).trans hle, hall⟩
      · exact hmem.imp_right fun ⟨y, hy, hscore⟩ => ⟨y, List.mem_cons_of_mem x hy, hscore⟩

/-- The best match, where all devices score below a bound. -/
theorem scan_lt {fp : Fingerprint} {devices : List Device} {n : ℕ}
    (h : ∀ d ∈ devices, computeMatchScore fp d.fingerprint < n) :
    devices.foldl (scan fp) none = none ∨
      ∃ d top, devices.foldl (scan fp) none = some (d, top) ∧ top < n := by
  cases devices with
  | nil => exact Or.inl rfl
  | cons x devices =>
    obtain ⟨d, top, hfold, -, -, hmem⟩ :=
      scan_spec fp devices x (computeMatchScore fp x.fingerprint)
    refine Or.inr ⟨d, top, hfold, ?_⟩
    rcases hmem with rfl | ⟨y, hy, rfl⟩
    · exact h x List.mem_cons_self
    · exact h y (List.mem_cons_of_mem x hy)

/-- No device matches when none reaches the threshold. -/
theorem bestMatch_eq_none_iff {fp : Fingerprint} {devices : List Device} :
    bestMatch fp devices = none ↔
      ∀ d ∈ devices, computeMatchScore fp d.fingerprint < matchThreshold := by
  constructor
  · intro h
    cases devices with
    | nil => exact fun d hd => absurd hd List.not_mem_nil
    | cons x devices =>
      obtain ⟨d, top, hfold, hle, hall, -⟩ :=
        scan_spec fp devices x (computeMatchScore fp x.fingerprint)
      rw [bestMatch_eq, show (x :: devices).foldl (scan fp) none = some (d, top) from hfold] at h
      have htop : top < matchThreshold := by
        by_contra hge
        simp only [if_pos (not_lt.mp hge)] at h
        cases h
      exact List.forall_mem_cons.mpr
        ⟨hle.trans_lt htop, fun y hy => (hall y hy).trans_lt htop⟩
  · intro h
    rw [bestMatch_eq]
    rcases scan_lt h with hfold | ⟨d, top, hfold, htop⟩
    · rw [hfold]
    · rw [hfold]
      exact if_neg (not_le.mpr htop)

/-- A device that reaches the threshold, after devices that do not, is the match. -/
theorem bestMatch_snoc {fp : Fingerprint} {devices : List Device} {d : Device}
    (hnone : bestMatch fp devices = none)
    (hd : matchThreshold ≤ computeMatchScore fp d.fingerprint) :
    bestMatch fp (devices ++ [d]) = some d := by
  rw [bestMatch_eq, List.foldl_append]
  have hstep : scan fp (devices.foldl (scan fp) none) d =
      some (d, computeMatchScore fp d.fingerprint) := by
    rcases scan_lt (bestMatch_eq_none_iff.mp hnone) with hfold | ⟨x, top, hfold, htop⟩
    · rw [hfold]
      rfl
    · rw [hfold]
      exact if_pos (htop.trans_le hd)
  rw [show [d].foldl (scan fp) (devices.foldl (scan fp) none) = _ from hstep]
  exact if_pos hd

/-- The match does not depend on what a row has beside its fingerprint. -/
theorem bestMatch_map {f : Device → Device} (hf : ∀ d, (f d).fingerprint = d.fingerprint)
    (fp : Fingerprint) (devices : List Device) :
    bestMatch fp (devices.map f) = (bestMatch fp devices).map f := by
  have hscan : ∀ acc : Option (Device × ℕ),
      (devices.map f).foldl (scan fp) (acc.map (Prod.map f id)) =
        (devices.foldl (scan fp) acc).map (Prod.map f id) := by
    induction devices with
    | nil => exact fun _ => rfl
    | cons d devices ih =>
      intro acc
      rw [List.map_cons, List.foldl_cons, List.foldl_cons, ← ih]
      congr 1
      cases acc with
      | none => simp [scan, hf]
      | some a =>
        simp only [scan, hf, Option.map_some, Prod.map_snd, id_eq]
        split <;> rfl
  rw [bestMatch_eq, bestMatch_eq, show (devices.map f).foldl (scan fp) none = _ from hscan none]
  cases devices.foldl (scan fp) none with
  | none => rfl
  | some a =>
    simp only [Option.map_some, Prod.map_fst, Prod.map_snd, id_eq]
    split <;> rfl

/-! ## What an activation does -/

section
variable {now : Time} {req : ActivationRequest} {draws : Draws} {db db' : Db} {license : License}
variable {resp : ActivationResponse}

/-- The usable devices of the license leave room for one that matches none of them. -/
def Db.HasRoom (db : Db) (license : License) : Prop :=
  (db.usableDevices license.id).isEmpty ∨
    ((db.usableDevices license.id).length : ℤ) < license.deviceLimit

instance Db.decidableHasRoom (db : Db) (license : License) : Decidable (db.HasRoom license) :=
  inferInstanceAs (Decidable (_ ∨ _))

/-- The row of a new device. -/
def ActivationRequest.device (req : ActivationRequest) (license : License) (id : Id) : Device :=
  { id := id, boundLicenseId := some license.id, fingerprint := req.fingerprint, role := req.role }

theorem usableDevices_of_update {i k : Id} {role : Option Role}
    (h : db'.devices = updateWhere (·.id == i) (fun d => { d with role := role }) db.devices) :
    db'.usableDevices k =
      (db.usableDevices k).map fun d => if d.id == i then { d with role := role } else d := by
  simp only [Db.usableDevices, Db.boundTo, h, updateWhere, List.filter_map, List.filter_filter]
  refine congrArg _ (List.filter_congr fun d _ => ?_)
  simp only [Function.comp_apply]
  split <;> rfl

theorem usableDevices_of_append {id : Id}
    (h : db'.devices = db.devices ++ [req.device license id]) :
    db'.usableDevices license.id = db.usableDevices license.id ++ [req.device license id] := by
  simp [Db.usableDevices, Db.boundTo, h, ActivationRequest.device]

/-- A device that the activation binds is a new row of the license, which is now active. -/
structure Binds (req : ActivationRequest) (license : License) (id : Id) (db db' : Db) : Prop where
  devices : db'.devices = db.devices ++ [req.device license id]
  found : db'.licenseByKey req.licenseKey = some { license with status := .active }

/-- A device that it matches keeps its row, up to the role. -/
structure Reuses (req : ActivationRequest) (license : License) (id : Id) (db db' : Db) : Prop where
  devices : db'.devices =
    updateWhere (·.id == id) (fun d => { d with role := req.role }) db.devices
  found : db'.licenseByKey req.licenseKey = some license
  known : ∃ d, bestMatch req.fingerprint (db.usableDevices license.id) = some d ∧ d.id = id

/-- A device that matches is found again by the next activation with the fingerprint. -/
theorem Reuses.again {id : Id} (h : Reuses req license id db db') :
    ∃ d, bestMatch req.fingerprint (db'.usableDevices license.id) = some d ∧ d.id = id := by
  obtain ⟨d, hbest, hid⟩ := h.known
  have hfp : ∀ d : Device,
      (if d.id == id then { d with role := req.role } else d).fingerprint = d.fingerprint := by
    intro d
    split <;> rfl
  rw [usableDevices_of_update h.devices, bestMatch_map hfp, hbest]
  refine ⟨_, rfl, ?_⟩
  dsimp only
  split <;> exact hid

/-- So is a device that was bound, when some component of the fingerprint is known. -/
theorem Binds.again {id : Id} (h : Binds req license id db db')
    (hnone : bestMatch req.fingerprint (db.usableDevices license.id) = none)
    (hknown : req.fingerprint.Known) :
    bestMatch req.fingerprint (db'.usableDevices license.id) = some (req.device license id) := by
  rw [usableDevices_of_append h.devices]
  refine bestMatch_snoc hnone ?_
  rw [show computeMatchScore req.fingerprint (req.device license id).fingerprint = 100 from
    score_self hknown]
  decide

end

/-! ## Recognition -/

section
variable {db : Db} {licenseKey : String} {fp : Fingerprint}

end

end PredictATrade.DeviceAuth
