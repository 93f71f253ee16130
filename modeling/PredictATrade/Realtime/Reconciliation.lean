import Mathlib.Data.List.AList
import PredictATrade.Lib.Runs

/-!
# `Realtime.Reconciliation` — what the reports about a signal leave behind

`Reconciler` keeps a record for each signal. The first times of a delivery, an acknowledgement and a
fill stay as they are, whatever comes later; the status does not: each report that has one writes it
over the one that is there, and `RecordSignal` does so as well. So the last report decides, an
acknowledgement that comes late takes a signal back from `FILLED`, and the final status is the same for
every order of the reports exactly when they all write the same one (`orderly_iff`).

`PruneOlderThan` looks at the times only, and keeps every record that still waits for something.
-/

namespace PredictATrade.Realtime.Reconciliation

open Lib.Runs

/-! ## Data -/

/-- The statuses of a signal. -/
inductive SignalStatus where
  | detected | validating | candidate | aiVerifying | calibrating | riskCheck | confirmed | active
  | triggered | expired | invalidated | cancelled | orderSent | acknowledged | filled
  | partiallyFilled | tp1 | tp2 | tp3 | stopped | closed
  deriving DecidableEq, Repr

/-- The statuses a signal has on its way to `FILLED`. A signal that is expired, invalidated or cancelled
is not on its way there any more. -/
def SignalStatus.beforeFilled : SignalStatus → Bool
  | .detected | .validating | .candidate | .aiVerifying | .calibrating | .riskCheck | .confirmed
  | .active | .triggered | .orderSent | .acknowledged | .partiallyFilled => true
  | _ => false

/-- Nanoseconds since the zero time. -/
abbrev Time := ℤ

/-- A signal, as far as the reconciler reads it. -/
structure Signal where
  id : String
  status : SignalStatus
  deriving DecidableEq, Repr

/-- The record of a signal. -/
structure SignalRecord where
  signal : Signal
  deliveredTo : List String := []
  deliveredAt : Time := 0
  acknowledgedBy : List String := []
  acknowledgedAt : Time := 0
  fillID : String := ""
  filledAt : Time := 0
  status : SignalStatus
  updatedAt : Time
  deriving DecidableEq, Repr

/-- The records by the identifiers of their signals. -/
structure Reconciler where
  signals : AList fun _ : String => SignalRecord := ∅

/-! ## Methods -/

/-- `GetSignal`. -/
def Reconciler.getSignal (r : Reconciler) (signalID : String) : Option SignalRecord :=
  r.signals.lookup signalID

/-- Write to the record of a signal, if there is one. -/
def Reconciler.update (r : Reconciler) (signalID : String) (f : SignalRecord → SignalRecord) :
    Reconciler :=
  match r.signals.lookup signalID with
  | none => r
  | some rec => { signals := r.signals.insert signalID (f rec) }

/-- The first time stays. -/
def first (t now : Time) : Time := if t = 0 then now else t

/-- `RecordSignal`. -/
def Reconciler.recordSignal (r : Reconciler) (signal : Signal) (now : Time) : Reconciler :=
  match r.signals.lookup signal.id with
  | none =>
    let record : SignalRecord := { signal, status := signal.status, updatedAt := now }
    { signals := r.signals.insert signal.id record }
  | some _ =>
    r.update signal.id fun rec => { rec with signal, status := signal.status, updatedAt := now }

/-- `RecordDelivery`. -/
def Reconciler.recordDelivery (r : Reconciler) (signalID userID : String) (now : Time) : Reconciler :=
  r.update signalID fun rec =>
    { rec with
      deliveredAt := first rec.deliveredAt now
      deliveredTo := rec.deliveredTo ++ [userID]
      updatedAt := now }

/-- `RecordAcknowledgement`. -/
def Reconciler.recordAcknowledgement (r : Reconciler) (signalID userID : String) (now : Time) :
    Reconciler :=
  r.update signalID fun rec =>
    { rec with
      acknowledgedAt := first rec.acknowledgedAt now
      acknowledgedBy := rec.acknowledgedBy ++ [userID]
      status := .acknowledged
      updatedAt := now }

/-- `RecordFill`. -/
def Reconciler.recordFill (r : Reconciler) (signalID fillID : String) (now : Time) : Reconciler :=
  r.update signalID fun rec =>
    { rec with filledAt := first rec.filledAt now, fillID, status := .filled, updatedAt := now }

/-- `UnacknowledgedOlderThan`. -/
def Reconciler.unacknowledgedOlderThan (r : Reconciler) (ttl : ℤ) (now : Time) : List SignalRecord :=
  (r.signals.entries.map fun e => e.2).filter fun rec =>
    rec.deliveredAt ≠ 0 ∧ rec.acknowledgedAt = 0 ∧ ttl < now - rec.deliveredAt

/-- Is a fill expected in this status? -/
def SignalStatus.expectsFill : SignalStatus → Bool
  | .orderSent | .acknowledged | .triggered | .partiallyFilled => true
  | _ => false

/-- `UnfilledOlderThan`. -/
def Reconciler.unfilledOlderThan (r : Reconciler) (ttl : ℤ) (now : Time) : List SignalRecord :=
  (r.signals.entries.map fun e => e.2).filter fun rec =>
    rec.acknowledgedAt ≠ 0 ∧ rec.filledAt = 0 ∧ rec.status.expectsFill ∧ ttl < now - rec.acknowledgedAt

/-- May the record be pruned? -/
def SignalRecord.prunable (rec : SignalRecord) (retention : ℤ) (now : Time) : Bool :=
  rec.acknowledgedAt ≠ 0 ∧ rec.filledAt ≠ 0 ∧ retention < now - rec.updatedAt

/-- `PruneOlderThan`, and the number of the records that it removes. -/
def Reconciler.pruneOlderThan (r : Reconciler) (retention : ℤ) (now : Time) : ℕ × Reconciler :=
  (r.signals.entries.countP fun e => e.2.prunable retention now,
    { signals :=
        { entries := r.signals.entries.filter fun e => !e.2.prunable retention now
          nodupKeys := r.signals.nodupKeys.sublist List.filter_sublist } })

/-! ## Reports -/

/-- What is reported of a signal. -/
inductive Report where
  | signal (sig : Signal)
  | delivery (signalID userID : String)
  | acknowledgement (signalID userID : String)
  | fill (signalID fillID : String)
  deriving DecidableEq, Repr

/-- The signal a report is about. -/
def Report.signalID : Report → String
  | .signal sig => sig.id
  | .delivery signalID _ => signalID
  | .acknowledgement signalID _ => signalID
  | .fill signalID _ => signalID

/-- The status a report writes. -/
def Report.writes : Report → Option SignalStatus
  | .signal sig => some sig.status
  | .delivery .. => none
  | .acknowledgement .. => some .acknowledged
  | .fill .. => some .filled

/-- A report and the time it arrives at. -/
structure Arrival where
  report : Report
  now : Time

/-- The reconciler after a report. -/
def step (r : Reconciler) (a : Arrival) : Reconciler :=
  match a.report with
  | .signal sig => r.recordSignal sig a.now
  | .delivery signalID userID => r.recordDelivery signalID userID a.now
  | .acknowledgement signalID userID => r.recordAcknowledgement signalID userID a.now
  | .fill signalID fillID => r.recordFill signalID fillID a.now

/-- The status on record. -/
def Reconciler.statusOf (r : Reconciler) (signalID : String) : Option SignalStatus :=
  (r.getSignal signalID).map (·.status)

/-- The reports about the signal that arrive are these, in any order and any number of times, among
reports about other signals. -/
def Bring (signalID : String) (arrivals : List Arrival) (reports : List Report) : Prop :=
  ∀ x, (x ∈ arrivals.map (·.report) ∧ x.signalID = signalID) ↔ x ∈ reports

/-- What the order of the reports about a registered signal cannot change. -/
structure Orderly (r : Reconciler) (signalID : String) (reports : List Report) : Prop where
  /-- The final status. -/
  settled : ∀ as bs, Bring signalID as reports → Bring signalID bs reports →
    (run step r as).statusOf signalID = (run step r bs).statusOf signalID
  /-- That nothing takes the signal back from `FILLED`. -/
  kept : ∀ pre a post, Bring signalID (pre ++ a :: post) reports →
    (run step r pre).statusOf signalID = some .filled →
      ∀ s, (run step r (pre ++ [a])).statusOf signalID = some s → s.beforeFilled = false

/-- The reports write one status at most, and none before `FILLED` over a signal that is registered
as that. -/
structure Agree (registered : SignalStatus) (reports : List Report) : Prop where
  same : ∀ x ∈ reports, ∀ y ∈ reports, ∀ s t, x.writes = some s → y.writes = some t → s = t
  forward : registered = .filled → ∀ x ∈ reports, ∀ s, x.writes = some s → s.beforeFilled = false

/-- A record that waits for an acknowledgement or for a fill. -/
def SignalRecord.Open (rec : SignalRecord) : Prop :=
  (rec.deliveredAt ≠ 0 ∧ rec.acknowledgedAt = 0) ∨ (rec.acknowledgedAt ≠ 0 ∧ rec.filledAt = 0)

variable {r : Reconciler} {id : String} {s : SignalStatus}

/-! ## Pruning -/

/-- **Open records are kept.** -/
theorem Open.kept {rec : SignalRecord} (h : rec.Open) (hrec : r.getSignal id = some rec) (retention : ℤ)
    (now : Time) : (r.pruneOlderThan retention now).2.getSignal id = some rec := by
  have hmem : (⟨id, rec⟩ : Σ _ : String, SignalRecord) ∈ r.signals.entries :=
    AList.mem_lookup_iff.mp hrec
  apply AList.mem_lookup_iff.mpr
  refine List.mem_filter.mpr ⟨hmem, ?_⟩
  unfold SignalRecord.prunable
  rcases h with ⟨-, hack⟩ | ⟨-, hfill⟩
  · simp [hack]
  · simp [hfill]

/-- So the gaps that are reported are still on record after pruning. -/
theorem gaps_kept {rec : SignalRecord} {ttl : ℤ} {now : Time}
    (h : rec ∈ r.unacknowledgedOlderThan ttl now ∨ rec ∈ r.unfilledOlderThan ttl now) (retention : ℤ)
    (later : Time) : ∃ id, (r.pruneOlderThan retention later).2.getSignal id = some rec := by
  have hopen : rec.Open ∧ ∃ e ∈ r.signals.entries, e.2 = rec := by
    rcases h with h | h
    · obtain ⟨hmem, hgap⟩ := List.mem_filter.mp h
      have hgap := of_decide_eq_true hgap
      exact ⟨Or.inl ⟨hgap.1, hgap.2.1⟩, List.mem_map.mp hmem⟩
    · obtain ⟨hmem, hgap⟩ := List.mem_filter.mp h
      have hgap := of_decide_eq_true hgap
      exact ⟨Or.inr ⟨hgap.1, hgap.2.1⟩, List.mem_map.mp hmem⟩
  obtain ⟨hopen, ⟨id, rec⟩, he, rfl⟩ := hopen
  exact ⟨id, Open.kept hopen (AList.mem_lookup_iff.mpr he) retention later⟩

/-! ## One report -/

theorem getSignal_update (f : SignalRecord → SignalRecord) (k : String) :
    (r.update k f).getSignal id = if id = k then (r.getSignal id).map f else r.getSignal id := by
  unfold Reconciler.update Reconciler.getSignal
  by_cases h : id = k
  · subst h
    rw [if_pos rfl]
    cases hrec : r.signals.lookup id with
    | none =>
        rw [hrec]
        rfl
    | some rec => exact AList.lookup_insert _
  · rw [if_neg h]
    cases r.signals.lookup k with
    | none => rfl
    | some rec => exact AList.lookup_insert_ne h

/-- What an update leaves as the status. -/
theorem statusOf_update {f : SignalRecord → SignalRecord} {w : Option SignalStatus}
    (hf : ∀ rec, (f rec).status = w.getD rec.status) (k : String) :
    (r.update k f).statusOf id =
      (r.statusOf id).map fun s => if id = k then w.getD s else s := by
  unfold Reconciler.statusOf
  rw [getSignal_update]
  by_cases h : id = k
  · rw [if_pos h, Option.map_map, Option.map_map]
    refine congrArg (fun g => Option.map g _) (funext fun rec => ?_)
    rw [Function.comp_apply, Function.comp_apply, hf, if_pos h]
  · rw [if_neg h, Option.map_map]
    refine congrArg (fun g => Option.map g _) (funext fun rec => ?_)
    rw [Function.comp_apply, if_neg h]

/-- The status of a signal after a report: the one that is written, if the report is about the signal
and writes one. -/
def Report.leaves (x : Report) (signalID : String) (s : SignalStatus) : SignalStatus :=
  if signalID = x.signalID then x.writes.getD s else s

/-- The step lemma. -/
theorem statusOf_step (h : r.statusOf id = some s) (a : Arrival) :
    (step r a).statusOf id = some (a.report.leaves id s) := by
  have hupdate : ∀ {f : SignalRecord → SignalRecord} {x : Report},
      (∀ rec, (f rec).status = x.writes.getD rec.status) →
        (r.update x.signalID f).statusOf id = some (x.leaves id s) := by
    intro f x hf
    rw [statusOf_update hf, h]
    rfl
  unfold step
  cases a.report with
  | signal sig =>
      show (r.recordSignal sig a.now).statusOf id = _
      unfold Reconciler.recordSignal
      cases hrec : r.signals.lookup sig.id with
      | some rec => exact hupdate (x := .signal sig) fun _ => rfl
      | none =>
          -- the report registers another signal
          have hne : id ≠ sig.id := by
            rintro rfl
            unfold Reconciler.statusOf Reconciler.getSignal at h
            rw [hrec] at h
            cases h
          unfold Report.leaves
          rw [if_neg (show id ≠ (Report.signal sig).signalID from hne), ← h]
          exact congrArg (Option.map _) (AList.lookup_insert_ne hne)
  | delivery signalID userID => exact hupdate (x := .delivery signalID userID) fun _ => rfl
  | acknowledgement signalID userID =>
      exact hupdate (x := .acknowledgement signalID userID) fun _ => rfl
  | fill signalID fillID => exact hupdate (x := .fill signalID fillID) fun _ => rfl

/-! ## Runs -/

/-- The run lemma: each report in turn leaves its status. -/
theorem statusOf_run (h : r.statusOf id = some s) (as : List Arrival) :
    (run step r as).statusOf id = some (as.foldl (fun s a => a.report.leaves id s) s) := by
  induction as generalizing r s with
  | nil => exact h
  | cons a as ih => exact ih (statusOf_step h a)

/-- Reports that write `w` or nothing leave `w`, or the status there was. -/
theorem foldl_leaves {w : SignalStatus} {as : List Arrival}
    (h : ∀ a ∈ as, a.report.signalID = id → ∀ t, a.report.writes = some t → t = w) :
    as.foldl (fun s a => a.report.leaves id s) s =
      if ∃ a ∈ as, a.report.signalID = id ∧ a.report.writes.isSome = true then w else s := by
  induction as generalizing s with
  | nil =>
      rw [if_neg (by rintro ⟨a, ha, -⟩; cases ha)]
      rfl
  | cons a as ih =>
      have hrest := fun b hb => h b (List.mem_cons_of_mem a hb)
      have hfirst := h a List.mem_cons_self
      rw [List.foldl_cons, ih hrest]
      -- a later report that writes decides; if there is none, this one may
      by_cases hlater : ∃ b ∈ as, b.report.signalID = id ∧ b.report.writes.isSome = true
      · obtain ⟨b, hb, hwrites⟩ := hlater
        rw [if_pos ⟨b, hb, hwrites⟩, if_pos ⟨b, List.mem_cons_of_mem a hb, hwrites⟩]
      · rw [if_neg hlater]
        unfold Report.leaves
        by_cases habout : a.report.signalID = id
        · rw [if_pos habout.symm]
          cases hw : a.report.writes with
          | none =>
              rw [if_neg]
              · rfl
              · rintro ⟨b, hb, hid, hsome⟩
                rcases List.mem_cons.mp hb with rfl | hb
                · rw [hw] at hsome
                  cases hsome
                · exact hlater ⟨b, hb, hid, hsome⟩
          | some t =>
              rw [if_pos ⟨a, List.mem_cons_self, habout, by rw [hw]; rfl⟩]
              exact hfirst habout t hw
        · rw [if_neg (fun heq => habout heq.symm), if_neg]
          rintro ⟨b, hb, hid, hsome⟩
          rcases List.mem_cons.mp hb with rfl | hb
          · exact habout hid
          · exact hlater ⟨b, hb, hid, hsome⟩

/-! ## The order of the reports -/

section
variable {reports : List Report} {as : List Arrival}

theorem Bring.mem (hb : Bring id as reports) {a : Arrival} (ha : a ∈ as)
    (habout : a.report.signalID = id) : a.report ∈ reports :=
  (hb a.report).mp ⟨List.mem_map_of_mem ha, habout⟩

/-- The final status of reports that write `w` or nothing. -/
theorem statusOf_of_same (h : r.statusOf id = some s) {w : SignalStatus}
    (hw : ∀ x ∈ reports, ∀ t, x.writes = some t → t = w) (hb : Bring id as reports) :
    (run step r as).statusOf id =
      some (if ∃ x ∈ reports, x.writes.isSome = true then w else s) := by
  have hany : (∃ a ∈ as, a.report.signalID = id ∧ a.report.writes.isSome = true) ↔
      ∃ x ∈ reports, x.writes.isSome = true := by
    constructor
    · rintro ⟨a, ha, habout, hsome⟩
      exact ⟨a.report, hb.mem ha habout, hsome⟩
    · rintro ⟨x, hx, hsome⟩
      obtain ⟨hmem, habout⟩ := (hb x).mpr hx
      obtain ⟨a, ha, rfl⟩ := List.mem_map.mp hmem
      exact ⟨a, ha, habout, hsome⟩
  rw [statusOf_run h, foldl_leaves fun a ha habout => hw a.report (hb.mem ha habout)]
  simp only [hany]

/-- Reports that agree are settled. -/
theorem Agree.settled (hagree : Agree s reports) (h : r.statusOf id = some s) {bs : List Arrival}
    (ha : Bring id as reports) (hb : Bring id bs reports) :
    (run step r as).statusOf id = (run step r bs).statusOf id := by
  by_cases hany : ∃ x ∈ reports, x.writes.isSome = true
  · -- some report writes, and then all that do write the same
    obtain ⟨x, hx, hsome⟩ := hany
    obtain ⟨w, hw⟩ := Option.isSome_iff_exists.mp hsome
    have hall : ∀ y ∈ reports, ∀ t, y.writes = some t → t = w := by
      intro y hy t ht
      exact hagree.same y hy x hx t w ht hw
    rw [statusOf_of_same h hall ha, statusOf_of_same h hall hb]
  · -- none does, and the status stays as it is
    have hall : ∀ y ∈ reports, ∀ t, y.writes = some t → t = s := by
      intro y hy t ht
      exact absurd ⟨y, hy, by rw [ht]; rfl⟩ hany
    rw [statusOf_of_same h hall ha, statusOf_of_same h hall hb]

/-- And none of them takes a signal back from `FILLED`. -/
theorem Agree.kept (hagree : Agree s reports) (h : r.statusOf id = some s) {pre post : List Arrival}
    {a : Arrival} (hb : Bring id (pre ++ a :: post) reports)
    (hfilled : (run step r pre).statusOf id = some .filled) {t : SignalStatus}
    (ht : (run step r (pre ++ [a])).statusOf id = some t) : t.beforeFilled = false := by
  rw [run_snoc, statusOf_step hfilled, Option.some.injEq] at ht
  unfold Report.leaves at ht
  by_cases habout : id = a.report.signalID
  · rw [if_pos habout] at ht
    cases hw : a.report.writes with
    | none =>
        rw [hw] at ht
        rw [← ht]
        rfl
    | some w =>
        rw [hw] at ht
        obtain rfl : w = t := ht
        have hmem : a.report ∈ reports := hb.mem (by simp) habout.symm
        -- the reports before this one have written the same status, or none
        have hpre : ∀ b ∈ pre, b.report.signalID = id → ∀ u, b.report.writes = some u → u = w := by
          intro b hbpre hid u hu
          exact hagree.same _ (hb.mem (List.mem_append_left _ hbpre) hid) _ hmem u w hu hw
        rw [statusOf_run h, foldl_leaves hpre, Option.some.injEq] at hfilled
        split at hfilled
        · rw [hfilled]
          rfl
        · exact hagree.forward hfilled _ hmem w hw
  · rw [if_neg habout] at ht
    rw [← ht]
    rfl

/-- The reports arrive one after the other. -/
def arrive (reports : List Report) : List Arrival := reports.map fun x => ⟨x, 0⟩

theorem bring_arrive {l : List Report} (habout : ∀ x ∈ reports, x.signalID = id)
    (hl : ∀ x, x ∈ l ↔ x ∈ reports) : Bring id (arrive l) reports := by
  intro x
  have hmap : (arrive l).map (·.report) = l := by
    unfold arrive
    rw [List.map_map]
    exact List.map_id _
  rw [hmap, hl]
  constructor
  · intro h
    exact h.1
  · intro h
    exact ⟨h, habout x h⟩

/-- A report that comes again, after all the others, decides. -/
theorem statusOf_last (h : r.statusOf id = some s) (l : List Report) {x : Report}
    (habout : x.signalID = id) {t : SignalStatus} (ht : x.writes = some t) :
    (run step r (arrive (l ++ [x]))).statusOf id = some t := by
  have hsnoc : arrive (l ++ [x]) = arrive l ++ [⟨x, 0⟩] := List.map_append
  rw [hsnoc, run_snoc, statusOf_step (statusOf_run h (arrive l))]
  unfold Report.leaves
  rw [if_pos habout.symm, ht]
  rfl

/-- Reports whose order does not matter agree. -/
theorem Orderly.agree (ho : Orderly r id reports) (h : r.statusOf id = some s)
    (habout : ∀ x ∈ reports, x.signalID = id) : Agree s reports where
  same x hx y hy t u ht hu := by
    -- either report may come again after all the others
    have hagain : ∀ z ∈ reports, Bring id (arrive (reports ++ [z])) reports := by
      intro z hz
      apply bring_arrive habout
      intro w
      rw [List.mem_append, List.mem_singleton]
      constructor
      · rintro (hw | rfl)
        · exact hw
        · exact hz
      · exact Or.inl
    have hsame := ho.settled _ _ (hagain x hx) (hagain y hy)
    rw [statusOf_last h reports (habout x hx) ht, statusOf_last h reports (habout y hy) hu] at hsame
    exact Option.some.inj hsame
  forward hfilled x hx t ht := by
    -- the report may be the first to arrive
    have hfirst : Bring id (arrive (x :: reports)) reports := by
      apply bring_arrive habout
      intro w
      rw [List.mem_cons]
      constructor
      · rintro (rfl | hw)
        · exact hx
        · exact hw
      · exact Or.inr
    rw [hfilled] at h
    exact ho.kept [] ⟨x, 0⟩ (arrive reports) hfirst h t (statusOf_last h [] (habout x hx) ht)

/-- **Reconciliation.** Pruning keeps every open record. The final status of a registered signal is the
same for every order and repetition of the reports about it, and none of them takes it back from
`FILLED`, exactly when the reports agree. -/
theorem orderly_iff (h : r.statusOf id = some s) (habout : ∀ x ∈ reports, x.signalID = id) :
    (∀ (r : Reconciler) (id : String) (rec : SignalRecord), r.getSignal id = some rec → rec.Open →
      ∀ retention now, (r.pruneOlderThan retention now).2.getSignal id = some rec) ∧
    (Orderly r id reports ↔ Agree s reports) := by
  constructor
  · intro r id rec hrec hopen retention now
    exact Open.kept hopen hrec retention now
  · constructor
    · intro ho
      exact ho.agree h habout
    · intro hagree
      refine ⟨?_, ?_⟩
      · intro as bs ha hb
        exact hagree.settled h ha hb
      · intro pre a post hb hfilled t ht
        exact hagree.kept h hb hfilled ht

end

/-- An active signal, delivered to nobody yet. -/
def registered : Reconciler := ({} : Reconciler).recordSignal ⟨"s1", .active⟩ 1

/-- A delivery and two fills of it agree. -/
theorem fills_agree :
    Agree .active [.delivery "s1" "agent", .fill "s1" "41", .fill "s1" "42"] where
  same x hx y hy s t hs ht := by
    have hfilled : ∀ z ∈ [Report.delivery "s1" "agent", .fill "s1" "41", .fill "s1" "42"], ∀ u,
        z.writes = some u → u = .filled := by
      simp [Report.writes]
    rw [hfilled x hx s hs, hfilled y hy t ht]
  forward h := nomatch h

/-- A signal that is delivered, acknowledged and filled. -/
theorem orderly_fills :
    Orderly registered "s1" [.delivery "s1" "agent", .fill "s1" "41", .fill "s1" "42"] :=
  (orderly_iff (s := .active) (by decide) (by decide)).2.mpr fills_agree

/-- The acknowledgement may come after the fill, and the signal may be recorded again after it. -/
theorem filled_is_left :
    ¬ Orderly registered "s1" [.acknowledgement "s1" "agent", .fill "s1" "42"] ∧
      ¬ Orderly registered "s1" [.fill "s1" "42", .signal ⟨"s1", .active⟩] := by
  constructor
  · intro ho
    have hlate := ho.kept [⟨.fill "s1" "42", 2⟩] ⟨.acknowledgement "s1" "agent", 3⟩ []
      (by intro x; simp [or_comm]; rintro (rfl | rfl) <;> rfl) (by decide) .acknowledged (by decide)
    cases hlate
  · intro ho
    have hlate := ho.kept [⟨.fill "s1" "42", 2⟩] ⟨.signal ⟨"s1", .active⟩, 3⟩ []
      (by intro x; simp; rintro (rfl | rfl) <;> rfl) (by decide) .active (by decide)
    cases hlate

end PredictATrade.Realtime.Reconciliation
