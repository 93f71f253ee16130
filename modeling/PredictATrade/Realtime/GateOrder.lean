import PredictATrade.Realtime.GateWalk
import PredictATrade.Lib.Runs

/-!
# `Realtime.GateOrder` — the short-circuit order, over the calls that register gates

`Register` puts a gate in the registry and leaves the order alone. `RegisterOrdered` also inserts the
gate's id behind another one, or at the end. A call drops nothing from the order and keeps the relative
order of what is there, whatever the calls before it were (`perform_orderly`). That no id stands in the
order twice is another matter. `Register` may be called again for a gate, but `RegisterOrdered` inserts
the id once more, and `EvaluateAll` then comes to the gate twice: `gate_order_iff` is the exact rule for
a run of calls.
-/

namespace PredictATrade.Realtime

open Lib.Runs

variable {V : Type} {r : Registry V} {id after : GateID} {g : Gate V}

/-! ## Calls -/

/-- A call that registers a gate, the gate with its id. -/
inductive Registration (V : Type) where
  | register (id : GateID) (g : Gate V)
  | registerOrdered (id : GateID) (g : Gate V) (after : GateID)

/-- The registry after a call. -/
def Registry.perform (r : Registry V) : Registration V → Registry V
  | .register id g => r.register id g
  | .registerOrdered id g after => r.registerOrdered id g after

/-- An id that is given a place in the order does not have one yet. -/
def Registry.Fresh (r : Registry V) : Registration V → Prop
  | .register _ _ => True
  | .registerOrdered id _ _ => id ∉ r.order

/-- An id stands right behind the first occurrence of another, and at the end if there is none. -/
def PlacedAfter (id after : GateID) (order order' : List GateID) : Prop :=
  (after ∈ order → ∃ pre post, order = pre ++ after :: post ∧ after ∉ pre ∧
    order' = pre ++ after :: id :: post) ∧
  (after ∉ order → order' = order ++ [id])

/-- What a call does to the order. -/
structure Registry.Orderly (r : Registry V) (call : Registration V) : Prop where
  /-- No id is dropped, and those that are there keep their relative order. -/
  kept : r.order.Sublist (r.perform call).order
  /-- An id that is new in the order is put behind the one that the call names. -/
  placed : ∀ id g after, call = .registerOrdered id g after → id ∉ r.order →
    PlacedAfter id after r.order (r.perform call).order

/-- No id stands in the order twice, and no walk of `EvaluateAll` comes to a gate twice. -/
structure Registry.EachOnce (r : Registry V) : Prop where
  order : r.order.Nodup
  walk : ∀ input clock, ∃ visited rest, r.order.zipIdx = visited ++ rest ∧
    r.Visits input clock visited rest ∧
    (r.evaluateAll input clock).evaluations = r.records input clock visited ∧
    (visited.map Prod.fst).Nodup

/-! ## One call -/

theorem order_registerOrdered :
    (r.perform (.registerOrdered id g after)).order = insertAfter id after r.order := rfl

theorem perform_orderly (r : Registry V) (call : Registration V) : r.Orderly call := by
  constructor
  · cases call with
    | register id g => exact List.Sublist.refl _
    | registerOrdered id g after =>
      rw [order_registerOrdered]
      exact sublist_insertAfter
  · rintro id g after rfl _
    rw [order_registerOrdered]
    exact ⟨insertAfter_of_mem, insertAfter_of_notMem⟩

/-- The walk goes along the order, so it comes to a gate no more often than the order does. -/
theorem eachOnce_iff_nodup : r.EachOnce ↔ r.order.Nodup := by
  constructor
  · intro h; exact h.order
  · intro h
    refine ⟨h, fun input clock => ?_⟩
    obtain ⟨visited, rest, hord, hvis, hrec, -, -⟩ := evaluated_inOrder r input clock
    refine ⟨visited, rest, hord, hvis, hrec, ?_⟩
    have hids : r.order = visited.map Prod.fst ++ rest.map Prod.fst := by
      rw [← List.map_append, ← hord, List.zipIdx_map_fst]
    rw [hids] at h
    exact (List.nodup_append.mp h).1

/-- A call gives an id a second place exactly when the id has one and the call gives it another. -/
theorem eachOnce_perform (call : Registration V) (h : r.EachOnce) :
    (r.perform call).EachOnce ↔ r.Fresh call := by
  rw [eachOnce_iff_nodup] at h ⊢
  cases call with
  | register id g =>
    show r.order.Nodup ↔ True
    exact iff_true_intro h
  | registerOrdered id g after =>
    show (insertAfter id after r.order).Nodup ↔ id ∉ r.order
    rw [insertAfter_perm.nodup_iff, List.nodup_cons]
    exact and_iff_left h

theorem newRegistry_eachOnce : (newRegistry : Registry V).EachOnce := by
  rw [eachOnce_iff_nodup]
  show canonicalOrder.Nodup
  decide

/-! ## The run -/

/-- The id that a call gives a place in the order. -/
def Registration.placedID : Registration V → Option GateID
  | .register _ _ => none
  | .registerOrdered id _ _ => some id

/-- The steps of a run are all for new ids when the ids it places are, and are all different. -/
theorem along_fresh_iff (h : r.order.Nodup) (calls : List (Registration V)) :
    Along Registry.perform Registry.Fresh r calls ↔
      (r.order ++ calls.filterMap Registration.placedID).Nodup := by
  induction calls generalizing r with
  | nil =>
    rw [List.filterMap_nil, List.append_nil]
    exact iff_of_true trivial h
  | cons call calls ih =>
    cases call with
    | register id g =>
      show True ∧ Along _ _ (r.register id g) calls ↔ (r.order ++ calls.filterMap _).Nodup
      rw [true_and]
      exact ih h
    | registerOrdered id g after =>
      show id ∉ r.order ∧ Along _ _ (r.registerOrdered id g after) calls ↔
        (r.order ++ id :: calls.filterMap _).Nodup
      have hperm : (insertAfter id after r.order).Perm (id :: r.order) := insertAfter_perm
      by_cases hid : id ∈ r.order
      · -- an id that is placed again stands twice from here on
        refine iff_of_false (fun hnew => hnew.1 hid) fun hnodup => ?_
        rw [List.perm_middle.nodup_iff, List.nodup_cons] at hnodup
        exact hnodup.1 (List.mem_append_left _ hid)
      · have hnext : (r.registerOrdered id g after).order.Nodup :=
          hperm.nodup_iff.mpr (List.nodup_cons.mpr ⟨hid, h⟩)
        rw [and_iff_right hid, ih hnext, List.perm_middle.nodup_iff]
        exact (hperm.append_right _).nodup_iff

/-- **The order of the gates.** For every run of calls from `NewRegistry`: each call keeps the order and
places a new id where it says, and every registry along the way has each id in its order once, exactly
when the ids that `RegisterOrdered` is called for are none of the canonical ones and all different. -/
theorem gate_order_iff (calls : List (Registration V)) :
    (Throughout Registry.perform Registry.EachOnce newRegistry calls ∧
      Along Registry.perform Registry.Orderly newRegistry calls) ↔
    (canonicalOrder ++ calls.filterMap Registration.placedID).Nodup := by
  have hkept : Along Registry.perform Registry.Orderly (newRegistry : Registry V) calls :=
    along_of_keeps (I := fun _ => True) (fun _ _ _ => trivial) (fun r call _ => perform_orderly r call)
      trivial calls
  have honce : Throughout Registry.perform Registry.EachOnce (newRegistry : Registry V) calls ↔
      (newRegistry : Registry V).EachOnce ∧
        Along Registry.perform Registry.Fresh newRegistry calls :=
    throughout_iff_of_step fun _ call h => eachOnce_perform call h
  rw [and_iff_left hkept, honce, and_iff_right newRegistry_eachOnce]
  exact along_fresh_iff newRegistry_eachOnce.order calls

/-- The spread gate, registered behind the session gate: the order has it there and in its old place,
and the walk leaves two records of it. -/
theorem spread_gate_twice :
    ¬ (Throughout Registry.perform Registry.EachOnce (newRegistry : Registry Unit)
        [.registerOrdered .spread ⟨fun _ _ => { gateID := .spread, result := .pass }⟩ .session] ∧
      Along Registry.perform Registry.Orderly (newRegistry : Registry Unit)
        [.registerOrdered .spread ⟨fun _ _ => { gateID := .spread, result := .pass }⟩ .session]) ∧
    ((((newRegistry : Registry Unit).registerOrdered .spread
        ⟨fun _ _ => { gateID := .spread, result := .pass }⟩ .session).evaluateAll
          (swingInput .buy).gateInput (fun _ => 1000)).evaluations.map (·.gateID)).count .spread = 2 := by
  refine ⟨?_, by decide +kernel⟩
  rintro ⟨honce, -⟩
  have hnodup := (honce _ (List.prefix_refl _)).order
  exact absurd hnodup (by decide)

end PredictATrade.Realtime
