import PredictATrade.Control.Refinement

/-!
# `Control.Withdrawable` — what an available balance is worth

The balance check of `requestPayout` reads `available_balance`, the bucket of the AVAILABLE rows; the
reservation takes CLEARED rows, which the wallet counts in `cleared_balance`. So a request within the
available balance either finds no CLEARED rows to take, or takes money the wallet does not count as
available. `requestPayout_withdrawable_iff`: it does what it should exactly when it repeats a request.
-/

namespace PredictATrade.Control
open Lib.Runs Lib.Attempt

/-- Whatever is newly reserved was AVAILABLE, the status the wallet counts as available. -/
def ReservesAvailable (db db' : Db) : Prop :=
  ∀ c, (books db').row c = some .reserved → (books db).row c = some .reserved ∨
    ∃ s, (books db).row c = some s ∧ bucketForStatus s = .availableBalance

/-- The request succeeds, and reserves nothing but available money. -/
def Withdraws (now : Time) (userId : UserId) (dto : PayoutRequest) (db : Db) : Prop :=
  (∃ reply, (requestPayout now userId dto db).1 = .ok reply) ∧
    ReservesAvailable db (requestPayout now userId dto db).2

/-- A request under a known key is answered with the payout it already has. -/
theorem requestPayout_of_existing {now : Time} {userId : UserId} {dto : PayoutRequest} {db : Db}
    {amount : ℚ} {p : Payout} (hv : validateRequest dto = .ok amount)
    (hp : existingPayout userId dto db = some p) :
    requestPayout now userId dto db = (.ok { payout := p, duplicate := true }, db) := by
  refine transaction_of_ok ?_
  simp only [requestTx, hv, ok_bind, hp]

/-- **When an available balance can be withdrawn.** In every reachable state and for every valid
request, whatever the available balance: it succeeds and reserves available money exactly when the
user already has a payout under its idempotency key. -/
theorem requestPayout_withdrawable_iff {db : Db} (hreach : Reachable step Opening db) (now : Time)
    (userId : UserId) (dto : PayoutRequest) {amount : ℚ} (hv : validateRequest dto = .ok amount) :
    Withdraws now userId dto db ↔ (existingPayout userId dto db).isSome = true := by
  constructor
  · rintro ⟨⟨reply, hreply⟩, havail⟩
    unfold requestPayout at hreply havail
    cases hb : requestTx now userId dto db with
    | error e => rw [transaction_of_error hb] at hreply; cases hreply
    | ok out =>
        obtain ⟨r, db'⟩ := out
        rw [transaction_of_ok hb] at havail
        rcases requestTx_books (Keyed.of_reachable hreach) hb with ⟨hsome, -⟩ | ⟨-, -, cs, hne, hr⟩
        · exact hsome
        · -- a commission the request took was cleared, which is not available
          exfalso
          obtain ⟨c, hc⟩ := List.exists_mem_of_ne_nil cs hne
          have hcl := hr.cleared c hc
          have hres : (books db').row c = some .reserved := by rw [hr.row, if_pos hc]
          rcases havail c hres with hbefore | ⟨s, hs, hbucket⟩
          · rw [hcl] at hbefore; cases hbefore
          · rw [hcl] at hs; cases hs
            cases hbucket
  · intro hsome
    obtain ⟨p, hp⟩ := Option.isSome_iff_exists.mp hsome
    unfold Withdraws
    rw [requestPayout_of_existing hv hp]
    exact ⟨⟨_, rfl⟩, fun c hc => Or.inl hc⟩

/-! ## An available balance that cannot be withdrawn -/

/-- A valid request for 60 USD. -/
def sixtyDollars : PayoutRequest :=
  { amount := .finite 60
    method := .usdt
    destination := "0x00112233445566778899aabbccddeeff00112233"
    idempotencyKey := some "march"
    details := some [("network", "ERC20")] }

/-- One commission, cleared after 15 days and available after 46. -/
def oneReleased : List (Time × Call) :=
  [(days 0, thousandDollars 55), (days 15, .clearEligible), (days 46, .clearEligible)]

/-- What a run of calls reaches. -/
theorem reachable_run (calls : List (Time × Call)) :
    Reachable step Opening (run step programme calls) :=
  (Reachable.init ⟨rfl, rfl, rfl, rfl, rfl⟩).run calls

theorem sixtyDollars_valid : validateRequest sixtyDollars = .ok 60 := by decide +kernel

/-- **100 USD available, 60 refused.** In a reachable state the wallet shows 100 USD available, and a
valid request for 60 of them does not withdraw: no commission is CLEARED any more. -/
theorem available_not_withdrawable :
    Reachable step Opening (run step programme oneReleased) ∧
      ((run step programme oneReleased).wallets.find? (·.belongsTo 1 "USD")).map
        (·.availableBalance) = some 100 ∧
      validateRequest sixtyDollars = .ok 60 ∧
      (requestPayout (days 47) 1 sixtyDollars (run step programme oneReleased)).1 =
        .error (.badRequest "insufficient CLEARED commissions to cover payout") ∧
      ¬ Withdraws (days 47) 1 sixtyDollars (run step programme oneReleased) := by
  have hbal : ((run step programme oneReleased).wallets.find? (·.belongsTo 1 "USD")).map
      (·.availableBalance) = some 100 := by decide +kernel
  have hres : (requestPayout (days 47) 1 sixtyDollars (run step programme oneReleased)).1 =
      .error (.badRequest "insufficient CLEARED commissions to cover payout") := by
    decide +kernel
  refine ⟨reachable_run oneReleased, hbal, sixtyDollars_valid, hres, ?_⟩
  rintro ⟨⟨reply, hok⟩, -⟩
  rw [hres] at hok
  cases hok

/-- Asking again under the same key: the first request was answered, and the second finds it. -/
theorem repeated_request_withdraws :
    Withdraws (days 48) 1 sixtyDollars (run step programme
      [(days 0, thousandDollars 55), (days 15, .clearEligible), (days 20, thousandDollars 56),
        (days 46, .clearEligible), (days 47, .requestPayout 1 sixtyDollars)]) :=
  (requestPayout_withdrawable_iff (reachable_run _) (days 48) 1 sixtyDollars sixtyDollars_valid).mpr
    (by decide +kernel)

end PredictATrade.Control
