import PredictATrade.Control.Schema

/-!
# `Control.Reservation` — what reserving commissions is for

The abstract view of the payout tables: which status a commission row has, which status a payout has,
and which commissions are items of which payout. On it, `AtMostOnce` says that no commission can be
paid twice, and `Books.Step` lists everything the services ever do to this view.

Every kind of step but one keeps `AtMostOnce`, in its inductive form `Books.Inv`. The exception is
`release`: freeing the reserved commissions of a payout that is not open. It is harmless while none
of them is reserved (`Inv.release_idle`) and breaks `AtMostOnce` at once when one is
(`Inv.release_breaks`), because a commission of a dead payout can only be reserved for another one.
-/

namespace PredictATrade.Control

/-- Not rejected and not cancelled. -/
def PayoutStatus.live : PayoutStatus → Bool
  | .rejected | .cancelled => false
  | _ => true

/-- Live and not yet paid. -/
def PayoutStatus.isOpen (s : PayoutStatus) : Bool := s.live && s != .paid

/-- The status the commissions of a live payout have. -/
def PayoutStatus.holds (s : PayoutStatus) : CommissionStatus :=
  if s = .paid then .paid else .reserved

/-- Commission rows, payouts, and the items that link them. -/
structure Books where
  row : Id → Option CommissionStatus
  payout : Id → Option PayoutStatus
  item : Id → Id → Prop

namespace Books

/-- **Each commission is paid at most once.** It is an item of at most one live payout, and the
commissions of a live payout are RESERVED, or PAID once that payout is PAID. -/
structure AtMostOnce (b : Books) : Prop where
  once : ∀ p q c s t, b.item p c → b.item q c → b.payout p = some s → b.payout q = some t →
    s.live = true → t.live = true → p = q
  held : ∀ p c s, b.item p c → b.payout p = some s → s.live = true → b.row c = some s.holds

/-- No commission is an item of two paid payouts. -/
theorem AtMostOnce.paid_once {b : Books} (h : b.AtMostOnce) {p q c : Id} (hp : b.item p c)
    (hq : b.item q c) (sp : b.payout p = some .paid) (sq : b.payout q = some .paid) : p = q :=
  h.once p q c .paid .paid hp hq sp sq rfl rfl

/-- The inductive form: items belong to payouts, and a commission of a dead payout that is reserved
again is reserved for an open one. -/
structure Inv (b : Books) : Prop extends AtMostOnce b where
  known : ∀ p c, b.item p c → ∃ s, b.payout p = some s
  dead : ∀ p c s, b.item p c → b.payout p = some s → s.live = false →
    b.row c = some .reserved → ∃ q t, b.item q c ∧ b.payout q = some t ∧ t.isOpen = true

/-! ## The steps -/

/-- Nothing happens to payouts and items; no row becomes reserved, none stops being reserved or
paid. -/
structure Quiet (b b' : Books) : Prop where
  payout : ∀ p, b'.payout p = b.payout p
  item : ∀ p c, b'.item p c ↔ b.item p c
  keeps : ∀ c s, b.row c = some s → s = .reserved ∨ s = .paid → b'.row c = some s
  fresh : ∀ c, b'.row c = some .reserved → b.row c = some .reserved

/-- A new payout `p` reserves the cleared commissions `cs`. -/
structure Requests (p : Id) (cs : List Id) (b b' : Books) : Prop where
  new : b.payout p = none
  cleared : ∀ c ∈ cs, b.row c = some .cleared
  row : ∀ c, b'.row c = if c ∈ cs then some .reserved else b.row c
  payout : ∀ q, b'.payout q = if q = p then some .requested else b.payout q
  item : ∀ q c, b'.item q c ↔ b.item q c ∨ (q = p ∧ c ∈ cs)

/-- An open payout takes another open status. -/
structure Advances (p : Id) (b b' : Books) : Prop where
  before : ∃ s, b.payout p = some s ∧ s.isOpen = true
  after : ∃ s, b'.payout p = some s ∧ s.isOpen = true
  row : ∀ c, b'.row c = b.row c
  others : ∀ q, q ≠ p → b'.payout q = b.payout q
  item : ∀ q c, b'.item q c ↔ b.item q c

/-- An open payout is paid, and its commissions with it. -/
structure Pays (p : Id) (b b' : Books) : Prop where
  before : ∃ s, b.payout p = some s ∧ s.isOpen = true
  paid : ∀ c, b.item p c → ∀ s, b.row c = some s → b'.row c = some .paid
  row : ∀ c, ¬ b.item p c → b'.row c = b.row c
  payout : ∀ q, b'.payout q = if q = p then some .paid else b.payout q
  item : ∀ q c, b'.item q c ↔ b.item q c

/-- The reserved commissions of `p` are cleared again. -/
structure Frees (p : Id) (b b' : Books) : Prop where
  freed : ∀ c, b.item p c → b.row c = some .reserved → b'.row c = some .cleared
  row : ∀ c, ¬ (b.item p c ∧ b.row c = some .reserved) → b'.row c = b.row c
  item : ∀ q c, b'.item q c ↔ b.item q c

/-- An open payout is closed, and its reserved commissions freed. -/
structure Closes (p : Id) (b b' : Books) : Prop extends Frees p b b' where
  before : ∃ s, b.payout p = some s ∧ s.isOpen = true
  after : ∃ s, b'.payout p = some s ∧ s.live = false
  others : ∀ q, q ≠ p → b'.payout q = b.payout q

/-- The reserved commissions of a payout that is not open are freed all the same. -/
structure Releases (p : Id) (b b' : Books) : Prop extends Frees p b b' where
  closed : ∀ s, b.payout p = some s → s.isOpen = false
  payout : ∀ q, b'.payout q = b.payout q

/-- Everything the services do to the books; `may` tells which payouts a call may release. -/
inductive Step (may : Id → Prop) (b b' : Books) : Prop where
  | quiet (h : Quiet b b')
  | requests (p : Id) (cs : List Id) (h : Requests p cs b b')
  | advances (p : Id) (h : Advances p b b')
  | pays (p : Id) (h : Pays p b b')
  | closes (p : Id) (h : Closes p b b')
  | releases (p : Id) (hp : may p) (h : Releases p b b')

/-! ## What each step keeps -/

variable {b b' : Books} {p : Id} {cs : List Id}

theorem isOpen_live {s : PayoutStatus} (h : s.isOpen = true) : s.live = true := by
  cases s <;> first | rfl | cases h

theorem isOpen_holds {s : PayoutStatus} (h : s.isOpen = true) : s.holds = .reserved := by
  cases s <;> first | rfl | cases h

theorem eq_paid_of_live {s : PayoutStatus} (hl : s.live = true) (hc : s.isOpen = false) :
    s = .paid := by
  cases s <;> first | rfl | cases hl <;> cases hc

theorem live_holds (s : PayoutStatus) : s.holds = .reserved ∨ s.holds = .paid := by
  cases s <;> first | exact Or.inl rfl | exact Or.inr rfl

theorem Inv.quiet (h : b.Inv) (hs : Quiet b b') : b'.Inv where
  once q r c s t hq hr sq sr := by
    rw [hs.payout] at sq sr
    rw [hs.item] at hq hr
    exact h.once q r c s t hq hr sq sr
  held q c s hq sq hl := by
    rw [hs.payout] at sq
    rw [hs.item] at hq
    exact hs.keeps c _ (h.held q c s hq sq hl) (live_holds s)
  known q c hq := by
    rw [hs.item] at hq
    obtain ⟨s, hk⟩ := h.known q c hq
    exact ⟨s, by rw [hs.payout]; exact hk⟩
  dead q c s hq sq hd hres := by
    rw [hs.payout] at sq
    rw [hs.item] at hq
    obtain ⟨r, t, hr, st, ho⟩ := h.dead q c s hq sq hd (hs.fresh c hres)
    exact ⟨r, t, (hs.item r c).mpr hr, by rw [hs.payout]; exact st, ho⟩

/-- A request takes commissions no live payout has: those are reserved or paid, and it takes cleared
ones. -/
theorem Inv.requests (h : b.Inv) (hs : Requests p cs b b') : b'.Inv := by
  -- `p` is new, so it has no items yet
  have hnew : ∀ c, ¬ b.item p c := by
    intro c hc
    obtain ⟨s, hk⟩ := h.known p c hc
    rw [hs.new] at hk; cases hk
  -- a commission of a live payout is not cleared
  have hfree : ∀ q c s, b.item q c → b.payout q = some s → s.live = true → c ∉ cs := by
    intro q c s hq sq hl hc
    have hheld := h.held q c s hq sq hl
    rw [hs.cleared c hc] at hheld
    have hcl : CommissionStatus.cleared = s.holds := Option.some.inj hheld
    rcases live_holds s with hh | hh <;> rw [hh] at hcl <;> cases hcl
  refine { once := ?_, held := ?_, known := ?_, dead := ?_ }
  · intro q r c s t hq hr sq sr lq lr
    rw [hs.payout] at sq sr
    rcases (hs.item q c).mp hq with hq | ⟨rfl, hqc⟩ <;> rcases (hs.item r c).mp hr with hr | ⟨rfl, hrc⟩
    · have hqp : q ≠ p := by rintro rfl; exact hnew c hq
      have hrp : r ≠ p := by rintro rfl; exact hnew c hr
      rw [if_neg hqp] at sq
      rw [if_neg hrp] at sr
      exact h.once q r c s t hq hr sq sr lq lr
    · have hqp : q ≠ r := by rintro rfl; exact hnew c hq
      rw [if_neg hqp] at sq
      exact absurd hrc (hfree q c s hq sq lq)
    · have hrp : r ≠ q := by rintro rfl; exact hnew c hr
      rw [if_neg hrp] at sr
      exact absurd hqc (hfree r c t hr sr lr)
    · rfl
  · intro q c s hq sq hl
    rw [hs.payout] at sq
    rw [hs.row]
    rcases (hs.item q c).mp hq with hq | ⟨rfl, hc⟩
    · have hqp : q ≠ p := by rintro rfl; exact hnew c hq
      rw [if_neg hqp] at sq
      rw [if_neg (hfree q c s hq sq hl)]
      exact h.held q c s hq sq hl
    · rw [if_pos rfl] at sq
      rw [if_pos hc, ← Option.some.inj sq]
      rfl
  · intro q c hq
    rcases (hs.item q c).mp hq with hq | ⟨rfl, _⟩
    · have hqp : q ≠ p := by rintro rfl; exact hnew c hq
      rw [hs.payout, if_neg hqp]
      exact h.known q c hq
    · exact ⟨.requested, by rw [hs.payout, if_pos rfl]⟩
  · intro q c s hq sq hd hres
    rw [hs.payout] at sq
    rcases (hs.item q c).mp hq with hq | ⟨rfl, _⟩
    · have hqp : q ≠ p := by rintro rfl; exact hnew c hq
      rw [if_neg hqp] at sq
      rw [hs.row] at hres
      by_cases hc : c ∈ cs
      · -- reserved for the new payout
        exact ⟨p, .requested, (hs.item p c).mpr (Or.inr ⟨rfl, hc⟩), by rw [hs.payout, if_pos rfl], rfl⟩
      · rw [if_neg hc] at hres
        obtain ⟨r, t, hr, st, ho⟩ := h.dead q c s hq sq hd hres
        have hrp : r ≠ p := by rintro rfl; exact hnew c hr
        exact ⟨r, t, (hs.item r c).mpr (Or.inl hr), by rw [hs.payout, if_neg hrp]; exact st, ho⟩
    · rw [if_pos rfl] at sq
      rw [← Option.some.inj sq] at hd; cases hd

theorem Inv.advances (h : b.Inv) (hs : Advances p b b') : b'.Inv := by
  obtain ⟨s₀, hb, ho⟩ := hs.before
  obtain ⟨s₁, ha, ho'⟩ := hs.after
  -- whatever a payout's status, it was live before exactly when it is now, and holds the same
  have back : ∀ q s, b'.payout q = some s →
      ∃ s', b.payout q = some s' ∧ s'.live = s.live ∧ (s.live = true → s'.holds = s.holds) := by
    intro q s hq
    by_cases hqp : q = p
    · subst hqp
      rw [ha] at hq
      cases hq
      exact ⟨s₀, hb, by rw [isOpen_live ho, isOpen_live ho'], fun _ => by
        rw [isOpen_holds ho, isOpen_holds ho']⟩
    · rw [hs.others q hqp] at hq
      exact ⟨s, hq, rfl, fun _ => rfl⟩
  refine { once := ?_, held := ?_, known := ?_, dead := ?_ }
  · intro q r c s t hq hr sq sr lq lr
    obtain ⟨s', sq', lq', -⟩ := back q s sq
    obtain ⟨t', sr', lr', -⟩ := back r t sr
    exact h.once q r c s' t' ((hs.item q c).mp hq) ((hs.item r c).mp hr) sq' sr' (lq'.trans lq)
      (lr'.trans lr)
  · intro q c s hq sq hl
    obtain ⟨s', sq', hl', hh⟩ := back q s sq
    rw [hs.row, ← hh hl]
    exact h.held q c s' ((hs.item q c).mp hq) sq' (hl'.trans hl)
  · intro q c hq
    by_cases hqp : q = p
    · subst hqp; exact ⟨s₁, ha⟩
    · rw [hs.others q hqp]
      exact h.known q c ((hs.item q c).mp hq)
  · intro q c s hq sq hd hres
    obtain ⟨s', sq', hl', -⟩ := back q s sq
    rw [hs.row] at hres
    obtain ⟨r, t, hr, st, hto⟩ := h.dead q c s' ((hs.item q c).mp hq) sq' (hl'.trans hd) hres
    by_cases hrp : r = p
    · subst hrp; exact ⟨r, s₁, (hs.item r c).mpr hr, ha, ho'⟩
    · exact ⟨r, t, (hs.item r c).mpr hr, by rw [hs.others r hrp]; exact st, hto⟩

/-- Paying an open payout pays its own commissions and nobody else's. -/
theorem Inv.pays (h : b.Inv) (hs : Pays p b b') : b'.Inv := by
  obtain ⟨s₀, hb, ho⟩ := hs.before
  have hlive : s₀.live = true := isOpen_live ho
  -- a commission of `p` is paid afterwards
  have hpaid : ∀ c, b.item p c → b'.row c = some .paid := by
    intro c hc
    exact hs.paid c hc _ (h.held p c s₀ hc hb hlive)
  have back : ∀ q s, b'.payout q = some s →
      ∃ s', b.payout q = some s' ∧ (s.live = true → s'.live = true) ∧
        (s.live = false → s' = s ∧ q ≠ p) := by
    intro q s hq
    rw [hs.payout] at hq
    by_cases hqp : q = p
    · subst hqp
      rw [if_pos rfl] at hq; cases hq
      exact ⟨s₀, hb, fun _ => hlive, fun hl => by cases hl⟩
    · rw [if_neg hqp] at hq
      exact ⟨s, hq, id, fun _ => ⟨rfl, hqp⟩⟩
  refine { once := ?_, held := ?_, known := ?_, dead := ?_ }
  · intro q r c s t hq hr sq sr lq lr
    obtain ⟨s', sq', lq', -⟩ := back q s sq
    obtain ⟨t', sr', lr', -⟩ := back r t sr
    exact h.once q r c s' t' ((hs.item q c).mp hq) ((hs.item r c).mp hr) sq' sr' (lq' lq) (lr' lr)
  · intro q c s hq sq hl
    rw [hs.item] at hq
    rw [hs.payout] at sq
    by_cases hqp : q = p
    · subst hqp
      rw [if_pos rfl] at sq; cases sq
      exact hpaid c hq
    · rw [if_neg hqp] at sq
      -- another live payout's commission is not one of `p`'s
      have hnot : ¬ b.item p c := fun hp => hqp (h.once q p c s s₀ hq hp sq hb hl hlive)
      rw [hs.row c hnot]
      exact h.held q c s hq sq hl
  · intro q c hq
    rw [hs.payout]
    by_cases hqp : q = p
    · exact ⟨.paid, if_pos hqp⟩
    · rw [if_neg hqp]
      exact h.known q c ((hs.item q c).mp hq)
  · intro q c s hq sq hd hres
    obtain ⟨s', sq', -, hdead⟩ := back q s sq
    obtain ⟨rfl, -⟩ := hdead hd
    have hnot : ¬ b.item p c := by
      intro hp; rw [hpaid c hp] at hres; cases hres
    rw [hs.row c hnot] at hres
    obtain ⟨r, t, hr, st, hto⟩ := h.dead q c s' ((hs.item q c).mp hq) sq' hd hres
    have hrp : r ≠ p := by rintro rfl; exact hnot hr
    exact ⟨r, t, (hs.item r c).mpr hr, by rw [hs.payout, if_neg hrp]; exact st, hto⟩

/-- Closing an open payout frees commissions that only it holds. -/
theorem Inv.closes (h : b.Inv) (hs : Closes p b b') : b'.Inv := by
  obtain ⟨s₀, hb, ho⟩ := hs.before
  obtain ⟨s₁, ha, hd₁⟩ := hs.after
  have hlive : s₀.live = true := isOpen_live ho
  have back : ∀ q s, b'.payout q = some s → s.live = true → q ≠ p ∧ b.payout q = some s := by
    intro q s hq hl
    have hqp : q ≠ p := by
      rintro rfl
      rw [ha] at hq; cases hq
      rw [hd₁] at hl; cases hl
    exact ⟨hqp, by rw [← hs.others q hqp]; exact hq⟩
  -- a reserved commission afterwards was reserved before, and not for `p`
  have hres' : ∀ c, b'.row c = some .reserved → b.row c = some .reserved ∧ ¬ b.item p c := by
    intro c hc
    by_cases hi : b.item p c ∧ b.row c = some .reserved
    · rw [hs.freed c hi.1 hi.2] at hc; cases hc
    · rw [hs.row c hi] at hc
      exact ⟨hc, fun hp => hi ⟨hp, hc⟩⟩
  refine { once := ?_, held := ?_, known := ?_, dead := ?_ }
  · intro q r c s t hq hr sq sr lq lr
    exact h.once q r c s t ((hs.item q c).mp hq) ((hs.item r c).mp hr) (back q s sq lq).2
      (back r t sr lr).2 lq lr
  · intro q c s hq sq hl
    obtain ⟨hqp, sq'⟩ := back q s sq hl
    rw [hs.item] at hq
    have hnot : ¬ b.item p c := fun hp => hqp (h.once q p c s s₀ hq hp sq' hb hl hlive)
    rw [hs.row c (fun hi => hnot hi.1)]
    exact h.held q c s hq sq' hl
  · intro q c hq
    by_cases hqp : q = p
    · subst hqp; exact ⟨s₁, ha⟩
    · rw [hs.others q hqp]
      exact h.known q c ((hs.item q c).mp hq)
  · intro q c s hq sq hd hres
    obtain ⟨hres, hnot⟩ := hres' c hres
    rw [hs.item] at hq
    have hqp : q ≠ p := by rintro rfl; exact hnot hq
    rw [hs.others q hqp] at sq
    obtain ⟨r, t, hr, st, hto⟩ := h.dead q c s hq sq hd hres
    have hrp : r ≠ p := by rintro rfl; exact hnot hr
    exact ⟨r, t, (hs.item r c).mpr hr, by rw [hs.others r hrp]; exact st, hto⟩

/-- A release with nothing reserved changes no row. -/
theorem Inv.release_idle (h : b.Inv) (hs : Releases p b b')
    (hidle : ∀ c, b.item p c → b.row c ≠ some .reserved) : b'.Inv := by
  have hrow : ∀ c, b'.row c = b.row c := fun c => hs.row c fun hi => hidle c hi.1 hi.2
  refine h.quiet { payout := hs.payout, item := hs.item, keeps := ?_, fresh := ?_ }
  · intro c s hc _; rw [hrow]; exact hc
  · intro c hc; rw [hrow] at hc; exact hc

/-- **A release with something reserved breaks the books**: the commission it frees belongs to an
open payout. -/
theorem Inv.release_breaks (h : b.Inv) (hs : Releases p b b') {c : Id} (hc : b.item p c)
    (hres : b.row c = some .reserved) : ¬ b'.AtMostOnce := by
  intro h'
  obtain ⟨s, sp⟩ := h.known p c hc
  -- `p` is not open, and a paid payout's commissions are paid, so `p` is dead
  have hdead : s.live = false := by
    by_contra hl
    have hl' : s.live = true := by simpa using hl
    have hheld := h.held p c s hc sp hl'
    rw [hres] at hheld
    rw [eq_paid_of_live hl' (hs.closed s sp)] at hheld
    cases hheld
  obtain ⟨q, t, hq, st, ho⟩ := h.dead p c s hc sp hdead hres
  have hfreed := hs.freed c hc hres
  have hheld := h'.held q c t ((hs.item q c).mpr hq) (by rw [hs.payout]; exact st) (isOpen_live ho)
  rw [hfreed, isOpen_holds ho] at hheld
  cases hheld

/-- **The step lemma of the books.** A step that releases nothing reserved keeps the invariant. -/
theorem Inv.step {may : Id → Prop} (h : b.Inv) (hs : Step may b b')
    (hidle : ∀ p, may p → (∀ s, b.payout p = some s → s.isOpen = false) →
      ∀ c, b.item p c → b.row c ≠ some .reserved) : b'.Inv := by
  cases hs with
  | quiet hq => exact h.quiet hq
  | requests p cs hr => exact h.requests hr
  | advances p ha => exact h.advances ha
  | pays p hp => exact h.pays hp
  | closes p hc => exact h.closes hc
  | releases p hp hr => exact h.release_idle hr (hidle p hp hr.closed)

end Books

end PredictATrade.Control
