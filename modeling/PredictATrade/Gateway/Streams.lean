import Mathlib.Data.Fintype.Basic
import PredictATrade.Gateway.Hub
import PredictATrade.Lib.Tickets

/-!
# `Gateway.Streams` — what a client receives

Whatever goes on at the same time, of the envelopes a client receives

* `signals_entitled`: the signals are of strategies its user was given when it connected, and an anonymous
  client receives none;
* `numbers_distinct`: no two of a stream have the same number;
* `numbers_ascending`: those of a stream that one goroutine broadcasts have their numbers in order, gaps
  aside. A gap is an envelope for which there was no room.

The numbers are tickets (`Lib.Tickets`): a broadcast takes the next one of the stream, holds it for as long as it
has not sent the envelope, and then passes it on to the channel or drops it. The handler of the client does the
same with its snapshot, which is why `market_state` is no stream of one goroutine.
-/

namespace PredictATrade.Gateway

open Lib.Runs

variable {P : Type} {s : Hub P} {c : ClientID} {client : Client}

/-! ## Tickets -/

/-- The stream of a message and its number there. -/
def EventEnvelope.ticket (e : EventEnvelope) : String × ℕ := (e.streamID, e.sequence)

/-- The number of a snapshot that has not been sent. -/
def Client.holds (client : Client) : Option (String × ℕ) :=
  match client.phase with
  | .numbered sequence => some ("market_state", sequence)
  | _ => none

/-- The number of an envelope that has not been sent to a client. -/
def Reader.holds (c : ClientID) : Option Reader → Option (String × ℕ)
  | some ⟨_, c' :: _, some e⟩ => if c' = c then some e.ticket else none
  | _ => none

/-- The numbers of a client, held by its handler and by those who broadcast. -/
def Hub.tickets (c : ClientID) (s : Hub P) : Lib.Tickets.Desk (Option P) String where
  last := (s.clients c).sequences
  held
    | none => (s.clients c).holds
    | some p => Reader.holds c (s.readers p)
  passed := ((s.clients c).written ++ (s.clients c).send).map EventEnvelope.ticket

/-- What a step does to the numbers of a client. -/
def ticketAct (c : ClientID) (s : Hub P) : Act P → Option (Lib.Tickets.Act (Option P) String)
  | .number c' =>
    if c' = c ∧ (s.clients c').phase = .registered then some (.take none "market_state") else none
  | .sendSnapshot c' =>
    if c' = c ∧ (s.clients c').holds.isSome ∧ ¬ (s.clients c').closed ∧
        (s.clients c').send.length < capacity then some (.pass none)
    else none
  | .visit p =>
    match s.readers p with
    | some ⟨b, c' :: _, none⟩ =>
      if c' = c ∧ (s.clients c').receives b then some (.take (some p) b.streamID) else none
    | _ => none
  | .push p =>
    match s.readers p with
    | some ⟨_, c' :: _, some _⟩ =>
      if c' = c ∧ ¬ (s.clients c').closed then
        if (s.clients c').send.length < capacity then some (.pass (some p)) else some (.drop (some p))
      else none
    | _ => none
  | _ => none

/-- The numbers of a client are where the client and the readers say they are. -/
theorem tickets_congr {s' : Hub P} (hc : s'.clients c = s.clients c) (hr : s'.readers = s.readers) :
    s'.tickets c = s.tickets c := by
  unfold Hub.tickets
  rw [hc, hr]

theorem tickets_setClient_of_ne {c' : ClientID} (h : c' ≠ c) :
    (s.setClient c' client).tickets c = s.tickets c :=
  tickets_congr (Function.update_of_ne h.symm ..) rfl

/-- A client is as entitled as it was, and has connected if it had. -/
def Client.Stays (before after : Client) : Prop :=
  after.entitlements = before.entitlements ∧ (after.phase = .absent ↔ before.phase = .absent)

theorem setClient_stays {c' : ClientID} (h : (s.clients c').Stays client) :
    (s.clients c).Stays ((s.setClient c' client).clients c) := by
  obtain ⟨rfl, hc⟩ | ⟨-, hc⟩ := setClient_cases s c' client c
  · rwa [hc]
  · rw [hc]
    exact ⟨rfl, Iff.rfl⟩

theorem Client.Stays.refl (client : Client) : client.Stays client := ⟨rfl, Iff.rfl⟩

theorem enqueue_stays (client : Client) (e : EventEnvelope) : client.Stays (client.enqueue e) := by
  have hk := enqueue_keeps client e
  exact ⟨hk.2.2.1, by rw [hk.2.1]⟩

/-- A broadcast on a stream of signals is one of a signal. -/
theorem entitled_of_receives {b : Broadcast} {strategyID : StrategyID} (hr : client.receives b)
    (hb : b.streamID = "signals:" ++ strategyID) : strategyID ∈ client.entitlements := by
  cases b with
  | signal strategyID' noTrade =>
    obtain rfl : strategyID' = strategyID := by simpa [Broadcast.streamID] using hb
    exact of_decide_eq_true hr
  | marketState => simp [Broadcast.streamID, ← String.toList_inj] at hb
  | marketSnapshot => simp [Broadcast.streamID, ← String.toList_inj] at hb
  | agentStatus => simp [Broadcast.streamID, ← String.toList_inj] at hb

/-- A number of a stream of signals is taken for a client only if it is entitled to them. -/
theorem entitled_of_take {a : Act P} {h : Option P} {k : String} {strategyID : StrategyID}
    (ha : ticketAct c s a = some (.take h k)) (hk : k = "signals:" ++ strategyID) :
    strategyID ∈ (s.clients c).entitlements := by
  unfold ticketAct at ha
  split at ha
  · -- the snapshot of the handler
    split at ha
    · cases ha
      simp [← String.toList_inj] at hk
    · cases ha
  · split at ha <;> cases ha
  · -- a broadcast
    split at ha
    · next b c' _ _ =>
      by_cases hc : c' = c ∧ (s.clients c').receives b
      · rw [if_pos hc] at ha
        cases ha
        exact hc.1 ▸ entitled_of_receives hc.2 hk
      · rw [if_neg hc] at ha
        cases ha
    · cases ha
  · split at ha
    · split at ha
      · split at ha <;> cases ha
      · cases ha
    · cases ha
  · cases ha

/-- No number is given out at the start. -/
theorem tickets_init : ({} : Hub P).tickets c = {} := by
  have hheld : (({} : Hub P).tickets c).held = fun _ => none := by
    funext h
    cases h <;> rfl
  rw [Lib.Tickets.Desk.mk.injEq]
  exact ⟨rfl, hheld, rfl⟩

theorem ticket_mem_passed {e : EventEnvelope} (he : e ∈ (s.clients c).written) :
    e.ticket ∈ (s.tickets c).passed :=
  List.mem_map_of_mem (List.mem_append_left _ he)

variable [DecidableEq P]

/-- A change to a client is one to what its handler holds. -/
theorem tickets_setClient :
    (s.setClient c client).tickets c =
      { last := client.sequences
        held := Function.update (s.tickets c).held none client.holds
        passed := (client.written ++ client.send).map EventEnvelope.ticket } := by
  have hheld : ((s.setClient c client).tickets c).held =
      Function.update (s.tickets c).held none client.holds := by
    funext h
    cases h with
    | none => rw [Function.update_self, Hub.tickets, setClient_self]
    | some p => rfl
  rw [← hheld, Hub.tickets, setClient_self]

/-- A change that leaves to the handler what it holds. -/
theorem tickets_setClient_holding (client : Client) (hholds : client.holds = (s.clients c).holds) :
    (s.setClient c client).tickets c =
      { last := client.sequences
        held := (s.tickets c).held
        passed := (client.written ++ client.send).map EventEnvelope.ticket } := by
  have hheld : Function.update (s.tickets c).held none (s.clients c).holds = (s.tickets c).held :=
    Function.update_eq_self none _
  rw [tickets_setClient, hholds, hheld]

/-- A change that leaves the numbers where they are. -/
theorem tickets_setClient_same {c' : ClientID} (hseq : client.sequences = (s.clients c').sequences)
    (hholds : client.holds = (s.clients c').holds)
    (hpassed : client.written ++ client.send = (s.clients c').written ++ (s.clients c').send) :
    (s.setClient c' client).tickets c = s.tickets c := by
  by_cases hc : c' = c
  · subst hc
    rw [tickets_setClient_holding client hholds, hseq, hpassed]
    rfl
  · exact tickets_setClient_of_ne hc

theorem tickets_setReader (p : P) (r : Option Reader) :
    (s.setReader p r).tickets c =
      { s.tickets c with held := Function.update (s.tickets c).held (some p) (Reader.holds c r) } := by
  have hheld : ((s.setReader p r).tickets c).held =
      Function.update (s.tickets c).held (some p) (Reader.holds c r) := by
    funext h
    cases h with
    | none => rw [Function.update_of_ne (by simp)]; rfl
    | some q =>
      show Reader.holds c ((s.setReader p r).readers q) = _
      obtain ⟨rfl, hq⟩ | ⟨hne, hq⟩ := setReader_cases s p r q
      · rw [hq, Function.update_self]
      · rw [hq, Function.update_of_ne (by simpa using hne)]
        rfl
  rw [← hheld]
  rfl

theorem tickets_setReader_same (p : P) (r : Option Reader)
    (h : Reader.holds c r = Reader.holds c (s.readers p)) : (s.setReader p r).tickets c = s.tickets c := by
  have hheld : Function.update (s.tickets c).held (some p) (Reader.holds c r) = (s.tickets c).held := by
    rw [h]
    exact Function.update_eq_self (some p) _
  rw [tickets_setReader, hheld]

theorem enqueue_room {e : EventEnvelope} (h : client.send.length < capacity) :
    client.enqueue e = { client with send := client.send ++ [e] } := if_pos h

theorem enqueue_full {e : EventEnvelope} (h : ¬ client.send.length < capacity) :
    client.enqueue e = client := if_neg h

variable [Fintype P]

theorem tickets_number (c' : ClientID) :
    (s.step (.number c')).tickets c =
      (ticketAct c s (.number c')).elim (s.tickets c) (Lib.Tickets.step (s.tickets c)) := by
  rw [Hub.step, ticketAct]
  by_cases hp : (s.clients c').phase = .registered
  · rw [if_pos hp]
    by_cases hc : c' = c
    · subst hc
      have hnone : (s.tickets c').held none = none := by simp only [Hub.tickets, Client.holds, hp]
      rw [if_pos ⟨rfl, hp⟩, tickets_setClient]
      simp only [Option.elim, Lib.Tickets.step, if_pos hnone, Lib.Tickets.Desk.taken, Client.holds,
        Client.numbers, Function.update_self]
      rfl
    · rw [if_neg fun h => hc h.1, tickets_setClient_of_ne hc]
      rfl
  · rw [if_neg hp, if_neg fun h => hp h.2]
    rfl

theorem tickets_sendSnapshot (c' : ClientID) :
    (s.step (.sendSnapshot c')).tickets c =
      (ticketAct c s (.sendSnapshot c')).elim (s.tickets c) (Lib.Tickets.step (s.tickets c)) := by
  rw [Hub.step, ticketAct]
  split
  · next n hp =>
    have hholds : (s.clients c').holds = some ("market_state", n) := by simp only [Client.holds, hp]
    by_cases hclosed : (s.clients c').closed
    · rw [if_pos hclosed, if_neg fun h => h.2.2.1 hclosed]
      rfl
    rw [if_neg hclosed]
    by_cases hroom : (s.clients c').send.length < capacity
    · rw [if_pos hroom, enqueue_room hroom]
      by_cases hc : c' = c
      · subst hc
        have hheld : (s.tickets c').held none = some ("market_state", n) := hholds
        rw [if_pos ⟨rfl, by rw [hholds]; rfl, hclosed, hroom⟩, tickets_setClient, ← List.append_assoc,
          List.map_append]
        simp only [Option.elim, Lib.Tickets.step, hheld]
        rfl
      · rw [if_neg fun h => hc h.1, tickets_setClient_of_ne hc]
        rfl
    · rw [if_neg hroom, if_neg fun h => hroom h.2.2.2]
      rfl
  · next hp =>
    have hnone : (s.clients c').holds = none := by
      unfold Client.holds
      split
      · next n hn => exact absurd hn (hp n)
      · rfl
    rw [hnone, if_neg fun h => absurd h.2.1 (by simp)]
    rfl

theorem tickets_visit (p : P) :
    (s.step (.visit p)).tickets c =
      (ticketAct c s (.visit p)).elim (s.tickets c) (Lib.Tickets.step (s.tickets c)) := by
  match hr : s.readers p with
  | none => simp only [Hub.step, ticketAct, hr, Option.elim]
  | some ⟨b, [], _⟩ => simp only [Hub.step, ticketAct, hr, Option.elim]
  | some ⟨b, _ :: _, some _⟩ => simp only [Hub.step, ticketAct, hr, Option.elim]
  | some ⟨b, c' :: todo, none⟩ =>
    simp only [Hub.step, ticketAct, hr]
    have hnone : Reader.holds c (s.readers p) = none := by rw [hr]; rfl
    by_cases he : (s.clients c').receives b
    · rw [if_pos he, tickets_setReader]
      by_cases hc : c' = c
      · subst hc
        have hheld : (s.tickets c').held (some p) = none := hnone
        rw [if_pos ⟨rfl, he⟩, tickets_setClient_holding ((s.clients c').numbers b.streamID) rfl]
        simp only [Option.elim, Lib.Tickets.step, if_pos hheld, Lib.Tickets.Desk.taken, Reader.holds,
          if_true, Client.numbers, Function.update_self]
        rfl
      · have hother : Reader.holds c (some ⟨b, c' :: todo, some (b.envelope
            (((s.clients c').numbers b.streamID).sequences b.streamID))⟩) = none := if_neg hc
        rw [if_neg fun h => hc h.1, tickets_setClient_of_ne hc, hother, ← hnone]
        have hheld : Function.update (s.tickets c).held (some p) (Reader.holds c (s.readers p)) = _ :=
          Function.update_eq_self (some p) _
        rw [hheld]
        rfl
    · rw [if_neg he, if_neg fun h => he h.2]
      refine tickets_setReader_same p _ ?_
      rw [hnone]
      cases todo <;> rfl

theorem tickets_push (p : P) :
    (s.step (.push p)).tickets c =
      (ticketAct c s (.push p)).elim (s.tickets c) (Lib.Tickets.step (s.tickets c)) := by
  match hr : s.readers p with
  | none => simp only [Hub.step, ticketAct, hr, Option.elim]
  | some ⟨b, [], _⟩ => simp only [Hub.step, ticketAct, hr, Option.elim]
  | some ⟨b, _ :: _, none⟩ => simp only [Hub.step, ticketAct, hr, Option.elim]
  | some ⟨b, c' :: todo, some e⟩ =>
    simp only [Hub.step, ticketAct, hr]
    by_cases hclosed : (s.clients c').closed
    · rw [if_pos hclosed, if_neg fun h => h.2 hclosed]
      rfl
    have hafter : Reader.holds c (some ⟨b, todo, none⟩) = none := by cases todo <;> rfl
    rw [if_neg hclosed, tickets_setReader, hafter]
    by_cases hc : c' = c
    · subst hc
      rw [if_pos ⟨rfl, hclosed⟩]
      have hheld : (s.tickets c').held (some p) = some e.ticket := by
        show Reader.holds c' (s.readers p) = _
        rw [hr]
        exact if_pos rfl
      by_cases hroom : (s.clients c').send.length < capacity
      · rw [if_pos hroom, enqueue_room hroom,
          tickets_setClient_holding { s.clients c' with send := (s.clients c').send ++ [e] } rfl,
          ← List.append_assoc, List.map_append]
        simp only [Option.elim, Lib.Tickets.step, hheld]
        rfl
      · rw [if_neg hroom, enqueue_full hroom, tickets_setClient_same rfl rfl rfl]
        rfl
    · have hother : Reader.holds c (s.readers p) = none := by
        rw [hr]
        exact if_neg hc
      rw [if_neg fun h => hc h.1, tickets_setClient_of_ne hc, ← hother]
      have hheld : Function.update (s.tickets c).held (some p) (Reader.holds c (s.readers p)) = _ :=
        Function.update_eq_self (some p) _
      rw [hheld]
      rfl

/-- A step does nothing to the numbers of a client, or the one thing that is said. -/
theorem tickets_step (s : Hub P) (a : Act P) :
    (s.step a).tickets c =
      (ticketAct c s a).elim (s.tickets c) (Lib.Tickets.step (s.tickets c)) := by
  cases a with
  | connect c' userID answer =>
    rw [Hub.step]
    by_cases hp : (s.clients c').phase = .absent
    · rw [if_pos hp]
      exact tickets_setClient_same rfl (by simp only [Client.holds, hp]) rfl
    · rw [if_neg hp]
      rfl
  | register c' =>
    rw [Hub.step]
    by_cases hp : (s.clients c').phase = .upgraded ∧ s.running = .idle
    · rw [if_pos hp]
      exact tickets_setClient_same rfl (by simp only [Client.holds, hp.1]) rfl
    · rw [if_neg hp]
      rfl
  | insert =>
    rw [Hub.step]
    split
    · split <;> rfl
    · rfl
  | number c' => exact tickets_number c'
  | sendSnapshot c' => exact tickets_sendSnapshot c'
  | write c' =>
    rw [Hub.step]
    split
    · next e send hp hsend =>
      refine tickets_setClient_same rfl rfl ?_
      rw [hsend, List.append_assoc]
      rfl
    · rfl
  | leave c' =>
    rw [Hub.step]
    by_cases hp : (s.clients c').phase = .serving
    · rw [if_pos hp]
      exact tickets_setClient_same rfl (by simp only [Client.holds, hp]) rfl
    · rw [if_neg hp]
      rfl
  | unregister c' =>
    rw [Hub.step]
    by_cases hp : (s.clients c').phase = .leaving ∧ s.running = .idle
    · rw [if_pos hp]
      exact tickets_setClient_same rfl (by simp only [Client.holds, hp.1]) rfl
    · rw [if_neg hp]
      rfl
  | remove =>
    rw [Hub.step]
    split
    · next c' _ =>
      split
      · split
        · split
          · rfl
          · exact tickets_setClient_same (rfl : (s.clients c').sequences = _) rfl rfl
        · rfl
      · rfl
    · rfl
  | start p b order =>
    rw [Hub.step]
    by_cases hp : s.readers p = none ∧ order.Nodup ∧ order.toFinset = s.inMap
    · rw [if_pos hp]
      refine tickets_setReader_same p _ ?_
      rw [hp.1]
      cases order <;> rfl
    · rw [if_neg hp]
      rfl
  | visit p => exact tickets_visit p
  | push p => exact tickets_push p
  | finish p =>
    rw [Hub.step]
    split
    · next hr =>
      refine tickets_setReader_same p _ ?_
      rw [hr]
      rfl
    · rfl

/-- The numbers of a client, after any run. -/
theorem tickets_run (acts : List (Act P)) :
    (run Hub.step {} acts).tickets c =
      run Lib.Tickets.step {} (trace Hub.step (ticketAct c) {} acts) := by
  rw [run_sim (f := Hub.tickets c) tickets_step, tickets_init]

/-- **No number twice.** No two envelopes of a stream that a client receives have the same number. -/
theorem numbers_distinct (acts : List (Act P)) (c : ClientID) :
    (((run Hub.step {} acts).clients c).written.map EventEnvelope.ticket).Nodup := by
  have hpassed : ((run Hub.step {} acts).tickets c).passed.Nodup := by
    rw [tickets_run]
    exact Lib.Tickets.passed_nodup _
  rw [Hub.tickets, List.map_append] at hpassed
  exact (List.nodup_append.mp hpassed).1

/-! ## Entitlements -/

/-- Where the act connects a client, what is known of the user. -/
def Act.connects (c : ClientID) : Act P → Option (String × Option (List StrategyID))
  | .connect c' userID answer => if c' = c then some (userID, answer) else none
  | _ => none

/-- Only its own connecting entitles a client. -/
theorem step_stays (a : Act P) (ha : a.connects c = none ∨ (s.clients c).phase ≠ .absent) :
    (s.clients c).Stays ((s.step a).clients c) := by
  have hmoved : ∀ {c' : ClientID} {p p' : Phase}, (s.clients c').phase = p → p ≠ .absent → p' ≠ .absent →
      (s.clients c').Stays { s.clients c' with phase := p' } := by
    intro c' p p' hp hne hne'
    exact ⟨rfl, iff_of_false hne' fun h => hne (hp.symm.trans h)⟩
  cases a with
  | connect c' userID answer =>
    rw [Hub.step]
    by_cases hp : (s.clients c').phase = .absent
    · rw [if_pos hp]
      obtain ⟨rfl, -⟩ | ⟨-, hc⟩ := setClient_cases s c' { s.clients c' with
        phase := .upgraded, entitlements := entitlementsOf answer userID } c
      · rcases ha with ha | ha
        · rw [Act.connects, if_pos rfl] at ha
          cases ha
        · exact absurd hp ha
      · rw [hc]
        exact .refl _
    · rw [if_neg hp]
      exact .refl _
  | register c' =>
    rw [Hub.step]
    by_cases hp : (s.clients c').phase = .upgraded ∧ s.running = .idle
    · rw [if_pos hp]
      exact setClient_stays (hmoved hp.1 (by decide) (by decide))
    · rw [if_neg hp]
      exact .refl _
  | insert =>
    rw [Hub.step]
    split
    · split <;> exact .refl _
    · exact .refl _
  | number c' =>
    rw [Hub.step]
    by_cases hp : (s.clients c').phase = .registered
    · rw [if_pos hp]
      refine setClient_stays ⟨rfl, iff_of_false (by simp) ?_⟩
      rw [hp]
      decide
    · rw [if_neg hp]
      exact .refl _
  | sendSnapshot c' =>
    rw [Hub.step]
    split
    · next n hp =>
      split
      · exact .refl _
      · split
        · refine setClient_stays ⟨(enqueue_keeps _ _).2.2.1, iff_of_false (by simp) ?_⟩
          rw [hp]
          intro h
          cases h
        · exact .refl _
    · exact .refl _
  | write c' =>
    rw [Hub.step]
    split
    · exact setClient_stays ⟨rfl, Iff.rfl⟩
    · exact .refl _
  | leave c' =>
    rw [Hub.step]
    by_cases hp : (s.clients c').phase = .serving
    · rw [if_pos hp]
      exact setClient_stays (hmoved hp (by decide) (by decide))
    · rw [if_neg hp]
      exact .refl _
  | unregister c' =>
    rw [Hub.step]
    by_cases hp : (s.clients c').phase = .leaving ∧ s.running = .idle
    · rw [if_pos hp]
      exact setClient_stays (hmoved hp.1 (by decide) (by decide))
    · rw [if_neg hp]
      exact .refl _
  | remove =>
    rw [Hub.step]
    split
    · next c' _ =>
      split
      · split
        · split
          · exact .refl _
          · exact setClient_stays (⟨rfl, Iff.rfl⟩ : (s.clients c').Stays _)
        · exact .refl _
      · exact .refl _
    · exact .refl _
  | start p b order =>
    rw [Hub.step]
    split <;> exact .refl _
  | visit p =>
    rw [Hub.step]
    split
    · next b c' _ _ =>
      split
      · exact setClient_stays (⟨rfl, Iff.rfl⟩ : (s.clients c').Stays ((s.clients c').numbers b.streamID))
      · exact .refl _
    · exact .refl _
  | push p =>
    rw [Hub.step]
    split
    · next b c' _ e _ =>
      split
      · exact .refl _
      · exact setClient_stays (enqueue_stays (s.clients c') e)
    · exact .refl _
  | finish p =>
    rw [Hub.step]
    split <;> exact .refl _

/-- What a client is entitled to is what was said of its user when it connected. -/
theorem connection_of_run (acts : List (Act P)) (c : ClientID) :
    (((run Hub.step {} acts).clients c).phase = .absent ↔ acts.findSome? (Act.connects c) = none) ∧
      ((run Hub.step {} acts).clients c).entitlements =
        (acts.findSome? (Act.connects c)).elim [] fun x => entitlementsOf x.2 x.1 := by
  induction acts using List.reverseRecOn with
  | nil => exact ⟨iff_of_true rfl rfl, rfl⟩
  | append_singleton acts a ih =>
    rw [run_snoc, List.findSome?_append, List.findSome?_singleton]
    obtain ⟨habsent, hent⟩ := ih
    by_cases ha : a.connects c = none ∨ ((run Hub.step {} acts).clients c).phase ≠ .absent
    · -- the connection is the one it was
      have hfind : (acts.findSome? (Act.connects c)).or (a.connects c) =
          acts.findSome? (Act.connects c) := by
        rcases ha with ha | ha
        · rw [ha, Option.or_none]
        · rw [Ne, habsent] at ha
          obtain ⟨x, hx⟩ := Option.ne_none_iff_exists'.mp ha
          rw [hx, Option.some_or]
      rw [hfind]
      obtain ⟨hents, hphase⟩ := step_stays a ha
      exact ⟨hphase.trans habsent, hents.trans hent⟩
    · obtain ⟨hnew, hphase⟩ := not_or.mp ha
      rw [not_ne_iff] at hphase
      rw [habsent.mp hphase, Option.none_or]
      cases a with
      | connect c' userID answer =>
        by_cases hc : c' = c
        · subst hc
          rw [Act.connects, if_pos rfl, Hub.step, if_pos hphase, setClient_self]
          exact ⟨iff_of_false (by simp) (by simp), rfl⟩
        · exact absurd (if_neg hc) hnew
      | _ => exact absurd rfl hnew

/-- **Signals by entitlement.** A signal that a client receives is of a strategy that its user was
given when it connected, and the user is no anonymous one. -/
theorem signals_entitled (acts : List (Act P)) (c : ClientID) {e : EventEnvelope} {strategyID : StrategyID}
    (he : e ∈ ((run Hub.step {} acts).clients c).written)
    (hsignal : e.streamID = "signals:" ++ strategyID) :
    ∃ userID strs, acts.findSome? (Act.connects c) = some (userID, some strs) ∧
      userID ≠ "anonymous" ∧ strategyID ∈ strs := by
  have hpassed := ticket_mem_passed he
  rw [tickets_run] at hpassed
  refine Lib.Tickets.passed_of_taken (Q := fun k => k = "signals:" ++ strategyID → _) ?_ _ hpassed hsignal
  intro h k htake hk
  obtain ⟨pre, a, post, rfl, ha⟩ := mem_trace htake
  have hent := entitled_of_take ha hk
  -- the client had connected by then, and it stays the first connection
  rw [(connection_of_run pre c).2] at hent
  cases hfirst : pre.findSome? (Act.connects c) with
  | none =>
    rw [hfirst] at hent
    cases hent
  | some x =>
    obtain ⟨userID, answer⟩ := x
    rw [hfirst] at hent
    rw [List.findSome?_append, hfirst]
    cases answer with
    | none => cases hent
    | some strs =>
      by_cases huser : userID ≠ "anonymous"
      · exact ⟨userID, strs, rfl, huser, by simpa [entitlementsOf, huser] using hent⟩
      · simp [entitlementsOf, huser] at hent

/-- A user connects, gets the snapshot, and then a signal of its strategy. -/
theorem signals_entitled_served :
    ∃ userID strs, [Act.connect 0 "u" (some ["s"]), .register 0, .insert, .number 0, .sendSnapshot 0,
        .start () (.signal "s" false) [0], .visit (), .push (), .write 0, .write 0].findSome?
          (Act.connects 0) = some (userID, some strs) ∧ userID ≠ "anonymous" ∧ "s" ∈ strs :=
  signals_entitled _ 0 (e := ⟨"signals:s", 1, "SIGNAL", "P0"⟩) (by decide) rfl

/-! ## Order -/

/-- Only one goroutine broadcasts on the stream, and a reader holds numbers of what it broadcasts. -/
def Hub.OneReader (st : String) (p₀ : P) (s : Hub P) : Prop :=
  ∀ p r, s.readers p = some r →
    (r.broadcast.streamID = st → p = p₀) ∧ ∀ e, r.holding = some e → e.streamID = r.broadcast.streamID

variable {st : String} {p₀ : P}

omit [Fintype P] in
theorem Hub.OneReader.setReader (hs : s.OneReader st p₀) {p : P} (r : Option Reader)
    (hr : ∀ x, r = some x → (x.broadcast.streamID = st → p = p₀) ∧
      ∀ e, x.holding = some e → e.streamID = x.broadcast.streamID) :
    (s.setReader p r).OneReader st p₀ := by
  intro q x hx
  obtain ⟨rfl, hq⟩ | ⟨-, hq⟩ := setReader_cases s p r q
  · exact hr x (hq.symm.trans hx)
  · exact hs q x (hq.symm.trans hx)

/-- **Step.** A stream that one producer broadcasts keeps one reader. -/
theorem Hub.OneReader.step (hs : s.OneReader st p₀) (a : Act P)
    (ha : ∀ p b order, a = .start p b order → b.streamID = st → p = p₀) :
    (s.step a).OneReader st p₀ := by
  cases a with
  | start p b order =>
    rw [Hub.step]
    split
    · refine hs.setReader _ ?_
      rintro _ ⟨⟩
      exact ⟨ha p b order rfl, fun _ h => by cases h⟩
    · exact hs
  | visit p =>
    rw [Hub.step]
    split
    · next b c todo hr =>
      have hone := (hs p _ hr).1
      split
      · have hnext : (s.setClient c ((s.clients c).numbers b.streamID)).OneReader st p₀ := hs
        refine hnext.setReader _ ?_
        rintro _ ⟨⟩
        exact ⟨hone, by rintro _ ⟨⟩; rfl⟩
      · refine hs.setReader _ ?_
        rintro _ ⟨⟩
        exact ⟨hone, fun _ h => by cases h⟩
    · exact hs
  | push p =>
    rw [Hub.step]
    split
    · next b c todo e hr =>
      have hone := (hs p _ hr).1
      split
      · exact hs
      · have hnext : (s.setClient c ((s.clients c).enqueue e)).OneReader st p₀ := hs
        refine hnext.setReader _ ?_
        rintro _ ⟨⟩
        exact ⟨hone, fun _ h => by cases h⟩
    · exact hs
  | finish p =>
    rw [Hub.step]
    split
    · exact hs.setReader none fun _ h => by cases h
    · exact hs
  | connect c userID answer => rw [Hub.step]; split <;> exact hs
  | register c => rw [Hub.step]; split <;> exact hs
  | insert =>
    rw [Hub.step]
    split
    · split <;> exact hs
    · exact hs
  | number c => rw [Hub.step]; split <;> exact hs
  | sendSnapshot c =>
    rw [Hub.step]
    split
    · split
      · exact hs
      · split <;> exact hs
    · exact hs
  | write c => rw [Hub.step]; split <;> exact hs
  | leave c => rw [Hub.step]; split <;> exact hs
  | unregister c => rw [Hub.step]; split <;> exact hs
  | remove =>
    rw [Hub.step]
    split
    · split
      · split
        · split <;> exact hs
        · exact hs
      · exact hs
    · exact hs

omit [Fintype P] [DecidableEq P] in
/-- A number of the stream that is held is held by the one goroutine. -/
theorem Hub.OneReader.eq_of_held (hs : s.OneReader st p₀) (hst : st ≠ "market_state") {h : Option P}
    {n : ℕ} (hh : (s.tickets c).held h = some (st, n)) : h = some p₀ := by
  cases h with
  | none =>
    have hholds : (s.clients c).holds = some (st, n) := hh
    unfold Client.holds at hholds
    split at hholds
    · cases hholds
      exact absurd rfl hst
    · cases hholds
  | some q =>
    have hholds : Reader.holds c (s.readers q) = some (st, n) := hh
    unfold Reader.holds at hholds
    split at hholds
    · next b c' _ e hr =>
      obtain ⟨hone, hsame⟩ := hs q _ hr
      split at hholds
      · have hid : e.streamID = st := congrArg Prod.fst (Option.some.inj hholds)
        rw [hone ((hsame e rfl).symm.trans hid)]
      · cases hholds
    · cases hholds

omit [Fintype P] [DecidableEq P] in
/-- Who takes a number of the stream is the one goroutine. -/
theorem Hub.OneReader.eq_of_take (hs : s.OneReader st p₀) (hst : st ≠ "market_state") {a : Act P}
    {h : Option P} (ha : ticketAct c s a = some (.take h st)) : h = some p₀ := by
  unfold ticketAct at ha
  split at ha
  · split at ha
    · cases ha
      exact absurd rfl hst
    · cases ha
  · split at ha <;> cases ha
  · next p =>
    split at ha
    · next b c' _ hr =>
      split at ha
      · cases ha
        rw [(hs p _ hr).1 rfl]
      · cases ha
    · cases ha
  · split at ha
    · split at ha
      · split at ha <;> cases ha
      · cases ha
    · cases ha
  · cases ha

/-- **In order.** When one goroutine broadcasts on a stream, which is not that of the snapshots, a client
receives its envelopes in the order of their numbers. -/
theorem numbers_ascending (p₀ : P) {acts : List (Act P)} (hst : st ≠ "market_state")
    (hone : ∀ p b order, .start p b order ∈ acts → b.streamID = st → p = p₀) (c : ClientID) :
    ((run Hub.step {} acts).clients c).written.Pairwise fun e e' =>
      e.streamID = st → e'.streamID = st → e.sequence < e'.sequence := by
  have hinit : ({} : Hub P).OneReader st p₀ := fun _ _ h => nomatch h
  have hallowed : Along Hub.step (fun _ a => ∀ p b order, a = .start p b order → b.streamID = st → p = p₀)
      ({} : Hub P) acts := along_mem fun a ha _ p b order he => hone p b order (he ▸ ha)
  have halone : Along Hub.step (fun s a => ∀ b, ticketAct c s a = some b →
      Lib.Tickets.Alone st (s.tickets c) b) ({} : Hub P) acts := by
    refine Along.of_keeps (I := fun s => s.OneReader st p₀) (fun s a hs ha => hs.step a ha) ?_ hinit hallowed
    intro s a hs _ b hb
    cases b with
    | take h k =>
      rintro rfl h' hne n hh
      exact hne ((hs.eq_of_held hst hh).trans (hs.eq_of_take hst hb).symm)
    | pass h => trivial
    | drop h => trivial
  have hpassed := Lib.Tickets.passed_ascending (tickets_init (c := c) ▸ along_sim tickets_step halone)
  rw [← tickets_run, Hub.tickets, List.map_append] at hpassed
  exact List.pairwise_map.mp (List.pairwise_append.mp hpassed).1

theorem numbers_ascending_signals :
    ((run Hub.step {} [Act.connect 0 "u" (some ["s"]), .register 0, .insert, .number 0,
        .start () (.signal "s" false) [0], .visit (), .push (), .finish (), .start () (.signal "s" true) [0],
        .visit (), .push (), .sendSnapshot 0, .write 0, .write 0]).clients 0).written.Pairwise fun e e' =>
      e.streamID = "signals:s" → e'.streamID = "signals:s" → e.sequence < e'.sequence :=
  numbers_ascending () (by decide) (fun _ _ _ _ _ => rfl) 0

/-- Two goroutines that broadcast on one stream overtake each other. -/
example :
    ((run Hub.step {} [Act.connect 0 "u" none, .register 0, .insert, .number 0, .sendSnapshot 0, .write 0,
        .start 0 .marketState [0], .visit 0, .start 1 .marketState [0], .visit 1, .push 1, .push 0,
        .write 0, .write 0] : Hub (Fin 2)).clients 0).written.map EventEnvelope.sequence = [1, 3, 2] := by
  decide

end PredictATrade.Gateway
