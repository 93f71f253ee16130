import Mathlib.Data.Finset.Basic
import Mathlib.Data.Fintype.Defs
import Mathlib.Logic.Function.Basic
import PredictATrade.Lib.Runs

/-!
# `Gateway.Hub` — the WebSocket hub and its goroutines

A client has a handler that registers it and sends the first snapshot, then a writer that empties its channel
and at last unregisters it. `Run` puts clients into the map and takes them out, and closes the channel of a
client it takes out. Any number of goroutines broadcast: under the read lock each of them goes over the
map, takes the next number of the stream for a client, and then sends without waiting.

A step is what one goroutine does between two points where another may come in. The lock is in the guards:
`Run` writes to the map only while nobody reads it.

* `never_panics`: no run sends on a closed channel or closes a channel twice.

`P` are the goroutines that broadcast.
-/

namespace PredictATrade.Gateway

open Lib.Runs

/-! ## Data -/

/-- A client. -/
abbrev ClientID := ℕ

/-- A strategy, a string in the source. -/
abbrev StrategyID := String

/-- What is broadcast, as far as the envelope depends on it. -/
inductive Broadcast where
  | signal (strategyID : StrategyID) (noTrade : Bool)
  | marketState
  | marketSnapshot
  | agentStatus
  deriving DecidableEq

/-- `EventEnvelope`, without its identifier, its time and its payload. -/
structure EventEnvelope where
  streamID : String
  sequence : ℕ
  type : String
  priority : String
  deriving DecidableEq

/-- The stream of a message. -/
def Broadcast.streamID : Broadcast → String
  | .signal strategyID _ => "signals:" ++ strategyID
  | .marketState => "market_state"
  | .marketSnapshot => "market_snapshot"
  | .agentStatus => "agent_status"

/-- The type of a message. -/
def Broadcast.type : Broadcast → String
  | .signal _ _ => "SIGNAL"
  | .marketState => "MARKET_STATE"
  | .marketSnapshot => "MARKET_SNAPSHOT"
  | .agentStatus => "AGENT_STATUS"

/-- The priority of a message. -/
def Broadcast.priority : Broadcast → String
  | .signal _ noTrade => if noTrade then "P1" else "P0"
  | .agentStatus => "P2"
  | _ => "P1"

/-- The message under its number in the stream. -/
def Broadcast.envelope (b : Broadcast) (sequence : ℕ) : EventEnvelope :=
  ⟨b.streamID, sequence, b.type, b.priority⟩

/-- The first envelope of a client. -/
def snapshot (sequence : ℕ) : EventEnvelope := ⟨"market_state", sequence, "SNAPSHOT", "P0"⟩

/-- Where the handler of a client is, and then its writer. -/
inductive Phase where
  | absent
  | upgraded
  | registered
  | numbered (sequence : ℕ)
  | serving
  | leaving
  | gone
  deriving DecidableEq

/-- A connection: its entitlements, how far it is, and what waits to be sent. -/
structure Client where
  entitlements : List StrategyID := []
  phase : Phase := .absent
  send : List EventEnvelope := []
  closed : Bool := false
  sequences : String → ℕ := fun _ => 0
  written : List EventEnvelope := []

/-- `isEntitled`. -/
def Client.isEntitled (c : Client) (strategyID : StrategyID) : Bool := decide (strategyID ∈ c.entitlements)

/-- Whether a broadcast is meant for a client. -/
def Client.receives (c : Client) : Broadcast → Bool
  | .signal strategyID _ => c.isEntitled strategyID
  | _ => true

/-- What a client is entitled to. `answer` is what `entitlementsFn` says of the user, where it is set. -/
def entitlementsOf (answer : Option (List StrategyID)) (userID : String) : List StrategyID :=
  match answer with
  | none => []
  | some strs => if userID ≠ "anonymous" then strs else []

/-- The capacity of `send`. -/
def capacity : ℕ := 256

/-- What `Run` is at: it has taken a client from a channel and has not got to the map yet. -/
inductive Running where
  | idle
  | inserting (c : ClientID)
  | removing (c : ClientID)
  deriving DecidableEq

/-- A broadcast under way: the clients still to come, and the envelope for the first of them once it has
its number. -/
structure Reader where
  broadcast : Broadcast
  todo : List ClientID
  holding : Option EventEnvelope := none

/-- The hub: the clients, the map they are registered in, and what is running. -/
structure Hub (P : Type) where
  clients : ClientID → Client := fun _ => {}
  inMap : Finset ClientID := ∅
  running : Running := .idle
  readers : P → Option Reader := fun _ => none
  panicked : Bool := false

variable {P : Type} {s : Hub P} {c : ClientID} {client : Client}

/-- The hub with a client that has changed. -/
def Hub.setClient (s : Hub P) (c : ClientID) (client : Client) : Hub P :=
  { s with clients := Function.update s.clients c client }

@[simp] theorem setClient_readers : (s.setClient c client).readers = s.readers := rfl

@[simp] theorem setClient_self : (s.setClient c client).clients c = client := Function.update_self ..

/-- A client after a change is what it was changed to, or what it was before. -/
theorem setClient_cases (s : Hub P) (c : ClientID) (client : Client) (c' : ClientID) :
    c' = c ∧ (s.setClient c client).clients c' = client ∨
      c' ≠ c ∧ (s.setClient c client).clients c' = s.clients c' := by
  by_cases hc : c' = c
  · exact Or.inl ⟨hc, hc ▸ setClient_self⟩
  · exact Or.inr ⟨hc, Function.update_of_ne hc ..⟩

/-- The hub with a reader that has changed. -/
def Hub.setReader [DecidableEq P] (s : Hub P) (p : P) (r : Option Reader) : Hub P :=
  { s with readers := Function.update s.readers p r }

/-- A reader after a change is what it was changed to, or what it was before. -/
theorem setReader_cases [DecidableEq P] (s : Hub P) (p : P) (r : Option Reader) (q : P) :
    q = p ∧ (s.setReader p r).readers q = r ∨
      q ≠ p ∧ (s.setReader p r).readers q = s.readers q := by
  by_cases hq : q = p
  · exact Or.inl ⟨hq, hq ▸ Function.update_self ..⟩
  · exact Or.inr ⟨hq, Function.update_of_ne hq ..⟩

/-! ## Steps -/

/-- What can happen next. -/
inductive Act (P : Type) where
  | connect (c : ClientID) (userID : String) (answer : Option (List StrategyID))
  | register (c : ClientID)
  | insert
  | number (c : ClientID)
  | sendSnapshot (c : ClientID)
  | write (c : ClientID)
  | leave (c : ClientID)
  | unregister (c : ClientID)
  | remove
  | start (p : P) (b : Broadcast) (order : List ClientID)
  | visit (p : P)
  | push (p : P)
  | finish (p : P)

/-- Nobody has the read lock. -/
def Hub.Unread (s : Hub P) : Prop := ∀ p, s.readers p = none

instance decidableUnread [Fintype P] (s : Hub P) : Decidable s.Unread :=
  haveI : ∀ p, Decidable (s.readers p = none) := fun p =>
    decidable_of_iff ((s.readers p).isNone = true) Option.isNone_iff_eq_none
  inferInstanceAs (Decidable (∀ p, s.readers p = none))

/-- An envelope goes into the channel of a client. Where the channel is full, a broadcast drops it. -/
def Client.enqueue (c : Client) (e : EventEnvelope) : Client :=
  if c.send.length < capacity then { c with send := c.send ++ [e] } else c

/-- The next number of a stream (`nextSeq`). -/
def Client.numbers (c : Client) (streamID : String) : Client :=
  { c with sequences := Function.update c.sequences streamID (c.sequences streamID + 1) }

/-- A step; an act whose turn it is not changes nothing. -/
def Hub.step [Fintype P] [DecidableEq P] (s : Hub P) : Act P → Hub P
  | .connect c userID answer =>
    if (s.clients c).phase = .absent then
      s.setClient c
        { s.clients c with phase := .upgraded, entitlements := entitlementsOf answer userID }
    else s
  | .register c =>
    if (s.clients c).phase = .upgraded ∧ s.running = .idle then
      { s.setClient c { s.clients c with phase := .registered } with running := .inserting c }
    else s
  | .insert =>
    match s.running with
    | .inserting c =>
      if s.Unread then { s with inMap := insert c s.inMap, running := .idle } else s
    | _ => s
  | .number c =>
    if (s.clients c).phase = .registered then
      let client := (s.clients c).numbers "market_state"
      s.setClient c { client with phase := .numbered (client.sequences "market_state") }
    else s
  | .sendSnapshot c =>
    match (s.clients c).phase with
    | .numbered sequence =>
      if (s.clients c).closed then { s with panicked := true }
      else if (s.clients c).send.length < capacity then
        s.setClient c { (s.clients c).enqueue (snapshot sequence) with phase := .serving }
      -- the handler waits, and there is no writer yet to make room
      else s
    | _ => s
  | .write c =>
    match (s.clients c).phase, (s.clients c).send with
    | .serving, e :: send =>
      s.setClient c { s.clients c with send := send, written := (s.clients c).written ++ [e] }
    | _, _ => s
  | .leave c =>
    if (s.clients c).phase = .serving then s.setClient c { s.clients c with phase := .leaving } else s
  | .unregister c =>
    if (s.clients c).phase = .leaving ∧ s.running = .idle then
      { s.setClient c { s.clients c with phase := .gone } with running := .removing c }
    else s
  | .remove =>
    match s.running with
    | .removing c =>
      if s.Unread then
        if c ∈ s.inMap then
          if (s.clients c).closed then { s with panicked := true }
          else
            { s.setClient c { s.clients c with closed := true } with
              inMap := s.inMap.erase c, running := .idle }
        else { s with running := .idle }
      else s
    | _ => s
  | .start p b order =>
    if s.readers p = none ∧ order.Nodup ∧ order.toFinset = s.inMap then
      s.setReader p (some { broadcast := b, todo := order })
    else s
  | .visit p =>
    match s.readers p with
    | some ⟨b, c :: todo, none⟩ =>
      if (s.clients c).receives b then
        let client := (s.clients c).numbers b.streamID
        (s.setClient c client).setReader p
          (some ⟨b, c :: todo, some (b.envelope (client.sequences b.streamID))⟩)
      else s.setReader p (some ⟨b, todo, none⟩)
    | _ => s
  | .push p =>
    match s.readers p with
    | some ⟨b, c :: todo, some e⟩ =>
      if (s.clients c).closed then { s with panicked := true }
      else (s.setClient c ((s.clients c).enqueue e)).setReader p (some ⟨b, todo, none⟩)
    | _ => s
  | .finish p =>
    match s.readers p with
    | some ⟨_, [], _⟩ => s.setReader p none
    | _ => s

/-- What a message changes of a client is its channel. -/
theorem enqueue_keeps (client : Client) (e : EventEnvelope) :
    (client.enqueue e).closed = client.closed ∧ (client.enqueue e).phase = client.phase ∧
      (client.enqueue e).entitlements = client.entitlements ∧
      (client.enqueue e).sequences = client.sequences ∧
      (client.enqueue e).written = client.written := by
  unfold Client.enqueue
  split <;> exact ⟨rfl, rfl, rfl, rfl, rfl⟩

/-! ## No panic -/

/-- A channel is closed only where nobody will send to it or close it. -/
structure Hub.Safe (s : Hub P) : Prop where
  closed_gone : ∀ c, (s.clients c).closed → (s.clients c).phase = .gone
  closed_out : ∀ c, (s.clients c).closed → c ∉ s.inMap
  todo_in : ∀ p r, s.readers p = some r → ∀ c ∈ r.todo, c ∈ s.inMap
  inserting : ∀ c, s.running = .inserting c → ¬ (s.clients c).closed
  removing : ∀ c, s.running = .removing c → ¬ (s.clients c).closed ∧ (s.clients c).phase = .gone
  calm : s.panicked = false

/-- Nothing is closed at the start. -/
theorem Hub.Safe.init : ({} : Hub P).Safe where
  closed_gone _ h := nomatch h
  closed_out _ h := nomatch h
  todo_in _ _ h := nomatch h
  inserting _ h := nomatch h
  removing _ h := nomatch h
  calm := rfl

/-- A change to a client that does not touch its channel's state and brings nobody back. -/
theorem Hub.Safe.setClient (hs : s.Safe) (hclosed : client.closed = (s.clients c).closed)
    (hgone : (s.clients c).phase = .gone → client.phase = .gone) : (s.setClient c client).Safe where
  closed_gone c' := by
    obtain ⟨rfl, hc⟩ | ⟨-, hc⟩ := setClient_cases s c client c'
    · rw [hc, hclosed]
      exact fun h => hgone (hs.closed_gone c' h)
    · rw [hc]
      exact hs.closed_gone c'
  closed_out c' := by
    obtain ⟨rfl, hc⟩ | ⟨-, hc⟩ := setClient_cases s c client c'
    · rw [hc, hclosed]
      exact hs.closed_out c'
    · rw [hc]
      exact hs.closed_out c'
  todo_in := hs.todo_in
  inserting c' hr := by
    obtain ⟨rfl, hc⟩ | ⟨-, hc⟩ := setClient_cases s c client c'
    · rw [hc, hclosed]
      exact hs.inserting c' hr
    · rw [hc]
      exact hs.inserting c' hr
  removing c' hr := by
    obtain ⟨hopen, hleft⟩ := hs.removing c' hr
    obtain ⟨rfl, hc⟩ | ⟨-, hc⟩ := setClient_cases s c client c'
    · rw [hc, hclosed]
      exact ⟨hopen, hgone hleft⟩
    · rw [hc]
      exact ⟨hopen, hleft⟩
  calm := hs.calm

theorem Hub.Safe.setReader [DecidableEq P] {p : P} (hs : s.Safe) (r : Option Reader)
    (hr : ∀ x, r = some x → ∀ c ∈ x.todo, c ∈ s.inMap) : (s.setReader p r).Safe :=
  { hs with
    todo_in := by
      intro q x hx
      obtain ⟨-, hq⟩ | ⟨-, hq⟩ := setReader_cases s p r q
      · exact hr x (hq.symm.trans hx)
      · exact hs.todo_in q x (hq.symm.trans hx) }

/-- `Run` takes a client from the channel that registers. -/
theorem Hub.Safe.insertNext (hs : s.Safe) (hc : ¬ (s.clients c).closed) :
    { s with running := .inserting c : Hub P }.Safe :=
  { hs with
    inserting := by rintro _ ⟨⟩; exact hc
    removing := fun _ h => nomatch h }

/-- `Run` takes a client from the channel that unregisters. -/
theorem Hub.Safe.removeNext (hs : s.Safe) (hc : ¬ (s.clients c).closed)
    (hgone : (s.clients c).phase = .gone) : { s with running := .removing c : Hub P }.Safe :=
  { hs with
    inserting := fun _ h => nomatch h
    removing := by rintro _ ⟨⟩; exact ⟨hc, hgone⟩ }

theorem Hub.Safe.insert (hs : s.Safe) (hr : s.running = .inserting c) :
    { s with inMap := insert c s.inMap, running := .idle : Hub P }.Safe where
  closed_gone := hs.closed_gone
  closed_out c' h := by
    show c' ∉ Insert.insert c s.inMap
    rw [Finset.mem_insert, not_or]
    refine ⟨?_, hs.closed_out c' h⟩
    rintro rfl
    exact hs.inserting c' hr h
  todo_in q r h c' hc' := Finset.mem_insert_of_mem (hs.todo_in q r h c' hc')
  inserting _ h := nomatch h
  removing _ h := nomatch h
  calm := hs.calm

/-- Nobody reads the map when a client is taken out and its channel is closed. -/
theorem Hub.Safe.remove (hs : s.Safe) (hu : s.Unread) (hr : s.running = .removing c)
    (hphase : client.phase = (s.clients c).phase) :
    { s.setClient c client with inMap := s.inMap.erase c, running := .idle : Hub P }.Safe where
  closed_gone c' := by
    show ((s.setClient c client).clients c').closed → ((s.setClient c client).clients c').phase = .gone
    obtain ⟨rfl, hc⟩ | ⟨-, hc⟩ := setClient_cases s c client c'
    · rw [hc, hphase]
      exact fun _ => (hs.removing c' hr).2
    · rw [hc]
      exact hs.closed_gone c'
  closed_out c' h hmem := by
    obtain ⟨hne, hmem⟩ := Finset.mem_erase.mp hmem
    obtain ⟨rfl, -⟩ | ⟨-, hc⟩ := setClient_cases s c client c'
    · exact hne rfl
    · exact hs.closed_out c' (hc ▸ h) hmem
  todo_in q r h := by
    rw [setClient_readers, hu q] at h
    cases h
  inserting _ h := nomatch h
  removing _ h := nomatch h
  calm := hs.calm

/-- **Step.** No closed channel is sent to. -/
theorem Hub.Safe.step [Fintype P] [DecidableEq P] (hs : s.Safe) (a : Act P) : (s.step a).Safe := by
  cases a with
  | connect c userID answer =>
    rw [Hub.step]
    by_cases hp : (s.clients c).phase = .absent
    · rw [if_pos hp]
      exact hs.setClient rfl fun h => absurd (hp.symm.trans h) (by decide)
    · rwa [if_neg hp]
  | register c =>
    rw [Hub.step]
    by_cases hp : (s.clients c).phase = .upgraded ∧ s.running = .idle
    · rw [if_pos hp]
      have hne : (s.clients c).phase ≠ .gone := fun h => absurd (hp.1.symm.trans h) (by decide)
      have hopen : ¬ (s.clients c).closed := fun h => hne (hs.closed_gone c h)
      have hnext : (s.setClient c { s.clients c with phase := .registered }).Safe :=
        hs.setClient rfl fun h => absurd h hne
      exact hnext.insertNext (setClient_self ▸ hopen)
    · rwa [if_neg hp]
  | insert =>
    rw [Hub.step]
    split
    · next hr =>
      by_cases hu : s.Unread
      · rw [if_pos hu]
        exact hs.insert hr
      · rwa [if_neg hu]
    · exact hs
  | number c =>
    rw [Hub.step]
    by_cases hp : (s.clients c).phase = .registered
    · rw [if_pos hp]
      exact hs.setClient rfl fun h => absurd (hp.symm.trans h) (by decide)
    · rwa [if_neg hp]
  | sendSnapshot c =>
    rw [Hub.step]
    split
    · next n hp =>
      have hne : (s.clients c).phase ≠ .gone := fun h => nomatch hp.symm.trans h
      rw [if_neg fun h => hne (hs.closed_gone c h)]
      by_cases hroom : (s.clients c).send.length < capacity
      · rw [if_pos hroom]
        exact hs.setClient (enqueue_keeps _ _).1 fun h => absurd h hne
      · rwa [if_neg hroom]
    · exact hs
  | write c =>
    rw [Hub.step]
    split
    · next hp _ => exact hs.setClient rfl fun h => h
    · exact hs
  | leave c =>
    rw [Hub.step]
    by_cases hp : (s.clients c).phase = .serving
    · rw [if_pos hp]
      exact hs.setClient rfl fun h => absurd (hp.symm.trans h) (by decide)
    · rwa [if_neg hp]
  | unregister c =>
    rw [Hub.step]
    by_cases hp : (s.clients c).phase = .leaving ∧ s.running = .idle
    · rw [if_pos hp]
      have hopen : ¬ (s.clients c).closed := fun h =>
        absurd (hp.1.symm.trans (hs.closed_gone c h)) (by decide)
      have hnext : (s.setClient c { s.clients c with phase := .gone }).Safe :=
        hs.setClient rfl fun _ => rfl
      exact hnext.removeNext (setClient_self ▸ hopen) (setClient_self ▸ rfl)
    · rwa [if_neg hp]
  | remove =>
    rw [Hub.step]
    split
    · next c hr =>
      by_cases hu : s.Unread
      · rw [if_pos hu, if_neg (hs.removing c hr).1]
        by_cases hin : c ∈ s.inMap
        · rw [if_pos hin]
          exact hs.remove hu hr rfl
        · rw [if_neg hin]
          exact { hs with inserting := fun _ h => (nomatch h), removing := fun _ h => (nomatch h) }
      · rwa [if_neg hu]
    · exact hs
  | start p b order =>
    rw [Hub.step]
    by_cases hp : s.readers p = none ∧ order.Nodup ∧ order.toFinset = s.inMap
    · rw [if_pos hp]
      refine hs.setReader _ ?_
      rintro _ ⟨⟩ c hc
      rw [← hp.2.2]
      exact List.mem_toFinset.mpr hc
    · rwa [if_neg hp]
  | visit p =>
    rw [Hub.step]
    split
    · next b c todo hr =>
      have hin := hs.todo_in p _ hr
      by_cases he : (s.clients c).receives b
      · rw [if_pos he]
        have hnext : (s.setClient c ((s.clients c).numbers b.streamID)).Safe :=
          hs.setClient rfl fun h => h
        refine hnext.setReader _ ?_
        rintro _ ⟨⟩
        exact hin
      · rw [if_neg he]
        refine hs.setReader _ ?_
        rintro _ ⟨⟩ c' hc'
        exact hin c' (List.mem_cons_of_mem c hc')
    · exact hs
  | push p =>
    rw [Hub.step]
    split
    · next b c todo e hr =>
      have hin := hs.todo_in p _ hr
      rw [if_neg fun h => hs.closed_out c h (hin c List.mem_cons_self)]
      have hk := enqueue_keeps (s.clients c) e
      refine (hs.setClient hk.1 fun h => hk.2.1.trans h).setReader _ ?_
      rintro _ ⟨⟩ c' hc'
      exact hin c' (List.mem_cons_of_mem c hc')
    · exact hs
  | finish p =>
    rw [Hub.step]
    split
    · exact hs.setReader none fun _ h => nomatch h
    · exact hs

/-- **No panic.** However the goroutines take turns, nobody sends on a closed channel, and no channel is
closed twice. -/
theorem never_panics [Fintype P] [DecidableEq P] (acts : List (Act P)) : (run Hub.step {} acts).panicked = false :=
  (run_keeps (I := Hub.Safe) (fun _ a hs => hs.step a) Hub.Safe.init acts).calm

end PredictATrade.Gateway
