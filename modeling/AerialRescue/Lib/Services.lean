import AerialRescue.Lib.Clients

/-!
# Services that answer a client

A service answers each query from its state and goes on in another state.  A
client that a service answers has one run: what was asked in which state, the
states that were reached, and how it ended.  The rules say what holds of every
query of a run and of its end.

The module is generic in the states, the queries and the answers.
-/

namespace AerialRescue.Lib.Clients

/-- What answers the queries of clients. -/
structure Service (σ Query : Type) (Answer : Query → Type) where
  answer : σ → (query : Query) → Answer query
  next : σ → Query → σ

variable {σ Query : Type} {Answer : Query → Type} {Failure α β item : Type}

namespace Client

/-- How the client ends, and the state in which it does. -/
def serve (service : Service σ Query Answer) :
    Client Query Answer Failure α → σ → Except Failure α × σ
  | .finish result, state => (result, state)
  | .ask query next, state =>
      (next (service.answer state query)).serve service
        (service.next state query)

/-- The queries of the run, each with the state it was asked in. -/
def trail (service : Service σ Query Answer) :
    Client Query Answer Failure α → σ → List (σ × Query)
  | .finish _, _ => []
  | .ask query next, state =>
      (state, query) ::
        (next (service.answer state query)).trail service
          (service.next state query)

/-- The states after some of the queries, and after all of them. -/
def reached (service : Service σ Query Answer)
    (client : Client Query Answer Failure α) (state : σ) : List σ :=
  (client.trail service state).map Prod.fst ++
    [(client.serve service state).2]

end Client

variable {service : Service σ Query Answer}

/-- The run of a second client after an end of the first. -/
def Client.serveAfter (service : Service σ Query Answer)
    (second : α → Client Query Answer Failure β) :
    Except Failure α × σ → Except Failure β × σ
  | (.ok value, later) => (second value).serve service later
  | (.error failure, later) => (.error failure, later)

/-- The queries of a second client after an end of the first. -/
def Client.trailAfter (service : Service σ Query Answer)
    (second : α → Client Query Answer Failure β) :
    Except Failure α × σ → List (σ × Query)
  | (.ok value, later) => (second value).trail service later
  | (.error _, _) => []

theorem serve_bind (first : Client Query Answer Failure α)
    (second : α → Client Query Answer Failure β) (state : σ) :
    (first >>= second).serve service state =
      Client.serveAfter service second (first.serve service state) := by
  induction first generalizing state with
  | finish result =>
      cases result with
      | error failure => rfl
      | ok value => rfl
  | ask query next inductionHypothesis =>
      exact inductionHypothesis _ (service.next state query)

theorem trail_bind (first : Client Query Answer Failure α)
    (second : α → Client Query Answer Failure β) (state : σ) :
    (first >>= second).trail service state =
      first.trail service state ++
        Client.trailAfter service second (first.serve service state) := by
  induction first generalizing state with
  | finish result =>
      cases result with
      | error failure => rfl
      | ok value => rfl
  | ask query next inductionHypothesis =>
      exact congrArg _ (inductionHypothesis _ (service.next state query))

/-- What succeeds as a whole succeeds at first. -/
theorem serve_bind_ok {first : Client Query Answer Failure α}
    {second : α → Client Query Answer Failure β} {state : σ} {value : β}
    (succeeds : ((first >>= second).serve service state).1 = .ok value) :
    ∃ earlier, (first.serve service state).1 = .ok earlier ∧
      ((second earlier).serve service
        (first.serve service state).2).1 = .ok value := by
  rw [serve_bind] at succeeds
  rcases served : first.serve service state with ⟨_ | earlier, later⟩
  · rw [served] at succeeds
    cases succeeds
  · rw [served] at succeeds
    exact ⟨earlier, rfl, succeeds⟩

/-! ## Runs that succeed -/

/--
From every state of the first kind the client succeeds in one of the second,
and asks allowed queries only.
-/
def Serves (service : Service σ Query Answer) (allowed : σ → Query → Prop)
    (before : σ → Prop) (client : Client Query Answer Failure α)
    (after : α → σ → Prop) : Prop :=
  ∀ state, before state →
    (∀ pair ∈ client.trail service state, allowed pair.1 pair.2) ∧
      ∃ value, (client.serve service state).1 = .ok value ∧
        after value (client.serve service state).2

section Serves

variable {allowed : σ → Query → Prop} {before : σ → Prop}

theorem Serves.imp {client : Client Query Answer Failure α}
    {narrower : σ → Prop} {after wider : α → σ → Prop}
    (serves : Serves service allowed before client after)
    (first : ∀ state, narrower state → before state)
    (last : ∀ value state, after value state → wider value state) :
    Serves service allowed narrower client wider := by
  intro state holds
  rcases serves state (first state holds) with ⟨asked, value, ends, held⟩
  exact ⟨asked, value, ends, last value _ held⟩

/-- A client is served in each state by itself. -/
theorem Serves.of_state {client : Client Query Answer Failure α}
    {after : α → σ → Prop}
    (serves : ∀ state, before state →
      Serves service allowed (fun held => held = state) client after) :
    Serves service allowed before client after :=
  fun state holds => serves state holds state rfl

theorem Serves.lift {result : Except Failure α} {after : α → σ → Prop}
    (holds : ∀ state, before state →
      ∃ value, result = .ok value ∧ after value state) :
    Serves service allowed before (Client.lift result) after := by
  intro state initial
  refine ⟨?_, holds state initial⟩
  intro pair member
  cases member

theorem Serves.pure {value : α} {after : α → σ → Prop}
    (holds : ∀ state, before state → after value state) :
    Serves service allowed before
      (Pure.pure value : Client Query Answer Failure α) after :=
  Serves.lift fun state initial => ⟨value, rfl, holds state initial⟩

theorem Serves.query {query : Query}
    {result : Answer query → Except Failure α} {after : α → σ → Prop}
    (holds : ∀ state, before state → allowed state query ∧
      ∃ value, result (service.answer state query) = .ok value ∧
        after value (service.next state query)) :
    Serves service allowed before (Client.query query result) after := by
  intro state initial
  rcases holds state initial with ⟨asked, succeeds⟩
  refine ⟨?_, succeeds⟩
  intro pair member
  rw [List.mem_singleton.1 member]
  exact asked

theorem Serves.bind {first : Client Query Answer Failure α}
    {second : α → Client Query Answer Failure β}
    {middle : α → σ → Prop} {after : β → σ → Prop}
    (starts : Serves service allowed before first middle)
    (goesOn : ∀ value,
      Serves service allowed (middle value) (second value) after) :
    Serves service allowed before (first >>= second) after := by
  intro state initial
  rcases starts state initial with ⟨asked, value, ends, held⟩
  rcases served : first.serve service state with ⟨result, later⟩
  rw [served] at ends held
  cases ends
  rcases goesOn value later held with ⟨askedLater, last, endsLater, heldLater⟩
  rw [trail_bind, serve_bind, served]
  refine ⟨?_, last, endsLater, heldLater⟩
  intro pair member
  rcases List.mem_append.1 member with earlier | further
  · exact asked pair earlier
  · exact askedLater pair further

/-- A loop keeps a property of the items that are done. -/
theorem Serves.each {act : item → Client Query Answer Failure Unit}
    {items : List item} {held : List item → σ → Prop}
    (turn : ∀ done current rest, items = done ++ current :: rest →
      Serves service allowed (held done) (act current)
        fun _ => held (done ++ [current])) :
    Serves service allowed (held []) (Client.each act items)
      fun _ => held items := by
  have loop : ∀ rest done, items = done ++ rest →
      Serves service allowed (held done) (Client.each act rest)
        fun _ => held items := by
    intro rest
    induction rest with
    | nil =>
        rintro done split
        rw [List.append_nil] at split
        rw [split]
        exact Serves.pure fun _ holds => holds
    | cons current rest inductionHypothesis =>
        intro done split
        refine Serves.bind (turn done current rest split) fun _ => ?_
        refine inductionHypothesis (done ++ [current]) ?_
        rw [List.append_assoc]
        exact split
  exact loop items [] rfl

/-- Each state that a served run reaches has a property of those in which a
query may be asked and those in which the run may end. -/
theorem Serves.reached {client : Client Query Answer Failure α}
    {after : α → σ → Prop} {held : σ → Prop}
    (serves : Serves service allowed before client after)
    (asked : ∀ state query, allowed state query → held state)
    (ends : ∀ value state, after value state → held state)
    {state : σ} (initial : before state) :
    ∀ later ∈ client.reached service state, held later := by
  rcases serves state initial with ⟨each, value, _, last⟩
  intro later member
  rcases List.mem_append.1 member with among | final
  · rcases List.mem_map.1 among with ⟨pair, inTrail, rfl⟩
    exact asked pair.1 pair.2 (each pair inTrail)
  · rw [List.mem_singleton.1 final]
    exact ends value _ last

end Serves

/-! ## Queries of every run -/

/-- The client asks allowed queries only, whatever is answered. -/
def Client.Asks (allowed : Query → Prop) :
    Client Query Answer Failure α → Prop
  | .finish _ => True
  | .ask query next => allowed query ∧ ∀ answer, (next answer).Asks allowed

section Asks

variable {allowed : Query → Prop}

theorem asks_lift (result : Except Failure α) :
    (Client.lift result : Client Query Answer Failure α).Asks allowed :=
  trivial

theorem asks_query {query : Query} {result : Answer query → Except Failure α}
    (asked : allowed query) : (Client.query query result).Asks allowed :=
  ⟨asked, fun _ => trivial⟩

theorem asks_bind {first : Client Query Answer Failure α}
    {second : α → Client Query Answer Failure β} (starts : first.Asks allowed)
    (goesOn : ∀ value, (second value).Asks allowed) :
    (first >>= second).Asks allowed := by
  induction first with
  | finish result =>
      cases result with
      | error failure => trivial
      | ok value => exact goesOn value
  | ask query next inductionHypothesis =>
      exact ⟨starts.1, fun answer =>
        inductionHypothesis answer (starts.2 answer)⟩

theorem asks_each {act : item → Client Query Answer Failure Unit}
    {items : List item} (asks : ∀ each ∈ items, (act each).Asks allowed) :
    (Client.each act items).Asks allowed := by
  induction items with
  | nil => trivial
  | cons head rest inductionHypothesis =>
      refine asks_bind (asks head List.mem_cons_self) fun _ => ?_
      exact inductionHypothesis fun each member =>
        asks each (List.mem_cons_of_mem head member)

/-- What every allowed query keeps, the run keeps. -/
theorem Client.Asks.keeps {held : σ → Prop}
    (keeps : ∀ state query, allowed query → held state →
      held (service.next state query))
    {client : Client Query Answer Failure α} (asks : client.Asks allowed)
    {state : σ} (initial : held state) :
    held (client.serve service state).2 := by
  induction client generalizing state with
  | finish result => exact initial
  | ask query next inductionHypothesis =>
      exact inductionHypothesis _ (asks.2 _)
        (keeps state query asks.1 initial)

end Asks

end AerialRescue.Lib.Clients
