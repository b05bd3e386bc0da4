import AerialRescue.Lib.Clients
import Mathlib.Logic.Relation

/-!
# Clients in a changing world

A client at work in a world that changes by itself between its queries, and
that may answer a query in several ways.  A client obeys a condition when each
query meets it in the state it is asked in and with the exchanges before it,
whatever the world does; what is left of an obeying client obeys.

The module is generic in the states, the queries and the answers.
-/

namespace AerialRescue.Lib.Clients

/-- How a world changes by itself, and how it answers. -/
structure World (σ Query : Type) (Answer : Query → Type) where
  drifts : σ → σ → Prop
  responds : σ → (query : Query) → Answer query → σ → Prop

/-- Exchanges, each with the state it was in. -/
abbrev Past (σ Query : Type) (Answer : Query → Type) :=
  List (σ × Exchange Query Answer)

variable {σ Query : Type} {Answer : Query → Type} {Failure α β : Type}

/--
Each query of the client meets a condition, and the client ends in a state and
with a past of the given kind.
-/
def Client.Obeys (world : World σ Query Answer)
    (asked : σ → Past σ Query Answer → Query → Prop) :
    Client Query Answer Failure α →
      (Except Failure α → σ → Past σ Query Answer → Prop) →
        σ → Past σ Query Answer → Prop
  | .finish result, ends, state, past => ends result state past
  | .ask query next, ends, state, past =>
      ∀ later, Relation.ReflTransGen world.drifts state later →
        asked later past query ∧
          ∀ answer after, world.responds later query answer after →
            (next answer).Obeys world asked ends after
              (past ++ [(later, ⟨query, answer⟩)])

variable {world : World σ Query Answer}
  {asked : σ → Past σ Query Answer → Query → Prop}

theorem Client.Obeys.imp {client : Client Query Answer Failure α}
    {ends wider : Except Failure α → σ → Past σ Query Answer → Prop}
    {state : σ} {past : Past σ Query Answer}
    (obeys : client.Obeys world asked ends state past)
    (implies : ∀ result state past, ends result state past →
      wider result state past) :
    client.Obeys world asked wider state past := by
  induction client generalizing state past with
  | finish result => exact implies _ _ _ obeys
  | ask query next inductionHypothesis =>
      intro later drifted
      rcases obeys later drifted with ⟨holds, goesOn⟩
      exact ⟨holds, fun answer after responded =>
        inductionHypothesis answer (goesOn answer after responded)⟩

/-- How the first of two clients has to end. -/
def handsOver (world : World σ Query Answer)
    (asked : σ → Past σ Query Answer → Query → Prop)
    (second : α → Client Query Answer Failure β)
    (ends : Except Failure β → σ → Past σ Query Answer → Prop) :
    Except Failure α → σ → Past σ Query Answer → Prop
  | .ok value, later, history =>
      (second value).Obeys world asked ends later history
  | .error failure, later, history => ends (.error failure) later history

theorem obeys_bind {first : Client Query Answer Failure α}
    {second : α → Client Query Answer Failure β}
    {ends : Except Failure β → σ → Past σ Query Answer → Prop}
    {state : σ} {past : Past σ Query Answer}
    (obeys : first.Obeys world asked (handsOver world asked second ends)
      state past) :
    (first >>= second).Obeys world asked ends state past := by
  induction first generalizing state past with
  | finish result =>
      cases result with
      | ok value => exact obeys
      | error failure => exact obeys
  | ask query next inductionHypothesis =>
      intro later drifted
      rcases obeys later drifted with ⟨holds, goesOn⟩
      exact ⟨holds, fun answer after responded =>
        inductionHypothesis answer (goesOn answer after responded)⟩

/-! ## Steps of a client -/

/-- An obeying client obeys after a change of the world. -/
theorem Client.Obeys.drift {client : Client Query Answer Failure α}
    {state next : σ} {past : Past σ Query Answer}
    (obeys : client.Obeys world asked (fun _ _ _ => True) state past)
    (drifted : world.drifts state next) :
    client.Obeys world asked (fun _ _ _ => True) next past := by
  cases client with
  | finish result => trivial
  | ask query rest =>
      intro later further
      exact obeys later (.head drifted further)

theorem Client.Obeys.asks {query : Query}
    {rest : Answer query → Client Query Answer Failure α} {state : σ}
    {ends : Except Failure α → σ → Past σ Query Answer → Prop}
    {past : Past σ Query Answer}
    (obeys : (Client.ask query rest).Obeys world asked ends state past) :
    asked state past query :=
  (obeys state .refl).1

theorem Client.Obeys.answer {query : Query}
    {rest : Answer query → Client Query Answer Failure α} {state next : σ}
    {ends : Except Failure α → σ → Past σ Query Answer → Prop}
    {past : Past σ Query Answer} {answer : Answer query}
    (obeys : (Client.ask query rest).Obeys world asked ends state past)
    (responded : world.responds state query answer next) :
    (rest answer).Obeys world asked ends next
      (past ++ [(state, ⟨query, answer⟩)]) :=
  (obeys state .refl).2 answer next responded

/-! ## Triples -/

/-- What the world's own changes keep. -/
def Stable (world : World σ Query Answer)
    (condition : σ → Past σ Query Answer → Prop) : Prop :=
  ∀ state next past, condition state past → world.drifts state next →
    condition next past

theorem Stable.and {left right : σ → Past σ Query Answer → Prop}
    (first : Stable world left) (second : Stable world right) :
    Stable world fun state past => left state past ∧ right state past :=
  fun state next past holds drifted =>
    ⟨first state next past holds.1 drifted,
      second state next past holds.2 drifted⟩

theorem Stable.star {condition : σ → Past σ Query Answer → Prop}
    (stable : Stable world condition) {state later : σ}
    {past : Past σ Query Answer} (holds : condition state past)
    (drifted : Relation.ReflTransGen world.drifts state later) :
    condition later past := by
  induction drifted with
  | refl => exact holds
  | tail _ step inductionHypothesis =>
      exact stable _ _ _ inductionHypothesis step

/-- From the first kind of states and pasts the client obeys, and when it does
not fail it ends in the second kind. -/
def Keeps (world : World σ Query Answer)
    (asked : σ → Past σ Query Answer → Query → Prop)
    (before : σ → Past σ Query Answer → Prop)
    (client : Client Query Answer Failure α)
    (after : α → σ → Past σ Query Answer → Prop) : Prop :=
  ∀ state past, before state past →
    client.Obeys world asked
      (fun result later history =>
        ∀ value, result = .ok value → after value later history)
      state past

section Keeps

variable {before : σ → Past σ Query Answer → Prop}

theorem Keeps.imp {client : Client Query Answer Failure α}
    {narrower : σ → Past σ Query Answer → Prop}
    {after wider : α → σ → Past σ Query Answer → Prop}
    (keeps : Keeps world asked before client after)
    (first : ∀ state past, narrower state past → before state past)
    (last : ∀ value state past, after value state past →
      wider value state past) :
    Keeps world asked narrower client wider :=
  fun state past holds =>
    (keeps state past (first state past holds)).imp
      fun _ later history ends value same =>
        last value later history (ends value same)

/-- The past in which a client starts may be given a name. -/
theorem Keeps.fix {client : Client Query Answer Failure α}
    {after : α → σ → Past σ Query Answer → Prop}
    (keeps : ∀ history, Keeps world asked
      (fun state past => before state past ∧ past = history) client after) :
    Keeps world asked before client after :=
  fun state past holds => keeps past state past ⟨holds, rfl⟩

theorem Keeps.lift {result : Except Failure α}
    {after : α → σ → Past σ Query Answer → Prop}
    (holds : ∀ state past value, before state past → result = .ok value →
      after value state past) :
    Keeps world asked before (Client.lift result) after :=
  fun state past initial value same => holds state past value initial same

theorem Keeps.pure {value : α} {after : α → σ → Past σ Query Answer → Prop}
    (holds : ∀ state past, before state past → after value state past) :
    Keeps world asked before
      (Pure.pure value : Client Query Answer Failure α) after := by
  refine Keeps.lift fun state past other initial same => ?_
  cases same
  exact holds state past initial

theorem Keeps.query {query : Query} {result : Answer query → Except Failure α}
    {after : α → σ → Past σ Query Answer → Prop}
    (stable : Stable world before)
    (holds : ∀ state past, before state past →
      asked state past query ∧
        ∀ answer next value, world.responds state query answer next →
          result answer = .ok value →
            after value next (past ++ [(state, ⟨query, answer⟩)])) :
    Keeps world asked before (Client.query query result) after := by
  intro state past initial later drifted
  rcases holds later past (stable.star initial drifted) with ⟨meets, goesOn⟩
  refine ⟨meets, ?_⟩
  intro answer next responded value same
  exact goesOn answer next value responded same

theorem Keeps.bind {first : Client Query Answer Failure α}
    {second : α → Client Query Answer Failure β}
    {middle : α → σ → Past σ Query Answer → Prop}
    {after : β → σ → Past σ Query Answer → Prop}
    (starts : Keeps world asked before first middle)
    (goesOn : ∀ value, Keeps world asked (middle value) (second value) after) :
    Keeps world asked before (first >>= second) after := by
  intro state past initial
  refine obeys_bind ((starts state past initial).imp ?_)
  intro result later history ends
  cases result with
  | ok value => exact goesOn value later history (ends value rfl)
  | error failure =>
      intro value impossible
      cases impossible

end Keeps

end AerialRescue.Lib.Clients
