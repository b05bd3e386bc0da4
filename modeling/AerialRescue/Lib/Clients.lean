import Mathlib.Data.List.Basic
import Mathlib.Tactic.Common

/-!
# Clients of a service

A client asks a service one query after another and ends with a result or a
failure.  What the service answers is not part of the client: a run of a client
is any list of queries with answers that the client accepts, so that a fact
about every run holds against every service.

The module is generic in the queries, their answers, the failures and the
results.
-/

namespace AerialRescue.Lib.Clients

/-- A client that ends, or asks a query and goes on with its answer. -/
inductive Client (Query : Type) (Answer : Query → Type) (Failure : Type)
    (α : Type) : Type where
  | finish (result : Except Failure α)
  | ask (query : Query) (next : Answer query → Client Query Answer Failure α)

/-- A query with the answer that was given. -/
structure Exchange (Query : Type) (Answer : Query → Type) where
  query : Query
  answer : Answer query

variable {Query : Type} {Answer : Query → Type} {Failure α β : Type}

namespace Client

/-- The second client goes on where the first has a result. -/
def bind (first : Client Query Answer Failure α)
    (second : α → Client Query Answer Failure β) :
    Client Query Answer Failure β :=
  match first with
  | .finish (.ok value) => second value
  | .finish (.error failure) => .finish (.error failure)
  | .ask query next => .ask query fun answer => (next answer).bind second

instance : Monad (Client Query Answer Failure) where
  pure value := .finish (.ok value)
  bind := bind

/-- A client that asks nothing. -/
def lift (result : Except Failure α) : Client Query Answer Failure α :=
  .finish result

/-- A client that asks one query. -/
def query (query : Query)
    (result : Answer query → Except Failure α) :
    Client Query Answer Failure α :=
  .ask query fun answer => .finish (result answer)

/-- One client after another, for each of the items. -/
def each {item : Type} (act : item → Client Query Answer Failure Unit) :
    List item → Client Query Answer Failure Unit
  | [] => pure ()
  | first :: rest => do
      act first
      each act rest

end Client

/-! ## Runs -/

/-- The client may ask these queries, get these answers, and end so. -/
inductive Yields : Client Query Answer Failure α →
    List (Exchange Query Answer) → Except Failure α → Prop
  | finish (result : Except Failure α) : Yields (.finish result) [] result
  | ask (query : Query) (next : Answer query → Client Query Answer Failure α)
      (answer : Answer query) {history : List (Exchange Query Answer)}
      {result : Except Failure α}
      (rest : Yields (next answer) history result) :
      Yields (.ask query next) (⟨query, answer⟩ :: history) result

theorem yields_finish {result ended : Except Failure α}
    {history : List (Exchange Query Answer)} :
    Yields (.finish result : Client Query Answer Failure α) history ended ↔
      history = [] ∧ ended = result := by
  constructor
  · intro yields
    cases yields
    exact ⟨rfl, rfl⟩
  · rintro ⟨rfl, rfl⟩
    exact .finish _

theorem yields_pure {value : α} {ended : Except Failure α}
    {history : List (Exchange Query Answer)} :
    Yields (pure value : Client Query Answer Failure α) history ended ↔
      history = [] ∧ ended = .ok value :=
  yields_finish

theorem yields_lift {result ended : Except Failure α}
    {history : List (Exchange Query Answer)} :
    Yields (Client.lift result : Client Query Answer Failure α) history ended ↔
      history = [] ∧ ended = result :=
  yields_finish

theorem yields_query {query : Query} {result : Answer query → Except Failure α}
    {ended : Except Failure α} {history : List (Exchange Query Answer)} :
    Yields (Client.query query result) history ended ↔
      ∃ answer, history = [⟨query, answer⟩] ∧ ended = result answer := by
  constructor
  · intro yields
    cases yields with
    | ask _ _ answer rest =>
        rcases yields_finish.1 rest with ⟨rfl, rfl⟩
        exact ⟨answer, rfl, rfl⟩
  · rintro ⟨answer, rfl, rfl⟩
    exact .ask query _ answer (.finish _)

/-- A run of two clients is a run of the first that fails, or a run of the
first and one of the second. -/
theorem yields_bind {first : Client Query Answer Failure α}
    {second : α → Client Query Answer Failure β} {result : Except Failure β}
    {history : List (Exchange Query Answer)} :
    Yields (first >>= second) history result ↔
      (∃ failure, Yields first history (.error failure) ∧
        result = .error failure) ∨
      ∃ value earlier later, history = earlier ++ later ∧
        Yields first earlier (.ok value) ∧
          Yields (second value) later result := by
  induction first generalizing history with
  | finish ended =>
      cases ended with
      | error failure =>
          constructor
          · intro yields
            rcases yields_finish.1 yields with ⟨rfl, rfl⟩
            exact .inl ⟨failure, .finish _, rfl⟩
          · rintro (⟨_, yields, rfl⟩ | ⟨_, _, _, _, impossible, _⟩)
            · rcases yields_finish.1 yields with ⟨rfl, same⟩
              cases same
              exact .finish _
            · cases (yields_finish.1 impossible).2
      | ok value =>
          constructor
          · intro yields
            exact .inr ⟨value, [], history, rfl, .finish _, yields⟩
          · rintro (⟨_, impossible, _⟩ | ⟨_, _, _, rfl, yields, rest⟩)
            · cases (yields_finish.1 impossible).2
            · rcases yields_finish.1 yields with ⟨rfl, same⟩
              cases same
              exact rest
  | ask query next inductionHypothesis =>
      constructor
      · intro yields
        cases yields with
        | ask _ _ answer rest =>
            rcases (inductionHypothesis answer).1 rest with
              ⟨failure, fails, rfl⟩ | ⟨value, earlier, later, rfl, ok, last⟩
            · exact .inl ⟨failure, .ask query next answer fails, rfl⟩
            · exact .inr ⟨value, ⟨query, answer⟩ :: earlier, later, rfl,
                .ask query next answer ok, last⟩
      · rintro (⟨failure, yields, rfl⟩ | ⟨value, earlier, later, rfl, yields,
          last⟩)
        · cases yields with
          | ask _ _ answer rest =>
              exact .ask query _ answer
                ((inductionHypothesis answer).2 (.inl ⟨failure, rest, rfl⟩))
        · cases yields with
          | ask _ _ answer rest =>
              exact .ask query _ answer
                ((inductionHypothesis answer).2
                  (.inr ⟨value, _, later, rfl, rest, last⟩))

theorem Yields.query (query : Query) (result : Answer query → Except Failure α)
    (answer : Answer query) :
    Yields (Client.query query result) [⟨query, answer⟩] (result answer) :=
  yields_query.2 ⟨answer, rfl, rfl⟩

section Each

variable {item : Type} {act : item → Client Query Answer Failure Unit}

theorem yields_each_append {first second : List item}
    {result : Except Failure Unit} {history : List (Exchange Query Answer)} :
    Yields (Client.each act (first ++ second)) history result ↔
      (∃ failure, Yields (Client.each act first) history (.error failure) ∧
        result = .error failure) ∨
      ∃ earlier later, history = earlier ++ later ∧
        Yields (Client.each act first) earlier (.ok ()) ∧
          Yields (Client.each act second) later result := by
  induction first generalizing history with
  | nil =>
      constructor
      · intro yields
        exact .inr ⟨[], history, rfl, .finish _, yields⟩
      · rintro (⟨_, impossible, _⟩ | ⟨_, _, rfl, yields, rest⟩)
        · cases (yields_finish.1 impossible).2
        · rcases yields_finish.1 yields with ⟨rfl, _⟩
          exact rest
  | cons head rest inductionHypothesis =>
      rw [List.cons_append, Client.each, yields_bind]
      simp only [Client.each, yields_bind]
      constructor
      · rintro (⟨failure, fails, rfl⟩ | ⟨⟨⟩, earlier, later, rfl, ok, yields⟩)
        · exact .inl ⟨failure, .inl ⟨failure, fails, rfl⟩, rfl⟩
        · rcases inductionHypothesis.1 yields with
            ⟨failure, fails, rfl⟩ | ⟨middle, last, rfl, done, more⟩
          · exact .inl ⟨failure,
              .inr ⟨(), earlier, later, rfl, ok, fails⟩, rfl⟩
          · exact .inr ⟨earlier ++ middle, last, (List.append_assoc ..).symm,
              .inr ⟨(), earlier, middle, rfl, ok, done⟩, more⟩
      · rintro (⟨failure, fails | ⟨⟨⟩, earlier, later, rfl, ok, fails⟩, rfl⟩ |
          ⟨_, last, rfl, fails | ⟨⟨⟩, earlier, middle, rfl, ok, done⟩, more⟩)
        · rcases fails with ⟨_, fails, same⟩
          cases same
          exact .inl ⟨failure, fails, rfl⟩
        · exact .inr ⟨(), earlier, later, rfl, ok,
            inductionHypothesis.2 (.inl ⟨failure, fails, rfl⟩)⟩
        · rcases fails with ⟨_, _, impossible⟩
          cases impossible
        · exact .inr ⟨(), earlier, middle ++ last, List.append_assoc .., ok,
            inductionHypothesis.2 (.inr ⟨middle, last, rfl, done, more⟩)⟩

/-- A failure of one of many clients is a failure after those before it. -/
theorem yields_each_error {items : List item} {failure : Failure}
    {history : List (Exchange Query Answer)}
    (yields : Yields (Client.each act items) history (.error failure)) :
    ∃ before last after, items = before ++ last :: after ∧
      ∃ earlier later, history = earlier ++ later ∧
        Yields (Client.each act before) earlier (.ok ()) ∧
          Yields (act last) later (.error failure) := by
  induction items generalizing history with
  | nil => cases (yields_finish.1 yields).2
  | cons head rest inductionHypothesis =>
      rw [Client.each, yields_bind] at yields
      rcases yields with
        ⟨_, fails, same⟩ | ⟨⟨⟩, earlier, later, rfl, ok, more⟩
      · cases same
        exact ⟨[], head, rest, rfl, [], history, rfl, .finish _, fails⟩
      · rcases inductionHypothesis more with
          ⟨before, last, after, rfl, middle, final, rfl, done, fails⟩
        refine ⟨head :: before, last, after, rfl, earlier ++ middle, final,
          (List.append_assoc ..).symm, ?_, fails⟩
        rw [Client.each, yields_bind]
        exact .inr ⟨(), earlier, middle, rfl, ok, done⟩

end Each

/-! ## Conditions on runs -/

/-- Each exchange of a history meets a condition on the exchanges before it. -/
def Checked (condition : List (Exchange Query Answer) →
      Exchange Query Answer → Prop) :
    List (Exchange Query Answer) → List (Exchange Query Answer) → Prop
  | _, [] => True
  | past, exchange :: later =>
      condition past exchange ∧ Checked condition (past ++ [exchange]) later

/--
The client keeps a condition on every exchange, and from a past with a property
it ends, when it does not fail, in a past with a property of its result.
-/
def Meets (condition : List (Exchange Query Answer) →
      Exchange Query Answer → Prop)
    (before : List (Exchange Query Answer) → Prop)
    (client : Client Query Answer Failure α)
    (after : α → List (Exchange Query Answer) → Prop) : Prop :=
  ∀ past history result, before past → Yields client history result →
    Checked condition past history ∧
      ∀ value, result = .ok value → after value (past ++ history)

section Conditions

variable
  {condition : List (Exchange Query Answer) → Exchange Query Answer → Prop}
  {before : List (Exchange Query Answer) → Prop}

theorem checked_append {past first second : List (Exchange Query Answer)} :
    Checked condition past (first ++ second) ↔
      Checked condition past first ∧
        Checked condition (past ++ first) second := by
  induction first generalizing past with
  | nil => simp [Checked]
  | cons exchange rest inductionHypothesis =>
      rw [List.cons_append, Checked, Checked, inductionHypothesis, and_assoc,
        List.append_assoc, List.singleton_append]

theorem Meets.imp {client : Client Query Answer Failure α}
    {narrower : List (Exchange Query Answer) → Prop}
    {after wider : α → List (Exchange Query Answer) → Prop}
    (meets : Meets condition before client after)
    (first : ∀ past, narrower past → before past)
    (last : ∀ value past, after value past → wider value past) :
    Meets condition narrower client wider := by
  intro past history result holds yields
  rcases meets past history result (first past holds) yields with
    ⟨checked, ends⟩
  exact ⟨checked, fun value same => last value _ (ends value same)⟩

/-- A property of the past that is a fact is a hypothesis. -/
theorem Meets.of_fact {fact : Prop} {client : Client Query Answer Failure α}
    {after : α → List (Exchange Query Answer) → Prop}
    (meets : fact → Meets condition (fun _ => True) client after) :
    Meets condition (fun _ => fact) client after :=
  fun past history result holds yields =>
    meets holds past history result trivial yields

theorem Meets.lift {result : Except Failure α}
    {after : α → List (Exchange Query Answer) → Prop}
    (holds : ∀ value past, result = .ok value → before past →
      after value past) :
    Meets condition before (Client.lift result) after := by
  intro past history ended initial yields
  rcases yields_lift.1 yields with ⟨rfl, rfl⟩
  refine ⟨trivial, fun value same => ?_⟩
  rw [List.append_nil]
  exact holds value past same initial

theorem Meets.pure {value : α}
    {after : α → List (Exchange Query Answer) → Prop}
    (holds : ∀ past, before past → after value past) :
    Meets condition before
      (Pure.pure value : Client Query Answer Failure α) after := by
  refine Meets.lift fun held past same initial => ?_
  cases same
  exact holds past initial

theorem Meets.query {query : Query} {result : Answer query → Except Failure α}
    {after : α → List (Exchange Query Answer) → Prop}
    (asked : ∀ past answer, before past → condition past ⟨query, answer⟩)
    (holds : ∀ past answer value, before past → result answer = .ok value →
      after value (past ++ [⟨query, answer⟩])) :
    Meets condition before (Client.query query result) after := by
  intro past history ended initial yields
  rcases yields_query.1 yields with ⟨answer, rfl, rfl⟩
  refine ⟨⟨asked past answer initial, trivial⟩, fun value same => ?_⟩
  exact holds past answer value initial same

theorem Meets.bind {first : Client Query Answer Failure α}
    {second : α → Client Query Answer Failure β}
    {middle : α → List (Exchange Query Answer) → Prop}
    {after : β → List (Exchange Query Answer) → Prop}
    (starts : Meets condition before first middle)
    (goesOn : ∀ value, Meets condition (middle value) (second value) after) :
    Meets condition before (first >>= second) after := by
  intro past history result initial yields
  rcases yields_bind.1 yields with
    ⟨failure, fails, rfl⟩ | ⟨value, earlier, later, rfl, ok, rest⟩
  · refine ⟨(starts past history _ initial fails).1, fun value same => ?_⟩
    cases same
  · rcases starts past earlier _ initial ok with ⟨checked, ends⟩
    rcases goesOn value _ later result (ends value rfl) rest with
      ⟨further, finish⟩
    refine ⟨checked_append.2 ⟨checked, further⟩, fun last same => ?_⟩
    rw [← List.append_assoc]
    exact finish last same

theorem Meets.each {item : Type}
    {act : item → Client Query Answer Failure Unit} {items : List item}
    (keeps : ∀ each ∈ items,
      Meets condition before (act each) fun _ => before) :
    Meets condition before (Client.each act items) fun _ => before := by
  induction items with
  | nil => exact Meets.pure fun _ holds => holds
  | cons head rest inductionHypothesis =>
      refine Meets.bind (keeps head List.mem_cons_self) fun _ => ?_
      exact inductionHypothesis fun each member =>
        keeps each (List.mem_cons_of_mem head member)

/-- Every exchange of a run from the start meets the condition. -/
theorem Meets.exchange {client : Client Query Answer Failure α}
    {after : α → List (Exchange Query Answer) → Prop}
    (meets : Meets condition before client after) (initial : before [])
    {history earlier later : List (Exchange Query Answer)}
    {result : Except Failure α} {exchange : Exchange Query Answer}
    (yields : Yields client history result)
    (split : history = earlier ++ exchange :: later) :
    condition earlier exchange := by
  have checked := (meets [] history result initial yields).1
  rw [split, checked_append] at checked
  exact checked.2.1

end Conditions

end AerialRescue.Lib.Clients
