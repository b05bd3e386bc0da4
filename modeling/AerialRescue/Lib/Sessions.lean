import Mathlib.Data.List.Basic
import Mathlib.Logic.Function.Basic

/-!
# Sessions over locked cells

A store of cells that concurrent sessions read and write.  A statement
addresses one cell.  One that writes takes the lock of the cell, and its
session keeps the lock, and its own version of the cell, until it commits or
rolls back; one that writes nothing reads the session's own version or the
committed one, and needs no lock.

Whatever the interleaving, the committed writes of a cell are a serial
execution of them in commit order, and what a session sees of a cell continues
that execution by the session's own writes.  An invariant of a cell is then an
invariant of serial executions.

The module is generic in the sessions, the cells and the statements.
-/

namespace AerialRescue.Lib.Sessions

variable {σ κ ν α β : Type}

/-- The cell of a statement, its answer there, and what it writes, if it does. -/
structure Statements (κ ν α β : Type) where
  key : α → κ
  answer : α → ν → β
  writes : α → ν → Option ν

/-! ## Serial execution -/

/-- Writes executed one after another on one cell, with their answers. -/
def Replays (statements : Statements κ ν α β) : ν → List (α × β) → ν → Prop
  | first, [], last => first = last
  | first, (statement, answer) :: rest, last =>
      ∃ next,
        statements.writes statement first = some next ∧
          statements.answer statement first = answer ∧
          Replays statements next rest last

section Serial

variable {statements : Statements κ ν α β}

theorem Replays.refl (value : ν) : Replays statements value [] value :=
  rfl

theorem Replays.append {first middle last : ν} {left right : List (α × β)}
    (before : Replays statements first left middle)
    (after : Replays statements middle right last) :
    Replays statements first (left ++ right) last := by
  induction left generalizing first with
  | nil =>
      cases before
      exact after
  | cons entry rest inductionHypothesis =>
      rcases before with ⟨next, written, answered, later⟩
      exact ⟨next, written, answered, inductionHypothesis later⟩

theorem Replays.split {first last : ν} {left right : List (α × β)}
    (replays : Replays statements first (left ++ right) last) :
    ∃ middle,
      Replays statements first left middle ∧
        Replays statements middle right last := by
  induction left generalizing first with
  | nil => exact ⟨first, rfl, replays⟩
  | cons entry rest inductionHypothesis =>
      rcases replays with ⟨next, written, answered, later⟩
      rcases inductionHypothesis later with ⟨middle, before, after⟩
      exact ⟨middle, ⟨next, written, answered, before⟩, after⟩

theorem Replays.snoc {first last next : ν} {entries : List (α × β)}
    {statement : α} (replays : Replays statements first entries last)
    (written : statements.writes statement last = some next) :
    Replays statements first
      (entries ++ [(statement, statements.answer statement last)]) next :=
  replays.append ⟨next, written, rfl, rfl⟩

/-- What every write of the entries keeps, their execution keeps. -/
theorem Replays.keeps {invariant : ν → Prop} {first last : ν}
    {entries : List (α × β)}
    (keeps : ∀ entry ∈ entries, ∀ value next, invariant value →
      statements.writes entry.1 value = some next → invariant next)
    (replays : Replays statements first entries last)
    (initial : invariant first) : invariant last := by
  induction entries generalizing first with
  | nil =>
      cases replays
      exact initial
  | cons entry rest inductionHypothesis =>
      rcases replays with ⟨next, written, _, later⟩
      exact inductionHypothesis
        (fun other member => keeps other (List.mem_cons_of_mem _ member))
        later (keeps entry List.mem_cons_self first next initial written)

variable [DecidableEq κ]

/-- The entries that address one cell. -/
def entriesAt (statements : Statements κ ν α β) (key : κ)
    (entries : List (α × β)) : List (α × β) :=
  entries.filter fun entry => decide (statements.key entry.1 = key)

theorem mem_entriesAt {key : κ} {entries : List (α × β)} {entry : α × β} :
    entry ∈ entriesAt statements key entries ↔
      entry ∈ entries ∧ statements.key entry.1 = key := by
  simp [entriesAt]

theorem entriesAt_append (key : κ) (left right : List (α × β)) :
    entriesAt statements key (left ++ right) =
      entriesAt statements key left ++ entriesAt statements key right :=
  List.filter_append ..

theorem entriesAt_single (key : κ) (statement : α) (answer : β) :
    entriesAt statements key [(statement, answer)] =
      if statements.key statement = key then [(statement, answer)]
      else [] := by
  by_cases same : statements.key statement = key <;> simp [entriesAt, same]

end Serial

/-! ## Engines -/

/-- Committed cells, the cells each session holds, and what was written. -/
structure Engine (σ κ ν α β : Type) where
  committed : κ → ν
  held : σ → κ → Option ν
  log : σ → List (α × β)
  history : List (α × β)

namespace Engine

/-- No session is open. -/
def start (initial : κ → ν) : Engine σ κ ν α β where
  committed := initial
  held := fun _ _ => none
  log := fun _ => []
  history := []

/-- What a session sees of a cell: its own version or the committed one. -/
def view (engine : Engine σ κ ν α β) (session : σ) (key : κ) : ν :=
  (engine.held session key).getD (engine.committed key)

/-- No other session holds the cell. -/
def Free (engine : Engine σ κ ν α β) (session : σ) (key : κ) : Prop :=
  ∀ other, other ≠ session → engine.held other key = none

variable [DecidableEq σ] [DecidableEq κ]

/-- A session's version of the cell of a statement becomes the next value. -/
def wrote (engine : Engine σ κ ν α β) (statements : Statements κ ν α β)
    (session : σ) (statement : α) (next : ν) : Engine σ κ ν α β where
  committed := engine.committed
  held := Function.update engine.held session
    (Function.update (engine.held session) (statements.key statement)
      (some next))
  log := Function.update engine.log session
    (engine.log session ++
      [(statement, statements.answer statement
        (engine.view session (statements.key statement)))])
  history := engine.history

/-- The session's versions become the committed ones, its locks are free. -/
def commit (engine : Engine σ κ ν α β) (session : σ) :
    Engine σ κ ν α β where
  committed := engine.view session
  held := Function.update engine.held session fun _ => none
  log := Function.update engine.log session []
  history := engine.history ++ engine.log session

/-- The session's versions are discarded, its locks are free. -/
def rollback (engine : Engine σ κ ν α β) (session : σ) :
    Engine σ κ ν α β where
  committed := engine.committed
  held := Function.update engine.held session fun _ => none
  log := Function.update engine.log session []
  history := engine.history

end Engine

variable [DecidableEq κ] [DecidableEq σ]

/-- One step of one session. -/
inductive Step (statements : Statements κ ν α β) :
    Engine σ κ ν α β → Engine σ κ ν α β → Prop
  | read {engine : Engine σ κ ν α β} {session : σ} {statement : α}
      (silent :
        statements.writes statement
          (engine.view session (statements.key statement)) = none) :
      Step statements engine engine
  | write {engine : Engine σ κ ν α β} {session : σ} {statement : α} {next : ν}
      (free : engine.Free session (statements.key statement))
      (writes :
        statements.writes statement
          (engine.view session (statements.key statement)) = some next) :
      Step statements engine (engine.wrote statements session statement next)
  | commit {engine : Engine σ κ ν α β} {session : σ} :
      Step statements engine (engine.commit session)
  | rollback {engine : Engine σ κ ν α β} {session : σ} :
      Step statements engine (engine.rollback session)

/-- The engines that interleaved sessions reach. -/
inductive Steps (statements : Statements κ ν α β) :
    Engine σ κ ν α β → Engine σ κ ν α β → Prop
  | refl (engine : Engine σ κ ν α β) : Steps statements engine engine
  | tail {first middle last : Engine σ κ ν α β} :
      Steps statements first middle → Step statements middle last →
        Steps statements first last

/-! ## Commit order is a serial order -/

variable {statements : Statements κ ν α β}

/-- Every cell's writes are serial: first the committed, then a session's. -/
structure Serial (statements : Statements κ ν α β) (initial : κ → ν)
    (engine : Engine σ κ ν α β) : Prop where
  exclusive : ∀ left right key,
    engine.held left key ≠ none → engine.held right key ≠ none → left = right
  past : ∀ key,
    Replays statements (initial key)
      (entriesAt statements key engine.history) (engine.committed key)
  present : ∀ session key,
    Replays statements (engine.committed key)
      (entriesAt statements key (engine.log session))
      (engine.view session key)
  unheld : ∀ session key, engine.held session key = none →
    entriesAt statements key (engine.log session) = []

omit [DecidableEq σ] in
theorem serial_start (initial : κ → ν) :
    Serial statements initial (Engine.start initial : Engine σ κ ν α β) where
  exclusive := fun _ _ _ held => absurd rfl held
  past := fun _ => rfl
  present := fun _ _ => rfl
  unheld := fun _ _ _ => rfl

namespace Engine

variable {engine : Engine σ κ ν α β} {session other : σ} {key : κ}
  {statement : α} {next : ν}

omit [DecidableEq κ] [DecidableEq σ] in
theorem view_unheld (unheld : engine.held session key = none) :
    engine.view session key = engine.committed key := by
  simp [view, unheld]

theorem wrote_view_same :
    (engine.wrote statements session statement next).view session
        (statements.key statement) = next := by
  simp [view, wrote]

theorem wrote_held_cell (different : key ≠ statements.key statement) :
    (engine.wrote statements session statement next).held session key =
      engine.held session key := by
  simp [wrote, different]

theorem wrote_held_other (different : other ≠ session) :
    (engine.wrote statements session statement next).held other =
      engine.held other := by
  simp [wrote, different]

theorem wrote_log_same :
    (engine.wrote statements session statement next).log session =
      engine.log session ++
        [(statement, statements.answer statement
          (engine.view session (statements.key statement)))] := by
  simp [wrote]

theorem wrote_log_other (different : other ≠ session) :
    (engine.wrote statements session statement next).log other =
      engine.log other := by
  simp [wrote, different]

omit [DecidableEq κ] in
/-- A cell that is held after a session ended was held before. -/
theorem held_of_released
    (held :
      Function.update engine.held session (fun _ => none) other key ≠ none) :
    engine.held other key ≠ none := by
  by_cases own : other = session
  · subst own
    simp at held
  · rwa [Function.update_of_ne own] at held

end Engine

theorem Serial.wrote {initial : κ → ν} {engine : Engine σ κ ν α β}
    {session : σ} {statement : α} {next : ν}
    (serial : Serial statements initial engine)
    (free : engine.Free session (statements.key statement))
    (writes :
      statements.writes statement
        (engine.view session (statements.key statement)) = some next) :
    Serial statements initial
      (engine.wrote statements session statement next) where
  exclusive := by
    have holder : ∀ holding key,
        (engine.wrote statements session statement next).held holding key ≠
            none →
          engine.held holding key ≠ none ∨
            holding = session ∧ key = statements.key statement := by
      intro holding key held
      by_cases own : holding = session
      · subst own
        by_cases cell : key = statements.key statement
        · exact .inr ⟨rfl, cell⟩
        · rw [Engine.wrote_held_cell cell] at held
          exact .inl held
      · rw [Engine.wrote_held_other own] at held
        exact .inl held
    intro left right key leftHeld rightHeld
    rcases holder left key leftHeld with leftOld | ⟨rfl, rfl⟩
    · rcases holder right key rightHeld with rightOld | ⟨rfl, rfl⟩
      · exact serial.exclusive left right key leftOld rightOld
      · by_contra different
        exact leftOld (free left different)
    · rcases holder right _ rightHeld with rightOld | ⟨rfl, _⟩
      · by_contra different
        exact rightOld (free right (Ne.symm different))
      · rfl
  past := serial.past
  present := by
    intro holding key
    by_cases own : holding = session
    · subst own
      rw [Engine.wrote_log_same, entriesAt_append, entriesAt_single]
      by_cases cell : statements.key statement = key
      · subst cell
        rw [if_pos rfl, Engine.wrote_view_same]
        exact (serial.present holding _).snoc writes
      · have same :
            (engine.wrote statements holding statement next).view holding
                key = engine.view holding key := by
          simp only [Engine.view,
            Engine.wrote_held_cell (Ne.symm cell)]
          rfl
        rw [if_neg cell, List.append_nil, same]
        exact serial.present holding key
    · have same :
          (engine.wrote statements session statement next).view holding key =
            engine.view holding key := by
        simp only [Engine.view, Engine.wrote_held_other own]
        rfl
      rw [Engine.wrote_log_other own, same]
      exact serial.present holding key
  unheld := by
    intro holding key held
    by_cases own : holding = session
    · subst own
      by_cases cell : key = statements.key statement
      · subst cell
        simp [Engine.wrote] at held
      · rw [Engine.wrote_held_cell cell] at held
        rw [Engine.wrote_log_same, entriesAt_append, entriesAt_single,
          if_neg (Ne.symm cell), List.append_nil]
        exact serial.unheld holding key held
    · rw [Engine.wrote_held_other own] at held
      rw [Engine.wrote_log_other own]
      exact serial.unheld holding key held

theorem Serial.commit {initial : κ → ν} {engine : Engine σ κ ν α β}
    (serial : Serial statements initial engine) (session : σ) :
    Serial statements initial (engine.commit session) where
  exclusive := by
    intro left right key leftHeld rightHeld
    exact serial.exclusive left right key (Engine.held_of_released leftHeld)
      (Engine.held_of_released rightHeld)
  past := by
    intro key
    simp only [Engine.commit, entriesAt_append]
    exact (serial.past key).append (serial.present session key)
  present := by
    intro holding key
    by_cases own : holding = session
    · subst own
      simp [Engine.commit, Engine.view, entriesAt, Replays]
    · simp only [Engine.commit, Engine.view, Function.update_of_ne own]
      cases held : engine.held holding key with
      | none =>
          rw [serial.unheld holding key held]
          exact .refl _
      | some value =>
          have free : engine.held session key = none := by
            by_contra taken
            exact own (serial.exclusive holding session key (by simp [held])
              taken)
          have present := serial.present holding key
          simp only [Engine.view, held, Option.getD_some] at present
          simpa [free] using present
  unheld := by
    intro holding key held
    by_cases own : holding = session
    · subst own
      simp [Engine.commit, entriesAt]
    · simp only [Engine.commit, Function.update_of_ne own] at held ⊢
      exact serial.unheld holding key held

theorem Serial.rollback {initial : κ → ν} {engine : Engine σ κ ν α β}
    (serial : Serial statements initial engine) (session : σ) :
    Serial statements initial (engine.rollback session) where
  exclusive := by
    intro left right key leftHeld rightHeld
    exact serial.exclusive left right key (Engine.held_of_released leftHeld)
      (Engine.held_of_released rightHeld)
  past := serial.past
  present := by
    intro holding key
    by_cases own : holding = session
    · subst own
      simp [Engine.rollback, Engine.view, entriesAt, Replays]
    · have present := serial.present holding key
      simpa only [Engine.rollback, Engine.view,
        Function.update_of_ne own] using present
  unheld := by
    intro holding key held
    by_cases own : holding = session
    · subst own
      simp [Engine.rollback, entriesAt]
    · simp only [Engine.rollback, Function.update_of_ne own] at held ⊢
      exact serial.unheld holding key held

/-- No step of any session breaks the serial order. -/
theorem Serial.step {initial : κ → ν} {before after : Engine σ κ ν α β}
    (serial : Serial statements initial before)
    (step : Step statements before after) :
    Serial statements initial after := by
  cases step with
  | read => exact serial
  | write free writes => exact serial.wrote free writes
  | commit => exact serial.commit _
  | rollback => exact serial.rollback _

/--
In every interleaving of sessions the committed writes of each cell are one
serial execution in commit order, and each session sees its continuation by
the session's own writes.
-/
theorem Serial.steps {initial : κ → ν} {before after : Engine σ κ ν α β}
    (serial : Serial statements initial before)
    (steps : Steps statements before after) :
    Serial statements initial after := by
  induction steps with
  | refl => exact serial
  | tail _ step inductionHypothesis =>
      exact inductionHypothesis.step step

/-! ## Rules -/

omit [DecidableEq κ] [DecidableEq σ] in
/-- A cell's invariant: no statement on the cell breaks it. -/
def Keeps (statements : Statements κ ν α β) (key : κ)
    (invariant : ν → Prop) : Prop :=
  ∀ statement value next, statements.key statement = key →
    invariant value → statements.writes statement value = some next →
      invariant next

theorem Replays.keepsCell {key : κ} {invariant : ν → Prop} {first last : ν}
    {entries : List (α × β)} (keeps : Keeps statements key invariant)
    (replays :
      Replays statements first (entriesAt statements key entries) last)
    (initial : invariant first) : invariant last := by
  refine replays.keeps ?_ initial
  intro entry member value next held written
  exact keeps entry.1 value next (mem_entriesAt.1 member).2 held written

omit [DecidableEq σ] in
/-- What holds of a committed cell, every session sees of it. -/
theorem Serial.view {initial : κ → ν} {engine : Engine σ κ ν α β} {key : κ}
    {invariant : ν → Prop} (serial : Serial statements initial engine)
    (keeps : Keeps statements key invariant)
    (held : invariant (engine.committed key)) (session : σ) :
    invariant (engine.view session key) :=
  (serial.present session key).keepsCell keeps held

/-- What holds of a committed cell holds of it from then on. -/
theorem Serial.stays {initial : κ → ν} {before after : Engine σ κ ν α β}
    {key : κ} {invariant : ν → Prop}
    (serial : Serial statements initial before)
    (keeps : Keeps statements key invariant)
    (held : invariant (before.committed key))
    (steps : Steps statements before after) :
    invariant (after.committed key) := by
  induction steps with
  | refl => exact held
  | tail earlier step inductionHypothesis =>
      have reached := serial.steps earlier
      cases step with
      | read => exact inductionHypothesis
      | write => exact inductionHypothesis
      | commit => exact reached.view keeps inductionHypothesis _
      | rollback => exact inductionHypothesis

omit [DecidableEq σ] in
/-- What holds of every cell at the start holds of it in every run. -/
theorem Serial.committed {initial : κ → ν} {engine : Engine σ κ ν α β}
    {key : κ} {invariant : ν → Prop}
    (serial : Serial statements initial engine)
    (keeps : Keeps statements key invariant)
    (held : invariant (initial key)) : invariant (engine.committed key) :=
  (serial.past key).keepsCell keeps held

end AerialRescue.Lib.Sessions
