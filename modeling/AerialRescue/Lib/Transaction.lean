import Mathlib.Tactic.Common

/-!
# Transactions over an explicit store

A transaction body runs against a working copy of a durable store.  It may
raise at any step, and the working copy then still holds everything written
before the step that raised.  `atomically` is the session boundary around such
a body: the working copy becomes the durable state when the body returns, and
is discarded when the body raises.

The module is generic in the store, the exception and the result.
-/

namespace AerialRescue.Lib.Transaction

variable {σ ε α β : Type}

/-- A fallible computation on a working copy of a store. -/
abbrev Tx (σ ε α : Type) : Type :=
  ExceptT ε (StateM σ) α

/-- The outcome of a computation together with the working copy it leaves. -/
def exec (body : Tx σ ε α) (state : σ) : Except ε α × σ :=
  body.run state

/-- Raise an exception, keeping the working copy as it is. -/
def raise (failure : ε) : Tx σ ε α :=
  throw failure

/-- Read the working copy. -/
def read : Tx σ ε σ :=
  get

/-- Replace the working copy. -/
def write (next : σ) : Tx σ ε Unit :=
  set next

/-- Raise `failure` unless the condition holds. -/
def require (condition : Prop) [Decidable condition] (failure : ε) :
    Tx σ ε Unit :=
  if condition then pure () else raise failure

/-- Continue with a present value, or raise `failure`. -/
def demand (value : Option α) (failure : ε) : Tx σ ε α :=
  match value with
  | some found => pure found
  | none => raise failure

/-- Continue with a pure result, renaming its exception. -/
def lift {δ : Type} (rename : δ → ε) (value : Except δ α) : Tx σ ε α :=
  match value with
  | .ok found => pure found
  | .error failure => raise (rename failure)

/-- Run a body whose exceptions are those of another layer. -/
def rethrow {δ : Type} (rename : δ → ε) (body : Tx σ δ α) : Tx σ ε α :=
  fun state =>
    match exec body state with
    | (.ok value, final) => (.ok value, final)
    | (.error failure, final) => (.error (rename failure), final)

/-- Run a body and answer one kind of its exceptions. -/
def recover (body : Tx σ ε α) (handler : ε → Option (Tx σ ε α)) :
    Tx σ ε α :=
  fun state =>
    match exec body state with
    | (.ok value, final) => (.ok value, final)
    | (.error failure, final) =>
        match handler failure with
        | some answer => exec answer final
        | none => (.error failure, final)

/-! ## Execution of the primitive steps -/

@[simp]
theorem exec_pure (value : α) (state : σ) :
    exec (pure value : Tx σ ε α) state = (.ok value, state) :=
  rfl

@[simp]
theorem exec_raise (failure : ε) (state : σ) :
    exec (raise failure : Tx σ ε α) state = (.error failure, state) :=
  rfl

@[simp]
theorem exec_read (state : σ) :
    exec (read : Tx σ ε σ) state = (.ok state, state) :=
  rfl

@[simp]
theorem exec_write (next state : σ) :
    exec (write next : Tx σ ε Unit) state = (.ok (), next) :=
  rfl

theorem exec_bind (body : Tx σ ε α) (next : α → Tx σ ε β) (state : σ) :
    exec (body >>= next) state =
      match exec body state with
      | (.ok value, middle) => exec (next value) middle
      | (.error failure, middle) => (.error failure, middle) := by
  rcases outcome : exec body state with ⟨result, middle⟩
  simp only [exec, ExceptT.run, bind, ExceptT.bind, ExceptT.mk, StateT.bind,
    ExceptT.bindCont] at outcome ⊢
  rw [outcome]
  cases result <;> rfl

@[simp]
theorem exec_ite (condition : Prop) [Decidable condition]
    (yes no : Tx σ ε α) (state : σ) :
    exec (if condition then yes else no) state =
      if condition then exec yes state else exec no state := by
  split <;> rfl

/-! ## Inversion of a sequence of steps -/

/-- A sequence returns exactly when each of its steps returns in turn. -/
theorem exec_bind_eq_ok
    {body : Tx σ ε α} {next : α → Tx σ ε β}
    {state final : σ} {result : β} :
    exec (body >>= next) state = (.ok result, final) ↔
      ∃ value middle,
        exec body state = (.ok value, middle) ∧
          exec (next value) middle = (.ok result, final) := by
  rw [exec_bind]
  rcases outcome : exec body state with ⟨first, middle⟩
  cases first with
  | ok value =>
      constructor
      · intro second
        exact ⟨value, middle, rfl, second⟩
      · rintro ⟨_, _, equal, second⟩
        cases equal
        exact second
  | error failure =>
      constructor
      · intro impossible
        simp at impossible
      · rintro ⟨_, _, equal, _⟩
        simp at equal

/-- A sequence raises at its first step, or at a later one after the first. -/
theorem exec_bind_eq_error
    {body : Tx σ ε α} {next : α → Tx σ ε β}
    {state final : σ} {failure : ε} :
    exec (body >>= next) state = (.error failure, final) ↔
      exec body state = (.error failure, final) ∨
        ∃ value middle,
          exec body state = (.ok value, middle) ∧
            exec (next value) middle = (.error failure, final) := by
  rw [exec_bind]
  rcases outcome : exec body state with ⟨first, middle⟩
  cases first with
  | ok value =>
      constructor
      · intro second
        exact Or.inr ⟨value, middle, rfl, second⟩
      · rintro (equal | ⟨_, _, equal, second⟩)
        · simp at equal
        · cases equal
          exact second
  | error _ =>
      constructor
      · intro equal
        exact Or.inl (by simpa using equal)
      · rintro (equal | ⟨_, _, equal, _⟩)
        · simpa using equal
        · simp at equal

theorem exec_bind_of_ok
    {body : Tx σ ε α} {next : α → Tx σ ε β}
    {state middle : σ} {value : α}
    (first : exec body state = (.ok value, middle)) :
    exec (body >>= next) state = exec (next value) middle := by
  rw [exec_bind, first]

theorem exec_bind_of_error
    {body : Tx σ ε α} {next : α → Tx σ ε β}
    {state middle : σ} {failure : ε}
    (first : exec body state = (.error failure, middle)) :
    exec (body >>= next) state = (.error failure, middle) := by
  rw [exec_bind, first]

@[simp]
theorem exec_require_eq_ok
    (condition : Prop) [Decidable condition]
    {failure : ε} {state final : σ} {result : Unit} :
    exec (require condition failure) state = (.ok result, final) ↔
      condition ∧ final = state := by
  by_cases holds : condition <;> simp [require, holds, eq_comm]

theorem exec_require_of {condition : Prop} [Decidable condition]
    (holds : condition) (failure : ε) (state : σ) :
    exec (require condition failure) state = (.ok (), state) :=
  (exec_require_eq_ok condition).2 ⟨holds, rfl⟩

@[simp]
theorem exec_demand_eq_ok
    {value : Option α} {failure : ε} {state final : σ} {result : α} :
    exec (demand value failure) state = (.ok result, final) ↔
      value = some result ∧ final = state := by
  cases value <;> simp [demand, eq_comm]

@[simp]
theorem exec_lift_eq_ok {δ : Type}
    {rename : δ → ε} {value : Except δ α}
    {state final : σ} {result : α} :
    exec (lift rename value) state = (.ok result, final) ↔
      value = .ok result ∧ final = state := by
  cases value <;> simp [lift, eq_comm]

@[simp]
theorem exec_lift_ok {δ : Type} (rename : δ → ε) (found : α) (state : σ) :
    exec (lift rename (.ok found)) state = (.ok found, state) :=
  rfl

@[simp]
theorem exec_lift_error {δ : Type} (rename : δ → ε) (failure : δ)
    (state : σ) :
    exec (lift rename (.error failure : Except δ α)) state =
      (.error (rename failure), state) :=
  rfl

@[simp]
theorem exec_require_eq_error
    (condition : Prop) [Decidable condition]
    {failure raised : ε} {state final : σ} :
    exec (require condition failure) state = (.error raised, final) ↔
      ¬condition ∧ raised = failure ∧ final = state := by
  by_cases holds : condition <;> simp [require, holds, eq_comm]

@[simp]
theorem exec_demand_eq_error
    {value : Option α} {failure raised : ε} {state final : σ} :
    exec (demand value failure) state = (.error raised, final) ↔
      value = none ∧ raised = failure ∧ final = state := by
  cases value <;> simp [demand, eq_comm]

@[simp]
theorem exec_lift_eq_error {δ : Type}
    {rename : δ → ε} {value : Except δ α} {raised : ε}
    {state final : σ} :
    exec (lift rename value) state = (.error raised, final) ↔
      (∃ failure, value = .error failure ∧ raised = rename failure) ∧
        final = state := by
  cases value <;> simp [lift, eq_comm]

theorem exec_rethrow {δ : Type} (rename : δ → ε) (body : Tx σ δ α)
    (state : σ) :
    exec (rethrow rename body) state =
      match exec body state with
      | (.ok value, final) => (.ok value, final)
      | (.error failure, final) => (.error (rename failure), final) :=
  rfl

@[simp]
theorem exec_rethrow_eq_ok {δ : Type} {rename : δ → ε} {body : Tx σ δ α}
    {state final : σ} {result : α} :
    exec (rethrow rename body) state = (.ok result, final) ↔
      exec body state = (.ok result, final) := by
  rw [exec_rethrow]
  rcases exec body state with ⟨outcome, middle⟩
  cases outcome <;> simp

@[simp]
theorem exec_rethrow_eq_error {δ : Type} {rename : δ → ε}
    {body : Tx σ δ α} {state final : σ} {raised : ε} :
    exec (rethrow rename body) state = (.error raised, final) ↔
      ∃ failure,
        exec body state = (.error failure, final) ∧
          raised = rename failure := by
  rw [exec_rethrow]
  rcases exec body state with ⟨outcome, middle⟩
  cases outcome with
  | ok value => simp
  | error failure =>
      simp only [Prod.mk.injEq, Except.error.injEq]
      constructor
      · rintro ⟨rfl, rfl⟩
        exact ⟨failure, ⟨rfl, rfl⟩, rfl⟩
      · rintro ⟨_, ⟨rfl, rfl⟩, rfl⟩
        exact ⟨rfl, rfl⟩

theorem exec_recover (body : Tx σ ε α)
    (handler : ε → Option (Tx σ ε α)) (state : σ) :
    exec (recover body handler) state =
      match exec body state with
      | (.ok value, final) => (.ok value, final)
      | (.error failure, final) =>
          match handler failure with
          | some answer => exec answer final
          | none => (.error failure, final) :=
  rfl

/-! ## The session boundary -/

/--
Run a body as one transaction: commit its working copy when it returns, and
restore the durable state when it raises.
-/
def atomically (body : Tx σ ε α) : Tx σ ε α :=
  fun state =>
    match exec body state with
    | (.ok value, final) => (.ok value, final)
    | (.error failure, _) => (.error failure, state)

@[simp]
theorem exec_atomically_eq_ok
    {body : Tx σ ε α} {state final : σ} {result : α} :
    exec (atomically body) state = (.ok result, final) ↔
      exec body state = (.ok result, final) := by
  rcases outcome : exec body state with ⟨first, middle⟩
  cases first <;> simp [exec, atomically, ExceptT.run] at outcome ⊢ <;>
    simp [outcome]

/-- A transaction that raises leaves the durable state as it found it. -/
theorem atomically_rolls_back
    {body : Tx σ ε α} {state final : σ} {failure : ε}
    (raised : exec (atomically body) state = (.error failure, final)) :
    final = state := by
  rcases outcome : exec body state with ⟨first, middle⟩
  simp only [exec, atomically, ExceptT.run] at outcome raised
  rw [outcome] at raised
  cases first with
  | ok value => simp at raised
  | error _ =>
      simp only [Prod.mk.injEq] at raised
      exact raised.2.symm

/-- What escapes a transaction escaped its body. -/
theorem atomically_raises
    {body : Tx σ ε α} {state final : σ} {failure : ε}
    (raised : exec (atomically body) state = (.error failure, final)) :
    ∃ middle, exec body state = (.error failure, middle) := by
  rcases outcome : exec body state with ⟨first, middle⟩
  simp only [exec, atomically, ExceptT.run] at outcome raised
  rw [outcome] at raised
  cases first with
  | ok value => simp at raised
  | error other =>
      simp only [Prod.mk.injEq, Except.error.injEq] at raised
      rw [raised.1]
      exact ⟨middle, rfl⟩

/-- A transaction raises what its body raises, from where it started. -/
theorem exec_atomically_eq_error
    {body : Tx σ ε α} {state final : σ} {failure : ε} :
    exec (atomically body) state = (.error failure, final) ↔
      (∃ middle, exec body state = (.error failure, middle)) ∧
        final = state := by
  constructor
  · intro raised
    exact ⟨atomically_raises raised, atomically_rolls_back raised⟩
  · rintro ⟨⟨middle, raised⟩, rfl⟩
    simp only [exec, atomically, ExceptT.run] at raised ⊢
    rw [raised]

/-! ## Bodies that return -/

/-- The body returns from a state, whatever it returns. -/
def Succeeds (body : Tx σ ε α) (state : σ) : Prop :=
  ∃ value final, exec body state = (.ok value, final)

@[simp]
theorem succeeds_pure (value : α) (state : σ) :
    Succeeds (pure value : Tx σ ε α) state :=
  ⟨value, state, rfl⟩

@[simp]
theorem not_succeeds_raise (failure : ε) (state : σ) :
    ¬Succeeds (raise failure : Tx σ ε α) state := by
  rintro ⟨_, _, returned⟩
  simp at returned

/-- A sequence returns exactly when what follows its first value does. -/
theorem succeeds_bind {body : Tx σ ε α} {next : α → Tx σ ε β} {state : σ} :
    Succeeds (body >>= next) state ↔
      ∃ value middle,
        exec body state = (.ok value, middle) ∧
          Succeeds (next value) middle := by
  simp only [Succeeds, exec_bind_eq_ok]
  constructor
  · rintro ⟨result, final, value, middle, first, second⟩
    exact ⟨value, middle, first, result, final, second⟩
  · rintro ⟨value, middle, first, result, final, second⟩
    exact ⟨result, final, value, middle, first, second⟩

theorem succeeds_bind_of_ok {body : Tx σ ε α} {next : α → Tx σ ε β}
    {state middle : σ} {value : α}
    (first : exec body state = (.ok value, middle)) :
    Succeeds (body >>= next) state ↔ Succeeds (next value) middle := by
  simp only [Succeeds, exec_bind_of_ok first]

/-- A pure result in hand, nothing else can raise. -/
theorem succeeds_lift_pure {δ : Type} {rename : δ → ε}
    {value : Except δ α} {answer : α → β} {state : σ} :
    Succeeds (lift rename value >>= fun found => pure (answer found))
        state ↔
      ∃ found, value = .ok found := by
  simp only [succeeds_bind, exec_lift_eq_ok, succeeds_pure, and_true]
  constructor
  · rintro ⟨found, _, returned, _⟩
    exact ⟨found, returned⟩
  · rintro ⟨found, returned⟩
    exact ⟨found, state, returned, rfl⟩

theorem succeeds_rethrow {δ : Type} {rename : δ → ε} {body : Tx σ δ α}
    {state : σ} :
    Succeeds (rethrow rename body) state ↔ Succeeds body state := by
  simp [Succeeds]

theorem succeeds_ite {condition : Prop} [Decidable condition]
    {yes no : Tx σ ε α} {state : σ} :
    Succeeds (if condition then yes else no) state ↔
      if condition then Succeeds yes state else Succeeds no state := by
  split <;> rfl

/-! ## Relations every step of a body respects -/

/--
Every outcome of the body, also a raise, leaves a working copy related to the
one it started from.
-/
def Respects (relation : σ → σ → Prop) (body : Tx σ ε α) : Prop :=
  ∀ state, relation state (exec body state).2

section Respects

variable {relation : σ → σ → Prop}

theorem Respects.of_same
    (reflexive : ∀ state, relation state state)
    {body : Tx σ ε α} (same : ∀ state, (exec body state).2 = state) :
    Respects relation body := by
  intro state
  rw [same]
  exact reflexive state

theorem Respects.bind
    (transitive :
      ∀ first second third,
        relation first second → relation second third →
          relation first third)
    {body : Tx σ ε α} {next : α → Tx σ ε β}
    (first : Respects relation body)
    (second : ∀ value, Respects relation (next value)) :
    Respects relation (body >>= next) := by
  intro state
  have related := first state
  rw [exec_bind]
  rcases outcome : exec body state with ⟨result, middle⟩
  rw [outcome] at related
  cases result with
  | ok value => exact transitive _ _ _ related (second value middle)
  | error failure => exact related

end Respects

/-! ## What a body can raise -/

/-- Every exception that escapes the body is an allowed one. -/
def RaisesOnly (allowed : ε → Prop) (body : Tx σ ε α) : Prop :=
  ∀ state failure final,
    exec body state = (.error failure, final) → allowed failure

section RaisesOnly

variable {allowed : ε → Prop}

theorem RaisesOnly.pure (value : α) :
    RaisesOnly allowed (Pure.pure value : Tx σ ε α) := by
  intro state failure final raised
  simp at raised

theorem RaisesOnly.read : RaisesOnly allowed (read : Tx σ ε σ) := by
  intro state failure final raised
  simp at raised

theorem RaisesOnly.write (next : σ) :
    RaisesOnly allowed (write next : Tx σ ε Unit) := by
  intro state failure final raised
  simp at raised

theorem RaisesOnly.require {condition : Prop} [Decidable condition]
    {failure : ε} (permitted : allowed failure) :
    RaisesOnly allowed (require condition failure : Tx σ ε Unit) := by
  intro state raised final outcome
  rw [exec_require_eq_error] at outcome
  rcases outcome with ⟨_, rfl, _⟩
  exact permitted

theorem RaisesOnly.demand {value : Option α} {failure : ε}
    (permitted : allowed failure) :
    RaisesOnly allowed (demand value failure : Tx σ ε α) := by
  intro state raised final outcome
  rw [exec_demand_eq_error] at outcome
  rcases outcome with ⟨_, rfl, _⟩
  exact permitted

theorem RaisesOnly.lift {δ : Type} {rename : δ → ε} {value : Except δ α}
    (permitted :
      ∀ failure, value = .error failure → allowed (rename failure)) :
    RaisesOnly allowed (lift rename value : Tx σ ε α) := by
  intro state raised final outcome
  rw [exec_lift_eq_error] at outcome
  rcases outcome with ⟨⟨failure, refused, rfl⟩, _⟩
  exact permitted failure refused

theorem RaisesOnly.bind {body : Tx σ ε α} {next : α → Tx σ ε β}
    (first : RaisesOnly allowed body)
    (second : ∀ value, RaisesOnly allowed (next value)) :
    RaisesOnly allowed (body >>= next) := by
  intro state failure final raised
  rw [exec_bind_eq_error] at raised
  rcases raised with early | ⟨value, middle, _, late⟩
  · exact first state failure final early
  · exact second value middle failure final late

theorem RaisesOnly.rethrow {δ : Type} {rename : δ → ε}
    {below : δ → Prop} {body : Tx σ δ α} (first : RaisesOnly below body)
    (permitted : ∀ failure, below failure → allowed (rename failure)) :
    RaisesOnly allowed (rethrow rename body) := by
  intro state raised final outcome
  rw [exec_rethrow_eq_error] at outcome
  rcases outcome with ⟨failure, refused, rfl⟩
  exact permitted failure (first state failure final refused)

end RaisesOnly

end AerialRescue.Lib.Transaction
