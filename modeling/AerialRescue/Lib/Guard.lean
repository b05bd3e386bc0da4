import Mathlib.Tactic.Common

/-!
# Guarded validators

A validator checks a value in a fixed order and refuses at the first check that
fails.  It is an `Except` computation; the lemmas of this module say when such
a computation returns, so that a proof takes the checks apart one by one and
never unfolds the monad.

The module is generic in the values and in the refusals.
-/

namespace AerialRescue.Lib.Guard

variable {ε α β : Type}

/-- Refuse unless the condition holds. -/
def ensure (condition : Prop) [Decidable condition] (refusal : ε) :
    Except ε Unit :=
  if condition then .ok () else .error refusal

/-- Continue with a present value, or refuse. -/
def present (value : Option α) (refusal : ε) : Except ε α :=
  match value with
  | some found => .ok found
  | none => .error refusal

/-- Return whatever a validator returns and rename every refusal. -/
def recast {δ : Type} (rename : δ → ε) : Except δ α → Except ε α
  | .ok value => .ok value
  | .error refusal => .error (rename refusal)

/-- Python's `and` between tests that may raise: the second runs on true. -/
def both (first second : Except ε Bool) : Except ε Bool :=
  match first with
  | .ok true => second
  | .ok false => .ok false
  | .error refusal => .error refusal

@[simp]
theorem both_eq_true {first second : Except ε Bool} :
    both first second = .ok true ↔ first = .ok true ∧ second = .ok true := by
  cases first with
  | error refusal => simp [both]
  | ok found => cases found <;> simp [both]

@[simp]
theorem bind_eq_ok {body : Except ε α} {next : α → Except ε β} {result : β} :
    (body >>= next) = .ok result ↔
      ∃ value, body = .ok value ∧ next value = .ok result := by
  cases body <;> simp [bind, Except.bind]

@[simp]
theorem pure_eq_ok {value result : α} :
    (pure value : Except ε α) = .ok result ↔ value = result := by
  simp [pure, Except.pure]

@[simp]
theorem ensure_eq_ok {condition : Prop} [Decidable condition]
    {refusal : ε} {result : Unit} :
    ensure condition refusal = .ok result ↔ condition := by
  by_cases holds : condition <;> simp [ensure, holds]

theorem ensure_of {condition : Prop} [Decidable condition] {refusal : ε}
    (holds : condition) : ensure condition refusal = .ok () :=
  if_pos holds

@[simp]
theorem present_eq_ok {value : Option α} {refusal : ε} {result : α} :
    present value refusal = .ok result ↔ value = some result := by
  cases value <;> simp [present]

theorem present_ite {condition : Prop} [Decidable condition] {value : α}
    {refusal : ε} :
    present (if condition then some value else none) refusal = (do
      ensure condition refusal
      Except.ok value) := by
  unfold present ensure
  split_ifs <;> rfl

@[simp]
theorem recast_eq_ok {δ : Type} {rename : δ → ε} {body : Except δ α}
    {result : α} :
    recast rename body = .ok result ↔ body = .ok result := by
  cases body <;> simp [recast]

theorem bind_eq_error {body : Except ε α} {next : α → Except ε β}
    {refusal : ε} :
    (body >>= next) = .error refusal ↔
      body = .error refusal ∨
        ∃ value, body = .ok value ∧ next value = .error refusal := by
  cases body <;> simp [bind, Except.bind]

theorem ensure_eq_error {condition : Prop} [Decidable condition]
    {refusal raised : ε} :
    ensure condition refusal = .error raised ↔
      ¬condition ∧ refusal = raised := by
  by_cases holds : condition <;> simp [ensure, holds]

theorem present_eq_error {value : Option α} {refusal raised : ε} :
    present value refusal = .error raised ↔
      value = none ∧ refusal = raised := by
  cases value <;> simp [present]

theorem recast_eq_error {δ : Type} {rename : δ → ε} {body : Except δ α}
    {raised : ε} :
    recast rename body = .error raised ↔
      ∃ refusal, body = .error refusal ∧ rename refusal = raised := by
  cases body <;> simp [recast]

theorem isOk_eq_true {body : Except ε α} :
    body.isOk = true ↔ ∃ value, body = .ok value := by
  cases body <;> simp [Except.isOk, Except.toBool]

/-- A loop of checks passes when each of them does. -/
theorem forM_eq_ok {check : α → Except ε Unit} {items : List α}
    {result : Unit} :
    items.forM check = .ok result ↔ ∀ item ∈ items, check item = .ok () := by
  induction items with
  | nil => exact iff_of_true rfl nofun
  | cons first rest inductionHypothesis =>
      have unfolds :
          (first :: rest).forM check =
            check first >>= fun _ => rest.forM check :=
        rfl
      rw [unfolds, bind_eq_ok, List.forall_mem_cons]
      constructor
      · rintro ⟨_, here, later⟩
        exact ⟨here, inductionHypothesis.1 later⟩
      · rintro ⟨here, later⟩
        exact ⟨(), here, inductionHypothesis.2 later⟩

/-- What a validator makes of an item of a list is among its results. -/
theorem mapM_ok_mem {validate : α → Except ε β} {items : List α}
    {results : List β} {item : α}
    (returned : items.mapM validate = .ok results) (member : item ∈ items) :
    ∃ result ∈ results, validate item = .ok result := by
  induction items generalizing results with
  | nil => cases member
  | cons first rest inductionHypothesis =>
      simp only [List.mapM_cons, bind_eq_ok, pure_eq_ok] at returned
      rcases returned with ⟨result, accepted, later, others, rfl⟩
      rcases List.mem_cons.1 member with rfl | inside
      · exact ⟨result, List.mem_cons_self, accepted⟩
      · rcases inductionHypothesis others inside with ⟨found, held, same⟩
        exact ⟨found, List.mem_cons_of_mem _ held, same⟩

/-- Every result of a validator is what it makes of some item. -/
theorem mapM_ok_source {validate : α → Except ε β} {items : List α}
    {results : List β} {result : β}
    (returned : items.mapM validate = .ok results)
    (member : result ∈ results) :
    ∃ item ∈ items, validate item = .ok result := by
  induction items generalizing results with
  | nil =>
      cases returned
      cases member
  | cons first rest inductionHypothesis =>
      simp only [List.mapM_cons, bind_eq_ok, pure_eq_ok] at returned
      rcases returned with ⟨found, accepted, later, others, rfl⟩
      rcases List.mem_cons.1 member with rfl | inside
      · exact ⟨first, List.mem_cons_self, accepted⟩
      · rcases inductionHypothesis others inside with ⟨item, held, same⟩
        exact ⟨item, List.mem_cons_of_mem _ held, same⟩

/-- A validator that accepts a list accepts every item of it. -/
theorem mapM_ok_of_mem {validate : α → Except ε β} {items : List α}
    {results : List β} {item : α}
    (returned : items.mapM validate = .ok results) (member : item ∈ items) :
    ∃ result, validate item = .ok result := by
  rcases mapM_ok_mem returned member with ⟨result, _, accepted⟩
  exact ⟨result, accepted⟩

/-- A validator that accepts every item returns what it makes of each. -/
theorem mapM_eq_ok_map {validate : α → Except ε β} {result : α → β}
    {items : List α}
    (each : ∀ item ∈ items, validate item = .ok (result item)) :
    items.mapM validate = .ok (items.map result) := by
  induction items with
  | nil => rfl
  | cons first rest inductionHypothesis =>
      rw [List.mapM_cons, each first List.mem_cons_self,
        inductionHypothesis
          (fun item member => each item (List.mem_cons_of_mem _ member))]
      rfl

/-! ## Validators that agree -/

/-- Two computations return the same value, or neither returns. -/
def Agree {δ : Type} (left : Except ε α) (right : Except δ α) : Prop :=
  ∀ value, left = .ok value ↔ right = .ok value

section Agreement

variable {δ : Type}

theorem Agree.refuse {refusal : ε} {other : δ} :
    Agree (.error refusal : Except ε α) (.error other : Except δ α) := by
  intro value
  exact iff_of_false nofun nofun

theorem Agree.bind {left : Except ε α} {right : Except δ α}
    {leftNext : α → Except ε β} {rightNext : α → Except δ β}
    (first : Agree left right)
    (rest : ∀ value, Agree (leftNext value) (rightNext value)) :
    Agree (left >>= leftNext) (right >>= rightNext) := by
  intro result
  simp only [bind_eq_ok]
  constructor
  · rintro ⟨value, returned, continued⟩
    exact ⟨value, (first value).1 returned, (rest value result).1 continued⟩
  · rintro ⟨value, returned, continued⟩
    exact ⟨value, (first value).2 returned, (rest value result).2 continued⟩

theorem Agree.pure (value : α) :
    Agree (Pure.pure value : Except ε α) (Pure.pure value : Except δ α) := by
  intro result
  rw [pure_eq_ok, pure_eq_ok]

theorem Agree.recast {left : Except ε α} {right : Except δ α} {γ ζ : Type}
    (agree : Agree left right) (rename : ε → γ) (other : δ → ζ) :
    Agree (Guard.recast rename left) (Guard.recast other right) := by
  intro value
  rw [recast_eq_ok, recast_eq_ok]
  exact agree value

theorem Agree.map {left : Except ε α} {right : Except δ α}
    (agree : Agree left right) (change : α → β) :
    Agree (left.map change) (right.map change) := by
  refine agree.bind fun value => ?_
  exact Agree.pure (change value)

/-- Validators that agree on every item of a list agree on the list. -/
theorem Agree.mapM {item : Type} {left : item → Except ε β}
    {right : item → Except δ β} {items : List item}
    (each : ∀ member ∈ items, Agree (left member) (right member)) :
    Agree (items.mapM left) (items.mapM right) := by
  induction items with
  | nil => exact Agree.pure []
  | cons first rest inductionHypothesis =>
      rw [List.mapM_cons, List.mapM_cons]
      refine Agree.bind (each first List.mem_cons_self) fun value => ?_
      refine Agree.bind (inductionHypothesis fun member among =>
        each member (List.mem_cons_of_mem _ among)) fun others => ?_
      exact Agree.pure (value :: others)

end Agreement

/-! ## What a validator refuses with -/

/-- Every refusal of the validator is an allowed one. -/
def FailsOnly (allowed : ε → Prop) (body : Except ε α) : Prop :=
  ∀ refusal, body = .error refusal → allowed refusal

variable {allowed : ε → Prop}

theorem FailsOnly.ok (value : α) :
    FailsOnly allowed (.ok value : Except ε α) := by
  intro refusal refused
  cases refused

theorem FailsOnly.error {refusal : ε} (holds : allowed refusal) :
    FailsOnly allowed (.error refusal : Except ε α) := by
  intro raised refused
  cases refused
  exact holds

theorem FailsOnly.imp {wider : ε → Prop} {body : Except ε α}
    (fails : FailsOnly allowed body)
    (wide : ∀ refusal, allowed refusal → wider refusal) :
    FailsOnly wider body :=
  fun refusal refused => wide refusal (fails refusal refused)

theorem FailsOnly.bind {body : Except ε α} {next : α → Except ε β}
    (first : FailsOnly allowed body)
    (rest : ∀ value, FailsOnly allowed (next value)) :
    FailsOnly allowed (body >>= next) := by
  intro refusal refused
  rcases bind_eq_error.1 refused with here | ⟨value, _, later⟩
  · exact first refusal here
  · exact rest value refusal later

/-- The rest may use what the first validator returned. -/
theorem FailsOnly.bindOf {body : Except ε α} {next : α → Except ε β}
    (first : FailsOnly allowed body)
    (rest : ∀ value, body = .ok value → FailsOnly allowed (next value)) :
    FailsOnly allowed (body >>= next) := by
  intro refusal refused
  rcases bind_eq_error.1 refused with here | ⟨value, returned, later⟩
  · exact first refusal here
  · exact rest value returned refusal later

theorem FailsOnly.map {body : Except ε α} {change : α → β}
    (first : FailsOnly allowed body) :
    FailsOnly allowed (body.map change) := by
  intro refusal refused
  cases body with
  | error raised =>
      cases refused
      exact first refusal rfl
  | ok value => cases refused

theorem FailsOnly.ensure {condition : Prop} [Decidable condition]
    {refusal : ε} (holds : allowed refusal) :
    FailsOnly allowed (ensure condition refusal) := by
  unfold Guard.ensure
  split
  · exact .ok ()
  · exact .error holds

theorem FailsOnly.present {value : Option α} {refusal : ε}
    (holds : allowed refusal) :
    FailsOnly allowed (present value refusal) := by
  cases value with
  | none => exact .error holds
  | some found => exact .ok found

theorem FailsOnly.recast {δ : Type} {rename : δ → ε} {body : Except δ α}
    (renamed : ∀ refusal, allowed (rename refusal)) :
    FailsOnly allowed (recast rename body) := by
  intro raised refused
  rcases recast_eq_error.1 refused with ⟨refusal, _, rfl⟩
  exact renamed refusal

theorem FailsOnly.mapM {validate : α → Except ε β} {items : List α}
    (each : ∀ item ∈ items, FailsOnly allowed (validate item)) :
    FailsOnly allowed (items.mapM validate) := by
  induction items with
  | nil => exact .ok []
  | cons first rest inductionHypothesis =>
      rw [List.mapM_cons]
      refine .bind (each first List.mem_cons_self) fun result => ?_
      refine .bind ?_ fun results => .ok _
      exact inductionHypothesis fun item member =>
        each item (List.mem_cons_of_mem _ member)

end AerialRescue.Lib.Guard
