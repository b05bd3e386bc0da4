import AerialRescue.Fleet.Store
import AerialRescue.Lib.Guard
import AerialRescue.Lib.Run
import Mathlib

/-!
# The critical outbox under concurrent transactions

Transactions that stage critical events, statement by statement, next to the
recordings of publications.  A transaction sees the committed rows and its
own.  It keeps the lock of a drone's row until it ends, and a statement that
needs a row of another open transaction waits for its end.

The unconfirmed rows of a producer are counted before a row is inserted.  The
count stays true because the lock of the drone's row is that of its producer.
-/

namespace AerialRescue.Fleet.Sessions

open AerialRescue.Domain.Commands
open AerialRescue.Lib AerialRescue.Lib.Guard AerialRescue.Lib.Run
open AerialRescue.Store

variable {σ ρ : Type}

/-! ## Rows of open transactions -/

/-- A row with the open transaction that inserted it, if there is one. -/
structure Held (ρ σ : Type) where
  row : ρ
  holder : Option σ

/-- A viewer sees the committed rows and those of its own transaction. -/
def Held.Visible (viewer : Option σ) (held : Held ρ σ) : Prop :=
  held.holder = none ∨ held.holder = viewer

/-- One row for a drone, and one for a producer. -/
structure Streams (σ : Type) where
  rows : List (Held DroneStreamIdentity σ)
  drones : (rows.map fun held => held.row.droneId).Nodup
  producers : (rows.map fun held => held.row.producer).Nodup

/-- A row that a unique key keeps an identity from. -/
def Conflicts (identity : DroneStreamIdentity)
    (held : Held DroneStreamIdentity σ) : Prop :=
  held.row.droneId = identity.droneId ∨
    held.row.producer = identity.producer

/-- The primary key of the outbox. -/
def outboxKey (held : Held ApplicationOutboxRow σ) : String × String :=
  held.row.key

variable [DecidableEq σ]

instance Held.Visible.decidable (viewer : Option σ) (held : Held ρ σ) :
    Decidable (held.Visible viewer) :=
  inferInstanceAs (Decidable (held.holder = none ∨ held.holder = viewer))

omit [DecidableEq σ] in
instance Conflicts.decidable (identity : DroneStreamIdentity)
    (held : Held DroneStreamIdentity σ) :
    Decidable (Conflicts identity held) :=
  inferInstanceAs (Decidable (_ ∨ _))

/-- The row once its transaction has committed. -/
def Held.release (session : σ) (held : Held ρ σ) : Held ρ σ :=
  if held.holder = some session then { held with holder := none } else held

@[simp]
theorem Held.release_row (session : σ) (held : Held ρ σ) :
    (held.release session).row = held.row := by
  unfold release
  split
  · rfl
  · rfl

/-! ## Streams -/

namespace Streams

omit [DecidableEq σ] in
theorem eq_of_producer {streams : Streams σ}
    {left right : Held DroneStreamIdentity σ}
    (leftMember : left ∈ streams.rows) (rightMember : right ∈ streams.rows)
    (same : left.row.producer = right.row.producer) : left = right :=
  List.inj_on_of_nodup_map streams.producers leftMember rightMember same

/-- The streams with one more row. -/
def insert (streams : Streams σ) (held : Held DroneStreamIdentity σ)
    (free : ∀ other ∈ streams.rows, ¬Conflicts held.row other) :
    Streams σ where
  rows := streams.rows ++ [held]
  drones := by
    rw [List.map_append, List.map_singleton, ← List.concat_eq_append,
      List.nodup_concat]
    refine ⟨?_, streams.drones⟩
    intro taken
    rcases List.mem_map.1 taken with ⟨other, member, same⟩
    exact free other member (.inl same)
  producers := by
    rw [List.map_append, List.map_singleton, ← List.concat_eq_append,
      List.nodup_concat]
    refine ⟨?_, streams.producers⟩
    intro taken
    rcases List.mem_map.1 taken with ⟨other, member, same⟩
    exact free other member (.inr same)

/-- `register_stream_statement`, which does nothing on a conflict; with a row
of another open transaction it waits. -/
def register (streams : Streams σ) (session : σ)
    (identity : DroneStreamIdentity) : Option (Streams σ) :=
  if taken : ∃ held ∈ streams.rows, Conflicts identity held then
    if ∃ held ∈ streams.rows,
        Conflicts identity held ∧ held.Visible (some session) then
      some streams
    else none
  else
    some
      (streams.insert ⟨identity, some session⟩ fun other member conflict =>
        taken ⟨other, member, conflict⟩)

/-- The row of a drone that a transaction sees. -/
def find? (streams : Streams σ) (session : σ) (droneId : String) :
    Option (Held DroneStreamIdentity σ) :=
  streams.rows.find? fun held =>
    held.row.droneId = droneId ∧ held.Visible (some session)

/-- The rows of a transaction are committed. -/
def commit (streams : Streams σ) (session : σ) : Streams σ where
  rows := streams.rows.map (Held.release session)
  drones := by
    rw [List.map_map]
    simpa [Function.comp_def] using streams.drones
  producers := by
    rw [List.map_map]
    simpa [Function.comp_def] using streams.producers

/-- The rows of a transaction are gone. -/
def rollback (streams : Streams σ) (session : σ) : Streams σ where
  rows := streams.rows.filter fun held => held.holder ≠ some session
  drones := streams.drones.sublist (List.filter_sublist.map _)
  producers := streams.producers.sublist (List.filter_sublist.map _)

theorem register_rows {streams next : Streams σ} {session : σ}
    {identity : DroneStreamIdentity}
    (registered : streams.register session identity = some next) :
    ∀ held ∈ streams.rows, held ∈ next.rows := by
  unfold register at registered
  split at registered
  · split at registered
    · cases registered
      exact fun _ member => member
    · cases registered
  · cases registered
    exact fun _ member => List.mem_append_left _ member

theorem find?_spec {streams : Streams σ} {session : σ} {droneId : String}
    {held : Held DroneStreamIdentity σ}
    (found : streams.find? session droneId = some held) :
    held ∈ streams.rows ∧ held.row.droneId = droneId ∧
      held.Visible (some session) := by
  have holds := List.find?_some found
  rw [decide_eq_true_eq] at holds
  exact ⟨List.mem_of_find?_eq_some found, holds⟩

end Streams

/-! ## The engine -/

/-- How far the staging of an event has come. -/
inductive Phase where
  | registered
  | locked
  | admitted
deriving DecidableEq

/-- The staging of an event that a transaction is in. -/
structure Stage where
  identity : DroneStreamIdentity
  event : StagedApplicationEvent
  phase : Phase
deriving DecidableEq

/-- The rows, the locks on drones, and what each transaction is staging. -/
structure Engine (σ : Type) where
  streams : Streams σ
  locks : String → Option σ
  outbox : Table (@outboxKey σ)
  stages : σ → Option Stage

/-- The statements of a transaction. -/
inductive Act where
  /-- `_validate_critical` and the first statement of `_locked_high_water` -/
  | register (identity : DroneStreamIdentity) (event : StagedApplicationEvent)
  /-- The second statement of `_locked_high_water` -/
  | lock
  /-- `_critical_usage` and the checks of both capacities -/
  | measure
  /-- `stage` -/
  | insert
  | commit
  | rollback
deriving DecidableEq

/-- Why a statement does not come to its end. -/
inductive Stop where
  | waits
  | outOfTurn
  | refused (refusal : FleetStoreRefusal)
deriving DecidableEq

namespace Engine

/-- Nothing is stored and no transaction is open. -/
def empty : Engine σ where
  streams := ⟨[], List.nodup_nil, List.nodup_nil⟩
  locks := fun _ => none
  outbox := Table.empty
  stages := fun _ => none

/-- The unconfirmed rows of a producer that a viewer sees. -/
def unconfirmed (engine : Engine σ) (viewer : Option σ) (producer : String) :
    List (Held ApplicationOutboxRow σ) :=
  engine.outbox.rows.filter fun held =>
    held.Visible viewer ∧ held.row.event.producer = producer ∧
      held.row.state ≠ .confirmed

/-- The engine with another stage of a transaction. -/
def stage (engine : Engine σ) (session : σ) (stage : Option Stage) :
    Engine σ :=
  { engine with stages := Function.update engine.stages session stage }

theorem stages_stage (engine : Engine σ) (session other : σ)
    (stage : Option Stage) :
    (engine.stage session stage).stages other =
      if other = session then stage else engine.stages other :=
  Function.update_apply ..

/-- The engine without the locks of a transaction. -/
def unlock (engine : Engine σ) (session : σ) : Engine σ :=
  { engine with
    locks := fun droneId =>
      if engine.locks droneId = some session then none
      else engine.locks droneId }

end Engine

/-- The topic, header and payload octets of rows. -/
def octetsOf (rows : List (Held ApplicationOutboxRow σ)) : Nat :=
  (rows.map fun held => criticalSize held.row.event).sum

/-- `_validate_critical` -/
def validateCritical (identity : DroneStreamIdentity)
    (event : StagedApplicationEvent) : Except Stop Unit := do
  ensure (event.family ∈ criticalFamilies) (.refused .noncriticalFamily)
  ensure (event.producer = identity.producer) (.refused .identityConflict)
  ensure (criticalSize event ≤ criticalOutboxMaxBytes)
    (.refused .byteCapacity)

namespace Engine

/-- The checks of `stage_critical` on the measured usage. -/
def checkCapacity (engine : Engine σ) (session : σ) (stage : Stage) :
    Except Stop (Engine σ) := do
  let held := engine.unconfirmed (some session) stage.identity.producer
  ensure (held.length < criticalOutboxMaxRecords) (.refused .recordCapacity)
  ensure (octetsOf held + criticalSize stage.event ≤ criticalOutboxMaxBytes)
    (.refused .byteCapacity)
  pure (engine.stage session (some { stage with phase := .admitted }))

/-- The lock of the drone's row, which must be bound to the producer. -/
def acquire (engine : Engine σ) (session : σ) (stage : Stage) :
    Except Stop (Engine σ) := do
  let held ← present (engine.streams.find? session stage.identity.droneId)
    (.refused .identityConflict)
  ensure
    (engine.locks stage.identity.droneId = none ∨
      engine.locks stage.identity.droneId = some session)
    .waits
  ensure (held.row.producer = stage.identity.producer)
    (.refused .identityConflict)
  let locked :=
    { engine with
      locks :=
        Function.update engine.locks stage.identity.droneId (some session) }
  pure (locked.stage session (some { stage with phase := .locked }))

/-- The row that is inserted for an event. -/
def insertedRow (session : σ) (event : StagedApplicationEvent) :
    Held ApplicationOutboxRow σ :=
  ⟨⟨event, .staged, none⟩, some session⟩

/-- `stage`; a taken key is refused, and waited for while it may be free. -/
def insert (engine : Engine σ) (session : σ) (stage : Stage) :
    Except Stop (Engine σ) :=
  match engine.outbox.insert? (insertedRow session stage.event) with
  | some outbox => .ok ({ engine with outbox }.stage session none)
  | none =>
      if ∃ held ∈ engine.outbox.rows,
          outboxKey held = outboxKey (insertedRow session stage.event) ∧
            held.Visible (some session) then
        .error (.refused .eventConflict)
      else .error .waits

/-- The transaction's rows are committed and its locks released. -/
def commit (engine : Engine σ) (session : σ) : Engine σ :=
  { engine.unlock session with
    streams := engine.streams.commit session
    outbox := engine.outbox.amendAll (Held.release session) fun held => by
      simp [outboxKey] }

/-- The rows that a transaction did not insert. -/
def without (outbox : Table (@outboxKey σ)) (session : σ) :
    Table (@outboxKey σ) where
  rows := outbox.rows.filter fun held => held.holder ≠ some session
  distinct := outbox.distinct.sublist (List.filter_sublist.map _)

/-- The transaction's rows are gone and its locks released. -/
def rollback (engine : Engine σ) (session : σ) : Engine σ :=
  { engine.unlock session with
    streams := engine.streams.rollback session
    outbox := without engine.outbox session }.stage session none

/-- One statement of a transaction. -/
def perform (engine : Engine σ) (session : σ) : Act → Except Stop (Engine σ)
  | .register identity event => do
      ensure (engine.stages session = none) .outOfTurn
      validateCritical identity event
      let streams ← present (engine.streams.register session identity) .waits
      pure
        ({ engine with streams }.stage session
          (some ⟨identity, event, .registered⟩))
  | .lock => do
      let stage ← present (engine.stages session) .outOfTurn
      ensure (stage.phase = .registered) .outOfTurn
      engine.acquire session stage
  | .measure => do
      let stage ← present (engine.stages session) .outOfTurn
      ensure (stage.phase = .locked) .outOfTurn
      engine.checkCapacity session stage
  | .insert => do
      let stage ← present (engine.stages session) .outOfTurn
      ensure (stage.phase = .admitted) .outOfTurn
      engine.insert session stage
  | .commit => do
      ensure (engine.stages session = none) .outOfTurn
      pure (engine.commit session)
  | .rollback => pure (engine.rollback session)

/-- A refused statement ends the staging; one that waits may come again. -/
def act (engine : Engine σ) (session : σ) (act : Act) : Engine σ :=
  match engine.perform session act with
  | .ok next => next
  | .error (.refused _) => engine.stage session none
  | .error _ => engine

/-- The row in another state. -/
def become (state : OutboxState) (confirmedAt : Option String)
    (held : Held ApplicationOutboxRow σ) : Held ApplicationOutboxRow σ :=
  { held with row := { held.row with state, confirmedAt } }

/-- `record_publication` of a committed row that is still staged. -/
def record (engine : Engine σ) (key : String × String) (event : OutboxEvent)
    (confirmedAt : Option String) : Option (Engine σ) := do
  let became ← outboxTransition .staged event
  let held ← engine.outbox.find? key
  guard (decide (became = .confirmed) = confirmedAt.isSome)
  guard (held.holder = none ∧ held.row.state = .staged)
  pure
    { engine with
      outbox := engine.outbox.amend key (become became confirmedAt)
        fun _ => rfl }

end Engine

/-- A statement of a transaction, or the recording of a publication. -/
inductive Statement (σ : Type) where
  | act (session : σ) (act : Act)
  | record (key : String × String) (event : OutboxEvent)
      (confirmedAt : Option String)

/-- One statement, in whatever order transactions take theirs. -/
def Engine.step (engine : Engine σ) : Statement σ → Engine σ
  | .act session act => engine.act session act
  | .record key event confirmedAt =>
      (engine.record key event confirmedAt).getD engine

/-! ## What every statement keeps -/

/-- The transaction has the lock of the identity's row. -/
def Holds (engine : Engine σ) (session : σ)
    (identity : DroneStreamIdentity) : Prop :=
  engine.locks identity.droneId = some session ∧
    ∃ held ∈ engine.streams.rows,
      held.row = identity ∧ held.Visible (some session)

omit [DecidableEq σ] in
/-- A producer's row is locked by one transaction. -/
theorem Holds.exclusive {engine : Engine σ} {left right : σ}
    {identity other : DroneStreamIdentity}
    (leftHolds : Holds engine left identity)
    (rightHolds : Holds engine right other)
    (same : identity.producer = other.producer) : left = right := by
  rcases leftHolds with ⟨leftLock, held, member, rfl, _⟩
  rcases rightHolds with ⟨rightLock, holding, among, rfl, _⟩
  have one := Streams.eq_of_producer member among same
  rw [one, rightLock] at leftLock
  exact (Option.some.inj leftLock).symm

/-- Rows that fit the capacity of a producer. -/
def Fits (rows : List (Held ApplicationOutboxRow σ)) : Prop :=
  rows.length ≤ criticalOutboxMaxRecords ∧
    octetsOf rows ≤ criticalOutboxMaxBytes

/-- Rows that fit the capacity together with one more event. -/
def Room (rows : List (Held ApplicationOutboxRow σ))
    (event : StagedApplicationEvent) : Prop :=
  rows.length < criticalOutboxMaxRecords ∧
    octetsOf rows + criticalSize event ≤ criticalOutboxMaxBytes

/-- What holds of an engine between statements. -/
structure Sound (engine : Engine σ) : Prop where
  bound : ∀ session stage, engine.stages session = some stage →
    stage.event.producer = stage.identity.producer
  locked : ∀ session stage, engine.stages session = some stage →
    stage.phase ≠ .registered → Holds engine session stage.identity
  room : ∀ session stage, engine.stages session = some stage →
    stage.phase = .admitted →
      Room (engine.unconfirmed (some session) stage.identity.producer)
        stage.event
  owned : ∀ held ∈ engine.outbox.rows, ∀ session,
    held.holder = some session → ∃ identity, Holds engine session identity ∧
      identity.producer = held.row.event.producer
  fresh : ∀ held ∈ engine.outbox.rows, held.holder ≠ none →
    held.row.state = .staged
  capacity : ∀ viewer producer, Fits (engine.unconfirmed viewer producer)

theorem sound_empty : Sound (Engine.empty : Engine σ) where
  bound _ _ impossible := by cases impossible
  locked _ _ impossible := by cases impossible
  room _ _ impossible := by cases impossible
  owned _ impossible := by cases impossible
  fresh _ impossible := by cases impossible
  capacity _ _ := ⟨Nat.zero_le _, Nat.zero_le _⟩

section Kept

variable {engine next : Engine σ} {session : σ} {stage : Stage}

omit [DecidableEq σ] in
/-- Locks and visible rows that stay keep what a transaction holds. -/
theorem Holds.mono {identity : DroneStreamIdentity}
    (holds : Holds engine session identity)
    (locks : next.locks identity.droneId = some session)
    (rows : ∀ held ∈ engine.streams.rows, held.Visible (some session) →
      ∃ kept ∈ next.streams.rows,
        kept.row = held.row ∧ kept.Visible (some session)) :
    Holds next session identity := by
  rcases holds with ⟨_, held, member, rfl, visible⟩
  rcases rows held member visible with ⟨kept, among, same, seen⟩
  exact ⟨locks, kept, among, same, seen⟩

/-- A stage that is set keeps an engine sound when it is sound itself. -/
theorem Sound.enter (sound : Sound engine) {entered : Option Stage}
    (bound : ∀ stage, entered = some stage →
      stage.event.producer = stage.identity.producer)
    (locked : ∀ stage, entered = some stage → stage.phase ≠ .registered →
      Holds engine session stage.identity)
    (room : ∀ stage, entered = some stage → stage.phase = .admitted →
      Room (engine.unconfirmed (some session) stage.identity.producer)
        stage.event) :
    Sound (engine.stage session entered) := by
  have staged (other : σ) (stage : Stage)
      (entry : (engine.stage session entered).stages other = some stage) :
      (other = session ∧ entered = some stage) ∨
        engine.stages other = some stage := by
    rw [Engine.stages_stage] at entry
    split at entry
    · rename_i same
      exact .inl ⟨same, entry⟩
    · exact .inr entry
  constructor
  · intro other stage entry
    rcases staged other stage entry with ⟨rfl, here⟩ | before
    · exact bound stage here
    · exact sound.bound other stage before
  · intro other stage entry phase
    rcases staged other stage entry with ⟨rfl, here⟩ | before
    · exact locked stage here phase
    · exact sound.locked other stage before phase
  · intro other stage entry phase
    rcases staged other stage entry with ⟨rfl, here⟩ | before
    · exact room stage here phase
    · exact sound.room other stage before phase
  · exact sound.owned
  · exact sound.fresh
  · exact sound.capacity

theorem Sound.leave (sound : Sound engine) :
    Sound (engine.stage session none) :=
  sound.enter (fun _ impossible => by cases impossible)
    (fun _ impossible => by cases impossible)
    fun _ impossible => by cases impossible

/-- More streams and locks, with the same outbox. -/
theorem Sound.widen (sound : Sound engine) {streams : Streams σ}
    {locks : String → Option σ}
    (kept : ∀ other droneId, engine.locks droneId = some other →
      locks droneId = some other)
    (rows : ∀ held ∈ engine.streams.rows, held ∈ streams.rows) :
    Sound { engine with streams, locks } := by
  have holds (other : σ) (identity : DroneStreamIdentity)
      (before : Holds engine other identity) :
      Holds { engine with streams, locks } other identity :=
    before.mono (kept other _ before.1) fun held member visible =>
      ⟨held, rows held member, rfl, visible⟩
  constructor
  · exact sound.bound
  · exact fun other stage entry phase =>
      holds other _ (sound.locked other stage entry phase)
  · exact sound.room
  · intro held member other holder
    rcases sound.owned held member other holder with
      ⟨identity, before, same⟩
    exact ⟨identity, holds other identity before, same⟩
  · exact sound.fresh
  · exact sound.capacity

theorem Sound.register (sound : Sound engine)
    {identity : DroneStreamIdentity} {event : StagedApplicationEvent}
    (performed :
      engine.perform session (.register identity event) = .ok next) :
    Sound next := by
  simp only [Engine.perform, validateCritical, bind_eq_ok, ensure_eq_ok,
    present_eq_ok, pure_eq_ok] at performed
  rcases performed with ⟨_, _, _, ⟨_, _, _, same, _⟩, streams, registered, rfl⟩
  have wider : Sound { engine with streams } :=
    sound.widen (fun _ _ held => held) (Streams.register_rows registered)
  refine wider.enter ?_ ?_ ?_
  · rintro stage ⟨⟩
    exact same
  · rintro stage ⟨⟩ other
    exact absurd rfl other
  · rintro stage ⟨⟩ impossible
    cases impossible

theorem Sound.acquire (sound : Sound engine)
    (bound : stage.event.producer = stage.identity.producer)
    (acquired : engine.acquire session stage = .ok next) : Sound next := by
  simp only [Engine.acquire, bind_eq_ok, ensure_eq_ok, present_eq_ok,
    pure_eq_ok] at acquired
  rcases acquired with ⟨held, found, _, free, _, producer, rfl⟩
  rcases Streams.find?_spec found with ⟨member, droneId, visible⟩
  have wider : Sound
      { engine with
        locks :=
          Function.update engine.locks stage.identity.droneId
            (some session) } := by
    refine sound.widen ?_ fun _ member => member
    intro other drone held
    by_cases same : drone = stage.identity.droneId
    · subst same
      rw [held] at free
      rw [Function.update_self, ← free.resolve_left (Option.some_ne_none _)]
    · rw [Function.update_of_ne same]
      exact held
  have identity : held.row = stage.identity := by
    rcases held with ⟨⟨drone, origin⟩, holder⟩
    rcases stage with ⟨⟨wanted, named⟩, event, phase⟩
    simp only at droneId producer
    rw [droneId, producer]
  refine wider.enter ?_ ?_ ?_
  · rintro stage ⟨⟩
    exact bound
  · rintro entered ⟨⟩ _
    refine ⟨Function.update_self .., held, member, identity, visible⟩
  · rintro stage ⟨⟩ impossible
    cases impossible

theorem Sound.checkCapacity (sound : Sound engine)
    (entry : engine.stages session = some stage)
    (phase : stage.phase = .locked)
    (admitted : engine.checkCapacity session stage = .ok next) : Sound next := by
  simp only [Engine.checkCapacity, bind_eq_ok, ensure_eq_ok, pure_eq_ok] at admitted
  rcases admitted with ⟨_, records, _, bytes, rfl⟩
  refine sound.enter ?_ ?_ ?_
  · rintro entered ⟨⟩
    exact sound.bound session stage entry
  · rintro entered ⟨⟩ _
    refine sound.locked session stage entry ?_
    rw [phase]
    decide
  · rintro entered ⟨⟩ _
    exact ⟨records, bytes⟩

/-! ### Inserted rows -/

omit [DecidableEq σ] in
theorem octetsOf_append (left right : List (Held ApplicationOutboxRow σ)) :
    octetsOf (left ++ right) = octetsOf left + octetsOf right := by
  simp [octetsOf]

/-- A viewer of the transaction sees one more row of its producer. -/
theorem unconfirmed_insert {outbox : Table (@outboxKey σ)}
    {event : StagedApplicationEvent}
    (inserted : engine.outbox.insert? (Engine.insertedRow session event) =
      some outbox) (viewer : Option σ) (producer : String) :
    ({ engine with outbox } : Engine σ).unconfirmed viewer producer =
      engine.unconfirmed viewer producer ++
        if viewer = some session ∧ event.producer = producer then
          [Engine.insertedRow session event]
        else [] := by
  have seen :
      ((Engine.insertedRow session event).Visible viewer ∧
          (Engine.insertedRow session event).row.event.producer = producer ∧
            (Engine.insertedRow session event).row.state ≠ .confirmed) ↔
        viewer = some session ∧ event.producer = producer := by
    simp [Engine.insertedRow, Held.Visible, eq_comm]
  simp only [Engine.unconfirmed, Table.insert?_rows inserted,
    List.filter_append, List.filter_singleton, Bool.cond_decide]
  rw [if_congr seen rfl rfl]

theorem Sound.insert (sound : Sound engine)
    (entry : engine.stages session = some stage)
    (phase : stage.phase = .admitted)
    (inserted : engine.insert session stage = .ok next) : Sound next := by
  unfold Engine.insert at inserted
  split at inserted
  · rename_i outbox fits
    cases inserted
    have holds := sound.locked session stage entry (by rw [phase]; decide)
    have same := sound.bound session stage entry
    have room := sound.room session stage entry phase
    have others {other : σ} {entered : Stage}
        (entry : (({ engine with outbox } : Engine σ).stage session
          none).stages other = some entered) :
        other ≠ session ∧ engine.stages other = some entered := by
      rw [Engine.stages_stage] at entry
      split at entry
      · cases entry
      · exact ⟨‹_›, entry⟩
    constructor
    · exact fun other entered entry =>
        sound.bound other entered (others entry).2
    · exact fun other entered entry =>
        sound.locked other entered (others entry).2
    · intro other entered entry admitted
      rcases others entry with ⟨apart, before⟩
      change Room (({ engine with outbox } : Engine σ).unconfirmed _ _) _
      rw [unconfirmed_insert fits, if_neg, List.append_nil]
      · exact sound.room other entered before admitted
      · exact fun impossible => apart (Option.some.inj impossible.1)
    · intro held member other holder
      change held ∈ outbox.rows at member
      rw [Table.insert?_rows fits, List.mem_append, List.mem_singleton]
        at member
      rcases member with before | rfl
      · exact sound.owned held before other holder
      · cases holder
        exact ⟨stage.identity, holds, same.symm⟩
    · intro held member holder
      change held ∈ outbox.rows at member
      rw [Table.insert?_rows fits, List.mem_append, List.mem_singleton]
        at member
      rcases member with before | rfl
      · exact sound.fresh held before holder
      · rfl
    · intro viewer producer
      change Fits (({ engine with outbox } : Engine σ).unconfirmed _ _)
      rw [unconfirmed_insert fits]
      split
      · rename_i here
        rcases here with ⟨rfl, rfl⟩
        rw [same]
        refine ⟨?_, ?_⟩
        · rw [List.length_append]
          exact room.1
        · rw [octetsOf_append]
          exact room.2
      · rw [List.append_nil]
        exact sound.capacity viewer producer
  · split at inserted
    · cases inserted
    · cases inserted

/-! ### Ends of transactions -/

theorem unlock_locks {other : σ} {droneId : String} (apart : other ≠ session)
    (locked : engine.locks droneId = some other) :
    (engine.unlock session).locks droneId = some other := by
  rw [Engine.unlock]
  simp only [locked, Option.some.injEq, apart, if_false]

/-- The commit of one transaction leaves what another one holds. -/
theorem Holds.commit {other : σ} {identity : DroneStreamIdentity}
    (apart : other ≠ session) (holds : Holds engine other identity) :
    Holds (engine.commit session) other identity := by
  refine holds.mono (unlock_locks apart holds.1) fun held member visible =>
    ⟨held.release session, List.mem_map_of_mem member,
      Held.release_row session held, ?_⟩
  unfold Held.release
  split
  · exact .inl rfl
  · exact visible

theorem Holds.rollback {other : σ} {identity : DroneStreamIdentity}
    (apart : other ≠ session) (holds : Holds engine other identity) :
    Holds (engine.rollback session) other identity := by
  refine holds.mono (unlock_locks apart holds.1) fun held member visible =>
    ⟨held, List.mem_filter.2 ⟨member, ?_⟩, rfl, visible⟩
  rw [decide_eq_true_eq]
  intro same
  rw [Held.Visible, same] at visible
  rcases visible with impossible | named
  · cases impossible
  · exact apart (Option.some.inj named).symm

omit [DecidableEq σ] in
/-- A narrower test keeps fewer items. -/
theorem filter_narrower {item : Type} {narrow wide : item → Bool}
    {items : List item}
    (narrower : ∀ each ∈ items, narrow each = true → wide each = true) :
    List.Sublist (items.filter narrow) (items.filter wide) := by
  have twice : items.filter narrow = (items.filter wide).filter narrow := by
    rw [List.filter_filter]
    refine List.filter_congr fun each member => ?_
    cases kept : narrow each with
    | false => rfl
    | true => rw [narrower each member kept, Bool.and_self]
  rw [twice]
  exact List.filter_sublist

/-- The events of a part of some rows are among those of the whole. -/
def Within (part whole : List (Held ApplicationOutboxRow σ)) : Prop :=
  List.Sublist (part.map fun held => held.row.event)
    (whole.map fun held => held.row.event)

omit [DecidableEq σ] in
theorem Within.octets {part whole : List (Held ApplicationOutboxRow σ)}
    (within : Within part whole) :
    part.length ≤ whole.length ∧ octetsOf part ≤ octetsOf whole := by
  have octets (rows : List (Held ApplicationOutboxRow σ)) :
      octetsOf rows =
        ((rows.map fun held => held.row.event).map criticalSize).sum := by
    rw [List.map_map]
    rfl
  refine ⟨?_, ?_⟩
  · have shorter := within.length_le
    rwa [List.length_map, List.length_map] at shorter
  · rw [octets, octets]
    exact (within.map criticalSize).sum_le_sum fun _ _ => Nat.zero_le _

omit [DecidableEq σ] in
theorem Fits.within {part whole : List (Held ApplicationOutboxRow σ)}
    (fits : Fits whole) (within : Within part whole) : Fits part :=
  ⟨within.octets.1.trans fits.1, within.octets.2.trans fits.2⟩

omit [DecidableEq σ] in
theorem Room.within {part whole : List (Held ApplicationOutboxRow σ)}
    {event : StagedApplicationEvent} (room : Room whole event)
    (within : Within part whole) : Room part event :=
  ⟨within.octets.1.trans_lt room.1,
    (Nat.add_le_add_right within.octets.2 _).trans room.2⟩

/-- Changed rows are unconfirmed only if they were. -/
theorem within_of_map {after : Engine σ}
    {change : Held ApplicationOutboxRow σ → Held ApplicationOutboxRow σ}
    {viewer other : Option σ} {producer : String}
    (rows : after.outbox.rows = engine.outbox.rows.map change)
    (same : ∀ held, (change held).row.event = held.row.event)
    (seen : ∀ held ∈ engine.outbox.rows,
      held.row.event.producer = producer → (change held).Visible viewer →
        (change held).row.state ≠ .confirmed →
          held.Visible other ∧ held.row.state ≠ .confirmed) :
    Within (after.unconfirmed viewer producer)
      (engine.unconfirmed other producer) := by
  unfold Within Engine.unconfirmed
  simp only [rows, List.filter_map, List.map_map, Function.comp_def, same]
  refine (filter_narrower fun held member kept => ?_).map _
  rw [decide_eq_true_eq] at kept ⊢
  rcases kept with ⟨visible, named, unconfirmed⟩
  rcases seen held member named visible unconfirmed with ⟨before, state⟩
  exact ⟨before, named, state⟩

theorem Sound.commit (sound : Sound engine)
    (idle : engine.stages session = none) :
    Sound (engine.commit session) := by
  have visible {held : Held ApplicationOutboxRow σ} {viewer : Option σ}
      (seen : (held.release session).Visible viewer) :
      held.Visible viewer ∨ held.holder = some session := by
    unfold Held.release at seen
    split at seen
    · exact .inr ‹_›
    · exact .inl seen
  have event (held : Held ApplicationOutboxRow σ) :
      (held.release session).row.event = held.row.event := by
    rw [Held.release_row]
  have unmixed {producer : String} (viewer : Option σ)
      (none : ∀ held ∈ engine.outbox.rows, held.holder = some session →
        held.row.event.producer ≠ producer) :
      Within ((engine.commit session).unconfirmed viewer producer)
        (engine.unconfirmed viewer producer) := by
    refine within_of_map rfl event fun held member named seen state => ?_
    rw [Held.release_row] at state
    refine ⟨(visible seen).resolve_right fun own => ?_, state⟩
    exact none held member own named
  have busy {other : σ} {stage : Stage}
      (entry : engine.stages other = some stage) : other ≠ session := by
    rintro rfl
    rw [idle] at entry
    cases entry
  constructor
  · exact fun other stage entry => sound.bound other stage entry
  · exact fun other stage entry phase =>
      (sound.locked other stage entry phase).commit (busy entry)
  · intro other stage entry phase
    have holds := sound.locked other stage entry (by rw [phase]; decide)
    refine (sound.room other stage entry phase).within (unmixed _ ?_)
    intro held member own named
    rcases sound.owned held member session own with ⟨identity, held, same⟩
    exact busy entry (holds.exclusive held (named.symm.trans same.symm))
  · intro held member other holder
    rcases List.mem_map.1 member with ⟨before, among, rfl⟩
    rw [Held.release_row]
    unfold Held.release at holder
    split at holder
    · cases holder
    · rename_i foreign
      rcases sound.owned before among other holder with
        ⟨identity, holds, same⟩
      refine ⟨identity, holds.commit ?_, same⟩
      rintro rfl
      exact foreign holder
  · intro held member open'
    rcases List.mem_map.1 member with ⟨before, among, rfl⟩
    rw [Held.release_row]
    refine sound.fresh before among fun committed => open' ?_
    unfold Held.release
    split
    · rfl
    · exact committed
  · intro viewer producer
    by_cases own : ∃ held ∈ engine.outbox.rows,
        held.holder = some session ∧ held.row.event.producer = producer
    · rcases own with ⟨mine, among, holder, named⟩
      rcases sound.owned mine among session holder with
        ⟨identity, holds, same⟩
      refine (sound.capacity (some session) producer).within ?_
      refine within_of_map rfl event fun held member named' seen state => ?_
      rw [Held.release_row] at state
      refine ⟨?_, state⟩
      rcases visible seen with (committed | view) | owned
      · exact .inl committed
      · cases holding : held.holder with
        | none => exact .inl holding
        | some other =>
            rcases sound.owned held member other holding with
              ⟨others, otherHolds, also⟩
            have one : session = other :=
              holds.exclusive otherHolds
                (same.trans (named.trans (named'.symm.trans also.symm)))
            exact .inr (one ▸ holding)
      · exact .inr owned
    · refine (sound.capacity viewer producer).within (unmixed viewer ?_)
      exact fun held member holder named => own ⟨held, member, holder, named⟩

theorem Sound.rollback (sound : Sound engine) :
    Sound (engine.rollback session) := by
  have others {other : σ} {stage : Stage}
      (entry : (engine.rollback session).stages other = some stage) :
      other ≠ session ∧ engine.stages other = some stage := by
    rw [Engine.rollback, Engine.stages_stage] at entry
    split at entry
    · cases entry
    · exact ⟨‹_›, entry⟩
  have fewer (viewer : Option σ) (producer : String) :
      Within ((engine.rollback session).unconfirmed viewer producer)
        (engine.unconfirmed viewer producer) :=
    (List.filter_sublist.filter _).map _
  constructor
  · exact fun other stage entry => sound.bound other stage (others entry).2
  · exact fun other stage entry phase =>
      (sound.locked other stage (others entry).2 phase).rollback
        (others entry).1
  · exact fun other stage entry phase =>
      (sound.room other stage (others entry).2 phase).within (fewer _ _)
  · intro held member other holder
    rcases List.mem_filter.1 member with ⟨among, kept⟩
    rcases sound.owned held among other holder with ⟨identity, holds, same⟩
    refine ⟨identity, holds.rollback ?_, same⟩
    rintro rfl
    rw [decide_eq_true_eq] at kept
    exact kept holder
  · exact fun held member holder =>
      sound.fresh held (List.mem_filter.1 member).1 holder
  · exact fun viewer producer =>
      (sound.capacity viewer producer).within (fewer viewer producer)

/-! ### Recordings -/

omit [DecidableEq σ] in
/-- What a recording leaves: one committed staged row in its new state. -/
theorem record_spec {key : String × String} {event : OutboxEvent}
    {confirmedAt : Option String}
    (recorded : engine.record key event confirmedAt = some next) :
    ∃ held became, engine.outbox.find? key = some held ∧
      held.holder = none ∧ held.row.state = .staged ∧
      outboxTransition .staged event = some became ∧
      next =
        { engine with
          outbox := engine.outbox.amend key
            (Engine.become became confirmedAt) fun _ => rfl } := by
  simp only [Engine.record, Option.bind_eq_bind, Option.bind_eq_some_iff,
    Option.pure_def, Option.some.injEq] at recorded
  rcases recorded with ⟨became, moves, held, found, _, _, _, guarded, rfl⟩
  rcases (Option.guard_eq_some' ()).1 guarded with ⟨committed, staged⟩
  exact ⟨held, became, found, committed, staged, moves, rfl⟩

theorem Sound.record (sound : Sound engine) {key : String × String}
    {event : OutboxEvent} {confirmedAt : Option String}
    (recorded : engine.record key event confirmedAt = some next) :
    Sound next := by
  rcases record_spec recorded with
    ⟨target, became, found, committed, staged, _, rfl⟩
  have chosen {held : Held ApplicationOutboxRow σ}
      (member : held ∈ engine.outbox.rows) (here : outboxKey held = key) :
      held = target :=
    Table.eq_of_key member (Table.find?_mem found)
      (here.trans (Table.find?_key found).symm)
  have fewer (viewer : Option σ) (producer : String) :
      Within
        (({ engine with
            outbox := engine.outbox.amend key
              (Engine.become became confirmedAt)
              fun _ => rfl } : Engine σ).unconfirmed viewer producer)
        (engine.unconfirmed viewer producer) := by
    refine within_of_map rfl (fun held => ?_) fun held member _ seen state => ?_
    · split
      · rfl
      · rfl
    · split at seen
      · rename_i here
        rw [chosen member here]
        exact ⟨.inl committed, by rw [staged]; decide⟩
      · rename_i other
        rw [if_neg other] at state
        exact ⟨seen, state⟩
  have unchanged {held : Held ApplicationOutboxRow σ} {holder : σ}
      (member : held ∈ (engine.outbox.amend key
        (Engine.become became confirmedAt) fun _ => rfl).rows)
      (owner : held.holder = some holder) : held ∈ engine.outbox.rows := by
    rcases (Table.mem_amend ..).1 member with
      ⟨before, here, rfl⟩ | ⟨kept, _⟩
    · rw [found, Option.some.injEq] at here
      rw [Engine.become, ← here, committed] at owner
      cases owner
    · exact kept
  constructor
  · exact sound.bound
  · exact sound.locked
  · exact fun other stage entry phase =>
      (sound.room other stage entry phase).within (fewer _ _)
  · exact fun held member other holder =>
      sound.owned held (unchanged member holder) other holder
  · intro held member holder
    rcases Option.ne_none_iff_exists'.1 holder with ⟨other, owner⟩
    exact sound.fresh held (unchanged member owner) holder
  · exact fun viewer producer =>
      (sound.capacity viewer producer).within (fewer viewer producer)

/-! ### Runs -/

theorem Sound.perform (sound : Sound engine) {statement : Act}
    (performed : engine.perform session statement = .ok next) :
    Sound next := by
  cases statement with
  | register identity event => exact sound.register performed
  | lock =>
      simp only [Engine.perform, bind_eq_ok, present_eq_ok, ensure_eq_ok]
        at performed
      rcases performed with ⟨stage, entry, _, _, acquired⟩
      exact sound.acquire (sound.bound session stage entry) acquired
  | measure =>
      simp only [Engine.perform, bind_eq_ok, present_eq_ok, ensure_eq_ok]
        at performed
      rcases performed with ⟨stage, entry, _, phase, admitted⟩
      exact sound.checkCapacity entry phase admitted
  | insert =>
      simp only [Engine.perform, bind_eq_ok, present_eq_ok, ensure_eq_ok]
        at performed
      rcases performed with ⟨stage, entry, _, phase, inserted⟩
      exact sound.insert entry phase inserted
  | commit =>
      simp only [Engine.perform, bind_eq_ok, ensure_eq_ok, pure_eq_ok]
        at performed
      rcases performed with ⟨_, idle, rfl⟩
      exact sound.commit idle
  | rollback =>
      simp only [Engine.perform, pure_eq_ok] at performed
      exact performed ▸ sound.rollback

theorem Sound.step (sound : Sound engine) (statement : Statement σ) :
    Sound (engine.step statement) := by
  cases statement with
  | act session statement =>
      simp only [Engine.step, Engine.act]
      split
      · rename_i next performed
        exact sound.perform performed
      · exact sound.leave
      · exact sound
  | record key event confirmedAt =>
      rw [Engine.step]
      cases recorded : engine.record key event confirmedAt with
      | none => exact sound
      | some next => exact sound.record recorded

/-- Every interleaving of statements is sound. -/
theorem Sound.run (sound : Sound engine) (statements : List (Statement σ)) :
    Sound (Run.run Engine.step engine statements) :=
  run_keeps_always (fun _ statement held => held.step statement) statements
    sound

end Kept

end AerialRescue.Fleet.Sessions
