import AerialRescue.Fleet.RecoveryGate

/-!
# Safety of the critical outbox and its recovery

Transactions and one recovery at a time share the outbox.  Whatever order
their statements and queries take, the rows of a producer stay within its
capacity, only a staged row is published, and the broker is ready only behind
an empty outbox.
-/

namespace AerialRescue.Fleet.Recovery

open AerialRescue.Domain.Commands
open AerialRescue.Fleet.Sessions
open AerialRescue.Lib AerialRescue.Lib.Guard AerialRescue.Lib.Clients
open AerialRescue.Lib.Run
open AerialRescue.Store

variable {σ : Type} [DecidableEq σ]

/-- The engine, and the recovery that has the lock with what it has asked. -/
structure System (σ : Type) where
  engine : Engine σ
  recovery : Option (Recovering Unit × Past (Engine σ) Query Answer)

/-- No transaction and no recovery has begun. -/
def System.initial : System σ :=
  ⟨Engine.empty, none⟩

/-- One statement of a transaction, or one query of the recovery. -/
inductive System.Step (configured : List String) :
    System σ → System σ → Prop
  | act (engine : Engine σ) (session : σ) (act : Act)
      (recovery : Option (Recovering Unit × Past (Engine σ) Query Answer)) :
      Step configured ⟨engine, recovery⟩ ⟨engine.act session act, recovery⟩
  /-- `_recover` -/
  | begin (engine : Engine σ) (routed : Bool) :
      Step configured ⟨engine, none⟩
        ⟨engine, some (recoverLocked configured routed, [])⟩
  | answer (engine next : Engine σ) (query : Query) (answer : Answer query)
      (rest : Answer query → Recovering Unit)
      (past : Past (Engine σ) Query Answer)
      (responded : responds engine query answer next) :
      Step configured ⟨engine, some (.ask query rest, past)⟩
        ⟨next, some (rest answer, past ++ [(engine, ⟨query, answer⟩)])⟩
  /-- The recovery ends, or it is cancelled at a query. -/
  | leave (engine : Engine σ)
      (recovery : Recovering Unit × Past (Engine σ) Query Answer) :
      Step configured ⟨engine, some recovery⟩ ⟨engine, none⟩

/-- A system that steps lead to. -/
def System.Leads (configured : List String) :
    System σ → System σ → Prop :=
  Relation.ReflTransGen (System.Step configured)

/-! ## What every step keeps -/

/-- An ambiguous row is one of the drones. -/
def Named (configured : List String) (engine : Engine σ) : Prop :=
  ∀ held ∈ engine.outbox.rows, held.row.state = .reconciliationNeeded →
    held.row.event.producer ∈ configured.map eventSource

/-- The outbox is sound, and the recovery asks what it may. -/
structure System.Kept (configured : List String) (system : System σ) :
    Prop where
  sound : Sound system.engine
  named : Named configured system.engine
  obeys : ∀ client past, system.recovery = some (client, past) →
    client.Obeys (outboxWorld σ) (asked configured) (fun _ _ _ => True)
      system.engine past

theorem System.kept_initial (configured : List String) :
    (System.initial : System σ).Kept configured where
  sound := sound_empty
  named _ impossible := by cases impossible
  obeys _ _ impossible := by cases impossible

/-- What answers a query keeps the outbox sound. -/
theorem respond_sound {engine next : Engine σ} (sound : Sound engine)
    {query : Query} {answer : Answer query}
    (responded : responds engine query answer next) : Sound next := by
  cases query with
  | recoveryRequired => exact (show next = engine from responded) ▸ sound
  | isConnected => exact (show next = engine from responded) ▸ sound
  | markReady => exact (show next = engine from responded) ▸ sound
  | pending droneId => exact responded.1 ▸ sound
  | reconciliation droneId => exact responded.1 ▸ sound
  | publish event => exact (show next = engine from responded) ▸ sound
  | record key event confirmedAt =>
      rcases responded with recorded | ⟨_, rfl⟩
      · exact sound.record recorded
      · exact sound

theorem Named.act {configured : List String} {engine : Engine σ}
    (named : Named configured engine) (session : σ) (statement : Act) :
    Named configured (engine.act session statement) := by
  intro held member state
  rcases act_source member with ⟨before, among, same⟩ | staged
  · rw [← same] at state ⊢
    exact named before among state
  · rw [staged] at state
    cases state

omit [DecidableEq σ] in
/-- A recording of a drone's event. -/
theorem Named.record {configured : List String} {engine next : Engine σ}
    (named : Named configured engine) {key : String × String}
    {event : OutboxEvent} {confirmedAt : Option String}
    (among : key.1 ∈ configured.map eventSource)
    (recorded : engine.record key event confirmedAt = some next) :
    Named configured next := by
  rcases record_spec recorded with ⟨target, became, found, _, _, _, rfl⟩
  intro held member state
  rcases (Table.mem_amend _ _ (Engine.become became confirmedAt)
    fun _ => rfl).1 member with ⟨before, here, rfl⟩ | ⟨kept, _⟩
  · have same := Table.find?_key here
    rw [← same] at among
    exact among
  · exact named held kept state

omit [DecidableEq σ] in
theorem Named.respond {configured : List String} {engine next : Engine σ}
    (named : Named configured engine) {query : Query}
    {past : Past (Engine σ) Query Answer} {answer : Answer query}
    (allowed : asked configured engine past query)
    (responded : responds engine query answer next) :
    Named configured next := by
  cases query with
  | recoveryRequired => exact (show next = engine from responded) ▸ named
  | isConnected => exact (show next = engine from responded) ▸ named
  | markReady => exact (show next = engine from responded) ▸ named
  | pending droneId => exact responded.1 ▸ named
  | reconciliation droneId => exact responded.1 ▸ named
  | publish event => exact (show next = engine from responded) ▸ named
  | record key event confirmedAt =>
      rcases responded with recorded | ⟨_, rfl⟩
      · exact named.record allowed recorded
      · exact named

omit [DecidableEq σ] in
/-- With no ambiguous row of the drones there is none. -/
theorem Named.unambiguous {configured : List String} {engine : Engine σ}
    (named : Named configured engine) (clean : Clean configured engine)
    (key : String × String) : ¬Ambiguous engine key := by
  rintro ⟨held, member, _, state⟩
  exact clean held member (named held member state) state

theorem System.Kept.step {configured : List String} {system next : System σ}
    (kept : system.Kept configured) (step : Step configured system next) :
    next.Kept configured := by
  cases step with
  | act engine session act recovery =>
      refine ⟨kept.sound.step (.act session act),
        kept.named.act session act, ?_⟩
      exact fun client past here =>
        (kept.obeys client past here).drift ⟨session, act, rfl⟩
  | begin engine routed =>
      refine ⟨kept.sound, kept.named, fun client past here => ?_⟩
      cases here
      refine (keeps_recoverLocked configured routed engine []
        ⟨kept.sound, rfl⟩).imp ?_
      exact fun _ _ _ _ => trivial
  | answer engine next query answer rest past responded =>
      have allowed := (kept.obeys _ past rfl).asks
      refine ⟨respond_sound kept.sound responded,
        kept.named.respond allowed responded, fun client history here => ?_⟩
      cases here
      exact (kept.obeys _ past rfl).answer responded
  | leave engine recovery =>
      exact ⟨kept.sound, kept.named, fun _ _ impossible => by cases impossible⟩

theorem System.Kept.run {configured : List String} {system next : System σ}
    (kept : system.Kept configured) (leads : Leads configured system next) :
    next.Kept configured := by
  induction leads with
  | refl => exact kept
  | tail _ step inductionHypothesis => exact inductionHypothesis.step step

/-! ## Ambiguous rows -/

omit [DecidableEq σ] in
theorem Ambiguous.respond {engine next : Engine σ} {key : String × String}
    (ambiguous : Ambiguous engine key) {query : Query}
    {answer : Answer query}
    (responded : responds engine query answer next) :
    Ambiguous next key := by
  cases query with
  | recoveryRequired => exact (show next = engine from responded) ▸ ambiguous
  | isConnected => exact (show next = engine from responded) ▸ ambiguous
  | markReady => exact (show next = engine from responded) ▸ ambiguous
  | pending droneId => exact responded.1 ▸ ambiguous
  | reconciliation droneId => exact responded.1 ▸ ambiguous
  | publish event => exact (show next = engine from responded) ▸ ambiguous
  | record other event confirmedAt =>
      rcases responded with recorded | ⟨_, rfl⟩
      · exact ambiguous.record recorded
      · exact ambiguous

theorem Ambiguous.step {configured : List String} {system next : System σ}
    {key : String × String} (sound : Sound system.engine)
    (ambiguous : Ambiguous system.engine key)
    (step : System.Step configured system next) :
    Ambiguous next.engine key := by
  cases step with
  | act engine session act recovery => exact ambiguous.act sound
  | begin engine routed => exact ambiguous
  | answer engine next query answer rest past responded =>
      exact ambiguous.respond responded
  | leave engine recovery => exact ambiguous

theorem Ambiguous.run {configured : List String} {system next : System σ}
    {key : String × String} (kept : system.Kept configured)
    (ambiguous : Ambiguous system.engine key)
    (leads : System.Leads configured system next) :
    Ambiguous next.engine key := by
  induction leads with
  | refl => exact ambiguous
  | tail before step inductionHypothesis =>
      exact inductionHypothesis.step (kept.run before).sound step

/-! ## Insertions -/

/-- How a row came into the outbox: its transaction was admitted with room
for it. -/
structure Admitted (engine : Engine σ) (session : σ)
    (event : StagedApplicationEvent) : Prop where
  stage : ∃ stage, engine.stages session = some stage ∧
    stage.phase = .admitted ∧ stage.event = event
  room : Room (engine.unconfirmed (some session) event.producer) event

/-- A statement adds no row but that of an admitted stage. -/
theorem act_adds {engine : Engine σ} (sound : Sound engine) (session : σ)
    (statement : Act) :
    ∀ held ∈ (engine.act session statement).outbox.rows,
      (∃ before ∈ engine.outbox.rows, before.row = held.row) ∨
        (statement = .insert ∧ Admitted engine session held.row.event) := by
  intro held member
  rcases act_change engine session statement with
    rows | ⟨stage, insert, entry, phase, rows⟩ | rows | rows
  · exact .inl ⟨held, rows ▸ member, rfl⟩
  · rw [rows, List.mem_append, List.mem_singleton] at member
    rcases member with before | rfl
    · exact .inl ⟨held, before, rfl⟩
    · have room := sound.room session stage entry phase
      rw [← sound.bound session stage entry] at room
      exact .inr ⟨insert, ⟨stage, entry, phase, rfl⟩, room⟩
  · rw [rows, List.mem_map] at member
    rcases member with ⟨before, among, rfl⟩
    exact .inl ⟨before, among, (Held.release_row session before).symm⟩
  · rw [rows, List.mem_filter] at member
    exact .inl ⟨held, member.1, rfl⟩

/-- A refused statement leaves the outbox and ends its stage. -/
theorem act_refused {engine : Engine σ} {session : σ} {statement : Act}
    {refusal : FleetStoreRefusal}
    (refused : engine.perform session statement =
      .error (.refused refusal)) :
    (engine.act session statement).outbox = engine.outbox ∧
      (engine.act session statement).stages session = none := by
  rw [Engine.act, refused]
  refine ⟨rfl, ?_⟩
  rw [Engine.stages_stage, if_pos rfl]

/-! ## Safety -/

/-- What holds of every system that is reached. -/
structure System.Safe (configured : List String) (system : System σ) :
    Prop where
  capacity : ∀ viewer producer,
    Fits (system.engine.unconfirmed viewer producer)
  publishes : ∀ event rest past,
    system.recovery = some (.ask (.publish event) rest, past) →
      StagedRow system.engine event
  readies : ∀ rest past,
    system.recovery = some (.ask .markReady rest, past) →
      Gate configured past ∧ ∀ key, ¬Ambiguous system.engine key
  settled : ∀ key, Ambiguous system.engine key →
    ∀ later event rest past, Leads configured system later →
      Ambiguous later.engine key ∧
        (later.recovery = some (.ask (.publish event) rest, past) →
          keyOf event ≠ key)

theorem System.Kept.safe {configured : List String} {system : System σ}
    (kept : system.Kept configured) : system.Safe configured where
  capacity := kept.sound.capacity
  publishes _ _ past here := (kept.obeys _ past here).asks
  readies _ past here := by
    rcases (kept.obeys _ past here).asks with ⟨gate, clean⟩
    exact ⟨gate, kept.named.unambiguous clean⟩
  settled key ambiguous later event rest past leads := by
    have still := Ambiguous.run kept ambiguous leads
    refine ⟨still, ?_⟩
    rintro here rfl
    have row : StagedRow later.engine event :=
      ((kept.run leads).obeys _ past here).asks
    exact row.unambiguous still

/--
For any interleaving of transactions that stage critical events with the
recordings of publications the unconfirmed rows of a producer stay within its
capacity; a row is added only for a stage that was admitted, and a refused one
leaves the outbox.  Whatever transactions do meanwhile, a recovery publishes
staged rows only, an ambiguous row stays so and is never published again, and
the broker is marked ready only when this drain saw every publication
confirmed, each configured drone without a staged row after the last of them,
and no row is ambiguous.
-/
theorem criticalOutbox_bounded_gated (configured : List String) :
    (∀ (statements : List (Statement σ)) (viewer : Option σ)
        (producer : String),
      Fits ((run Engine.step Engine.empty statements).unconfirmed viewer
        producer)) ∧
    (∀ (statements : List (Statement σ)) (session : σ) (statement : Act),
      (∀ held ∈ ((run Engine.step Engine.empty statements).act session
          statement).outbox.rows,
        (∃ before ∈ (run Engine.step Engine.empty statements).outbox.rows,
          before.row = held.row) ∨
        (statement = .insert ∧
          Admitted (run Engine.step Engine.empty statements) session
            held.row.event)) ∧
      ∀ refusal,
        (run Engine.step Engine.empty statements).perform session
            statement = .error (.refused refusal) →
          ((run Engine.step Engine.empty statements).act session
              statement).outbox =
            (run Engine.step Engine.empty statements).outbox ∧
          ((run Engine.step Engine.empty statements).act session
              statement).stages session = none) ∧
    ∀ system : System σ, System.Leads configured .initial system →
      system.Safe configured := by
  have sound (statements : List (Statement σ)) :
      Sound (run Engine.step Engine.empty statements) :=
    sound_empty.run statements
  refine ⟨?_, ?_, ?_⟩
  · exact fun statements => (sound statements).capacity
  · intro statements session statement
    refine ⟨act_adds (sound statements) session statement, ?_⟩
    exact fun refusal refused => act_refused refused
  · intro system leads
    exact ((System.kept_initial configured).run leads).safe

/-! ### A drain -/

/-- A critical event of a drone. -/
def takeoff : StagedApplicationEvent where
  producer := "urn:aerial-rescue:drone:alpha"
  eventId := "takeoff"
  family := "drone-event"
  topic := "aerial-rescue/v1/takeoff"
  headers := [1]
  payload := [2]
  traceparent := "00-1-1-01"
  tracestate := none
  correlationId := "takeoff"
  causationId := none
  stagedAt := "2026-01-01T00:00:00.000Z"

/-- The engine after statements of one transaction. -/
def Engine.afterActs : Engine Unit → List Act → Engine Unit
  | engine, [] => engine
  | engine, act :: rest => afterActs (engine.act () act) rest

theorem leads_afterActs (configured : List String) (engine : Engine Unit)
    (acts : List Act) :
    System.Leads configured ⟨engine, none⟩
      ⟨Engine.afterActs engine acts, none⟩ := by
  induction acts generalizing engine with
  | nil => exact .refl
  | cons act rest inductionHypothesis =>
      exact .head (.act engine () act none) (inductionHypothesis _)

/-- The event is staged and its transaction committed. -/
def stocked : Engine Unit :=
  Engine.afterActs Engine.empty
    [.register ⟨"alpha", "urn:aerial-rescue:drone:alpha"⟩ takeoff, .lock,
      .measure, .insert, .commit]

/-- The broker confirms the event. -/
def sent : PublicationResult where
  outcome := .confirmed
  confirmedAt := some "2026-01-01T00:00:01.000Z"
  evidence := by decide
  instant := by decide

/-- The engine once the confirmation is recorded. -/
def delivered : Engine Unit :=
  (stocked.record (keyOf takeoff) .confirm sent.confirmedAt).getD stocked

theorem record_takeoff :
    stocked.record (keyOf takeoff) .confirm sent.confirmedAt =
      some delivered := by
  have recorded : (stocked.record (keyOf takeoff) .confirm
      sent.confirmedAt).isSome = true := by decide
  rw [delivered]
  cases found : stocked.record (keyOf takeoff) .confirm sent.confirmedAt with
  | none =>
      rw [found] at recorded
      cases recorded
  | some next => rfl

/-- A recovery that publishes the event and marks the broker ready. -/
theorem leads_ready :
    ∃ rest past, System.Leads ["alpha"] (System.initial : System Unit)
      ⟨delivered, some (.ask .markReady rest, past)⟩ ∧
        ∃ entry ∈ past, IsPublication entry.2 := by
  have unambiguous :
      responds stocked (.reconciliation "alpha") (.ok []) stocked := by
    refine ⟨rfl, ?_⟩
    rintro events ⟨⟩
    decide
  have pending :
      responds stocked (.pending "alpha") (.ok [takeoff]) stocked := by
    refine ⟨rfl, ?_⟩
    rintro events ⟨⟩
    decide
  have published :
      responds stocked (.publish takeoff) (.ok sent) stocked := rfl
  have recorded : responds stocked
      (.record (keyOf takeoff) .confirm sent.confirmedAt) (.ok ())
      delivered :=
    .inl record_takeoff
  have emptied : responds delivered (.pending "alpha") (.ok []) delivered := by
    refine ⟨rfl, ?_⟩
    rintro events ⟨⟩
    decide
  have stocks : System.Leads ["alpha"] (System.initial : System Unit)
      ⟨stocked, none⟩ :=
    leads_afterActs _ _ _
  have looks := (stocks.tail (.begin _ true)).tail
    (.answer _ _ _ _ _ _ unambiguous)
  have connects := (looks.tail (.answer _ _ .recoveryRequired () _ _ rfl)).tail
    (.answer _ _ .isConnected true _ _ rfl)
  have publishes := (connects.tail (.answer _ _ _ _ _ _ pending)).tail
    (.answer _ _ _ _ _ _ published)
  have empties := (publishes.tail (.answer _ _ _ _ _ _ recorded)).tail
    (.answer _ _ _ _ _ _ emptied)
  refine ⟨_, _, empties, (stocked, ⟨.publish takeoff, .ok sent⟩), ?_,
    takeoff, rfl⟩
  exact List.mem_append_left _ (List.mem_append_left _
    (List.mem_append_right _ (List.mem_singleton_self _)))

/-- The drain of one staged event, up to the broker's readiness. -/
theorem criticalOutbox_bounded_gated_takeoff :
    ∃ system : System Unit, System.Leads ["alpha"] .initial system ∧
      (∃ rest past, system.recovery = some (.ask .markReady rest, past) ∧
        ∃ entry ∈ past, IsPublication entry.2) ∧
      system.Safe ["alpha"] := by
  rcases leads_ready with ⟨rest, past, leads, entry, member, published⟩
  exact ⟨_, leads, ⟨rest, past, rfl, entry, member, published⟩,
    (criticalOutbox_bounded_gated ["alpha"]).2.2 _ leads⟩

end AerialRescue.Fleet.Recovery
