import AerialRescue.Fleet.CriticalOutbox
import Mathlib.Data.List.Dedup

/-!
# The gate of a recovery

What the world keeps of the rows of the outbox, and what therefore holds
whenever a recovery publishes an event or marks the broker ready.
-/

namespace AerialRescue.Fleet.Recovery

open AerialRescue.Domain.Commands
open AerialRescue.Fleet.Sessions
open AerialRescue.Lib AerialRescue.Lib.Guard AerialRescue.Lib.Clients
open AerialRescue.Store

variable {σ : Type} [DecidableEq σ]

/-! ## What statements do to rows -/

/-- What one statement of a transaction does to the rows of the outbox. -/
inductive RowChange (engine : Engine σ) (session : σ) (act : Act)
    (after : List (Held ApplicationOutboxRow σ)) : Prop where
  | same (rows : after = engine.outbox.rows)
  | inserted (stage : Stage) (insert : act = .insert)
      (entry : engine.stages session = some stage)
      (admitted : stage.phase = .admitted)
      (rows : after = engine.outbox.rows ++
        [Engine.insertedRow session stage.event])
  | released (rows : after = engine.outbox.rows.map (Held.release session))
  | removed
      (rows : after = engine.outbox.rows.filter fun held =>
        held.holder ≠ some session)

theorem act_change (engine : Engine σ) (session : σ) (act : Act) :
    RowChange engine session act (engine.act session act).outbox.rows := by
  unfold Engine.act
  cases performed : engine.perform session act with
  | error stop =>
      cases stop with
      | waits => exact .same rfl
      | outOfTurn => exact .same rfl
      | refused refusal => exact .same rfl
  | ok next =>
      cases act with
      | register identity event =>
          simp only [Engine.perform, bind_eq_ok, pure_eq_ok] at performed
          rcases performed with ⟨_, _, _, _, _, _, rfl⟩
          exact .same rfl
      | lock =>
          simp only [Engine.perform, Engine.acquire, bind_eq_ok, pure_eq_ok]
            at performed
          rcases performed with ⟨_, _, _, _, _, _, _, _, _, _, rfl⟩
          exact .same rfl
      | measure =>
          simp only [Engine.perform, Engine.checkCapacity, bind_eq_ok, pure_eq_ok]
            at performed
          rcases performed with ⟨_, _, _, _, _, _, _, _, rfl⟩
          exact .same rfl
      | insert =>
          simp only [Engine.perform, bind_eq_ok, present_eq_ok, ensure_eq_ok]
            at performed
          rcases performed with ⟨stage, entry, _, phase, inserted⟩
          unfold Engine.insert at inserted
          split at inserted
          · rename_i outbox grown
            cases inserted
            exact .inserted stage rfl entry phase (Table.insert?_rows grown)
          · split at inserted
            · cases inserted
            · cases inserted
      | commit =>
          simp only [Engine.perform, bind_eq_ok, pure_eq_ok] at performed
          rcases performed with ⟨_, _, rfl⟩
          exact .released rfl
      | rollback =>
          simp only [Engine.perform, pure_eq_ok] at performed
          rw [← performed]
          exact .removed rfl

/-- A committed row of an event that is staged. -/
def StagedRow (engine : Engine σ) (event : StagedApplicationEvent) : Prop :=
  ∃ held ∈ engine.outbox.rows,
    held.holder = none ∧ held.row.event = event ∧ held.row.state = .staged

/-- The row of a key is ambiguous. -/
def Ambiguous (engine : Engine σ) (key : String × String) : Prop :=
  ∃ held ∈ engine.outbox.rows,
    outboxKey held = key ∧ held.row.state = .reconciliationNeeded

/-- No row of the drones is ambiguous. -/
def Clean (droneIds : List String) (engine : Engine σ) : Prop :=
  ∀ held ∈ engine.outbox.rows,
    held.row.event.producer ∈ droneIds.map eventSource →
      held.row.state ≠ .reconciliationNeeded

/-- No committed row of the drone is staged. -/
def NothingStaged (engine : Engine σ) (droneId : String) : Prop :=
  ∀ held ∈ engine.outbox.rows, held.holder = none →
    held.row.event.producer = eventSource droneId →
      held.row.state ≠ .staged

section Rows

variable {engine next : Engine σ} {session : σ} {statement : Act}

/-- A statement of a transaction leaves the committed rows. -/
theorem act_committed {held : Held ApplicationOutboxRow σ}
    (member : held ∈ engine.outbox.rows) (committed : held.holder = none) :
    held ∈ (engine.act session statement).outbox.rows := by
  rcases act_change engine session statement with
    rows | ⟨stage, _, _, _, rows⟩ | rows | rows
  · exact rows ▸ member
  · rw [rows]
    exact List.mem_append_left _ member
  · rw [rows, List.mem_map]
    refine ⟨held, member, ?_⟩
    rw [Held.release, committed, if_neg (by simp)]
  · rw [rows, List.mem_filter, committed]
    exact ⟨member, by simp⟩

/-- A row after a statement was there before it, or is newly staged. -/
theorem act_source {held : Held ApplicationOutboxRow σ}
    (member : held ∈ (engine.act session statement).outbox.rows) :
    (∃ before ∈ engine.outbox.rows, before.row = held.row) ∨
      held.row.state = .staged := by
  rcases act_change engine session statement with
    rows | ⟨stage, _, _, _, rows⟩ | rows | rows
  · exact .inl ⟨held, rows ▸ member, rfl⟩
  · rw [rows, List.mem_append, List.mem_singleton] at member
    rcases member with before | rfl
    · exact .inl ⟨held, before, rfl⟩
    · exact .inr rfl
  · rw [rows, List.mem_map] at member
    rcases member with ⟨before, among, rfl⟩
    exact .inl ⟨before, among, (Held.release_row session before).symm⟩
  · rw [rows, List.mem_filter] at member
    exact .inl ⟨held, member.1, rfl⟩

theorem StagedRow.act {event : StagedApplicationEvent}
    (staged : StagedRow engine event) :
    StagedRow (engine.act session statement) event := by
  rcases staged with ⟨held, member, committed, same, state⟩
  exact ⟨held, act_committed member committed, committed, same, state⟩

theorem Clean.act {droneIds : List String} (clean : Clean droneIds engine) :
    Clean droneIds (engine.act session statement) := by
  intro held member named
  rcases act_source member with ⟨before, among, same⟩ | staged
  · rw [← same] at named ⊢
    exact clean before among named
  · rw [staged]
    decide

/-- An ambiguous row stays ambiguous. -/
theorem Ambiguous.act {key : String × String} (sound : Sound engine)
    (ambiguous : Ambiguous engine key) :
    Ambiguous (engine.act session statement) key := by
  rcases ambiguous with ⟨held, member, same, state⟩
  have committed : held.holder = none := by
    by_contra open'
    rw [sound.fresh held member open'] at state
    cases state
  exact ⟨held, act_committed member committed, same, state⟩

variable {key : String × String} {event : OutboxEvent}
  {confirmedAt : Option String}

omit [DecidableEq σ] in
/-- A recording leaves the rows of other keys. -/
theorem record_other
    (recorded : engine.record key event confirmedAt = some next)
    {held : Held ApplicationOutboxRow σ} (member : held ∈ engine.outbox.rows)
    (other : outboxKey held ≠ key) : held ∈ next.outbox.rows := by
  rcases record_spec recorded with ⟨_, became, _, _, _, _, rfl⟩
  exact (Table.mem_amend _ _ (Engine.become became confirmedAt)
    fun _ => rfl).2 (.inr ⟨member, other⟩)

omit [DecidableEq σ] in
theorem StagedRow.record {staged : StagedApplicationEvent}
    (row : StagedRow engine staged)
    (recorded : engine.record key event confirmedAt = some next)
    (other : keyOf staged ≠ key) : StagedRow next staged := by
  rcases row with ⟨held, member, committed, rfl, state⟩
  exact ⟨held, record_other recorded member other, committed, rfl, state⟩

omit [DecidableEq σ] in
theorem Ambiguous.record {other : String × String}
    (ambiguous : Ambiguous engine other)
    (recorded : engine.record key event confirmedAt = some next) :
    Ambiguous next other := by
  rcases ambiguous with ⟨held, member, rfl, state⟩
  refine ⟨held, record_other recorded member ?_, rfl, state⟩
  intro same
  rcases record_spec recorded with ⟨target, _, found, _, staged, _, _⟩
  rw [Table.eq_of_key member (Table.find?_mem found)
    (same.trans (Table.find?_key found).symm), staged] at state
  cases state

omit [DecidableEq σ] in
/-- A confirmation makes no row ambiguous. -/
theorem Clean.confirm {droneIds : List String}
    (clean : Clean droneIds engine)
    (recorded : engine.record key .confirm confirmedAt = some next) :
    Clean droneIds next := by
  rcases record_spec recorded with ⟨_, became, found, _, _, moves, rfl⟩
  cases moves
  intro held member named
  rcases (Table.mem_amend _ _ (Engine.become .confirmed confirmedAt)
    fun _ => rfl).1 member with ⟨before, _, rfl⟩ | ⟨among, _⟩
  · exact OutboxState.noConfusion
  · exact clean held among named

omit [DecidableEq σ] in
/-- A staged row is not ambiguous. -/
theorem StagedRow.unambiguous {staged : StagedApplicationEvent}
    (row : StagedRow engine staged) : ¬Ambiguous engine (keyOf staged) := by
  rintro ⟨held, member, same, state⟩
  rcases row with ⟨other, among, _, rfl, stagedState⟩
  rw [Table.eq_of_key member among same, stagedState] at state
  cases state

end Rows

/-! ## What a read shows -/

omit [DecidableEq σ] in
theorem mem_selection {engine : Engine σ} {producer : String}
    {state : OutboxState} {event : StagedApplicationEvent}
    (member : event ∈ selection engine producer state) :
    event.producer = producer ∧
      ∃ held ∈ engine.outbox.rows, held.holder = none ∧
        held.row.event = event ∧ held.row.state = state := by
  have sorted := List.mem_of_mem_take member
  rw [List.mem_insertionSort, List.mem_map] at sorted
  rcases sorted with ⟨held, among, rfl⟩
  rcases List.mem_filter.1 among with ⟨inRows, holds⟩
  rw [decide_eq_true_eq] at holds
  exact ⟨holds.2.1, held, inRows, Option.isNone_iff_eq_none.1 holds.1, rfl,
    holds.2.2⟩

omit [DecidableEq σ] in
/-- A read that shows nothing shows that there is nothing. -/
theorem selection_nil {engine : Engine σ} {producer : String}
    {state : OutboxState} (empty : selection engine producer state = []) :
    ∀ held ∈ engine.outbox.rows, held.holder = none →
      held.row.event.producer = producer → held.row.state ≠ state := by
  intro held member holder named here
  have among : held ∈ committed engine producer state := by
    refine List.mem_filter.2 ⟨member, ?_⟩
    rw [decide_eq_true_eq, holder]
    exact ⟨rfl, named, here⟩
  have sorted : held.row.event ∈
      ((committed engine producer state).map fun held =>
        held.row.event).insertionSort Earlier :=
    (List.mem_insertionSort _).2 (List.mem_map_of_mem among)
  rw [selection, List.take_eq_nil_iff] at empty
  rcases empty with impossible | nothing
  · cases impossible
  · rw [nothing] at sorted
    cases sorted

omit [DecidableEq σ] in
theorem selection_nodup (engine : Engine σ) (producer : String)
    (state : OutboxState) :
    ((selection engine producer state).map keyOf).Nodup := by
  have keys : ((committed engine producer state).map outboxKey).Nodup :=
    engine.outbox.distinct.sublist (List.filter_sublist.map _)
  have events : (((committed engine producer state).map fun held =>
      held.row.event).map keyOf).Nodup := by
    rw [List.map_map]
    exact keys
  have sorted := ((List.perm_insertionSort Earlier
    ((committed engine producer state).map fun held =>
      held.row.event)).map keyOf).nodup_iff.2 events
  exact sorted.sublist ((List.take_sublist _ _).map _)

/-- What passes the check of its family is unchanged. -/
theorem requireCritical_mapM {pending events : List StagedApplicationEvent}
    (mapped : pending.mapM requireCritical = .ok events) :
    events = pending := by
  induction pending generalizing events with
  | nil =>
      cases mapped
      rfl
  | cons head rest inductionHypothesis =>
      simp only [List.mapM_cons, requireCritical, bind_eq_ok, pure_eq_ok]
        at mapped
      rcases mapped with ⟨_, ⟨_, _, rfl⟩, others, later, rfl⟩
      rw [inductionHypothesis later]

theorem checkBatch_ok {droneId : String}
    {pending events : List StagedApplicationEvent}
    (checked : checkBatch droneId pending = .ok events) :
    events = pending := by
  simp only [checkBatch, bind_eq_ok] at checked
  rcases checked with ⟨_, _, mapped⟩
  exact requireCritical_mapM mapped

/-! ## What is asked -/

/-- The exchange is a publication. -/
def IsPublication (exchange : Exchange Query Answer) : Prop :=
  ∃ event, exchange.query = .publish event

/-- Nothing was published. -/
def Unpublished (past : Past (Engine σ) Query Answer) : Prop :=
  ∀ entry ∈ past, ¬IsPublication entry.2

/-- A publication that the exchange may be was confirmed. -/
def WasConfirmed (exchange : Exchange Query Answer) : Prop :=
  ∀ event (answer : Except Unit PublicationResult),
    exchange = ⟨.publish event, answer⟩ →
      ∃ result, answer = .ok result ∧ result.outcome = .confirmed

/-- Since an exchange, nothing was published and each of the drones was read
and had no staged row. -/
def ReadEmpty (earlier : Past (Engine σ) Query Answer)
    (droneIds : List String) (past : Past (Engine σ) Query Answer) : Prop :=
  ∃ reads, past = earlier ++ reads ∧ Unpublished reads ∧
    ∀ droneId ∈ droneIds, ∃ entry ∈ reads,
      entry.2 = ⟨.pending droneId, .ok []⟩ ∧ NothingStaged entry.1 droneId

/-- What a recovery has seen when it marks the broker ready. -/
structure Gate (configured : List String)
    (past : Past (Engine σ) Query Answer) : Prop where
  confirmed : ∀ entry ∈ past, WasConfirmed entry.2
  emptied : ∃ earlier, ReadEmpty earlier configured past

/-- When a recovery may ask its queries. -/
def asked (configured : List String) (engine : Engine σ)
    (past : Past (Engine σ) Query Answer) : Query → Prop
  | .publish event => StagedRow engine event
  | .markReady => Gate configured past ∧ Clean configured engine
  | .record key _ _ => key.1 ∈ configured.map eventSource
  | _ => True

/-- What the counts of a drain say of its past and of the outbox. -/
structure Tallied (configured : List String) (counts : Counts)
    (engine : Engine σ) (past : Past (Engine σ) Query Answer) : Prop where
  sound : Sound engine
  confirmed : counts.refused = 0 → counts.ambiguous = 0 →
    ∀ entry ∈ past, WasConfirmed entry.2
  clean : counts.ambiguous = 0 → Clean configured engine

theorem Tallied.stable (configured : List String) (counts : Counts) :
    Stable (outboxWorld σ) (Tallied configured counts) := by
  rintro engine next past tallied ⟨session, act, rfl⟩
  constructor
  · exact tallied.sound.step (.act session act)
  · exact tallied.confirmed
  · exact fun none => (tallied.clean none).act

/-- An exchange that is no publication leaves the counts. -/
theorem Tallied.exchange {configured : List String} {counts : Counts}
    {engine : Engine σ} {past : Past (Engine σ) Query Answer}
    (tallied : Tallied configured counts engine past)
    {entry : Engine σ × Exchange Query Answer}
    (other : ¬IsPublication entry.2) :
    Tallied configured counts engine (past ++ [entry]) := by
  refine ⟨tallied.sound, fun refused ambiguous => ?_, tallied.clean⟩
  intro each member
  rcases List.mem_append.1 member with before | now
  · exact tallied.confirmed refused ambiguous each before
  · rw [List.mem_singleton.1 now]
    intro event answer same
    exact absurd ⟨event, by rw [same]⟩ other

/-! ### Batches -/

variable {configured : List String} {counts : Counts}

/-- A batch of events that can be published. -/
structure Publishable (configured : List String)
    (events : List StagedApplicationEvent) (engine : Engine σ) : Prop where
  staged : ∀ event ∈ events, StagedRow engine event
  named : ∀ event ∈ events, event.producer ∈ configured.map eventSource
  distinct : (events.map keyOf).Nodup

theorem Publishable.stable (configured : List String)
    (events : List StagedApplicationEvent) :
    Stable (outboxWorld σ) fun engine _ =>
      Publishable configured events engine := by
  rintro engine next past publishable ⟨session, act, rfl⟩
  exact ⟨fun event member => (publishable.staged event member).act,
    publishable.named, publishable.distinct⟩

omit [DecidableEq σ] in
theorem Publishable.tail {engine : Engine σ} {event : StagedApplicationEvent}
    {rest : List StagedApplicationEvent}
    (publishable : Publishable configured (event :: rest) engine) :
    keyOf event ∉ rest.map keyOf ∧ Publishable configured rest engine := by
  have distinct := publishable.distinct
  rw [List.map_cons, List.nodup_cons] at distinct
  exact ⟨distinct.1,
    fun other member => publishable.staged other (List.mem_cons_of_mem _ member),
    fun other member => publishable.named other (List.mem_cons_of_mem _ member),
    distinct.2⟩

/-- A batch shows staged rows of one drone, or that there are none. -/
theorem keeps_batch {droneId : String} (among : droneId ∈ configured)
    (history : Past (Engine σ) Query Answer) :
    Keeps (outboxWorld σ) (asked configured)
      (fun engine past =>
        Tallied configured counts engine past ∧ past = history)
      (batch droneId)
      fun events engine past =>
        (Tallied configured counts engine past ∧
            Publishable configured events engine) ∧
          past = history ++ [(engine, ⟨.pending droneId, .ok events⟩)] ∧
            (events = [] → NothingStaged engine droneId) := by
  have stable : Stable (outboxWorld σ) fun engine past =>
      Tallied configured counts engine past ∧ past = history :=
    (Tallied.stable configured counts).and fun _ _ _ same _ => same
  refine Keeps.query stable ?_
  rintro engine past ⟨tallied, rfl⟩
  refine ⟨trivial, ?_⟩
  rintro answer next events ⟨rfl, shows⟩ read
  rcases bind_eq_ok.1 read with ⟨pending, received, checked⟩
  have same : answer = .ok pending := recast_eq_ok.1 received
  rw [← checkBatch_ok checked] at same
  have selected := shows events same
  refine ⟨⟨tallied.exchange ?_, ?_, ?_, ?_⟩, by rw [same], ?_⟩
  · rintro ⟨event, impossible⟩
    cases impossible
  · intro event member
    rw [selected] at member
    exact (mem_selection member).2
  · intro event member
    rw [selected] at member
    exact List.mem_map.2 ⟨droneId, among, (mem_selection member).1.symm⟩
  · rw [selected]
    exact selection_nodup _ _ _
  · intro empty
    rw [empty] at selected
    exact selection_nil selected.symm

/-! ### Publications -/

/-- A publication is counted; its row is still staged. -/
theorem Tallied.publish {engine : Engine σ} {past : Past (Engine σ) Query Answer}
    (tallied : Tallied configured counts engine past)
    (event : StagedApplicationEvent) (result : PublicationResult) :
    Tallied configured (counts.add result.outcome) engine
      (past ++ [(engine, ⟨.publish event, .ok result⟩)]) := by
  refine ⟨tallied.sound, fun refused ambiguous => ?_, fun ambiguous => ?_⟩
  · cases outcome : result.outcome with
    | confirmed =>
        rw [outcome] at refused ambiguous
        intro each member
        rcases List.mem_append.1 member with before | now
        · exact tallied.confirmed refused ambiguous each before
        · rw [List.mem_singleton.1 now]
          rintro other answer same
          cases same
          exact ⟨result, rfl, outcome⟩
    | refused =>
        rw [outcome] at refused
        cases refused
    | ambiguous =>
        rw [outcome] at ambiguous
        cases ambiguous
  · refine tallied.clean ?_
    cases outcome : result.outcome with
    | confirmed =>
        rw [outcome] at ambiguous
        exact ambiguous
    | refused =>
        rw [outcome] at ambiguous
        exact ambiguous
    | ambiguous =>
        rw [outcome] at ambiguous
        cases ambiguous

/-- A recording leaves the counts right, and the other events staged. -/
theorem keeps_transition {event : StagedApplicationEvent}
    {rest : List StagedApplicationEvent} (fresh : keyOf event ∉ rest.map keyOf)
    (named : event.producer ∈ configured.map eventSource)
    (move : OutboxEvent) (confirmedAt : Option String)
    (counted : move = .confirm ∨ counts.ambiguous ≠ 0) :
    Keeps (outboxWorld σ) (asked configured)
      (fun engine past =>
        Tallied configured counts engine past ∧ Publishable configured rest engine)
      (Client.query (.record (keyOf event) move confirmedAt)
        (recast fun _ => RecoveryFailure.port))
      fun _ engine past =>
        Tallied configured counts engine past ∧ Publishable configured rest engine := by
  have stable : Stable (outboxWorld σ) fun engine past =>
      Tallied configured counts engine past ∧ Publishable configured rest engine :=
    (Tallied.stable configured counts).and (Publishable.stable _ rest)
  refine Keeps.query stable ?_
  rintro engine past ⟨tallied, publishable⟩
  refine ⟨named, ?_⟩
  rintro answer next ⟨⟩ responded received
  have ended : answer = .ok () := recast_eq_ok.1 received
  have recorded : engine.record (keyOf event) move confirmedAt =
      some next := by
    rcases responded with recorded | ⟨impossible, _⟩
    · exact recorded
    · rw [ended] at impossible
      cases impossible
  have moved : Tallied configured counts next past := by
    refine ⟨tallied.sound.record recorded, tallied.confirmed, ?_⟩
    intro ambiguous
    rcases counted with rfl | positive
    · exact (tallied.clean ambiguous).confirm recorded
    · exact absurd ambiguous positive
  refine ⟨?_, fun other member => ?_, publishable.named,
    publishable.distinct⟩
  · refine ⟨moved.sound, fun refused ambiguous => ?_, moved.clean⟩
    intro each member
    rcases List.mem_append.1 member with before | now
    · exact moved.confirmed refused ambiguous each before
    · rw [List.mem_singleton.1 now]
      intro published other same
      cases same
  · refine (publishable.staged other member).record recorded fun same => ?_
    exact fresh (same ▸ List.mem_map_of_mem member)

theorem keeps_record {event : StagedApplicationEvent}
    {rest : List StagedApplicationEvent} (result : PublicationResult)
    (fresh : keyOf event ∉ rest.map keyOf)
    (named : event.producer ∈ configured.map eventSource) :
    Keeps (outboxWorld σ) (asked configured)
      (fun engine past =>
        Tallied configured (counts.add result.outcome) engine past ∧
          Publishable configured rest engine)
      (record event result)
      fun _ engine past =>
        Tallied configured (counts.add result.outcome) engine past ∧
          Publishable configured rest engine := by
  unfold record
  cases result.outcome with
  | refused => exact Keeps.pure fun _ _ held => held
  | confirmed => exact keeps_transition fresh named .confirm _ (.inl rfl)
  | ambiguous =>
      exact keeps_transition fresh named .ambiguous _
        (.inr (Nat.succ_ne_zero _))

theorem keeps_publishBatch (events : List StagedApplicationEvent)
    (counts : Counts) :
    Keeps (outboxWorld σ) (asked configured)
      (fun engine past =>
        Tallied configured counts engine past ∧
          Publishable configured events engine)
      (publishBatch events counts)
      fun counted engine past =>
        Tallied configured counted engine past := by
  induction events generalizing counts with
  | nil => exact Keeps.pure fun _ _ held => held.1
  | cons event rest inductionHypothesis =>
      have stable : Stable (outboxWorld σ) fun engine past =>
          Tallied configured counts engine past ∧
            Publishable configured (event :: rest) engine :=
        (Tallied.stable configured counts).and (Publishable.stable _ _)
      have publishes : Keeps (outboxWorld σ) (asked configured)
          (fun engine past => Tallied configured counts engine past ∧
            Publishable configured (event :: rest) engine)
          (Client.query (.publish event) (recast fun _ =>
            RecoveryFailure.port))
          fun (result : PublicationResult) engine past =>
            Tallied configured (counts.add result.outcome) engine past ∧
              Publishable configured (event :: rest) engine := by
        refine Keeps.query stable ?_
        rintro engine past ⟨tallied, publishable⟩
        refine ⟨publishable.staged event List.mem_cons_self, ?_⟩
        rintro answer next result rfl received
        have ended : answer = .ok result := recast_eq_ok.1 received
        rw [ended]
        exact ⟨tallied.publish event result, publishable⟩
      refine Keeps.bind publishes fun result => ?_
      rintro engine past ⟨tallied, publishable⟩
      have named := publishable.named event List.mem_cons_self
      have goesOn : Keeps (outboxWorld σ) (asked configured) _
          (do
            record event result
            publishBatch rest (counts.add result.outcome)) _ :=
        Keeps.bind (keeps_record result publishable.tail.1 named) fun _ =>
          inductionHypothesis (counts.add result.outcome)
      exact goesOn engine past ⟨tallied, publishable.tail.2⟩

theorem keeps_drainDrones {droneIds : List String}
    (among : ∀ droneId ∈ droneIds, droneId ∈ configured) (counts : Counts) :
    Keeps (outboxWorld σ) (asked configured) (Tallied configured counts)
      (drainDrones droneIds counts)
      fun counted engine past =>
        Tallied configured counted engine past := by
  induction droneIds generalizing counts with
  | nil => exact Keeps.pure fun _ _ held => held
  | cons droneId rest inductionHypothesis =>
      have reads : Keeps (outboxWorld σ) (asked configured)
          (Tallied configured counts) (batch droneId)
          fun events engine past =>
            Tallied configured counts engine past ∧
              Publishable configured events engine :=
        Keeps.fix fun history =>
          (keeps_batch (among droneId List.mem_cons_self) history).imp (fun _ _ held => held)
            fun _ _ _ held => held.1
      refine Keeps.bind reads fun events => ?_
      refine Keeps.bind (keeps_publishBatch events counts) fun counted => ?_
      exact inductionHypothesis
        (fun other member => among other (List.mem_cons_of_mem _ member))
        counted

/-! ### The gate -/

omit [DecidableEq σ] in
/-- A read of one drone after others. -/
theorem ReadEmpty.snoc {earlier past : Past (Engine σ) Query Answer}
    {droneIds : List String} (empty : ReadEmpty earlier droneIds past)
    {engine : Engine σ} {droneId : String}
    (nothing : NothingStaged engine droneId) :
    ReadEmpty earlier (droneIds ++ [droneId])
      (past ++ [(engine, ⟨.pending droneId, .ok []⟩)]) := by
  rcases empty with ⟨reads, rfl, unpublished, each⟩
  refine ⟨reads ++ [(engine, ⟨.pending droneId, .ok []⟩)],
    List.append_assoc .., ?_, ?_⟩
  · intro entry member
    rcases List.mem_append.1 member with before | now
    · exact unpublished entry before
    · rw [List.mem_singleton.1 now]
      rintro ⟨event, impossible⟩
      cases impossible
  · intro other member
    rcases List.mem_append.1 member with before | now
    · rcases each other before with ⟨entry, among, same⟩
      exact ⟨entry, List.mem_append_left _ among, same⟩
    · rw [List.mem_singleton.1 now]
      exact ⟨_, List.mem_append_right _ (List.mem_singleton_self _), rfl,
        nothing⟩

theorem keeps_hasPending (earlier : Past (Engine σ) Query Answer)
    {droneIds : List String} (done : List String)
    (among : ∀ droneId ∈ droneIds, droneId ∈ configured) :
    Keeps (outboxWorld σ) (asked configured)
      (fun engine past => Tallied configured counts engine past ∧
        ReadEmpty earlier done past)
      (hasPending droneIds)
      fun left engine past => Tallied configured counts engine past ∧
        (left = false → ReadEmpty earlier (done ++ droneIds) past) := by
  induction droneIds generalizing done with
  | nil =>
      refine Keeps.pure fun engine past held => ⟨held.1, fun _ => ?_⟩
      rw [List.append_nil]
      exact held.2
  | cons droneId rest inductionHypothesis =>
      have reads : Keeps (outboxWorld σ) (asked configured)
          (fun engine past => Tallied configured counts engine past ∧
            ReadEmpty earlier done past)
          (batch droneId)
          fun events engine past =>
            Tallied configured counts engine past ∧
              (events = [] →
                ReadEmpty earlier (done ++ [droneId]) past) := by
        rintro engine past ⟨tallied, empty⟩
        refine (keeps_batch (among droneId List.mem_cons_self) past engine
          past ⟨tallied, rfl⟩).imp ?_
        intro result later history ends events same
        rcases ends events same with ⟨⟨counted, _⟩, rfl, shows⟩
        refine ⟨counted, ?_⟩
        rintro rfl
        exact empty.snoc (shows rfl)
      refine Keeps.bind reads fun events => ?_
      split
      · refine Keeps.pure fun engine past held => ⟨held.1, ?_⟩
        intro impossible
        cases impossible
      · rename_i none
        have goesOn := inductionHypothesis (done ++ [droneId])
          fun other member => among other (List.mem_cons_of_mem _ member)
        rw [List.append_assoc, List.singleton_append] at goesOn
        exact goesOn.imp
          (fun engine past held => ⟨held.1, held.2 (not_not.1 none)⟩)
          fun _ _ _ held => held

/-- Nothing is left to resolve only after a read of each drone that showed
nothing. -/
theorem keeps_isUnresolved {droneIds : List String}
    (among : ∀ droneId ∈ droneIds, droneId ∈ configured) :
    Keeps (outboxWorld σ) (asked configured) (Tallied configured counts)
      (isUnresolved droneIds counts)
      fun unresolved engine past => Tallied configured counts engine past ∧
        (unresolved = false → counts.refused = 0 ∧ counts.ambiguous = 0 ∧
          ∃ earlier, ReadEmpty earlier droneIds past) := by
  unfold isUnresolved
  split
  · refine Keeps.pure fun engine past tallied => ⟨tallied, ?_⟩
    intro impossible
    cases impossible
  · rename_i none
    intro engine past tallied
    have nothingYet : ReadEmpty past [] past :=
      ⟨[], (List.append_nil past).symm,
        fun _ member => absurd member List.not_mem_nil,
        fun _ member => absurd member List.not_mem_nil⟩
    refine (keeps_hasPending past [] among engine past
      ⟨tallied, nothingYet⟩).imp ?_
    intro result later history ends unresolved same
    rcases ends unresolved same with ⟨counted, empty⟩
    refine ⟨counted, fun resolved => ⟨?_, ?_, past, empty resolved⟩⟩
    · omega
    · omega

theorem keeps_concludeDrain {droneIds : List String}
    (whole : ∀ droneId ∈ configured, droneId ∈ droneIds)
    (unresolved : Bool) :
    Keeps (outboxWorld σ) (asked configured)
      (fun engine past => Tallied configured counts engine past ∧
        (unresolved = false → counts.refused = 0 ∧ counts.ambiguous = 0 ∧
          ∃ earlier, ReadEmpty earlier droneIds past))
      (concludeDrain counts unresolved)
      fun _ _ _ => True := by
  cases unresolved with
  | true => exact Keeps.pure fun _ _ _ => trivial
  | false =>
      have stable : Stable (outboxWorld σ) fun engine past =>
          Tallied configured counts engine past ∧
            (false = false → counts.refused = 0 ∧ counts.ambiguous = 0 ∧
              ∃ earlier, ReadEmpty earlier droneIds past) :=
        (Tallied.stable configured counts).and fun _ _ _ same _ => same
      have marks : Keeps (outboxWorld σ) (asked configured)
          (fun engine past => Tallied configured counts engine past ∧
            (false = false → counts.refused = 0 ∧ counts.ambiguous = 0 ∧
              ∃ earlier, ReadEmpty earlier droneIds past))
          (Client.query .markReady fun _ => .ok () : Recovering Unit)
          fun _ _ _ => True := by
        refine Keeps.query stable ?_
        rintro engine past ⟨tallied, resolved⟩
        rcases resolved rfl with
          ⟨refused, ambiguous, earlier, reads, same, unpublished, each⟩
        refine ⟨⟨⟨?_, earlier, reads, same, unpublished, ?_⟩, ?_⟩,
          fun _ _ _ _ _ => trivial⟩
        · exact tallied.confirmed refused ambiguous
        · exact fun droneId member => each droneId (whole droneId member)
        · exact tallied.clean ambiguous
      exact Keeps.bind marks fun _ => Keeps.pure fun _ _ _ => trivial

theorem keeps_drainConnected {droneIds : List String}
    (whole : ∀ droneId, droneId ∈ configured ↔ droneId ∈ droneIds) :
    Keeps (outboxWorld σ) (asked configured)
      (Tallied configured ⟨0, 0, 0⟩) (drainConnected droneIds)
      fun _ _ _ => True := by
  unfold drainConnected
  have among : ∀ droneId ∈ droneIds, droneId ∈ configured :=
    fun droneId => (whole droneId).2
  refine Keeps.bind (keeps_drainDrones among ⟨0, 0, 0⟩) fun counts => ?_
  refine Keeps.bind (keeps_isUnresolved among) fun unresolved => ?_
  exact keeps_concludeDrain (fun droneId => (whole droneId).1) unresolved

theorem mem_ordered {droneIds : List String} {droneId : String} :
    droneId ∈ ordered droneIds ↔ droneId ∈ droneIds :=
  List.mem_insertionSort _

/-- A query that is always allowed and leaves the outbox. -/
theorem keeps_plain {query : Query} {result : Answer query →
    Except RecoveryFailure α}
    (allowed : ∀ engine past, asked (σ := σ) configured engine past query)
    (quiet : ∀ engine next : Engine σ, ∀ answer,
      responds engine query answer next → next = engine)
    (other : ∀ event, query ≠ .publish event) :
    Keeps (outboxWorld σ) (asked configured) (Tallied configured counts)
      (Client.query query result)
      fun _ engine past => Tallied configured counts engine past := by
  refine Keeps.query (Tallied.stable configured counts) ?_
  intro engine past tallied
  refine ⟨allowed engine past, ?_⟩
  intro answer next value responded _
  rw [quiet engine next answer responded]
  refine tallied.exchange ?_
  rintro ⟨event, same⟩
  exact other event same

theorem keeps_drainRecovery {droneIds : List String}
    (whole : ∀ droneId, droneId ∈ configured ↔ droneId ∈ droneIds) :
    Keeps (outboxWorld σ) (asked configured)
      (Tallied configured ⟨0, 0, 0⟩) (drainRecovery droneIds)
      fun _ _ _ => True := by
  unfold drainRecovery
  have requires : Keeps (outboxWorld σ) (asked configured)
      (Tallied configured ⟨0, 0, 0⟩)
      (Client.query .recoveryRequired fun _ => .ok () : Recovering Unit)
      fun _ engine past => Tallied configured ⟨0, 0, 0⟩ engine past :=
    keeps_plain (fun _ _ => trivial) (fun _ _ _ same => same)
      fun _ impossible => Query.noConfusion impossible
  have looks : Keeps (outboxWorld σ) (asked configured)
      (Tallied configured ⟨0, 0, 0⟩)
      (Client.query .isConnected fun (connected : Bool) => .ok connected :
        Recovering Bool)
      fun _ engine past => Tallied configured ⟨0, 0, 0⟩ engine past :=
    keeps_plain (fun _ _ => trivial) (fun _ _ _ same => same)
      fun _ impossible => Query.noConfusion impossible
  refine Keeps.bind requires fun _ => Keeps.bind looks fun connected => ?_
  split
  · exact keeps_drainConnected fun droneId =>
      (whole droneId).trans mem_ordered.symm
  · exact Keeps.pure fun _ _ _ => trivial

/-! ### Ambiguous rows -/

/-- What a recovery knows while it looks for ambiguous rows. -/
structure Looked (droneIds : List String) (engine : Engine σ)
    (past : Past (Engine σ) Query Answer) : Prop where
  sound : Sound engine
  unpublished : Unpublished past
  clean : Clean droneIds engine

theorem Looked.stable (droneIds : List String) :
    Stable (outboxWorld σ) (Looked droneIds) := by
  rintro engine next past looked ⟨session, act, rfl⟩
  exact ⟨looked.sound.step (.act session act), looked.unpublished,
    looked.clean.act⟩

/-- A read that shows no ambiguous rows shows that there are none: what an
open transaction inserted is staged. -/
theorem clean_snoc {engine : Engine σ} (sound : Sound engine)
    {done : List String} {droneId : String} (clean : Clean done engine)
    (empty : selection engine (eventSource droneId)
      .reconciliationNeeded = []) :
    Clean (done ++ [droneId]) engine := by
  intro held member named
  rw [List.map_append, List.mem_append, List.map_singleton,
    List.mem_singleton] at named
  rcases named with before | here
  · exact clean held member before
  · by_cases committed : held.holder = none
    · exact selection_nil empty held member committed here
    · rw [sound.fresh held member committed]
      decide

theorem keeps_anyAmbiguous (droneIds done : List String) :
    Keeps (outboxWorld σ) (asked configured) (Looked done)
      (anyAmbiguous droneIds)
      fun found engine past => Sound engine ∧ Unpublished past ∧
        (found = false → Clean (done ++ droneIds) engine) := by
  induction droneIds generalizing done with
  | nil =>
      refine Keeps.pure fun engine past looked =>
        ⟨looked.sound, looked.unpublished, fun _ => ?_⟩
      rw [List.append_nil]
      exact looked.clean
  | cons droneId rest inductionHypothesis =>
      have reads : Keeps (outboxWorld σ) (asked configured) (Looked done)
          (Client.query (.reconciliation droneId) (recast fun _ => .port) :
            Recovering (List StagedApplicationEvent))
          fun events engine past => Sound engine ∧ Unpublished past ∧
            (events = [] → Clean (done ++ [droneId]) engine) := by
        refine Keeps.query (Looked.stable done) ?_
        intro engine past looked
        refine ⟨trivial, ?_⟩
        rintro answer next events ⟨rfl, shows⟩ received
        have same : answer = .ok events := recast_eq_ok.1 received
        refine ⟨looked.sound, ?_, fun empty => ?_⟩
        · intro entry member
          rcases List.mem_append.1 member with before | now
          · exact looked.unpublished entry before
          · rw [List.mem_singleton.1 now]
            rintro ⟨event, impossible⟩
            cases impossible
        · have selected := shows events same
          rw [empty] at selected
          exact clean_snoc looked.sound looked.clean selected.symm
      unfold anyAmbiguous
      refine Keeps.bind reads fun events => ?_
      split
      · refine Keeps.pure fun engine past held => ⟨held.1, held.2.1, ?_⟩
        intro impossible
        cases impossible
      · rename_i none
        have goesOn := inductionHypothesis (done ++ [droneId])
        rw [List.append_assoc, List.singleton_append] at goesOn
        exact goesOn.imp
          (fun engine past held =>
            ⟨held.1, held.2.1, held.2.2 (not_not.1 none)⟩)
          fun _ _ _ held => held

/-- A recovery asks its queries only when it may. -/
theorem keeps_recoverLocked (configured : List String) (routed : Bool) :
    Keeps (outboxWorld σ) (asked configured)
      (fun engine past => Sound engine ∧ past = [])
      (recoverLocked configured routed) fun _ _ _ => True := by
  have whole (droneId : String) :
      droneId ∈ configured ↔ droneId ∈ ordered configured.dedup :=
    List.mem_dedup.symm.trans mem_ordered.symm
  have looks : Keeps (outboxWorld σ) (asked configured)
      (fun engine past => Sound engine ∧ past = [])
      (anyAmbiguous (ordered configured.dedup))
      fun found engine past => Sound engine ∧ Unpublished past ∧
        (found = false → Clean configured engine) := by
    refine (keeps_anyAmbiguous (ordered configured.dedup) []).imp ?_ ?_
    · rintro engine past ⟨sound, rfl⟩
      exact ⟨sound, fun _ member => absurd member List.not_mem_nil,
        fun _ _ named => absurd named List.not_mem_nil⟩
    · intro found engine past held
      refine ⟨held.1, held.2.1, fun none row member named => ?_⟩
      refine held.2.2 none row member ?_
      rcases List.mem_map.1 named with ⟨droneId, among, same⟩
      exact List.mem_map.2 ⟨droneId, (whole droneId).1 among, same⟩
  unfold recoverLocked
  refine Keeps.bind looks fun found => ?_
  cases found with
  | true =>
      refine Keeps.query ?_ fun _ _ _ =>
        ⟨trivial, fun _ _ _ _ _ => trivial⟩
      rintro engine next past ⟨sound, unpublished, _⟩ ⟨session, act, rfl⟩
      exact ⟨sound.step (.act session act), unpublished,
        fun impossible => Bool.noConfusion impossible⟩
  | false =>
      have routes : Keeps (outboxWorld σ) (asked configured)
          (fun engine past => Sound engine ∧ Unpublished past ∧
            (false = false → Clean configured engine))
          (Client.lift (ensure (routed = true) .routerUnavailable) :
            Recovering Unit)
          fun _ engine past => Tallied configured ⟨0, 0, 0⟩ engine past := by
        refine Keeps.lift ?_
        rintro engine past _ ⟨sound, unpublished, clean⟩ _
        refine ⟨sound, fun _ _ entry member => ?_, fun _ => clean rfl⟩
        intro event answer same
        exact absurd ⟨event, by rw [same]⟩ (unpublished entry member)
      refine Keeps.bind routes fun _ => ?_
      exact Keeps.bind (keeps_drainRecovery whole) fun _ =>
        Keeps.pure fun _ _ _ => trivial

end AerialRescue.Fleet.Recovery
