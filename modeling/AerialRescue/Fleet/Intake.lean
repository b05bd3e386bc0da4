import AerialRescue.Fleet.NoLoss
import AerialRescue.Lib.Run

/-!
# The in-process command intake

The runner without a store keeps one inbox for each drone: the high-water mark
of its queue and the commands it has answered.  A command is answered by two
guaranteed reports, and a message is settled once its answer is known.

The mark advances before the reports are published, so a message that fails
halfway is behind its own mark when it is delivered again.
-/

namespace AerialRescue.Fleet

open AerialRescue.Contracts
open AerialRescue.Contracts.Canonical
open AerialRescue.Domain.Commands
open AerialRescue.Lib
open AerialRescue.Lib.Guard
open AerialRescue.Lib.Run
open AerialRescue.Lib.Transaction

/-! ## The inbox of one drone -/

/-- `IntakeOutcome`, what became of one message. -/
inductive IntakeOutcome where
  | handled
  | replayed
  | superseded
  | unreadable
  | unanswerable
  | resultRefused
deriving DecidableEq

/-- `DroneInbox` -/
structure DroneInbox where
  stream : Option Nat
  answered : List String
deriving DecidableEq

/-- What the intake of one drone runs with. -/
structure IntakeRuntime where
  host : Host
  missionId : String
  droneId : String
  /-- The sectors of the scenario. -/
  sectors : List String
  sendBudget : SendBudget

/-- A report that the broker took. -/
structure PublishedResult where
  commandId : String
  state : CommandState
  topic : String
  payload : Bytes
deriving DecidableEq

/-- The inbox with every report published so far. -/
structure IntakeWorld where
  inbox : DroneInbox
  published : List PublishedResult
deriving DecidableEq

/-- The inbox and the reports at the start of a run. -/
def IntakeWorld.initial : IntakeWorld where
  inbox := ⟨none, []⟩
  published := []

/--
One delivery of a message: the stamps its reports would be sent under, and
whether the broker takes each of the two publications.
-/
structure IntakeAttempt where
  delivery : CommandDelivery
  acknowledged : ResultStamp
  final : ResultStamp
  takesAcknowledged : Bool
  takesFinal : Bool
deriving DecidableEq

/-! ## Answering -/

/-- What leaves `_answer` by an exception. -/
inductive AnswerFailure where
  | messaging
  | result
  | protocol
  | canonicalization
deriving DecidableEq

/-- A computation that publishes reports. -/
abbrev Publishing := Tx (List PublishedResult) AnswerFailure

/-- `_resolution` -/
def resolution (sectors : List String) (command : IncomingCommand) :
    CommandEvent :=
  match command.action with
  | .assignSector sectorId =>
      if sectorId ∈ sectors then .succeed else .fail
  | .escalateRescue .. => .succeed

/-- `_report` -/
def report (runtime : IntakeRuntime) (command : IncomingCommand)
    (state : CommandState) (stamp : ResultStamp) (takes : Bool) :
    Publishing Unit := do
  let record ← lift (fun _ => .result)
    (resultRecord runtime.host runtime.missionId runtime.droneId command
      state stamp)
  let payload ← lift (fun _ => .canonicalization)
    (canonicalBytes runtime.host (.object record.2))
  require (takes = true) .messaging
  let published ← read
  write (published ++ [⟨command.commandId, state, record.1, payload⟩])

/-- `_answer` -/
def answer (runtime : IntakeRuntime) (command : IncomingCommand)
    (attempt : IntakeAttempt) : Publishing Unit := do
  let received ← demand
    (reportedState .acknowledge runtime.sendBudget) .protocol
  report runtime command received attempt.acknowledged
    attempt.takesAcknowledged
  let resolved ← demand
    (reportedState (resolution runtime.sectors command) runtime.sendBudget)
    .protocol
  report runtime command resolved attempt.final attempt.takesFinal

/-- `_admit`: the outcome a command needs no work for, and the inbox after. -/
def admitCommand (inbox : DroneInbox) (command : IncomingCommand) :
    Option IntakeOutcome × DroneInbox :=
  let reception := receive inbox.stream command.sequence
  if reception.1 ≠ .advances then (some .superseded, inbox)
  else
    let known := decide (command.commandId ∈ inbox.answered)
    if idempotencyDecision .command known ≠ .execute then
      (some .replayed, { inbox with stream := reception.2 })
    else (none, { inbox with stream := reception.2 })

/-- The command that the intake reads from a delivery. -/
def IntakeRuntime.reads (runtime : IntakeRuntime)
    (delivery : CommandDelivery) : Except IntakeRefusal IncomingCommand :=
  accept runtime.host delivery.payload delivery.topic runtime.droneId
    runtime.missionId

/--
`_handle`: what became of one message and how it is settled, or nothing when
an exception escapes.
-/
def handle (runtime : IntakeRuntime) (world : IntakeWorld)
    (attempt : IntakeAttempt) :
    IntakeWorld × Option (IntakeOutcome × Settlement) :=
  match runtime.reads attempt.delivery with
  | .error _ => (world, some (.unreadable, .rejected))
  | .ok command =>
      match admitCommand world.inbox command with
      | (some settled, inbox) =>
          (⟨inbox, world.published⟩, some (settled, .accepted))
      | (none, inbox) =>
          match exec (answer runtime command attempt) world.published with
          | (.ok _, published) =>
              (⟨{ inbox with
                    answered := command.commandId :: inbox.answered },
                  published⟩,
                some (.handled, .accepted))
          | (.error .messaging, published) =>
              (⟨inbox, published⟩, some (.resultRefused, .failed))
          | (.error .canonicalization, published) =>
              (⟨inbox, published⟩, none)
          | (.error _, published) =>
              (⟨inbox, published⟩, some (.unanswerable, .rejected))

/-- The inbox and the reports after one message. -/
def IntakeWorld.handled (runtime : IntakeRuntime) (world : IntakeWorld)
    (attempt : IntakeAttempt) : IntakeWorld :=
  (handle runtime world attempt).1

/-! ## What an answer publishes -/

/-- A report is final when it resolves its command. -/
def PublishedResult.Final (result : PublishedResult) : Prop :=
  result.state = .succeeded ∨ result.state = .failed

/-- The report on a state can be built under a stamp. -/
def Reportable (runtime : IntakeRuntime) (command : IncomingCommand)
    (event : CommandEvent) (stamp : ResultStamp) : Prop :=
  (resultBytes runtime.host runtime.sendBudget runtime.missionId
    runtime.droneId command event stamp).isOk = true

/-- The broker refuses a publication that answering a command comes to. -/
def Refuses (runtime : IntakeRuntime) (command : IncomingCommand)
    (attempt : IntakeAttempt) : Prop :=
  Reportable runtime command .acknowledge attempt.acknowledged ∧
    (attempt.takesAcknowledged = false ∨
      Reportable runtime command (resolution runtime.sectors command)
          attempt.final ∧
        attempt.takesFinal = false)

theorem reportedState_acknowledge (budget : SendBudget) :
    reportedState .acknowledge budget = some .acknowledged := by
  simp [reportedState, advance, commandTarget, initialProgress]

/-- A command is resolved as succeeded or as failed. -/
theorem reportedState_resolution (sectors : List String)
    (command : IncomingCommand) (budget : SendBudget) :
    ∃ state,
      reportedState (resolution sectors command) budget = some state ∧
        (state = .succeeded ∨ state = .failed) := by
  have resolved :
      resolution sectors command = .succeed ∨
        resolution sectors command = .fail := by
    unfold resolution
    split
    · split
      · exact Or.inl rfl
      · exact Or.inr rfl
    · exact Or.inl rfl
  rcases resolved with same | same <;> rw [same]
  · exact ⟨.succeeded, by simp [reportedState, advance, commandTarget,
      initialProgress, guard], Or.inl rfl⟩
  · exact ⟨.failed, by simp [reportedState, advance, commandTarget,
      initialProgress, guard], Or.inr rfl⟩

/-- A report can be built when its record has a canonical text. -/
theorem reportable_iff {runtime : IntakeRuntime} {command : IncomingCommand}
    {event : CommandEvent} {state : CommandState} {stamp : ResultStamp}
    (selected : reportedState event runtime.sendBudget = some state) :
    Reportable runtime command event stamp ↔
      ∃ record payload,
        resultRecord runtime.host runtime.missionId runtime.droneId command
            state stamp = .ok record ∧
          canonicalBytes runtime.host (.object record.2) = .ok payload := by
  simp only [Reportable, isOk_eq_true, resultBytes, bind_eq_ok,
    present_eq_ok, recast_eq_ok, pure_eq_ok, selected, Option.some.injEq]
  constructor
  · rintro ⟨_, _, rfl, record, built, payload, encoded, _⟩
    exact ⟨record, payload, built, encoded⟩
  · rintro ⟨record, payload, built, encoded⟩
    exact ⟨_, state, rfl, record, built, payload, encoded, rfl⟩

/-- A report is published when it can be built and the broker takes it. -/
theorem report_spec {runtime : IntakeRuntime} {command : IncomingCommand}
    {event : CommandEvent} {state : CommandState} {stamp : ResultStamp}
    {takes : Bool} {published after : List PublishedResult}
    {outcome : Except AnswerFailure Unit}
    (selected : reportedState event runtime.sendBudget = some state)
    (reported :
      exec (report runtime command state stamp takes) published =
        (outcome, after)) :
    (outcome = .ok () ∧ Reportable runtime command event stamp ∧
        takes = true ∧
        ∃ topic payload,
          after = published ++ [⟨command.commandId, state, topic, payload⟩]) ∨
      (outcome = .error .messaging ∧ Reportable runtime command event stamp ∧
        takes = false ∧ after = published) ∨
      (∃ failure, outcome = .error failure ∧ failure ≠ .messaging ∧
        ¬Reportable runtime command event stamp ∧ after = published) := by
  rw [reportable_iff selected]
  unfold report at reported
  rcases built : resultRecord runtime.host runtime.missionId runtime.droneId
    command state stamp with failure | record
  · rw [built, exec_bind_of_error (exec_lift_error _ _ _)] at reported
    cases reported
    refine Or.inr (Or.inr ⟨.result, rfl, by decide, ?_, rfl⟩)
    rintro ⟨_, _, impossible, _⟩
    cases impossible
  rw [built, exec_bind_of_ok (exec_lift_ok _ _ _)] at reported
  rcases encoded : canonicalBytes runtime.host (.object record.2) with
    failure | payload
  · rw [encoded, exec_bind_of_error (exec_lift_error _ _ _)] at reported
    cases reported
    refine Or.inr (Or.inr ⟨.canonicalization, rfl, by decide, ?_, rfl⟩)
    rintro ⟨_, _, found, encodes⟩
    cases found
    rw [encoded] at encodes
    cases encodes
  rw [encoded, exec_bind_of_ok (exec_lift_ok _ _ _)] at reported
  cases takes with
  | false =>
      cases reported
      exact Or.inr (Or.inl ⟨rfl, ⟨record, payload, rfl, encoded⟩, rfl, rfl⟩)
  | true =>
      cases reported
      exact Or.inl ⟨rfl, ⟨record, payload, rfl, encoded⟩, rfl, record.1,
        payload, rfl⟩

/-- Both reports are published, or the attempt stops before the second. -/
theorem answer_spec {runtime : IntakeRuntime} {command : IncomingCommand}
    {attempt : IntakeAttempt} {published after : List PublishedResult}
    {outcome : Except AnswerFailure Unit}
    (answered :
      exec (answer runtime command attempt) published = (outcome, after)) :
    (outcome = .ok () ∧ ¬Refuses runtime command attempt ∧
        ∃ first second : PublishedResult,
          after = published ++ [first, second] ∧
            first.commandId = command.commandId ∧
            first.state = .acknowledged ∧
            second.commandId = command.commandId ∧ second.Final) ∨
      (∃ failure, outcome = .error failure ∧
        (failure = .messaging ↔ Refuses runtime command attempt) ∧
        (∀ result ∈ published, result ∈ after) ∧
        ∀ result ∈ after, result ∈ published ∨ ¬result.Final) := by
  have unresolved : CommandState.acknowledged ≠ .succeeded ∧
      CommandState.acknowledged ≠ .failed := by
    decide
  rcases reportedState_resolution runtime.sectors command runtime.sendBudget
    with ⟨resolved, selected, decided⟩
  unfold answer at answered
  simp only [reportedState_acknowledge, selected, demand, pure_bind]
    at answered
  rcases first : exec (report runtime command .acknowledged
    attempt.acknowledged attempt.takesAcknowledged) published with
    ⟨earlier, middle⟩
  rcases report_spec (reportedState_acknowledge _) first with
    ⟨rfl, built, taken, topic, payload, rfl⟩ | ⟨rfl, built, refused, rfl⟩ |
      ⟨failure, rfl, other, unbuilt, rfl⟩
  · rw [exec_bind_of_ok first] at answered
    have sent :
        (∀ result ∈ published, result ∈ published ++
            [⟨command.commandId, .acknowledged, topic, payload⟩]) ∧
          ∀ result ∈ published ++
              [⟨command.commandId, .acknowledged, topic, payload⟩],
            result ∈ published ∨ ¬result.Final := by
      refine ⟨fun _ => List.mem_append_left _, fun result member => ?_⟩
      rcases List.mem_append.1 member with earlier | last
      · exact Or.inl earlier
      · rw [List.mem_singleton.1 last]
        exact Or.inr (not_or.2 unresolved)
    rcases report_spec selected answered with
      ⟨rfl, _, takes, topic', payload', rfl⟩ | ⟨rfl, final, refused, rfl⟩ |
        ⟨failure, rfl, other, unbuilt, rfl⟩
    · refine Or.inl ⟨rfl, ?_, _, _, List.append_assoc _ _ _, rfl, rfl, rfl,
        decided⟩
      rintro ⟨_, refused | ⟨_, refused⟩⟩
      · exact Bool.false_ne_true (refused.symm.trans taken)
      · exact Bool.false_ne_true (refused.symm.trans takes)
    · exact Or.inr ⟨.messaging, rfl,
        iff_of_true rfl ⟨built, Or.inr ⟨final, refused⟩⟩, sent⟩
    · refine Or.inr ⟨failure, rfl, iff_of_false other ?_, sent⟩
      rintro ⟨_, refused | ⟨final, _⟩⟩
      · exact Bool.false_ne_true (refused.symm.trans taken)
      · exact unbuilt final
  · rw [exec_bind_of_error first] at answered
    cases answered
    exact Or.inr ⟨.messaging, rfl,
      iff_of_true rfl ⟨built, Or.inl refused⟩, fun _ => id,
      fun _ => Or.inl⟩
  · rw [exec_bind_of_error first] at answered
    cases answered
    exact Or.inr ⟨failure, rfl,
      iff_of_false other fun refuses => unbuilt refuses.1, fun _ => id,
      fun _ => Or.inl⟩

/-! ## What becomes of a message -/

theorem receive_advances {last : Option Nat} {sequence : Nat}
    (advances : (receive last sequence).1 = .advances) :
    (receive last sequence).2 = some sequence := by
  cases last with
  | none => rfl
  | some last =>
      unfold receive at advances ⊢
      dsimp only at advances ⊢
      split
      · rfl
      · rename_i within
        rw [if_neg within] at advances
        split at advances <;> cases advances

/-- A sequence does not advance the mark it has set. -/
theorem receive_again (sequence : Nat) :
    (receive (some sequence) sequence).1 ≠ .advances := by
  simp [receive]

theorem handle_unreadable {runtime : IntakeRuntime} {world : IntakeWorld}
    {attempt : IntakeAttempt} {refusal : IntakeRefusal}
    (unread : runtime.reads attempt.delivery = .error refusal) :
    handle runtime world attempt = (world, some (.unreadable, .rejected)) := by
  rw [handle, unread]

theorem handle_behind {runtime : IntakeRuntime} {world : IntakeWorld}
    {attempt : IntakeAttempt} {command : IncomingCommand}
    (read : runtime.reads attempt.delivery = .ok command)
    (behind :
      (receive world.inbox.stream command.sequence).1 ≠ .advances) :
    handle runtime world attempt = (world, some (.superseded, .accepted)) := by
  simp only [handle, read, admitCommand, ne_eq, behind, not_false_eq_true,
    if_true]

theorem handled_behind {runtime : IntakeRuntime} {world : IntakeWorld}
    {attempt : IntakeAttempt} {command : IncomingCommand}
    (read : runtime.reads attempt.delivery = .ok command)
    (behind :
      (receive world.inbox.stream command.sequence).1 ≠ .advances) :
    world.handled runtime attempt = world := by
  rw [IntakeWorld.handled, handle_behind read behind]

theorem handle_known {runtime : IntakeRuntime} {world : IntakeWorld}
    {attempt : IntakeAttempt} {command : IncomingCommand}
    (read : runtime.reads attempt.delivery = .ok command)
    (advances : (receive world.inbox.stream command.sequence).1 = .advances)
    (known : command.commandId ∈ world.inbox.answered) :
    handle runtime world attempt =
      (⟨⟨some command.sequence, world.inbox.answered⟩, world.published⟩,
        some (.replayed, .accepted)) := by
  have repeated :
      idempotencyDecision .command
          (decide (command.commandId ∈ world.inbox.answered)) ≠
        .execute := by
    rw [decide_eq_true known]
    decide
  simp only [handle, read, admitCommand, advances, ne_eq, not_true_eq_false,
    if_false, repeated, not_false_eq_true, if_true,
    receive_advances advances]

/-- A command that is not known is answered, and settled by its answer. -/
theorem handle_new {runtime : IntakeRuntime} {world : IntakeWorld}
    {attempt : IntakeAttempt} {command : IncomingCommand}
    (read : runtime.reads attempt.delivery = .ok command)
    (advances : (receive world.inbox.stream command.sequence).1 = .advances)
    (unknown : command.commandId ∉ world.inbox.answered) :
    handle runtime world attempt =
      match exec (answer runtime command attempt) world.published with
      | (.ok _, published) =>
          (⟨⟨some command.sequence,
              command.commandId :: world.inbox.answered⟩, published⟩,
            some (.handled, .accepted))
      | (.error .messaging, published) =>
          (⟨⟨some command.sequence, world.inbox.answered⟩, published⟩,
            some (.resultRefused, .failed))
      | (.error .canonicalization, published) =>
          (⟨⟨some command.sequence, world.inbox.answered⟩, published⟩, none)
      | (.error _, published) =>
          (⟨⟨some command.sequence, world.inbox.answered⟩, published⟩,
            some (.unanswerable, .rejected)) := by
  have executes :
      idempotencyDecision .command
          (decide (command.commandId ∈ world.inbox.answered)) =
        .execute := by
    rw [decide_eq_false unknown]
    rfl
  simp only [handle, read, admitCommand, advances, ne_eq, not_true_eq_false,
    if_false, executes, receive_advances advances]

/-- A message whose answer does not return leaves the commands answered. -/
theorem handle_stopped {runtime : IntakeRuntime} {world : IntakeWorld}
    {attempt : IntakeAttempt} {command : IncomingCommand}
    {failure : AnswerFailure} {published : List PublishedResult}
    (read : runtime.reads attempt.delivery = .ok command)
    (advances : (receive world.inbox.stream command.sequence).1 = .advances)
    (unknown : command.commandId ∉ world.inbox.answered)
    (stopped :
      exec (answer runtime command attempt) world.published =
        (.error failure, published)) :
    (handle runtime world attempt).1 =
        ⟨⟨some command.sequence, world.inbox.answered⟩, published⟩ ∧
      (failure = .messaging →
        (handle runtime world attempt).2 =
          some (.resultRefused, .failed)) ∧
      (failure ≠ .messaging →
        (handle runtime world attempt).2 = none ∨
          (handle runtime world attempt).2 =
            some (.unanswerable, .rejected)) := by
  rw [handle_new read advances unknown, stopped]
  cases failure with
  | messaging => exact ⟨rfl, fun _ => rfl, fun other => absurd rfl other⟩
  | result => exact ⟨rfl, nofun, fun _ => Or.inr rfl⟩
  | protocol => exact ⟨rfl, nofun, fun _ => Or.inr rfl⟩
  | canonicalization => exact ⟨rfl, nofun, fun _ => Or.inl rfl⟩

/-! ## Both reports -/

/-- Both reports on a command are published. -/
def IntakeWorld.BothPublished (world : IntakeWorld) (commandId : String) :
    Prop :=
  (∃ result ∈ world.published,
      result.commandId = commandId ∧ result.state = .acknowledged) ∧
    ∃ result ∈ world.published,
      result.commandId = commandId ∧ result.Final

/-- A command is in the answered set once its final report is published. -/
structure IntakeWorld.Recorded (world : IntakeWorld) : Prop where
  both :
    ∀ commandId ∈ world.inbox.answered, world.BothPublished commandId
  answered :
    ∀ result ∈ world.published, result.Final →
      result.commandId ∈ world.inbox.answered

theorem IntakeWorld.Recorded.bothPublished_iff {world : IntakeWorld}
    (recorded : world.Recorded) (commandId : String) :
    world.BothPublished commandId ↔ commandId ∈ world.inbox.answered := by
  constructor
  · rintro ⟨_, result, member, rfl, final⟩
    exact recorded.answered result member final
  · exact recorded.both commandId

theorem IntakeWorld.initial_recorded : IntakeWorld.initial.Recorded where
  both := fun _ member => absurd member List.not_mem_nil
  answered := fun _ member => absurd member List.not_mem_nil

/-- Further reports keep what is published. -/
theorem IntakeWorld.BothPublished.mono {before after : IntakeWorld}
    {commandId : String} (both : before.BothPublished commandId)
    (kept : ∀ result ∈ before.published, result ∈ after.published) :
    after.BothPublished commandId := by
  rcases both with ⟨⟨first, member, named⟩, second, among, called⟩
  exact ⟨⟨first, kept first member, named⟩, second, kept second among, called⟩

/-- An answered command has both its reports. -/
theorem handle_answered {runtime : IntakeRuntime} {world : IntakeWorld}
    {attempt : IntakeAttempt} {command : IncomingCommand}
    {published : List PublishedResult} {first second : PublishedResult}
    (read : runtime.reads attempt.delivery = .ok command)
    (advances : (receive world.inbox.stream command.sequence).1 = .advances)
    (unknown : command.commandId ∉ world.inbox.answered)
    (answered :
      exec (answer runtime command attempt) world.published =
        (.ok (), published))
    (sent : published = world.published ++ [first, second])
    (acknowledges :
      first.commandId = command.commandId ∧ first.state = .acknowledged)
    (resolves : second.commandId = command.commandId ∧ second.Final) :
    (handle runtime world attempt).2 = some (.handled, .accepted) ∧
      (world.handled runtime attempt).inbox.answered =
        command.commandId :: world.inbox.answered ∧
      (world.handled runtime attempt).published = published ∧
      (world.handled runtime attempt).BothPublished command.commandId := by
  simp only [IntakeWorld.handled, handle_new read advances unknown, answered,
    IntakeWorld.BothPublished, sent, true_and]
  exact ⟨⟨first, by simp, acknowledges⟩, second, by simp, resolves⟩

/-- Every message keeps the answered set in step with the final reports. -/
theorem IntakeWorld.Recorded.handled {runtime : IntakeRuntime}
    {world : IntakeWorld} (recorded : world.Recorded)
    (attempt : IntakeAttempt) : (world.handled runtime attempt).Recorded := by
  unfold IntakeWorld.handled
  rcases read : runtime.reads attempt.delivery with refusal | command
  · rw [handle_unreadable read]
    exact recorded
  by_cases advances :
      (receive world.inbox.stream command.sequence).1 = .advances
  swap
  · rw [handle_behind read advances]
    exact recorded
  by_cases known : command.commandId ∈ world.inbox.answered
  · rw [handle_known read advances known]
    exact ⟨recorded.both, recorded.answered⟩
  rcases answered : exec (answer runtime command attempt) world.published
    with ⟨outcome, published⟩
  rcases answer_spec answered with
    ⟨rfl, _, first, second, sent, named, acknowledged, called, final⟩ |
      ⟨failure, rfl, _, kept, sent⟩
  · rcases handle_answered read advances known answered sent
      ⟨named, acknowledged⟩ ⟨called, final⟩ with ⟨_, ids, results, both⟩
    unfold IntakeWorld.handled at ids results both
    constructor
    · intro commandId member
      rw [ids] at member
      rcases List.mem_cons.1 member with rfl | earlier
      · exact both
      · refine (recorded.both commandId earlier).mono fun result among => ?_
        rw [results, sent]
        exact List.mem_append_left _ among
    · intro result member resolves
      rw [ids]
      rw [results, sent] at member
      rcases List.mem_append.1 member with earlier | later
      · exact List.mem_cons_of_mem _
          (recorded.answered result earlier resolves)
      · have same : result.commandId = command.commandId := by
          rcases List.mem_cons.1 later with rfl | last
          · exact named
          · rw [List.mem_singleton.1 last]
            exact called
        rw [same]
        exact List.mem_cons_self
  · rw [(handle_stopped read advances known answered).1]
    constructor
    · intro commandId member
      exact (recorded.both commandId member).mono kept
    · intro result member resolves
      rcases sent result member with earlier | unresolved
      · exact recorded.answered result earlier resolves
      · exact absurd resolves unresolved

/-! ## Answering before accepting -/

/--
An accepted message has both its reports published, and a failed message that
is delivered again to a broker that takes publications is answered instead of
being judged superseded.
-/
structure AnswersFirst (runtime : IntakeRuntime) (world : IntakeWorld)
    (attempt : IntakeAttempt) : Prop where
  accepted :
    ∀ outcome,
      (handle runtime world attempt).2 = some (outcome, .accepted) →
        ∃ command, runtime.reads attempt.delivery = .ok command ∧
          (world.handled runtime attempt).BothPublished command.commandId
  failed :
    ∀ outcome,
      (handle runtime world attempt).2 = some (outcome, .failed) →
        ∀ again : IntakeAttempt, again.delivery = attempt.delivery →
          again.takesAcknowledged = true → again.takesFinal = true →
          (∀ settlement,
            (handle runtime (world.handled runtime attempt) again).2 ≠
              some (.superseded, settlement)) ∧
          ∀ command, runtime.reads attempt.delivery = .ok command →
            Reportable runtime command .acknowledge again.acknowledged →
            Reportable runtime command
                (resolution runtime.sectors command) again.final →
            (handle runtime (world.handled runtime attempt) again).2 =
              some (.handled, .accepted)

/--
A message that advances the mark is known already or has none of its reports
refused, and a message that does not is known already.
-/
def Answers (runtime : IntakeRuntime) (world : IntakeWorld)
    (attempt : IntakeAttempt) : Prop :=
  ∀ command, runtime.reads attempt.delivery = .ok command →
    command.commandId ∈ world.inbox.answered ∨
      (receive world.inbox.stream command.sequence).1 = .advances ∧
        ¬Refuses runtime command attempt

/-- A failed message has set the mark to its own sequence. -/
theorem handle_failed {runtime : IntakeRuntime} {world : IntakeWorld}
    {attempt : IntakeAttempt} {outcome : IntakeOutcome}
    (failed : (handle runtime world attempt).2 = some (outcome, .failed)) :
    ∃ command, runtime.reads attempt.delivery = .ok command ∧
      command.commandId ∉ world.inbox.answered ∧
      Refuses runtime command attempt ∧
      (world.handled runtime attempt).inbox =
        ⟨some command.sequence, world.inbox.answered⟩ := by
  rcases read : runtime.reads attempt.delivery with refusal | command
  · rw [handle_unreadable read] at failed
    cases failed
  by_cases advances :
      (receive world.inbox.stream command.sequence).1 = .advances
  swap
  · rw [handle_behind read advances] at failed
    cases failed
  by_cases known : command.commandId ∈ world.inbox.answered
  · rw [handle_known read advances known] at failed
    cases failed
  rcases answered : exec (answer runtime command attempt) world.published
    with ⟨result, published⟩
  rcases answer_spec answered with
    ⟨rfl, _⟩ | ⟨failure, rfl, refuses, _⟩
  · rw [handle_new read advances known, answered] at failed
    cases failed
  · rcases handle_stopped read advances known answered with
      ⟨after, _, settled⟩
    refine ⟨command, rfl, known, refuses.1 ?_, ?_⟩
    · by_contra other
      rcases settled other with stopped | stopped <;>
        rw [stopped] at failed <;> cases failed
    · rw [IntakeWorld.handled, after]

/-- A failed message is superseded whenever it is delivered again at once. -/
theorem failed_superseded {runtime : IntakeRuntime} {world : IntakeWorld}
    {attempt again : IntakeAttempt} {outcome : IntakeOutcome}
    (failed : (handle runtime world attempt).2 = some (outcome, .failed))
    (same : again.delivery = attempt.delivery) :
    (handle runtime (world.handled runtime attempt) again).2 =
      some (.superseded, .accepted) := by
  rcases handle_failed failed with ⟨command, read, _, _, inbox⟩
  have behind :
      (receive (world.handled runtime attempt).inbox.stream
        command.sequence).1 ≠ .advances := by
    rw [inbox]
    exact receive_again command.sequence
  rw [handle_behind (same ▸ read) behind]

/-- A message that the condition covers never fails. -/
theorem Answers.not_failed {runtime : IntakeRuntime} {world : IntakeWorld}
    {attempt : IntakeAttempt} (answers : Answers runtime world attempt)
    (outcome : IntakeOutcome) :
    (handle runtime world attempt).2 ≠ some (outcome, .failed) := by
  intro failed
  rcases handle_failed failed with ⟨command, read, unknown, refuses, _⟩
  rcases answers command read with known | ⟨_, taken⟩
  · exact unknown known
  · exact taken refuses

/-- One message answers before it accepts exactly under the condition. -/
theorem answersFirst_iff {runtime : IntakeRuntime} {world : IntakeWorld}
    (recorded : world.Recorded) (attempt : IntakeAttempt) :
    AnswersFirst runtime world attempt ↔ Answers runtime world attempt := by
  constructor
  · intro first command read
    by_cases known : command.commandId ∈ world.inbox.answered
    · exact Or.inl known
    refine Or.inr ?_
    by_cases advances :
        (receive world.inbox.stream command.sequence).1 = .advances
    · refine ⟨advances, fun refuses => ?_⟩
      rcases answered : exec (answer runtime command attempt)
        world.published with ⟨result, published⟩
      rcases answer_spec answered with
        ⟨_, taken, _⟩ | ⟨failure, rfl, messaging, _⟩
      · exact taken refuses
      · have failed :=
          (handle_stopped read advances known answered).2.1
            (messaging.2 refuses)
        exact (first.failed _ failed
          { attempt with takesAcknowledged := true, takesFinal := true } rfl
          rfl rfl).1 .accepted (failed_superseded failed rfl)
    · have behind := handle_behind read advances
      rcases first.accepted .superseded (by rw [behind]) with
        ⟨found, same, both⟩
      rw [read] at same
      cases same
      rw [handled_behind read advances, recorded.bothPublished_iff] at both
      exact absurd both known
  · intro answers
    refine ⟨fun outcome accepted => ?_, fun outcome failed =>
      absurd failed (answers.not_failed outcome)⟩
    rcases read : runtime.reads attempt.delivery with refusal | command
    · rw [handle_unreadable read] at accepted
      cases accepted
    refine ⟨command, rfl, ?_⟩
    rw [(recorded.handled attempt).bothPublished_iff]
    by_cases known : command.commandId ∈ world.inbox.answered
    · by_cases advances :
          (receive world.inbox.stream command.sequence).1 = .advances
      · rw [IntakeWorld.handled, handle_known read advances known]
        exact known
      · rw [handled_behind read advances]
        exact known
    rcases answers command read with found | ⟨advances, taken⟩
    · exact absurd found known
    rcases answered : exec (answer runtime command attempt) world.published
      with ⟨result, published⟩
    rcases answer_spec answered with
      ⟨rfl, _, first, second, sent, named, acknowledged, called, final⟩ |
        ⟨failure, rfl, messaging, _⟩
    · rw [(handle_answered read advances known answered sent
        ⟨named, acknowledged⟩ ⟨called, final⟩).2.1]
      exact List.mem_cons_self
    · have other : failure ≠ .messaging := fun same =>
        taken (messaging.1 same)
      rcases (handle_stopped read advances known answered).2.2 other with
        stopped | stopped <;> rw [stopped] at accepted <;> cases accepted

/--
In a run of the intake every message answers before it accepts exactly when
every message is known already, or advances the mark and has none of its
reports refused.
-/
theorem intake_answers_first_iff (runtime : IntakeRuntime)
    (attempts : List IntakeAttempt) :
    Along (IntakeWorld.handled runtime) (AnswersFirst runtime)
        IntakeWorld.initial attempts ↔
      Along (IntakeWorld.handled runtime) (Answers runtime)
        IntakeWorld.initial attempts :=
  Along.iff_of_invariant
    (fun _ attempt recorded => recorded.handled attempt)
    (fun _ attempt recorded => answersFirst_iff recorded attempt) attempts
    IntakeWorld.initial_recorded

/-! ## A failed message that is dropped -/

/-- The intake of the sample drone. -/
def sampleIntake : IntakeRuntime where
  host := sampleContext.host
  missionId := "mission-1"
  droneId := "drone-1"
  sectors := ["sector-1"]
  sendBudget := sampleContext.budget

/-- The first command, with a broker that takes both reports or neither. -/
def sampleAttempt (takes : Bool) : IntakeAttempt where
  delivery := sampleDelivery sampleFirst
  acknowledged := sampleStamps.acknowledged
  final := sampleStamps.final
  takesAcknowledged := takes
  takesFinal := takes

theorem sampleAttempt_delivery (first second : Bool) :
    (sampleAttempt first).delivery = (sampleAttempt second).delivery :=
  rfl

/--
The command fails when the broker refuses its first report; delivered again
to a broker that takes both, it is accepted without its reports.
-/
theorem refusedReport_superseded :
    (handle sampleIntake IntakeWorld.initial (sampleAttempt false)).2 =
        some (.resultRefused, .failed) ∧
      (handle sampleIntake
          (IntakeWorld.initial.handled sampleIntake (sampleAttempt false))
          (sampleAttempt true)).2 =
        some (.superseded, .accepted) ∧
      ¬(run (IntakeWorld.handled sampleIntake) IntakeWorld.initial
        [sampleAttempt false, sampleAttempt true]).BothPublished
          "command-1" ∧
      ¬Along (IntakeWorld.handled sampleIntake) (AnswersFirst sampleIntake)
        IntakeWorld.initial [sampleAttempt false, sampleAttempt true] := by
  have read :
      sampleIntake.reads (sampleAttempt false).delivery =
        .ok sampleCommand := by
    have intaken := sampleIntakes.1
    simp only [intake, bind_eq_ok, recast_eq_ok, pure_eq_ok] at intaken
    rcases intaken with ⟨droneId, _, command, accepted, same⟩
    cases same
    exact accepted
  have reportable :
      Reportable sampleIntake sampleCommand .acknowledge
        (sampleAttempt false).acknowledged := by
    have staged := sampleReports_staged.1
    simp only [stagedReport, bind_eq_ok] at staged
    rcases staged with ⟨report, built, _⟩
    exact isOk_eq_true.2 ⟨report, built⟩
  have advances :
      (receive IntakeWorld.initial.inbox.stream sampleCommand.sequence).1 =
        .advances :=
    rfl
  have unknown :
      sampleCommand.commandId ∉ IntakeWorld.initial.inbox.answered :=
    List.not_mem_nil
  have failed :
      (handle sampleIntake IntakeWorld.initial (sampleAttempt false)).2 =
        some (.resultRefused, .failed) := by
    rcases answered : exec (answer sampleIntake sampleCommand
      (sampleAttempt false)) IntakeWorld.initial.published with
      ⟨outcome, published⟩
    rcases answer_spec answered with
      ⟨_, taken, _⟩ | ⟨failure, rfl, messaging, _⟩
    · exact absurd ⟨reportable, Or.inl rfl⟩ taken
    · exact (handle_stopped read advances unknown answered).2.1
        (messaging.2 ⟨reportable, Or.inl rfl⟩)
  have superseded :
      (handle sampleIntake
          (IntakeWorld.initial.handled sampleIntake (sampleAttempt false))
          (sampleAttempt true)).2 =
        some (.superseded, .accepted) :=
    failed_superseded failed (sampleAttempt_delivery true false)
  have recorded :
      ((IntakeWorld.initial.handled sampleIntake
        (sampleAttempt false)).handled sampleIntake
          (sampleAttempt true)).Recorded :=
    (IntakeWorld.initial_recorded.handled _).handled _
  have unanswered :
      ¬((IntakeWorld.initial.handled sampleIntake
        (sampleAttempt false)).handled sampleIntake
          (sampleAttempt true)).BothPublished "command-1" := by
    rcases handle_failed failed with ⟨command, again, _, _, inbox⟩
    have behind :
        (receive (IntakeWorld.initial.handled sampleIntake
            (sampleAttempt false)).inbox.stream
          command.sequence).1 ≠ .advances := by
      rw [inbox]
      exact receive_again command.sequence
    rw [sampleAttempt_delivery false true] at again
    rw [recorded.bothPublished_iff, handled_behind again behind, inbox]
    exact List.not_mem_nil
  refine ⟨failed, superseded, ?_, fun along => ?_⟩
  · rw [run_cons, run_cons, run_nil]
    exact unanswered
  · exact (along.1.failed _ failed (sampleAttempt true)
      (sampleAttempt_delivery true false) rfl rfl).1 _ superseded

end AerialRescue.Fleet
