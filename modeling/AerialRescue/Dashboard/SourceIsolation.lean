import AerialRescue.Dashboard.RuntimeParity
import AerialRescue.Dashboard.SourceSession

/-!
# Isolation of the sources of a session

When a verification or a failed request for a snapshot comes to its end after
the session has gone on to another generation, it still publishes.  In runs
where that does not happen an input of an earlier source changes nothing, and a
disposed session stays disposed.
-/

namespace AerialRescue.Dashboard.SourceSession

open AerialRescue.Contracts.View
open AerialRescue.Dashboard.CanonicalDecoding
open AerialRescue.Dashboard.CanonicalText
open AerialRescue.Dashboard.DomainReducer
open AerialRescue.Dashboard.JsonParse
open AerialRescue.Dashboard.ReducerParity
open AerialRescue.Dashboard.RuntimeParity
open AerialRescue.Lib.Run

/-! ## What an action is about -/

/-- The next input is a snapshot of another runtime. -/
def Session.LocksRuntime (boundary : Boundary) (session : Session) : Prop :=
  ∃ input rest, session.suspended = none ∧ session.disposed = false ∧
    session.waiting = (session.generation, input) :: rest ∧
    input.channel = "sse-frame" ∧ input.name = "snapshot" ∧
    { session with waiting := rest }.snapshotVerdict boundary input =
      .runtimeChanged

/-- The action is one of the operations `replaceSource`, `lockRuntimeChange`
and `dispose`, and the session performs it. -/
def Performs (boundary : Boundary) (session : Session) : Action → Prop
  | .replaceSource _ => session.disposed = false
  | .dispose => session.disposed = false
  | .anchorRuntime runtimeId => session.ChangesRuntime runtimeId
  | .proceed _ => session.LocksRuntime boundary
  | _ => False

/-- The source generation of the input that an action processes. -/
def inputGeneration (session : Session) : Action → Option Nat
  | .enqueue sourceGeneration _ => some sourceGeneration
  | .proceed _ =>
      if session.suspended.isNone then
        session.waiting.head?.map Prod.fst
      else none
  | .wake _ _ =>
      session.suspended.map fun suspended => suspended.sourceGeneration
  | _ => none

/-- Whether a publication follows what an input awaits: a verification that
does not raise, or a request that fails. -/
def Speaks (boundary : Boundary) (failed : Bool) : Awaiting → Prop
  | .snapshot document =>
      ∃ result, checkpointFromSnapshot boundary.host boundary.number
        document.toBrowserSnapshot = .ok result
  | .eventFrame held document =>
      ∃ result, foldVerifiedOrderedDashboardEvent boundary.host
        boundary.number boundary.accepts held (documentOf document.event)
        document.digest = .ok result
  | .consumer => False
  | .request => failed = true

/-- An input that speaks does so in the generation it began to wait in, and a
disposed session is given no other runtime. -/
def Timely (boundary : Boundary) (session : Session) : Action → Prop
  | .wake failed _ =>
      ∀ suspended ∈ session.suspended,
        Speaks boundary failed suspended.awaiting →
          session.generation = suspended.since
  | .anchorRuntime runtimeId =>
      session.disposed = true → ¬session.ChangesRuntime runtimeId
  | _ => True

/-! ## What a step does -/

variable {boundary : Boundary} {session next : Session}

/-- What the processing of an input leaves of a session. -/
structure Continues (session next : Session) : Prop where
  disposed : next.disposed = session.disposed
  sources : next.sources = session.sources
  suspended : next.suspended = session.suspended
  generation : session.generation ≤ next.generation

theorem Continues.refl (session : Session) : Continues session session :=
  ⟨rfl, rfl, rfl, le_rfl⟩

theorem continues_publish (raises : Bool) (session : Session)
    (state : SessionState) :
    Continues session (session.publish raises state).1 :=
  ⟨rfl, rfl, rfl, le_rfl⟩

theorem continues_close (raises : Bool) (session : Session)
    (state : SessionState) :
    Continues session (session.close.publish raises state).1 :=
  ⟨rfl, rfl, rfl, Nat.le_succ _⟩

theorem continues_processSnapshot (raises : Bool) (input : Input) :
    Continues session
      (session.processSnapshot boundary raises input).1 := by
  unfold Session.processSnapshot
  cases session.snapshotVerdict boundary input with
  | raised => exact .refl session
  | refused refusal => exact continues_publish ..
  | runtimeChanged => exact continues_close ..
  | modeMismatch modes document => exact continues_publish ..
  | verifies document => exact .refl session

theorem continues_processEventFrame (raises : Bool) (input : Input) :
    Continues session
      (session.processEventFrame boundary raises input).1 := by
  unfold Session.processEventFrame
  split
  · exact .refl session
  · exact continues_publish ..
  · split
    · exact continues_publish ..
    · split
      · exact .refl session
      · exact .refl session

theorem continues_processSourceSignal (raises : Bool) (input : Input) :
    Continues session
      (session.processSourceSignal boundary raises input).1 := by
  unfold Session.processSourceSignal
  split
  · exact .refl session
  · exact continues_publish ..
  · split
    · exact continues_publish ..
    · split
      · exact .refl session
      · exact continues_publish ..

theorem continues_processOverload (raises : Bool) (sourceGeneration : Nat)
    (input : Input) :
    Continues session
      (session.processOverload boundary raises sourceGeneration input).1 := by
  unfold Session.processOverload
  split
  · exact .refl session
  · exact continues_publish ..
  · split
    · exact .refl session
    · cases raises with
      | false => exact continues_close false session _
      | true => exact continues_close true session _

theorem continues_processInput (raises : Bool) (sourceGeneration : Nat)
    (input : Input) :
    Continues session
      (session.processInput boundary raises sourceGeneration input).1 := by
  unfold Session.processInput
  split
  · exact continues_processSourceSignal ..
  split
  · split
    · exact .refl session
    · exact continues_publish ..
  split
  · exact continues_processSnapshot ..
  split
  · exact continues_processEventFrame ..
  split
  · exact continues_processOverload ..
  · exact continues_publish ..

/-- What a step leaves of a session.  An input that begins to wait is of the
generation that was current. -/
structure Progress (session next : Session) : Prop where
  generation : session.generation ≤ next.generation
  sources : ∀ sourceGeneration ∈ next.sources,
    sourceGeneration ∈ session.sources ∨ sourceGeneration = next.generation
  suspended : ∀ suspended ∈ next.suspended,
    suspended ∈ session.suspended ∨
      (session.disposed = false ∧
        suspended.sourceGeneration = session.generation ∧
        suspended.since = next.generation)
  disposed : next.disposed = session.disposed ∨
    (session.generation < next.generation ∧
      next.suspended = session.suspended ∧
      next.currentState.server.status = .disposed)

theorem Progress.same (generation : session.generation ≤ next.generation)
    (sources : next.sources = session.sources)
    (suspended : next.suspended = session.suspended)
    (disposed : next.disposed = session.disposed) : Progress session next where
  generation := generation
  sources _ member := .inl (sources ▸ member)
  suspended _ member := .inl (suspended ▸ member)
  disposed := .inl disposed

theorem continues_caught (sourceGeneration : Nat) (input : Input) :
    Continues session (session.caught sourceGeneration input) := by
  unfold Session.caught
  split
  · exact ⟨rfl, rfl, rfl, le_rfl⟩
  · exact .refl session

theorem caught_generation (sourceGeneration : Nat) (input : Input) :
    (session.caught sourceGeneration input).generation =
      session.generation := by
  unfold Session.caught
  split
  · rfl
  · rfl

/-- What is left when a part of the processing ends. -/
theorem settle_spec (sourceGeneration : Nat) (input : Input)
    (left : Session × Session.Outcome) :
    (Session.settle sourceGeneration input left).generation =
        left.1.generation ∧
      (Session.settle sourceGeneration input left).sources =
        left.1.sources ∧
      (Session.settle sourceGeneration input left).disposed =
        left.1.disposed ∧
      ∀ suspended ∈ (Session.settle sourceGeneration input left).suspended,
        suspended.sourceGeneration = sourceGeneration ∧
          suspended.since = left.1.generation ∧
            ∃ awaiting, left.2 = .awaits awaiting := by
  rcases left with ⟨next, outcome⟩
  cases outcome with
  | finished => exact ⟨rfl, rfl, rfl, fun _ impossible => by cases impossible⟩
  | raised =>
      have ended : Continues { next with suspended := none }
          (Session.settle sourceGeneration input (next, .raised)) :=
        continues_caught sourceGeneration input
      refine ⟨caught_generation sourceGeneration input, ended.sources,
        ended.disposed, ?_⟩
      rw [ended.suspended]
      exact fun _ impossible => by cases impossible
  | awaits awaiting =>
      refine ⟨rfl, rfl, rfl, fun suspended member => ?_⟩
      cases member
      exact ⟨rfl, rfl, awaiting, rfl⟩

theorem Progress.start (raises : Bool) (sourceGeneration : Nat)
    (input : Input) :
    Progress session
      (session.start boundary raises sourceGeneration input) := by
  unfold Session.start
  split
  · rename_i current
    have continues := @continues_processInput boundary session raises
      sourceGeneration input
    rcases settle_spec sourceGeneration input
        (session.processInput boundary raises sourceGeneration input) with
      ⟨generation, sources, disposed, suspended⟩
    constructor
    · exact generation ▸ continues.generation
    · intro other member
      rw [sources, continues.sources] at member
      exact .inl member
    · intro waits member
      rcases suspended waits member with ⟨source, since, _⟩
      exact .inr ⟨current.1, source.trans current.2,
        since.trans generation.symm⟩
    · exact .inl (disposed.trans continues.disposed)
  · exact .same le_rfl rfl rfl rfl

theorem proceed_eq {raises : Bool} {sourceGeneration : Nat} {input : Input}
    {rest : List (Nat × Input)} (idle : session.suspended = none)
    (waiting : session.waiting = (sourceGeneration, input) :: rest) :
    session.proceed boundary raises =
      { session with waiting := rest }.start boundary raises
        sourceGeneration input := by
  cases session
  cases idle
  cases waiting
  rfl

theorem Progress.proceed (raises : Bool) :
    Progress session (session.proceed boundary raises) := by
  unfold Session.proceed
  split
  · rename_i sourceGeneration input rest _ _
    have progress := @Progress.start boundary
      { session with waiting := rest } raises sourceGeneration input
    exact ⟨progress.generation, progress.sources, progress.suspended,
      progress.disposed⟩
  · exact .same le_rfl rfl rfl rfl

/-- What the end of an input leaves of a session. -/
structure Ends (session : Session) (left : Session × Session.Outcome) :
    Prop where
  continues : Continues session left.1
  generation : left.1.generation = session.generation
  ends : ∀ awaiting, left.2 ≠ .awaits awaiting

theorem Ends.raised (session : Session) : Ends session (session, .raised) :=
  ⟨.refl session, rfl, fun _ => Session.Outcome.noConfusion⟩

theorem Ends.finished (session : Session) :
    Ends session (session, .finished) :=
  ⟨.refl session, rfl, fun _ => Session.Outcome.noConfusion⟩

theorem Ends.publish (raises : Bool) (session : Session)
    (state : SessionState) : Ends session (session.publish raises state) := by
  refine ⟨continues_publish .., rfl, fun awaiting => ?_⟩
  cases raises with
  | false => exact Session.Outcome.noConfusion
  | true => exact Session.Outcome.noConfusion

theorem ends_verifySnapshot (raises : Bool) (input : Input)
    (document : DashboardSnapshot) :
    Ends session
      (session.verifySnapshot boundary raises input document) := by
  unfold Session.verifySnapshot
  split
  · exact .raised session
  · exact .publish ..
  · have accepts := Ends.publish raises
      { session with expectedLiveRun := none }
    exact ⟨⟨rfl, rfl, rfl, le_rfl⟩, rfl, (accepts _).ends⟩

theorem ends_verifyEventFrame (raises : Bool) (input : Input)
    (held : ReducerCheckpoint) (document : EventFrame) :
    Ends session
      (session.verifyEventFrame boundary raises input held document) := by
  unfold Session.verifyEventFrame
  split
  · exact .raised session
  · exact .publish ..
  · exact .publish ..
  · exact .publish ..

/-- After its await an input awaits nothing more. -/
theorem ends_resume (failed raises : Bool) (input : Input)
    (awaiting : Awaiting) :
    Ends session (session.resume boundary failed raises input awaiting) := by
  cases awaiting with
  | snapshot document => exact ends_verifySnapshot raises input document
  | eventFrame held document =>
      exact ends_verifyEventFrame raises input held document
  | consumer =>
      cases failed with
      | false => exact .finished session
      | true => exact .raised session
  | request =>
      cases failed with
      | false => exact .finished session
      | true => exact .publish ..

theorem Progress.wake (failed raises : Bool) :
    Progress session (session.wake boundary failed raises) := by
  unfold Session.wake
  split
  · exact .same le_rfl rfl rfl rfl
  · rename_i waits _
    have left := @ends_resume boundary session failed raises waits.input
      waits.awaiting
    rcases settle_spec waits.sourceGeneration waits.input
        (session.resume boundary failed raises waits.input
          waits.awaiting) with
      ⟨generation, sources, disposed, suspended⟩
    constructor
    · exact (generation.trans left.generation).ge
    · intro other member
      rw [sources, left.continues.sources] at member
      exact .inl member
    · intro other member
      rcases suspended other member with ⟨_, _, awaiting, again⟩
      exact absurd again (left.ends awaiting)
    · exact .inl (disposed.trans left.continues.disposed)

/-- Every step is progress. -/
theorem Progress.step (action : Action) :
    Progress session (step boundary session action) := by
  cases action with
  | replaceSource expectedRunMode =>
      change Progress session (session.replaceSource expectedRunMode)
      unfold Session.replaceSource
      split
      · exact .same le_rfl rfl rfl rfl
      · refine ⟨Nat.le_succ _, ?_, fun _ member => .inl member, .inl rfl⟩
        intro sourceGeneration member
        rcases List.mem_append.1 member with before | new
        · exact .inl before
        · exact .inr (List.mem_singleton.1 new)
  | opened sourceGeneration =>
      change Progress session (session.opened sourceGeneration)
      unfold Session.opened
      split
      · exact .same le_rfl rfl rfl rfl
      · exact .same le_rfl rfl rfl rfl
  | anchorRuntime runtimeId =>
      change Progress session (session.anchorRuntime runtimeId)
      unfold Session.anchorRuntime
      split
      · exact .same (Nat.le_succ _) rfl rfl rfl
      · exact .same le_rfl rfl rfl rfl
  | expectLiveRun missionId runId =>
      change Progress session (session.expectLiveRun missionId runId)
      unfold Session.expectLiveRun
      split
      · exact .same le_rfl rfl rfl rfl
      · exact .same le_rfl rfl rfl rfl
  | acceptReplayResume sessionId =>
      change Progress session (session.acceptReplayResume sessionId)
      unfold Session.acceptReplayResume
      split
      · exact .same le_rfl rfl rfl rfl
      · exact .same le_rfl rfl rfl rfl
  | dispose =>
      change Progress session session.dispose
      unfold Session.dispose
      split
      · exact .same le_rfl rfl rfl rfl
      · exact ⟨Nat.le_succ _, fun _ member => .inl member,
          fun _ member => .inl member, .inr ⟨Nat.lt_succ_self _, rfl, rfl⟩⟩
  | enqueue sourceGeneration input =>
      change Progress session (session.enqueue sourceGeneration input)
      unfold Session.enqueue
      split
      · exact .same le_rfl rfl rfl rfl
      · exact .same le_rfl rfl rfl rfl
  | proceed raises => exact .proceed raises
  | wake failed raises => exact .wake failed raises

/-! ## Where nothing is published -/

/-- An input that does not speak leaves the session after its await. -/
theorem resume_silent {failed raises : Bool} {input : Input}
    {awaiting : Awaiting} (silent : ¬Speaks boundary failed awaiting) :
    (session.resume boundary failed raises input awaiting).1 = session := by
  cases awaiting with
  | snapshot document =>
      change (session.verifySnapshot boundary raises input document).1 = _
      unfold Session.verifySnapshot
      split
      · rfl
      · exact absurd ⟨_, ‹_›⟩ silent
      · exact absurd ⟨_, ‹_›⟩ silent
  | eventFrame held document =>
      change (session.verifyEventFrame boundary raises input held
        document).1 = _
      unfold Session.verifyEventFrame
      split
      · rfl
      · exact absurd ⟨_, ‹_›⟩ silent
      · exact absurd ⟨_, ‹_›⟩ silent
      · exact absurd ⟨_, ‹_›⟩ silent
  | consumer => rfl
  | request =>
      cases failed with
      | false => rfl
      | true => exact absurd rfl silent

/-- What is left of an input that is no longer current is the published
state. -/
theorem settle_stale {sourceGeneration : Nat} {input : Input}
    {left : Session × Session.Outcome}
    (stale : left.1.disposed = true ∨
      sourceGeneration ≠ left.1.generation) :
    (Session.settle sourceGeneration input left).currentState =
      left.1.currentState := by
  rcases left with ⟨next, outcome⟩
  cases outcome with
  | finished => rfl
  | raised =>
      change (Session.caught sourceGeneration input
        { next with suspended := none }).currentState = _
      unfold Session.caught
      rw [if_neg]
      rintro ⟨open', current⟩
      rcases stale with disposed | other
      · rw [disposed] at open'
        cases open'
      · exact other current
  | awaits awaiting => rfl

/-- A waiting input of another generation that does not speak leaves the
published state. -/
theorem wake_silent {failed raises : Bool} {waits : Suspended}
    (waiting : session.suspended = some waits)
    (silent : ¬Speaks boundary failed waits.awaiting)
    (stale : session.disposed = true ∨
      waits.sourceGeneration ≠ session.generation) :
    (session.wake boundary failed raises).currentState =
      session.currentState := by
  unfold Session.wake
  rw [waiting]
  have left := @resume_silent boundary session failed raises waits.input
    waits.awaiting silent
  refine (settle_stale ?_).trans (congrArg Session.currentState left)
  rw [left]
  exact stale

/-- An input that is not current leaves the published state. -/
theorem proceed_stale {raises : Bool}
    (stale : ∀ head ∈ session.waiting.head?,
      session.disposed = true ∨ head.1 ≠ session.generation) :
    (session.proceed boundary raises).currentState =
      session.currentState := by
  unfold Session.proceed
  split
  · rename_i sourceGeneration input rest _ waiting
    unfold Session.start
    rw [if_neg]
    rintro ⟨open', current⟩
    rcases stale (sourceGeneration, input) (by rw [waiting]; rfl) with
      disposed | other
    · rw [open'] at disposed
      cases disposed
    · exact other current
  · rfl

/-! ## A disposed session -/

/-- What holds of a session between the steps of a timely run. -/
structure Ordered (session : Session) : Prop where
  sources : ∀ sourceGeneration ∈ session.sources,
    sourceGeneration ≤ session.generation
  since : ∀ suspended ∈ session.suspended,
    suspended.since ≤ session.generation
  overtaken : session.disposed = true → ∀ suspended ∈ session.suspended,
    suspended.since < session.generation
  status : session.disposed = true →
    session.currentState.server.status = .disposed

theorem ordered_initial : Ordered Session.initial where
  sources _ impossible := absurd impossible List.not_mem_nil
  since _ impossible := by cases impossible
  overtaken impossible := by cases impossible
  status impossible := by cases impossible

/-- A disposed session keeps its status. -/
theorem status_step {action : Action} (ordered : Ordered session)
    (disposed : session.disposed = true)
    (timely : Timely boundary session action) :
    (step boundary session action).currentState.server.status =
      session.currentState.server.status := by
  cases action with
  | replaceSource expectedRunMode =>
      change (session.replaceSource expectedRunMode).currentState.server.status
        = _
      rw [Session.replaceSource, if_pos disposed]
  | opened sourceGeneration =>
      change (session.opened sourceGeneration).currentState.server.status = _
      unfold Session.opened
      split
      · rfl
      · rfl
  | anchorRuntime runtimeId =>
      change (session.anchorRuntime runtimeId).currentState.server.status = _
      rw [Session.anchorRuntime, if_neg (timely disposed)]
  | expectLiveRun missionId runId =>
      change (session.expectLiveRun missionId runId).currentState.server.status
        = _
      rw [Session.expectLiveRun, if_pos disposed]
  | acceptReplayResume sessionId =>
      change (session.acceptReplayResume sessionId).currentState.server.status
        = _
      rw [Session.acceptReplayResume, if_neg]
      rintro ⟨open', _⟩
      rw [disposed] at open'
      cases open'
  | dispose =>
      change session.dispose.currentState.server.status = _
      rw [Session.dispose, if_pos disposed]
  | enqueue sourceGeneration input =>
      change (session.enqueue sourceGeneration input).currentState.server.status
        = _
      unfold Session.enqueue
      split
      · rfl
      · rfl
  | proceed raises =>
      have same : (session.proceed boundary raises).currentState = _ :=
        proceed_stale fun _ _ => .inl disposed
      exact congrArg (fun state => state.server.status) same
  | wake failed raises =>
      change (session.wake boundary failed raises).currentState.server.status
        = _
      cases waiting : session.suspended with
      | none => rw [Session.wake, waiting]
      | some waits =>
          have silent : ¬Speaks boundary failed waits.awaiting := by
            intro speaks
            have current := timely waits waiting speaks
            have overtaken := ordered.overtaken disposed waits waiting
            omega
          rw [wake_silent waiting silent (.inl disposed)]

theorem Ordered.step {action : Action} (ordered : Ordered session)
    (timely : Timely boundary session action) :
    Ordered (step boundary session action) := by
  have progress := @Progress.step boundary session action
  have before {waits : Suspended}
      (member : waits ∈ (SourceSession.step boundary session action).suspended)
      (disposed : session.disposed = true) : waits ∈ session.suspended := by
    rcases progress.suspended waits member with old | ⟨open', _⟩
    · exact old
    · rw [disposed] at open'
      cases open'
  constructor
  · intro sourceGeneration member
    rcases progress.sources sourceGeneration member with old | new
    · exact (ordered.sources _ old).trans progress.generation
    · exact new.le
  · intro waits member
    rcases progress.suspended waits member with old | ⟨_, _, since⟩
    · exact (ordered.since waits old).trans progress.generation
    · exact since.le
  · intro disposed waits member
    rcases progress.disposed with same | ⟨later, kept, _⟩
    · rw [same] at disposed
      exact (ordered.overtaken disposed waits
        (before member disposed)).trans_le progress.generation
    · rw [kept] at member
      exact (ordered.since waits member).trans_lt later
  · intro disposed
    rcases progress.disposed with same | ⟨_, _, status⟩
    · rw [same] at disposed
      exact (status_step ordered disposed timely).trans
        (ordered.status disposed)
    · exact status

theorem ordered_run {actions : List Action}
    (timely : Along (step boundary) (Timely boundary) Session.initial
      actions) :
    Ordered (run (step boundary) Session.initial actions) :=
  run_keeps (fun _ _ timely ordered => ordered.step timely) timely
    ordered_initial

/-! ## Inputs of earlier sources -/

/-- A session has gone on from a generation, and so has every input of it that
waits. -/
structure Beyond (bound : Nat) (session : Session) : Prop where
  generation : bound < session.generation
  since : ∀ suspended ∈ session.suspended,
    suspended.sourceGeneration ≤ bound → suspended.since ≤ bound

theorem Beyond.step {bound : Nat} (beyond : Beyond bound session)
    (action : Action) :
    Beyond bound (SourceSession.step boundary session action) := by
  have progress := @Progress.step boundary session action
  refine ⟨beyond.generation.trans_le progress.generation, ?_⟩
  intro waits member earlier
  rcases progress.suspended waits member with old | ⟨_, current, _⟩
  · exact beyond.since waits old earlier
  · have gone := beyond.generation
    omega

/-- An operation that is performed goes on from its generation. -/
theorem beyond_performs {action : Action} (ordered : Ordered session)
    (performs : Performs boundary session action) :
    Beyond session.generation (step boundary session action) := by
  cases action with
  | replaceSource expectedRunMode =>
      change Beyond _ (session.replaceSource expectedRunMode)
      have open' : ¬session.disposed = true := by
        rw [show session.disposed = false from performs]
        decide
      rw [Session.replaceSource, if_neg open']
      exact ⟨Nat.lt_succ_self _, fun waits member _ =>
        ordered.since waits member⟩
  | dispose =>
      change Beyond _ session.dispose
      have open' : ¬session.disposed = true := by
        rw [show session.disposed = false from performs]
        decide
      rw [Session.dispose, if_neg open']
      exact ⟨Nat.lt_succ_self _, fun waits member _ =>
        ordered.since waits member⟩
  | anchorRuntime runtimeId =>
      change Beyond _ (session.anchorRuntime runtimeId)
      have changes : session.ChangesRuntime runtimeId := performs
      rw [Session.anchorRuntime, if_pos changes]
      exact ⟨Nat.lt_succ_self _, fun waits member _ =>
        ordered.since waits member⟩
  | proceed raises =>
      rcases performs with
        ⟨input, rest, idle, open', waiting, channel, name, verdict⟩
      change Beyond _ (session.proceed boundary raises)
      have processed :
          ({ session with waiting := rest } : Session).processInput boundary
              raises session.generation input =
            ({ session with waiting := rest } : Session).lockRuntimeChange
              raises := by
        unfold Session.processInput Session.processSnapshot
        rw [channel, name, verdict]
        rfl
      have next : session.proceed boundary raises =
          Session.settle session.generation input
            (({ session with waiting := rest } : Session).lockRuntimeChange
              raises) := by
        rw [proceed_eq idle waiting, Session.start, if_pos ⟨open', rfl⟩]
        exact congrArg _ processed
      rw [next]
      rcases settle_spec session.generation input
          (({ session with waiting := rest } : Session).lockRuntimeChange
            raises) with ⟨generation, _, _, suspended⟩
      refine ⟨generation ▸ Nat.lt_succ_self _, fun waits member _ => ?_⟩
      rcases suspended waits member with ⟨_, _, awaiting, awaits⟩
      cases raises with
      | false => cases awaits
      | true => cases awaits
  | opened sourceGeneration => exact performs.elim
  | expectLiveRun missionId runId => exact performs.elim
  | acceptReplayResume sessionId => exact performs.elim
  | enqueue sourceGeneration input => exact performs.elim
  | wake failed raises => exact performs.elim

/-- Beyond a generation an input of it changes nothing. -/
theorem Beyond.unchanged {bound sourceGeneration : Nat} {action : Action}
    (beyond : Beyond bound session)
    (timely : Timely boundary session action)
    (processes : inputGeneration session action = some sourceGeneration)
    (earlier : sourceGeneration ≤ bound) :
    (SourceSession.step boundary session action).currentState =
      session.currentState := by
  have gone := beyond.generation
  cases action with
  | enqueue source input =>
      change (session.enqueue source input).currentState = _
      unfold Session.enqueue
      split
      · rfl
      · rfl
  | proceed raises =>
      cases waiting : session.suspended with
      | none =>
          simp only [inputGeneration, waiting, Option.isNone_none, if_true]
            at processes
          refine proceed_stale fun head member => .inr ?_
          rw [Option.mem_def.1 member, Option.map_some,
            Option.some.injEq] at processes
          omega
      | some waits =>
          simp only [inputGeneration, waiting, Option.isNone_some] at processes
          cases processes
  | wake failed raises =>
      cases waiting : session.suspended with
      | none =>
          simp only [inputGeneration, waiting] at processes
          cases processes
      | some waits =>
          simp only [inputGeneration, waiting, Option.map_some,
            Option.some.injEq] at processes
          have silent : ¬Speaks boundary failed waits.awaiting := by
            intro speaks
            have current := timely waits waiting speaks
            have since := beyond.since waits waiting (by omega)
            omega
          exact wake_silent waiting silent (.inr (by omega))
  | replaceSource expectedRunMode => cases processes
  | opened source => cases processes
  | anchorRuntime runtimeId => cases processes
  | expectLiveRun missionId runId => cases processes
  | acceptReplayResume sessionId => cases processes
  | dispose => cases processes

/-- In a timely run no input of a source that was opened before an operation
changes the published state after it, and once the session is disposed its
published status stays so. -/
theorem source_isolated {actions : List Action}
    (timely : Along (step boundary) (Timely boundary) Session.initial
      actions) :
    (∀ first operation later last,
      first ++ operation :: later ++ [last] = actions →
      Performs boundary (run (step boundary) Session.initial first)
        operation →
      ∀ sourceGeneration ∈
        (run (step boundary) Session.initial first).sources,
        inputGeneration
            (run (step boundary) Session.initial
              (first ++ operation :: later)) last =
          some sourceGeneration →
        (run (step boundary) Session.initial actions).currentState =
          (run (step boundary) Session.initial
            (first ++ operation :: later)).currentState) ∧
    ((run (step boundary) Session.initial actions).disposed = true →
      (run (step boundary) Session.initial
        actions).currentState.server.status = .disposed) := by
  refine ⟨?_, (ordered_run timely).status⟩
  rintro first operation later last rfl performs sourceGeneration member
    processes
  rcases timely.split with ⟨before, after⟩
  have ordered := ordered_run before.split.1
  have beyond : Beyond
      (run (step boundary) Session.initial first).generation
      (run (step boundary) Session.initial (first ++ operation :: later)) := by
    rw [run_append, run_cons]
    exact run_keeps_always (fun _ action held => held.step action) later
      (beyond_performs ordered performs)
  rw [run_append]
  exact beyond.unchanged after.1 processes
    (ordered.sources sourceGeneration member)

/-- An input that was queued before its source was replaced. -/
def overtaken (input : Input) : List Action :=
  [.replaceSource none, .enqueue 1 input] ++
    .replaceSource (some .replay) :: [] ++ [.proceed false]

theorem overtaken_timely (input : Input) :
    Along (step boundary) (Timely boundary) Session.initial
      (overtaken input) :=
  ⟨trivial, trivial, trivial, trivial, trivial⟩

/-! ## A verification that outlives its source -/

/-- A snapshot of a runtime without a mission. -/
def idleSnapshot : DashboardSnapshot where
  cursor := "cursor-1"
  digest := String.ofList (List.replicate 64 '0')
  latestEventDigest := none
  state := emptyReducerCheckpoint.state
  timeline := []
  runtimeId := "runtime-1"
  currentRun := none

/-- Its text. -/
def idleText : List Char :=
  "\x7b\"currentRun\":null,".toList ++ "\"cursor\":\"cursor-1\",".toList ++
    "\"digest\":\"".toList ++ List.replicate 64 '0' ++
    "\",\"latestEventDigest\":null,".toList ++
    "\"runtimeId\":\"runtime-1\",".toList ++ "\"snapshotVersion\":".toList ++
    "\"dashboard-snapshot/v1\",".toList ++ "\"state\":\x7b".toList ++
    "\"canonicalizationVersion\":1,".toList ++
    "\"currentMission\":null,".toList ++ "\"fleet\":[],".toList ++
    "\"latestAuditOrdinal\":0,".toList ++ "\"sectors\":[],".toList ++
    "\"stateVersion\":1\x7d,".toList ++ "\"timeline\":[]\x7d".toList

/-- Whether a text was decoded. -/
def wasDecoded : DecodeResult → Bool
  | .ok _ => true
  | _ => false

theorem decodes_of_wasDecoded {result : DecodeResult}
    (decoded : wasDecoded result = true) : ∃ value, result = .ok value := by
  cases result with
  | ok value => exact ⟨value, rfl⟩
  | malformedJson => cases decoded
  | canonicalProfileRefused => cases decoded
  | thrown => cases decoded

theorem idleText_decoded :
    wasDecoded (decoded zeroHost noNumber idleText) = true := by
  decide +kernel

theorem accepts_of_wasAccepted {result : Except DigestRefusal
      (Except ReducerFailure ReducerCheckpoint)}
    (accepted : wasAccepted result = true) :
    ∃ checkpoint, result = .ok (.ok checkpoint) := by
  unfold wasAccepted at accepted
  split at accepted
  · exact ⟨_, rfl⟩
  · cases accepted

theorem idleSnapshot_accepted :
    wasAccepted (checkpointFromSnapshot zeroHost noNumber
      idleSnapshot.toBrowserSnapshot) = true := by
  decide +kernel

/-- The snapshot as a source delivers it. -/
def idleInput : Input where
  channel := "sse-frame"
  lastEventId := none
  name := "snapshot"
  raw := String.ofList idleText

/-- A browser that reads the snapshot. -/
def idleBoundary : Boundary where
  host := zeroHost
  number := noNumber
  accepts := fun _ => false
  schemas :=
    { snapshot := fun _ => some idleSnapshot
      eventFrame := fun _ => none
      overload := fun _ => none
      sourceSignal := fun _ => none }
  consumesUnhandled := false

theorem validate_accepts {α : Type} {read : ScriptValue → Option α}
    {schemaId : SchemaId} {input : Input} {value : ScriptValue}
    {document : α}
    (decodes : decoded boundary.host boundary.number input.raw.toList =
      .ok value)
    (reads : read value = some document) :
    Session.validate boundary read schemaId input = .ok document := by
  unfold Session.validate
  simp only [decodes, reads]

theorem idleInput_validated (schemaId : SchemaId) :
    Session.validate idleBoundary idleBoundary.schemas.snapshot schemaId
      idleInput = .ok idleSnapshot := by
  rcases decodes_of_wasDecoded idleText_decoded with ⟨value, decodes⟩
  have same : idleInput.raw.toList = idleText := String.toList_ofList
  exact validate_accepts ((congrArg _ same).trans decodes) rfl

/-- The session while it verifies the snapshot of its first source. -/
def verifying : Session :=
  { Session.initial with
    generation := 1
    sources := [1]
    suspended := some ⟨1, 1, idleInput, .snapshot idleSnapshot⟩ }

/-- A source is opened and delivers an input. -/
def delivery (input : Input) : List Action :=
  [.replaceSource none, .enqueue 1 input, .proceed false]

/-- The snapshot is delivered and begins to be verified. -/
def verification : List Action :=
  delivery idleInput

theorem delivery_run (input : Input) :
    run (step boundary) Session.initial (delivery input) =
      Session.settle 1 input
        (Session.processInput boundary false 1
          { Session.initial with generation := 1, sources := [1] } input) :=
  rfl

theorem processInput_snapshot {raises : Bool} {sourceGeneration : Nat}
    {input : Input} {document : DashboardSnapshot}
    (channel : input.channel = "sse-frame") (name : input.name = "snapshot")
    (validated : Session.validate boundary boundary.schemas.snapshot .snapshot
      input = .ok document)
    (verifies : session.judge input document = .verifies document) :
    session.processInput boundary raises sourceGeneration input =
      (session, .awaits (.snapshot document)) := by
  unfold Session.processInput Session.processSnapshot Session.snapshotVerdict
  rw [channel, name]
  simp only [validated, verifies]
  rfl

theorem verification_run :
    run (step idleBoundary) Session.initial verification = verifying := by
  unfold verification
  rw [delivery_run, processInput_snapshot rfl rfl
    (idleInput_validated .snapshot) rfl]
  rfl

theorem verifySnapshot_accepts {raises : Bool} {input : Input}
    {document : DashboardSnapshot} {checkpoint : ReducerCheckpoint}
    (accepted : checkpointFromSnapshot boundary.host boundary.number
      document.toBrowserSnapshot = .ok (.ok checkpoint)) :
    session.verifySnapshot boundary raises input document =
      session.acceptSnapshot raises document checkpoint := by
  unfold Session.verifySnapshot
  rw [accepted]

/-- The verification ends, and the snapshot is published. -/
theorem verified_connects {session : Session}
    (waiting : session.suspended = verifying.suspended) :
    (session.wake idleBoundary false false).currentState.server.status =
      .connected := by
  rcases accepts_of_wasAccepted idleSnapshot_accepted with ⟨checkpoint, read⟩
  have publishes : session.verifySnapshot idleBoundary false idleInput
      idleSnapshot = session.acceptSnapshot false idleSnapshot checkpoint :=
    verifySnapshot_accepts read
  unfold Session.wake
  rw [waiting]
  change (Session.settle 1 idleInput (session.verifySnapshot idleBoundary
    false idleInput idleSnapshot)).currentState.server.status = _
  rw [publishes]
  rfl

/-- A queued snapshot of a replaced source. -/
theorem source_isolated_overtaken :
    (run (step idleBoundary) Session.initial
        (overtaken idleInput)).currentState =
      (run (step idleBoundary) Session.initial
        ([.replaceSource none, .enqueue 1 idleInput] ++
          .replaceSource (some .replay) :: [])).currentState :=
  (source_isolated (overtaken_timely idleInput)).1
    [.replaceSource none, .enqueue 1 idleInput]
    (.replaceSource (some .replay)) [] (.proceed false) rfl rfl 1
    List.mem_cons_self rfl

/-- A snapshot whose verification ends after its session was disposed of, or
after its source was replaced, is published nevertheless. -/
theorem verification_outlives_source :
    ((run (step idleBoundary) Session.initial
          (verification ++ [.dispose])).disposed = true ∧
      (run (step idleBoundary) Session.initial
          (verification ++ [.dispose, .wake false false])
        ).currentState.server.status = .connected) ∧
    (Performs idleBoundary
        (run (step idleBoundary) Session.initial verification)
        (.replaceSource (some .replay)) ∧
      (run (step idleBoundary) Session.initial
          (verification ++ [.replaceSource (some .replay)])
        ).currentState.server.status = .idle ∧
      (run (step idleBoundary) Session.initial
          (verification ++ [.replaceSource (some .replay),
            .wake false false])).currentState.server.status = .connected) := by
  simp only [run_append, verification_run]
  refine ⟨⟨rfl, verified_connects rfl⟩, rfl, rfl, verified_connects rfl⟩

end AerialRescue.Dashboard.SourceSession
