import AerialRescue.Dashboard.BrowserReducer
import AerialRescue.Dashboard.Stream
import AerialRescue.Lib.Run

/-!
# Delivered frames

What a client receives on one stream, folded by its own reducer.  The buffer
sheds telemetry under pressure while the reducer takes consecutive ordinals
only, so a shed frame stops the client at the next one.  As long as no offer
meets a full buffer with telemetry in it, or is telemetry itself, and the
client's timeline has room for what it takes, the frames fold to the server's
checkpoint at the last delivered ordinal.
-/

namespace AerialRescue.Dashboard

open AerialRescue.Lib.Run
open AerialRescue.Lib.Guard
open AerialRescue.Contracts
open AerialRescue.Contracts.Canonical
open AerialRescue.Contracts.Digest
open AerialRescue.Contracts.Rpc
open AerialRescue.Contracts.View

/-! ## What the client makes of a stream -/

/-- The data frame of an event, when it is one. -/
def BufferedEvent.frame? (event : BufferedEvent) : Option EventFrame :=
  match event.payload with
  | .frame body => some body
  | .overload => none

/-- The data frames a stream has delivered, in order. -/
def Stream.deliveredFrames (stream : Stream) : List EventFrame :=
  stream.delivered.filterMap BufferedEvent.frame?

/-- The client's reducer over the frames it receives, in order. -/
def browserFold (host : Host) :
    BrowserSnapshot → List EventFrame →
      Except DigestFailure (Except FrameRefusal BrowserSnapshot)
  | snapshot, [] => pure (.ok snapshot)
  | snapshot, frame :: rest => do
      let result ← applyDashboardEventFrame host snapshot frame
      match result with
      | .error refusal => pure (.error refusal)
      | .ok next => browserFold host next rest

/-- The checkpoint the server reached with the event of that ordinal. -/
def serverCheckpointAt (initial : ReducerCheckpoint)
    (folded : List FoldedFrame) (ordinal : Int) : ReducerCheckpoint :=
  ((folded.find? fun frame => frame.body.event.auditOrdinal = ordinal).map
    FoldedFrame.checkpoint).getD initial

/-- The ordinal a client with that snapshot stands at after these frames. -/
def lastOrdinal (snapshot : BrowserSnapshot) (frames : List EventFrame) :
    Int :=
  (frames.getLast?.map fun frame => frame.event.auditOrdinal).getD
    snapshot.state.latestAuditOrdinal

/--
The delivered frames are applied one after the other and end in the server's
checkpoint at the last delivered ordinal.
-/
def FramesFold (host : Host) (initial : ReducerCheckpoint)
    (snapshot : BrowserSnapshot) (stream : Stream) : Prop :=
  ∃ final,
    browserFold host snapshot stream.deliveredFrames = .ok (.ok final) ∧
      Mirrors final
        (serverCheckpointAt initial stream.folded
          (lastOrdinal snapshot stream.deliveredFrames))

/-- The stream has ended with the overload control frame. -/
def Stream.endsOverloaded (stream : Stream) : Prop :=
  ∃ earlier, stream.delivered = earlier ++ [overloadEvent]

/-! ## Chains of folds -/

/-- Frames that the producer folded one after the other. -/
inductive Folds (host : Host) :
    ReducerCheckpoint → List FoldedFrame → Prop
  | nil (checkpoint : ReducerCheckpoint) : Folds host checkpoint []
  | cons {checkpoint : ReducerCheckpoint} {folded : FoldedFrame}
      {rest : List FoldedFrame}
      (made : FrameOf host checkpoint folded)
      (later : Folds host folded.checkpoint rest) :
      Folds host checkpoint (folded :: rest)

/-- The checkpoint after a chain of folds. -/
def lastCheckpoint (checkpoint : ReducerCheckpoint)
    (folded : List FoldedFrame) : ReducerCheckpoint :=
  (folded.getLast?.map FoldedFrame.checkpoint).getD checkpoint

theorem lastCheckpoint_cons (checkpoint : ReducerCheckpoint)
    (first : FoldedFrame) (rest : List FoldedFrame) :
    lastCheckpoint checkpoint (first :: rest) =
      lastCheckpoint first.checkpoint rest := by
  cases rest with
  | nil => rfl
  | cons second later =>
      simp [lastCheckpoint, List.getLast?_eq_some_getLast]

theorem lastCheckpoint_append (checkpoint : ReducerCheckpoint)
    (folded : List FoldedFrame) (last : FoldedFrame) :
    lastCheckpoint checkpoint (folded ++ [last]) = last.checkpoint := by
  simp [lastCheckpoint]

theorem Folds.append {host : Host} {checkpoint : ReducerCheckpoint}
    {folded : List FoldedFrame} {last : FoldedFrame}
    (chain : Folds host checkpoint folded)
    (made : FrameOf host (lastCheckpoint checkpoint folded) last) :
    Folds host checkpoint (folded ++ [last]) := by
  induction chain with
  | nil start => exact .cons made (.nil _)
  | cons first _ inductionHypothesis =>
      rw [lastCheckpoint_cons] at made
      exact .cons first (inductionHypothesis made)

theorem Folds.take {host : Host} {checkpoint : ReducerCheckpoint}
    {first second : List FoldedFrame}
    (chain : Folds host checkpoint (first ++ second)) :
    Folds host checkpoint first := by
  induction first generalizing checkpoint with
  | nil => exact .nil _
  | cons folded rest inductionHypothesis =>
      cases chain with
      | cons made later => exact .cons made (inductionHypothesis later)

/-- A folded frame stands at the ordinal of its event. -/
theorem FrameOf.ordinal {host : Host} {checkpoint : ReducerCheckpoint}
    {folded : FoldedFrame} (made : FrameOf host checkpoint folded) :
    folded.checkpoint.state.latestAuditOrdinal =
        folded.body.event.auditOrdinal ∧
      (folded.body.event.auditOrdinal =
          checkpoint.state.latestAuditOrdinal + 1 ∨
        (folded.checkpoint = checkpoint ∧
          folded.body.event.auditOrdinal =
            checkpoint.state.latestAuditOrdinal)) := by
  rcases made.fold with applied | duplicate
  · rcases foldOrderedEvent_accepted applied with
      ⟨event, reduced, witness, applies, produced, _⟩ | ⟨impossible, _⟩ |
        ⟨_, impossible⟩
    · rw [FoldOutcome.applied.inj produced]
      exact ⟨rfl, .inl applies.next⟩
    · cases impossible
    · cases impossible
  · rcases foldOrderedEvent_accepted duplicate with
      ⟨_, _, _, _, impossible, _⟩ | ⟨produced, same, _, _⟩ |
        ⟨_, impossible⟩
    · cases impossible
    · have kept := FoldOutcome.duplicate.inj produced
      exact ⟨by rw [kept, same], .inr ⟨kept, same⟩⟩
    · cases impossible

/-- Ordinals never fall along a chain. -/
theorem Folds.ordinal_le {host : Host} {checkpoint : ReducerCheckpoint}
    {folded : List FoldedFrame} (chain : Folds host checkpoint folded) :
    ∀ frame ∈ folded,
      checkpoint.state.latestAuditOrdinal ≤
        frame.body.event.auditOrdinal := by
  induction chain with
  | nil start =>
      intro frame member
      cases member
  | cons made later inductionHypothesis =>
      intro frame member
      have here := made.ordinal
      rcases List.mem_cons.1 member with rfl | further
      · omega
      · have after := inductionHypothesis frame further
        omega

/-- Frames at the ordinal a chain starts from leave its checkpoint alone. -/
theorem Folds.same {host : Host} {checkpoint : ReducerCheckpoint}
    {folded : List FoldedFrame} (chain : Folds host checkpoint folded) :
    ∀ frame ∈ folded,
      frame.body.event.auditOrdinal = checkpoint.state.latestAuditOrdinal →
        frame.checkpoint = checkpoint := by
  induction chain with
  | nil start =>
      intro frame member
      cases member
  | cons made later inductionHypothesis =>
      intro frame member level
      have here := made.ordinal
      rcases List.mem_cons.1 member with rfl | further
      · rcases here.2 with next | ⟨kept, _⟩
        · omega
        · exact kept
      · have after := later.ordinal_le frame further
        rcases here.2 with next | ⟨kept, _⟩
        · omega
        · rw [kept] at inductionHypothesis
          exact inductionHypothesis frame further level

/-- The server's checkpoint at an ordinal is that of any frame with it. -/
theorem serverCheckpointAt_of_mem {host : Host}
    {checkpoint : ReducerCheckpoint} {folded : List FoldedFrame}
    (chain : Folds host checkpoint folded) {frame : FoldedFrame}
    (member : frame ∈ folded) :
    serverCheckpointAt checkpoint folded frame.body.event.auditOrdinal =
      frame.checkpoint := by
  induction chain with
  | nil start => cases member
  | @cons start first rest made later inductionHypothesis =>
      by_cases level :
          first.body.event.auditOrdinal = frame.body.event.auditOrdinal
      · have found :
            serverCheckpointAt start (first :: rest)
              frame.body.event.auditOrdinal = first.checkpoint := by
          simp [serverCheckpointAt, level]
        rw [found]
        rcases List.mem_cons.1 member with rfl | further
        · rfl
        · have here := made.ordinal.1
          exact (later.same frame further (by omega)).symm
      · rcases List.mem_cons.1 member with rfl | further
        · exact absurd rfl level
        · have tail := inductionHypothesis further
          have present :
              (rest.find? fun held =>
                held.body.event.auditOrdinal =
                  frame.body.event.auditOrdinal).isSome = true := by
            rw [List.find?_isSome]
            exact ⟨frame, further, by simp⟩
          rcases Option.isSome_iff_exists.1 present with ⟨held, found⟩
          simp only [serverCheckpointAt, found, Option.map_some,
            Option.getD_some] at tail
          simp [serverCheckpointAt, level, found, tail]

/-- The checkpoint after a first part of a chain, by its last ordinal. -/
theorem serverCheckpointAt_lastOrdinal {host : Host}
    {checkpoint : ReducerCheckpoint} {taken rest : List FoldedFrame}
    {snapshot : BrowserSnapshot}
    (chain : Folds host checkpoint (taken ++ rest))
    (mirrors : Mirrors snapshot checkpoint) :
    serverCheckpointAt checkpoint (taken ++ rest)
        (lastOrdinal snapshot (taken.map FoldedFrame.body)) =
      lastCheckpoint checkpoint taken := by
  cases last : taken.getLast? with
  | none =>
      have empty : taken = [] := List.getLast?_eq_none_iff.1 last
      subst empty
      have level :
          lastOrdinal snapshot ([].map FoldedFrame.body) =
            checkpoint.state.latestAuditOrdinal := by
        rw [← mirrors.state]
        rfl
      rw [level]
      unfold serverCheckpointAt lastCheckpoint
      cases found : rest.find? fun frame =>
          frame.body.event.auditOrdinal =
            checkpoint.state.latestAuditOrdinal with
      | none => simp [found]
      | some frame =>
          have member : frame ∈ rest := List.mem_of_find?_eq_some found
          have same := chain.same frame member (by
            simpa using List.find?_some found)
          simp [found, same]
  | some frame =>
      have member : frame ∈ taken := List.mem_of_getLast? last
      have level :
          lastOrdinal snapshot (taken.map FoldedFrame.body) =
            frame.body.event.auditOrdinal := by
        simp [lastOrdinal, last]
      rw [level,
        serverCheckpointAt_of_mem chain (List.mem_append_left _ member)]
      simp [lastCheckpoint, last]

/-! ## Folding a chain -/

/-- Whether the client puts a frame on its timeline. -/
def EventFrame.isTimeline (frame : EventFrame) : Bool :=
  frame.event.event.kind ≠ "droneTelemetry"

/-- A client that has room for a chain of frames folds the whole chain. -/
theorem browserFold_of_folds {host : Host}
    (hexadecimal : Hexadecimal host) {checkpoint : ReducerCheckpoint}
    {folded : List FoldedFrame} (chain : Folds host checkpoint folded)
    {snapshot : BrowserSnapshot} (mirrors : Mirrors snapshot checkpoint)
    (room :
      snapshot.timeline.length +
          (folded.map FoldedFrame.body).countP EventFrame.isTimeline ≤
        timelineCapacity) :
    ∃ final,
      browserFold host snapshot (folded.map FoldedFrame.body) =
          .ok (.ok final) ∧
        Mirrors final (lastCheckpoint checkpoint folded) := by
  induction chain generalizing snapshot with
  | nil start => exact ⟨snapshot, rfl, mirrors⟩
  | @cons start first rest made later inductionHypothesis =>
      have grown :
          (appendTimeline snapshot.timeline first.body.event).length =
            snapshot.timeline.length +
              if first.body.isTimeline then 1 else 0 := by
        by_cases telemetry : first.body.event.event.kind = "droneTelemetry"
        · simp [appendTimeline, EventFrame.isTimeline, telemetry]
        · simp [appendTimeline, EventFrame.isTimeline, telemetry]
      rw [List.map_cons, List.countP_cons] at room
      rcases applyDashboardEventFrame_of_frame hexadecimal made mirrors
          (by omega) with
        ⟨next, applied, nextMirrors, kept⟩
      rcases inductionHypothesis nextMirrors (by omega) with
        ⟨final, rest, ends⟩
      refine ⟨final, ?_, ?_⟩
      · simp [browserFold, applied, rest, bind, Except.bind]
      · rw [lastCheckpoint_cons]
        exact ends

/-! ## Streams that shed nothing -/

/-- Whether an offer meets a full buffer that is still open. -/
def ClientBuffer.isFull (buffer : ClientBuffer) : Prop :=
  buffer.closed = false ∧ buffer.capacity ≤ buffer.events.length

/--
The condition on one action: an offer to a full buffer is not telemetry and
finds no telemetry there, and a frame the client takes fits its timeline.
-/
def Unshed (boundary : Boundary) (runIdentity : String)
    (snapshot : BrowserSnapshot) (stream : Stream) :
    StreamAction → Prop
  | .produce stored =>
      ∀ checkpoint folded,
        stream.producer = .running checkpoint →
        foldFrame boundary runIdentity checkpoint stored = .ok folded →
        stream.buffer.isFull →
          (bufferedFrame folded).isTelemetry = false ∧
            ∀ held ∈ stream.buffer.events, held.isTelemetry = false
  | .consume _ =>
      ∀ event rest frame,
        stream.buffer.events = event :: rest →
        event.frame? = some frame →
          snapshot.timeline.length +
              (stream.deliveredFrames ++ [frame]).countP
                EventFrame.isTimeline ≤
            timelineCapacity
  | _ => True

/--
What a stream without shedding keeps: the folded frames are the delivered
ones, then the buffered ones, then those that came too late.
-/
structure Unbroken (host : Host) (initial : ReducerCheckpoint)
    (snapshot : BrowserSnapshot) (stream : Stream)
    (taken held late : List FoldedFrame) (control : List BufferedEvent) :
    Prop where
  chain : Folds host initial stream.folded
  current :
    ∀ checkpoint,
      stream.producer = .waiting checkpoint ∨
          stream.producer = .running checkpoint →
        checkpoint = lastCheckpoint initial stream.folded
  folded : stream.folded = taken ++ held ++ late
  delivered : stream.delivered = taken.map bufferedFrame ++ control
  buffered : stream.buffer.events = held.map bufferedFrame
  inTime : stream.buffer.closed = false → late = []
  room :
    snapshot.timeline.length +
        (taken.map FoldedFrame.body).countP EventFrame.isTimeline ≤
      timelineCapacity
  single :
    control ++ stream.buffer.terminal.toList = [] ∨
      (control ++ stream.buffer.terminal.toList = [overloadEvent] ∧
        stream.buffer.closed = true)
  afterData : control ≠ [] → held = []

/-- Some split of the folded frames is unbroken. -/
def Stream.IsUnbroken (host : Host) (initial : ReducerCheckpoint)
    (snapshot : BrowserSnapshot) (stream : Stream) : Prop :=
  ∃ taken held late control,
    Unbroken host initial snapshot stream taken held late control

theorem frames_bufferedFrame (folded : List FoldedFrame) :
    (folded.map bufferedFrame).filterMap BufferedEvent.frame? =
      folded.map FoldedFrame.body := by
  induction folded with
  | nil => rfl
  | cons first rest inductionHypothesis =>
      have here : (bufferedFrame first).frame? = some first.body := rfl
      simp only [List.map_cons, List.filterMap_cons, here,
        inductionHypothesis]

section Steps

variable {boundary : Boundary} {runIdentity : String}
  {initial : ReducerCheckpoint} {snapshot : BrowserSnapshot}

/-- A change of the producer alone that does not move it on. -/
theorem Unbroken.withProducer {host : Host} {stream : Stream}
    {taken held late : List FoldedFrame} {control : List BufferedEvent}
    (unbroken : Unbroken host initial snapshot stream taken held late control)
    {producer : Producer} {body : Body}
    (stays :
      ∀ checkpoint,
        producer = .waiting checkpoint ∨ producer = .running checkpoint →
          stream.producer = .waiting checkpoint ∨
            stream.producer = .running checkpoint) :
    Unbroken host initial snapshot { stream with producer, body }
      taken held late control where
  chain := unbroken.chain
  current := by
    intro checkpoint position
    exact unbroken.current checkpoint (stays checkpoint position)
  folded := unbroken.folded
  delivered := unbroken.delivered
  buffered := unbroken.buffered
  inTime := unbroken.inTime
  room := unbroken.room
  single := unbroken.single
  afterData := unbroken.afterData

/-- At most one control frame was delivered. -/
theorem Unbroken.control {host : Host} {stream : Stream}
    {taken held late : List FoldedFrame} {control : List BufferedEvent}
    (unbroken :
      Unbroken host initial snapshot stream taken held late control) :
    control = [] ∨ control = [overloadEvent] := by
  rcases unbroken.single with none | ⟨one, _⟩
  · exact .inl (List.append_eq_nil_iff.1 none).1
  · cases control with
    | nil => exact .inl rfl
    | cons first rest =>
        rw [List.cons_append, List.cons.injEq,
          List.append_eq_nil_iff] at one
        rw [one.1, one.2.1]
        exact .inr rfl

/-- Ending the body moves what is still buffered to what came too late. -/
theorem Stream.IsUnbroken.finish {host : Host} {stream : Stream}
    (kept : stream.IsUnbroken host initial snapshot)
    (cleanup : ProducerEnd) :
    (stream.finish cleanup).1.IsUnbroken host initial snapshot := by
  rcases kept with ⟨taken, held, late, control, unbroken⟩
  unfold Stream.finish
  simp only
  split_ifs with raised
  · refine ⟨taken, held, late, control, unbroken.withProducer ?_⟩
    intro checkpoint position
    rcases position with impossible | impossible <;> cases impossible
  · refine ⟨taken, [], held ++ late, control, ?_⟩
    refine
      { chain := unbroken.chain
        current := ?_
        folded := ?_
        delivered := unbroken.delivered
        buffered := rfl
        inTime := ?_
        room := unbroken.room
        single := ?_
        afterData := fun _ => rfl }
    · intro checkpoint position
      rcases position with impossible | impossible <;> cases impossible
    · rw [unbroken.folded]
      simp
    · intro impossible
      cases impossible
    · simp only [ClientBuffer.close, Option.toList_none, List.append_nil]
      exact unbroken.control.imp id fun one => ⟨one, trivial⟩

theorem Stream.IsUnbroken.consume {host : Host} {stream : Stream}
    (kept : stream.IsUnbroken host initial snapshot)
    (cleanup : ProducerEnd)
    (fits :
      ∀ event rest frame,
        stream.buffer.events = event :: rest →
        event.frame? = some frame →
          snapshot.timeline.length +
              (stream.deliveredFrames ++ [frame]).countP
                EventFrame.isTimeline ≤
            timelineCapacity) :
    (stream.consume cleanup).1.IsUnbroken host initial snapshot := by
  rcases kept with ⟨taken, held, late, control, unbroken⟩
  unfold Stream.consume ClientBuffer.pop
  cases held with
  | nil =>
      have empty : stream.buffer.events = [] := by
        rw [unbroken.buffered]
        rfl
      rw [empty]
      cases terminal : stream.buffer.terminal with
      | none => exact ⟨taken, [], late, control, unbroken⟩
      | some last =>
          have only : control = [] ∧ last = overloadEvent ∧
              stream.buffer.closed = true := by
            rcases unbroken.single with none | ⟨one, closed⟩
            · rw [terminal] at none
              simp at none
            · rw [terminal] at one
              cases control with
              | nil =>
                  simp at one
                  exact ⟨rfl, one, closed⟩
              | cons first rest => simp at one
          rcases only with ⟨rfl, rfl, closed⟩
          simp only [overloadEvent, if_true]
          apply Stream.IsUnbroken.finish
          refine ⟨taken, [], late, [overloadEvent], ?_⟩
          exact
            { chain := unbroken.chain
              current := unbroken.current
              folded := unbroken.folded
              delivered := by
                simp [unbroken.delivered, overloadEvent]
              buffered := rfl
              inTime := unbroken.inTime
              room := unbroken.room
              single := .inr ⟨rfl, closed⟩
              afterData := fun _ => rfl }
  | cons first rest =>
      have noControl : control = [] := by
        by_contra some
        cases unbroken.afterData some
      subst noControl
      have front : stream.buffer.events =
          bufferedFrame first :: rest.map bufferedFrame :=
        unbroken.buffered
      have frames :
          stream.deliveredFrames = taken.map FoldedFrame.body := by
        unfold Stream.deliveredFrames
        rw [unbroken.delivered, List.append_nil, frames_bufferedFrame]
      have fitting := fits _ _ first.body front rfl
      rw [front]
      simp only [bufferedFrame, Bool.false_eq_true, if_false]
      refine ⟨taken ++ [first], rest, late, [], ?_⟩
      exact
        { chain := unbroken.chain
          current := unbroken.current
          folded := by
            rw [unbroken.folded]
            simp
          delivered := by
            simp [unbroken.delivered, bufferedFrame]
          buffered := rfl
          inTime := unbroken.inTime
          room := by
            rw [frames] at fitting
            simpa using fitting
          single := unbroken.single
          afterData := fun impossible => absurd rfl impossible }

theorem Stream.produce_delivered (boundary : Boundary)
    (runIdentity : String) (stream : Stream) (stored : StoredEvent) :
    (stream.produce boundary runIdentity stored).delivered =
      stream.delivered := by
  unfold Stream.produce
  split
  · split <;> rfl
  · rfl

/-- An offer that sheds nothing is retained, refused or ends the stream. -/
theorem ClientBuffer.push_unshed {buffer : ClientBuffer}
    {event : BufferedEvent}
    (unshed :
      buffer.isFull →
        event.isTelemetry = false ∧
          ∀ held ∈ buffer.events, held.isTelemetry = false) :
    (buffer.closed = true ∧ buffer.push event = (.closed, buffer)) ∨
      (buffer.closed = false ∧
        buffer.push event =
          (.retained, { buffer with events := buffer.events ++ [event] })) ∨
      (buffer.closed = false ∧
        buffer.push event =
          (.overloaded,
            { buffer with
              terminal := some overloadEvent
              closed := true })) := by
  unfold ClientBuffer.push
  cases closed : buffer.closed with
  | true => exact .inl ⟨rfl, by simp⟩
  | false =>
      by_cases space : buffer.events.length < buffer.capacity
      · exact .inr (.inl ⟨rfl, by simp [space]⟩)
      · rcases unshed ⟨closed, Nat.le_of_not_lt space⟩ with
          ⟨offered, retained⟩
        have nothing :
            buffer.events.findIdx? BufferedEvent.isTelemetry = none := by
          rw [List.findIdx?_eq_none_iff]
          exact retained
        exact .inr (.inr ⟨rfl, by simp [space, nothing, offered]⟩)

theorem Stream.IsUnbroken.produce {stream : Stream}
    (kept : stream.IsUnbroken boundary.host initial snapshot)
    {stored : StoredEvent}
    (unshed :
      Unshed boundary runIdentity snapshot stream (.produce stored)) :
    (stream.produce boundary runIdentity stored).IsUnbroken boundary.host
      initial snapshot := by
  rcases kept with ⟨taken, held, late, control, unbroken⟩
  unfold Stream.produce
  cases position : stream.producer with
  | waiting checkpoint => exact ⟨taken, held, late, control, unbroken⟩
  | done ending => exact ⟨taken, held, late, control, unbroken⟩
  | running checkpoint =>
      simp only
      cases produced : foldFrame boundary runIdentity checkpoint stored with
      | error raised =>
          have stopped :
              ∀ found,
                Producer.done .raised = .waiting found ∨
                    Producer.done .raised = .running found →
                  stream.producer = .waiting found ∨
                    stream.producer = .running found := by
            intro found impossible
            rcases impossible with impossible | impossible <;>
              cases impossible
          exact ⟨taken, held, late, control,
            unbroken.withProducer stopped⟩
      | ok folded =>
          have made := foldFrame_eq_ok produced
          rw [unbroken.current checkpoint (.inr position)] at made
          have chain := unbroken.chain.append made
          have ends := lastCheckpoint_append initial stream.folded folded
          have whileOpen :
              stream.buffer.closed = false →
                late = [] ∧ control = [] ∧
                  stream.buffer.terminal = none := by
            intro isOpen
            refine ⟨unbroken.inTime isOpen, ?_⟩
            rcases unbroken.single with none | ⟨_, closed⟩
            · simpa using none
            · rw [isOpen] at closed
              cases closed
          rcases ClientBuffer.push_unshed
              (unshed checkpoint folded position produced) with
            ⟨closed, offered⟩ | ⟨isOpen, offered⟩ | ⟨isOpen, offered⟩
          · simp only [offered]
            refine ⟨taken, held, late ++ [folded], control, ?_⟩
            exact
              { chain := chain
                current := by
                  intro found impossible
                  rcases impossible with impossible | impossible <;>
                    cases impossible
                folded := by
                  rw [unbroken.folded]
                  simp
                delivered := unbroken.delivered
                buffered := unbroken.buffered
                inTime := by
                  intro isOpen
                  rw [closed] at isOpen
                  cases isOpen
                room := unbroken.room
                single := unbroken.single
                afterData := unbroken.afterData }
          · rcases whileOpen isOpen with ⟨rfl, rfl, vacant⟩
            simp only [offered]
            refine ⟨taken, held ++ [folded], [], [], ?_⟩
            exact
              { chain := chain
                current := by
                  intro found moved
                  rw [ends]
                  rcases moved with impossible | moved
                  · cases impossible
                  · exact (Producer.running.inj moved).symm
                folded := by
                  rw [unbroken.folded]
                  simp
                delivered := unbroken.delivered
                buffered := by
                  simp [unbroken.buffered]
                inTime := fun _ => rfl
                room := unbroken.room
                single := by
                  simp [vacant]
                afterData := fun impossible => absurd rfl impossible }
          · rcases whileOpen isOpen with ⟨rfl, rfl, vacant⟩
            simp only [offered]
            refine ⟨taken, held, [folded], [], ?_⟩
            exact
              { chain := chain
                current := by
                  intro found impossible
                  rcases impossible with impossible | impossible <;>
                    cases impossible
                folded := by
                  rw [unbroken.folded]
                  simp
                delivered := unbroken.delivered
                buffered := unbroken.buffered
                inTime := by
                  intro impossible
                  cases impossible
                room := unbroken.room
                single := .inr ⟨rfl, rfl⟩
                afterData := fun impossible => absurd rfl impossible }

/-- A handle that was just returned is unbroken. -/
theorem isUnbroken_opened (host : Host) (capture : SnapshotCapture)
    (buffer : ClientBuffer) (vacant : buffer.events = [])
    (quiet : buffer.terminal = none) :
    (Stream.opened capture.checkpoint buffer).IsUnbroken host
      capture.checkpoint (browserSnapshot capture) := by
  refine ⟨[], [], [], [], ?_⟩
  exact
    { chain := .nil _
      current := by
        intro checkpoint position
        rcases position with waiting | impossible
        · exact (Producer.waiting.inj waiting).symm
        · cases impossible
      folded := rfl
      delivered := rfl
      buffered := vacant
      inTime := fun _ => rfl
      room := capture.bounded
      single := .inl (by simp [Stream.opened, quiet])
      afterData := fun _ => rfl }

/-- An action that sheds nothing keeps the stream unbroken. -/
theorem Stream.IsUnbroken.step {stream : Stream} {action : StreamAction}
    (unshed : Unshed boundary runIdentity snapshot stream action)
    (kept : stream.IsUnbroken boundary.host initial snapshot) :
    (stream.advance boundary runIdentity action).IsUnbroken boundary.host
      initial snapshot := by
  have stopped :
      ∀ ending : ProducerEnd, ∀ found,
        Producer.done ending = .waiting found ∨
            Producer.done ending = .running found →
          stream.producer = .waiting found ∨
            stream.producer = .running found := by
    intro ending found impossible
    rcases impossible with impossible | impossible <;> cases impossible
  cases action with
  | start =>
      rcases kept with ⟨taken, held, late, control, unbroken⟩
      show Stream.IsUnbroken boundary.host initial snapshot stream.start
      unfold Stream.start
      split
      · rename_i checkpoint _ position
        refine ⟨taken, held, late, control, unbroken.withProducer ?_⟩
        intro found moved
        rcases moved with impossible | moved
        · cases impossible
        · cases moved
          exact .inl position
      · exact ⟨taken, held, late, control,
          unbroken.withProducer fun _ position => position⟩
      · exact ⟨taken, held, late, control, unbroken⟩
  | produce stored => exact kept.produce unshed
  | poll =>
      rcases kept with ⟨taken, held, late, control, unbroken⟩
      show Stream.IsUnbroken boundary.host initial snapshot stream.poll
      unfold Stream.poll
      split
      · split_ifs
        · exact ⟨taken, held, late, control,
            unbroken.withProducer (stopped .returned)⟩
        · exact ⟨taken, held, late, control, unbroken⟩
      · exact ⟨taken, held, late, control, unbroken⟩
  | fail =>
      rcases kept with ⟨taken, held, late, control, unbroken⟩
      show Stream.IsUnbroken boundary.host initial snapshot stream.fail
      unfold Stream.fail
      split
      · exact ⟨taken, held, late, control,
          unbroken.withProducer (stopped .raised)⟩
      · exact ⟨taken, held, late, control, unbroken⟩
  | consume cleanup =>
      simp only [Stream.advance, Stream.step]
      split
      · exact kept.consume cleanup unshed
      · exact kept
  | timeout cleanup =>
      simp only [Stream.advance, Stream.step, Stream.timeout]
      split
      · split_ifs
        · exact kept.finish cleanup
        · exact kept
      · exact kept
  | disconnect cleanup =>
      simp only [Stream.advance, Stream.step, Stream.disconnect]
      split
      · rcases kept with ⟨taken, held, late, control, unbroken⟩
        exact ⟨taken, held, late, control,
          unbroken.withProducer fun _ position => position⟩
      · exact kept.finish cleanup
      · exact kept

end Steps

/--
In every run that sheds nothing and overfills no timeline, the delivered
frames fold to the server's checkpoint at the last delivered ordinal, and at
most the last delivered frame is the overload control frame.
-/
theorem deliveredFrames_fold (boundary : Boundary) (runIdentity : String)
    (hexadecimal : Hexadecimal boundary.host) (capture : SnapshotCapture)
    (capacity : Nat) (positive : 0 < capacity)
    (actions : List StreamAction)
    (along :
      Along (Stream.advance boundary runIdentity)
        (Unshed boundary runIdentity (browserSnapshot capture))
        (Stream.opened capture.checkpoint
          (ClientBuffer.empty capacity positive))
        actions) :
    let stream :=
      run (Stream.advance boundary runIdentity)
        (Stream.opened capture.checkpoint
          (ClientBuffer.empty capacity positive))
        actions
    FramesFold boundary.host capture.checkpoint (browserSnapshot capture)
        stream ∧
      ∃ frames : List FoldedFrame,
        stream.delivered = frames.map bufferedFrame ∨
          stream.delivered = frames.map bufferedFrame ++ [overloadEvent] := by
  intro stream
  have mirrors := mirrors_browserSnapshot capture
  have start :=
    isUnbroken_opened boundary.host capture
      (ClientBuffer.empty capacity positive) rfl rfl
  have kept :
      stream.IsUnbroken boundary.host capture.checkpoint
        (browserSnapshot capture) :=
    run_keeps (fun _ _ unshed kept => Stream.IsUnbroken.step unshed kept)
      along start
  rcases kept with ⟨taken, held, late, control, unbroken⟩
  refine ⟨?_, taken, ?_⟩
  · have frames : stream.deliveredFrames = taken.map FoldedFrame.body := by
      unfold Stream.deliveredFrames
      rw [unbroken.delivered, List.filterMap_append, frames_bufferedFrame]
      rcases unbroken.control with rfl | rfl
      · simp
      · simp [BufferedEvent.frame?, overloadEvent]
    have whole := unbroken.chain
    rw [unbroken.folded, List.append_assoc] at whole
    rcases browserFold_of_folds hexadecimal whole.take mirrors
        unbroken.room with
      ⟨final, folded, ends⟩
    refine ⟨final, ?_, ?_⟩
    · rw [frames]
      exact folded
    · rw [frames, unbroken.folded, List.append_assoc,
        serverCheckpointAt_lastOrdinal whole mirrors]
      exact ends
  · rcases unbroken.control with rfl | rfl
    · exact .inl (by simpa using unbroken.delivered)
    · exact .inr unbroken.delivered

/-! ## A shed frame -/

/-- A mission with one simulated member, before any event. -/
def sampleReduced : DashboardReducedState where
  currentMission := some ⟨"mission-1", .planned, none⟩
  fleet := [.simulated ⟨"drone-1", .connected, none⟩]
  latestAuditOrdinal := 0
  sectors := []

/-- A reading of the member, by its battery. -/
def sampleReading (batteryPercent : Int) : DashboardEvent where
  kind := "droneTelemetry"
  eventClass := .telemetry
  mission := "mission-1"
  time := "2026-01-01T00:00:10.000Z"
  data :=
    [ ("droneId", .text "drone-1"),
      ("latitudeMicrodegrees", .int 1000000),
      ("longitudeMicrodegrees", .int 2000000),
      ("batteryPercent", .int batteryPercent),
      ("altitudeMetres", .int 120),
      ("headingDegrees", .int 90),
      ("groundSpeedCentimetresPerSecond", .int 500) ]

/-- The members of an event's document. -/
def eventMembers (event : DashboardEvent) : Value.Members :=
  [ ("kind", .text event.kind),
    ("eventClass", .text event.eventClass.text),
    ("mission", .text event.mission),
    ("time", .text event.time),
    ("data", .object event.data) ]

/-- The row of a reading. -/
def sampleStored (ordinal batteryPercent : Int) : StoredEvent where
  auditOrdinal := ordinal
  kind := "droneTelemetry"
  payload := bytesOf (.object (eventMembers (sampleReading batteryPercent)))

/-- SHA-256 on the digested documents of the two readings. -/
def sampleFrameSha256 (bytes : Bytes) : String :=
  match bytes.length with
  | 484 =>
      "b9ebbfdd5369e9502bd6dc5895f17660c72f50a3a25555d5471e1de82cf94792"
  | 483 =>
      "7cbf9deabf50672ebab2956eea62db7ab40ab77757a2a9a9ec167452949a24c8"
  | 404 =>
      "0065d02e3e3c411a8b3c3be0c28ae25a439131b933fabcd2c621ccf2d9376d8c"
  | 403 =>
      "449e3f004d8b61e05a1215d4a9ca5af6ecd5f251e4030d638507b03677ef7d34"
  | _ =>
      "f05eccb3d3fb53cbebe8f8f27453d33842590b813923d45677f0426e3c7fa4be"

/-- The runtime and the schemas on the two readings. -/
def sampleBoundary : Boundary where
  host :=
    { loads := fun _ => .error .malformed
      nfc := id
      sha256 := sampleFrameSha256 }
  wire schema raw :=
    match schema with
    | .dashboardEvent =>
        match raw.length with
        | 298 => some (eventMembers (sampleReading 100))
        | 297 => some (eventMembers (sampleReading 99))
        | _ => none
    | _ => some []
  hmac covered :=
    match covered.drop 16 with
    | 49 :: _ =>
        "0a532119d9383f3c81238ce89421954a854477578f70a73e5635ac12e2abc7ae"
    | 50 :: _ =>
        "cd6bbdcb26fc6791495bf7ec83b123c94b04c4717a3a015c63cd0f6faac7e708"
    | _ =>
        "25dd4af1791aab60eefb4c2a6539e9b791c8c9777564d2fa9f6beb3941900633"
  runtimeId := "runtime-1"

/-- The capture a client starts from. -/
def sampleCapture : SnapshotCapture where
  checkpoint := ⟨sampleReduced, none⟩
  timeline := []
  cursor :=
    "25dd4af1791aab60eefb4c2a6539e9b791c8c9777564d2fa9f6beb3941900633"
  digest :=
    "f05eccb3d3fb53cbebe8f8f27453d33842590b813923d45677f0426e3c7fa4be"
  bounded := Nat.zero_le _

/-- A stream of capacity one on the sample capture. -/
def sampleStream : Stream :=
  Stream.opened sampleCapture.checkpoint
    (ClientBuffer.empty 1 Nat.one_pos)

/-- Two readings arrive before the client takes the first frame. -/
def sheddingRun : List StreamAction :=
  [ .start, .produce (sampleStored 1 100), .produce (sampleStored 2 99),
    .consume .cancelled ]

/-- The client takes the first reading at once. -/
def promptRun : List StreamAction :=
  [.start, .produce (sampleStored 1 100), .consume .cancelled]

/-- The refusal a fold ended with. -/
def foldRefusal :
    Except DigestFailure (Except FrameRefusal BrowserSnapshot) →
      Option FrameRefusal
  | .ok (.error refusal) => some refusal
  | _ => none

/-- What the two sample runs come to. -/
theorem sampleRuns :
    let shed :=
      run (Stream.advance sampleBoundary "run-1") sampleStream sheddingRun
    let prompt :=
      run (Stream.advance sampleBoundary "run-1") sampleStream promptRun
    foldRefusal
          (browserFold sampleBoundary.host (browserSnapshot sampleCapture)
            shed.deliveredFrames) =
        some .ordinalGapOrRegression ∧
      shed.delivered.map BufferedEvent.terminal = [false] ∧
      prompt.deliveredFrames.length = 1 := by
  decide +kernel

/-- A shed reading stops the client without any overload frame. -/
theorem shedFrame_refused :
    ¬ (FramesFold sampleBoundary.host sampleCapture.checkpoint
          (browserSnapshot sampleCapture)
          (run (Stream.advance sampleBoundary "run-1") sampleStream
            sheddingRun) ∨
        (run (Stream.advance sampleBoundary "run-1") sampleStream
          sheddingRun).endsOverloaded) := by
  rintro (⟨final, folds, _⟩ | ⟨earlier, ends⟩)
  · have shed := sampleRuns.1
    rw [folds] at shed
    cases shed
  · have plain := sampleRuns.2.1
    rw [ends, List.map_append] at plain
    cases earlier with
    | nil => cases plain
    | cons first rest => simp at plain

theorem sampleBoundary_hexadecimal : Hexadecimal sampleBoundary.host := by
  intro bytes
  show isDigest (sampleFrameSha256 bytes) = true
  unfold sampleFrameSha256
  split <;> decide +kernel

/-- Neither of the first two actions delivers or fills anything. -/
theorem promptRun_unshed :
    Along (Stream.advance sampleBoundary "run-1")
      (Unshed sampleBoundary "run-1" (browserSnapshot sampleCapture))
      sampleStream promptRun := by
  refine ⟨trivial, ?_, ?_, trivial⟩
  · intro checkpoint folded _ _ full
    exact absurd full.2 (by decide)
  · intro event rest frame _ _
    have nothing :
        (Stream.advance sampleBoundary "run-1"
          (Stream.advance sampleBoundary "run-1" sampleStream .start)
          (.produce (sampleStored 1 100))).deliveredFrames = [] := by
      have kept := Stream.produce_delivered sampleBoundary "run-1"
        (Stream.advance sampleBoundary "run-1" sampleStream .start)
        (sampleStored 1 100)
      unfold Stream.deliveredFrames
      rw [show (Stream.advance sampleBoundary "run-1"
        (Stream.advance sampleBoundary "run-1" sampleStream .start)
        (.produce (sampleStored 1 100))).delivered = [] from kept]
      rfl
    rw [nothing]
    have few : ([] ++ [frame]).countP EventFrame.isTimeline ≤ 1 :=
      List.countP_le_length
    exact Nat.le_trans (Nat.add_le_add_left few 0) (by decide)

/-- The first reading reaches the client and folds. -/
theorem deliveredFrames_fold_sample :
    let stream :=
      run (Stream.advance sampleBoundary "run-1") sampleStream promptRun
    stream.deliveredFrames.length = 1 ∧
      FramesFold sampleBoundary.host sampleCapture.checkpoint
        (browserSnapshot sampleCapture) stream :=
  ⟨sampleRuns.2.2,
    (deliveredFrames_fold sampleBoundary "run-1" sampleBoundary_hexadecimal
      sampleCapture 1 Nat.one_pos promptRun promptRun_unshed).1⟩

end AerialRescue.Dashboard
