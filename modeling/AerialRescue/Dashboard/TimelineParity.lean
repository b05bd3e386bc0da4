import AerialRescue.Contracts.View
import AerialRescue.Lib.KeyedOrder
import AerialRescue.Lib.Run

/-!
# The meaningful timeline

The operator timeline that the gateway and the browser each keep: replaced from
a snapshot, then extended by one event at a time.  The gateway sorts before it
filters and the browser filters before it sorts, and both keep the first
meaningful event of each ordinal, so the same calls give the same timeline.
-/

namespace AerialRescue.Dashboard.TimelineParity

open AerialRescue.Lib.KeyedOrder
open AerialRescue.Lib.Run
open AerialRescue.Contracts.View

/-- One call on a timeline. -/
inductive Call where
  | replaceTimeline (events : List OrderedDashboardEvent)
  | appendEvent (orderedEvent : OrderedDashboardEvent)

/-- The events given since the last replacement, in the order given. -/
def given (events : List OrderedDashboardEvent) :
    Call → List OrderedDashboardEvent
  | .replaceTimeline snapshot => snapshot
  | .appendEvent orderedEvent => events ++ [orderedEvent]

/-! ## The gateway -/

/-- `is_timeline_event` -/
def isTimelineEvent (event : DashboardEvent) : Bool :=
  event.eventClass ≠ .telemetry

/-- `replace_timeline_from_snapshot` -/
def replaceTimelineFromSnapshot (events : List OrderedDashboardEvent) :
    List OrderedDashboardEvent :=
  retainFirst OrderedDashboardEvent.auditOrdinal
    (fun item => isTimelineEvent item.event) []
    (sortOn OrderedDashboardEvent.auditOrdinal events)

/-- `append_meaningful_timeline_event` -/
def appendMeaningfulTimelineEvent (timeline : List OrderedDashboardEvent)
    (orderedEvent : OrderedDashboardEvent) : List OrderedDashboardEvent :=
  if isTimelineEvent orderedEvent.event = false ∨
      timeline.any fun item =>
        item.auditOrdinal = orderedEvent.auditOrdinal then timeline
  else
    sortOn OrderedDashboardEvent.auditOrdinal (timeline ++ [orderedEvent])

/-- The gateway's timeline after a call. -/
def called (timeline : List OrderedDashboardEvent) :
    Call → List OrderedDashboardEvent
  | .replaceTimeline events => replaceTimelineFromSnapshot events
  | .appendEvent orderedEvent =>
      appendMeaningfulTimelineEvent timeline orderedEvent

/-! ## The browser -/

namespace Browser

/-- `meaningful` -/
def meaningful (orderedEvent : OrderedDashboardEvent) : Bool :=
  orderedEvent.event.eventClass.text ≠ "TELEMETRY"

/-- `Array.prototype.sort`, which is stable, under a comparison. -/
def sorted (compare : OrderedDashboardEvent → OrderedDashboardEvent → Int)
    (events : List OrderedDashboardEvent) : List OrderedDashboardEvent :=
  events.mergeSort fun left right => decide (compare left right ≤ 0)

/-- `orderedUnique`.  Ordinals are safe integers, so a difference is exact. -/
def orderedUnique (events : List OrderedDashboardEvent) :
    List OrderedDashboardEvent :=
  retainFirst OrderedDashboardEvent.auditOrdinal (fun _ => true) []
    (sorted (fun left right => left.auditOrdinal - right.auditOrdinal) events)

/-- `replaceTimelineFromSnapshot` -/
def replaceTimelineFromSnapshot
    (snapshotTimeline : List OrderedDashboardEvent) :
    List OrderedDashboardEvent :=
  orderedUnique (snapshotTimeline.filter meaningful)

/-- `appendMeaningfulTimelineEvent` -/
def appendMeaningfulTimelineEvent (timeline : List OrderedDashboardEvent)
    (orderedEvent : OrderedDashboardEvent) : List OrderedDashboardEvent :=
  if meaningful orderedEvent = false ∨
      timeline.any fun item =>
        item.auditOrdinal = orderedEvent.auditOrdinal then timeline
  else orderedUnique (timeline ++ [orderedEvent])

/-- The browser's timeline after a call. -/
def called (timeline : List OrderedDashboardEvent) :
    Call → List OrderedDashboardEvent
  | .replaceTimeline events => replaceTimelineFromSnapshot events
  | .appendEvent orderedEvent =>
      appendMeaningfulTimelineEvent timeline orderedEvent

end Browser

/-! ## Both keep the first meaningful event of each ordinal -/

/-- The timeline of the events given: the first meaningful one of each ordinal. -/
abbrev TimelineOf (events timeline : List OrderedDashboardEvent) : Prop :=
  FirstOfEach OrderedDashboardEvent.auditOrdinal
    (fun item => isTimelineEvent item.event) events timeline

variable {events timeline : List OrderedDashboardEvent}

theorem meaningful_eq (item : OrderedDashboardEvent) :
    Browser.meaningful item = isTimelineEvent item.event := by
  unfold Browser.meaningful isTimelineEvent
  cases item.event.eventClass <;> rfl

theorem sorted_eq (items : List OrderedDashboardEvent) :
    Browser.sorted
        (fun left right => left.auditOrdinal - right.auditOrdinal) items =
      sortOn OrderedDashboardEvent.auditOrdinal items := by
  unfold Browser.sorted sortOn
  congr
  funext left right
  refine decide_eq_decide.2 ?_
  change left.auditOrdinal - right.auditOrdinal ≤ 0 ↔ _
  omega

/-- Filtering first leaves the first meaningful event of each ordinal. -/
theorem firstOf_meaningful (ordinal : Int) (items : List OrderedDashboardEvent) :
    firstOf OrderedDashboardEvent.auditOrdinal (fun _ => true) ordinal
        (items.filter Browser.meaningful) =
      firstOf OrderedDashboardEvent.auditOrdinal
        (fun item => isTimelineEvent item.event) ordinal items := by
  induction items with
  | nil => rfl
  | cons first rest inductionHypothesis =>
      rw [firstOf_cons, List.filter_cons, meaningful_eq]
      split
      · rename_i accepted
        rw [firstOf_cons, inductionHypothesis]
        simp only [and_true, accepted]
      · rename_i rejected
        rw [inductionHypothesis, if_neg fun both => rejected both.2]

theorem orderedUnique_firstOfEach (items : List OrderedDashboardEvent) :
    FirstOfEach OrderedDashboardEvent.auditOrdinal (fun _ => true) items
      (Browser.orderedUnique items) := by
  rw [Browser.orderedUnique, sorted_eq]
  exact FirstOfEach.of_sortOn items

theorem replaceTimeline_timelineOf (snapshot : List OrderedDashboardEvent) :
    TimelineOf snapshot (replaceTimelineFromSnapshot snapshot) :=
  FirstOfEach.of_sortOn snapshot

/-- Filtering before or after the sort replaces a timeline by the same one. -/
theorem replaceTimeline_browser (snapshot : List OrderedDashboardEvent) :
    Browser.replaceTimelineFromSnapshot snapshot =
      replaceTimelineFromSnapshot snapshot := by
  have unique := orderedUnique_firstOfEach
    (snapshot.filter Browser.meaningful)
  have filtered : TimelineOf snapshot
      (Browser.replaceTimelineFromSnapshot snapshot) :=
    { ordered := unique.ordered
      entries := fun item => by
        rw [← firstOf_meaningful]
        exact unique.entries item }
  exact filtered.unique (replaceTimeline_timelineOf snapshot)

theorem known_iff {ordinal : Int} :
    (timeline.any fun item => item.auditOrdinal = ordinal) = true ↔
      ∃ known ∈ timeline, known.auditOrdinal = ordinal := by
  simp only [List.any_eq_true, decide_eq_true_eq]

theorem appendEvent_timelineOf (kept : TimelineOf events timeline)
    (orderedEvent : OrderedDashboardEvent) :
    TimelineOf (events ++ [orderedEvent])
      (appendMeaningfulTimelineEvent timeline orderedEvent) := by
  rw [appendMeaningfulTimelineEvent]
  split
  · rename_i refused
    rcases refused with rejected | known
    · exact kept.append_rejected rejected
    · rcases known_iff.1 known with ⟨known, listed, same⟩
      exact kept.append_known listed same
  · rename_i taken
    rcases not_or.1 taken with ⟨meaningful, unknown⟩
    refine kept.append_new (Bool.eq_true_of_not_eq_false meaningful) ?_
    exact fun item listed same => unknown (known_iff.2 ⟨item, listed, same⟩)

/-- One more event leaves the same timeline on both sides. -/
theorem appendEvent_browser (kept : TimelineOf events timeline)
    (orderedEvent : OrderedDashboardEvent) :
    Browser.appendMeaningfulTimelineEvent timeline orderedEvent =
      appendMeaningfulTimelineEvent timeline orderedEvent := by
  rw [Browser.appendMeaningfulTimelineEvent, appendMeaningfulTimelineEvent,
    meaningful_eq]
  split
  · rfl
  · rename_i taken
    rcases not_or.1 taken with ⟨_, unknown⟩
    have alone := FirstOfEach.of_pairwise kept.ordered
    refine (orderedUnique_firstOfEach _).unique (alone.append_new rfl ?_)
    exact fun item listed same => unknown (known_iff.2 ⟨item, listed, same⟩)

/-! ## Runs -/

theorem called_timelineOf (call : Call) (kept : TimelineOf events timeline) :
    TimelineOf (given events call) (called timeline call) := by
  cases call with
  | replaceTimeline snapshot => exact replaceTimeline_timelineOf snapshot
  | appendEvent orderedEvent =>
      exact appendEvent_timelineOf kept orderedEvent

theorem called_browser (call : Call) (kept : TimelineOf events timeline) :
    Browser.called timeline call = called timeline call := by
  cases call with
  | replaceTimeline snapshot => exact replaceTimeline_browser snapshot
  | appendEvent orderedEvent => exact appendEvent_browser kept orderedEvent

/-- Every run of calls keeps the timeline of the events given. -/
theorem run_timelineOf (calls : List Call)
    (kept : TimelineOf events timeline) :
    TimelineOf (run given events calls) (run called timeline calls) ∧
      run Browser.called timeline calls = run called timeline calls := by
  induction calls generalizing events timeline with
  | nil => exact ⟨kept, rfl⟩
  | cons call rest inductionHypothesis =>
      rw [run_cons, run_cons, run_cons, called_browser call kept]
      exact inductionHypothesis (called_timelineOf call kept)

/--
However a timeline is replaced and extended, it is strictly increasing, holds
no telemetry and holds, of each ordinal, the first meaningful event given since
the last replacement and nothing else; and the browser's timeline is the same.
-/
theorem timelines_agree (events : List OrderedDashboardEvent)
    (calls : List Call) :
    let timeline := run called (replaceTimelineFromSnapshot events) calls
    (timeline.Pairwise fun left right =>
      left.auditOrdinal < right.auditOrdinal) ∧
    (∀ item ∈ timeline, item.event.eventClass ≠ .telemetry) ∧
    (∀ ordinal, (timeline.filter fun item => item.auditOrdinal = ordinal) =
      ((run given events calls).find? fun item =>
        item.auditOrdinal = ordinal ∧
          item.event.eventClass ≠ .telemetry).toList) ∧
    (∀ item ∈ run given events calls, item.event.eventClass ≠ .telemetry →
      (timeline.filter fun entry =>
        entry.auditOrdinal = item.auditOrdinal).length = 1) ∧
    run Browser.called (Browser.replaceTimelineFromSnapshot events) calls =
      timeline := by
  intro timeline
  rcases run_timelineOf calls (replaceTimeline_timelineOf events) with
    ⟨kept, same⟩
  refine ⟨kept.ordered, fun item listed => ?_, fun ordinal => ?_,
    fun item listed meaningful => ?_, ?_⟩
  · exact of_decide_eq_true (kept.accepted listed)
  · rw [kept.filter_key, firstOf, List.find?_filter]
    simp only [isTimelineEvent, Bool.decide_and, ne_eq, decide_not,
      Bool.decide_eq_true]
  · have found : (firstOf OrderedDashboardEvent.auditOrdinal
        (fun item => isTimelineEvent item.event) item.auditOrdinal
        (run given events calls)).isSome = true :=
      firstOf_isSome listed (decide_eq_true meaningful)
    rw [kept.filter_key, Option.length_toList, if_pos found]
  · rw [replaceTimeline_browser]
    exact same

end AerialRescue.Dashboard.TimelineParity
