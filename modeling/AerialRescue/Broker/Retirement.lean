import AerialRescue.Broker.Desired
import AerialRescue.Lib.Clients
import AerialRescue.Lib.Percent
import Mathlib.Data.List.Dedup
import Mathlib.Data.List.Sort
import Mathlib.Data.String.Basic

/-!
# Retirement of stale queues

A plan lists the application queue pairs that the broker holds outside the
desired state.  Retirement reads each queue of the plan before it deletes it,
the primary queue first.

The broker is not part of the model: a run is any list of requests with answers
that the code accepts, so that what holds of every run holds against every
inventory and against every change that others make in between.
-/

namespace AerialRescue.Broker.Retirement

open AerialRescue.Lib.Guard AerialRescue.Lib.Clients
open AerialRescue.Contracts.Canonical
open AerialRescue.Broker.Queues AerialRescue.Broker.Desired

/-! ## The transport -/

/-- `quote` with no safe characters. -/
def quote (text : String) : String :=
  String.ofList (Lib.Percent.quote (octets text))

/-- A member of a monitor object. -/
inductive MonitorValue where
  | text (value : String)
  | integer (value : Int)
  | mapping (members : List (String × MonitorValue))
  | other

/-- `MonitorRow` -/
structure MonitorRow where
  data : List (String × MonitorValue)
  collections : List (String × MonitorValue)

/-- The requests of a retirement. -/
inductive Query where
  | readMonitorRows (path : String)
  | readMonitorCount (path : String)
  | delete (path : String)
deriving DecidableEq

/-- What the transport answers, or its own failure. -/
def Answer (SempError : Type) : Query → Type
  | .readMonitorRows _ => Except SempError (List MonitorRow)
  | .readMonitorCount _ => Except SempError MonitorValue
  | .delete _ => Except SempError Unit

/-- `QueueDepthState` -/
structure QueueDepthState where
  name : String
  messageCount : Nat
deriving DecidableEq

/-- `QueueRuntimeState` -/
structure QueueRuntimeState where
  name : String
  messageCount : Nat
  bindCount : Nat
deriving DecidableEq

/-- `QueueRetirementPair` -/
structure QueueRetirementPair where
  primary : String
  deadMessage : String
deriving DecidableEq

/-- `QueueRetirementPlan` -/
structure QueueRetirementPlan where
  vpn : String
  pairs : List QueueRetirementPair
deriving DecidableEq

/-- What an unsafe retirement is refused for. -/
inductive Unsafe where
  | pair (value : QueueRetirementPair)
  | runtime (value : QueueRuntimeState)
  | name (value : String)
deriving DecidableEq

/-- Why a retirement ends early. -/
inductive RetirementFailure (SempError : Type) where
  | semp (error : SempError)
  | malformedReadback (value : String)
  | readbackMismatch (path : String)
  | unsafeRetirement (value : Unsafe)

/-- A client of the broker's transport. -/
abbrev Retiring (SempError : Type) :=
  Client Query (Answer SempError) (RetirementFailure SempError)

variable {SempError : Type}

/-- `read_monitor_rows` -/
def readMonitorRows (path : String) : Retiring SempError (List MonitorRow) :=
  Client.query (.readMonitorRows path) (recast .semp)

/-- `read_monitor_count` -/
def readMonitorCount (path : String) : Retiring SempError MonitorValue :=
  Client.query (.readMonitorCount path) (recast .semp)

/-- `send` with a `DELETE` request. -/
def sendDelete (path : String) : Retiring SempError Unit :=
  Client.query (.delete path) (recast .semp)

/-! ## Paths -/

/-- `queue_monitor_collection_path` -/
def queueMonitorCollectionPath (vpn : String) : String :=
  "msgVpns/" ++ quote vpn ++ "/queues?select=" ++ "queueName,msgs.count"

/-- `queue_monitor_path` -/
def queueMonitorPath (vpn queue : String) : String :=
  queueMonitorCollectionPath vpn ++ "&where=" ++ quote ("queueName==" ++ queue)

/-- `queue_tx_flow_monitor_path` -/
def queueTxFlowMonitorPath (vpn queue : String) : String :=
  "msgVpns/" ++ quote vpn ++ "/queues/" ++ quote queue ++ "/txFlows"

/-- The path of a queue's configuration. -/
def queueConfigPath (vpn queue : String) : String :=
  "msgVpns/" ++ vpn ++ "/queues/" ++ quote queue

/-! ## Reading one queue -/

/-- `_nonnegative_integer` -/
def nonnegativeInteger : Option MonitorValue → Option Nat
  | some (.integer (.ofNat value)) => some value
  | _ => none

/-- The queue that a row names. -/
def MonitorRow.queueName (row : MonitorRow) : Option String :=
  match row.data.lookup "queueName" with
  | some (.text name) => some name
  | _ => none

/-- The count of messages that a row has. -/
def MonitorRow.messageCount (row : MonitorRow) : Option Nat :=
  match row.collections.lookup "msgs" with
  | some (.mapping members) => nonnegativeInteger (members.lookup "count")
  | _ => none

/-- `_depth_from_monitor_row` -/
def depthFromMonitorRow (row : MonitorRow) (queue : String) :
    Except (RetirementFailure SempError) QueueDepthState := do
  let messageCount ← present row.messageCount (.malformedReadback queue)
  ensure (row.queueName = some queue) (.malformedReadback queue)
  pure { name := queue, messageCount }

/-- `_runtime_from_monitor_row` -/
def runtimeFromMonitorRow (row : MonitorRow) (queue : String)
    (bindCount : MonitorValue) :
    Except (RetirementFailure SempError) QueueRuntimeState := do
  let bindCount ←
    present (nonnegativeInteger (some bindCount)) (.malformedReadback queue)
  let depth ← depthFromMonitorRow row queue
  pure { name := queue, messageCount := depth.messageCount, bindCount }

/-- `_optional_queue_monitor_row` -/
def optionalQueueMonitorRow (vpn queue : String) :
    Retiring SempError (Option MonitorRow) := do
  let rows ← readMonitorRows (queueMonitorPath vpn queue)
  match rows with
  | [] => pure none
  | [row] => pure (some row)
  | _ => Client.lift (.error (.malformedReadback queue))

/-- `_optional_queue_runtime_state` -/
def optionalQueueRuntimeState (vpn queue : String) :
    Retiring SempError (Option QueueRuntimeState) := do
  let row ← optionalQueueMonitorRow vpn queue
  match row with
  | none => pure none
  | some row => do
      let bindCount ← readMonitorCount (queueTxFlowMonitorPath vpn queue)
      let runtime ← Client.lift (runtimeFromMonitorRow row queue bindCount)
      pure (some runtime)

/-! ## Owned names -/

/-- `str.startswith` -/
def startsWith (text opening : String) : Bool :=
  opening.toList.isPrefixOf text.toList

/-- `str.endswith` -/
def endsWith (text ending : String) : Bool :=
  ending.toList.isSuffixOf text.toList

/-- `DMQ_SUFFIX` -/
def dmqSuffix : String :=
  "_dmq"

/-- `_is_application_primary` -/
def isApplicationPrimary (name : String) : Bool :=
  if (fixedQueues.map QueueSpec.name).contains name then true
  else if startsWith name droneQueuePrefix then
    let drone :=
      String.ofList (name.toList.drop droneQueuePrefix.toList.length)
    match droneQueueName drone with
    | .ok queue => queue = name
    | .error _ => false
  else false

/-- `_primary_of_owned_name` -/
def primaryOfOwnedName (name : String) : Option String :=
  let primary :=
    if endsWith name dmqSuffix then
      String.ofList
        (name.toList.take (name.toList.length - dmqSuffix.toList.length))
    else name
  if isApplicationPrimary primary then some primary else none

/-! ## The plan -/

/-- `_queue_monitor_rows`, with the depth of each row. -/
def queueMonitorInventory (path : String) (rows : List MonitorRow) :
    Except (RetirementFailure SempError) (List String) := do
  let names ← rows.mapM fun row =>
    present row.queueName (.malformedReadback path)
  ensure names.Nodup (.malformedReadback path)
  let states ← (rows.zip names).mapM fun pair =>
    depthFromMonitorRow pair.1 pair.2
  pure (states.map QueueDepthState.name)

/-- The stale primaries of an inventory, in order. -/
def stalePrimaries (state : DesiredState) (inventory : List String) :
    List String :=
  let desired := state.queueNames
  let undesired := inventory.filter fun name => !desired.contains name
  let primaries := undesired.filterMap fun name =>
    (primaryOfOwnedName name).filter fun primary => !desired.contains primary
  primaries.dedup.insertionSort (· ≤ ·)

/-- `plan_queue_retirement` -/
def planQueueRetirement (state : DesiredState) :
    Retiring SempError QueueRetirementPlan := do
  let path := queueMonitorCollectionPath state.vpn
  let rows ← readMonitorRows path
  let inventory ← Client.lift (queueMonitorInventory path rows)
  pure
    { vpn := state.vpn
      pairs := (stalePrimaries state inventory).map fun primary =>
        { primary, deadMessage := deadMessageQueueName primary } }

/-! ## Retirement -/

/-- What `_require_retirement_candidate` asks of a pair. -/
structure Candidate (state : DesiredState) (vpn : String)
    (pair : QueueRetirementPair) : Prop where
  sameVpn : vpn = state.vpn
  owned : isApplicationPrimary pair.primary = true
  paired : pair.deadMessage = deadMessageQueueName pair.primary
  primary : pair.primary ∉ state.queueNames
  deadMessage : pair.deadMessage ∉ state.queueNames

instance (state : DesiredState) (vpn : String) (pair : QueueRetirementPair) :
    Decidable (Candidate state vpn pair) :=
  decidable_of_iff
    (vpn = state.vpn ∧ isApplicationPrimary pair.primary = true ∧
      pair.deadMessage = deadMessageQueueName pair.primary ∧
      pair.primary ∉ state.queueNames ∧ pair.deadMessage ∉ state.queueNames)
    ⟨fun all => ⟨all.1, all.2.1, all.2.2.1, all.2.2.2.1, all.2.2.2.2⟩,
      fun valid => ⟨valid.sameVpn, valid.owned, valid.paired, valid.primary,
        valid.deadMessage⟩⟩

/-- `_require_retirement_candidate` -/
def requireRetirementCandidate (state : DesiredState) (vpn : String)
    (pair : QueueRetirementPair) :
    Except (RetirementFailure SempError) Unit :=
  ensure (Candidate state vpn pair) (.unsafeRetirement (.pair pair))

/-- `_delete_and_verify` -/
def deleteAndVerify (vpn queue : String) : Retiring SempError Unit := do
  let path := queueConfigPath vpn queue
  sendDelete path
  let remaining ← optionalQueueRuntimeState vpn queue
  Client.lift (ensure (remaining = none) (.readbackMismatch path))

/-- Delete a queue that was read, unless it holds messages or is bound. -/
def retireRead (vpn queue : String) :
    Option QueueRuntimeState → Retiring SempError Unit
  | none => pure ()
  | some runtime => do
      Client.lift
        (ensure (runtime.messageCount = 0 ∧ runtime.bindCount = 0)
          (.unsafeRetirement (.runtime runtime)))
      deleteAndVerify vpn queue

/-- One turn of the loop of `retire_stale_queues`. -/
def retirePair (state : DesiredState) (vpn : String)
    (pair : QueueRetirementPair) : Retiring SempError Unit := do
  Client.lift (requireRetirementCandidate state vpn pair)
  let primary ← optionalQueueRuntimeState state.vpn pair.primary
  retireRead state.vpn pair.primary primary
  let remaining ← optionalQueueRuntimeState state.vpn pair.primary
  Client.lift
    (ensure (remaining = none) (.unsafeRetirement (.name pair.primary)))
  let deadMessage ← optionalQueueRuntimeState state.vpn pair.deadMessage
  retireRead state.vpn pair.deadMessage deadMessage

/-- `retire_stale_queues` -/
def retireStaleQueues (state : DesiredState) (plan : QueueRetirementPlan) :
    Retiring SempError Unit :=
  Client.each (retirePair state plan.vpn) plan.pairs

/-! ## The recognised names -/

theorem isPrefixOf_prefix {text drone : String} (opening : String)
    (same : text = opening ++ drone) :
    startsWith text opening = true ∧
      String.ofList (text.toList.drop opening.toList.length) = drone := by
  subst same
  rw [startsWith, String.toList_append, List.drop_left, String.ofList_toList]
  exact ⟨List.isPrefixOf_iff_prefix.2 (List.prefix_append _ _), rfl⟩

/-- The recogniser accepts exactly the primary names that are generated. -/
theorem isApplicationPrimary_iff {name : String} :
    isApplicationPrimary name = true ↔ OwnedPrimary name := by
  rw [ownedPrimary_iff, isApplicationPrimary]
  constructor
  · intro recognised
    split at recognised
    · rename_i fixed
      exact .inl (List.contains_iff_mem.1 fixed)
    · split at recognised
      · dsimp only at recognised
        split at recognised
        · rename_i queue named
          rw [decide_eq_true_eq] at recognised
          exact .inr ⟨_, recognised ▸ named⟩
        · cases recognised
      · cases recognised
  · rintro (fixed | ⟨drone, named⟩)
    · rw [if_pos (List.contains_iff_mem.2 fixed)]
    · split
      · rfl
      · rcases isPrefixOf_prefix droneQueuePrefix (droneQueueName_ok.1 named).2
          with ⟨opens, rest⟩
        rw [if_pos opens, rest]
        simp [named]

theorem endsWith_deadMessage (primary : String) :
    endsWith (deadMessageQueueName primary) dmqSuffix = true := by
  rw [endsWith, deadMessageQueueName, String.toList_append]
  exact List.isSuffixOf_iff_suffix.2 (List.suffix_append _ _)

/-- What is left of a dead-message queue's name is its primary's. -/
theorem stem_deadMessage (primary : String) :
    String.ofList
      ((deadMessageQueueName primary).toList.take
        ((deadMessageQueueName primary).toList.length -
          dmqSuffix.toList.length)) = primary := by
  apply String.toList_injective
  rw [String.toList_ofList, deadMessageQueueName, String.toList_append,
    List.length_append]
  exact List.take_left' (Nat.add_sub_cancel _ _).symm

/-- A name with the suffix is that of a dead-message queue. -/
theorem eq_deadMessage {name : String}
    (paired : endsWith name dmqSuffix = true) :
    ∃ primary, name = deadMessageQueueName primary := by
  rw [endsWith, List.isSuffixOf_iff_suffix] at paired
  rcases paired with ⟨stem, same⟩
  refine ⟨String.ofList stem, String.toList_injective ?_⟩
  rw [deadMessageQueueName, String.toList_append, String.toList_ofList]
  exact same.symm

theorem deadMessageQueueName_injective :
    Function.Injective deadMessageQueueName :=
  fun _ _ same => (String.append_left_inj _).1 same

/-- The name of a pair's queue gives the pair's primary. -/
theorem primaryOfOwnedName_iff {name primary : String} :
    primaryOfOwnedName name = some primary ↔
      OwnedPrimary primary ∧
        (name = primary ∨ name = deadMessageQueueName primary) := by
  unfold primaryOfOwnedName
  dsimp only
  by_cases paired : endsWith name dmqSuffix = true
  · rcases eq_deadMessage paired with ⟨stem, rfl⟩
    rw [if_pos paired, stem_deadMessage, Option.ite_none_right_eq_some,
      isApplicationPrimary_iff]
    constructor
    · rintro ⟨owned, same⟩
      cases same
      exact ⟨owned, .inr rfl⟩
    · rintro ⟨owned, same | same⟩
      · refine absurd ?_ owned.unpaired
        rw [← same]
        exact List.isSuffixOf_iff_suffix.1 paired
      · rw [deadMessageQueueName_injective same]
        exact ⟨owned, rfl⟩
  · rw [if_neg paired, Option.ite_none_right_eq_some,
      isApplicationPrimary_iff]
    constructor
    · rintro ⟨owned, same⟩
      cases same
      exact ⟨owned, .inl rfl⟩
    · rintro ⟨owned, rfl | rfl⟩
      · exact ⟨owned, rfl⟩
      · exact absurd (endsWith_deadMessage primary) paired

/-- The listed primaries, for any state. -/
theorem mem_stalePrimaries {state : DesiredState} {inventory : List String}
    {primary : String} :
    primary ∈ stalePrimaries state inventory ↔
      OwnedPrimary primary ∧ primary ∉ state.queueNames ∧
        (primary ∈ inventory ∨
          deadMessageQueueName primary ∈ inventory ∧
            deadMessageQueueName primary ∉ state.queueNames) := by
  simp only [stalePrimaries, List.mem_insertionSort, List.mem_dedup,
    List.mem_filterMap, List.mem_filter, Option.filter_eq_some_iff,
    Bool.not_eq_true', List.contains_eq_mem, decide_eq_false_iff_not,
    primaryOfOwnedName_iff]
  constructor
  · rintro ⟨name, ⟨held, undesired⟩, ⟨owned, rfl | rfl⟩, stale⟩
    · exact ⟨owned, stale, .inl held⟩
    · exact ⟨owned, stale, .inr ⟨held, undesired⟩⟩
  · rintro ⟨owned, stale, held | ⟨held, undesired⟩⟩
    · exact ⟨primary, ⟨held, stale⟩, ⟨owned, .inl rfl⟩, stale⟩
    · exact ⟨_, ⟨held, undesired⟩, ⟨owned, .inr rfl⟩, stale⟩

theorem stalePrimaries_nodup (state : DesiredState)
    (inventory : List String) : (stalePrimaries state inventory).Nodup :=
  (List.perm_insertionSort _ _).nodup_iff.2 (List.nodup_dedup _)

/-- In a state that was built, a primary queue comes with its dead-message
queue. -/
theorem primary_desired {vpn : String}
    {credentials : Domain.Principals.Principal → String}
    {namespaceText : Option String} {drones : List String}
    {state : DesiredState}
    (built : desiredState vpn credentials namespaceText drones = .ok state)
    {primary : String} (owned : OwnedPrimary primary)
    (desired : deadMessageQueueName primary ∈ state.queueNames) :
    primary ∈ state.queueNames := by
  simp only [desiredState, bind_eq_ok, recast_eq_ok, pure_eq_ok] at built
  rcases built with ⟨_, _, _, _, queues, built, rfl⟩
  simp only [desiredQueues, bind_eq_ok, pure_eq_ok] at built
  rcases built with ⟨primaries, built, rfl⟩
  simp only [DesiredState.queueNames, List.map_append, List.mem_append,
    List.mem_map, List.mem_flatMap] at desired ⊢
  rcases desired with ⟨_, ⟨template, listed, rfl⟩, same⟩ |
    ⟨queue, ⟨held, among, inPair⟩, same⟩
  · have foreign : (queueTemplates.all fun template =>
        !isApplicationPrimary template.name &&
          template.deadMessageQueue = deadMessageQueueName template.name) =
        true := by
      decide
    have this := List.all_eq_true.1 foreign template listed
    rw [Bool.and_eq_true, Bool.not_eq_true', decide_eq_true_eq] at this
    have named := deadMessageQueueName_injective (this.2.symm.trans same)
    rw [named, isApplicationPrimary_iff.2 owned] at this
    cases this.1
  · rcases List.mem_pair.1 inPair with rfl | rfl
    · have named := deadMessageQueueName_injective same
      exact .inr ⟨held, ⟨held, among, by simp [queuePair]⟩, named⟩
    · have primaryName : OwnedPrimary queue.name :=
        ⟨drones, primaries, built, List.mem_map_of_mem among⟩
      refine absurd ?_ primaryName.unpaired
      rw [same]
      exact List.isSuffixOf_iff_suffix.1 (endsWith_deadMessage primary)

/-! ## What is read and deleted -/

abbrev Exchanges (SempError : Type) :=
  List (Exchange Query (Answer SempError))

/-- A reading of a queue's rows. -/
def rowsRead (path : String) (answer : Except SempError (List MonitorRow)) :
    Exchange Query (Answer SempError) :=
  ⟨.readMonitorRows path, answer⟩

/-- A reading of a queue's binds. -/
def countRead (path : String) (answer : Except SempError MonitorValue) :
    Exchange Query (Answer SempError) :=
  ⟨.readMonitorCount path, answer⟩

/-- A reading that showed no queue of the name. -/
def AbsentRead (vpn queue : String) (read : Exchanges SempError) : Prop :=
  read = [rowsRead (queueMonitorPath vpn queue) (.ok [])]

/-- A reading that showed the queue with its messages and binds. -/
def RuntimeRead (vpn queue : String) (runtime : QueueRuntimeState)
    (read : Exchanges SempError) : Prop :=
  ∃ row,
    read =
      [rowsRead (queueMonitorPath vpn queue) (.ok [row]),
        countRead (queueTxFlowMonitorPath vpn queue)
          (.ok (.integer runtime.bindCount))] ∧
    row.queueName = some queue ∧ row.messageCount = some runtime.messageCount

/-- A reading that showed the queue with no messages and no binds. -/
def EmptyRead (vpn queue : String) (read : Exchanges SempError) : Prop :=
  RuntimeRead vpn queue ⟨queue, 0, 0⟩ read

/-- The reading that a runtime state comes from. -/
def ReadAs (vpn queue : String) (read : Exchanges SempError) :
    Option QueueRuntimeState → Prop
  | none => AbsentRead vpn queue read
  | some runtime => RuntimeRead vpn queue runtime read

/-- The deletion of a pair's queue is safe after what was read. -/
def SafeDeletion (state : DesiredState) (plan : QueueRetirementPlan)
    (past : Exchanges SempError) (path : String) : Prop :=
  ∃ pair ∈ plan.pairs,
    OwnedPrimary pair.primary ∧
    pair.deadMessage = deadMessageQueueName pair.primary ∧
    pair.primary ∉ state.queueNames ∧ pair.deadMessage ∉ state.queueNames ∧
    ((path = queueConfigPath state.vpn pair.primary ∧
        ∃ earlier read, past = earlier ++ read ∧
          EmptyRead state.vpn pair.primary read) ∨
      (path = queueConfigPath state.vpn pair.deadMessage ∧
        ∃ earlier absent read, past = earlier ++ absent ++ read ∧
          AbsentRead state.vpn pair.primary absent ∧
            EmptyRead state.vpn pair.deadMessage read))

/-- A request about one queue. -/
def Query.Concerns (query : Query) (vpn queue : String) : Prop :=
  query = .readMonitorRows (queueMonitorPath vpn queue) ∨
    query = .readMonitorCount (queueTxFlowMonitorPath vpn queue) ∨
      query = .delete (queueConfigPath vpn queue)

section Readings

variable
  {condition : Exchanges SempError → Exchange Query (Answer SempError) → Prop}
  {before : Exchanges SempError → Prop} {vpn queue : String}

theorem nonnegativeInteger_eq_some {value : MonitorValue} {count : Nat}
    (decoded : nonnegativeInteger (some value) = some count) :
    value = .integer count := by
  unfold nonnegativeInteger at decoded
  split at decoded
  · rename_i held same
    cases same
    cases decoded
    rfl
  · cases decoded

theorem runtimeFromMonitorRow_ok {row : MonitorRow} {value : MonitorValue}
    {runtime : QueueRuntimeState}
    (decoded : (runtimeFromMonitorRow row queue value :
      Except (RetirementFailure SempError) QueueRuntimeState) =
        .ok runtime) :
    value = .integer runtime.bindCount ∧ row.queueName = some queue ∧
      row.messageCount = some runtime.messageCount ∧ runtime.name = queue := by
  simp only [runtimeFromMonitorRow, depthFromMonitorRow, bind_eq_ok,
    present_eq_ok, ensure_eq_ok, pure_eq_ok, exists_const] at decoded
  rcases decoded with
    ⟨bindCount, counted, _, ⟨messageCount, held, named, rfl⟩, rfl⟩
  exact ⟨nonnegativeInteger_eq_some counted, named, held, rfl⟩

theorem optionalQueueMonitorRow_meets
    (asked : ∀ past answer, before past →
      condition past (rowsRead (queueMonitorPath vpn queue) answer)) :
    Meets condition before (optionalQueueMonitorRow vpn queue)
      fun row past => ∃ earlier,
        past = earlier ++
          [rowsRead (queueMonitorPath vpn queue) (.ok row.toList)] ∧
        before earlier := by
  have reads : Meets condition before
      (readMonitorRows (queueMonitorPath vpn queue))
      fun rows past => ∃ earlier,
        past = earlier ++ [rowsRead (queueMonitorPath vpn queue) (.ok rows)] ∧
          before earlier := by
    refine Meets.query asked fun past answer rows holds same => ?_
    cases recast_eq_ok.1 same
    exact ⟨past, rfl, holds⟩
  refine Meets.bind reads fun rows => ?_
  rcases rows with _ | ⟨row, _ | ⟨second, rest⟩⟩
  · exact Meets.pure fun past read => read
  · exact Meets.pure fun past read => read
  · refine Meets.lift fun value past same => ?_
    cases same

/-- What a queue's runtime state is read from. -/
theorem optionalQueueRuntimeState_meets
    (asked : ∀ past answer, before past →
      condition past (rowsRead (queueMonitorPath vpn queue) answer))
    (counted : ∀ past answer,
      condition past (countRead (queueTxFlowMonitorPath vpn queue) answer)) :
    Meets condition before (optionalQueueRuntimeState vpn queue)
      fun runtime past => ∃ earlier read, past = earlier ++ read ∧
        before earlier ∧ ReadAs vpn queue read runtime := by
  refine Meets.bind (optionalQueueMonitorRow_meets asked) fun row => ?_
  cases row with
  | none =>
      refine Meets.pure fun past read => ?_
      rcases read with ⟨earlier, rfl, holds⟩
      exact ⟨earlier, _, rfl, holds, rfl⟩
  | some row =>
      have counts : Meets condition
          (fun past => ∃ earlier,
            past = earlier ++
              [rowsRead (queueMonitorPath vpn queue) (.ok [row])] ∧
            before earlier)
          (readMonitorCount (queueTxFlowMonitorPath vpn queue))
          fun value past => ∃ earlier,
            past = earlier ++
              [rowsRead (queueMonitorPath vpn queue) (.ok [row]),
                countRead (queueTxFlowMonitorPath vpn queue) (.ok value)] ∧
            before earlier := by
        refine Meets.query (fun past answer _ => counted past answer) ?_
        rintro past answer value ⟨earlier, rfl, holds⟩ same
        cases recast_eq_ok.1 same
        exact ⟨earlier, List.append_assoc .., holds⟩
      refine Meets.bind counts fun value => ?_
      have decodes : Meets condition
          (fun past => ∃ earlier,
            past = earlier ++
              [rowsRead (queueMonitorPath vpn queue) (.ok [row]),
                countRead (queueTxFlowMonitorPath vpn queue) (.ok value)] ∧
            before earlier)
          (Client.lift (runtimeFromMonitorRow row queue value) :
            Retiring SempError QueueRuntimeState)
          fun runtime past => ∃ earlier read, past = earlier ++ read ∧
            before earlier ∧ ReadAs vpn queue read (some runtime) := by
        refine Meets.lift ?_
        rintro runtime past decoded ⟨earlier, rfl, holds⟩
        rcases runtimeFromMonitorRow_ok decoded with
          ⟨rfl, named, held, _⟩
        exact ⟨earlier, _, rfl, holds, row, rfl, named, held⟩
      exact Meets.bind decodes fun runtime => Meets.pure fun past read => read

/-- A deletion with the reading after it. -/
theorem deleteAndVerify_meets
    (asked : ∀ past answer,
      condition past (rowsRead (queueMonitorPath vpn queue) answer))
    (counted : ∀ past answer,
      condition past (countRead (queueTxFlowMonitorPath vpn queue) answer))
    (deleted : ∀ past answer, before past →
      condition past ⟨.delete (queueConfigPath vpn queue), answer⟩) :
    Meets condition before (deleteAndVerify vpn queue) fun _ _ => True := by
  have sends : Meets condition before
      (sendDelete (queueConfigPath vpn queue)) fun _ _ => True :=
    Meets.query deleted fun _ _ _ _ _ => trivial
  refine Meets.bind sends fun _ => ?_
  have reads := optionalQueueRuntimeState_meets
    (fun past answer (_ : True) => asked past answer) counted
  refine Meets.bind reads fun runtime => ?_
  exact Meets.lift fun _ _ _ _ => trivial

/-- A queue that was read is deleted only when it was empty. -/
theorem retireRead_meets
    (asked : ∀ past answer,
      condition past (rowsRead (queueMonitorPath vpn queue) answer))
    (counted : ∀ past answer,
      condition past (countRead (queueTxFlowMonitorPath vpn queue) answer))
    (deleted : ∀ earlier read answer, before earlier →
      EmptyRead vpn queue read →
        condition (earlier ++ read)
          ⟨.delete (queueConfigPath vpn queue), answer⟩)
    (runtime : Option QueueRuntimeState) :
    Meets condition
      (fun past => ∃ earlier read, past = earlier ++ read ∧
        before earlier ∧ ReadAs vpn queue read runtime)
      (retireRead vpn queue runtime) fun _ _ => True := by
  cases runtime with
  | none => exact Meets.pure fun _ _ => trivial
  | some runtime =>
      have checks : Meets condition
          (fun past => ∃ earlier read, past = earlier ++ read ∧
            before earlier ∧ ReadAs vpn queue read (some runtime))
          (Client.lift (ensure
            (runtime.messageCount = 0 ∧ runtime.bindCount = 0)
            (.unsafeRetirement (.runtime runtime))) :
            Retiring SempError Unit)
          fun _ past => ∃ earlier read, past = earlier ++ read ∧
            before earlier ∧ EmptyRead vpn queue read := by
        refine Meets.lift ?_
        rintro _ past accepted ⟨earlier, read, rfl, holds, row, rfl, held⟩
        rcases ensure_eq_ok.1 accepted with ⟨messages, binds⟩
        refine ⟨earlier, _, rfl, holds, row, ?_, held.1, ?_⟩
        · rw [binds]
        · rw [held.2, messages]
      refine Meets.bind checks fun _ => ?_
      refine deleteAndVerify_meets asked counted ?_
      rintro past answer ⟨earlier, read, rfl, holds, empty⟩
      exact deleted earlier read answer holds empty

/-- A pair's queues are read and deleted in order. -/
theorem retirePair_meets {state : DesiredState} {planned : String}
    {pair : QueueRetirementPair}
    (asked : ∀ queue past answer,
      queue = pair.primary ∨ queue = pair.deadMessage →
        condition past (rowsRead (queueMonitorPath state.vpn queue) answer))
    (counted : ∀ queue past answer,
      queue = pair.primary ∨ queue = pair.deadMessage →
        condition past
          (countRead (queueTxFlowMonitorPath state.vpn queue) answer))
    (deletedPrimary : ∀ earlier read answer, Candidate state planned pair →
      EmptyRead state.vpn pair.primary read →
        condition (earlier ++ read)
          ⟨.delete (queueConfigPath state.vpn pair.primary), answer⟩)
    (deletedDead : ∀ earlier absent read answer,
      Candidate state planned pair →
      AbsentRead state.vpn pair.primary absent →
      EmptyRead state.vpn pair.deadMessage read →
        condition (earlier ++ absent ++ read)
          ⟨.delete (queueConfigPath state.vpn pair.deadMessage), answer⟩) :
    Meets condition (fun _ => True) (retirePair state planned pair)
      fun _ _ => True := by
  have primaryRows past answer := asked pair.primary past answer (.inl rfl)
  have primaryCount past answer := counted pair.primary past answer (.inl rfl)
  have deadRows past answer := asked pair.deadMessage past answer (.inr rfl)
  have deadCount past answer :=
    counted pair.deadMessage past answer (.inr rfl)
  have candidates : Meets condition (fun _ => True)
      (Client.lift (requireRetirementCandidate state planned pair) :
        Retiring SempError Unit)
      fun _ _ => Candidate state planned pair :=
    Meets.lift fun _ _ accepted _ => ensure_eq_ok.1 accepted
  refine Meets.bind candidates fun _ => Meets.of_fact fun valid => ?_
  refine Meets.bind (optionalQueueRuntimeState_meets
    (fun past answer _ => primaryRows past answer) primaryCount)
    fun primary => ?_
  refine Meets.bind (retireRead_meets primaryRows primaryCount
    (fun earlier read answer _ empty =>
      deletedPrimary earlier read answer valid empty) primary) fun _ => ?_
  refine Meets.bind (optionalQueueRuntimeState_meets
    (fun past answer _ => primaryRows past answer) primaryCount)
    fun remaining => ?_
  have absent : Meets condition
      (fun past => ∃ earlier read, past = earlier ++ read ∧ True ∧
        ReadAs state.vpn pair.primary read remaining)
      (Client.lift (ensure (remaining = none)
        (.unsafeRetirement (.name pair.primary))) : Retiring SempError Unit)
      fun _ past => ∃ earlier read, past = earlier ++ read ∧
        AbsentRead state.vpn pair.primary read := by
    refine Meets.lift ?_
    rintro _ past accepted ⟨earlier, read, rfl, _, reading⟩
    cases ensure_eq_ok.1 accepted
    exact ⟨earlier, read, rfl, reading⟩
  refine Meets.bind absent fun _ => ?_
  refine Meets.bind (optionalQueueRuntimeState_meets
    (fun past answer _ => deadRows past answer) deadCount)
    fun deadMessage => ?_
  refine retireRead_meets deadRows deadCount ?_ deadMessage
  rintro _ read answer ⟨earlier, missing, rfl, absence⟩ empty
  exact deletedDead earlier missing read answer valid absence empty

end Readings

/-! ## The plan and the retirement -/

section Whole

variable {state : DesiredState} {plan : QueueRetirementPlan}

/-- Every deletion of a retirement is safe. -/
theorem retireStaleQueues_safe :
    Meets
      (fun past (exchange : Exchange Query (Answer SempError)) =>
        ∀ path, exchange.query = .delete path →
          SafeDeletion state plan past path)
      (fun _ => True) (retireStaleQueues state plan) fun _ _ => True := by
  refine Meets.each fun pair member => ?_
  refine retirePair_meets (fun _ _ _ _ path impossible => ?_)
    (fun _ _ _ _ path impossible => ?_) ?_ ?_
  · cases impossible
  · cases impossible
  · rintro earlier read answer valid empty path same
    cases same
    exact ⟨pair, member, isApplicationPrimary_iff.1 valid.owned, valid.paired,
      valid.primary, valid.deadMessage, .inl ⟨rfl, earlier, read, rfl, empty⟩⟩
  · rintro earlier absent read answer valid absence empty path same
    cases same
    exact ⟨pair, member, isApplicationPrimary_iff.1 valid.owned, valid.paired,
      valid.primary, valid.deadMessage,
      .inr ⟨rfl, earlier, absent, read, rfl, absence, empty⟩⟩

/-- A retirement asks only about the queues of its pairs. -/
theorem retirement_concerns (pairs : List QueueRetirementPair) :
    Meets
      (fun _ (exchange : Exchange Query (Answer SempError)) =>
        ∃ pair ∈ pairs,
          exchange.query.Concerns state.vpn pair.primary ∨
            exchange.query.Concerns state.vpn pair.deadMessage)
      (fun _ => True) (Client.each (retirePair state plan.vpn) pairs)
      fun _ _ => True := by
  refine Meets.each fun pair member => ?_
  refine retirePair_meets ?_ ?_ ?_ ?_
  · rintro _ _ answer (rfl | rfl)
    · exact ⟨pair, member, .inl (.inl rfl)⟩
    · exact ⟨pair, member, .inr (.inl rfl)⟩
  · rintro _ _ answer (rfl | rfl)
    · exact ⟨pair, member, .inl (.inr (.inl rfl))⟩
    · exact ⟨pair, member, .inr (.inr (.inl rfl))⟩
  · rintro earlier read answer _ _
    exact ⟨pair, member, .inl (.inr (.inr rfl))⟩
  · rintro earlier absent read answer _ _ _
    exact ⟨pair, member, .inr (.inr (.inr rfl))⟩

/-- A refused retirement is one of the pairs up to the refused one. -/
theorem refusal_stops {history : Exchanges SempError}
    {failure : RetirementFailure SempError}
    (refused : Yields (retireStaleQueues state plan) history
      (.error failure)) :
    ∃ before pair later, plan.pairs = before ++ pair :: later ∧
      Yields (retireStaleQueues state { plan with pairs := before ++ [pair] })
        history (.error failure) ∧
      ∀ exchange ∈ history, ∃ touched ∈ before ++ [pair],
        exchange.query.Concerns state.vpn touched.primary ∨
          exchange.query.Concerns state.vpn touched.deadMessage := by
  rcases yields_each_error refused with
    ⟨before, pair, later, split, earlier, last, rfl, done, fails⟩
  have prefixRun : Yields
      (retireStaleQueues state { plan with pairs := before ++ [pair] })
      (earlier ++ last) (.error failure) := by
    refine yields_each_append.2 (.inr ⟨earlier, last, rfl, done, ?_⟩)
    exact yields_bind.2 (.inl ⟨failure, fails, rfl⟩)
  refine ⟨before, pair, later, split, prefixRun, fun exchange member => ?_⟩
  rcases List.append_of_mem member with ⟨first, rest, same⟩
  exact Meets.exchange (retirement_concerns (before ++ [pair])) trivial
    prefixRun same

/-- A queue that rows show. -/
def Present (rows : List MonitorRow) (queue : String) : Prop :=
  ∃ row ∈ rows, row.queueName = some queue

theorem zip_of_mapM_ok {α β ε : Type} {validate : α → Except ε β}
    {items : List α} {results : List β} {item : α}
    (returned : items.mapM validate = .ok results) (member : item ∈ items) :
    ∃ result, (item, result) ∈ items.zip results ∧
      validate item = .ok result := by
  induction items generalizing results with
  | nil => cases member
  | cons first rest inductionHypothesis =>
      simp only [List.mapM_cons, bind_eq_ok, pure_eq_ok] at returned
      rcases returned with ⟨result, accepted, later, others, rfl⟩
      rcases List.mem_cons.1 member with rfl | inside
      · exact ⟨result, List.mem_cons_self, accepted⟩
      · rcases inductionHypothesis others inside with ⟨found, held, same⟩
        exact ⟨found, List.mem_cons_of_mem _ held, same⟩

/-- An inventory has the queues that its rows show. -/
theorem mem_inventory {path : String} {rows : List MonitorRow}
    {inventory : List String} {queue : String}
    (read : (queueMonitorInventory path rows :
      Except (RetirementFailure SempError) (List String)) = .ok inventory) :
    queue ∈ inventory ↔ Present rows queue := by
  simp only [queueMonitorInventory, bind_eq_ok, ensure_eq_ok, pure_eq_ok,
    exists_const] at read
  rcases read with ⟨names, named, _, states, decoded, rfl⟩
  rw [List.mem_map]
  constructor
  · rintro ⟨depth, member, rfl⟩
    rcases mapM_ok_source decoded member with ⟨⟨row, name⟩, among, made⟩
    simp only [depthFromMonitorRow, bind_eq_ok, present_eq_ok, ensure_eq_ok,
      pure_eq_ok, exists_const] at made
    rcases made with ⟨_, _, shown, rfl⟩
    exact ⟨row, (List.of_mem_zip among).1, shown⟩
  · rintro ⟨row, member, shown⟩
    rcases zip_of_mapM_ok named member with ⟨name, among, same⟩
    rcases mapM_ok_mem decoded among with ⟨depth, held, made⟩
    simp only [depthFromMonitorRow, bind_eq_ok, present_eq_ok, ensure_eq_ok,
      pure_eq_ok, exists_const] at made
    rcases made with ⟨_, _, _, rfl⟩
    rw [present_eq_ok, shown] at same
    cases same
    exact ⟨_, held, rfl⟩

/-- A plan lists the stale pairs of one reading of the inventory. -/
theorem planQueueRetirement_ok {history : Exchanges SempError}
    (yields : Yields (planQueueRetirement state) history (.ok plan)) :
    ∃ rows inventory,
      history = [rowsRead (queueMonitorCollectionPath state.vpn) (.ok rows)] ∧
      (∀ queue, queue ∈ inventory ↔ Present rows queue) ∧
      plan.vpn = state.vpn ∧
      plan.pairs = (stalePrimaries state inventory).map fun primary =>
        { primary, deadMessage := deadMessageQueueName primary } := by
  unfold planQueueRetirement at yields
  dsimp only at yields
  rcases yields_bind.1 yields with
    ⟨_, _, impossible⟩ | ⟨rows, earlier, later, rfl, read, rest⟩
  · cases impossible
  · rcases yields_query.1 read with ⟨answer, rfl, same⟩
    cases recast_eq_ok.1 same.symm
    rcases yields_bind.1 rest with
      ⟨_, _, impossible⟩ | ⟨inventory, middle, last, rfl, decoded, ends⟩
    · cases impossible
    · rcases yields_lift.1 decoded with ⟨rfl, listed⟩
      rcases yields_pure.1 ends with ⟨rfl, same⟩
      cases same
      exact ⟨rows, inventory, rfl, fun queue => mem_inventory listed.symm,
        rfl, rfl⟩

end Whole

/-- The state is one that the authorization tables imply. -/
def Built (state : DesiredState) : Prop :=
  ∃ vpn credentials namespaceText drones,
    desiredState vpn credentials namespaceText drones = .ok state

/--
Retirement is safe against every broker.  It deletes a queue only of an owned
pair outside the desired state, right after a reading that showed the queue
empty and unbound, and a dead-message queue only after a reading that did not
show its primary; a refusal is that of a retirement without the later pairs;
and a plan lists exactly the owned primaries outside a desired state that was
built, of which one queue of the pair was read.
-/
theorem queue_retirement_safe (state : DesiredState)
    (plan : QueueRetirementPlan) :
    (∀ (history : Exchanges SempError) result,
      Yields (retireStaleQueues state plan) history result →
      ∀ earlier path answer later,
        history = earlier ++ ⟨.delete path, answer⟩ :: later →
          SafeDeletion state plan earlier path) ∧
    (∀ (history : Exchanges SempError) failure,
      Yields (retireStaleQueues state plan) history (.error failure) →
      ∃ before pair later, plan.pairs = before ++ pair :: later ∧
        Yields (retireStaleQueues state { plan with pairs := before ++ [pair] })
          history (.error failure) ∧
        ∀ exchange ∈ history, ∃ touched ∈ before ++ [pair],
          exchange.query.Concerns state.vpn touched.primary ∨
            exchange.query.Concerns state.vpn touched.deadMessage) ∧
    (Built state → ∀ (history : Exchanges SempError) planned,
      Yields (planQueueRetirement state) history (.ok planned) →
      ∃ rows,
        history =
          [rowsRead (queueMonitorCollectionPath state.vpn) (.ok rows)] ∧
        planned.vpn = state.vpn ∧ planned.pairs.Nodup ∧
        ∀ pair, pair ∈ planned.pairs ↔
          OwnedPrimary pair.primary ∧
          pair.deadMessage = deadMessageQueueName pair.primary ∧
          pair.primary ∉ state.queueNames ∧
          (Present rows pair.primary ∨ Present rows pair.deadMessage)) := by
  refine ⟨?_, fun history failure refused => refusal_stops refused, ?_⟩
  · intro history result yields earlier path answer later split
    exact retireStaleQueues_safe.exchange trivial yields split path rfl
  · rintro ⟨vpn, credentials, namespaceText, drones, built⟩ history planned
      yields
    rcases planQueueRetirement_ok yields with
      ⟨rows, inventory, rfl, shown, sameVpn, pairs⟩
    refine ⟨rows, rfl, sameVpn, ?_, fun pair => ?_⟩
    · rw [pairs]
      refine (stalePrimaries_nodup state inventory).map ?_
      intro first second same
      exact congrArg QueueRetirementPair.primary same
    · rw [pairs, List.mem_map]
      constructor
      · rintro ⟨primary, stale, rfl⟩
        rcases mem_stalePrimaries.1 stale with ⟨owned, undesired, held⟩
        refine ⟨owned, rfl, undesired, ?_⟩
        exact held.imp (shown primary).1 fun dead => (shown _).1 dead.1
      · rintro ⟨owned, paired, undesired, present⟩
        refine ⟨pair.primary, mem_stalePrimaries.2
          ⟨owned, undesired, ?_⟩, ?_⟩
        · refine present.imp (shown _).2 fun dead => ?_
          rw [paired] at dead
          exact ⟨(shown _).2 dead, fun desired =>
            undesired (primary_desired built owned desired)⟩
        · rw [← paired]

/-! ## A quiet broker -/

/-- A deletion that the broker carried out. -/
def deleted (path : String) : Exchange Query (Answer SempError) :=
  ⟨.delete path, (.ok () : Except SempError Unit)⟩

/-- What is read of an empty queue. -/
def emptyReading (vpn queue : String) (row : MonitorRow) :
    Exchanges SempError :=
  [rowsRead (queueMonitorPath vpn queue) (.ok [row]),
    countRead (queueTxFlowMonitorPath vpn queue) (.ok (.integer 0))]

/-- What is read of a queue that is not there. -/
def absentReading (vpn queue : String) : Exchanges SempError :=
  [rowsRead (queueMonitorPath vpn queue) (.ok [])]

/-- The exchanges of the retirement of an empty queue. -/
def retiring (vpn queue : String) (row : MonitorRow) : Exchanges SempError :=
  emptyReading vpn queue row ++
    (deleted (queueConfigPath vpn queue) :: absentReading vpn queue)

section Quiet

variable {vpn queue : String} {row : MonitorRow}

theorem absent_yields :
    Yields
      (optionalQueueRuntimeState vpn queue :
        Retiring SempError (Option QueueRuntimeState))
      (absentReading vpn queue) (.ok none) := by
  have read : Yields
      (readMonitorRows (queueMonitorPath vpn queue) :
        Retiring SempError (List MonitorRow))
      (absentReading vpn queue) (.ok []) :=
    Yields.query _ _ _
  refine yields_bind.2 (.inr ⟨none, absentReading vpn queue, [], rfl, ?_,
    .finish _⟩)
  exact yields_bind.2 (.inr ⟨[], absentReading vpn queue, [], rfl, read,
    .finish _⟩)

theorem empty_yields (named : row.queueName = some queue)
    (nothing : row.messageCount = some 0) :
    Yields
      (optionalQueueRuntimeState vpn queue :
        Retiring SempError (Option QueueRuntimeState))
      (emptyReading vpn queue row) (.ok (some ⟨queue, 0, 0⟩)) := by
  have decoded : (runtimeFromMonitorRow row queue (.integer 0) :
      Except (RetirementFailure SempError) QueueRuntimeState) =
        .ok ⟨queue, 0, 0⟩ := by
    simp only [runtimeFromMonitorRow, depthFromMonitorRow, bind_eq_ok,
      present_eq_ok, ensure_eq_ok, pure_eq_ok, exists_const]
    exact ⟨0, rfl, ⟨queue, 0⟩, ⟨0, nothing, named, rfl⟩, rfl⟩
  have read : Yields
      (readMonitorRows (queueMonitorPath vpn queue) :
        Retiring SempError (List MonitorRow))
      [rowsRead (queueMonitorPath vpn queue) (.ok [row])] (.ok [row]) :=
    Yields.query _ _ _
  have count : Yields
      (readMonitorCount (queueTxFlowMonitorPath vpn queue) :
        Retiring SempError MonitorValue)
      [countRead (queueTxFlowMonitorPath vpn queue) (.ok (.integer 0))]
      (.ok (.integer 0)) :=
    Yields.query _ _ _
  refine yields_bind.2 (.inr ⟨some row, [_], [_], rfl, ?_, ?_⟩)
  · exact yields_bind.2 (.inr ⟨[row], [_], [], rfl, read, .finish _⟩)
  · refine yields_bind.2 (.inr ⟨.integer 0, [_], [], rfl, count, ?_⟩)
    refine yields_bind.2 (.inr ⟨⟨queue, 0, 0⟩, [], [], rfl, ?_, .finish _⟩)
    exact yields_lift.2 ⟨rfl, decoded.symm⟩

/-- An empty queue is deleted. -/
theorem retireRead_yields :
    Yields
      (retireRead vpn queue (some ⟨queue, 0, 0⟩) : Retiring SempError Unit)
      (deleted (queueConfigPath vpn queue) :: absentReading vpn queue)
      (.ok ()) := by
  have sent : Yields
      (sendDelete (queueConfigPath vpn queue) : Retiring SempError Unit)
      [deleted (queueConfigPath vpn queue)] (.ok ()) :=
    Yields.query _ _ _
  refine yields_bind.2 (.inr ⟨(), [], _, rfl, .finish _, ?_⟩)
  refine yields_bind.2 (.inr ⟨(), [_], _, rfl, sent, ?_⟩)
  exact yields_bind.2 (.inr ⟨none, _, [], (List.append_nil _).symm,
    absent_yields, .finish _⟩)

/-- A pair of empty queues is deleted. -/
theorem retirePair_yields {state : DesiredState} {planned : String}
    {pair : QueueRetirementPair} {first second : MonitorRow}
    (valid : Candidate state planned pair)
    (primary : first.queueName = some pair.primary)
    (noMessage : first.messageCount = some 0)
    (dead : second.queueName = some pair.deadMessage)
    (noDead : second.messageCount = some 0) :
    Yields (retirePair state planned pair : Retiring SempError Unit)
      (retiring state.vpn pair.primary first ++
        (absentReading state.vpn pair.primary ++
          retiring state.vpn pair.deadMessage second)) (.ok ()) := by
  have accepted : (requireRetirementCandidate state planned pair :
      Except (RetirementFailure SempError) Unit) = .ok () :=
    ensure_eq_ok.2 valid
  have gone : Yields
      (do
        let remaining ← optionalQueueRuntimeState state.vpn pair.primary
        Client.lift
          (ensure (remaining = none) (.unsafeRetirement (.name pair.primary)))
        let deadMessage ← optionalQueueRuntimeState state.vpn pair.deadMessage
        retireRead state.vpn pair.deadMessage deadMessage :
          Retiring SempError Unit)
      (absentReading state.vpn pair.primary ++
        retiring state.vpn pair.deadMessage second) (.ok ()) := by
    refine yields_bind.2 (.inr ⟨none, _, _, rfl, absent_yields, ?_⟩)
    refine yields_bind.2 (.inr ⟨(), [], retiring state.vpn pair.deadMessage
      second, rfl, .finish _, ?_⟩)
    exact yields_bind.2 (.inr ⟨_, _, _, rfl, empty_yields dead noDead,
      retireRead_yields⟩)
  refine yields_bind.2 (.inr ⟨(), [], retiring state.vpn pair.primary first ++
    (absentReading state.vpn pair.primary ++
      retiring state.vpn pair.deadMessage second), rfl,
    yields_lift.2 ⟨rfl, accepted.symm⟩, ?_⟩)
  refine yields_bind.2 (.inr ⟨_, emptyReading state.vpn pair.primary first, _,
    List.append_assoc .., empty_yields primary noMessage, ?_⟩)
  exact yields_bind.2 (.inr ⟨(), _, _, rfl, retireRead_yields, gone⟩)

end Quiet

/-- The state of a fleet of one drone. -/
def oneDrone : DesiredState :=
  match desiredState "default" (fun _ => "secret") none ["alpha"] with
  | .ok state => state
  | .error _ => ⟨"", [], [], [], [], []⟩

theorem oneDrone_built : Built oneDrone := by
  have succeeds : (desiredState "default" (fun _ => "secret") none
      ["alpha"]).isOk = true := by
    decide
  refine ⟨"default", fun _ => "secret", none, ["alpha"], ?_⟩
  unfold oneDrone
  cases built : desiredState "default" (fun _ => "secret") none ["alpha"] with
  | ok state => rfl
  | error failure =>
      rw [built] at succeeds
      cases succeeds

/-- The pair of a drone that is no longer in the fleet. -/
def stalePair : QueueRetirementPair where
  primary := "aerial-rescue/v1/fleet-simulator/drone.command/bravo"
  deadMessage := "aerial-rescue/v1/fleet-simulator/drone.command/bravo_dmq"

/-- The row of an empty queue. -/
def emptyRow (queue : String) : MonitorRow where
  data := [("queueName", .text queue)]
  collections := [("msgs", .mapping [("count", .integer 0)])]

/-- A pair of queues of someone else. -/
def foreignPair : QueueRetirementPair where
  primary := "inventory"
  deadMessage := "inventory_dmq"

/-- The plan of an inventory with the stale primary alone. -/
def stalePlan : QueueRetirementPlan where
  vpn := oneDrone.vpn
  pairs := (stalePrimaries oneDrone [stalePair.primary]).map fun primary =>
    { primary, deadMessage := deadMessageQueueName primary }

theorem stalePlan_yields :
    Yields (planQueueRetirement oneDrone : Retiring Unit QueueRetirementPlan)
      [rowsRead (queueMonitorCollectionPath oneDrone.vpn)
        (.ok [emptyRow stalePair.primary])] (.ok stalePlan) := by
  have listed : (queueMonitorInventory
      (queueMonitorCollectionPath oneDrone.vpn)
      [emptyRow stalePair.primary] :
        Except (RetirementFailure Unit) (List String)) =
          .ok [stalePair.primary] := by
    rfl
  have read : Yields
      (readMonitorRows (queueMonitorCollectionPath oneDrone.vpn) :
        Retiring Unit (List MonitorRow))
      [rowsRead (queueMonitorCollectionPath oneDrone.vpn)
        (.ok [emptyRow stalePair.primary])]
      (.ok [emptyRow stalePair.primary]) :=
    Yields.query _ _ _
  refine yields_bind.2 (.inr ⟨_, [_], [], rfl, read, ?_⟩)
  exact yields_bind.2 (.inr ⟨_, [], [], rfl, yields_lift.2 ⟨rfl, listed.symm⟩,
    .finish _⟩)

theorem queue_retirement_safe_oneDrone :
    SafeDeletion oneDrone ⟨oneDrone.vpn, [stalePair]⟩
        (emptyReading oneDrone.vpn stalePair.primary
          (emptyRow stalePair.primary) : Exchanges Unit)
        (queueConfigPath oneDrone.vpn stalePair.primary) ∧
      (∃ before pair later, [foreignPair] = before ++ pair :: later ∧
        Yields
          (retireStaleQueues oneDrone ⟨oneDrone.vpn, before ++ [pair]⟩ :
            Retiring Unit Unit)
          [] (.error (.unsafeRetirement (.pair foreignPair)))) ∧
      stalePair ∈ stalePlan.pairs := by
  refine ⟨?_, ?_, ?_⟩
  · have valid : Candidate oneDrone oneDrone.vpn stalePair := by
      decide
    have yields : Yields
        (retirePair oneDrone oneDrone.vpn stalePair : Retiring Unit Unit)
        (retiring oneDrone.vpn stalePair.primary
            (emptyRow stalePair.primary) ++
          (absentReading oneDrone.vpn stalePair.primary ++
            retiring oneDrone.vpn stalePair.deadMessage
              (emptyRow stalePair.deadMessage))) (.ok ()) :=
      retirePair_yields valid rfl rfl rfl rfl
    have whole : Yields
        (retireStaleQueues oneDrone ⟨oneDrone.vpn, [stalePair]⟩ :
          Retiring Unit Unit) _ (.ok ()) :=
      yields_bind.2 (.inr ⟨(), _, [], rfl, yields, .finish _⟩)
    exact (queue_retirement_safe oneDrone ⟨oneDrone.vpn, [stalePair]⟩).1 _
      (.ok ()) whole _ _ _ _ rfl
  · have refused : Yields
        (retireStaleQueues oneDrone ⟨oneDrone.vpn, [foreignPair]⟩ :
          Retiring Unit Unit)
        [] (.error (.unsafeRetirement (.pair foreignPair))) := by
      have rejected : ¬Candidate oneDrone oneDrone.vpn foreignPair := by
        decide
      refine yields_bind.2 (.inl ⟨_, yields_bind.2 (.inl ⟨_,
        yields_lift.2 ⟨rfl, ?_⟩, rfl⟩), rfl⟩)
      exact (ensure_eq_error.2 ⟨rejected, rfl⟩).symm
    rcases (queue_retirement_safe oneDrone ⟨oneDrone.vpn, [foreignPair]⟩).2.1
      [] _ refused with ⟨before, pair, later, split, ends, _⟩
    exact ⟨before, pair, later, split, ends⟩
  · rcases (queue_retirement_safe oneDrone stalePlan).2.2 oneDrone_built _
      stalePlan stalePlan_yields with ⟨rows, read, _, _, listed⟩
    refine (listed stalePair).2 ⟨?_, ?_, ?_, ?_⟩
    · exact isApplicationPrimary_iff.1 (by decide)
    · decide
    · decide
    · refine .inl ⟨emptyRow stalePair.primary, ?_, rfl⟩
      cases read
      simp

end AerialRescue.Broker.Retirement
