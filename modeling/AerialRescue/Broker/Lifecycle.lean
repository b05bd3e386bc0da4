import AerialRescue.Lib.Run
import Mathlib.Data.Finset.Basic
import Mathlib.Data.List.Induction
import Mathlib.Logic.Function.Basic

/-!
# The broker's lifecycle signal

`BrokerLifecycle` of the broker package: the state of the transport, the
application's decision, the blocked publishers and the durable receivers that
the SDK reports active.  The SDK calls from threads of its own, so that a
callback may come later than one with a newer timestamp; three filters drop
what is stale.

What was called is kept beside it in two ledgers of the calls alone, one of
all callbacks and one of those that count in the current epoch.  The signal is
honest when the second supports it.
-/

namespace AerialRescue.Broker.Lifecycle

open AerialRescue.Lib.Run

/-! ## The lifecycle -/

/-- `BrokerLifecycleState` -/
inductive LifecycleState where
  | starting
  | connected
  | recovering
  | recoveryPending
  | exhausted
  | closed
deriving DecidableEq

/-- The fields of `BrokerLifecycle`; the publisher without an identity is
`none`. -/
structure BrokerLifecycle (Publisher : Type) where
  state : LifecycleState
  applicationReady : Bool
  blockedPublishers : Finset (Option Publisher)
  registeredReceivers : Finset String
  activeReceivers : Finset String
  receiverEventTimes : String → Option Int
  transportEventTime : Option Int
  reconnectCutoff : Option Int

/-- A call of the lifecycle's methods. -/
inductive Call (Publisher : Type) where
  | connected
  | markReady
  | receiverRegistered (receiver : String)
  | receiverActive (receiver : String) (time : Option Int)
  | receiverPassive (receiver : String) (time : Option Int)
  | publisherBlocked (publisher : Option Publisher)
  | recoveryRequired
  | publisherAvailable (publisher : Option Publisher)
  | reconnecting (time : Option Int)
  | reconnected (time : Option Int)
  | exhausted
  | closed
deriving DecidableEq

/-- A callback of a receiver or the transport has a timestamp. -/
def Call.isTimestamped {Publisher : Type} : Call Publisher → Bool
  | .receiverActive _ time => time.isSome
  | .receiverPassive _ time => time.isSome
  | .reconnecting time => time.isSome
  | .reconnected time => time.isSome
  | _ => true

variable {Publisher : Type} [DecidableEq Publisher]

namespace BrokerLifecycle

/-- `BrokerLifecycle()` -/
def new : BrokerLifecycle Publisher where
  state := .starting
  applicationReady := false
  blockedPublishers := ∅
  registeredReceivers := ∅
  activeReceivers := ∅
  receiverEventTimes _ := none
  transportEventTime := none
  reconnectCutoff := none

/-- `_all_receivers_active_unlocked` -/
def allReceiversActive (lifecycle : BrokerLifecycle Publisher) : Bool :=
  lifecycle.registeredReceivers ⊆ lifecycle.activeReceivers

/-- `is_ready` -/
def isReady (lifecycle : BrokerLifecycle Publisher) : Bool :=
  lifecycle.state = .connected && lifecycle.applicationReady &&
    lifecycle.blockedPublishers = ∅ && lifecycle.allReceiversActive

/-- `is_terminal` -/
def isTerminal (lifecycle : BrokerLifecycle Publisher) : Bool :=
  lifecycle.state = .exhausted || lifecycle.state = .closed

/-- `_accept_receiver_event_unlocked`: the verdict. -/
def acceptsReceiverEvent (lifecycle : BrokerLifecycle Publisher)
    (receiver : String) : Option Int → Bool
  | none => true
  | some time =>
      match lifecycle.receiverEventTimes receiver with
      | none => true
      | some previous => previous ≤ time

/-- `_accept_receiver_event_unlocked`: the time of an accepted event. -/
def recordReceiverEvent (lifecycle : BrokerLifecycle Publisher)
    (receiver : String) : Option Int → BrokerLifecycle Publisher
  | none => lifecycle
  | some time =>
      { lifecycle with
        receiverEventTimes :=
          Function.update lifecycle.receiverEventTimes receiver (some time) }

/-- `_event_is_in_recovery_epoch_unlocked` -/
def inRecoveryEpoch (lifecycle : BrokerLifecycle Publisher) :
    Option Int → Bool
  | none => true
  | some time =>
      match lifecycle.reconnectCutoff with
      | none => true
      | some cutoff => cutoff ≤ time

/-- `_accept_transport_event_unlocked`: the verdict. -/
def acceptsTransportEvent (lifecycle : BrokerLifecycle Publisher) :
    Option Int → Bool
  | none => true
  | some time =>
      match lifecycle.transportEventTime with
      | none => true
      | some previous => previous ≤ time

/-- A time that is known and not before a known cutoff. -/
def isSince : Option Int → Option Int → Bool
  | some cutoff, some time => cutoff ≤ time
  | _, _ => false

/-- The receivers that keep their activity over a lost transport. -/
def activeSince (lifecycle : BrokerLifecycle Publisher)
    (cutoff : Option Int) : Finset String :=
  lifecycle.activeReceivers.filter fun receiver =>
    isSince cutoff (lifecycle.receiverEventTimes receiver) = true

/-- The receiver's flow event is one of the current epoch, and its time the
newest of the receiver. -/
def considers (lifecycle : BrokerLifecycle Publisher) (receiver : String)
    (time : Option Int) : Bool :=
  !lifecycle.isTerminal && receiver ∈ lifecycle.registeredReceivers &&
    lifecycle.acceptsReceiverEvent receiver time

/-- `receiver_active` -/
def receiverActive (lifecycle : BrokerLifecycle Publisher)
    (receiver : String) (time : Option Int) : BrokerLifecycle Publisher :=
  if lifecycle.considers receiver time then
    let held := lifecycle.recordReceiverEvent receiver time
    if held.inRecoveryEpoch time then
      let active :=
        { held with
          activeReceivers := insert receiver held.activeReceivers }
      if active.state = .recoveryPending && active.applicationReady &&
          active.allReceiversActive then
        { active with state := .connected }
      else active
    else held
  else lifecycle

/-- `receiver_passive` -/
def receiverPassive (lifecycle : BrokerLifecycle Publisher)
    (receiver : String) (time : Option Int) : BrokerLifecycle Publisher :=
  if lifecycle.considers receiver time then
    let held := lifecycle.recordReceiverEvent receiver time
    if held.inRecoveryEpoch time then
      { held with
        activeReceivers := held.activeReceivers.erase receiver
        applicationReady := false
        state :=
          if held.state = .connected then .recoveryPending else held.state }
    else held
  else lifecycle

/-- The lifecycle after a call. -/
def apply (lifecycle : BrokerLifecycle Publisher) :
    Call Publisher → BrokerLifecycle Publisher
  | .connected =>
      if lifecycle.isTerminal then lifecycle
      else
        { lifecycle with
          state := .connected
          applicationReady := false
          activeReceivers := ∅
          receiverEventTimes := fun _ => none
          transportEventTime := none
          reconnectCutoff := none }
  | .markReady =>
      if lifecycle.state = .connected || lifecycle.state = .recoveryPending
      then
        { lifecycle with
          applicationReady := true
          state :=
            if lifecycle.allReceiversActive then .connected
            else lifecycle.state }
      else lifecycle
  | .receiverRegistered receiver =>
      if lifecycle.isTerminal then lifecycle
      else
        { lifecycle with
          registeredReceivers := insert receiver lifecycle.registeredReceivers
          activeReceivers := lifecycle.activeReceivers.erase receiver
          receiverEventTimes :=
            Function.update lifecycle.receiverEventTimes receiver none
          applicationReady := false }
  | .receiverActive receiver time => lifecycle.receiverActive receiver time
  | .receiverPassive receiver time => lifecycle.receiverPassive receiver time
  | .publisherBlocked publisher =>
      if lifecycle.isTerminal then lifecycle
      else
        { lifecycle with
          blockedPublishers := insert publisher lifecycle.blockedPublishers
          applicationReady := false }
  | .recoveryRequired =>
      if lifecycle.isTerminal then lifecycle
      else { lifecycle with applicationReady := false }
  | .publisherAvailable publisher =>
      if lifecycle.isTerminal then lifecycle
      else
        { lifecycle with
          blockedPublishers := lifecycle.blockedPublishers.erase publisher }
  | .reconnecting time =>
      if !lifecycle.isTerminal && lifecycle.acceptsTransportEvent time then
        { lifecycle with
          transportEventTime := time
          state := .recovering
          applicationReady := false
          reconnectCutoff := time
          activeReceivers := lifecycle.activeSince time }
      else lifecycle
  | .reconnected time =>
      if !lifecycle.isTerminal && lifecycle.acceptsTransportEvent time then
        { lifecycle with
          transportEventTime := time
          state := .recoveryPending
          applicationReady := false }
      else lifecycle
  | .exhausted =>
      { lifecycle with
        state := .exhausted
        applicationReady := false
        activeReceivers := ∅ }
  | .closed =>
      { lifecycle with
        state := .closed
        applicationReady := false
        activeReceivers := ∅ }

/-- The call makes the method clear the application's decision. -/
def removesReadiness (lifecycle : BrokerLifecycle Publisher) :
    Call Publisher → Bool
  | .connected => !lifecycle.isTerminal
  | .receiverRegistered _ => !lifecycle.isTerminal
  | .receiverPassive receiver time =>
      lifecycle.considers receiver time && lifecycle.inRecoveryEpoch time
  | .publisherBlocked _ => !lifecycle.isTerminal
  | .recoveryRequired => !lifecycle.isTerminal
  | .reconnecting time =>
      !lifecycle.isTerminal && lifecycle.acceptsTransportEvent time
  | .reconnected time =>
      !lifecycle.isTerminal && lifecycle.acceptsTransportEvent time
  | .exhausted => true
  | .closed => true
  | _ => false

end BrokerLifecycle

/-! ## The ledger of calls -/

/-- What a durable receiver's callback reports. -/
inductive Flow where
  | active
  | passive
deriving DecidableEq

/-- What a list of calls comes to, whatever the lifecycle made of them. -/
structure Ledger (Publisher : Type) where
  registered : Finset String
  /-- The newest-timestamped callback of each receiver. -/
  newest : String → Option (Int × Flow)
  /-- The newest timestamp of a reconnecting callback. -/
  reconnecting : Option Int
  /-- The newest timestamp of a callback of the transport. -/
  transport : Option Int
  /-- The blocked publishers that were not reported available since. -/
  blocked : Finset (Option Publisher)
  terminal : Bool

namespace Ledger

def empty : Ledger Publisher where
  registered := ∅
  newest _ := none
  reconnecting := none
  transport := none
  blocked := ∅
  terminal := false

/-- A callback replaces the one that was newest, unless it is older. -/
def deliver (ledger : Ledger Publisher) (receiver : String) (time : Int)
    (flow : Flow) : Ledger Publisher :=
  match ledger.newest receiver with
  | some (newest, _) =>
      if time < newest then ledger
      else
        { ledger with
          newest := Function.update ledger.newest receiver (some (time, flow)) }
  | none =>
      { ledger with
        newest := Function.update ledger.newest receiver (some (time, flow)) }

/-- The newest of the timestamps so far and one more. -/
def newestOf : Option Int → Int → Int
  | some newest, time => max newest time
  | none, time => time

/-- The ledger after a call. -/
def enter (ledger : Ledger Publisher) : Call Publisher → Ledger Publisher
  | .receiverRegistered receiver =>
      { ledger with registered := insert receiver ledger.registered }
  | .receiverActive receiver (some time) =>
      ledger.deliver receiver time .active
  | .receiverPassive receiver (some time) =>
      ledger.deliver receiver time .passive
  | .publisherBlocked publisher =>
      { ledger with blocked := insert publisher ledger.blocked }
  | .publisherAvailable publisher =>
      { ledger with blocked := ledger.blocked.erase publisher }
  | .reconnecting (some time) =>
      { ledger with
        reconnecting := some (newestOf ledger.reconnecting time)
        transport := some (newestOf ledger.transport time) }
  | .reconnected (some time) =>
      { ledger with transport := some (newestOf ledger.transport time) }
  | .exhausted => { ledger with terminal := true }
  | .closed => { ledger with terminal := true }
  | _ => ledger

/-- A callback of the transport that is not older than the newest one. -/
def isInOrder (ledger : Ledger Publisher) : Option Int → Bool
  | none => true
  | some time =>
      match ledger.transport with
      | none => true
      | some newest => newest ≤ time

/--
The ledger of what counts: a connected transport starts anew, a registered
receiver starts anew, a receiver is heard from its registration on, and the
transport in the order of its timestamps.
-/
def enterCounted (ledger : Ledger Publisher) :
    Call Publisher → Ledger Publisher
  | .connected =>
      { ledger with
        newest := fun _ => none
        reconnecting := none
        transport := none }
  | .receiverRegistered receiver =>
      { ledger with
        registered := insert receiver ledger.registered
        newest := Function.update ledger.newest receiver none }
  | .receiverActive receiver time =>
      if receiver ∈ ledger.registered then
        ledger.enter (.receiverActive receiver time)
      else ledger
  | .receiverPassive receiver time =>
      if receiver ∈ ledger.registered then
        ledger.enter (.receiverPassive receiver time)
      else ledger
  | .reconnecting time =>
      if ledger.isInOrder time then ledger.enter (.reconnecting time)
      else ledger
  | .reconnected time =>
      if ledger.isInOrder time then ledger.enter (.reconnected time)
      else ledger
  | call => ledger.enter call

end Ledger

/-- The lifecycle after the calls. -/
def lifecycleAfter (calls : List (Call Publisher)) :
    BrokerLifecycle Publisher :=
  run BrokerLifecycle.apply BrokerLifecycle.new calls

/-- The ledger of the calls. -/
def ledgerOf (calls : List (Call Publisher)) : Ledger Publisher :=
  run Ledger.enter Ledger.empty calls

/-- The ledger of the calls that count. -/
def countedOf (calls : List (Call Publisher)) : Ledger Publisher :=
  run Ledger.enterCounted Ledger.empty calls

/-- The application's decision was made with a transport there, and nothing
has removed it since. -/
def MarkedSince (calls : List (Call Publisher)) : Prop :=
  ∃ before after, calls = before ++ .markReady :: after ∧
    ((lifecycleAfter before).state = .connected ∨
      (lifecycleAfter before).state = .recoveryPending) ∧
    Along BrokerLifecycle.apply
      (fun lifecycle call => lifecycle.removesReadiness call = false)
      (lifecycleAfter (before ++ [.markReady])) after

/-- The calls support readiness by what a ledger has of them. -/
structure Supports (ledger : Ledger Publisher)
    (calls : List (Call Publisher)) : Prop where
  alive : ledger.terminal = false
  marked : MarkedSince calls
  receivers : ∀ receiver ∈ ledger.registered,
    ∃ time, ledger.newest receiver = some (time, .active) ∧
      ∀ newest, ledger.reconnecting = some newest → newest ≤ time
  publishers : ledger.blocked = ∅

/-! ## Readiness and the application's decision -/

open BrokerLifecycle

theorem apply_terminal {lifecycle : BrokerLifecycle Publisher}
    (terminal : lifecycle.isTerminal = true) (call : Call Publisher) :
    (lifecycle.apply call).isTerminal = true ∧
      (lifecycle.apply call).isReady = false := by
  have states : lifecycle.state = .exhausted ∨ lifecycle.state = .closed := by
    simpa [isTerminal] using terminal
  have considered (receiver : String) (time : Option Int) :
      lifecycle.considers receiver time = false := by
    simp [considers, terminal]
  have unready : lifecycle.isReady = false := by
    rcases states with same | same <;> simp [isReady, same]
  cases call with
  | connected => simp [apply, terminal, unready]
  | markReady =>
      rcases states with same | same <;>
        simp [apply, same, isTerminal, isReady]
  | receiverRegistered receiver => simp [apply, terminal, unready]
  | receiverActive receiver time =>
      simp [apply, receiverActive, considered, terminal, unready]
  | receiverPassive receiver time =>
      simp [apply, receiverPassive, considered, terminal, unready]
  | publisherBlocked publisher => simp [apply, terminal, unready]
  | recoveryRequired => simp [apply, terminal, unready]
  | publisherAvailable publisher => simp [apply, terminal, unready]
  | reconnecting time => simp [apply, terminal, unready]
  | reconnected time => simp [apply, terminal, unready]
  | exhausted => simp [apply, isTerminal, isReady]
  | closed => simp [apply, isTerminal, isReady]

theorem alive_of_apply {lifecycle : BrokerLifecycle Publisher}
    {call : Call Publisher}
    (alive : (lifecycle.apply call).isTerminal = false) :
    lifecycle.isTerminal = false := by
  cases terminal : lifecycle.isTerminal with
  | false => rfl
  | true =>
      rw [(apply_terminal terminal call).1] at alive
      cases alive

/-- A terminal state is never left. -/
theorem run_terminal {lifecycle : BrokerLifecycle Publisher}
    (terminal : lifecycle.isTerminal = true) (calls : List (Call Publisher)) :
    (run apply lifecycle calls).isTerminal = true ∧
      (run apply lifecycle calls).isReady = false := by
  have unready : lifecycle.isReady = false := by
    have states : lifecycle.state = .exhausted ∨ lifecycle.state = .closed := by
      simpa [isTerminal] using terminal
    rcases states with same | same <;> simp [isReady, same]
  have keeps : ∀ (state : BrokerLifecycle Publisher) (call : Call Publisher),
      state.isTerminal = true ∧ state.isReady = false →
        (state.apply call).isTerminal = true ∧
          (state.apply call).isReady = false :=
    fun _ call holds => apply_terminal holds.1 call
  exact run_keeps_always keeps calls ⟨terminal, unready⟩

section Recording

omit [DecidableEq Publisher]

variable (lifecycle : BrokerLifecycle Publisher) (receiver : String)
  (time : Option Int)

@[simp]
theorem record_state :
    (lifecycle.recordReceiverEvent receiver time).state =
      lifecycle.state := by
  cases time <;> rfl

@[simp]
theorem record_applicationReady :
    (lifecycle.recordReceiverEvent receiver time).applicationReady =
      lifecycle.applicationReady := by
  cases time <;> rfl

@[simp]
theorem record_blockedPublishers :
    (lifecycle.recordReceiverEvent receiver time).blockedPublishers =
      lifecycle.blockedPublishers := by
  cases time <;> rfl

@[simp]
theorem record_registeredReceivers :
    (lifecycle.recordReceiverEvent receiver time).registeredReceivers =
      lifecycle.registeredReceivers := by
  cases time <;> rfl

@[simp]
theorem record_activeReceivers :
    (lifecycle.recordReceiverEvent receiver time).activeReceivers =
      lifecycle.activeReceivers := by
  cases time <;> rfl

@[simp]
theorem record_transportEventTime :
    (lifecycle.recordReceiverEvent receiver time).transportEventTime =
      lifecycle.transportEventTime := by
  cases time <;> rfl

@[simp]
theorem record_reconnectCutoff :
    (lifecycle.recordReceiverEvent receiver time).reconnectCutoff =
      lifecycle.reconnectCutoff := by
  cases time <;> rfl

@[simp]
theorem record_inRecoveryEpoch (other : Option Int) :
    (lifecycle.recordReceiverEvent receiver time).inRecoveryEpoch other =
      lifecycle.inRecoveryEpoch other := by
  cases time <;> rfl

/-- An active callback makes no decision and removes none. -/
theorem receiverActive_applicationReady
    (lifecycle : BrokerLifecycle Publisher) (receiver : String)
    (time : Option Int) :
    (lifecycle.receiverActive receiver time).applicationReady =
      lifecycle.applicationReady := by
  unfold receiverActive
  split
  · dsimp only
    split
    · split <;> exact record_applicationReady _ _ _
    · exact record_applicationReady _ _ _
  · rfl

end Recording

/-- The decision stands after a call that makes it or does not remove it. -/
theorem apply_applicationReady {lifecycle : BrokerLifecycle Publisher}
    {call : Call Publisher}
    (ready : (lifecycle.apply call).applicationReady = true) :
    (call = .markReady ∧
        (lifecycle.state = .connected ∨ lifecycle.state = .recoveryPending)) ∨
      (lifecycle.applicationReady = true ∧
        lifecycle.removesReadiness call = false) := by
  cases call with
  | markReady =>
      rw [apply] at ready
      split at ready
      · rename_i transport
        exact .inl ⟨rfl, by simpa using transport⟩
      · exact .inr ⟨ready, rfl⟩
  | receiverActive receiver time =>
      rw [apply, receiverActive_applicationReady] at ready
      exact .inr ⟨ready, rfl⟩
  | receiverPassive receiver time =>
      rw [apply, receiverPassive] at ready
      refine .inr ?_
      split at ready
      · dsimp only at ready
        split at ready
        · cases ready
        · rename_i stale
          rw [record_applicationReady] at ready
          rw [record_inRecoveryEpoch] at stale
          exact ⟨ready, by simp [removesReadiness, stale]⟩
      · rename_i ignored
        exact ⟨ready, by simp [removesReadiness, ignored]⟩
  | publisherAvailable publisher =>
      rw [apply] at ready
      split at ready <;> exact .inr ⟨ready, rfl⟩
  | reconnecting time =>
      rw [apply] at ready
      split at ready
      · cases ready
      · rename_i ignored
        exact .inr ⟨ready, by simpa [removesReadiness] using ignored⟩
  | reconnected time =>
      rw [apply] at ready
      split at ready
      · cases ready
      · rename_i ignored
        exact .inr ⟨ready, by simpa [removesReadiness] using ignored⟩
  | connected =>
      rw [apply] at ready
      split at ready
      · rename_i terminal
        exact .inr ⟨ready, by simp [removesReadiness, terminal]⟩
      · cases ready
  | receiverRegistered receiver =>
      rw [apply] at ready
      split at ready
      · rename_i terminal
        exact .inr ⟨ready, by simp [removesReadiness, terminal]⟩
      · cases ready
  | publisherBlocked publisher =>
      rw [apply] at ready
      split at ready
      · rename_i terminal
        exact .inr ⟨ready, by simp [removesReadiness, terminal]⟩
      · cases ready
  | recoveryRequired =>
      rw [apply] at ready
      split at ready
      · rename_i terminal
        exact .inr ⟨ready, by simp [removesReadiness, terminal]⟩
      · cases ready
  | exhausted => cases ready
  | closed => cases ready

theorem lifecycleAfter_append (before after : List (Call Publisher)) :
    lifecycleAfter (before ++ after) =
      run apply (lifecycleAfter before) after :=
  run_append apply _ _ _

/-- The decision is always one that was made since it was last removed. -/
theorem markedSince_of_applicationReady {calls : List (Call Publisher)}
    (ready : (lifecycleAfter calls).applicationReady = true) :
    MarkedSince calls := by
  induction calls using List.reverseRecOn with
  | nil => cases ready
  | append_singleton earlier call inductionHypothesis =>
      rw [lifecycleAfter_append, run_cons, run_nil] at ready
      rcases apply_applicationReady ready with
        ⟨rfl, transport⟩ | ⟨standing, kept⟩
      · exact ⟨earlier, [], rfl, transport, trivial⟩
      · rcases inductionHypothesis standing with
          ⟨before, after, rfl, transport, since⟩
        refine ⟨before, after ++ [call], by simp, transport, ?_⟩
        refine Along.append since ⟨?_, trivial⟩
        have state : run apply (lifecycleAfter (before ++ [.markReady])) after =
            lifecycleAfter (before ++ .markReady :: after) := by
          rw [← lifecycleAfter_append]
          simp
        rw [state]
        exact kept

/-! ## What the lifecycle keeps of the calls -/

/-- The lifecycle agrees with the ledger of what counts. -/
structure Tracks (ledger : Ledger Publisher)
    (lifecycle : BrokerLifecycle Publisher) : Prop where
  registered : lifecycle.registeredReceivers = ledger.registered
  times : ∀ receiver,
    lifecycle.receiverEventTimes receiver =
      (ledger.newest receiver).map Prod.fst
  active : ∀ receiver ∈ lifecycle.activeReceivers,
    ∃ time, ledger.newest receiver = some (time, .active) ∧
      ∀ cutoff, lifecycle.reconnectCutoff = some cutoff → cutoff ≤ time
  cutoff : lifecycle.reconnectCutoff = ledger.reconnecting
  transport : lifecycle.transportEventTime = ledger.transport
  before : ∀ cutoff, ledger.reconnecting = some cutoff →
    ∃ time, ledger.transport = some time ∧ cutoff ≤ time
  blocked : lifecycle.blockedPublishers = ledger.blocked
  alive : ledger.terminal = false

omit [DecidableEq Publisher] in
theorem deliver_cases (ledger : Ledger Publisher) (receiver : String)
    (time : Int) (flow : Flow) :
    ((∀ newest held, ledger.newest receiver = some (newest, held) →
        newest ≤ time) ∧
      ledger.deliver receiver time flow =
        { ledger with
          newest :=
            Function.update ledger.newest receiver (some (time, flow)) }) ∨
    ((∃ newest held, ledger.newest receiver = some (newest, held) ∧
        time < newest) ∧
      ledger.deliver receiver time flow = ledger) := by
  unfold Ledger.deliver
  cases found : ledger.newest receiver with
  | none => exact .inl ⟨by simp, rfl⟩
  | some callback =>
      dsimp only
      by_cases older : time < callback.1
      · exact .inr ⟨⟨callback.1, callback.2, rfl, older⟩, if_pos older⟩
      · refine .inl ⟨?_, if_neg older⟩
        rintro newest held same
        cases same
        exact not_lt.1 older

section Callback

variable {ledger : Ledger Publisher} {lifecycle : BrokerLifecycle Publisher}
  {receiver : String} {time : Int}

omit [DecidableEq Publisher]

theorem Tracks.accepts_of_fresh (tracks : Tracks ledger lifecycle)
    (fresh : ∀ newest held, ledger.newest receiver = some (newest, held) →
      newest ≤ time) :
    lifecycle.acceptsReceiverEvent receiver (some time) = true := by
  unfold acceptsReceiverEvent
  have times := tracks.times receiver
  cases found : ledger.newest receiver with
  | none =>
      rw [found] at times
      simp [times]
  | some callback =>
      rw [found] at times
      simp only [Option.map_some] at times
      simp [times, fresh callback.1 callback.2 found]

theorem Tracks.rejects_of_older (tracks : Tracks ledger lifecycle)
    {newest : Int} {held : Flow}
    (found : ledger.newest receiver = some (newest, held))
    (older : time < newest) :
    lifecycle.acceptsReceiverEvent receiver (some time) = false := by
  have times := tracks.times receiver
  rw [found] at times
  simp only [Option.map_some] at times
  simp [acceptsReceiverEvent, times, older]

/-- An accepted callback of a receiver whose activity is of the epoch is of
the epoch. -/
theorem Tracks.inRecoveryEpoch (tracks : Tracks ledger lifecycle)
    (fresh : ∀ newest held, ledger.newest receiver = some (newest, held) →
      newest ≤ time)
    (active : receiver ∈ lifecycle.activeReceivers) :
    lifecycle.inRecoveryEpoch (some time) = true := by
  rcases tracks.active receiver active with ⟨held, found, since⟩
  have later := fresh _ _ found
  unfold BrokerLifecycle.inRecoveryEpoch
  cases limit : lifecycle.reconnectCutoff with
  | none => rfl
  | some cutoff =>
      have before := since cutoff limit
      simpa using before.trans later

/-- An accepted callback replaces the newest one of its receiver. -/
theorem Tracks.deliver (tracks : Tracks ledger lifecycle)
    {next : BrokerLifecycle Publisher} {flow : Flow}
    (registered : next.registeredReceivers = lifecycle.registeredReceivers)
    (times : next.receiverEventTimes =
      Function.update lifecycle.receiverEventTimes receiver (some time))
    (cutoff : next.reconnectCutoff = lifecycle.reconnectCutoff)
    (transport : next.transportEventTime = lifecycle.transportEventTime)
    (blocked : next.blockedPublishers = lifecycle.blockedPublishers)
    (active : ∀ other ∈ next.activeReceivers,
      (other = receiver ∧ flow = .active ∧
        lifecycle.inRecoveryEpoch (some time) = true) ∨
      (other ≠ receiver ∧ other ∈ lifecycle.activeReceivers)) :
    Tracks
      { ledger with
        newest := Function.update ledger.newest receiver (some (time, flow)) }
      next where
  registered := registered.trans tracks.registered
  times other := by
    dsimp only
    rw [times]
    by_cases same : other = receiver
    · rw [same, Function.update_self, Function.update_self]
      rfl
    · rw [Function.update_of_ne same, Function.update_of_ne same]
      exact tracks.times other
  active other inside := by
    rcases active other inside with ⟨rfl, rfl, epoch⟩ | ⟨different, held⟩
    · refine ⟨time, Function.update_self .., fun limit found => ?_⟩
      rw [cutoff] at found
      simpa [BrokerLifecycle.inRecoveryEpoch, found] using epoch
    · rcases tracks.active other held with ⟨newest, found, since⟩
      refine ⟨newest, ?_, fun limit held => since limit (cutoff ▸ held)⟩
      exact (Function.update_of_ne different ..).trans found
  cutoff := cutoff.trans tracks.cutoff
  transport := transport.trans tracks.transport
  before := tracks.before
  blocked := blocked.trans tracks.blocked
  alive := tracks.alive

/-- What an accepted active callback leaves, in the epoch or not. -/
theorem receiverActive_of_considers
    (considered : lifecycle.considers receiver (some time) = true) :
    ∃ state active,
      lifecycle.receiverActive receiver (some time) =
        { lifecycle with
          state := state
          activeReceivers := active
          receiverEventTimes :=
            Function.update lifecycle.receiverEventTimes receiver
              (some time) } ∧
      active =
        if lifecycle.inRecoveryEpoch (some time) then
          insert receiver lifecycle.activeReceivers
        else lifecycle.activeReceivers := by
  unfold receiverActive
  rw [if_pos considered]
  dsimp only
  rw [record_inRecoveryEpoch]
  by_cases epoch : lifecycle.inRecoveryEpoch (some time) = true
  · rw [if_pos epoch, if_pos epoch]
    split
    · exact ⟨_, _, rfl, rfl⟩
    · exact ⟨_, _, rfl, rfl⟩
  · rw [if_neg epoch, if_neg epoch]
    exact ⟨_, _, rfl, rfl⟩

/-- What an accepted passive callback leaves, in the epoch or not. -/
theorem receiverPassive_of_considers
    (considered : lifecycle.considers receiver (some time) = true) :
    ∃ state ready active,
      lifecycle.receiverPassive receiver (some time) =
        { lifecycle with
          state := state
          applicationReady := ready
          activeReceivers := active
          receiverEventTimes :=
            Function.update lifecycle.receiverEventTimes receiver
              (some time) } ∧
      active =
        if lifecycle.inRecoveryEpoch (some time) then
          lifecycle.activeReceivers.erase receiver
        else lifecycle.activeReceivers := by
  unfold receiverPassive
  rw [if_pos considered]
  dsimp only
  rw [record_inRecoveryEpoch]
  by_cases epoch : lifecycle.inRecoveryEpoch (some time) = true
  · rw [if_pos epoch, if_pos epoch]
    exact ⟨_, _, _, rfl, rfl⟩
  · rw [if_neg epoch, if_neg epoch]
    exact ⟨_, _, _, rfl, rfl⟩

theorem considers_of_fresh (tracks : Tracks ledger lifecycle)
    (alive : lifecycle.isTerminal = false)
    (registered : receiver ∈ lifecycle.registeredReceivers)
    (fresh : ∀ newest held, ledger.newest receiver = some (newest, held) →
      newest ≤ time) :
    lifecycle.considers receiver (some time) = true := by
  simp [considers, alive, registered, tracks.accepts_of_fresh fresh]

theorem considers_of_older (tracks : Tracks ledger lifecycle)
    {newest : Int} {held : Flow}
    (found : ledger.newest receiver = some (newest, held))
    (older : time < newest) :
    lifecycle.considers receiver (some time) = false := by
  simp [considers, tracks.rejects_of_older found older]

theorem receiverActive_tracks (tracks : Tracks ledger lifecycle)
    (alive : lifecycle.isTerminal = false)
    (registered : receiver ∈ lifecycle.registeredReceivers) :
    Tracks (ledger.deliver receiver time .active)
      (lifecycle.receiverActive receiver (some time)) := by
  rcases deliver_cases ledger receiver time .active with
    ⟨fresh, entered⟩ | ⟨⟨newest, held, found, older⟩, entered⟩
  · have considered := considers_of_fresh tracks alive registered fresh
    rcases receiverActive_of_considers considered with
      ⟨state, active, next, actives⟩
    rw [entered, next]
    refine tracks.deliver rfl rfl rfl rfl rfl fun other inside => ?_
    dsimp only at inside
    by_cases same : other = receiver
    · refine .inl ⟨same, rfl, ?_⟩
      by_contra outside
      rw [actives, if_neg outside, same] at inside
      exact outside (tracks.inRecoveryEpoch fresh inside)
    · refine .inr ⟨same, ?_⟩
      rw [actives] at inside
      split at inside
      · exact (Finset.mem_insert.1 inside).resolve_left same
      · exact inside
  · have ignored := considers_of_older tracks found older
    rw [entered, receiverActive, ignored]
    exact tracks

theorem receiverPassive_tracks (tracks : Tracks ledger lifecycle)
    (alive : lifecycle.isTerminal = false)
    (registered : receiver ∈ lifecycle.registeredReceivers) :
    Tracks (ledger.deliver receiver time .passive)
      (lifecycle.receiverPassive receiver (some time)) := by
  rcases deliver_cases ledger receiver time .passive with
    ⟨fresh, entered⟩ | ⟨⟨newest, held, found, older⟩, entered⟩
  · have considered := considers_of_fresh tracks alive registered fresh
    rcases receiverPassive_of_considers considered with
      ⟨state, ready, active, next, actives⟩
    rw [entered, next]
    refine tracks.deliver rfl rfl rfl rfl rfl fun other inside => .inr ?_
    dsimp only at inside
    by_cases epoch : lifecycle.inRecoveryEpoch (some time) = true
    · rw [actives, if_pos epoch] at inside
      exact Finset.mem_erase.1 inside
    · rw [actives, if_neg epoch] at inside
      refine ⟨?_, inside⟩
      rintro rfl
      exact epoch (tracks.inRecoveryEpoch fresh inside)
  · have ignored := considers_of_older tracks found older
    rw [entered, receiverPassive, ignored]
    exact tracks

end Callback

section Transport

variable {ledger : Ledger Publisher} {lifecycle : BrokerLifecycle Publisher}
  {time : Int}

omit [DecidableEq Publisher] in
/-- A call that changes the decision and the state alone. -/
theorem Tracks.of_same (tracks : Tracks ledger lifecycle)
    {next : BrokerLifecycle Publisher}
    (registered : next.registeredReceivers = lifecycle.registeredReceivers)
    (times : next.receiverEventTimes = lifecycle.receiverEventTimes)
    (cutoff : next.reconnectCutoff = lifecycle.reconnectCutoff)
    (transport : next.transportEventTime = lifecycle.transportEventTime)
    (blocked : next.blockedPublishers = lifecycle.blockedPublishers)
    (active : next.activeReceivers = lifecycle.activeReceivers) :
    Tracks ledger next where
  registered := registered.trans tracks.registered
  times receiver := by
    rw [times]
    exact tracks.times receiver
  active receiver inside := by
    rw [cutoff]
    exact tracks.active receiver (active ▸ inside)
  cutoff := cutoff.trans tracks.cutoff
  transport := transport.trans tracks.transport
  before := tracks.before
  blocked := blocked.trans tracks.blocked
  alive := tracks.alive

theorem connected_tracks (tracks : Tracks ledger lifecycle) :
    Tracks (ledger.enterCounted .connected)
      { lifecycle with
        state := .connected
        applicationReady := false
        activeReceivers := ∅
        receiverEventTimes := fun _ => none
        transportEventTime := none
        reconnectCutoff := none } where
  registered := tracks.registered
  times _ := rfl
  active receiver inside := absurd inside (Finset.notMem_empty receiver)
  cutoff := rfl
  transport := rfl
  before _ found := by cases found
  blocked := tracks.blocked
  alive := tracks.alive

theorem receiverRegistered_tracks (tracks : Tracks ledger lifecycle)
    (receiver : String) :
    Tracks (ledger.enterCounted (.receiverRegistered receiver))
      { lifecycle with
        registeredReceivers := insert receiver lifecycle.registeredReceivers
        activeReceivers := lifecycle.activeReceivers.erase receiver
        receiverEventTimes :=
          Function.update lifecycle.receiverEventTimes receiver none
        applicationReady := false } where
  registered := congrArg (insert receiver) tracks.registered
  times other := by
    dsimp only [Ledger.enterCounted]
    by_cases same : other = receiver
    · rw [same, Function.update_self, Function.update_self]
      rfl
    · rw [Function.update_of_ne same, Function.update_of_ne same]
      exact tracks.times other
  active other inside := by
    rcases Finset.mem_erase.1 inside with ⟨different, held⟩
    rcases tracks.active other held with ⟨newest, found, since⟩
    refine ⟨newest, ?_, since⟩
    exact (Function.update_of_ne different ..).trans found
  cutoff := tracks.cutoff
  transport := tracks.transport
  before := tracks.before
  blocked := tracks.blocked
  alive := tracks.alive

omit [DecidableEq Publisher] in
theorem Tracks.isInOrder (tracks : Tracks ledger lifecycle)
    (time : Option Int) :
    ledger.isInOrder time = lifecycle.acceptsTransportEvent time := by
  cases time with
  | none => rfl
  | some time =>
      rw [Ledger.isInOrder, acceptsTransportEvent, tracks.transport]

omit [DecidableEq Publisher] in
/-- A callback in order is the newest of the transport. -/
theorem newestOf_transport (inOrder : ledger.isInOrder (some time) = true) :
    Ledger.newestOf ledger.transport time = time := by
  cases known : ledger.transport with
  | none => rfl
  | some newest =>
      have order : newest ≤ time := by
        simpa [Ledger.isInOrder, known] using inOrder
      exact max_eq_right order

omit [DecidableEq Publisher] in
/-- A reconnecting callback in order is the newest of its kind. -/
theorem newestOf_reconnecting (tracks : Tracks ledger lifecycle)
    (inOrder : ledger.isInOrder (some time) = true) :
    Ledger.newestOf ledger.reconnecting time = time := by
  cases known : ledger.reconnecting with
  | none => rfl
  | some newest =>
      rcases tracks.before newest known with ⟨previous, transport, before⟩
      have order : previous ≤ time := by
        simpa [Ledger.isInOrder, transport] using inOrder
      exact max_eq_right (before.trans order)

/-- A reconnecting callback in order opens an epoch. -/
theorem reconnecting_tracks (tracks : Tracks ledger lifecycle)
    (inOrder : ledger.isInOrder (some time) = true) :
    Tracks (ledger.enter (.reconnecting (some time)))
      { lifecycle with
        transportEventTime := some time
        state := .recovering
        applicationReady := false
        reconnectCutoff := some time
        activeReceivers := lifecycle.activeSince (some time) } where
  registered := tracks.registered
  times := tracks.times
  active receiver inside := by
    rcases Finset.mem_filter.1 inside with ⟨held, since⟩
    rcases tracks.active receiver held with ⟨newest, found, _⟩
    refine ⟨newest, found, ?_⟩
    rintro _ ⟨⟩
    have times := tracks.times receiver
    rw [found, Option.map_some] at times
    simpa [times, isSince] using since
  cutoff := congrArg some (newestOf_reconnecting tracks inOrder).symm
  transport := congrArg some (newestOf_transport inOrder).symm
  before cutoff found := by
    rw [Ledger.enter, newestOf_reconnecting tracks inOrder] at found
    cases found
    exact ⟨_, rfl, (newestOf_transport inOrder).ge⟩
  blocked := tracks.blocked
  alive := tracks.alive

theorem reconnected_tracks (tracks : Tracks ledger lifecycle)
    (inOrder : ledger.isInOrder (some time) = true) :
    Tracks (ledger.enter (.reconnected (some time)))
      { lifecycle with
        transportEventTime := some time
        state := .recoveryPending
        applicationReady := false } where
  registered := tracks.registered
  times := tracks.times
  active := tracks.active
  cutoff := tracks.cutoff
  transport := congrArg some (newestOf_transport inOrder).symm
  before cutoff found := by
    have newest := newestOf_reconnecting tracks inOrder
    have known : ledger.reconnecting = some cutoff := found
    rw [known] at newest
    exact ⟨_, rfl, (max_eq_right_iff.1 newest).trans
      (newestOf_transport inOrder).ge⟩
  blocked := tracks.blocked
  alive := tracks.alive

end Transport

/-- A call with its timestamp keeps the lifecycle in agreement with the
ledger. -/
theorem apply_tracks {ledger : Ledger Publisher}
    {lifecycle : BrokerLifecycle Publisher} {call : Call Publisher}
    (tracks : Tracks ledger lifecycle)
    (timestamped : call.isTimestamped = true)
    (alive : (lifecycle.apply call).isTerminal = false) :
    Tracks (ledger.enterCounted call) (lifecycle.apply call) := by
  have before := alive_of_apply alive
  cases call with
  | connected =>
      simpa only [apply, before, Bool.false_eq_true, if_false]
        using connected_tracks tracks
  | markReady =>
      rw [apply]
      split
      · exact tracks.of_same rfl rfl rfl rfl rfl rfl
      · exact tracks
  | receiverRegistered receiver =>
      simpa only [apply, before, Bool.false_eq_true, if_false]
        using receiverRegistered_tracks tracks receiver
  | receiverActive receiver time =>
      rcases Option.isSome_iff_exists.1 timestamped with ⟨time, rfl⟩
      rw [apply, Ledger.enterCounted, ← tracks.registered]
      split
      · exact receiverActive_tracks tracks before ‹_›
      · rename_i unregistered
        have ignored : lifecycle.considers receiver (some time) = false := by
          simp [considers, unregistered]
        rw [receiverActive, ignored]
        exact tracks
  | receiverPassive receiver time =>
      rcases Option.isSome_iff_exists.1 timestamped with ⟨time, rfl⟩
      rw [apply, Ledger.enterCounted, ← tracks.registered]
      split
      · exact receiverPassive_tracks tracks before ‹_›
      · rename_i unregistered
        have ignored : lifecycle.considers receiver (some time) = false := by
          simp [considers, unregistered]
        rw [receiverPassive, ignored]
        exact tracks
  | publisherBlocked publisher =>
      simp only [apply, before, Bool.false_eq_true, if_false]
      have kept := tracks.blocked
      exact
        { tracks with
          blocked := congrArg (insert publisher) kept }
  | recoveryRequired =>
      simp only [apply, before, Bool.false_eq_true, if_false]
      exact tracks.of_same rfl rfl rfl rfl rfl rfl
  | publisherAvailable publisher =>
      simp only [apply, before, Bool.false_eq_true, if_false]
      have kept := tracks.blocked
      exact
        { tracks with
          blocked := congrArg (fun held => held.erase publisher) kept }
  | reconnecting time =>
      rcases Option.isSome_iff_exists.1 timestamped with ⟨time, rfl⟩
      rw [apply, Ledger.enterCounted, ← tracks.isInOrder]
      by_cases inOrder : ledger.isInOrder (some time) = true
      · rw [if_pos inOrder, if_pos (by simp [before, inOrder])]
        exact reconnecting_tracks tracks inOrder
      · rw [if_neg inOrder, if_neg (by simp [inOrder])]
        exact tracks
  | reconnected time =>
      rcases Option.isSome_iff_exists.1 timestamped with ⟨time, rfl⟩
      rw [apply, Ledger.enterCounted, ← tracks.isInOrder]
      by_cases inOrder : ledger.isInOrder (some time) = true
      · rw [if_pos inOrder, if_pos (by simp [before, inOrder])]
        exact reconnected_tracks tracks inOrder
      · rw [if_neg inOrder, if_neg (by simp [inOrder])]
        exact tracks
  | exhausted => cases alive
  | closed => cases alive

theorem countedOf_append (before after : List (Call Publisher)) :
    countedOf (before ++ after) =
      run Ledger.enterCounted (countedOf before) after :=
  run_append Ledger.enterCounted _ _ _

omit [DecidableEq Publisher] in
theorem new_tracks :
    Tracks (Ledger.empty : Ledger Publisher) BrokerLifecycle.new where
  registered := rfl
  times _ := rfl
  active receiver inside := absurd inside (Finset.notMem_empty receiver)
  cutoff := rfl
  transport := rfl
  before _ found := by cases found
  blocked := rfl
  alive := rfl

/-- Until a terminal call the lifecycle agrees with the ledger of its
calls. -/
theorem lifecycleAfter_tracks {calls : List (Call Publisher)}
    (timestamped : ∀ call ∈ calls, call.isTimestamped = true)
    (alive : (lifecycleAfter calls).isTerminal = false) :
    Tracks (countedOf calls) (lifecycleAfter calls) := by
  induction calls using List.reverseRecOn with
  | nil => exact new_tracks
  | append_singleton earlier call inductionHypothesis =>
      have last := timestamped call (by simp)
      have ordered : ∀ call ∈ earlier, call.isTimestamped = true :=
        fun other member => timestamped other (by simp [member])
      rw [lifecycleAfter_append, run_cons, run_nil] at alive ⊢
      rw [countedOf_append, run_cons, run_nil]
      have tracks := inductionHypothesis ordered (alive_of_apply alive)
      exact apply_tracks tracks last alive

theorem not_terminal_of_ready {lifecycle : BrokerLifecycle Publisher}
    (ready : lifecycle.isReady = true) : lifecycle.isTerminal = false := by
  have connected : lifecycle.state = .connected := by
    simp only [isReady, Bool.and_eq_true, decide_eq_true_eq] at ready
    exact ready.1.1.1
  simp [isTerminal, connected]

/-- What readiness says of the lifecycle itself, the ledger says of the
calls. -/
theorem supports_of_ready {calls : List (Call Publisher)}
    (timestamped : ∀ call ∈ calls, call.isTimestamped = true)
    (ready : (lifecycleAfter calls).isReady = true) :
    Supports (countedOf calls) calls := by
  have tracks := lifecycleAfter_tracks timestamped (not_terminal_of_ready ready)
  simp only [isReady, allReceiversActive, Bool.and_eq_true,
    decide_eq_true_eq] at ready
  rcases ready with ⟨⟨⟨_, marked⟩, unblocked⟩, active⟩
  refine ⟨tracks.alive, markedSince_of_applicationReady marked, ?_, ?_⟩
  · intro receiver registered
    rw [← tracks.registered] at registered
    rw [← tracks.cutoff]
    exact tracks.active receiver (active registered)
  · rw [← tracks.blocked]
    exact unblocked

/--
Readiness is honest in every delivery order: it rests on a decision that
nothing removed since, on receivers whose newest callback that counts is
active and not older than the newest reconnecting callback that counts, and on
publishers that are all available.  A terminal state is never left.
-/
theorem readiness_honest (calls : List (Call Publisher))
    (timestamped : ∀ call ∈ calls, call.isTimestamped = true) :
    ((lifecycleAfter calls).isReady = true →
      Supports (countedOf calls) calls) ∧
    ((lifecycleAfter calls).isTerminal = true → ∀ later,
      (lifecycleAfter (calls ++ later)).isTerminal = true ∧
        (lifecycleAfter (calls ++ later)).isReady = false) := by
  refine ⟨supports_of_ready timestamped, fun terminal later => ?_⟩
  rw [lifecycleAfter_append]
  exact run_terminal terminal later

/-- A receiver that became active after the transport was lost. -/
def recovered : List (Call String) :=
  [.connected, .receiverRegistered "telemetry",
    .receiverActive "telemetry" (some 5), .markReady,
    .reconnecting (some 10), .reconnected (some 20),
    .receiverActive "telemetry" (some 25), .markReady]

theorem readiness_honest_recovered :
    Supports (countedOf recovered) recovered ∧
      ∀ later,
        (lifecycleAfter ((recovered ++ [.exhausted]) ++ later)).isTerminal =
            true ∧
          (lifecycleAfter ((recovered ++ [.exhausted]) ++ later)).isReady =
            false :=
  ⟨(readiness_honest recovered (by decide)).1 (by decide),
    (readiness_honest (recovered ++ [.exhausted]) (by decide)).2
      (by decide)⟩

/-- A passive callback that came before its receiver was registered. -/
def earlyPassive : List (Call String) :=
  [.connected, .receiverPassive "telemetry" (some 10),
    .receiverRegistered "telemetry", .receiverActive "telemetry" (some 5),
    .markReady]

/-- A transport that connects once more after it was lost. -/
def connectedAgain : List (Call String) :=
  [.connected, .receiverRegistered "telemetry", .reconnecting (some 10),
    .connected, .receiverActive "telemetry" (some 5), .markReady]

/-- A reconnecting callback that came after the reconnected one. -/
def lateReconnecting : List (Call String) :=
  [.connected, .receiverRegistered "telemetry",
    .receiverActive "telemetry" (some 5), .reconnected (some 20),
    .reconnecting (some 10), .markReady]

/-- Not every callback that was delivered counts. -/
theorem deliveredCallbacks_unsupported :
    ((lifecycleAfter earlyPassive).isReady = true ∧
      ¬Supports (ledgerOf earlyPassive) earlyPassive) ∧
    ((lifecycleAfter connectedAgain).isReady = true ∧
      ¬Supports (ledgerOf connectedAgain) connectedAgain) ∧
    ((lifecycleAfter lateReconnecting).isReady = true ∧
      ¬Supports (ledgerOf lateReconnecting) lateReconnecting) := by
  refine ⟨⟨by decide, fun supports => ?_⟩,
    ⟨by decide, fun supports => ?_⟩,
    ⟨by decide, fun supports => ?_⟩⟩
  · rcases supports.receivers "telemetry" (by decide) with
      ⟨time, found, _⟩
    have passive : (ledgerOf earlyPassive).newest "telemetry" =
        some (10, .passive) := by decide
    rw [passive] at found
    cases found
  · rcases supports.receivers "telemetry" (by decide) with
      ⟨time, found, since⟩
    have active : (ledgerOf connectedAgain).newest "telemetry" =
        some (5, .active) := by decide
    rw [active] at found
    cases found
    exact absurd (since 10 (by decide)) (by decide)
  · rcases supports.receivers "telemetry" (by decide) with
      ⟨time, found, since⟩
    have active : (ledgerOf lateReconnecting).newest "telemetry" =
        some (5, .active) := by decide
    rw [active] at found
    cases found
    exact absurd (since 10 (by decide)) (by decide)

end AerialRescue.Broker.Lifecycle
