import AerialRescue.Dashboard.FrameDelivery
import Mathlib.Logic.Function.Basic

/-!
# Stream registrations

The finite set of registrations that bounds concurrent streams, and the
streams that hold them.  A registration is given back by the cleanup of the
response body or by a failed `open`.  A body that is dropped before its first
iteration has no cleanup, and a cleanup that waits for a failed producer does
not reach its end, so both leave a registration behind.  In a run without
either, the registrations are the streams that can still deliver.
-/

namespace AerialRescue.Dashboard

open AerialRescue.Lib.Run
open AerialRescue.Contracts.View

/-! ## The registry and its streams -/

/-- `StreamRegistry`: the tokens of the registered clients, oldest first. -/
structure StreamRegistry where
  maximum : Nat
  next : Nat
  clients : List Nat

/-- `StreamRegistry.acquire`, refused at the limit. -/
def StreamRegistry.acquire (registry : StreamRegistry) :
    Except ErrorCode (Nat × StreamRegistry) :=
  if registry.maximum ≤ registry.clients.length then
    .error .sseCapacityExceeded
  else
    .ok
      (registry.next + 1,
        { registry with
          next := registry.next + 1
          clients := registry.clients ++ [registry.next + 1] })

/-- `StreamRegistry.release` -/
def StreamRegistry.release (registry : StreamRegistry) (token : Nat) :
    StreamRegistry :=
  { registry with
    clients := registry.clients.filter fun held => held ≠ token }

/-- What a token stands for. -/
inductive Slot where
  | unused
  /-- `EventStreamer.open` holds the token and has not returned. -/
  | opening
  /-- `open` raised. -/
  | refused
  | stream (runIdentity : String) (state : Stream)

/-- A stream that can still yield something. -/
def Slot.isLive : Slot → Bool
  | .unused => false
  | .opening => true
  | .refused => false
  | .stream _ state => state.body ≠ .left

/-- The registry with everything that was opened under it. -/
structure Streamer where
  registry : StreamRegistry
  slots : Nat → Slot

/-- What can happen to the streams of one process. -/
inductive StreamerAction where
  /-- `open` takes a registration. -/
  | acquire
  /-- `open` raises, or its request is cancelled, after it registered. -/
  | openRaises (token : Nat)
  /-- `open` returns a handle. -/
  | openReturns (token : Nat) (runIdentity : String)
      (checkpoint : ReducerCheckpoint) (buffer : ClientBuffer)
  /-- A task of one stream takes an action. -/
  | act (token : Nat) (action : StreamAction)

/-- The streams with the slot of one token replaced. -/
def Streamer.withSlot (streamer : Streamer) (token : Nat) (slot : Slot) :
    Streamer :=
  { streamer with slots := Function.update streamer.slots token slot }

/-- The streams with one registration given back. -/
def Streamer.release (streamer : Streamer) (token : Nat) : Streamer :=
  { streamer with registry := streamer.registry.release token }

/-- One action. -/
def Streamer.step (boundary : Boundary) (streamer : Streamer) :
    StreamerAction → Streamer
  | .acquire =>
      match streamer.registry.acquire with
      | .error _ => streamer
      | .ok (token, registry) =>
          ({ streamer with registry } : Streamer).withSlot token .opening
  | .openRaises token =>
      match streamer.slots token with
      | .opening => (streamer.withSlot token .refused).release token
      | _ => streamer
  | .openReturns token runIdentity checkpoint buffer =>
      match streamer.slots token with
      | .opening =>
          streamer.withSlot token
            (.stream runIdentity (Stream.opened checkpoint buffer))
      | _ => streamer
  | .act token action =>
      match streamer.slots token with
      | .stream runIdentity state =>
          match state.step boundary runIdentity action with
          | (next, released) =>
              let moved := streamer.withSlot token (.stream runIdentity next)
              if released then moved.release token else moved
      | _ => streamer

/-- A process that has not opened any stream. -/
def Streamer.initial (maximum : Nat) : Streamer where
  registry := ⟨maximum, 0, []⟩
  slots := fun _ => .unused

/-- The tokens of the streams that can still deliver, oldest first. -/
def Streamer.liveTokens (streamer : Streamer) : List Nat :=
  (List.range' 1 streamer.registry.next).filter fun token =>
    (streamer.slots token).isLive

/-! ## The condition -/

/-- Whether an action ends the loop of a body that is being iterated. -/
def Stream.endsBody (stream : Stream) : StreamAction → Bool
  | .consume _ => (stream.buffer.pop.1.map BufferedEvent.terminal) = some true
  | .timeout _ => stream.producer.isDone || stream.buffer.closed
  | .disconnect _ => true
  | _ => false

/-- How the producer would end if the action made the body await it. -/
def StreamAction.cleanup : StreamAction → ProducerEnd
  | .consume cleanup => cleanup
  | .timeout cleanup => cleanup
  | .disconnect cleanup => cleanup
  | _ => .cancelled

/--
The condition on one action: no client leaves before its body was iterated,
and no body ends on a producer that ended by an exception.
-/
def CleansUp (streamer : Streamer) : StreamerAction → Prop
  | .act token action =>
      ∀ runIdentity stream,
        streamer.slots token = .stream runIdentity stream →
          (stream.body = .unstarted →
            ∀ cleanup, action ≠ .disconnect cleanup) ∧
          (stream.body = .iterating →
            stream.endsBody action = true →
              stream.producer.awaited action.cleanup ≠ .raised)
  | _ => True

/-! ## One action -/

theorem Stream.finish_released {stream : Stream} {cleanup : ProducerEnd}
    (ending : stream.producer.awaited cleanup ≠ .raised) :
    (stream.finish cleanup).2 = true ∧
      (stream.finish cleanup).1.body = .left := by
  unfold Stream.finish
  simp only [if_neg ending]
  exact ⟨trivial, trivial⟩

/-- A stream action releases exactly when it ends the body. -/
theorem Stream.step_released {boundary : Boundary} {runIdentity : String}
    {stream : Stream} {action : StreamAction}
    (started :
      stream.body = .unstarted → ∀ cleanup, action ≠ .disconnect cleanup)
    (ending :
      stream.body = .iterating → stream.endsBody action = true →
        stream.producer.awaited action.cleanup ≠ .raised) :
    ((stream.step boundary runIdentity action).2 = true ∧
        stream.body = .iterating ∧
        (stream.step boundary runIdentity action).1.body = .left) ∨
      ((stream.step boundary runIdentity action).2 = false ∧
        ((stream.step boundary runIdentity action).1.body = .left ↔
          stream.body = .left)) := by
  cases action with
  | start =>
      refine .inr ⟨rfl, ?_⟩
      show stream.start.body = .left ↔ stream.body = .left
      unfold Stream.start
      cases body : stream.body with
      | unstarted => cases stream.producer <;> simp
      | iterating => simp [body]
      | left => simp [body]
  | produce stored =>
      refine .inr ⟨rfl, ?_⟩
      show (stream.produce boundary runIdentity stored).body = .left ↔ _
      unfold Stream.produce
      cases stream.producer with
      | waiting checkpoint => exact Iff.rfl
      | done ended => exact Iff.rfl
      | running checkpoint =>
          simp only
          cases foldFrame boundary runIdentity checkpoint stored <;>
            exact Iff.rfl
  | poll =>
      refine .inr ⟨rfl, ?_⟩
      show stream.poll.body = .left ↔ _
      unfold Stream.poll
      cases stream.producer with
      | running checkpoint =>
          simp only
          split_ifs <;> exact Iff.rfl
      | waiting checkpoint => exact Iff.rfl
      | done ended => exact Iff.rfl
  | fail =>
      refine .inr ⟨rfl, ?_⟩
      show stream.fail.body = .left ↔ _
      unfold Stream.fail
      cases stream.producer <;> exact Iff.rfl
  | consume cleanup =>
      simp only [Stream.step]
      cases body : stream.body with
      | unstarted => exact .inr ⟨rfl, by simp [body]⟩
      | left => exact .inr ⟨rfl, by simp [body]⟩
      | iterating =>
          simp only [Stream.consume]
          rcases popped : stream.buffer.pop with ⟨event, buffer⟩
          cases event with
          | none => exact .inr ⟨rfl, by simp [body]⟩
          | some event =>
              cases terminal : event.terminal with
              | false =>
                  exact .inr ⟨by simp [terminal], by simp [terminal, body]⟩
              | true =>
                  have safe := ending body (by
                    simp [Stream.endsBody, popped, terminal])
                  let taken : Stream :=
                    { stream with
                      buffer
                      delivered := stream.delivered ++ [event] }
                  have finished :
                      (taken.finish cleanup).2 = true ∧
                        (taken.finish cleanup).1.body = .left :=
                    Stream.finish_released safe
                  simp only [terminal, if_true]
                  exact .inl ⟨finished.1, trivial, finished.2⟩
  | timeout cleanup =>
      simp only [Stream.step]
      cases body : stream.body with
      | unstarted => exact .inr ⟨rfl, by simp [body]⟩
      | left => exact .inr ⟨rfl, by simp [body]⟩
      | iterating =>
          simp only [Stream.timeout]
          split_ifs with overdue
          · have finished :=
              Stream.finish_released (ending body overdue)
            exact .inl ⟨finished.1, trivial, finished.2⟩
          · exact .inr ⟨rfl, by simp [body]⟩
  | disconnect cleanup =>
      simp only [Stream.step, Stream.disconnect]
      cases body : stream.body with
      | unstarted => exact absurd rfl (started body cleanup)
      | left => exact .inr ⟨rfl, by simp [body]⟩
      | iterating =>
          have finished := Stream.finish_released (ending body rfl)
          exact .inl ⟨finished.1, rfl, finished.2⟩

/-! ## Whole runs -/

/-- The registrations are the live streams, and later tokens are unused. -/
structure Registered (streamer : Streamer) : Prop where
  clients : streamer.registry.clients = streamer.liveTokens
  fresh :
    ∀ token, streamer.registry.next < token →
      streamer.slots token = .unused
  positive : streamer.slots 0 = .unused

/-- Only an issued token has something in its slot. -/
theorem Registered.issued {streamer : Streamer}
    (registered : Registered streamer) {token : Nat}
    (used : streamer.slots token ≠ .unused) :
    1 ≤ token ∧ token ≤ streamer.registry.next := by
  constructor
  · by_contra zero
    have nothing : token = 0 := by omega
    subst nothing
    exact used registered.positive
  · by_contra later
    exact used (registered.fresh token (by omega))

/-- Replacing a slot by one that is as live keeps the registrations. -/
theorem Registered.withSlot {streamer : Streamer}
    (registered : Registered streamer) {token : Nat} {slot : Slot}
    (used : streamer.slots token ≠ .unused)
    (same : slot.isLive = (streamer.slots token).isLive) :
    Registered (streamer.withSlot token slot) := by
  have issued := registered.issued used
  refine ⟨?_, ?_, ?_⟩
  · show streamer.registry.clients = _
    rw [registered.clients]
    refine List.filter_congr ?_
    intro held _
    by_cases here : held = token
    · subst here
      simp [Streamer.withSlot, same]
    · simp [Streamer.withSlot, here]
  · intro later after
    have other : later ≠ token := by
      intro same
      subst same
      exact absurd after (Nat.not_lt.2 issued.2)
    simpa [Streamer.withSlot, other] using registered.fresh later after
  · have other : (0 : Nat) ≠ token := by omega
    simpa [Streamer.withSlot, other] using registered.positive

/-- Ending a slot and giving its registration back keeps the registrations. -/
theorem Registered.release {streamer : Streamer}
    (registered : Registered streamer) {token : Nat} {slot : Slot}
    (used : streamer.slots token ≠ .unused)
    (ended : slot.isLive = false) :
    Registered ((streamer.withSlot token slot).release token) := by
  have issued := registered.issued used
  refine ⟨?_, ?_, ?_⟩
  · show (streamer.registry.clients.filter fun held => held ≠ token) = _
    rw [registered.clients, Streamer.liveTokens, List.filter_filter]
    refine List.filter_congr ?_
    intro held _
    by_cases here : held = token
    · subst here
      simp [Streamer.withSlot, Streamer.release, ended]
    · simp [Streamer.withSlot, Streamer.release, here]
  · intro later after
    have other : later ≠ token := by
      intro same
      subst same
      exact absurd after (Nat.not_lt.2 issued.2)
    simpa [Streamer.withSlot, Streamer.release, other] using
      registered.fresh later after
  · have other : (0 : Nat) ≠ token := by omega
    simpa [Streamer.withSlot, Streamer.release, other] using
      registered.positive

/-- A new registration is the newest token. -/
theorem Registered.acquire {streamer : Streamer}
    (registered : Registered streamer) {token : Nat}
    {registry : StreamRegistry}
    (acquired : streamer.registry.acquire = .ok (token, registry)) :
    Registered
      (({ streamer with registry } : Streamer).withSlot token .opening) := by
  unfold StreamRegistry.acquire at acquired
  split_ifs at acquired
  cases acquired
  refine ⟨?_, ?_, ?_⟩
  · show streamer.registry.clients ++ [streamer.registry.next + 1] = _
    rw [registered.clients]
    simp only [Streamer.liveTokens, Streamer.withSlot]
    rw [List.range'_concat, List.filter_append]
    congr 1
    · refine List.filter_congr ?_
      intro held member
      have bound := List.mem_range'_1.1 member
      have other : held ≠ streamer.registry.next + 1 := by omega
      simp [other]
    · simp [Slot.isLive, Nat.add_comm]
  · intro later after
    have other : later ≠ streamer.registry.next + 1 := by
      simp only [Streamer.withSlot] at after
      omega
    have before : streamer.registry.next < later := by
      simp only [Streamer.withSlot] at after
      omega
    simpa [Streamer.withSlot, other] using registered.fresh later before
  · simpa [Streamer.withSlot] using registered.positive

theorem Registered.step {boundary : Boundary} {streamer : Streamer}
    {action : StreamerAction} (cleansUp : CleansUp streamer action)
    (registered : Registered streamer) :
    Registered (streamer.step boundary action) := by
  cases action with
  | acquire =>
      unfold Streamer.step
      cases acquired : streamer.registry.acquire with
      | error code => exact registered
      | ok found => exact registered.acquire acquired
  | openRaises token =>
      simp only [Streamer.step]
      cases slot : streamer.slots token with
      | opening => exact registered.release (by simp [slot]) rfl
      | unused => exact registered
      | refused => exact registered
      | stream runIdentity state => exact registered
  | openReturns token runIdentity checkpoint buffer =>
      simp only [Streamer.step]
      cases slot : streamer.slots token with
      | opening =>
          refine registered.withSlot (by simp [slot]) ?_
          simp [slot, Slot.isLive, Stream.opened]
      | unused => exact registered
      | refused => exact registered
      | stream runIdentity state => exact registered
  | act token action =>
      simp only [Streamer.step]
      cases slot : streamer.slots token with
      | opening => exact registered
      | unused => exact registered
      | refused => exact registered
      | stream runIdentity state =>
          rcases cleansUp runIdentity state slot with ⟨started, ending⟩
          have used : streamer.slots token ≠ .unused := by simp [slot]
          simp only
          rcases @Stream.step_released boundary runIdentity state action
              started ending with
            ⟨released, _, left⟩ | ⟨kept, same⟩
          · rw [if_pos released]
            refine registered.release used ?_
            simp [Slot.isLive, left]
          · rw [if_neg (by simp [kept])]
            refine registered.withSlot used ?_
            simp [slot, Slot.isLive, same]

/--
In every run in which each client iterates its body before it leaves and no
body ends on a producer that ended by an exception, the registrations are the
streams that can still deliver, and a refused client met that many of them.
-/
theorem registrations_areLive (boundary : Boundary) (maximum : Nat)
    (actions : List StreamerAction)
    (along :
      Along (Streamer.step boundary) CleansUp (Streamer.initial maximum)
        actions) :
    let streamer :=
      run (Streamer.step boundary) (Streamer.initial maximum) actions
    streamer.registry.clients = streamer.liveTokens ∧
      streamer.registry.clients.length = streamer.liveTokens.length ∧
      (streamer.registry.acquire = .error .sseCapacityExceeded →
        streamer.registry.maximum ≤ streamer.liveTokens.length) := by
  intro streamer
  have start : Registered (Streamer.initial maximum) :=
    ⟨rfl, fun _ _ => rfl, rfl⟩
  have registered : Registered streamer :=
    run_keeps (fun _ _ cleansUp kept => Registered.step cleansUp kept)
      along start
  refine ⟨registered.clients, by rw [registered.clients], ?_⟩
  intro refused
  unfold StreamRegistry.acquire at refused
  split_ifs at refused with full
  rw [← registered.clients]
  exact full

/-! ## Leaked registrations -/

/-- A client that leaves before its body was iterated. -/
def earlyDeparture : List StreamerAction :=
  [ .acquire,
    .openReturns 1 "run-1" ⟨⟨none, [], 0, []⟩, none⟩
      (ClientBuffer.empty 256 (by decide)),
    .act 1 (.disconnect .cancelled) ]

/-- A client that leaves after its producer failed. -/
def failedProducer : List StreamerAction :=
  [ .acquire,
    .openReturns 1 "run-1" ⟨⟨none, [], 0, []⟩, none⟩
      (ClientBuffer.empty 256 (by decide)),
    .act 1 .start, .act 1 .fail, .act 1 (.disconnect .cancelled) ]

/-- A client that iterates its body and leaves while the producer runs. -/
def plainDeparture : List StreamerAction :=
  [ .acquire,
    .openReturns 1 "run-1" ⟨⟨none, [], 0, []⟩, none⟩
      (ClientBuffer.empty 256 (by decide)),
    .act 1 .start, .act 1 (.disconnect .cancelled), .acquire ]

/-- Either departure leaves a registration that no stream stands for. -/
theorem departure_leaksRegistration :
    let early :=
      run (Streamer.step sampleBoundary) (Streamer.initial 1) earlyDeparture
    let failed :=
      run (Streamer.step sampleBoundary) (Streamer.initial 1) failedProducer
    (early.registry.clients = [1] ∧ early.liveTokens = []) ∧
      (failed.registry.clients = [1] ∧ failed.liveTokens = []) ∧
      ¬ early.registry.clients.length = early.liveTokens.length ∧
      ¬ failed.registry.clients.length = failed.liveTokens.length := by
  decide

/-- An orderly departure makes room for the next client. -/
theorem registrations_areLive_sample :
    let streamer :=
      run (Streamer.step sampleBoundary) (Streamer.initial 1) plainDeparture
    streamer.registry.clients = [2] ∧
      streamer.registry.clients = streamer.liveTokens := by
  refine
    ⟨by decide,
      (registrations_areLive sampleBoundary 1 plainDeparture ?_).1⟩
  refine ⟨trivial, trivial, ?_, ?_, trivial, trivial⟩
  · intro runIdentity stream held
    cases held
    refine ⟨?_, ?_⟩
    · intro _ cleanup impossible
      cases impossible
    · intro impossible
      cases impossible
  · intro runIdentity stream held
    cases held
    refine ⟨?_, ?_⟩
    · intro impossible
      cases impossible
    · intro _ _ impossible
      cases impossible

end AerialRescue.Dashboard
