import AerialRescue.Dashboard.Snapshot

/-!
# Event streams

The finite client buffer, the producer that folds a run's suffix into it, and
the response body that drains it.  One stream is one state; an action is a
stretch of one of its two tasks between two points where the task gives up
control, so that a list of actions is one interleaving of producer and
consumer.

The body runs its cleanup when it ends, and only if it was ever iterated: it
cancels the producer, waits for it, closes the buffer and gives back the
registration.  Waiting for the producer raises whatever the producer raised,
a cancellation apart.
-/

namespace AerialRescue.Dashboard

open AerialRescue.Contracts
open AerialRescue.Contracts.View

/-! ## The client buffer -/

/-- What a frame on its way to the client says. -/
inductive Payload where
  | frame (body : EventFrame)
  /-- The terminal overload control document. -/
  | overload

/-- One serialized data frame or terminal control document. -/
structure BufferedEvent where
  eventClass : String
  payload : Payload
  cursor : Option String
  terminal : Bool

/-- How one offered frame affected a client buffer. -/
inductive BufferDisposition where
  | retained
  | dropped
  | overloaded
  | closed
deriving DecidableEq

/-- `ClientBuffer`: bounded data frames and one reserved terminal slot. -/
structure ClientBuffer where
  capacity : Nat
  positive : 0 < capacity
  events : List BufferedEvent
  terminal : Option BufferedEvent
  closed : Bool

/-- Whether a frame may be shed. -/
def BufferedEvent.isTelemetry (event : BufferedEvent) : Bool :=
  event.eventClass = "TELEMETRY"

/-- The control frame that ends an overloaded stream. -/
def overloadEvent : BufferedEvent where
  eventClass := "CONTROL"
  payload := .overload
  cursor := none
  terminal := true

/-- An empty buffer of that capacity. -/
def ClientBuffer.empty (capacity : Nat) (positive : 0 < capacity) :
    ClientBuffer where
  capacity := capacity
  positive := positive
  events := []
  terminal := none
  closed := false

/-- `ClientBuffer.push` -/
def ClientBuffer.push (buffer : ClientBuffer) (event : BufferedEvent) :
    BufferDisposition × ClientBuffer :=
  if buffer.closed then (.closed, buffer)
  else if buffer.events.length < buffer.capacity then
    (.retained, { buffer with events := buffer.events ++ [event] })
  else
    match buffer.events.findIdx? BufferedEvent.isTelemetry with
    | some index =>
        (.retained,
          { buffer with events := buffer.events.eraseIdx index ++ [event] })
    | none =>
        if event.isTelemetry then (.dropped, buffer)
        else
          (.overloaded,
            { buffer with terminal := some overloadEvent, closed := true })

/-- `_pop_unlocked`: data before the reserved terminal frame. -/
def ClientBuffer.pop (buffer : ClientBuffer) :
    Option BufferedEvent × ClientBuffer :=
  match buffer.events with
  | event :: rest => (some event, { buffer with events := rest })
  | [] => (buffer.terminal, { buffer with terminal := none })

/-- `ClientBuffer.close` -/
def ClientBuffer.close (buffer : ClientBuffer) : ClientBuffer :=
  { buffer with closed := true, events := [], terminal := none }

/-! ## One stream -/

/-- How a producer task ended. -/
inductive ProducerEnd where
  | returned
  | cancelled
  /-- It ended by an exception other than a cancellation. -/
  | raised
deriving DecidableEq

/-- The producer task of one stream. -/
inductive Producer where
  /-- It waits for the body to be iterated. -/
  | waiting (checkpoint : ReducerCheckpoint)
  | running (checkpoint : ReducerCheckpoint)
  | done (ending : ProducerEnd)

def Producer.isDone : Producer → Bool
  | .done _ => true
  | _ => false

/-- Where the response body stands. -/
inductive Body where
  /-- The generator has not been iterated. -/
  | unstarted
  | iterating
  /-- It ended, or it was dropped before its first iteration. -/
  | left
deriving DecidableEq

/-- One registered stream, with what was folded and yielded so far. -/
structure Stream where
  producer : Producer
  buffer : ClientBuffer
  body : Body
  /-- Every frame the producer folded, in order. -/
  folded : List FoldedFrame
  /-- Every data or control frame the body yielded, in order. -/
  delivered : List BufferedEvent

/-- The stream of a returned handle. -/
def Stream.opened (checkpoint : ReducerCheckpoint) (buffer : ClientBuffer) :
    Stream where
  producer := .waiting checkpoint
  buffer := buffer
  body := .unstarted
  folded := []
  delivered := []

/-- A stretch of one of the stream's tasks. -/
inductive StreamAction where
  /-- The body is iterated for the first time. -/
  | start
  /-- The producer folds and offers the next event of its page. -/
  | produce (stored : StoredEvent)
  /-- The producer finds the buffer closed between two pages. -/
  | poll
  /-- The producer ends by an exception of a read. -/
  | fail
  /-- The body takes a frame. -/
  | consume (cleanup : ProducerEnd)
  /-- The body's wait for a frame runs out. -/
  | timeout (cleanup : ProducerEnd)
  /-- The client disconnects while the body is suspended or unstarted. -/
  | disconnect (cleanup : ProducerEnd)

/-- The frame offered to the buffer for a folded event. -/
def bufferedFrame (folded : FoldedFrame) : BufferedEvent where
  eventClass := folded.eventClass.text
  payload := .frame folded.body
  cursor := some folded.cursor
  terminal := false

/-- The producer after `_produce` saw how its frame was taken. -/
def producerAfter (disposition : BufferDisposition)
    (checkpoint : ReducerCheckpoint) : Producer :=
  match disposition with
  | .overloaded => .done .returned
  | .closed => .done .returned
  | _ => .running checkpoint

/-- One turn of the loop over a page in `_produce`. -/
def Stream.produce (boundary : Boundary) (runIdentity : String)
    (stream : Stream) (stored : StoredEvent) : Stream :=
  match stream.producer with
  | .running checkpoint =>
      match foldFrame boundary runIdentity checkpoint stored with
      | .error _ => { stream with producer := .done .raised }
      | .ok folded =>
          let offered := stream.buffer.push (bufferedFrame folded)
          { stream with
            producer := producerAfter offered.1 folded.checkpoint
            buffer := offered.2
            folded := stream.folded ++ [folded] }
  | _ => stream

/-- How the producer ends when the body cancels and awaits it. -/
def Producer.awaited (producer : Producer) (cleanup : ProducerEnd) :
    ProducerEnd :=
  match producer with
  | .done ending => ending
  | _ => cleanup

/--
The cleanup of the body.  The second component says whether the registration
was given back.
-/
def Stream.finish (stream : Stream) (cleanup : ProducerEnd) :
    Stream × Bool :=
  let ending := stream.producer.awaited cleanup
  let ended := { stream with producer := .done ending, body := .left }
  if ending = .raised then (ended, false)
  else ({ ended with buffer := stream.buffer.close }, true)

/-- One turn of the body's loop that found a frame. -/
def Stream.consume (stream : Stream) (cleanup : ProducerEnd) :
    Stream × Bool :=
  match stream.buffer.pop with
  | (none, _) => (stream, false)
  | (some event, buffer) =>
      let taken :=
        { stream with buffer, delivered := stream.delivered ++ [event] }
      if event.terminal then taken.finish cleanup else (taken, false)

/--
One turn of the body's loop without a frame.  A wait that runs out returns
nothing even when a frame has just arrived.
-/
def Stream.timeout (stream : Stream) (cleanup : ProducerEnd) :
    Stream × Bool :=
  if stream.producer.isDone || stream.buffer.closed then
    stream.finish cleanup
  else (stream, false)

/-- The client goes away. -/
def Stream.disconnect (stream : Stream) (cleanup : ProducerEnd) :
    Stream × Bool :=
  match stream.body with
  | .unstarted => ({ stream with body := .left }, false)
  | .iterating => stream.finish cleanup
  | .left => (stream, false)

/-- The body's first iteration, which lets the producer go. -/
def Stream.start (stream : Stream) : Stream :=
  match stream.body, stream.producer with
  | .unstarted, .waiting checkpoint =>
      { stream with body := .iterating, producer := .running checkpoint }
  | .unstarted, _ => { stream with body := .iterating }
  | _, _ => stream

/-- The producer between two pages: it returns once the buffer is closed. -/
def Stream.poll (stream : Stream) : Stream :=
  match stream.producer with
  | .running _ =>
      if stream.buffer.closed then
        { stream with producer := .done .returned }
      else stream
  | _ => stream

/-- An exception of the producer. -/
def Stream.fail (stream : Stream) : Stream :=
  match stream.producer with
  | .running _ => { stream with producer := .done .raised }
  | _ => stream

/--
One action of a stream.  The second component says whether the registration
was given back.
-/
def Stream.step (boundary : Boundary) (runIdentity : String)
    (stream : Stream) : StreamAction → Stream × Bool
  | .start => (stream.start, false)
  | .produce stored => (stream.produce boundary runIdentity stored, false)
  | .poll => (stream.poll, false)
  | .fail => (stream.fail, false)
  | .consume cleanup =>
      match stream.body with
      | .iterating => stream.consume cleanup
      | _ => (stream, false)
  | .timeout cleanup =>
      match stream.body with
      | .iterating => stream.timeout cleanup
      | _ => (stream, false)
  | .disconnect cleanup => stream.disconnect cleanup

/-- The stream after one of its actions. -/
def Stream.advance (boundary : Boundary) (runIdentity : String)
    (stream : Stream) (action : StreamAction) : Stream :=
  (stream.step boundary runIdentity action).1

end AerialRescue.Dashboard
