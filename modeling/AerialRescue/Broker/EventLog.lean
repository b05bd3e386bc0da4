import AerialRescue.Lib.Lines
import AerialRescue.Lib.Run
import Mathlib.Algebra.Order.Group.Nat
import Mathlib.Data.List.Induction
import Mathlib.Logic.Function.Basic

/-!
# The monitor of the broker's event log

The writer appends complete lines to the retained log and rotates it by
renaming the file and creating a new one at the path.  The monitor reads lines
from the file that it opened; at the end of that file it looks at the path,
and opens the file there when it is another one.

The writer's actions and the monitor's polls come in any order.  A file is
known by its number in the order of creation, which stands for the device and
inode.  A rotation is one action of the writer, so that the path always names
a file and the bounded wait for one never begins.
-/

namespace AerialRescue.Broker.EventLog

open AerialRescue.Lib.Lines AerialRescue.Lib.Run

/-! ## Lines -/

abbrev Bytes := List UInt8

def newline : UInt8 := 10

def carriageReturn : UInt8 := 13

/-- `MAX_JSON_EVENT_BYTES` -/
def maxJsonEventBytes : Nat := 8192

/-- `_READ_LIMIT` -/
def readLimit : Nat := maxJsonEventBytes + 2

/-- `bytes.endswith` with one octet. -/
def endsWith (octet : UInt8) (bytes : Bytes) : Bool :=
  bytes.getLast? = some octet

/-- The bytes without one octet at their end. -/
def withoutLast (octet : UInt8) (bytes : Bytes) : Bytes :=
  if endsWith octet bytes then bytes.dropLast else bytes

/-- `_line_payload` -/
def linePayload (chunk : Bytes) : Bytes :=
  withoutLast carriageReturn (withoutLast newline chunk)

/-- What the monitor made of a line. -/
inductive Handled where
  | processed (payload : Bytes)
  | refused
deriving DecidableEq

/-- The alert of a handled line, if it has one: `monitor_stream`. -/
def Handled.alert {Alert : Type} (process : Bytes → Option Alert)
    (refusal : Alert) : Handled → Option Alert
  | .processed payload => process payload
  | .refused => some refusal

/-! ## The log and the monitor -/

/-- An open descriptor. -/
structure Stream where
  identity : Nat
  position : Nat
deriving DecidableEq

/-- The log's files, the source that follows them and the monitor's loop. -/
structure Monitor where
  /-- The file at the path. -/
  current : Nat
  content : Nat → Bytes
  stream : Option Stream
  pending : Bytes
  /-- The descriptor was read to its end; the path is looked at next. -/
  atEnd : Bool
  /-- The loop of `_read_bounded` drops the rest of an oversized line. -/
  draining : Bool
  handled : List Handled

inductive Action where
  | append (line : Line newline)
  | rotate
  | poll

/-- The line that an action writes. -/
def Action.line : Action → Option (Line newline)
  | .append line => some line
  | .rotate => none
  | .poll => none

namespace Monitor

/-- A new log, and a monitor that has not opened it. -/
def start : Monitor where
  current := 0
  content _ := []
  stream := none
  pending := []
  atEnd := false
  draining := false
  handled := []

/-- `_read_bounded` and `monitor_stream` with a chunk from the source. -/
def accept (monitor : Monitor) (chunk : Bytes) : Monitor :=
  let isPartial := !endsWith newline chunk && chunk.length = readLimit
  let payload := linePayload chunk
  if monitor.draining then
    if isPartial then monitor
    else
      { monitor with
        draining := false
        handled := monitor.handled ++ [.refused] }
  else if isPartial then { monitor with draining := true }
  else
    { monitor with
      handled := monitor.handled ++
        [if payload.length > maxJsonEventBytes then .refused
          else .processed payload] }

/-- `_return_pending`, with the monitor's use of what it returns. -/
def returnPending (monitor : Monitor) : Monitor :=
  { monitor with pending := [] }.accept monitor.pending

/-- `_open` -/
def openStream (monitor : Monitor) : Monitor :=
  { monitor with
    stream := some { identity := monitor.current, position := 0 }
    atEnd := false }

/-- `_read_available` -/
def readAvailable (monitor : Monitor) (stream : Stream) : Monitor :=
  let chunk :=
    readLine newline (readLimit - monitor.pending.length)
      ((monitor.content stream.identity).drop stream.position)
  if chunk = [] then { monitor with atEnd := true }
  else
    let pending := monitor.pending ++ chunk
    let read :=
      { monitor with
        stream :=
          some { stream with position := stream.position + chunk.length }
        pending := pending }
    if endsWith newline pending || pending.length = readLimit then
      read.returnPending
    else read

/-- `_refresh_at_eof` -/
def refreshAtEof (monitor : Monitor) (stream : Stream) : Monitor :=
  let read := { monitor with atEnd := false }
  if monitor.current ≠ stream.identity then
    let closed := { read with stream := none }
    if monitor.pending = [] then closed else closed.returnPending
  else if (monitor.content monitor.current).length < stream.position then
    let rewound :=
      { read with stream := some { stream with position := 0 } }
    if monitor.pending = [] then rewound else rewound.returnPending
  else read

/-- One step of the loop of `readline`. -/
def poll (monitor : Monitor) : Monitor :=
  match monitor.stream with
  | none => monitor.openStream
  | some stream =>
      if monitor.atEnd then monitor.refreshAtEof stream
      else monitor.readAvailable stream

/-- The alerts that `monitor_stream` emitted. -/
def alerts {Alert : Type} (process : Bytes → Option Alert) (refusal : Alert)
    (monitor : Monitor) : List Alert :=
  monitor.handled.filterMap (Handled.alert process refusal)

/-- The log and the monitor after an action. -/
def apply (monitor : Monitor) : Action → Monitor
  | .append line =>
      { monitor with
        content :=
          Function.update monitor.content monitor.current
            (monitor.content monitor.current ++ line.text) }
  | .rotate => { monitor with current := monitor.current + 1 }
  | .poll => monitor.poll

end Monitor

/-- The system after the actions. -/
def monitorAfter (actions : List Action) : Monitor :=
  run Monitor.apply Monitor.start actions

/-- The lines that the writer wrote, in order. -/
def written (actions : List Action) : List (Line newline) :=
  actions.filterMap Action.line

theorem written_append (first second : List Action) :
    written (first ++ second) = written first ++ written second :=
  List.filterMap_append

/-- What a line is to become. -/
def outcome (line : Line newline) : Handled :=
  let payload := withoutLast carriageReturn line.content
  if payload.length ≤ maxJsonEventBytes then .processed payload else .refused

/--
Nothing is lost: a file that is rotated away is open or empty, and a look at
the path that finds another file comes when everything of the open one is
read.
-/
def Keeps (monitor : Monitor) : Action → Prop
  | .append _ => True
  | .rotate =>
      monitor.stream.map Stream.identity = some monitor.current ∨
        monitor.content monitor.current = []
  | .poll =>
      ∀ stream ∈ monitor.stream, monitor.atEnd = true →
        stream.identity ≠ monitor.current →
          (monitor.content stream.identity).drop stream.position = []

instance (monitor : Monitor) : ∀ action, Decidable (Keeps monitor action)
  | .append _ => inferInstanceAs (Decidable True)
  | .rotate => inferInstanceAs (Decidable (_ ∨ _))
  | .poll => inferInstanceAs (Decidable (∀ stream ∈ monitor.stream, _))

/-! ## Chunks of a line -/

/-- The bytes that are unread of the given lines, the first of which may be
an oversized one in progress. -/
inductive Unread : Bool → List (Line newline) → Bytes → Prop
  | whole (lines : List (Line newline)) :
      Unread false lines (textOf newline lines)
  | rest (line : Line newline) (others : List (Line newline)) (taken : Nat)
      (oversized : outcome line = .refused) :
      Unread true (line :: others)
        (line.content.drop taken ++ newline :: textOf newline others)

theorem Unread.of_nil {draining : Bool} {lines : List (Line newline)}
    (unread : Unread draining lines []) : draining = false ∧ lines = [] := by
  generalize nothing : ([] : Bytes) = bytes at unread
  cases unread with
  | whole => exact ⟨rfl, textOf_eq_nil.1 nothing.symm⟩
  | rest line others taken oversized => simp at nothing

theorem Unread.append {draining : Bool} {lines : List (Line newline)}
    {bytes : Bytes} (unread : Unread draining lines bytes)
    (line : Line newline) :
    Unread draining (lines ++ [line]) (bytes ++ line.text) := by
  have text : textOf newline [line] = line.text := by
    simp [textOf]
  cases unread with
  | whole =>
      rw [← text, ← textOf_append]
      exact .whole _
  | rest first others taken oversized =>
      rw [List.append_assoc, List.cons_append, List.cons_append, ← text,
        ← textOf_append]
      exact .rest first (others ++ [line]) taken oversized

theorem Unread.length_le {draining : Bool} {lines : List (Line newline)}
    {bytes : Bytes} (unread : Unread draining lines bytes) :
    bytes.length ≤ (textOf newline lines).length := by
  cases unread with
  | whole => exact le_refl _
  | rest line others taken oversized =>
      rw [textOf_cons, List.length_append, List.length_append,
        List.length_drop]
      omega

theorem endsWith_concat (octet : UInt8) (bytes : Bytes) :
    endsWith octet (bytes ++ [octet]) = true := by
  simp [endsWith]

theorem endsWith_of_notMem {octet : UInt8} {bytes : Bytes}
    (absent : octet ∉ bytes) : endsWith octet bytes = false := by
  rw [endsWith, decide_eq_false_iff_not]
  exact fun last => absent (List.mem_of_getLast? last)

theorem linePayload_text (content : Bytes) :
    linePayload (content ++ [newline]) =
      withoutLast carriageReturn content := by
  rw [linePayload, withoutLast.eq_1 newline, endsWith_concat, if_pos rfl,
    List.dropLast_concat]

theorem outcome_of_long {line : Line newline}
    (long : readLimit ≤ line.content.length) : outcome line = .refused := by
  have stripped : line.content.length - 1 ≤
      (withoutLast carriageReturn line.content).length := by
    unfold withoutLast
    split
    · exact List.length_dropLast.ge
    · exact Nat.sub_le _ _
  have longer : ¬(withoutLast carriageReturn line.content).length ≤
      maxJsonEventBytes := by
    unfold readLimit at long
    omega
  exact if_neg longer

/-- A chunk that cuts a line starts or goes on dropping it. -/
theorem accept_cut (monitor : Monitor) {chunk : Bytes}
    (unterminated : newline ∉ chunk) (full : chunk.length = readLimit) :
    monitor.accept chunk = { monitor with draining := true } := by
  unfold Monitor.accept
  rw [endsWith_of_notMem unterminated, full]
  cases monitor
  rename_i draining handled
  cases draining <;> simp

/-- A chunk with a line's end ends a line that was dropped. -/
theorem accept_end (monitor : Monitor) (content : Bytes)
    (draining : monitor.draining = true) :
    monitor.accept (content ++ [newline]) =
      { monitor with
        draining := false
        handled := monitor.handled ++ [.refused] } := by
  unfold Monitor.accept
  rw [endsWith_concat, draining]
  simp

/-- A chunk that is a whole line is handled as the line. -/
theorem accept_whole (monitor : Monitor) (line : Line newline)
    (idle : monitor.draining = false) :
    monitor.accept (line.content ++ [newline]) =
      { monitor with
        draining := false
        handled := monitor.handled ++ [outcome line] } := by
  unfold Monitor.accept
  rw [endsWith_concat, idle, linePayload_text]
  cases monitor
  cases idle
  simp only [outcome, ← Nat.not_le, Bool.not_true, Bool.false_and,
    Bool.false_eq_true, if_false]
  split <;> simp_all

theorem drop_line (content rest : Bytes) :
    (content ++ newline :: rest).drop (content ++ [newline]).length =
      rest := by
  have split : content ++ newline :: rest = content ++ [newline] ++ rest :=
    List.append_cons content newline rest
  rw [split, List.drop_left]

/-- What a read takes of the unread bytes is a chunk of the first line. -/
theorem accept_chunk (monitor : Monitor) {lines : List (Line newline)}
    {bytes : Bytes} (unread : Unread monitor.draining lines bytes)
    (more : bytes ≠ []) :
    ∃ chunk taken left draining,
      readLine newline readLimit bytes = chunk ∧ chunk ≠ [] ∧
      (endsWith newline chunk || chunk.length = readLimit) = true ∧
      lines = taken ++ left ∧
      monitor.accept chunk =
        { monitor with
          draining := draining
          handled := monitor.handled ++ taken.map outcome } ∧
      Unread draining left (bytes.drop chunk.length) := by
  cases state : monitor.draining with
  | false =>
      rw [state] at unread
      generalize idle : false = draining at unread
      cases unread with
      | whole lines =>
          cases lines with
          | nil => exact absurd rfl more
          | cons line others =>
              rw [textOf_cons]
              by_cases fits : line.content.length < readLimit
              · refine ⟨line.content ++ [newline], [line], others, false,
                  readLine_whole line.unterminated fits _, by simp, ?_, rfl,
                  accept_whole monitor line state, ?_⟩
                · rw [endsWith_concat, Bool.true_or]
                · rw [drop_line]
                  exact .whole others
              · have long := not_lt.1 fits
                have full : (line.content.take readLimit).length =
                    readLimit := List.length_take_of_le long
                have unterminated : newline ∉ line.content.take readLimit :=
                  fun inside => line.unterminated (List.mem_of_mem_take inside)
                refine ⟨line.content.take readLimit, [], line :: others, true,
                  readLine_cut line.unterminated long _, ?_, ?_, rfl, ?_, ?_⟩
                · intro nothing
                  rw [nothing] at full
                  cases full
                · simp [full]
                · rw [accept_cut monitor unterminated full, List.map_nil,
                    List.append_nil]
                · rw [full, List.drop_append_of_le_length long]
                  exact .rest line others _ (outcome_of_long long)
      | rest => cases idle
  | true =>
      rw [state] at unread
      generalize busy : true = draining at unread
      cases unread with
      | whole => cases busy
      | rest line others taken oversized =>
          have unterminated : newline ∉ line.content.drop taken :=
            fun inside => line.unterminated (List.mem_of_mem_drop inside)
          by_cases fits : (line.content.drop taken).length < readLimit
          · refine ⟨line.content.drop taken ++ [newline], [line], others,
              false, readLine_whole unterminated fits _, by simp, ?_, rfl, ?_,
              ?_⟩
            · rw [endsWith_concat, Bool.true_or]
            · rw [accept_end monitor _ state, List.map_singleton, oversized]
            · rw [drop_line]
              exact .whole others
          · have long := not_lt.1 fits
            have full : ((line.content.drop taken).take readLimit).length =
                readLimit := List.length_take_of_le long
            refine ⟨(line.content.drop taken).take readLimit, [],
              line :: others, true, readLine_cut unterminated long _, ?_, ?_,
              rfl, ?_, ?_⟩
            · intro nothing
              rw [nothing] at full
              cases full
            · simp [full]
            · have inside : newline ∉
                  (line.content.drop taken).take readLimit :=
                fun member => unterminated (List.mem_of_mem_take member)
              rw [accept_cut monitor inside full, List.map_nil,
                List.append_nil]
            · rw [full, List.drop_append_of_le_length long, List.drop_drop]
              exact .rest line others _ oversized

/-! ## What the monitor has of the written lines -/

/-- The lines that are handled, those of the open file that are not, and
those of the file at the path when it is another one. -/
structure Follows (done here next : List (Line newline))
    (monitor : Monitor) : Prop where
  handled : monitor.handled = done.map outcome
  pending : monitor.pending = []
  fresh : ∀ identity, monitor.current < identity →
    monitor.content identity = []
  closed : monitor.stream = none → here = [] ∧ monitor.draining = false
  opened : ∀ stream, monitor.stream = some stream →
    stream.identity ≤ monitor.current ∧
      stream.position ≤ (monitor.content stream.identity).length ∧
      Unread monitor.draining here
        ((monitor.content stream.identity).drop stream.position)
  held : monitor.stream.map Stream.identity = some monitor.current →
    next = []
  ahead : monitor.stream.map Stream.identity ≠ some monitor.current →
    monitor.content monitor.current = textOf newline next

section Steps

variable {done here next : List (Line newline)} {monitor : Monitor}

theorem append_follows (follows : Follows done here next monitor)
    (line : Line newline) :
    ∃ here' next',
      Follows done here' next' (monitor.apply (.append line)) ∧
        here' ++ next' = here ++ next ++ [line] := by
  have above (identity : Nat) (later : monitor.current < identity) :
      Function.update monitor.content monitor.current
        (monitor.content monitor.current ++ line.text) identity = [] := by
    rw [Function.update_of_ne later.ne']
    exact follows.fresh identity later
  by_cases same : monitor.stream.map Stream.identity = some monitor.current
  · have nothing := follows.held same
    refine ⟨here ++ [line], next,
      { handled := follows.handled
        pending := follows.pending
        fresh := above
        closed := fun closed => ?_
        opened := fun stream opened => ?_
        held := fun _ => nothing
        ahead := fun different => absurd same different }, ?_⟩
    · have none : monitor.stream = .none := closed
      rw [none] at same
      cases same
    · have open' : monitor.stream = some stream := opened
      rw [open', Option.map_some, Option.some_inj] at same
      rcases follows.opened stream open' with ⟨order, position, unread⟩
      refine ⟨order, ?_, ?_⟩
      · simp only [Monitor.apply, same, Function.update_self,
          List.length_append]
        rw [same] at position
        exact Nat.le_add_right_of_le position
      · simp only [Monitor.apply, same, Function.update_self]
        rw [same] at position unread
        rw [List.drop_append_of_le_length position]
        exact unread.append line
    · simp [nothing]
  · refine ⟨here, next ++ [line],
      { handled := follows.handled
        pending := follows.pending
        fresh := above
        closed := follows.closed
        opened := fun stream opened => ?_
        held := fun identical => absurd identical same
        ahead := fun _ => ?_ }, by simp⟩
    · have open' : monitor.stream = some stream := opened
      have different : stream.identity ≠ monitor.current := by
        rintro equal
        rw [open', Option.map_some, equal] at same
        exact same rfl
      simp only [Monitor.apply, Function.update_of_ne different]
      exact follows.opened stream open'
    · simp only [Monitor.apply, Function.update_self]
      rw [follows.ahead same, textOf_append]
      simp [textOf]

theorem rotate_follows (follows : Follows done here next monitor)
    (keeps : Keeps monitor .rotate) :
    Follows done here next (monitor.apply .rotate) ∧ next = [] := by
  have nothing : next = [] := by
    rcases keeps with same | empty
    · exact follows.held same
    · by_cases same :
          monitor.stream.map Stream.identity = some monitor.current
      · exact follows.held same
      · rw [follows.ahead same] at empty
        exact textOf_eq_nil.1 empty
  have newFile : monitor.content (monitor.current + 1) = [] :=
    follows.fresh _ (Nat.lt_succ_self _)
  refine ⟨{
    handled := follows.handled
    pending := follows.pending
    fresh := fun identity later =>
      follows.fresh identity (Nat.lt_of_succ_lt later)
    closed := follows.closed
    opened := fun stream opened => ?_
    held := fun _ => nothing
    ahead := fun _ => ?_ }, nothing⟩
  · rcases follows.opened stream opened with ⟨order, rest⟩
    exact ⟨Nat.le_succ_of_le order, rest⟩
  · rw [nothing]
    exact newFile

theorem openStream_follows (follows : Follows done here next monitor)
    (closed : monitor.stream = none) :
    Follows done next [] monitor.openStream ∧ here = [] := by
  rcases follows.closed closed with ⟨nothing, idle⟩
  have other : monitor.stream.map Stream.identity ≠ some monitor.current := by
    rw [closed]
    exact Option.some_ne_none _ |>.symm
  refine ⟨{
    handled := follows.handled
    pending := follows.pending
    fresh := follows.fresh
    closed := fun open' => by cases open'
    opened := fun stream opened => ?_
    held := fun _ => rfl
    ahead := fun different => absurd rfl different }, nothing⟩
  cases opened
  refine ⟨le_refl _, Nat.zero_le _, ?_⟩
  simp only [Monitor.openStream, List.drop_zero, idle, follows.ahead other]
  exact .whole next

/-- A read finds the end of the open file, or a chunk of its first line. -/
theorem readAvailable_cases (stream : Stream)
    (pending : monitor.pending = [])
    (unread : Unread monitor.draining here
      ((monitor.content stream.identity).drop stream.position)) :
    ((monitor.content stream.identity).drop stream.position = [] ∧
      monitor.readAvailable stream = { monitor with atEnd := true }) ∨
    ∃ chunk taken left draining,
      chunk <+: (monitor.content stream.identity).drop stream.position ∧
      chunk ≠ [] ∧ here = taken ++ left ∧
      monitor.readAvailable stream =
        { monitor with
          stream :=
            some { stream with position := stream.position + chunk.length }
          pending := []
          draining := draining
          handled := monitor.handled ++ taken.map outcome } ∧
      Unread draining left
        ((monitor.content stream.identity).drop
          (stream.position + chunk.length)) := by
  unfold Monitor.readAvailable
  rw [pending, List.length_nil, Nat.sub_zero]
  dsimp only
  by_cases nothing :
      (monitor.content stream.identity).drop stream.position = []
  · rw [nothing, readLine_nil, if_pos rfl]
    exact .inl ⟨rfl, rfl⟩
  · have taking :
        readLine newline readLimit
            ((monitor.content stream.identity).drop stream.position) <+:
          (monitor.content stream.identity).drop stream.position :=
      readLine_prefix readLimit _
    generalize next : ({ monitor with
      stream := some { stream with
        position := stream.position + (readLine newline readLimit
          ((monitor.content stream.identity).drop stream.position)).length }
      pending := [] } : Monitor) = reading
    rcases accept_chunk reading (by rw [← next]; exact unread) nothing with
      ⟨chunk, taken, left, draining, read, some, complete, split, accepted,
        rest⟩
    rw [read] at next taking ⊢
    subst next
    refine .inr ⟨chunk, taken, left, draining, taking, some, split, ?_, ?_⟩
    · rw [if_neg some, List.nil_append, if_pos (by simpa using complete)]
      exact accepted
    · rw [← List.drop_drop]
      exact rest

theorem readAvailable_follows (follows : Follows done here next monitor)
    {stream : Stream} (opened : monitor.stream = some stream) :
    ∃ taken left, here = taken ++ left ∧
      Follows (done ++ taken) left next (monitor.readAvailable stream) := by
  rcases follows.opened stream opened with ⟨order, position, unread⟩
  rcases readAvailable_cases stream follows.pending unread with
    ⟨_, atEnd⟩ |
    ⟨chunk, taken, left, draining, taking, _, split, read, rest⟩
  · rw [atEnd]
    refine ⟨[], here, rfl, ?_⟩
    rw [List.append_nil]
    exact { follows with }
  · rw [read]
    have within := taking.length_le
    rw [List.length_drop] at within
    refine ⟨taken, left, split,
      { handled := ?_
        pending := rfl
        fresh := follows.fresh
        closed := fun closed => by cases closed
        opened := fun later same => ?_
        held := fun same => ?_
        ahead := fun different => ?_ }⟩
    · simp only [follows.handled, List.map_append]
    · cases same
      refine ⟨order, ?_, rest⟩
      dsimp only
      omega
    · exact follows.held (by rw [opened]; exact same)
    · exact follows.ahead (by rw [opened]; exact different)

/-- A look at the path that finds the open file changes nothing. -/
theorem refreshAtEof_same {stream : Stream}
    (same : stream.identity = monitor.current)
    (position : stream.position ≤
      (monitor.content stream.identity).length) :
    monitor.refreshAtEof stream = { monitor with atEnd := false } := by
  rw [same] at position
  unfold Monitor.refreshAtEof
  rw [if_neg (by simp [same]), if_neg (not_lt.2 position)]

/-- A look at the path that finds another file closes the open one. -/
theorem refreshAtEof_other {stream : Stream}
    (other : stream.identity ≠ monitor.current)
    (pending : monitor.pending = []) :
    monitor.refreshAtEof stream =
      { monitor with stream := none, atEnd := false } := by
  unfold Monitor.refreshAtEof
  rw [if_pos other.symm, if_pos pending]

theorem refreshAtEof_follows (follows : Follows done here next monitor)
    {stream : Stream} (opened : monitor.stream = some stream)
    (keeps : stream.identity ≠ monitor.current →
      (monitor.content stream.identity).drop stream.position = []) :
    Follows done here next (monitor.refreshAtEof stream) := by
  rcases follows.opened stream opened with ⟨order, position, unread⟩
  by_cases same : stream.identity = monitor.current
  · rw [refreshAtEof_same same position]
    exact { follows with }
  · rw [keeps same] at unread
    rw [refreshAtEof_other same follows.pending]
    exact
      { handled := follows.handled
        pending := follows.pending
        fresh := follows.fresh
        closed := fun _ => ⟨unread.of_nil.2, unread.of_nil.1⟩
        opened := fun _ impossible => by cases impossible
        held := fun impossible => by cases impossible
        ahead := fun _ => follows.ahead (by simpa [opened] using same) }

theorem poll_follows (follows : Follows done here next monitor)
    (keeps : Keeps monitor .poll) :
    ∃ done' here' next', Follows done' here' next' monitor.poll ∧
      done' ++ here' ++ next' = done ++ here ++ next := by
  unfold Monitor.poll
  cases opened : monitor.stream with
  | none =>
      rcases openStream_follows follows opened with ⟨follow, rfl⟩
      exact ⟨done, next, [], follow, by simp⟩
  | some stream =>
      dsimp only
      by_cases atEnd : monitor.atEnd = true
      · rw [if_pos atEnd]
        have follow := refreshAtEof_follows follows opened
          (keeps stream opened atEnd)
        exact ⟨done, here, next, follow, rfl⟩
      · rw [if_neg atEnd]
        rcases readAvailable_follows follows opened with
          ⟨taken, left, rfl, follow⟩
        exact ⟨done ++ taken, left, next, follow, by simp⟩

/-- A step that keeps every line of the log hands each on in order. -/
theorem apply_follows (follows : Follows done here next monitor)
    {action : Action} (keeps : Keeps monitor action) :
    ∃ done' here' next', Follows done' here' next' (monitor.apply action) ∧
      done' ++ here' ++ next' =
        done ++ here ++ next ++ action.line.toList := by
  cases action with
  | append line =>
      rcases append_follows follows line with ⟨here', next', follow, same⟩
      refine ⟨done, here', next', follow, ?_⟩
      rw [List.append_assoc, same]
      simp [Action.line]
  | rotate =>
      refine ⟨done, here, next, (rotate_follows follows keeps).1, ?_⟩
      simp [Action.line]
  | poll =>
      rcases poll_follows follows keeps with
        ⟨done', here', next', follow, same⟩
      refine ⟨done', here', next', follow, ?_⟩
      rw [same]
      simp [Action.line]

end Steps

/-- The lines of a run are handled in order, and the rest is still there. -/
theorem monitorAfter_follows {actions : List Action}
    (keeps : Along Monitor.apply Keeps Monitor.start actions) :
    ∃ done here next, Follows done here next (monitorAfter actions) ∧
      done ++ here ++ next = written actions := by
  induction actions using List.reverseRecOn with
  | nil =>
      refine ⟨[], [], [], ?_, rfl⟩
      exact
        { handled := rfl
          pending := rfl
          fresh := fun _ _ => rfl
          closed := fun _ => ⟨rfl, rfl⟩
          opened := fun _ impossible => by cases impossible
          held := fun _ => rfl
          ahead := fun _ => rfl }
  | append_singleton earlier action inductionHypothesis =>
      rcases keeps.split with ⟨before, last, _⟩
      rcases inductionHypothesis before with
        ⟨done, here, next, follows, same⟩
      rcases apply_follows follows last with
        ⟨done', here', next', follow, split⟩
      have state : monitorAfter (earlier ++ [action]) =
          (monitorAfter earlier).apply action := by
        rw [monitorAfter, run_append]
        rfl
      refine ⟨done', here', next', state ▸ follow, ?_⟩
      rw [split, same, written_append]
      cases action <;> rfl

/-! ## What is left to read -/

namespace Monitor

/-- The bytes of the open file and of the one at the path that are unread. -/
def unread (monitor : Monitor) : Nat :=
  match monitor.stream with
  | none => (monitor.content monitor.current).length
  | some stream =>
      ((monitor.content stream.identity).drop stream.position).length +
        if stream.identity = monitor.current then 0
        else (monitor.content monitor.current).length

/-- The polls that read nothing before the next one that does. -/
def idle (monitor : Monitor) : Nat :=
  match monitor.stream with
  | none => 1
  | some stream =>
      if stream.identity = monitor.current then
        if monitor.atEnd then 1 else 0
      else if monitor.atEnd then 2
      else 3

/-- A bound on the polls until everything is read. -/
def pollsLeft (monitor : Monitor) : Nat :=
  2 * monitor.unread + monitor.idle

end Monitor

section Progress

variable {done here next : List (Line newline)} {monitor : Monitor}

theorem openStream_progress (closed : monitor.stream = none) :
    monitor.openStream.unread = monitor.unread ∧
      monitor.openStream.pollsLeft < monitor.pollsLeft := by
  have same : monitor.openStream.unread = monitor.unread := by
    simp [Monitor.unread, Monitor.openStream, closed]
  refine ⟨same, ?_⟩
  rw [Monitor.pollsLeft, Monitor.pollsLeft, same]
  simp [Monitor.idle, Monitor.openStream, closed]

theorem refreshAtEof_progress (follows : Follows done here next monitor)
    {stream : Stream} (opened : monitor.stream = some stream)
    (atEnd : monitor.atEnd = true)
    (keeps : stream.identity ≠ monitor.current →
      (monitor.content stream.identity).drop stream.position = []) :
    (monitor.refreshAtEof stream).unread = monitor.unread ∧
      (monitor.refreshAtEof stream).pollsLeft < monitor.pollsLeft := by
  have position := (follows.opened stream opened).2.1
  by_cases same : stream.identity = monitor.current
  · have equal : (monitor.refreshAtEof stream).unread = monitor.unread := by
      simp [refreshAtEof_same same position, Monitor.unread, opened]
    refine ⟨equal, ?_⟩
    rw [Monitor.pollsLeft, Monitor.pollsLeft, equal,
      refreshAtEof_same same position]
    simp [Monitor.idle, opened, same, atEnd]
  · have equal : (monitor.refreshAtEof stream).unread = monitor.unread := by
      simp [refreshAtEof_other same follows.pending, Monitor.unread, opened,
        keeps same, same]
    refine ⟨equal, ?_⟩
    rw [Monitor.pollsLeft, Monitor.pollsLeft, equal,
      refreshAtEof_other same follows.pending]
    simp [Monitor.idle, opened, same, atEnd]

theorem readAvailable_progress (follows : Follows done here next monitor)
    {stream : Stream} (opened : monitor.stream = some stream)
    (reading : monitor.atEnd = false) :
    (monitor.readAvailable stream).unread ≤ monitor.unread ∧
      ((monitor.readAvailable stream).pollsLeft < monitor.pollsLeft ∨
        monitor.unread = 0) := by
  rcases follows.opened stream opened with ⟨_, position, unread⟩
  rcases readAvailable_cases stream follows.pending unread with
    ⟨nothing, atEnd⟩ |
    ⟨chunk, taken, left, draining, taking, some, _, read, _⟩
  · rw [atEnd]
    refine ⟨le_refl _, ?_⟩
    by_cases same : stream.identity = monitor.current
    · right
      simp only [Monitor.unread, opened, nothing, if_pos same,
        List.length_nil]
    · left
      simp [Monitor.pollsLeft, Monitor.unread, Monitor.idle, opened, same,
        reading]
  · have within := taking.length_le
    have positive := List.length_pos_iff.2 some
    have rest : ((monitor.content stream.identity).drop
          (stream.position + chunk.length)).length + chunk.length =
        ((monitor.content stream.identity).drop stream.position).length := by
      simp only [List.length_drop] at within ⊢
      omega
    have fewer : (monitor.readAvailable stream).unread + chunk.length =
        monitor.unread := by
      simp only [read, Monitor.unread, opened]
      omega
    have sameIdle : (monitor.readAvailable stream).idle = monitor.idle := by
      simp only [read, Monitor.idle, opened]
    refine ⟨by omega, .inl ?_⟩
    rw [Monitor.pollsLeft, Monitor.pollsLeft, sameIdle]
    omega

theorem poll_progress (follows : Follows done here next monitor)
    (keeps : Keeps monitor .poll) :
    monitor.poll.unread ≤ monitor.unread ∧
      (monitor.poll.pollsLeft < monitor.pollsLeft ∨ monitor.unread = 0) := by
  unfold Monitor.poll
  cases opened : monitor.stream with
  | none =>
      rcases openStream_progress opened with ⟨same, fewer⟩
      exact ⟨same.le, .inl fewer⟩
  | some stream =>
      dsimp only
      by_cases atEnd : monitor.atEnd = true
      · rw [if_pos atEnd]
        rcases refreshAtEof_progress follows opened atEnd
          (keeps stream opened atEnd) with ⟨same, fewer⟩
        exact ⟨same.le, .inl fewer⟩
      · rw [if_neg atEnd]
        exact readAvailable_progress follows opened
          (Bool.not_eq_true _ ▸ atEnd)

/-- After enough polls everything is read. -/
theorem polls_read_all {polls : Nat} (follows : Follows done here next monitor)
    (keeps : Along Monitor.apply Keeps monitor
      (List.replicate polls .poll))
    (enough : monitor.unread = 0 ∨ monitor.pollsLeft ≤ polls) :
    (run Monitor.apply monitor (List.replicate polls .poll)).unread = 0 := by
  induction polls generalizing monitor done here next with
  | zero =>
      rcases enough with nothing | none
      · exact nothing
      · rw [Monitor.pollsLeft] at none
        rw [List.replicate_zero, run_nil]
        omega
  | succ polls inductionHypothesis =>
      rw [List.replicate_succ] at keeps ⊢
      rcases keeps with ⟨first, later⟩
      rcases poll_follows follows first with ⟨_, _, _, follow, _⟩
      rcases poll_progress follows first with ⟨fewer, progress⟩
      rw [run_cons]
      refine inductionHypothesis follow later ?_
      change monitor.poll.unread = 0 ∨ monitor.poll.pollsLeft ≤ polls
      omega

theorem Follows.unread_le (follows : Follows done here next monitor) :
    monitor.unread ≤ (textOf newline (done ++ here ++ next)).length := by
  rw [textOf_append, textOf_append, List.length_append, List.length_append]
  unfold Monitor.unread
  cases opened : monitor.stream with
  | none =>
      have text := follows.ahead (by simp [opened])
      simp only [text]
      omega
  | some stream =>
      have unread := (follows.opened stream opened).2.2.length_le
      dsimp only
      split
      · omega
      · rename_i other
        have text := follows.ahead (by simpa [opened] using other)
        rw [text]
        omega

/-- When nothing is unread, every line was handled. -/
theorem Follows.all_handled (follows : Follows done here next monitor)
    (nothing : monitor.unread = 0) :
    monitor.handled = (done ++ here ++ next).map outcome := by
  have empty : here = [] ∧ next = [] := by
    unfold Monitor.unread at nothing
    cases opened : monitor.stream with
    | none =>
        rw [opened] at nothing
        have text := follows.ahead (by simp [opened])
        dsimp only at nothing
        rw [List.length_eq_zero_iff, text, textOf_eq_nil] at nothing
        exact ⟨(follows.closed opened).1, nothing⟩
    | some stream =>
        rw [opened] at nothing
        dsimp only at nothing
        rcases Nat.add_eq_zero_iff.1 nothing with ⟨read, other⟩
        have unread := (follows.opened stream opened).2.2
        rw [List.length_eq_zero_iff.1 read] at unread
        refine ⟨unread.of_nil.2, ?_⟩
        by_cases same : stream.identity = monitor.current
        · exact follows.held (by simp [opened, same])
        · have text := follows.ahead (by simpa [opened] using same)
          rw [if_neg same, text, List.length_eq_zero_iff,
            textOf_eq_nil] at other
          exact other
  rw [follows.handled, empty.1, empty.2, List.append_nil, List.append_nil]

theorem Follows.pollsLeft_le (follows : Follows done here next monitor) :
    monitor.pollsLeft ≤
      2 * (textOf newline (done ++ here ++ next)).length + 3 := by
  have bytes := follows.unread_le
  have idle : monitor.idle ≤ 3 := by
    unfold Monitor.idle
    split
    · omega
    · split
      · split <;> omega
      · split <;> omega
  rw [Monitor.pollsLeft]
  omega

theorem keeps_of_nothing (nothing : monitor.unread = 0) :
    Keeps monitor .poll := by
  intro stream opened _ other
  unfold Monitor.unread at nothing
  rw [Option.mem_def.1 opened] at nothing
  dsimp only at nothing
  exact List.length_eq_zero_iff.1 (Nat.add_eq_zero_iff.1 nothing).1

/-- Polls with nothing to read handle nothing. -/
theorem Follows.polls_idle (follows : Follows done here next monitor)
    (nothing : monitor.unread = 0) (polls : Nat) :
    (run Monitor.apply monitor (List.replicate polls .poll)).handled =
      (done ++ here ++ next).map outcome := by
  induction polls generalizing monitor done here next with
  | zero => exact follows.all_handled nothing
  | succ polls inductionHypothesis =>
      have keeps := keeps_of_nothing nothing
      rcases poll_follows follows keeps with ⟨_, _, _, follow, same⟩
      have still : monitor.poll.unread = 0 :=
        Nat.eq_zero_of_le_zero (nothing ▸ (poll_progress follows keeps).1)
      rw [List.replicate_succ, run_cons, ← same]
      exact inductionHypothesis follow still

end Progress

/--
The monitor misses no line of a run that keeps every line: what it handled is
always the outcome of the first lines written, in the order of writing, and
after enough polls it is the outcome of all of them, with one alert for each
that has one.
-/
theorem monitor_misses_no_line {Alert : Type}
    (process : Bytes → Option Alert) (refusal : Alert)
    (actions : List Action) (polls : Nat)
    (keeps : Along Monitor.apply Keeps Monitor.start
      (actions ++ List.replicate polls .poll)) :
    (monitorAfter actions).handled <+: (written actions).map outcome ∧
    (2 * (textOf newline (written actions)).length + 3 ≤ polls →
      (monitorAfter (actions ++ List.replicate polls .poll)).handled =
          (written actions).map outcome ∧
        (monitorAfter (actions ++ List.replicate polls .poll)).alerts process
            refusal =
          (written actions).filterMap fun line =>
            (outcome line).alert process refusal) := by
  rcases keeps.split with ⟨before, later⟩
  rcases monitorAfter_follows before with ⟨done, here, next, follows, same⟩
  refine ⟨?_, fun enough => ?_⟩
  · rw [follows.handled, ← same, List.append_assoc, List.map_append]
    exact List.prefix_append _ _
  · have nothing := polls_read_all follows later
      (.inr (follows.pollsLeft_le.trans (same ▸ enough)))
    rcases monitorAfter_follows keeps with
      ⟨done', here', next', follow, all⟩
    have silent : written (List.replicate polls .poll) = [] := by
      simp [written, List.filterMap_replicate, Action.line]
    rw [written_append, silent, List.append_nil] at all
    have handled :
        (monitorAfter (actions ++ List.replicate polls .poll)).handled =
          (written actions).map outcome := by
      rw [← all]
      refine follow.all_handled ?_
      rw [monitorAfter, run_append]
      exact nothing
    refine ⟨handled, ?_⟩
    rw [Monitor.alerts, handled, List.filterMap_map]
    rfl

/-- A line of a few octets. -/
def shortLine : Line newline where
  content := [123, 125]
  unterminated := by decide

/-- A log that is rotated after its line was read. -/
def rotatedRead : List Action :=
  [.poll, .append shortLine, .poll, .poll, .rotate, .poll, .append shortLine]

theorem monitor_misses_no_line_rotatedRead :
    (monitorAfter (rotatedRead ++ List.replicate 15 .poll)).handled =
      [.processed [123, 125], .processed [123, 125]] :=
  ((monitor_misses_no_line (fun _ => none) () rotatedRead 15
    (by decide +kernel)).2 (by decide)).1.trans (by decide)

/-- A log with a line that comes after the end was read and before the
rotation is seen. -/
def rotatedUnread : List Action :=
  [.poll, .poll, .append shortLine, .rotate, .poll]

/-- The line is never handled, whatever the number of polls. -/
theorem rotatedUnread_missed :
    written rotatedUnread = [shortLine] ∧
      ¬∃ polls, (monitorAfter (rotatedUnread ++
        List.replicate polls .poll)).handled = [outcome shortLine] := by
  refine ⟨rfl, ?_⟩
  rintro ⟨polls, handled⟩
  have follows : Follows [] [] [] (monitorAfter rotatedUnread) :=
    { handled := rfl
      pending := rfl
      fresh := fun identity later => by
        have other : identity ≠ 0 := Nat.ne_of_gt (Nat.zero_lt_of_lt later)
        exact Function.update_of_ne other ..
      closed := fun _ => ⟨rfl, rfl⟩
      opened := fun _ impossible => by cases impossible
      held := fun _ => rfl
      ahead := fun _ => rfl }
  have idle := follows.polls_idle rfl polls
  rw [monitorAfter, run_append] at handled
  rw [monitorAfter, handled] at idle
  cases idle

end AerialRescue.Broker.EventLog
