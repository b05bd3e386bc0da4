import AerialRescue.Contracts.PythonObject
import AerialRescue.Contracts.Rpc

/-!
# RPC and Agent Mesh bodies over any mapping

The gateway request and response and the Agent Mesh response, parsed from any
Python object.  A refusal carries the member at fault and its value.  Every
member is read with a subscript, which raises where the member is not there.
-/

namespace AerialRescue.Contracts.RpcBodies

open AerialRescue.Lib.Guard
open AerialRescue.Contracts.Canonical
open AerialRescue.Contracts.JsonText
open AerialRescue.Contracts.PyObject (find? has member? unknownKeys
  leastUnknown NamesUnknown NotAfter matchesRule ofValue ofMembers)
open AerialRescue.Contracts.Rpc
open AerialRescue.Contracts.SharedJson
open AerialRescue.Contracts.Topics

/-- What a body parser raises: its own refusal, or the error of a subscript. -/
inductive BodyRaise where
  | refused (refusal : BodyRefusal) (member : PythonText) (value : PyObject)
  | keyError (name : PythonText)

/-- The parser's own error class. -/
def BodyRaise.Own : BodyRaise → Prop
  | .refused _ _ _ => True
  | .keyError _ => False

/-! ## Members -/

/-- `document[name]` -/
def subscript (name : PythonText) (members : PyMembers) :
    Except BodyRaise PyObject :=
  present (find? (.text name) members) (.keyError name)

/-- `members[name]` of a member the profile names. -/
def bodyMember (name : String) (members : PyMembers) :
    Except BodyRaise PyObject :=
  subscript (pythonText name) members

/-- The first required member that is absent is refused. -/
def requireMembers (required : List String) (members : PyMembers) :
    Except BodyRaise Unit :=
  match required.find? fun name => !has name members with
  | some name => .error (.refused .missingMember (pythonText name) .none)
  | none => .ok ()

/-- `rpc._members`: the value of an unknown member is read by its spelling. -/
def rpcMembers (label : String) (required optional : List String) :
    PyObject → Except BodyRaise PyMembers
  | .mapping members => do
      match leastUnknown (required ++ optional) members with
      | some name =>
          let value ← subscript name members
          .error (.refused .unknownMember name value)
      | none =>
          requireMembers required members
          pure members
  | document => .error (.refused .notAnObject (pythonText label) document)

/-- `_unknown_member`: the unknown key of the least spelling. -/
def unknownMember (allowed : List String) (members : PyMembers) :
    Option PyKey :=
  ((unknownKeys allowed members).insertionSort fun left right =>
    NotAfter left.spelling right.spelling).head?

/-- `integration._members`: an unknown member is read by its own key. -/
def agentMembers (label : String) (required optional : List String) :
    PyObject → Except BodyRaise PyMembers
  | .mapping members => do
      match unknownMember (required ++ optional) members with
      | some key =>
          let value ← present (find? key members) (.keyError key.spelling)
          .error (.refused .unknownMember key.spelling value)
      | none =>
          requireMembers required members
          pure members
  | document => .error (.refused .notAnObject (pythonText label) document)

/-- `_version` -/
def bodyVersion (name : String) (members : PyMembers) :
    Except BodyRaise Unit := do
  let value ← bodyMember name members
  match value with
  | .int version =>
      ensure (version = 1) (.refused .version (pythonText name) value)
  | _ => .error (.refused .memberForm (pythonText name) value)

/-- `_text` -/
def bodyText (name path : String) (pattern : String → Bool)
    (members : PyMembers) : Except BodyRaise String := do
  let value ← bodyMember name members
  match value with
  | .text text => do
      ensure (matchesRule pattern text)
        (.refused .memberForm (pythonText path) value)
      pure (scalars text)
  | _ => .error (.refused .memberForm (pythonText path) value)

/-- `_optionals`: a text that is validated where it is present. -/
def bodyOptional (name : String) (pattern : String → Bool)
    (members : PyMembers) : Except BodyRaise (Option String) :=
  if has name members then
    (bodyText name name pattern members).map some
  else
    .ok none

/-- A closed set of words: `_outcome` and `_reason`. -/
def bodyWord {α : Type} (name : String) (words : List (String × α))
    (members : PyMembers) : Except BodyRaise α := do
  let value ← bodyMember name members
  match value with
  | .text text =>
      present
        ((words.find? fun word => pythonText word.1 = text).map Prod.snd)
        (.refused .memberForm (pythonText name) value)
  | _ => .error (.refused .memberForm (pythonText name) value)

/-- `_actuated` -/
def bodyActuated (members : PyMembers) : Except BodyRaise Bool := do
  let value ← bodyMember "actuated" members
  match value with
  | .bool actuated => pure actuated
  | _ => .error (.refused .memberForm (pythonText "actuated") value)

/-- `_integer` -/
def bodyInteger (name path : String) (lower upper : Int)
    (members : PyMembers) : Except BodyRaise Int := do
  let value ← bodyMember name members
  match value with
  | .int number => do
      ensure (lower ≤ number ∧ number ≤ upper)
        (.refused .memberForm (pythonText path) value)
      pure number
  | _ => .error (.refused .memberForm (pythonText path) value)

/-- A member that an outcome requires. -/
def requireBound {α : Type} (name : String) (value : Option α) :
    Except BodyRaise Unit :=
  ensure (value.isSome = true)
    (.refused .outcomeBinding (pythonText name) .none)

/-- A member that an outcome forbids. -/
def forbidBound {α : Type} (name : String) (value : Option α)
    (members : PyMembers) : Except BodyRaise Unit :=
  if value.isSome then do
    let held ← bodyMember name members
    .error (.refused .outcomeBinding (pythonText name) held)
  else
    .ok ()

/-! ## Gateway requests and responses -/

/-- `_OUTCOMES` -/
def outcomes : List (String × Outcome) :=
  [("answered", .answered), ("refused", .refused)]

/-- `parse_gateway_request` -/
def parseGatewayRequest (document : PyObject) :
    Except BodyRaise GatewayRequest := do
  let members ← rpcMembers "request" requestMembers [] document
  bodyVersion "rpcVersion" members
  let missionId ← bodyText "missionId" "missionId" isIdentifier members
  let operation ← bodyText "operation" "operation" isKind members
  let commandType ← bodyText "commandType" "commandType" isKind members
  pure { missionId, operation, commandType }

/-- `RESPONSE_REQUIRED_MEMBERS` -/
def responseMembers : List String :=
  requestMembers ++ ["requestId", "outcome", "actuated"]

/-- `RESPONSE_OPTIONAL_MEMBERS` -/
def responseOptionalMembers : List String :=
  ["authority", "refusal"]

/-- `_binding` -/
def bodyBinding (outcome : Outcome) (authority refusal : Option String)
    (members : PyMembers) : Except BodyRaise Unit :=
  match outcome with
  | .answered => do
      requireBound "authority" authority
      forbidBound "refusal" refusal members
  | .refused => do
      requireBound "refusal" refusal
      forbidBound "authority" authority members

/-- `parse_gateway_response` -/
def parseGatewayResponse (document : PyObject) :
    Except BodyRaise GatewayResponse := do
  let members ←
    rpcMembers "response" responseMembers responseOptionalMembers document
  bodyVersion "rpcVersion" members
  let missionId ← bodyText "missionId" "missionId" isIdentifier members
  let requestId ← bodyText "requestId" "requestId" isIdentifier members
  let operation ← bodyText "operation" "operation" isKind members
  let commandType ← bodyText "commandType" "commandType" isKind members
  let outcome ← bodyWord "outcome" outcomes members
  let actuated ← bodyActuated members
  let authority ← bodyOptional "authority" isKind members
  let refusal ← bodyOptional "refusal" isKind members
  bodyBinding outcome authority refusal members
  pure
    { missionId, requestId, operation, commandType, outcome, actuated,
      authority, refusal }

/-! ## The Agent Mesh response -/

/-- `_OUTCOMES` of an Agent Mesh response. -/
def agentOutcomes : List (String × AgentOutcome) :=
  [("candidate", .candidate), ("abstained", .abstained)]

/-- `_REASONS` -/
def reasons : List (String × AgentResponseReason) :=
  [ ("timeout", .timeout), ("transport-error", .transportError),
    ("model-error", .modelError), ("invalid-output", .invalidOutput),
    ("identity-mismatch", .identityMismatch) ]

/-- `_COMMON_MEMBERS` -/
def commonMembers : List String :=
  ["agentResponseVersion", "missionId", "agentName", "invocationId",
    "correlationId", "outcome"]

/-- `_RESULT_MEMBERS` -/
def resultMembers : List String :=
  ["proposalType", "sourceEventId", "sourceEventDigest", "droneId",
    "latitudeMicrodegrees", "longitudeMicrodegrees", "commandType"]

/-- The refusal of a result member names it below `result`. -/
def belowResult : BodyRaise → BodyRaise
  | .refused .unknownMember member value =>
      .refused .unknownMember (pythonText "result." ++ member) value
  | .refused .missingMember member value =>
      .refused .missingMember (pythonText "result." ++ member) value
  | raised => raised

/-- `_candidate` -/
def parseCandidate (value : PyObject) : Except BodyRaise AgentCandidate := do
  let members ← recast belowResult
    (agentMembers "result" resultMembers [] value)
  let proposalType ← bodyText "proposalType" "result.proposalType"
    (fun text => text = "candidate-location") members
  let sourceEventId ← bodyText "sourceEventId" "result.sourceEventId"
    isIdentifier members
  let sourceEventDigest ← bodyText "sourceEventDigest"
    "result.sourceEventDigest" isDigest members
  let droneId ← bodyText "droneId" "result.droneId" isIdentifier members
  let latitudeMicrodegrees ← bodyInteger "latitudeMicrodegrees"
    "result.latitudeMicrodegrees" (-90000000) 90000000 members
  let longitudeMicrodegrees ← bodyInteger "longitudeMicrodegrees"
    "result.longitudeMicrodegrees" (-180000000) 180000000 members
  let commandType ← bodyText "commandType" "result.commandType"
    (fun text => text = "escalate-rescue") members
  pure
    { proposalType, sourceEventId, sourceEventDigest, droneId,
      latitudeMicrodegrees, longitudeMicrodegrees, commandType }

/-- The candidate branch, where it is present. -/
def optionalCandidate (members : PyMembers) :
    Except BodyRaise (Option AgentCandidate) :=
  if has "result" members then do
    let value ← bodyMember "result" members
    (parseCandidate value).map some
  else
    .ok none

/-- The reason branch, where it is present. -/
def optionalReason (members : PyMembers) :
    Except BodyRaise (Option AgentResponseReason) :=
  if has "reason" members then
    (bodyWord "reason" reasons members).map some
  else
    .ok none

/-- `_bind_outcome` -/
def bindOutcome (outcome : AgentOutcome) (candidate : Option AgentCandidate)
    (reason : Option AgentResponseReason) (members : PyMembers) :
    Except BodyRaise Unit :=
  match outcome with
  | .candidate => do
      requireBound "result" candidate
      forbidBound "reason" reason members
  | .abstained => do
      requireBound "reason" reason
      forbidBound "result" candidate members

/-- `parse_agent_response` -/
def parseAgentResponse (document : PyObject) :
    Except BodyRaise AgentResponse := do
  let members ←
    agentMembers "response" commonMembers ["result", "reason"] document
  bodyVersion "agentResponseVersion" members
  let missionId ← bodyText "missionId" "missionId" isIdentifier members
  let agentName ← bodyText "agentName" "agentName" isAgentName members
  let invocationId ←
    bodyText "invocationId" "invocationId" isIdentifier members
  let correlationId ←
    bodyText "correlationId" "correlationId" isIdentifier members
  let outcome ← bodyWord "outcome" agentOutcomes members
  let candidate ← optionalCandidate members
  let reason ← optionalReason members
  bindOutcome outcome candidate reason members
  pure
    { missionId, agentName, invocationId, correlationId, outcome, candidate,
      reason }

/-! ## What the parsers raise -/

/-- The members of a document name its least unknown member, if it has one. -/
def Readable (allowed : List String) (document : PyObject) : Prop :=
  ∀ members, document = .mapping members → NamesUnknown allowed members

theorem requireMembers_ok {required : List String} {members : PyMembers}
    {value : Unit} (complete : requireMembers required members = .ok value) :
    ∀ name ∈ required, has name members = true := by
  unfold requireMembers at complete
  split at complete
  · cases complete
  · next none =>
      intro name member
      simpa using List.find?_eq_none.1 none name member

theorem requireMembers_own (required : List String) (members : PyMembers) :
    FailsOnly BodyRaise.Own (requireMembers required members) := by
  unfold requireMembers
  split
  · exact .error trivial
  · exact .ok ()

theorem rpcMembers_ok {label : String} {required optional : List String}
    {document : PyObject} {members : PyMembers}
    (closed : rpcMembers label required optional document = .ok members) :
    document = .mapping members ∧
      ∀ name ∈ required, has name members = true := by
  cases document with
  | mapping held =>
      simp only [rpcMembers] at closed
      split at closed
      · rcases bind_eq_ok.1 closed with ⟨_, _, raised⟩
        cases raised
      · rcases bind_eq_ok.1 closed with ⟨_, complete, returned⟩
        cases returned
        exact ⟨rfl, requireMembers_ok complete⟩
  | _ => cases closed

/-- The members are closed with a refusal of their own, or are not readable. -/
theorem rpcMembers_own {label : String} {required optional : List String}
    {document : PyObject} :
    FailsOnly BodyRaise.Own (rpcMembers label required optional document) ↔
      Readable (required ++ optional) document := by
  constructor
  · rintro own members rfl name least
    cases found : find? (.text name) members with
    | some value => rfl
    | none =>
        have raised :
            rpcMembers label required optional (.mapping members) =
              .error (.keyError name) := by
          simp only [rpcMembers, least, subscript, found]
          rfl
        exact (own _ raised).elim
  · intro readable
    cases document with
    | mapping members =>
        simp only [rpcMembers]
        split
        · next name least =>
            refine FailsOnly.bindOf ?_ fun value _ => .error trivial
            intro raised refused
            rcases Option.isSome_iff_exists.1 (readable members rfl name least)
              with ⟨value, found⟩
            rw [subscript, found] at refused
            cases refused
        · exact (requireMembers_own required members).bind fun _ => .ok _
    | _ => exact .error trivial

theorem find?_of_mem {key : PyKey} {members : PyMembers}
    (member : key ∈ members.map Prod.fst) :
    (find? key members).isSome = true := by
  induction members with
  | nil => cases member
  | cons first rest inductionHypothesis =>
      rcases first with ⟨held, value⟩
      by_cases same : held = key
      · simp [find?, same]
      · rcases List.mem_cons.1 member with rfl | later
        · exact absurd rfl same
        · simpa [find?, same] using inductionHypothesis later

/-- The unknown member that is selected is a key of the mapping. -/
theorem unknownMember_mem {allowed : List String} {members : PyMembers}
    {key : PyKey} (selected : unknownMember allowed members = some key) :
    key ∈ members.map Prod.fst := by
  have sorted := List.mem_of_head? selected
  have unknown := (List.perm_insertionSort _ _).mem_iff.1 sorted
  exact (List.mem_filter.1 unknown).1

theorem agentMembers_ok {label : String} {required optional : List String}
    {document : PyObject} {members : PyMembers}
    (closed : agentMembers label required optional document = .ok members) :
    document = .mapping members ∧
      ∀ name ∈ required, has name members = true := by
  cases document with
  | mapping held =>
      simp only [agentMembers] at closed
      split at closed
      · rcases bind_eq_ok.1 closed with ⟨_, _, raised⟩
        cases raised
      · rcases bind_eq_ok.1 closed with ⟨_, complete, returned⟩
        cases returned
        exact ⟨rfl, requireMembers_ok complete⟩
  | _ => cases closed

/-- Reading an unknown member by its own key always finds it. -/
theorem agentMembers_own (label : String) (required optional : List String)
    (document : PyObject) :
    FailsOnly BodyRaise.Own
      (agentMembers label required optional document) := by
  cases document with
  | mapping members =>
      simp only [agentMembers]
      split
      · next key selected =>
          refine FailsOnly.bindOf ?_ fun value _ => .error trivial
          intro raised refused
          rcases Option.isSome_iff_exists.1
            (find?_of_mem (unknownMember_mem selected)) with ⟨value, found⟩
          rw [found] at refused
          cases refused
      · exact (requireMembers_own required members).bind fun _ => .ok _
  | _ => exact .error trivial

section Readers

variable {members : PyMembers} {name : String}

theorem bodyMember_own (there : has name members = true) :
    FailsOnly BodyRaise.Own (bodyMember name members) := by
  intro raised refused
  rcases Option.isSome_iff_exists.1 there with ⟨value, found⟩
  rw [member?] at found
  rw [bodyMember, subscript, found] at refused
  cases refused

theorem bodyVersion_own (there : has name members = true) :
    FailsOnly BodyRaise.Own (bodyVersion name members) := by
  refine (bodyMember_own there).bind fun value => ?_
  cases value with
  | int version => exact .ensure trivial
  | _ => exact .error trivial

theorem bodyText_own {path : String} {pattern : String → Bool}
    (there : has name members = true) :
    FailsOnly BodyRaise.Own (bodyText name path pattern members) := by
  refine (bodyMember_own there).bind fun value => ?_
  cases value with
  | text value => exact FailsOnly.bind (.ensure trivial) fun _ => .ok _
  | _ => exact .error trivial

theorem bodyOptional_own {pattern : String → Bool} :
    FailsOnly BodyRaise.Own (bodyOptional name pattern members) := by
  unfold bodyOptional
  split
  · next there => exact (bodyText_own there).map
  · exact .ok none

theorem bodyWord_own {α : Type} {words : List (String × α)}
    (there : has name members = true) :
    FailsOnly BodyRaise.Own (bodyWord name words members) := by
  refine (bodyMember_own there).bind fun value => ?_
  cases value with
  | text value => exact .present trivial
  | _ => exact .error trivial

theorem bodyActuated_own (there : has "actuated" members = true) :
    FailsOnly BodyRaise.Own (bodyActuated members) := by
  refine (bodyMember_own there).bind fun value => ?_
  cases value with
  | bool actuated => exact .ok _
  | _ => exact .error trivial

theorem bodyInteger_own {path : String} {lower upper : Int}
    (there : has name members = true) :
    FailsOnly BodyRaise.Own (bodyInteger name path lower upper members) := by
  refine (bodyMember_own there).bind fun value => ?_
  cases value with
  | int number => exact FailsOnly.bind (.ensure trivial) fun _ => .ok _
  | _ => exact .error trivial

/-- A forbidden member that was parsed is there to be named. -/
theorem forbidBound_own {α : Type} {value : Option α}
    (there : value.isSome = true → has name members = true) :
    FailsOnly BodyRaise.Own (forbidBound name value members) := by
  unfold forbidBound
  split
  · next held =>
      exact (bodyMember_own (there held)).bind fun _ => .error trivial
  · exact .ok ()

/-- What an optional reader returns was there to be read. -/
theorem has_of_bodyOptional {pattern : String → Bool} {value : Option String}
    (read : bodyOptional name pattern members = .ok value)
    (some : value.isSome = true) : has name members = true := by
  unfold bodyOptional at read
  split at read
  · assumption
  · cases read
    cases some

end Readers

/-! ## The parsers raise their own errors -/

theorem parseGatewayRequest_own {document : PyObject} :
    FailsOnly BodyRaise.Own (parseGatewayRequest document) ↔
      Readable requestMembers document := by
  have closed := @rpcMembers_own "request" requestMembers [] document
  rw [List.append_nil] at closed
  rw [← closed]
  constructor
  · intro own raised refused
    exact own raised (bind_eq_error.2 (.inl refused))
  · intro own
    refine own.bindOf fun members accepted => ?_
    have there := (rpcMembers_ok accepted).2
    refine (bodyVersion_own (there _ (by decide))).bind fun _ => ?_
    refine (bodyText_own (there _ (by decide))).bind fun _ => ?_
    refine (bodyText_own (there _ (by decide))).bind fun _ => ?_
    refine (bodyText_own (there _ (by decide))).bind fun _ => ?_
    exact .ok _

theorem bodyBinding_own {outcome : Outcome} {authority refusal : Option String}
    {members : PyMembers}
    (authorityRead :
      bodyOptional "authority" isKind members = .ok authority)
    (refusalRead : bodyOptional "refusal" isKind members = .ok refusal) :
    FailsOnly BodyRaise.Own
      (bodyBinding outcome authority refusal members) := by
  cases outcome with
  | answered =>
      exact FailsOnly.bind (.ensure trivial) fun _ =>
        forbidBound_own (has_of_bodyOptional refusalRead)
  | refused =>
      exact FailsOnly.bind (.ensure trivial) fun _ =>
        forbidBound_own (has_of_bodyOptional authorityRead)

theorem parseGatewayResponse_own {document : PyObject} :
    FailsOnly BodyRaise.Own (parseGatewayResponse document) ↔
      Readable (responseMembers ++ responseOptionalMembers) document := by
  rw [← @rpcMembers_own "response"]
  constructor
  · intro own raised refused
    exact own raised (bind_eq_error.2 (.inl refused))
  · intro own
    refine own.bindOf fun members accepted => ?_
    have there := (rpcMembers_ok accepted).2
    refine (bodyVersion_own (there _ (by decide))).bind fun _ => ?_
    refine (bodyText_own (there _ (by decide))).bind fun _ => ?_
    refine (bodyText_own (there _ (by decide))).bind fun _ => ?_
    refine (bodyText_own (there _ (by decide))).bind fun _ => ?_
    refine (bodyText_own (there _ (by decide))).bind fun _ => ?_
    refine (bodyWord_own (there _ (by decide))).bind fun _ => ?_
    refine (bodyActuated_own (there _ (by decide))).bind fun _ => ?_
    refine bodyOptional_own.bindOf fun _ authorityRead => ?_
    refine bodyOptional_own.bindOf fun _ refusalRead => ?_
    refine (bodyBinding_own authorityRead refusalRead).bind fun _ => ?_
    exact .ok _

theorem belowResult_own {raised : BodyRaise} (own : raised.Own) :
    (belowResult raised).Own := by
  cases raised with
  | keyError => exact own
  | refused refusal => cases refusal <;> trivial

theorem parseCandidate_own (value : PyObject) :
    FailsOnly BodyRaise.Own (parseCandidate value) := by
  have closed : FailsOnly BodyRaise.Own
      (recast belowResult (agentMembers "result" resultMembers [] value)) := by
    intro raised refused
    rcases recast_eq_error.1 refused with ⟨inner, here, rfl⟩
    exact belowResult_own (agentMembers_own _ _ _ _ inner here)
  refine closed.bindOf fun members accepted => ?_
  have there := (agentMembers_ok (recast_eq_ok.1 accepted)).2
  refine (bodyText_own (there _ (by decide))).bind fun _ => ?_
  refine (bodyText_own (there _ (by decide))).bind fun _ => ?_
  refine (bodyText_own (there _ (by decide))).bind fun _ => ?_
  refine (bodyText_own (there _ (by decide))).bind fun _ => ?_
  refine (bodyInteger_own (there _ (by decide))).bind fun _ => ?_
  refine (bodyInteger_own (there _ (by decide))).bind fun _ => ?_
  refine (bodyText_own (there _ (by decide))).bind fun _ => ?_
  exact .ok _

theorem optionalCandidate_own {members : PyMembers} :
    FailsOnly BodyRaise.Own (optionalCandidate members) := by
  unfold optionalCandidate
  split
  · next there =>
      exact (bodyMember_own there).bind fun value =>
        (parseCandidate_own value).map
  · exact .ok none

theorem optionalReason_own {members : PyMembers} :
    FailsOnly BodyRaise.Own (optionalReason members) := by
  unfold optionalReason
  split
  · next there => exact (bodyWord_own there).map
  · exact .ok none

theorem has_of_optionalCandidate {members : PyMembers}
    {candidate : Option AgentCandidate}
    (read : optionalCandidate members = .ok candidate)
    (some : candidate.isSome = true) : has "result" members = true := by
  unfold optionalCandidate at read
  split at read
  · assumption
  · cases read
    cases some

theorem has_of_optionalReason {members : PyMembers}
    {reason : Option AgentResponseReason}
    (read : optionalReason members = .ok reason)
    (some : reason.isSome = true) : has "reason" members = true := by
  unfold optionalReason at read
  split at read
  · assumption
  · cases read
    cases some

theorem bindOutcome_own {outcome : AgentOutcome}
    {candidate : Option AgentCandidate} {reason : Option AgentResponseReason}
    {members : PyMembers}
    (candidateRead : optionalCandidate members = .ok candidate)
    (reasonRead : optionalReason members = .ok reason) :
    FailsOnly BodyRaise.Own
      (bindOutcome outcome candidate reason members) := by
  cases outcome with
  | candidate =>
      exact FailsOnly.bind (.ensure trivial) fun _ =>
        forbidBound_own (has_of_optionalReason reasonRead)
  | abstained =>
      exact FailsOnly.bind (.ensure trivial) fun _ =>
        forbidBound_own (has_of_optionalCandidate candidateRead)

theorem parseAgentResponse_own (document : PyObject) :
    FailsOnly BodyRaise.Own (parseAgentResponse document) := by
  refine (agentMembers_own _ _ _ document).bindOf fun members accepted => ?_
  have there := (agentMembers_ok accepted).2
  refine (bodyVersion_own (there _ (by decide))).bind fun _ => ?_
  refine (bodyText_own (there _ (by decide))).bind fun _ => ?_
  refine (bodyText_own (there _ (by decide))).bind fun _ => ?_
  refine (bodyText_own (there _ (by decide))).bind fun _ => ?_
  refine (bodyText_own (there _ (by decide))).bind fun _ => ?_
  refine (bodyWord_own (there _ (by decide))).bind fun _ => ?_
  refine optionalCandidate_own.bindOf fun _ candidateRead => ?_
  refine optionalReason_own.bindOf fun _ reasonRead => ?_
  refine (bindOutcome_own candidateRead reasonRead).bind fun _ => ?_
  exact .ok _

/-! ## Round trips -/

section Wire

variable {members : Value.Members} {name : String}

/-- A decoded object with a closed complete member set is accepted. -/
theorem rpcMembers_ofMembers {label : String}
    {required optional : List String}
    (closed :
      ∀ key ∈ Value.keys members, key ∈ required ++ optional)
    (complete : ∀ key ∈ required, Value.has key members = true) :
    rpcMembers label required optional (.mapping (ofMembers members)) =
      .ok (ofMembers members) := by
  have none :
      leastUnknown (required ++ optional) (ofMembers members) = none := by
    rw [leastUnknown, PyObject.unknownKeys_ofMembers,
      List.filter_eq_nil_iff.2]
    · rfl
    · intro key member
      simpa [or_iff_not_imp_left] using closed key member
  have required_there : requireMembers required (ofMembers members) =
      .ok () := by
    unfold requireMembers
    rw [List.find?_eq_none.2]
    intro key member
    simpa using complete key member
  simp only [rpcMembers, none, required_there]
  rfl

theorem bodyMember_ofMembers {value : Value}
    (held : Value.member? name members = some value) :
    bodyMember name (ofMembers members) = .ok (ofValue value) := by
  have found := PyObject.member?_ofMembers name members
  rw [held, Option.map_some, member?] at found
  rw [bodyMember, subscript, found]
  rfl

theorem bodyVersion_ofMembers
    (held : Value.member? name members = some (.int 1)) :
    bodyVersion name (ofMembers members) = .ok () := by
  rw [bodyVersion, bodyMember_ofMembers held]
  rfl

theorem bodyText_ofMembers {path text : String} {pattern : String → Bool}
    (held : Value.member? name members = some (.text text))
    (matched : pattern text = true) :
    bodyText name path pattern (ofMembers members) = .ok text := by
  have formed : matchesRule pattern (pythonText text) = true := by
    rw [PyObject.matchesRule_pythonText, matched]
  rw [bodyText, bodyMember_ofMembers held]
  simp only [ofValue]
  refine bind_eq_ok.2 ⟨_, rfl, ?_⟩
  refine bind_eq_ok.2 ⟨(), ensure_eq_ok.2 formed, ?_⟩
  rw [scalars_pythonText]
  rfl

theorem bodyOptional_some {text : String} {pattern : String → Bool}
    (held : Value.member? name members = some (.text text))
    (matched : pattern text = true) :
    bodyOptional name pattern (ofMembers members) = .ok (some text) := by
  have there : has name (ofMembers members) = true := by
    rw [PyObject.has_ofMembers, Value.has, held]
    rfl
  rw [bodyOptional, if_pos there, bodyText_ofMembers held matched]
  rfl

theorem bodyOptional_none {pattern : String → Bool}
    (absent : Value.member? name members = none) :
    bodyOptional name pattern (ofMembers members) = .ok none := by
  have missing : has name (ofMembers members) = false := by
    rw [PyObject.has_ofMembers, Value.has, absent]
    rfl
  rw [bodyOptional, missing]
  rfl

theorem bodyWord_ofMembers {α : Type} {words : List (String × α)}
    {word : String} {value : α}
    (held : Value.member? name members = some (.text word))
    (among :
      ((words.find? fun entry => entry.1 = word).map Prod.snd) =
        some value) :
    bodyWord name words (ofMembers members) = .ok value := by
  rw [bodyWord, bodyMember_ofMembers held]
  simp only [ofValue]
  refine bind_eq_ok.2 ⟨_, rfl, ?_⟩
  simp only [PyObject.pythonText_eq, among]
  rfl

theorem bodyActuated_ofMembers {actuated : Bool}
    (held : Value.member? "actuated" members = some (.bool actuated)) :
    bodyActuated (ofMembers members) = .ok actuated := by
  rw [bodyActuated, bodyMember_ofMembers held]
  rfl

theorem bodyInteger_ofMembers {path : String} {lower upper number : Int}
    (held : Value.member? name members = some (.int number))
    (bounded : lower ≤ number ∧ number ≤ upper) :
    bodyInteger name path lower upper (ofMembers members) = .ok number := by
  rw [bodyInteger, bodyMember_ofMembers held]
  simp only [ofValue]
  refine bind_eq_ok.2 ⟨_, rfl, ?_⟩
  exact bind_eq_ok.2 ⟨(), ensure_eq_ok.2 bounded, rfl⟩

end Wire

theorem bodyText_ok {name path text : String} {pattern : String → Bool}
    {members : PyMembers}
    (read : bodyText name path pattern members = .ok text) :
    pattern text = true := by
  rcases bind_eq_ok.1 read with ⟨value, _, checked⟩
  cases value with
  | text value =>
      rcases bind_eq_ok.1 checked with ⟨_, matched, returned⟩
      have formed := ensure_eq_ok.1 matched
      rw [matchesRule, Bool.and_eq_true] at formed
      cases returned
      exact formed.2
  | _ => cases checked

theorem bodyOptional_ok {name : String} {pattern : String → Bool}
    {members : PyMembers} {value : Option String}
    (read : bodyOptional name pattern members = .ok value) :
    value.all pattern = true := by
  unfold bodyOptional at read
  split at read
  · cases inner : bodyText name name pattern members with
    | error raised =>
        rw [inner] at read
        cases read
    | ok text =>
        rw [inner] at read
        cases read
        exact bodyText_ok inner
  · cases read
    rfl

theorem bodyInteger_ok {name path : String} {lower upper number : Int}
    {members : PyMembers}
    (read : bodyInteger name path lower upper members = .ok number) :
    lower ≤ number ∧ number ≤ upper := by
  rcases bind_eq_ok.1 read with ⟨value, _, checked⟩
  cases value with
  | int value =>
      rcases bind_eq_ok.1 checked with ⟨_, bounded, returned⟩
      cases returned
      exact ensure_eq_ok.1 bounded
  | _ => cases checked

theorem requireBound_ok {α : Type} {name : String} {value : Option α}
    {result : Unit} (bound : requireBound name value = .ok result) :
    value.isSome = true :=
  ensure_eq_ok.1 bound

theorem forbidBound_ok {α : Type} {name : String} {value : Option α}
    {members : PyMembers} {result : Unit}
    (free : forbidBound name value members = .ok result) : value = none := by
  unfold forbidBound at free
  split at free
  · rcases bind_eq_ok.1 free with ⟨_, _, raised⟩
    cases raised
  · next absent => simpa using absent

/-- What an accepted request obeys. -/
structure RequestForm (request : GatewayRequest) : Prop where
  missionId : isIdentifier request.missionId = true
  operation : isKind request.operation = true
  commandType : isKind request.commandType = true

theorem parseGatewayRequest_ok {document : PyObject}
    {request : GatewayRequest}
    (accepted : parseGatewayRequest document = .ok request) :
    RequestForm request := by
  simp only [parseGatewayRequest, bind_eq_ok, pure_eq_ok] at accepted
  rcases accepted with
    ⟨_, _, _, _, _, mission, _, operation, _, command, rfl⟩
  exact ⟨bodyText_ok mission, bodyText_ok operation, bodyText_ok command⟩

theorem parseGatewayRequest_document {request : GatewayRequest}
    (form : RequestForm request) :
    parseGatewayRequest (ofValue (.object (gatewayRequestDocument request))) =
      .ok request := by
  have closed := @rpcMembers_ofMembers (gatewayRequestDocument request)
    "request" requestMembers []
    (by simp [gatewayRequestDocument, Value.keys, requestMembers])
    (by
      simp [gatewayRequestDocument, requestMembers, Value.has,
        Value.member?])
  simp only [parseGatewayRequest, bind_eq_ok, pure_eq_ok]
  exact ⟨_, closed, (), bodyVersion_ofMembers rfl,
    _, bodyText_ofMembers rfl form.missionId,
    _, bodyText_ofMembers rfl form.operation,
    _, bodyText_ofMembers rfl form.commandType, rfl⟩

/-- The members that an outcome requires and forbids. -/
def ResponseMembers (response : GatewayResponse) : Prop :=
  match response.outcome with
  | .answered => response.authority.isSome = true ∧ response.refusal = none
  | .refused => response.refusal.isSome = true ∧ response.authority = none

/-- What an accepted response obeys. -/
structure ResponseForm (response : GatewayResponse) : Prop where
  missionId : isIdentifier response.missionId = true
  requestId : isIdentifier response.requestId = true
  operation : isKind response.operation = true
  commandType : isKind response.commandType = true
  authority : response.authority.all isKind = true
  refusal : response.refusal.all isKind = true
  members : ResponseMembers response

theorem parseGatewayResponse_ok {document : PyObject}
    {response : GatewayResponse}
    (accepted : parseGatewayResponse document = .ok response) :
    ResponseForm response := by
  simp only [parseGatewayResponse, bind_eq_ok, pure_eq_ok] at accepted
  rcases accepted with
    ⟨_, _, _, _, _, mission, _, request, _, operation, _, command, outcome,
      _, _, _, _, authority, _, refusal, _, bound, rfl⟩
  refine ⟨bodyText_ok mission, bodyText_ok request, bodyText_ok operation,
    bodyText_ok command, bodyOptional_ok authority, bodyOptional_ok refusal,
    ?_⟩
  cases outcome with
  | answered =>
      rcases bind_eq_ok.1 bound with ⟨_, required, forbidden⟩
      exact ⟨requireBound_ok required, forbidBound_ok forbidden⟩
  | refused =>
      rcases bind_eq_ok.1 bound with ⟨_, required, forbidden⟩
      exact ⟨requireBound_ok required, forbidBound_ok forbidden⟩

theorem bodyWord_outcome {members : Value.Members} {outcome : Outcome}
    (held : Value.member? "outcome" members = some (.text outcome.word)) :
    bodyWord "outcome" outcomes (ofMembers members) = .ok outcome := by
  refine bodyWord_ofMembers held ?_
  cases outcome <;> decide

/-- The document of an accepted response has its optional members alone. -/
theorem parseGatewayResponse_document {response : GatewayResponse}
    (form : ResponseForm response) :
    parseGatewayResponse
        (ofValue (.object (gatewayResponseDocument response))) =
      .ok response := by
  rcases response with
    ⟨missionId, requestId, operation, commandType, outcome, actuated,
      authority, refusal⟩
  have closed := @rpcMembers_ofMembers
    (gatewayResponseDocument ⟨missionId, requestId, operation, commandType,
      outcome, actuated, authority, refusal⟩)
    "response" responseMembers responseOptionalMembers
    (by
      cases authority <;> cases refusal <;>
        simp [gatewayResponseDocument, Value.keys, responseMembers,
          requestMembers, responseOptionalMembers])
    (by
      simp [gatewayResponseDocument, responseMembers, requestMembers,
        Value.has, Value.member?])
  have optional :
      bodyOptional "authority" isKind
          (ofMembers (gatewayResponseDocument ⟨missionId, requestId,
            operation, commandType, outcome, actuated, authority,
            refusal⟩)) = .ok authority ∧
        bodyOptional "refusal" isKind
          (ofMembers (gatewayResponseDocument ⟨missionId, requestId,
            operation, commandType, outcome, actuated, authority,
            refusal⟩)) = .ok refusal := by
    have authorityForm := form.authority
    have refusalForm := form.refusal
    constructor
    · cases authority with
      | none =>
          cases refusal <;> exact bodyOptional_none rfl
      | some value => exact bodyOptional_some rfl authorityForm
    · cases refusal with
      | none => cases authority <;> exact bodyOptional_none rfl
      | some value =>
          cases authority <;> exact bodyOptional_some rfl refusalForm
  have bound :
      bodyBinding outcome authority refusal
          (ofMembers (gatewayResponseDocument ⟨missionId, requestId,
            operation, commandType, outcome, actuated, authority,
            refusal⟩)) = .ok () := by
    have allowed := form.members
    cases outcome with
    | answered =>
        rcases allowed with ⟨some, none⟩
        cases none
        exact bind_eq_ok.2 ⟨(), ensure_eq_ok.2 some, rfl⟩
    | refused =>
        rcases allowed with ⟨some, none⟩
        cases none
        exact bind_eq_ok.2 ⟨(), ensure_eq_ok.2 some, rfl⟩
  simp only [parseGatewayResponse, bind_eq_ok, pure_eq_ok]
  exact ⟨_, closed, (), bodyVersion_ofMembers rfl,
    _, bodyText_ofMembers rfl form.missionId,
    _, bodyText_ofMembers rfl form.requestId,
    _, bodyText_ofMembers rfl form.operation,
    _, bodyText_ofMembers rfl form.commandType,
    _, bodyWord_outcome rfl, _, bodyActuated_ofMembers rfl,
    _, optional.1, _, optional.2, (), bound, rfl⟩

/-- What an accepted candidate obeys. -/
structure CandidateForm (candidate : AgentCandidate) : Prop where
  proposalType : candidate.proposalType = "candidate-location"
  sourceEventId : isIdentifier candidate.sourceEventId = true
  sourceEventDigest : isDigest candidate.sourceEventDigest = true
  droneId : isIdentifier candidate.droneId = true
  latitude :
    -90000000 ≤ candidate.latitudeMicrodegrees ∧
      candidate.latitudeMicrodegrees ≤ 90000000
  longitude :
    -180000000 ≤ candidate.longitudeMicrodegrees ∧
      candidate.longitudeMicrodegrees ≤ 180000000
  commandType : candidate.commandType = "escalate-rescue"

theorem parseCandidate_ok {value : PyObject} {candidate : AgentCandidate}
    (accepted : parseCandidate value = .ok candidate) :
    CandidateForm candidate := by
  simp only [parseCandidate, bind_eq_ok, pure_eq_ok] at accepted
  rcases accepted with
    ⟨_, _, _, proposal, _, event, _, digest, _, drone, _, latitude, _,
      longitude, _, command, rfl⟩
  exact ⟨of_decide_eq_true (bodyText_ok proposal), bodyText_ok event,
    bodyText_ok digest, bodyText_ok drone, bodyInteger_ok latitude,
    bodyInteger_ok longitude, of_decide_eq_true (bodyText_ok command)⟩

/-- A decoded object with a closed complete member set is accepted. -/
theorem agentMembers_ofMembers {members : Value.Members} {label : String}
    {required optional : List String}
    (closed :
      ∀ key ∈ Value.keys members, key ∈ required ++ optional)
    (complete : ∀ key ∈ required, Value.has key members = true) :
    agentMembers label required optional (.mapping (ofMembers members)) =
      .ok (ofMembers members) := by
  have none :
      unknownMember (required ++ optional) (ofMembers members) = none := by
    rw [unknownMember, PyObject.unknownKeys_ofMembers,
      List.filter_eq_nil_iff.2]
    · rfl
    · intro key member
      simpa [or_iff_not_imp_left] using closed key member
  have required_there : requireMembers required (ofMembers members) =
      .ok () := by
    unfold requireMembers
    rw [List.find?_eq_none.2]
    intro key member
    simpa using complete key member
  simp only [agentMembers, none, required_there]
  rfl

theorem parseCandidate_document {candidate : AgentCandidate}
    (form : CandidateForm candidate) :
    parseCandidate (ofValue (.object (candidateDocument candidate))) =
      .ok candidate := by
  have closed := @agentMembers_ofMembers (candidateDocument candidate)
    "result" resultMembers []
    (by simp [candidateDocument, Value.keys, resultMembers])
    (by
      intro key member
      simp only [resultMembers, List.mem_cons, List.not_mem_nil,
        or_false] at member
      rcases member with rfl | rfl | rfl | rfl | rfl | rfl | rfl <;> rfl)
  simp only [parseCandidate, bind_eq_ok, pure_eq_ok, recast_eq_ok]
  exact ⟨_, closed,
    _, bodyText_ofMembers rfl (decide_eq_true form.proposalType),
    _, bodyText_ofMembers rfl form.sourceEventId,
    _, bodyText_ofMembers rfl form.sourceEventDigest,
    _, bodyText_ofMembers rfl form.droneId,
    _, bodyInteger_ofMembers rfl form.latitude,
    _, bodyInteger_ofMembers rfl form.longitude,
    _, bodyText_ofMembers rfl (decide_eq_true form.commandType), rfl⟩

/-- The branch members that an agent outcome requires and forbids. -/
def BranchMembers (response : AgentResponse) : Prop :=
  match response.outcome with
  | .candidate => response.candidate.isSome = true ∧ response.reason = none
  | .abstained => response.reason.isSome = true ∧ response.candidate = none

/-- What an accepted Agent Mesh response obeys. -/
structure AgentForm (response : AgentResponse) : Prop where
  missionId : isIdentifier response.missionId = true
  agentName : isAgentName response.agentName = true
  invocationId : isIdentifier response.invocationId = true
  correlationId : isIdentifier response.correlationId = true
  candidate : ∀ candidate, response.candidate = some candidate →
    CandidateForm candidate
  members : BranchMembers response

theorem optionalCandidate_ok {members : PyMembers}
    {candidate : AgentCandidate}
    (read : optionalCandidate members = .ok (some candidate)) :
    CandidateForm candidate := by
  unfold optionalCandidate at read
  split at read
  · rcases bind_eq_ok.1 read with ⟨value, _, parsed⟩
    cases inner : parseCandidate value with
    | error raised =>
        rw [inner] at parsed
        cases parsed
    | ok held =>
        rw [inner] at parsed
        cases parsed
        exact parseCandidate_ok inner
  · cases read

theorem parseAgentResponse_ok {document : PyObject}
    {response : AgentResponse}
    (accepted : parseAgentResponse document = .ok response) :
    AgentForm response := by
  simp only [parseAgentResponse, bind_eq_ok, pure_eq_ok] at accepted
  rcases accepted with
    ⟨_, _, _, _, _, mission, _, agent, _, invocation, _, correlation,
      outcome, _, _, candidate, _, reason, _, bound, rfl⟩
  refine ⟨bodyText_ok mission, bodyText_ok agent, bodyText_ok invocation,
    bodyText_ok correlation, ?_, ?_⟩
  · rintro held rfl
    exact optionalCandidate_ok candidate
  · cases outcome with
    | candidate =>
        rcases bind_eq_ok.1 bound with ⟨_, required, forbidden⟩
        exact ⟨requireBound_ok required, forbidBound_ok forbidden⟩
    | abstained =>
        rcases bind_eq_ok.1 bound with ⟨_, required, forbidden⟩
        exact ⟨requireBound_ok required, forbidBound_ok forbidden⟩

theorem bodyWord_agentOutcome {members : Value.Members}
    {outcome : AgentOutcome}
    (held : Value.member? "outcome" members = some (.text outcome.word)) :
    bodyWord "outcome" agentOutcomes (ofMembers members) = .ok outcome := by
  refine bodyWord_ofMembers held ?_
  cases outcome <;> decide

theorem bodyWord_reason {members : Value.Members}
    {reason : AgentResponseReason}
    (held : Value.member? "reason" members = some (.text reason.word)) :
    bodyWord "reason" reasons (ofMembers members) = .ok reason := by
  refine bodyWord_ofMembers held ?_
  cases reason <;> decide

theorem has_ofMembers_of {members : Value.Members} {name : String}
    {value : Value} (held : Value.member? name members = some value) :
    has name (ofMembers members) = true := by
  rw [PyObject.has_ofMembers, Value.has, held]
  rfl

theorem optionalCandidate_some {members : Value.Members}
    {candidate : AgentCandidate} (form : CandidateForm candidate)
    (held :
      Value.member? "result" members =
        some (.object (candidateDocument candidate))) :
    optionalCandidate (ofMembers members) = .ok (some candidate) := by
  rw [optionalCandidate, if_pos (has_ofMembers_of held)]
  refine bind_eq_ok.2 ⟨_, bodyMember_ofMembers held, ?_⟩
  rw [parseCandidate_document form]
  rfl

theorem optionalReason_some {members : Value.Members}
    {reason : AgentResponseReason}
    (held : Value.member? "reason" members = some (.text reason.word)) :
    optionalReason (ofMembers members) = .ok (some reason) := by
  rw [optionalReason, if_pos (has_ofMembers_of held), bodyWord_reason held]
  rfl

theorem has_ofMembers_none {members : Value.Members} {name : String}
    (absent : Value.member? name members = none) :
    has name (ofMembers members) = false := by
  rw [PyObject.has_ofMembers, Value.has, absent]
  rfl

/-- The document of an accepted response has its own branch alone. -/
theorem parseAgentResponse_document {response : AgentResponse}
    (form : AgentForm response) :
    parseAgentResponse (ofValue (.object (agentResponseDocument response))) =
      .ok response := by
  rcases response with
    ⟨missionId, agentName, invocationId, correlationId, outcome, candidate,
      reason⟩
  have closed := @agentMembers_ofMembers
    (agentResponseDocument ⟨missionId, agentName, invocationId,
      correlationId, outcome, candidate, reason⟩)
    "response" commonMembers ["result", "reason"]
    (by
      cases candidate <;> cases reason <;>
        simp [agentResponseDocument, Value.keys, commonMembers])
    (by
      simp [agentResponseDocument, commonMembers, Value.has,
        Value.member?])
  have candidateForm := form.candidate
  have allowed := form.members
  simp only [parseAgentResponse, bind_eq_ok, pure_eq_ok]
  refine ⟨_, closed, (), bodyVersion_ofMembers rfl,
    _, bodyText_ofMembers rfl form.missionId,
    _, bodyText_ofMembers rfl form.agentName,
    _, bodyText_ofMembers rfl form.invocationId,
    _, bodyText_ofMembers rfl form.correlationId,
    _, bodyWord_agentOutcome rfl, candidate, ?_, reason, ?_, (), ?_, rfl⟩
  · cases candidate with
    | some held => exact optionalCandidate_some (candidateForm held rfl) rfl
    | none =>
        cases reason with
        | none => rw [optionalCandidate, has_ofMembers_none rfl]; rfl
        | some held => rw [optionalCandidate, has_ofMembers_none rfl]; rfl
  · cases reason with
    | some held =>
        cases candidate <;> exact optionalReason_some rfl
    | none =>
        cases candidate with
        | none => rw [optionalReason, has_ofMembers_none rfl]; rfl
        | some held => rw [optionalReason, has_ofMembers_none rfl]; rfl
  · cases outcome with
    | candidate =>
        rcases allowed with ⟨some, none⟩
        cases none
        exact bind_eq_ok.2 ⟨(), ensure_eq_ok.2 some, rfl⟩
    | abstained =>
        rcases allowed with ⟨some, none⟩
        cases none
        exact bind_eq_ok.2 ⟨(), ensure_eq_ok.2 some, rfl⟩

/-! ## Decoded bodies -/

section Decoded

variable {members : Value.Members} {name : String}

theorem bodyMember_absent (absent : Value.member? name members = none) :
    bodyMember name (ofMembers members) =
      .error (.keyError (pythonText name)) := by
  have found := PyObject.member?_ofMembers name members
  rw [absent, Option.map_none, member?] at found
  rw [bodyMember, subscript, found]
  rfl

theorem get_of_member? {value : Value}
    (held : Value.member? name members = some value) :
    Value.get name members = value := by
  rw [Value.get, held, Option.getD_some]

theorem get_single (value : Value) : Value.get name [(name, value)] = value := by
  simp [Value.get, Value.member?]

theorem get_of_absent (absent : Value.member? name members = none) :
    Value.get name members = .null := by
  rw [Value.get, absent, Option.getD_none]

theorem agree_bodyVersion :
    Agree (bodyVersion name (ofMembers members))
      (Rpc.bodyVersion members name) := by
  cases held : Value.member? name members with
  | none =>
      rw [bodyVersion, bodyMember_absent held, Rpc.bodyVersion,
        get_of_absent held]
      exact .refuse
  | some value =>
      rw [bodyVersion, bodyMember_ofMembers held, Rpc.bodyVersion,
        get_of_member? held]
      cases value with
      | int version =>
          intro result
          by_cases supported : version = 1 <;>
            simp [ofValue, ensure, supported, bind_eq_ok]
      | _ => exact .refuse

theorem agree_bodyText {path : String} {pattern : String → Bool} :
    Agree (bodyText name path pattern (ofMembers members))
      (Rpc.bodyText members name path pattern) := by
  cases held : Value.member? name members with
  | none =>
      rw [bodyText, bodyMember_absent held, Rpc.bodyText, get_of_absent held]
      exact .refuse
  | some value =>
      rw [bodyText, bodyMember_ofMembers held, Rpc.bodyText,
        get_of_member? held]
      cases value with
      | text text =>
          intro result
          cases matched : pattern text <;>
            simp [ofValue, ensure, matched, bind_eq_ok]
      | _ => exact .refuse

theorem agree_bodyOptional {pattern : String → Bool} :
    Agree (bodyOptional name pattern (ofMembers members))
      (Rpc.bodyOptional members name pattern) := by
  unfold bodyOptional Rpc.bodyOptional
  rw [PyObject.has_ofMembers]
  split
  · exact agree_bodyText.map some
  · exact .pure none

theorem agree_bodyInteger {path : String} {lower upper : Int} :
    Agree (bodyInteger name path lower upper (ofMembers members))
      (Rpc.bodyInteger members name path lower upper) := by
  cases held : Value.member? name members with
  | none =>
      rw [bodyInteger, bodyMember_absent held, Rpc.bodyInteger,
        get_of_absent held]
      exact .refuse
  | some value =>
      rw [bodyInteger, bodyMember_ofMembers held, Rpc.bodyInteger,
        get_of_member? held]
      cases value with
      | int number =>
          intro result
          by_cases bounded : lower ≤ number ∧ number ≤ upper <;>
            simp [ofValue, ensure, bounded, bind_eq_ok]
      | _ => exact .refuse

theorem agree_bodyActuated :
    Agree (bodyActuated (ofMembers members))
      (Rpc.bodyActuated members) := by
  cases held : Value.member? "actuated" members with
  | none =>
      rw [bodyActuated, bodyMember_absent held, Rpc.bodyActuated,
        get_of_absent held]
      exact .refuse
  | some value =>
      rw [bodyActuated, bodyMember_ofMembers held, Rpc.bodyActuated,
        get_of_member? held]
      cases value with
      | bool actuated => exact .pure actuated
      | _ => exact .refuse

/-- A closed set of words agrees with a match on the same words. -/
theorem agree_bodyWord {α : Type} {words : List (String × α)}
    {decoded : Value → Except BodyError α}
    (among : ∀ text,
      Agree
        (present ((words.find? fun word => word.1 = text).map Prod.snd) ())
        (decoded (.text text)))
    (refused : ∀ value, (∀ text, value ≠ .text text) →
      ∃ error, decoded value = .error error) :
    Agree (bodyWord name words (ofMembers members))
      (decoded (Value.get name members)) := by
  cases held : Value.member? name members with
  | none =>
      rw [bodyWord, bodyMember_absent held, get_of_absent held]
      rcases refused .null nofun with ⟨error, raised⟩
      rw [raised]
      exact .refuse
  | some value =>
      rw [bodyWord, bodyMember_ofMembers held, get_of_member? held]
      by_cases isText : ∃ text, value = .text text
      · rcases isText with ⟨text, rfl⟩
        intro result
        rw [← among text result]
        simp [ofValue, bind_eq_ok, PyObject.pythonText_eq, present_eq_ok]
      · rcases refused value fun text same => isText ⟨text, same⟩ with
          ⟨error, raised⟩
        rw [raised]
        cases value with
        | text text => exact absurd ⟨text, rfl⟩ isText
        | _ => exact .refuse

end Decoded

/-- A decoded object is closed and complete. -/
def ClosedBody (required optional : List String) (members : Value.Members) :
    Prop :=
  (∀ key ∈ Value.keys members, key ∈ required ++ optional) ∧
    ∀ key ∈ required, Value.has key members = true

theorem bodyMembers_eq_ok {label : String} {required optional : List String}
    {members found : Value.Members} :
    bodyMembers label required optional (.object members) = .ok found ↔
      found = members ∧ ClosedBody required optional members := by
  simp only [bodyMembers, bind_eq_ok, ensure_eq_ok, exists_const, pure_eq_ok,
    List.isEmpty_iff, List.filter_eq_nil_iff, ClosedBody]
  constructor
  · rintro ⟨closed, complete, rfl⟩
    refine ⟨rfl, fun key member => ?_, fun key member => ?_⟩
    · simpa [or_iff_not_imp_left] using closed key member
    · simpa using complete key member
  · rintro ⟨rfl, closed, complete⟩
    refine ⟨fun key member => ?_, fun key member => ?_, rfl⟩
    · simpa [or_iff_not_imp_left] using closed key member
    · simpa using complete key member

/-- A document without an unknown key has none of least spelling. -/
theorem closed_of_sorted {κ : Type} {order : κ → κ → Prop}
    [DecidableRel order] {keys : List κ}
    (none : (keys.insertionSort order).head? = none) : keys = [] := by
  have sorted := (List.perm_insertionSort order keys).length_eq
  rw [List.head?_eq_none_iff.1 none] at sorted
  exact List.length_eq_zero_iff.1 sorted.symm

theorem closed_of_unknownKeys {allowed : List String}
    {members : Value.Members}
    (none : unknownKeys allowed (ofMembers members) = []) :
    ∀ key ∈ Value.keys members, key ∈ allowed := by
  rw [PyObject.unknownKeys_ofMembers, List.map_eq_nil_iff,
    List.filter_eq_nil_iff] at none
  intro key member
  simpa using none key member

theorem complete_of_has {required : List String} {members : Value.Members}
    (there : ∀ name ∈ required, has name (ofMembers members) = true) :
    ∀ key ∈ required, Value.has key members = true := by
  intro key member
  rw [← PyObject.has_ofMembers]
  exact there key member

theorem rpcMembers_decoded {label : String} {required optional : List String}
    {members : Value.Members} {found : PyMembers} :
    rpcMembers label required optional (ofValue (.object members)) =
        .ok found ↔
      found = ofMembers members ∧ ClosedBody required optional members := by
  constructor
  · intro accepted
    have there := rpcMembers_ok accepted
    cases there.1
    refine ⟨rfl, ?_, complete_of_has there.2⟩
    simp only [ofValue, rpcMembers] at accepted
    split at accepted
    · rcases bind_eq_ok.1 accepted with ⟨_, _, raised⟩
      cases raised
    · next none =>
        have spelled := closed_of_sorted none
        exact closed_of_unknownKeys (List.map_eq_nil_iff.1 spelled)
  · rintro ⟨rfl, closed, complete⟩
    exact rpcMembers_ofMembers closed complete

theorem agentMembers_decoded {label : String}
    {required optional : List String} {members : Value.Members}
    {found : PyMembers} :
    agentMembers label required optional (ofValue (.object members)) =
        .ok found ↔
      found = ofMembers members ∧ ClosedBody required optional members := by
  constructor
  · intro accepted
    have there := agentMembers_ok accepted
    cases there.1
    refine ⟨rfl, ?_, complete_of_has there.2⟩
    simp only [ofValue, agentMembers] at accepted
    split at accepted
    · rcases bind_eq_ok.1 accepted with ⟨_, _, raised⟩
      cases raised
    · next none => exact closed_of_unknownKeys (closed_of_sorted none)
  · rintro ⟨rfl, closed, complete⟩
    exact agentMembers_ofMembers closed complete

/-- Parsers agree on a decoded body when they agree on closed members. -/
theorem agree_members {α : Type} {label : String}
    {required optional : List String}
    {closing : PyObject → Except BodyRaise PyMembers}
    {next : PyMembers → Except BodyRaise α}
    {decoded : Value.Members → Except BodyError α}
    (objects : ∀ members found,
      closing (ofValue (.object members)) = .ok found ↔
        found = ofMembers members ∧ ClosedBody required optional members)
    (others : ∀ document found, closing (ofValue document) = .ok found →
      ∃ members, document = .object members)
    (each : ∀ members, Agree (next (ofMembers members)) (decoded members))
    (document : Value) :
    Agree (closing (ofValue document) >>= next)
      (bodyMembers label required optional document >>= decoded) := by
  intro result
  simp only [bind_eq_ok]
  constructor
  · rintro ⟨found, accepted, later⟩
    rcases others document found accepted with ⟨members, rfl⟩
    rcases (objects members found).1 accepted with ⟨rfl, closed⟩
    exact ⟨members, bodyMembers_eq_ok.2 ⟨rfl, closed⟩,
      (each members result).1 later⟩
  · rintro ⟨found, accepted, later⟩
    cases document with
    | object members =>
        rcases bodyMembers_eq_ok.1 accepted with ⟨rfl, closed⟩
        exact ⟨_, (objects found _).2 ⟨rfl, closed⟩,
          (each found result).2 later⟩
    | _ => cases accepted

theorem object_of_rpcMembers {label : String}
    {required optional : List String} {document : Value} {found : PyMembers}
    (accepted :
      rpcMembers label required optional (ofValue document) = .ok found) :
    ∃ members, document = .object members := by
  cases document with
  | object members => exact ⟨members, rfl⟩
  | _ => cases accepted

theorem object_of_agentMembers {label : String}
    {required optional : List String} {document : Value} {found : PyMembers}
    (accepted :
      agentMembers label required optional (ofValue document) = .ok found) :
    ∃ members, document = .object members := by
  cases document with
  | object members => exact ⟨members, rfl⟩
  | _ => cases accepted

/-- On a decoded body the request parser is the one of decoded bodies. -/
theorem parseGatewayRequest_decoded (document : Value) :
    Agree (parseGatewayRequest (ofValue document))
      (Rpc.parseGatewayRequest document) := by
  refine agree_members (fun _ _ => rpcMembers_decoded)
    (fun _ _ => object_of_rpcMembers) (fun members => ?_) document
  refine agree_bodyVersion.bind fun _ => ?_
  refine agree_bodyText.bind fun _ => ?_
  refine agree_bodyText.bind fun _ => ?_
  refine agree_bodyText.bind fun _ => ?_
  exact .pure _

theorem agree_requireBound {α : Type} {name : String} {value : Option α} :
    Agree (requireBound name value)
      (ensure (value.isSome = true) ⟨.outcomeBinding, name⟩ :
        Except BodyError Unit) := by
  intro result
  rw [requireBound, ensure_eq_ok, ensure_eq_ok]

theorem agree_forbidBound {α : Type} {name : String} {value : Option α}
    {members : PyMembers} :
    Agree (forbidBound name value members)
      (ensure (value.isNone = true) ⟨.outcomeBinding, name⟩ :
        Except BodyError Unit) := by
  intro result
  rw [ensure_eq_ok]
  cases value with
  | none => exact iff_of_true rfl rfl
  | some held =>
      refine iff_of_false ?_ (by simp)
      intro free
      cases forbidBound_ok free

theorem agree_bodyOutcome {members : Value.Members} :
    Agree (bodyWord "outcome" outcomes (ofMembers members))
      (bodyOutcome members) := by
  have reads : bodyOutcome members =
      bodyOutcome [("outcome", Value.get "outcome" members)] := by
    rw [bodyOutcome, bodyOutcome, get_single]
  rw [reads]
  refine @agree_bodyWord members "outcome" Outcome outcomes
    (fun value => bodyOutcome [("outcome", value)]) ?_ ?_
  · intro text result
    rw [bodyOutcome, get_single]
    by_cases answered : text = "answered"
    · subst answered
      simp [outcomes, present_eq_ok]
    · by_cases refused : text = "refused"
      · subst refused
        simp [outcomes, present_eq_ok]
      · have unknown :
            (outcomes.find? fun word => word.1 = text) = none := by
          simp [outcomes, Ne.symm answered, Ne.symm refused]
        rw [unknown]
        split
        · next same => exact absurd (Value.text.inj same) answered
        · next same => exact absurd (Value.text.inj same) refused
        · exact Agree.refuse result
  · intro value other
    cases value with
    | text text => exact absurd rfl (other text)
    | _ => exact ⟨_, rfl⟩

/-- On a decoded body the response parser is the one of decoded bodies. -/
theorem parseGatewayResponse_decoded (document : Value) :
    Agree (parseGatewayResponse (ofValue document))
      (Rpc.parseGatewayResponse document) := by
  refine agree_members (fun _ _ => rpcMembers_decoded)
    (fun _ _ => object_of_rpcMembers) (fun members => ?_) document
  refine agree_bodyVersion.bind fun _ => ?_
  refine agree_bodyText.bind fun _ => ?_
  refine agree_bodyText.bind fun _ => ?_
  refine agree_bodyText.bind fun _ => ?_
  refine agree_bodyText.bind fun _ => ?_
  refine agree_bodyOutcome.bind fun outcome => ?_
  refine agree_bodyActuated.bind fun _ => ?_
  refine agree_bodyOptional.bind fun _ => ?_
  refine agree_bodyOptional.bind fun _ => ?_
  refine Agree.bind ?_ fun _ => .pure _
  cases outcome with
  | answered => exact agree_requireBound.bind fun _ => agree_forbidBound
  | refused => exact agree_requireBound.bind fun _ => agree_forbidBound

theorem agree_agentOutcome {members : Value.Members} :
    Agree (bodyWord "outcome" agentOutcomes (ofMembers members))
      (agentOutcome members) := by
  have reads : agentOutcome members =
      agentOutcome [("outcome", Value.get "outcome" members)] := by
    rw [agentOutcome, agentOutcome, get_single]
  rw [reads]
  refine @agree_bodyWord members "outcome" AgentOutcome agentOutcomes
    (fun value => agentOutcome [("outcome", value)]) ?_ ?_
  · intro text result
    rw [agentOutcome, get_single]
    by_cases candidate : text = "candidate"
    · subst candidate
      simp [agentOutcomes, present_eq_ok]
    · by_cases abstained : text = "abstained"
      · subst abstained
        simp [agentOutcomes, present_eq_ok]
      · have unknown :
            (agentOutcomes.find? fun word => word.1 = text) = none := by
          simp [agentOutcomes, Ne.symm candidate, Ne.symm abstained]
        rw [unknown]
        split
        · next same => exact absurd (Value.text.inj same) candidate
        · next same => exact absurd (Value.text.inj same) abstained
        · exact Agree.refuse result
  · intro value other
    cases value with
    | text text => exact absurd rfl (other text)
    | _ => exact ⟨_, rfl⟩

theorem agree_agentReason {members : Value.Members} :
    Agree (bodyWord "reason" reasons (ofMembers members))
      (agentReason members) := by
  have reads : agentReason members =
      agentReason [("reason", Value.get "reason" members)] := by
    rw [agentReason, agentReason, get_single]
  rw [reads]
  refine @agree_bodyWord members "reason" AgentResponseReason reasons
    (fun value => agentReason [("reason", value)]) ?_ ?_
  · intro text result
    rw [agentReason, get_single]
    by_cases known : ∃ reason ∈ reasons, reason.1 = text
    · rcases known with ⟨reason, member, rfl⟩
      simp only [reasons, List.mem_cons, List.not_mem_nil, or_false] at member
      rcases member with rfl | rfl | rfl | rfl | rfl <;>
        simp [reasons, present_eq_ok]
    · have unknown : (reasons.find? fun word => word.1 = text) = none := by
        rw [List.find?_eq_none]
        intro reason member
        simpa using fun same => known ⟨reason, member, same⟩
      have apart : ∀ word ∈ reasons.map Prod.fst, text ≠ word := by
        intro word member same
        rcases List.mem_map.1 member with ⟨reason, among, named⟩
        exact known ⟨reason, among, named.trans same.symm⟩
      rw [unknown]
      split
      all_goals first
        | exact Agree.refuse result
        | next same =>
            exact absurd (Value.text.inj same) (apart _ (by decide))
  · intro value other
    cases value with
    | text text => exact absurd rfl (other text)
    | _ => exact ⟨_, rfl⟩

/-- Renaming the refusals of the closed result changes no acceptance. -/
theorem agree_result {α : Type} {next : PyMembers → Except BodyRaise α}
    {decoded : Value.Members → Except BodyError α}
    {rename : BodyError → BodyError}
    (each : ∀ members, Agree (next (ofMembers members)) (decoded members))
    (document : Value) :
    Agree
      (recast belowResult
          (agentMembers "result" resultMembers [] (ofValue document)) >>=
        next)
      (recast rename (bodyMembers "result" resultMembers [] document) >>=
        decoded) := by
  intro result
  have agreed := @agree_members α "result" resultMembers []
    (agentMembers "result" resultMembers []) next decoded
    (fun _ _ => agentMembers_decoded) (fun _ _ => object_of_agentMembers)
    each document result
  simp only [bind_eq_ok, recast_eq_ok] at agreed ⊢
  exact agreed

theorem agree_parseCandidate (value : Value) :
    Agree (parseCandidate (ofValue value)) (bodyCandidate value) := by
  refine agree_result (fun members => ?_) value
  refine agree_bodyText.bind fun _ => ?_
  refine agree_bodyText.bind fun _ => ?_
  refine agree_bodyText.bind fun _ => ?_
  refine agree_bodyText.bind fun _ => ?_
  refine agree_bodyInteger.bind fun _ => ?_
  refine agree_bodyInteger.bind fun _ => ?_
  refine agree_bodyText.bind fun _ => ?_
  exact .pure _

theorem agree_optionalCandidate {members : Value.Members} :
    Agree (optionalCandidate (ofMembers members))
      (if Value.has "result" members then
        (bodyCandidate (Value.get "result" members)).map some
      else pure none) := by
  unfold optionalCandidate
  rw [PyObject.has_ofMembers]
  split
  · next there =>
      rcases Option.isSome_iff_exists.1 there with ⟨value, held⟩
      rw [bodyMember_ofMembers held, get_of_member? held]
      exact (agree_parseCandidate value).map some
  · exact .pure none

theorem agree_optionalReason {members : Value.Members} :
    Agree (optionalReason (ofMembers members))
      (if Value.has "reason" members then (agentReason members).map some
      else pure none) := by
  unfold optionalReason
  rw [PyObject.has_ofMembers]
  split
  · exact agree_agentReason.map some
  · exact .pure none

/-- A choice between two computations may be made before what follows. -/
theorem agree_bind_ite {α β : Type} {condition : Prop} [Decidable condition]
    {body : Except BodyRaise α} {here other : Except BodyError α}
    {next : α → Except BodyRaise β} {decoded : α → Except BodyError β}
    (first : Agree body (if condition then here else other))
    (rest : ∀ value, Agree (next value) (decoded value)) :
    Agree (body >>= next)
      (if condition then here >>= decoded else other >>= decoded) := by
  split at first
  · next holds =>
      rw [if_pos holds]
      exact first.bind rest
  · next fails =>
      rw [if_neg fails]
      exact first.bind rest

/-- On a decoded body the agent parser is the one of decoded bodies. -/
theorem parseAgentResponse_decoded (document : Value) :
    Agree (parseAgentResponse (ofValue document))
      (Rpc.parseAgentResponse document) := by
  refine agree_members (fun _ _ => agentMembers_decoded)
    (fun _ _ => object_of_agentMembers) (fun members => ?_) document
  refine agree_bodyVersion.bind fun _ => ?_
  refine agree_bodyText.bind fun _ => ?_
  refine agree_bodyText.bind fun _ => ?_
  refine agree_bodyText.bind fun _ => ?_
  refine agree_bodyText.bind fun _ => ?_
  refine agree_agentOutcome.bind fun outcome => ?_
  refine agree_bind_ite agree_optionalCandidate fun _ => ?_
  refine agree_bind_ite agree_optionalReason fun _ => ?_
  refine Agree.bind ?_ fun _ => .pure _
  cases outcome with
  | candidate => exact agree_requireBound.bind fun _ => agree_forbidBound
  | abstained => exact agree_requireBound.bind fun _ => agree_forbidBound

/-! ## The wire laws -/

/-- A parser gives back what it accepted, or raises an error of its own. -/
def WireLaw {α : Type} (parse : PyObject → Except BodyRaise α)
    (document : α → Value.Members) (exact : α → Prop) (body : PyObject) :
    Prop :=
  (∀ value, parse body = .ok value →
      parse (ofValue (.object (document value))) = .ok value ∧
        exact value) ∧
    FailsOnly BodyRaise.Own (parse body)

/-- The mapping whose one key is the integer one. -/
def integerKey : PyObject :=
  .mapping [(.other 1 (pythonText "1"), .none)]

end AerialRescue.Contracts.RpcBodies
