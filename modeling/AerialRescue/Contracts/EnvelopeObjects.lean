import AerialRescue.Contracts.CanonicalForm
import AerialRescue.Contracts.EnvelopeForm
import AerialRescue.Contracts.RpcBodies

/-!
# Application event envelopes over any object

`parse_envelope` on any Python object.  A refusal carries the member at fault
and its value.  Two errors are not its own: the subscript that reads an unknown
member by its spelling, and the interpreter's stack that runs out while the
data is encoded.
-/

namespace AerialRescue.Contracts.EnvelopeObjects

open AerialRescue.Lib.Guard
open AerialRescue.Contracts.Canonical
open AerialRescue.Contracts.CanonicalForm
open AerialRescue.Contracts.Envelopes (Binding Envelope EnvelopeRefusal
  Spells allowedMembers bindEnvelope bindings envelopeDocument isDataschema
  isEventType isInstant isLifecycleSource isSequence isSource isTraceparent
  isTracestate requiredMembers)
open AerialRescue.Contracts.JsonText
open AerialRescue.Contracts.PyObject (find? has member? unknownKeys
  leastUnknown matchesRule ofValue ofItems ofMembers)
open AerialRescue.Contracts.RpcBodies (Readable closed_of_sorted)
open AerialRescue.Contracts.SharedJson
open AerialRescue.Contracts.Topics

/-- What the parser raises. -/
inductive EnvelopeRaise where
  /-- `EnvelopeError` -/
  | refused (refusal : EnvelopeRefusal) (member : PythonText)
      (value : PyObject)
  | keyError (name : PythonText)
  | recursionError

/-- The parser's own error class. -/
def EnvelopeRaise.Own : EnvelopeRaise → Prop
  | .refused _ _ _ => True
  | _ => False

/-- `EnvelopeError(refusal, attribute, value)` -/
def refuse (refusal : EnvelopeRefusal) (member : String)
    (value : PyObject) : EnvelopeRaise :=
  .refused refusal (pythonText member) value

/-- The Python string of a text. -/
def textObject (text : String) : PyObject :=
  .text (pythonText text)

/-! ## The canonical data of an object -/

mutual

/-- The JSON value that `_encode` reads in an object, if its type, its keys and
its strings are ones that a JSON value has.  A tuple is read as a list. -/
def toValue? : PyObject → Option Value
  | .none => some .null
  | .bool value => some (.bool value)
  | .int value => some (.int value)
  | .text value =>
      if value.any isSurrogate then none else some (.text (scalars value))
  | .sequence items => (toItems? items).map .array
  | .mapping members => (toMembers? members).map .object
  | .other _ => none

/-- The values of a sequence. -/
def toItems? : List PyObject → Option (List Value)
  | [] => some []
  | item :: rest => do
      let value ← toValue? item
      let values ← toItems? rest
      some (value :: values)

/-- The members of a mapping. -/
def toMembers? : PyMembers → Option Value.Members
  | [] => some []
  | (.other _ _, _) :: _ => none
  | (.text name, item) :: rest => do
      if name.any isSurrogate then none
      else
        let value ← toValue? item
        let members ← toMembers? rest
        some ((scalars name, value) :: members)

end

/-! ## Members -/

/-- `document[name]` -/
def subscript (name : PythonText) (members : PyMembers) :
    Except EnvelopeRaise PyObject :=
  present (find? (.text name) members) (.keyError name)

/-- The first required member that is absent is refused. -/
def requireMembers (members : PyMembers) : Except EnvelopeRaise Unit :=
  match requiredMembers.find? fun name => !has name members with
  | some name => .error (refuse .missingAttribute name .none)
  | none => .ok ()

/-- `_members`: the value of an unknown member is read by its spelling. -/
def envelopeMembers : PyObject → Except EnvelopeRaise PyMembers
  | .mapping members => do
      match leastUnknown allowedMembers members with
      | some name =>
          let value ← subscript name members
          .error (.refused .unknownMember name value)
      | none =>
          requireMembers members
          pure members
  | document => .error (refuse .notAnObject "envelope" document)

/-- A member that has to equal a constant of the profile. -/
def constantAttribute (name expected : String) (members : PyMembers) :
    Except EnvelopeRaise Unit := do
  let value ← subscript (pythonText name) members
  match value with
  | .text text =>
      ensure (text = pythonText expected) (refuse .attributeForm name value)
  | _ => .error (refuse .attributeForm name value)

/-- `_text`: a string member that matches its rule. -/
def textAttribute (name : String) (pattern : String → Bool)
    (members : PyMembers) : Except EnvelopeRaise String := do
  let value ← subscript (pythonText name) members
  match value with
  | .text text => do
      ensure (matchesRule pattern text = true)
        (refuse .attributeForm name value)
      pure (scalars text)
  | _ => .error (refuse .attributeForm name value)

/-- A string member that matches its rule where it is present. -/
def optionalAttribute (name : String) (pattern : String → Bool)
    (members : PyMembers) : Except EnvelopeRaise (Option String) :=
  if has name members then
    (textAttribute name pattern members).map some
  else
    .ok none

/-- The validated strings of `_forms`. -/
structure EnvelopeTexts where
  id : String
  source : String
  type : String
  subject : String
  dataschema : String
  sequence : String
  correlationId : String
  traceparent : String
  time : String
  causationId : Option String
  tracestate : Option String

/-- `_forms`: every text member in profile order. -/
def envelopeForms (members : PyMembers) :
    Except EnvelopeRaise EnvelopeTexts := do
  constantAttribute "specversion" "1.0" members
  constantAttribute "datacontenttype" "application/json" members
  let id ← textAttribute "id" isIdentifier members
  let source ← textAttribute "source" isSource members
  let type ← textAttribute "type" isEventType members
  let subject ← textAttribute "subject" isIdentifier members
  let dataschema ← textAttribute "dataschema" isDataschema members
  let sequence ← textAttribute "sequence" isSequence members
  let correlationId ← textAttribute "correlationid" isIdentifier members
  let traceparent ← textAttribute "traceparent" isTraceparent members
  let time ← textAttribute "time" isInstant members
  let causationId ← optionalAttribute "causationid" isIdentifier members
  let tracestate ← optionalAttribute "tracestate" isTracestate members
  pure
    { id, source, type, subject, dataschema, sequence, correlationId,
      traceparent, time, causationId, tracestate }

/-- `_reserved` -/
def refuseReserved (texts : EnvelopeTexts) : Except EnvelopeRaise Unit :=
  ensure (texts.subject ≠ "reply")
    (refuse .reservedMission "subject" (textObject texts.subject))

/-- `_data`: a mapping inside the canonical profile.  `stack` tells of an
object whether `canonical_bytes` ends within the interpreter's stack. -/
def dataAttribute (host : Host) (stack : PyObject → Bool)
    (members : PyMembers) : Except EnvelopeRaise Value.Members := do
  let value ← subscript (pythonText "data") members
  match value with
  | .mapping items => do
      ensure (stack value = true) .recursionError
      let data ← present (toMembers? items) (refuse .dataProfile "data" value)
      ensure ((canonicalBytes host (.object data)).isOk = true)
        (refuse .dataProfile "data" value)
      pure data
  | _ => .error (refuse .attributeForm "data" value)

/-- `_bind`: type, source, schema, subject and data agree. -/
def bindTexts (texts : EnvelopeTexts) (data : Value.Members) :
    Except EnvelopeRaise Unit := do
  let bound ← present
    (bindings.find? fun binding => binding.eventType = texts.type)
    (refuse .unknownType "type" (textObject texts.type))
  ensure
    (bound.sourceKind.all fun kind => isLifecycleSource kind texts.source)
    (refuse .sourceBinding "source" (textObject texts.source))
  ensure (texts.dataschema = bound.dataschema)
    (refuse .dataschemaBinding "dataschema" (textObject texts.dataschema))
  ensure (Value.pyEq (Value.get "missionId" data) (.text texts.subject))
    (refuse .subjectBinding "subject" (textObject texts.subject))
  ensure
    (bound.family ≠ .operatorApproval ∨
      Value.pyEq (Value.get "issuedAt" data) (.text texts.time))
    (refuse .payloadBinding "data.issuedAt"
      (ofValue (Value.get "issuedAt" data)))

/-- The envelope of validated strings and data. -/
def EnvelopeTexts.envelope (texts : EnvelopeTexts) (data : Value.Members) :
    Envelope where
  id := texts.id
  source := texts.source
  type := texts.type
  subject := texts.subject
  time := texts.time
  dataschema := texts.dataschema
  sequence := texts.sequence
  correlationId := texts.correlationId
  traceparent := texts.traceparent
  data := data
  causationId := texts.causationId
  tracestate := texts.tracestate

/-- `parse_envelope` -/
def parseEnvelope (host : Host) (stack : PyObject → Bool)
    (document : PyObject) : Except EnvelopeRaise Envelope := do
  let members ← envelopeMembers document
  let texts ← envelopeForms members
  refuseReserved texts
  let data ← dataAttribute host stack members
  bindTexts texts data
  pure (texts.envelope data)

/-! ## Reading a value back -/

mutual

/-- A JSON value is read in one object only. -/
theorem ofValue_toValue? :
    ∀ object value, toValue? object = some value → ofValue value = object
  | .none, _, read => by
      cases read
      rfl
  | .bool _, _, read => by
      cases read
      rfl
  | .int _, _, read => by
      cases read
      rfl
  | .text text, value, read => by
      rw [toValue?] at read
      split at read
      · cases read
      · next surrogateFree =>
          cases read
          rw [ofValue, pythonText_scalars (by simpa using surrogateFree)]
  | .sequence items, value, read => by
      rw [toValue?, Option.map_eq_some_iff] at read
      rcases read with ⟨values, here, rfl⟩
      rw [ofValue, ofItems_toItems? items values here]
  | .mapping members, value, read => by
      rw [toValue?, Option.map_eq_some_iff] at read
      rcases read with ⟨values, here, rfl⟩
      rw [ofValue, ofMembers_toMembers? members values here]
  | .other _, _, read => by cases read

theorem ofItems_toItems? :
    ∀ items values, toItems? items = some values → ofItems values = items
  | [], _, read => by
      cases read
      rfl
  | item :: rest, _, read => by
      simp only [toItems?, Option.bind_eq_bind,
        Option.bind_eq_some_iff] at read
      rcases read with ⟨value, first, values, others, same⟩
      cases same
      rw [ofItems, ofValue_toValue? item value first,
        ofItems_toItems? rest values others]

theorem ofMembers_toMembers? :
    ∀ members values, toMembers? members = some values →
      ofMembers values = members
  | [], _, read => by
      cases read
      rfl
  | (.other _ _, _) :: _, _, read => by cases read
  | (.text name, item) :: rest, _, read => by
      rw [toMembers?] at read
      split at read
      · cases read
      · next surrogateFree =>
          simp only [Option.bind_eq_bind, Option.bind_eq_some_iff] at read
          rcases read with ⟨value, first, values, others, same⟩
          cases same
          rw [ofMembers, pythonText_scalars (by simpa using surrogateFree),
            ofValue_toValue? item value first,
            ofMembers_toMembers? rest values others]

end

mutual

/-- What the encoder accepts is read from its own object. -/
theorem toValue?_ofValue {host : Host} :
    ∀ value text, encode host value = .ok text →
      toValue? (ofValue value) = some value
  | .null, _, _ => rfl
  | .bool _, _, _ => rfl
  | .int _, _, _ => rfl
  | .float _, _, encoded => by cases encoded
  | .text text, _, _ => by
      rw [ofValue, toValue?, pythonText_surrogateFree, scalars_pythonText]
      rfl
  | .array items, _, encoded => by
      simp only [encode, bind_eq_ok] at encoded
      rcases encoded with ⟨parts, encodes, _⟩
      rw [ofValue, toValue?, toItems?_ofItems items parts encodes]
      rfl
  | .object members, _, encoded => by
      rw [encode] at encoded
      rw [ofValue, toValue?, toMembers?_ofMembers members fun member among =>
        (encodeSorted_ok encoded member among).2]
      rfl

theorem toItems?_ofItems {host : Host} :
    ∀ items parts, encodeItems host items = .ok parts →
      toItems? (ofItems items) = some items
  | [], _, _ => rfl
  | item :: rest, _, encoded => by
      simp only [encodeItems, bind_eq_ok] at encoded
      rcases encoded with ⟨first, encodes, others, follows, _⟩
      rw [ofItems, toItems?, toValue?_ofValue item first encodes,
        toItems?_ofItems rest others follows]
      rfl

theorem toMembers?_ofMembers {host : Host} :
    ∀ members : Value.Members,
      (∀ member ∈ members, ∃ part, encode host member.2 = .ok part) →
        toMembers? (ofMembers members) = some members
  | [], _ => rfl
  | (name, value) :: rest, encoded => by
      rcases encoded (name, value) List.mem_cons_self with ⟨part, encodes⟩
      rw [ofMembers, toMembers?, pythonText_surrogateFree,
        scalars_pythonText, toValue?_ofValue value part encodes,
        toMembers?_ofMembers rest fun member among =>
          encoded member (List.mem_cons_of_mem _ among)]
      rfl

end

mutual

/-- The object of a JSON value is read as that value or not at all. -/
theorem eq_of_toValue?_ofValue :
    ∀ value read, toValue? (ofValue value) = some read → read = value
  | .null, _, same => by
      cases same
      rfl
  | .bool _, _, same => by
      cases same
      rfl
  | .int _, _, same => by
      cases same
      rfl
  | .float _, _, same => by cases same
  | .text text, _, same => by
      rw [ofValue, toValue?, pythonText_surrogateFree,
        scalars_pythonText] at same
      cases same
      rfl
  | .array items, _, same => by
      rw [ofValue, toValue?, Option.map_eq_some_iff] at same
      rcases same with ⟨values, here, rfl⟩
      rw [eq_of_toItems?_ofItems items values here]
  | .object members, _, same => by
      rw [ofValue, toValue?, Option.map_eq_some_iff] at same
      rcases same with ⟨values, here, rfl⟩
      rw [eq_of_toMembers?_ofMembers members values here]

theorem eq_of_toItems?_ofItems :
    ∀ items read, toItems? (ofItems items) = some read → read = items
  | [], _, same => by
      cases same
      rfl
  | item :: rest, _, same => by
      simp only [ofItems, toItems?, Option.bind_eq_bind,
        Option.bind_eq_some_iff] at same
      rcases same with ⟨value, first, values, others, same⟩
      cases same
      rw [eq_of_toValue?_ofValue item value first,
        eq_of_toItems?_ofItems rest values others]

theorem eq_of_toMembers?_ofMembers :
    ∀ members read, toMembers? (ofMembers members) = some read →
      read = members
  | [], _, same => by
      cases same
      rfl
  | (name, item) :: rest, _, same => by
      rw [ofMembers, toMembers?, pythonText_surrogateFree,
        scalars_pythonText] at same
      simp only [Bool.false_eq_true, if_false, Option.bind_eq_bind,
        Option.bind_eq_some_iff] at same
      rcases same with ⟨value, first, values, others, same⟩
      cases same
      rw [eq_of_toValue?_ofValue item value first,
        eq_of_toMembers?_ofMembers rest values others]

end

/-! ## What is accepted -/

/-- The members spell the texts, and every text follows its rule. -/
structure Written (members : PyMembers) (texts : EnvelopeTexts) : Prop where
  specversion : member? "specversion" members = some (textObject "1.0")
  datacontenttype :
    member? "datacontenttype" members = some (textObject "application/json")
  id : member? "id" members = some (textObject texts.id) ∧
    isIdentifier texts.id = true
  source : member? "source" members = some (textObject texts.source) ∧
    isSource texts.source = true
  type : member? "type" members = some (textObject texts.type) ∧
    isEventType texts.type = true
  subject : member? "subject" members = some (textObject texts.subject) ∧
    isIdentifier texts.subject = true
  dataschema :
    member? "dataschema" members = some (textObject texts.dataschema) ∧
      isDataschema texts.dataschema = true
  sequence : member? "sequence" members = some (textObject texts.sequence) ∧
    isSequence texts.sequence = true
  correlationId :
    member? "correlationid" members = some (textObject texts.correlationId) ∧
      isIdentifier texts.correlationId = true
  traceparent :
    member? "traceparent" members = some (textObject texts.traceparent) ∧
      isTraceparent texts.traceparent = true
  time : member? "time" members = some (textObject texts.time) ∧
    isInstant texts.time = true
  causationId :
    member? "causationid" members = texts.causationId.map textObject ∧
      texts.causationId.all isIdentifier = true
  tracestate :
    member? "tracestate" members = texts.tracestate.map textObject ∧
      texts.tracestate.all isTracestate = true

section Readers

variable {members : PyMembers} {name : String} {pattern : String → Bool}

theorem subscript_eq_ok {value : PyObject} :
    subscript (pythonText name) members = .ok value ↔
      member? name members = some value := by
  rw [subscript, present_eq_ok, member?]

theorem matchesRule_iff {text : PythonText} :
    matchesRule pattern text = true ↔
      pythonText (scalars text) = text ∧ pattern (scalars text) = true := by
  constructor
  · intro holds
    simp only [matchesRule, Bool.and_eq_true, Bool.not_eq_true'] at holds
    exact ⟨pythonText_scalars holds.1, holds.2⟩
  · rintro ⟨same, holds⟩
    rw [← same, PyObject.matchesRule_pythonText]
    exact holds

theorem constantAttribute_eq_ok {expected : String} {value : Unit} :
    constantAttribute name expected members = .ok value ↔
      member? name members = some (textObject expected) := by
  simp only [constantAttribute, bind_eq_ok, subscript_eq_ok]
  constructor
  · rintro ⟨held, found, compared⟩
    cases held with
    | text text =>
        rw [ensure_eq_ok] at compared
        rw [found, compared, textObject]
    | _ => cases compared
  · intro found
    exact ⟨_, found, ensure_of rfl⟩

theorem textAttribute_eq_ok {value : String} :
    textAttribute name pattern members = .ok value ↔
      member? name members = some (textObject value) ∧
        pattern value = true := by
  simp only [textAttribute, bind_eq_ok, subscript_eq_ok]
  constructor
  · rintro ⟨held, found, read⟩
    cases held with
    | text text =>
        simp only [bind_eq_ok, ensure_eq_ok, matchesRule_iff, pure_eq_ok,
          exists_const] at read
        rcases read with ⟨⟨same, holds⟩, rfl⟩
        rw [textObject, same]
        exact ⟨found, holds⟩
    | _ => cases read
  · rintro ⟨found, holds⟩
    refine ⟨_, found, ?_⟩
    simp only [textObject, bind_eq_ok, ensure_eq_ok,
      PyObject.matchesRule_pythonText, pure_eq_ok, exists_const,
      scalars_pythonText]
    exact ⟨holds, trivial⟩

theorem optionalAttribute_eq_ok {value : Option String} :
    optionalAttribute name pattern members = .ok value ↔
      member? name members = value.map textObject ∧
        value.all pattern = true := by
  unfold optionalAttribute has
  cases held : member? name members with
  | none =>
      cases value <;> simp
  | some found =>
      simp only [Option.isSome_some, if_true]
      constructor
      · intro mapped
        cases parsed : textAttribute name pattern members with
        | error failure =>
            rw [parsed] at mapped
            cases mapped
        | ok text =>
            rw [parsed] at mapped
            cases mapped
            rcases textAttribute_eq_ok.1 parsed with ⟨spelled, holds⟩
            rw [held] at spelled
            simpa [holds] using spelled
      · rintro ⟨spelled, holds⟩
        cases value with
        | none => simp at spelled
        | some text =>
            rw [Option.map_some] at spelled
            rw [textAttribute_eq_ok.2
              ⟨held.trans spelled, by simpa using holds⟩]
            rfl

end Readers

/-- The forms are accepted exactly when they are written. -/
theorem envelopeForms_eq_ok {members : PyMembers} {texts : EnvelopeTexts} :
    envelopeForms members = .ok texts ↔ Written members texts := by
  simp only [envelopeForms, bind_eq_ok, constantAttribute_eq_ok,
    exists_const, textAttribute_eq_ok, optionalAttribute_eq_ok, pure_eq_ok]
  constructor
  · rintro ⟨version, content, id, idForm, source, sourceForm, type, typeForm,
      subject, subjectForm, schema, schemaForm, sequence, sequenceForm,
      correlation, correlationForm, trace, traceForm, time, timeForm,
      causation, causationForm, state, stateForm, rfl⟩
    exact ⟨version, content, idForm, sourceForm, typeForm, subjectForm,
      schemaForm, sequenceForm, correlationForm, traceForm, timeForm,
      causationForm, stateForm⟩
  · intro written
    exact ⟨written.specversion, written.datacontenttype, _, written.id, _,
      written.source, _, written.type, _, written.subject, _,
      written.dataschema, _, written.sequence, _, written.correlationId, _,
      written.traceparent, _, written.time, _, written.causationId, _,
      written.tracestate, rfl⟩

/-- A document has no member outside the profile and every required one. -/
def Closed (members : PyMembers) : Prop :=
  unknownKeys allowedMembers members = [] ∧
    ∀ name ∈ requiredMembers, has name members = true

theorem requireMembers_eq_ok {members : PyMembers} {value : Unit} :
    requireMembers members = .ok value ↔
      ∀ name ∈ requiredMembers, has name members = true := by
  unfold requireMembers
  cases missing : requiredMembers.find? fun name => !has name members with
  | some name =>
      have held := List.find?_some missing
      have among := List.mem_of_find?_eq_some missing
      refine iff_of_false nofun fun complete => ?_
      rw [complete name among] at held
      cases held
  | none =>
      refine iff_of_true rfl fun name member => ?_
      simpa using List.find?_eq_none.1 missing name member

theorem leastUnknown_eq_none {allowed : List String} {members : PyMembers} :
    leastUnknown allowed members = none ↔
      unknownKeys allowed members = [] := by
  constructor
  · intro least
    exact List.map_eq_nil_iff.1 (closed_of_sorted least)
  · intro closed
    rw [leastUnknown, closed]
    rfl

theorem envelopeMembers_eq_ok {document : PyObject} {members : PyMembers} :
    envelopeMembers document = .ok members ↔
      document = .mapping members ∧ Closed members := by
  cases document with
  | mapping held =>
      simp only [envelopeMembers, PyObject.mapping.injEq]
      cases least : leastUnknown allowedMembers held with
      | some name =>
          refine iff_of_false (fun accepted => ?_) ?_
          · rcases bind_eq_ok.1 accepted with ⟨_, _, raised⟩
            cases raised
          · rintro ⟨rfl, closed, _⟩
            rw [leastUnknown_eq_none.2 closed] at least
            cases least
      | none =>
          simp only [bind_eq_ok, requireMembers_eq_ok, exists_const,
            pure_eq_ok]
          constructor
          · rintro ⟨complete, rfl⟩
            exact ⟨rfl, leastUnknown_eq_none.1 least, complete⟩
          · rintro ⟨rfl, _, complete⟩
            exact ⟨complete, rfl⟩
  | _ => exact iff_of_false (by simp [envelopeMembers]) (by simp)

theorem dataAttribute_eq_ok {host : Host} {stack : PyObject → Bool}
    {members : PyMembers} {data : Value.Members} :
    dataAttribute host stack members = .ok data ↔
      ∃ items,
        member? "data" members = some (.mapping items) ∧
          stack (.mapping items) = true ∧ toMembers? items = some data ∧
            (canonicalBytes host (.object data)).isOk = true := by
  simp only [dataAttribute, bind_eq_ok, subscript_eq_ok]
  constructor
  · rintro ⟨value, found, read⟩
    cases value with
    | mapping items =>
        simp only [bind_eq_ok, ensure_eq_ok, exists_const, present_eq_ok,
          pure_eq_ok] at read
        rcases read with ⟨enough, values, reads, encodes, rfl⟩
        exact ⟨items, found, enough, reads, encodes⟩
    | _ => cases read
  · rintro ⟨items, found, enough, reads, encodes⟩
    refine ⟨_, found, ?_⟩
    simp only [bind_eq_ok, ensure_eq_ok, exists_const, present_eq_ok,
      pure_eq_ok]
    exact ⟨enough, data, reads, encodes, rfl⟩

/-- The two bindings accept the same envelopes. -/
theorem bindTexts_eq_ok {texts : EnvelopeTexts} {data : Value.Members}
    {value : Unit} :
    bindTexts texts data = .ok value ↔
      bindEnvelope texts.type texts.source texts.dataschema texts.subject
        texts.time data = .ok () := by
  simp only [bindTexts, bindEnvelope, Envelopes.bindingFor, bind_eq_ok,
    ensure_eq_ok, exists_const, present_eq_ok]

/-- The strings that an envelope was made from. -/
def textsOf (envelope : Envelope) : EnvelopeTexts where
  id := envelope.id
  source := envelope.source
  type := envelope.type
  subject := envelope.subject
  dataschema := envelope.dataschema
  sequence := envelope.sequence
  correlationId := envelope.correlationId
  traceparent := envelope.traceparent
  time := envelope.time
  causationId := envelope.causationId
  tracestate := envelope.tracestate

/-- A mapping is read as an envelope exactly when it is closed and spells the
envelope, the stack holds its data, and the envelope follows every rule. -/
theorem parseEnvelope_eq_ok {host : Host} {stack : PyObject → Bool}
    {document : PyObject} {envelope : Envelope} :
    parseEnvelope host stack document = .ok envelope ↔
      ∃ members items,
        document = .mapping members ∧ Closed members ∧
          Written members (textsOf envelope) ∧
          member? "data" members = some (.mapping items) ∧
          toMembers? items = some envelope.data ∧
          stack (.mapping items) = true ∧ envelope.WellFormed host := by
  simp only [parseEnvelope, bind_eq_ok, envelopeMembers_eq_ok,
    envelopeForms_eq_ok, refuseReserved, ensure_eq_ok, exists_const,
    dataAttribute_eq_ok, bindTexts_eq_ok, pure_eq_ok]
  constructor
  · rintro ⟨members, ⟨rfl, closed⟩, texts, written, reserved, data,
      ⟨items, found, enough, reads, encodes⟩, bound, rfl⟩
    exact ⟨members, items, rfl, closed, written, found, reads, enough,
      ⟨⟨written.id.2, written.source.2, written.type.2, written.subject.2,
        written.dataschema.2, written.sequence.2, written.correlationId.2,
        written.traceparent.2, written.time.2, written.causationId.2,
        written.tracestate.2, reserved, bound⟩, encodes⟩⟩
  · rintro ⟨members, items, rfl, closed, written, found, reads, enough,
      formed⟩
    exact ⟨members, ⟨rfl, closed⟩, textsOf envelope, written,
      formed.reserved, envelope.data,
      ⟨items, found, enough, reads, formed.data⟩, formed.bound, rfl⟩

/-! ## Decoded documents -/

theorem ofValue_eq_text {value : Value} {text : String} :
    ofValue value = textObject text ↔ value = .text text := by
  cases value <;> simp [ofValue, textObject, PyObject.pythonText_eq]

theorem ofValue_eq_mapping {value : Value} {items : PyMembers} :
    ofValue value = .mapping items ↔
      ∃ members, value = .object members ∧ ofMembers members = items := by
  cases value <;> simp [ofValue]

section Decoded

variable {members : Value.Members} {name : String}

theorem member?_text {text : String} :
    member? name (ofMembers members) = some (textObject text) ↔
      Value.member? name members = some (.text text) := by
  rw [PyObject.member?_ofMembers, Option.map_eq_some_iff]
  constructor
  · rintro ⟨value, found, same⟩
    rw [found, ofValue_eq_text.1 same]
  · intro found
    exact ⟨_, found, rfl⟩

theorem member?_optional {text : Option String} :
    member? name (ofMembers members) = text.map textObject ↔
      Value.member? name members = text.map .text := by
  cases text with
  | none =>
      rw [PyObject.member?_ofMembers]
      exact Option.map_eq_none_iff
  | some text => exact member?_text

theorem member?_mapping {items : PyMembers} :
    member? name (ofMembers members) = some (.mapping items) ↔
      ∃ data, Value.member? name members = some (.object data) ∧
        ofMembers data = items := by
  rw [PyObject.member?_ofMembers, Option.map_eq_some_iff]
  constructor
  · rintro ⟨value, found, same⟩
    rcases ofValue_eq_mapping.1 same with ⟨data, rfl, inside⟩
    exact ⟨data, found, inside⟩
  · rintro ⟨data, found, rfl⟩
    exact ⟨_, found, rfl⟩

theorem get_eq_text {text : String} :
    Value.get name members = .text text ↔
      Value.member? name members = some (.text text) := by
  refine ⟨Envelopes.member?_of_get, fun found => ?_⟩
  rw [Value.get, found]
  rfl

theorem get_eq_object {data : Value.Members} :
    Value.get name members = .object data ↔
      Value.member? name members = some (.object data) := by
  unfold Value.get
  cases Value.member? name members <;> simp

/-- A decoded mapping is closed when its names are. -/
theorem closed_ofMembers :
    Closed (ofMembers members) ↔
      (Value.keys members).all
          (fun key => allowedMembers.contains key) = true ∧
        ∀ name ∈ requiredMembers, Value.has name members = true := by
  simp only [Closed, PyObject.unknownKeys_ofMembers, List.map_eq_nil_iff,
    List.filter_eq_nil_iff, PyObject.has_ofMembers, List.all_eq_true,
    Bool.not_eq_eq_eq_not, Bool.not_true, Bool.not_eq_false]

/-- A decoded mapping is closed and written when it spells an envelope whose
texts follow the rules. -/
theorem written_ofMembers {envelope : Envelope} (follows : envelope.Follows) :
    (Closed (ofMembers members) ∧
        Written (ofMembers members) (textsOf envelope) ∧
        Value.member? "data" members = some (.object envelope.data)) ↔
      Spells members envelope := by
  rw [closed_ofMembers]
  constructor
  · rintro ⟨⟨allowed, _⟩, written, data⟩
    exact ⟨allowed, get_eq_text.2 (member?_text.1 written.specversion),
      get_eq_text.2 (member?_text.1 written.datacontenttype),
      get_eq_text.2 (member?_text.1 written.id.1),
      get_eq_text.2 (member?_text.1 written.source.1),
      get_eq_text.2 (member?_text.1 written.type.1),
      get_eq_text.2 (member?_text.1 written.subject.1),
      get_eq_text.2 (member?_text.1 written.dataschema.1),
      get_eq_text.2 (member?_text.1 written.sequence.1),
      get_eq_text.2 (member?_text.1 written.correlationId.1),
      get_eq_text.2 (member?_text.1 written.traceparent.1),
      get_eq_text.2 (member?_text.1 written.time.1),
      member?_optional.1 written.causationId.1,
      member?_optional.1 written.tracestate.1, get_eq_object.2 data⟩
  · intro spells
    refine ⟨⟨spells.allowed, spells.complete⟩, ?_,
      get_eq_object.1 spells.data⟩
    exact ⟨member?_text.2 (get_eq_text.1 spells.specversion),
      member?_text.2 (get_eq_text.1 spells.datacontenttype),
      ⟨member?_text.2 (get_eq_text.1 spells.id), follows.id⟩,
      ⟨member?_text.2 (get_eq_text.1 spells.source), follows.source⟩,
      ⟨member?_text.2 (get_eq_text.1 spells.type), follows.type⟩,
      ⟨member?_text.2 (get_eq_text.1 spells.subject), follows.subject⟩,
      ⟨member?_text.2 (get_eq_text.1 spells.dataschema),
        follows.dataschema⟩,
      ⟨member?_text.2 (get_eq_text.1 spells.sequence), follows.sequence⟩,
      ⟨member?_text.2 (get_eq_text.1 spells.correlationId),
        follows.correlationId⟩,
      ⟨member?_text.2 (get_eq_text.1 spells.traceparent),
        follows.traceparent⟩,
      ⟨member?_text.2 (get_eq_text.1 spells.time), follows.time⟩,
      ⟨member?_optional.2 spells.causationId, follows.causationId⟩,
      ⟨member?_optional.2 spells.tracestate, follows.tracestate⟩⟩

end Decoded

theorem toMembers?_of_canonical {host : Host} {data : Value.Members}
    (encodes : (canonicalBytes host (.object data)).isOk = true) :
    toMembers? (ofMembers data) = some data := by
  rcases isOk_eq_true.1 encodes with ⟨bytes, encoded⟩
  simp only [canonicalBytes, bind_eq_ok] at encoded
  rcases encoded with ⟨text, encoded, _⟩
  have read := toValue?_ofValue (.object data) text encoded
  rw [ofValue, toValue?, Option.map_eq_some_iff] at read
  rcases read with ⟨members, here, same⟩
  cases same
  exact here

/-- On a decoded document whose data the stack holds, the parser is the one
over decoded values. -/
theorem parseEnvelope_decoded {host : Host} {stack : PyObject → Bool}
    (enough : ∀ object, stack object = true) (document : Value) :
    Agree (parseEnvelope host stack (ofValue document))
      (Envelopes.parseEnvelope host document) := by
  intro envelope
  cases document with
  | object members =>
      rw [parseEnvelope_eq_ok, Envelopes.parseEnvelope_eq_ok]
      constructor
      · rintro ⟨_, items, same, closed, written, found, reads, _, formed⟩
        cases same
        refine ⟨(written_ofMembers formed.toFollows).1
          ⟨closed, written, ?_⟩, formed⟩
        rcases member?_mapping.1 found with ⟨data, held, rfl⟩
        rw [held, eq_of_toMembers?_ofMembers data _ reads]
      · rintro ⟨spells, formed⟩
        rcases (written_ofMembers formed.toFollows).2 spells with
          ⟨closed, written, data⟩
        exact ⟨_, ofMembers envelope.data, rfl, closed, written,
          member?_mapping.2 ⟨_, data, rfl⟩,
          toMembers?_of_canonical formed.data, enough _, formed⟩
  | _ =>
      refine iff_of_false (fun accepted => ?_) nofun
      rcases parseEnvelope_eq_ok.1 accepted with ⟨_, _, same, _⟩
      cases same

/-! ## What the parser raises -/

section Raises

variable {members : PyMembers} {name : String}

theorem subscript_own (there : has name members = true) :
    FailsOnly EnvelopeRaise.Own (subscript (pythonText name) members) := by
  intro raised refused
  rcases Option.isSome_iff_exists.1 there with ⟨value, found⟩
  rw [member?] at found
  rw [subscript, found] at refused
  cases refused

theorem constantAttribute_own {expected : String}
    (there : has name members = true) :
    FailsOnly EnvelopeRaise.Own
      (constantAttribute name expected members) := by
  refine (subscript_own there).bind fun value => ?_
  cases value with
  | text text => exact .ensure trivial
  | _ => exact .error trivial

theorem textAttribute_own {pattern : String → Bool}
    (there : has name members = true) :
    FailsOnly EnvelopeRaise.Own (textAttribute name pattern members) := by
  refine (subscript_own there).bind fun value => ?_
  cases value with
  | text text => exact FailsOnly.bind (.ensure trivial) fun _ => .ok _
  | _ => exact .error trivial

theorem optionalAttribute_own {pattern : String → Bool} :
    FailsOnly EnvelopeRaise.Own
      (optionalAttribute name pattern members) := by
  unfold optionalAttribute
  split
  · next there => exact (textAttribute_own there).map
  · exact .ok none

theorem requireMembers_own :
    FailsOnly EnvelopeRaise.Own (requireMembers members) := by
  unfold requireMembers
  split
  · exact .error trivial
  · exact .ok ()

/-- A text that is not there is refused before it is read. -/
theorem envelopeForms_own
    (complete : ∀ name ∈ requiredMembers, has name members = true) :
    FailsOnly EnvelopeRaise.Own (envelopeForms members) := by
  refine (constantAttribute_own (complete _ (by decide))).bind fun _ => ?_
  refine (constantAttribute_own (complete _ (by decide))).bind fun _ => ?_
  refine (textAttribute_own (complete _ (by decide))).bind fun _ => ?_
  refine (textAttribute_own (complete _ (by decide))).bind fun _ => ?_
  refine (textAttribute_own (complete _ (by decide))).bind fun _ => ?_
  refine (textAttribute_own (complete _ (by decide))).bind fun _ => ?_
  refine (textAttribute_own (complete _ (by decide))).bind fun _ => ?_
  refine (textAttribute_own (complete _ (by decide))).bind fun _ => ?_
  refine (textAttribute_own (complete _ (by decide))).bind fun _ => ?_
  refine (textAttribute_own (complete _ (by decide))).bind fun _ => ?_
  refine (textAttribute_own (complete _ (by decide))).bind fun _ => ?_
  refine optionalAttribute_own.bind fun _ => ?_
  refine optionalAttribute_own.bind fun _ => ?_
  exact .ok _

theorem bindTexts_own (texts : EnvelopeTexts) (data : Value.Members) :
    FailsOnly EnvelopeRaise.Own (bindTexts texts data) := by
  refine FailsOnly.bind (.present trivial) fun bound => ?_
  refine FailsOnly.bind (.ensure trivial) fun _ => ?_
  refine FailsOnly.bind (.ensure trivial) fun _ => ?_
  refine FailsOnly.bind (.ensure trivial) fun _ => ?_
  exact .ensure trivial

theorem dataAttribute_own {host : Host} {stack : PyObject → Bool}
    (there : has "data" members = true)
    (enough : ∀ items, member? "data" members = some (.mapping items) →
      stack (.mapping items) = true) :
    FailsOnly EnvelopeRaise.Own (dataAttribute host stack members) := by
  refine (subscript_own there).bindOf fun value found => ?_
  cases value with
  | mapping items =>
      have holds := enough items (subscript_eq_ok.1 found)
      refine FailsOnly.bind ?_ fun _ => ?_
      · rw [ensure_of holds]
        exact .ok ()
      · refine FailsOnly.bind (.present trivial) fun data => ?_
        exact FailsOnly.bind (.ensure trivial) fun _ => .ok _
  | _ => exact .error trivial

end Raises

/-- An unknown member is refused, unless its least spelling is no key. -/
theorem envelopeMembers_own {document : PyObject} :
    FailsOnly EnvelopeRaise.Own (envelopeMembers document) ↔
      Readable allowedMembers document := by
  constructor
  · rintro own members rfl name least
    cases found : find? (.text name) members with
    | some value => rfl
    | none =>
        have raised :
            envelopeMembers (.mapping members) = .error (.keyError name) := by
          simp only [envelopeMembers, least, subscript, found]
          rfl
        exact (own _ raised).elim
  · intro readable
    cases document with
    | mapping members =>
        simp only [envelopeMembers]
        split
        · next name least =>
            refine FailsOnly.bindOf ?_ fun value _ => .error trivial
            intro raised refused
            rcases Option.isSome_iff_exists.1 (readable members rfl name least)
              with ⟨value, found⟩
            rw [subscript, found] at refused
            cases refused
        · exact requireMembers_own.bind fun _ => .ok _
    | _ => exact .error trivial

/-- The data of a document is read: its members are closed, its texts follow
their rules, its subject is not reserved and its data is a mapping. -/
def ReadsData (members items : PyMembers) : Prop :=
  Closed members ∧
    (∃ texts, Written members texts ∧ texts.subject ≠ "reply") ∧
    member? "data" members = some (.mapping items)

/-- The stack holds the data of the document, if it is read. -/
def StackHolds (stack : PyObject → Bool) (document : PyObject) : Prop :=
  ∀ members items, document = .mapping members → ReadsData members items →
    stack (.mapping items) = true

/-- Data that is read past the end of the stack raises the stack's error. -/
theorem parseEnvelope_exhausted {host : Host} {stack : PyObject → Bool}
    {members items : PyMembers} (reads : ReadsData members items)
    (exhausted : stack (.mapping items) = false) :
    parseEnvelope host stack (.mapping members) =
      .error .recursionError := by
  rcases reads with ⟨closed, ⟨texts, written, reserved⟩, found⟩
  have members? : envelopeMembers (.mapping members) = .ok members :=
    envelopeMembers_eq_ok.2 ⟨rfl, closed⟩
  have data : dataAttribute host stack members = .error .recursionError := by
    simp only [dataAttribute, subscript_eq_ok.2 found]
    refine bind_eq_error.2 (.inr ⟨_, rfl, bind_eq_error.2 (.inl ?_)⟩)
    exact ensure_eq_error.2 ⟨by simp [exhausted], rfl⟩
  refine bind_eq_error.2 (.inr ⟨_, members?, ?_⟩)
  refine bind_eq_error.2 (.inr ⟨_, envelopeForms_eq_ok.2 written, ?_⟩)
  refine bind_eq_error.2 (.inr ⟨(), ensure_of reserved, ?_⟩)
  exact bind_eq_error.2 (.inl data)

/-- The parser raises nothing but its own error exactly when the least unknown
spelling is a key and the stack holds the data that is read. -/
theorem parseEnvelope_own {host : Host} {stack : PyObject → Bool}
    {document : PyObject} :
    FailsOnly EnvelopeRaise.Own (parseEnvelope host stack document) ↔
      Readable allowedMembers document ∧ StackHolds stack document := by
  constructor
  · intro own
    constructor
    · rw [← envelopeMembers_own]
      exact fun raised refused =>
        own raised (bind_eq_error.2 (.inl refused))
    · rintro members items rfl reads
      by_contra exhausted
      rw [Bool.not_eq_true] at exhausted
      exact own _ (parseEnvelope_exhausted reads exhausted)
  · rintro ⟨readable, enough⟩
    refine (envelopeMembers_own.2 readable).bindOf fun members accepted => ?_
    rcases envelopeMembers_eq_ok.1 accepted with ⟨rfl, closed⟩
    refine (envelopeForms_own closed.2).bindOf fun texts forms => ?_
    refine FailsOnly.bindOf (.ensure trivial) fun _ reserved => ?_
    refine FailsOnly.bind (dataAttribute_own (closed.2 _ (by decide))
      fun items found => enough members items rfl ⟨closed, ⟨texts,
        envelopeForms_eq_ok.1 forms, ensure_eq_ok.1 reserved⟩, found⟩)
      fun data => ?_
    exact (bindTexts_own texts data).bind fun _ => .ok _

/-! ## The document of an envelope -/

/-- `envelope_document`, as the Python object that it is. -/
def documentObject (envelope : Envelope) : PyObject :=
  ofValue (.object (envelopeDocument envelope))

/-- An accepted envelope survives its own document. -/
theorem parseEnvelope_documentObject {host : Host} {stack : PyObject → Bool}
    {document : PyObject} {envelope : Envelope}
    (accepted : parseEnvelope host stack document = .ok envelope) :
    parseEnvelope host stack (documentObject envelope) = .ok envelope := by
  rcases parseEnvelope_eq_ok.1 accepted with
    ⟨_, items, _, _, _, _, reads, enough, formed⟩
  have inside := ofMembers_toMembers? items _ reads
  rcases (written_ofMembers formed.toFollows).2
    (Envelopes.spells_envelopeDocument envelope) with
    ⟨closed, written, data⟩
  exact parseEnvelope_eq_ok.2 ⟨_, items, rfl, closed, written,
    member?_mapping.2 ⟨_, data, inside⟩, reads, enough, formed⟩

end AerialRescue.Contracts.EnvelopeObjects
