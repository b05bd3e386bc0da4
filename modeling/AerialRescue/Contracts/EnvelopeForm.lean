import AerialRescue.Contracts.Envelopes

/-!
# What the envelope boundary accepts

`parse_envelope` returns exactly the envelopes that follow every rule of the
profile, whatever the order of the members in the document.  A document that
spells a well-formed envelope is read back as that envelope.
-/

namespace AerialRescue.Contracts.Envelopes

open AerialRescue.Lib.Guard
open AerialRescue.Contracts.Canonical
open AerialRescue.Contracts.Topics

/-! ## Spelling -/

/-- A document that has the members of an envelope and no other. -/
structure Spells (members : Value.Members) (envelope : Envelope) : Prop where
  allowed :
    (Value.keys members).all (fun key => allowedMembers.contains key) = true
  specversion : Value.get "specversion" members = .text "1.0"
  datacontenttype :
    Value.get "datacontenttype" members = .text "application/json"
  id : Value.get "id" members = .text envelope.id
  source : Value.get "source" members = .text envelope.source
  type : Value.get "type" members = .text envelope.type
  subject : Value.get "subject" members = .text envelope.subject
  dataschema : Value.get "dataschema" members = .text envelope.dataschema
  sequence : Value.get "sequence" members = .text envelope.sequence
  correlationId :
    Value.get "correlationid" members = .text envelope.correlationId
  traceparent : Value.get "traceparent" members = .text envelope.traceparent
  time : Value.get "time" members = .text envelope.time
  causationId :
    Value.member? "causationid" members = envelope.causationId.map .text
  tracestate :
    Value.member? "tracestate" members = envelope.tracestate.map .text
  data : Value.get "data" members = .object envelope.data

/-- An envelope whose attributes follow the rules of the profile. -/
structure Envelope.Follows (envelope : Envelope) : Prop where
  id : isIdentifier envelope.id = true
  source : isSource envelope.source = true
  type : isEventType envelope.type = true
  subject : isIdentifier envelope.subject = true
  dataschema : isDataschema envelope.dataschema = true
  sequence : isSequence envelope.sequence = true
  correlationId : isIdentifier envelope.correlationId = true
  traceparent : isTraceparent envelope.traceparent = true
  time : isInstant envelope.time = true
  causationId : envelope.causationId.all isIdentifier = true
  tracestate : envelope.tracestate.all isTracestate = true
  reserved : envelope.subject ≠ "reply"
  bound :
    bindEnvelope envelope.type envelope.source envelope.dataschema
      envelope.subject envelope.time envelope.data = .ok ()

/-- An envelope that follows the rules and carries canonical data. -/
structure Envelope.WellFormed (host : Host) (envelope : Envelope) :
    Prop extends envelope.Follows where
  data : (canonicalBytes host (.object envelope.data)).isOk = true

instance (envelope : Envelope) : Decidable envelope.Follows :=
  decidable_of_iff
    (isIdentifier envelope.id = true ∧ isSource envelope.source = true ∧
      isEventType envelope.type = true ∧
      isIdentifier envelope.subject = true ∧
      isDataschema envelope.dataschema = true ∧
      isSequence envelope.sequence = true ∧
      isIdentifier envelope.correlationId = true ∧
      isTraceparent envelope.traceparent = true ∧
      isInstant envelope.time = true ∧
      envelope.causationId.all isIdentifier = true ∧
      envelope.tracestate.all isTracestate = true ∧
      envelope.subject ≠ "reply" ∧
      bindEnvelope envelope.type envelope.source envelope.dataschema
        envelope.subject envelope.time envelope.data = .ok ())
    ⟨fun ⟨id, source, type, subject, dataschema, sequence, correlationId,
        traceparent, time, causationId, tracestate, reserved, bound⟩ =>
        ⟨id, source, type, subject, dataschema, sequence, correlationId,
          traceparent, time, causationId, tracestate, reserved, bound⟩,
      fun follows =>
        ⟨follows.id, follows.source, follows.type, follows.subject,
          follows.dataschema, follows.sequence, follows.correlationId,
          follows.traceparent, follows.time, follows.causationId,
          follows.tracestate, follows.reserved, follows.bound⟩⟩

theorem textMember_eq_ok {members : Value.Members} {name value : String}
    {pattern : String → Bool} :
    textMember members name pattern = .ok value ↔
      Value.get name members = .text value ∧ pattern value = true := by
  unfold textMember
  split
  · rename_i text found
    rw [found]
    split
    · rename_i holds
      simp only [Except.ok.injEq, Value.text.injEq]
      constructor
      · rintro rfl
        exact ⟨rfl, holds⟩
      · exact And.left
    · rename_i fails
      simp only [reduceCtorEq, Value.text.injEq, false_iff, not_and]
      rintro rfl
      exact fails
  · rename_i other
    simp only [reduceCtorEq, false_iff, not_and]
    intro found
    exact absurd found (other value)

theorem member?_of_get {members : Value.Members} {name value : String}
    (found : Value.get name members = .text value) :
    Value.member? name members = some (.text value) := by
  unfold Value.get at found
  cases held : Value.member? name members with
  | none => simp [held] at found
  | some value => simpa [held] using found

theorem optionalMember_eq_ok {members : Value.Members} {name : String}
    {value : Option String} {pattern : String → Bool} :
    optionalMember members name pattern = .ok value ↔
      Value.member? name members = value.map .text ∧
        value.all pattern = true := by
  unfold optionalMember Value.has
  cases held : Value.member? name members with
  | none =>
      simp only [Option.isSome_none, Bool.false_eq_true, if_false,
        Except.ok.injEq]
      constructor
      · rintro rfl
        simp
      · rintro ⟨absent, _⟩
        cases value with
        | none => rfl
        | some text => simp at absent
  | some found =>
      simp only [Option.isSome_some, if_true]
      constructor
      · intro mapped
        cases parsed : textMember members name pattern with
        | error failure => simp [parsed, Except.map] at mapped
        | ok text =>
            rw [parsed] at mapped
            cases mapped
            rcases textMember_eq_ok.1 parsed with ⟨spelled, holds⟩
            have same := member?_of_get spelled
            rw [held] at same
            simpa [holds] using same
      · rintro ⟨spelled, holds⟩
        cases value with
        | none => simp at spelled
        | some text =>
            have get : Value.get name members = .text text := by
              simp only [Option.map_some, Option.some.injEq] at spelled
              simp [Value.get, held, spelled]
            rw [textMember_eq_ok.2 ⟨get, by simpa using holds⟩]
            rfl

theorem dataMember_eq_ok {host : Host} {members data : Value.Members} :
    dataMember host members = .ok data ↔
      Value.get "data" members = .object data ∧
        (canonicalBytes host (.object data)).isOk = true := by
  unfold dataMember
  cases held : Value.get "data" members with
  | object found =>
      simp only [Value.object.injEq]
      cases encoded : canonicalBytes host (.object found) with
      | ok bytes =>
          simp only [Except.ok.injEq]
          constructor
          · rintro rfl
            exact ⟨rfl, by rw [encoded]; rfl⟩
          · exact And.left
      | error failure =>
          simp only [reduceCtorEq, false_iff, not_and]
          rintro rfl
          rw [encoded]
          simp [Except.isOk, Except.toBool]
  | _ => simp

/-! ## Acceptance -/

theorem envelopeMembers_eq_ok {members found : Value.Members} :
    envelopeMembers (.object members) = .ok found ↔
      found = members ∧
        (Value.keys members).all
          (fun key => allowedMembers.contains key) = true ∧
        ∀ name ∈ requiredMembers, Value.has name members = true := by
  simp only [envelopeMembers, bind_eq_ok, ensure_eq_ok, exists_const,
    pure_eq_ok, List.isEmpty_iff, List.filter_eq_nil_iff,
    Bool.not_eq_eq_eq_not, Bool.not_true, Bool.not_eq_false, List.all_eq_true]
  constructor
  · rintro ⟨known, complete, rfl⟩
    exact ⟨rfl, known, complete⟩
  · rintro ⟨rfl, known, complete⟩
    exact ⟨known, complete, rfl⟩

theorem has_of_get {members : Value.Members} {name : String} {value : Value}
    (found : Value.get name members = value) (present : value ≠ .null) :
    Value.has name members = true := by
  unfold Value.has
  cases held : Value.member? name members with
  | none =>
      simp only [Value.get, held, Option.getD_none] at found
      exact absurd found.symm present
  | some _ => rfl

/-- A document that spells an envelope has every required member. -/
theorem Spells.complete {members : Value.Members} {envelope : Envelope}
    (spells : Spells members envelope) :
    ∀ name ∈ requiredMembers, Value.has name members = true := by
  simp only [requiredMembers, List.forall_mem_cons, List.not_mem_nil,
    false_implies, implies_true, and_true]
  exact ⟨has_of_get spells.specversion (by simp),
    has_of_get spells.id (by simp), has_of_get spells.source (by simp),
    has_of_get spells.type (by simp), has_of_get spells.subject (by simp),
    has_of_get spells.time (by simp),
    has_of_get spells.datacontenttype (by simp),
    has_of_get spells.dataschema (by simp),
    has_of_get spells.data (by simp), has_of_get spells.sequence (by simp),
    has_of_get spells.correlationId (by simp),
    has_of_get spells.traceparent (by simp)⟩

/--
A document is read as an envelope exactly when it spells that envelope and the
envelope follows every rule.
-/
theorem parseEnvelope_eq_ok {host : Host} {members : Value.Members}
    {envelope : Envelope} :
    parseEnvelope host (.object members) = .ok envelope ↔
      Spells members envelope ∧ envelope.WellFormed host := by
  simp only [parseEnvelope, bind_eq_ok, envelopeMembers_eq_ok, ensure_eq_ok,
    exists_const, textMember_eq_ok, optionalMember_eq_ok, dataMember_eq_ok,
    pure_eq_ok, Value.pyEq_text]
  constructor
  · rintro ⟨_, ⟨rfl, known, _⟩, version, content, id, ⟨idAt, idForm⟩,
      source, ⟨sourceAt, sourceForm⟩, type, ⟨typeAt, typeForm⟩, subject,
      ⟨subjectAt, subjectForm⟩, dataschema, ⟨schemaAt, schemaForm⟩,
      sequence, ⟨sequenceAt, sequenceForm⟩, correlation,
      ⟨correlationAt, correlationForm⟩, trace, ⟨traceAt, traceForm⟩, time,
      ⟨timeAt, timeForm⟩, causation, ⟨causationAt, causationForm⟩, state,
      ⟨stateAt, stateForm⟩, reserved, data, ⟨dataAt, encodes⟩, _, bound,
      rfl⟩
    exact
      ⟨⟨known, version, content, idAt, sourceAt, typeAt, subjectAt, schemaAt,
          sequenceAt, correlationAt, traceAt, timeAt, causationAt, stateAt,
          dataAt⟩,
        ⟨⟨idForm, sourceForm, typeForm, subjectForm, schemaForm,
          sequenceForm, correlationForm, traceForm, timeForm, causationForm,
          stateForm, reserved, bound⟩, encodes⟩⟩
  · rintro ⟨spells, formed⟩
    exact ⟨members, ⟨rfl, spells.allowed, spells.complete⟩,
      spells.specversion, spells.datacontenttype, envelope.id,
      ⟨spells.id, formed.id⟩, envelope.source,
      ⟨spells.source, formed.source⟩, envelope.type,
      ⟨spells.type, formed.type⟩, envelope.subject,
      ⟨spells.subject, formed.subject⟩, envelope.dataschema,
      ⟨spells.dataschema, formed.dataschema⟩, envelope.sequence,
      ⟨spells.sequence, formed.sequence⟩, envelope.correlationId,
      ⟨spells.correlationId, formed.correlationId⟩, envelope.traceparent,
      ⟨spells.traceparent, formed.traceparent⟩, envelope.time,
      ⟨spells.time, formed.time⟩, envelope.causationId,
      ⟨spells.causationId, formed.causationId⟩, envelope.tracestate,
      ⟨spells.tracestate, formed.tracestate⟩, formed.reserved,
      envelope.data, ⟨spells.data, formed.data⟩, (), formed.bound, rfl⟩

/-- The document of an envelope spells it. -/
theorem spells_envelopeDocument (envelope : Envelope) :
    Spells (envelopeDocument envelope) envelope := by
  rcases envelope with ⟨id, source, type, subject, time, dataschema,
    sequence, correlation, trace, data, causation, state⟩
  cases causation <;> cases state <;> constructor <;>
    simp [envelopeDocument, Value.get, Value.member?, Value.keys,
      allowedMembers, requiredMembers]

/-- A document spells one envelope at most. -/
theorem Spells.unique {members : Value.Members} {left right : Envelope}
    (first : Spells members left) (second : Spells members right) :
    left = right := by
  have texts {name value other : String}
      (here : Value.get name members = .text value)
      (there : Value.get name members = .text other) : value = other := by
    simpa using here.symm.trans there
  have optionals {name : String} {value other : Option String}
      (here : Value.member? name members = value.map .text)
      (there : Value.member? name members = other.map .text) :
      value = other := by
    have same := here.symm.trans there
    cases value <;> cases other <;> simp_all
  have data : left.data = right.data := by
    simpa using first.data.symm.trans second.data
  rcases left with ⟨_, _, _, _, _, _, _, _, _, _, _, _⟩
  rcases right with ⟨_, _, _, _, _, _, _, _, _, _, _, _⟩
  rw [Envelope.mk.injEq]
  exact ⟨texts first.id second.id, texts first.source second.source,
    texts first.type second.type, texts first.subject second.subject,
    texts first.time second.time, texts first.dataschema second.dataschema,
    texts first.sequence second.sequence,
    texts first.correlationId second.correlationId,
    texts first.traceparent second.traceparent, data,
    optionals first.causationId second.causationId,
    optionals first.tracestate second.tracestate⟩

/-- An envelope that follows every rule survives its own document. -/
theorem parseEnvelope_envelopeDocument {host : Host} {envelope : Envelope}
    (formed : envelope.WellFormed host) :
    parseEnvelope host (.object (envelopeDocument envelope)) =
      .ok envelope :=
  parseEnvelope_eq_ok.2 ⟨spells_envelopeDocument envelope, formed⟩

/-- A text that decodes to the spelling of an envelope is that envelope. -/
theorem decodeEnvelope_of {host : Host} {raw : Bytes}
    {members : Value.Members} {envelope : Envelope}
    (decoded : decode host raw = .ok (.object members))
    (spells : Spells members envelope) (formed : envelope.WellFormed host) :
    decodeEnvelope host raw = .ok envelope := by
  simp only [decodeEnvelope, bind_eq_ok, recast_eq_ok]
  exact ⟨_, decoded, parseEnvelope_eq_ok.2 ⟨spells, formed⟩⟩

/-- An encodable document that spells an envelope carries canonical data. -/
theorem Spells.wellFormed {host : Host} {members : Value.Members}
    {envelope : Envelope} (spells : Spells members envelope)
    (encodes : (canonicalBytes host (.object members)).isOk = true)
    (follows : envelope.Follows) : envelope.WellFormed host := by
  refine ⟨follows, ?_⟩
  have held : Value.member? "data" members = some (.object envelope.data) := by
    have found := spells.data
    unfold Value.get at found
    cases present : Value.member? "data" members with
    | none => simp [present] at found
    | some value => simpa [present] using found
  exact canonicalBytes_member encodes (Value.mem_of_member? held)

/-- A runtime that reads a document back reads its envelope back. -/
theorem decodeEnvelope_bytesOf {host : Host} {envelope : Envelope}
    (plain : host.nfc = id)
    (loads :
      host.loads (bytesOf (.object (envelopeDocument envelope))) =
        .ok (.object (envelopeDocument envelope)))
    (encodes : bytesOf (.object (envelopeDocument envelope)) ≠ [])
    (follows : envelope.Follows) :
    envelope.WellFormed host ∧
      decodeEnvelope host (bytesOf (.object (envelopeDocument envelope))) =
        .ok envelope := by
  have spells := spells_envelopeDocument envelope
  have formed : envelope.WellFormed host := by
    refine spells.wellFormed ?_ follows
    rw [canonicalBytes_bytesOf plain encodes]
    rfl
  exact ⟨formed,
    decodeEnvelope_of (decode_bytesOf plain loads encodes) spells formed⟩

end AerialRescue.Contracts.Envelopes
