import AerialRescue.Contracts.EnvelopeObjects

/-!
# The canonical text of an envelope

An accepted envelope with canonical data is decoded from its own canonical
text, up to the normal form of the data, exactly when its source is short
enough to be encoded: every other attribute is short by its own rule.  An
envelope that is accepted on a topic repeats what the topic says.
-/

namespace AerialRescue.Contracts.EnvelopeObjects

open AerialRescue.Lib.Guard
open AerialRescue.Contracts.Canonical
open AerialRescue.Contracts.CanonicalForm
open AerialRescue.Contracts.Envelopes
open AerialRescue.Contracts.JsonText
open AerialRescue.Contracts.RpcBodies (Readable)
open AerialRescue.Contracts.Topics

/-! ## The attributes are ASCII -/

/-- No character of the text is outside ASCII. -/
def Ascii (text : String) : Prop :=
  ∀ character ∈ text.toList, character.toNat < 128

instance (text : String) : Decidable (Ascii text) :=
  List.decidableBAll _ text.toList

/-- An ASCII text of at most so many characters. -/
def ShortAscii (bound : Nat) (text : String) : Prop :=
  Ascii text ∧ text.toList.length ≤ bound

instance (bound : Nat) (text : String) : Decidable (ShortAscii bound text) :=
  inferInstanceAs (Decidable (_ ∧ _))

/-- A text is its words joined again. -/
theorem toList_of_splitText {separator : Char} {text : String}
    {words : List String} (split : splitText separator text = words) :
    text.toList = [separator].intercalate (words.map String.toList) := by
  have unspelled : String.toList ∘ String.ofList = id := by
    funext characters
    exact String.toList_ofList
  rw [← split, splitText, List.map_map, unspelled, List.map_id]
  exact (List.intercalate_splitOn separator).symm

/-- A text of ASCII words between ASCII separators is ASCII. -/
theorem ascii_of_splitText {separator : Char} {text : String}
    {words : List String} (split : splitText separator text = words)
    (plain : separator.toNat < 128) (each : ∀ word ∈ words, Ascii word) :
    Ascii text := by
  intro character member
  rw [toList_of_splitText split] at member
  rcases mem_intercalate member with same | ⟨word, among, held⟩
  · rw [List.mem_singleton.1 same]
    exact plain
  · rcases List.mem_map.1 among with ⟨text, listed, rfl⟩
    exact each text listed character held

theorem isIdentifier_short {text : String}
    (identifier : isIdentifier text = true) : ShortAscii 64 text := by
  refine ⟨fun character member =>
    (isIdentifier_characters identifier character member).ascii, ?_⟩
  simp only [isIdentifier, Bool.and_eq_true, decide_eq_true_eq] at identifier
  exact identifier.1.1.1.2

theorem isKindForm_ascii {text : String}
    (kind : isKindForm text.toList = true) : Ascii text := by
  simp only [isKindForm, Bool.and_eq_true, List.all_eq_true] at kind
  intro character member
  rcases mem_splitOn '-' member with rfl | ⟨word, among, held⟩
  · decide
  · exact (LevelCharacter.of_slug ((kind.2 word among).2 character held)).ascii

theorem isProducerId_ascii {text : String}
    (producer : isProducerId text.toList = true) : Ascii text := by
  simp only [isProducerId, Bool.and_eq_true, List.all_eq_true,
    Bool.or_eq_true, decide_eq_true_eq] at producer
  intro character member
  rcases producer.2 character member with (plain | rfl) | rfl
  · exact isAlphanumeric_ascii plain
  · decide
  · decide

/-- A source is ASCII, but its producer kind may have any length. -/
theorem isSource_ascii {text : String} (source : isSource text = true) :
    Ascii text := by
  unfold isSource at source
  split at source
  · next kind producer split =>
      rw [Bool.and_eq_true] at source
      refine ascii_of_splitText split (by decide) ?_
      simp only [List.forall_mem_cons, List.not_mem_nil, false_implies,
        implies_true, and_true]
      exact ⟨by decide, by decide, isKindForm_ascii source.1,
        isProducerId_ascii source.2⟩
  · cases source

theorem isSequence_short {text : String} (sequence : isSequence text = true) :
    ShortAscii 15 text := by
  simp only [isSequence, Bool.and_eq_true, decide_eq_true_eq,
    List.all_eq_true] at sequence
  refine ⟨fun character member => ?_, Nat.le_of_eq sequence.1⟩
  exact isAlphanumeric_ascii
    (by simp [isAlphanumeric, sequence.2 character member])

theorem isHexDigit_ascii {character : Char}
    (digit : isHexDigit character = true) : character.toNat < 128 := by
  simp only [isHexDigit, Bool.or_eq_true, Bool.and_eq_true,
    decide_eq_true_eq] at digit
  rcases digit with decimal | ⟨_, letter⟩
  · exact isAlphanumeric_ascii (by simp [isAlphanumeric, decimal])
  · have bounded : character.toNat ≤ 'f'.toNat := letter
    exact Nat.lt_of_le_of_lt bounded (by decide)

theorem isTraceWord_short {width : Nat} {text : String}
    (word : isTraceWord width text = true) :
    Ascii text ∧ text.toList.length = width := by
  simp only [isTraceWord, Bool.and_eq_true, decide_eq_true_eq,
    List.all_eq_true] at word
  exact ⟨fun character member =>
    isHexDigit_ascii (word.1.2 character member), word.1.1⟩

theorem isTraceparent_short {text : String}
    (trace : isTraceparent text = true) : ShortAscii 55 text := by
  unfold isTraceparent at trace
  split at trace
  · next word parent flags split =>
      simp only [Bool.and_eq_true, decide_eq_true_eq,
        List.all_eq_true] at trace
      rcases trace with ⟨⟨⟨traced, parented⟩, flagged⟩, digits⟩
      constructor
      · refine ascii_of_splitText split (by decide) ?_
        simp only [List.forall_mem_cons, List.not_mem_nil, false_implies,
          implies_true, and_true]
        exact ⟨by decide, (isTraceWord_short traced).1,
          (isTraceWord_short parented).1,
          fun character member => isHexDigit_ascii (digits character member)⟩
      · have whole := congrArg List.length (toList_of_splitText split)
        simp only [List.map_cons, List.map_nil, List.intercalate_cons_cons,
          List.intercalate_singleton, List.length_append, List.length_cons,
          List.length_nil, (isTraceWord_short traced).2,
          (isTraceWord_short parented).2, flagged] at whole
        exact Nat.le_of_eq whole
  · cases trace

theorem isTracestate_short {text : String}
    (state : isTracestate text = true) : ShortAscii 512 text := by
  simp only [isTracestate, Bool.and_eq_true, decide_eq_true_eq,
    List.all_eq_true] at state
  refine ⟨fun character member => ?_, state.1.2⟩
  have bounded : character.toNat ≤ '~'.toNat := (state.2 character member).2
  exact Nat.lt_of_le_of_lt bounded (by decide)

theorem isInstant_short {text : String} (instant : isInstant text = true) :
    ShortAscii 24 text := by
  rcases isOk_eq_true.1 instant with ⟨parsed, returned⟩
  simp only [Instant.parseInstant, bind_eq_ok, present_eq_ok,
    ensure_eq_ok, exists_const] at returned
  rcases returned with ⟨groups, grouped, digits, _⟩
  unfold Instant.instantGroups at grouped
  split at grouped
  · next spelled =>
      cases grouped
      simp only [List.cons_append, List.nil_append, List.all_cons,
        List.all_nil, Bool.and_true, Bool.and_eq_true] at digits
      have plain : ∀ character, isDigit character = true →
          character.toNat < 128 := fun character digit =>
        isAlphanumeric_ascii (by simp [isAlphanumeric, digit])
      constructor
      · rw [Ascii, spelled]
        simp [plain, digits]
      · rw [spelled]
        rfl
  · cases grouped

theorem ShortAscii.imp {smaller larger : Nat} {text : String}
    (short : ShortAscii smaller text) (within : smaller ≤ larger) :
    ShortAscii larger text :=
  ⟨short.1, Nat.le_trans short.2 within⟩

theorem ShortAscii.append {first second : Nat} {left right : String}
    (leftShort : ShortAscii first left)
    (rightShort : ShortAscii second right) :
    ShortAscii (first + second) (left ++ right) := by
  unfold ShortAscii Ascii
  rw [String.toList_append, List.length_append]
  refine ⟨fun character member => ?_,
    Nat.add_le_add leftShort.2 rightShort.2⟩
  rcases List.mem_append.1 member with before | after
  · exact leftShort.1 character before
  · exact rightShort.1 character after

/-- A text spelled out is checked character by character. -/
theorem shortAscii_ofList {bound : Nat} {characters : List Char}
    (plain : (characters.all fun character =>
      decide (character.toNat < 128)) = true)
    (length : characters.length ≤ bound) :
    ShortAscii bound (String.ofList characters) := by
  unfold ShortAscii Ascii
  rw [String.toList_ofList]
  refine ⟨fun character member => ?_, length⟩
  exact of_decide_eq_true (List.all_eq_true.1 plain character member)

/-- A row of the binding table is short when its two words are. -/
theorem binding_short {eventType schema : String} {family : Family}
    {sourceKind : Option String} (event : ShortAscii 40 eventType)
    (word : ShortAscii 34 schema) :
    ShortAscii 128 (binding eventType family schema sourceKind).eventType ∧
      ShortAscii 128
        (binding eventType family schema sourceKind).dataschema := by
  have opening : ShortAscii 17 "aerial-rescue.v1." :=
    shortAscii_ofList (by decide) (by decide)
  have base : ShortAscii 80 schemaBase :=
    shortAscii_ofList (by decide) (by decide)
  have ending : ShortAscii 12 ".schema.json" :=
    shortAscii_ofList (by decide) (by decide)
  exact ⟨(opening.append event).imp (by decide),
    ((base.append word).append ending).imp (by decide)⟩

/-- The event types and the schemas of the binding table are short. -/
theorem bindings_short {bound : Binding} (held : bound ∈ bindings) :
    ShortAscii 128 bound.eventType ∧ ShortAscii 128 bound.dataschema := by
  simp only [bindings, List.mem_cons, List.not_mem_nil, or_false] at held
  rcases held with rfl | rfl | rfl | rfl | rfl | rfl | rfl | rfl | rfl | rfl |
    rfl | rfl | rfl | rfl | rfl | rfl | rfl | rfl
  all_goals
    exact binding_short (shortAscii_ofList (by decide) (by decide))
      (shortAscii_ofList (by decide) (by decide))

/-- The schema and the type of a bound envelope are those of the table. -/
theorem bindEnvelope_short
    {type source dataschema subject time : String} {data : Value.Members}
    (accepted :
      bindEnvelope type source dataschema subject time data = .ok ()) :
    ShortAscii 128 type ∧ ShortAscii 128 dataschema := by
  simp only [bindEnvelope, bindingFor, bind_eq_ok, present_eq_ok,
    ensure_eq_ok, exists_const] at accepted
  rcases accepted with ⟨bound, found, _, schema, _⟩
  have short := bindings_short (List.mem_of_find?_eq_some found)
  have named : bound.eventType = type := by
    simpa using List.find?_some found
  rw [← named, schema]
  exact short

/-- Every attribute of an envelope is short, its source apart. -/
structure ShortTexts (texts : EnvelopeTexts) : Prop where
  id : ShortAscii 512 texts.id
  source : Ascii texts.source
  type : ShortAscii 512 texts.type
  subject : ShortAscii 512 texts.subject
  dataschema : ShortAscii 512 texts.dataschema
  sequence : ShortAscii 512 texts.sequence
  correlationId : ShortAscii 512 texts.correlationId
  traceparent : ShortAscii 512 texts.traceparent
  time : ShortAscii 512 texts.time
  causationId : ∀ text, texts.causationId = some text → ShortAscii 512 text
  tracestate : ∀ text, texts.tracestate = some text → ShortAscii 512 text

theorem shortTexts_of_follows {envelope : Envelope}
    (follows : envelope.Follows) : ShortTexts (textsOf envelope) := by
  have bound := bindEnvelope_short follows.bound
  refine ⟨(isIdentifier_short follows.id).imp (by decide),
    isSource_ascii follows.source, bound.1.imp (by decide),
    (isIdentifier_short follows.subject).imp (by decide),
    bound.2.imp (by decide),
    (isSequence_short follows.sequence).imp (by decide),
    (isIdentifier_short follows.correlationId).imp (by decide),
    (isTraceparent_short follows.traceparent).imp (by decide),
    (isInstant_short follows.time).imp (by decide),
    fun text held => ?_, fun text held => ?_⟩
  · have form := follows.causationId
    rw [show envelope.causationId = some text from held] at form
    exact (isIdentifier_short (by simpa using form)).imp (by decide)
  · have form := follows.tracestate
    rw [show envelope.tracestate = some text from held] at form
    exact isTracestate_short (by simpa using form)

/-! ## The normal form of a document -/

section Members

variable {host : Host} {members : Value.Members} {name : String}

/-- Members in another order are looked up alike. -/
theorem member?_perm {other : Value.Members} (perm : members.Perm other)
    (distinct : (Value.keys members).Nodup) :
    Value.member? name members = Value.member? name other := by
  have also : (Value.keys other).Nodup :=
    (perm.map Prod.fst).nodup_iff.1 distinct
  cases found : Value.member? name members with
  | some value =>
      exact (Value.member?_of_mem also
        (perm.mem_iff.1 (Value.mem_of_member? found))).symm
  | none =>
      cases elsewhere : Value.member? name other with
      | none => rfl
      | some value =>
          rw [Value.member?_of_mem distinct
            (perm.mem_iff.2 (Value.mem_of_member? elsewhere))] at found
          cases found

theorem member?_normalizeMembers :
    Value.member? name (normalizeMembers host members) =
      (Value.member? name members).map (normalize host) := by
  induction members with
  | nil => rfl
  | cons first rest inductionHypothesis =>
      rw [normalizeMembers, Value.member?, Value.member?]
      split
      · rfl
      · exact inductionHypothesis

/-- A member of a normal form is the normal form of the member. -/
theorem get_normalize (distinct : (Value.keys members).Nodup) :
    Value.get name (sortMembers (normalizeMembers host members)) =
      normalize host (Value.get name members) := by
  have keyed : (Value.keys
      (sortMembers (normalizeMembers host members))).Nodup := by
    rw [(keys_sortMembers _).nodup_iff, keys_normalizeMembers]
    exact distinct
  rw [Value.get, member?_perm (sortMembers_perm _) keyed,
    member?_normalizeMembers, Value.get]
  cases Value.member? name members <;> rfl

/-- A text that the normalization fixes is still there in the normal form. -/
theorem get_normal {text : String}
    (distinct : (Value.keys members).Nodup) (fixed : host.nfc text = text)
    (found : Value.get name members = .text text) :
    Value.get name (sortMembers (normalizeMembers host members)) =
      .text text := by
  rw [get_normalize distinct, found, CanonicalForm.normalize, fixed]

/-- A document spells the same envelope in any order of its members. -/
theorem spells_perm {other : Value.Members} {envelope : Envelope}
    (perm : members.Perm other) (distinct : (Value.keys members).Nodup)
    (spells : Spells members envelope) : Spells other envelope := by
  have same : ∀ name, Value.member? name members = Value.member? name other :=
    fun name => member?_perm perm distinct
  have got : ∀ name, Value.get name members = Value.get name other := by
    intro name
    rw [Value.get, Value.get, same]
  have allowed : (Value.keys other).all
      (fun key => allowedMembers.contains key) = true := by
    rw [Value.keys, ← (perm.map Prod.fst).all_eq]
    exact spells.allowed
  constructor
  · exact allowed
  all_goals first | rw [← got] | rw [← same]
  · exact spells.specversion
  · exact spells.datacontenttype
  · exact spells.id
  · exact spells.source
  · exact spells.type
  · exact spells.subject
  · exact spells.dataschema
  · exact spells.sequence
  · exact spells.correlationId
  · exact spells.traceparent
  · exact spells.time
  · exact spells.causationId
  · exact spells.tracestate
  · exact spells.data

end Members

/-- The envelope whose data is in its normal form. -/
def normalEnvelope (host : Host) (envelope : Envelope) : Envelope :=
  { envelope with
    data := sortMembers (normalizeMembers host envelope.data) }

theorem keys_envelopeDocument (envelope : Envelope) :
    (Value.keys (envelopeDocument envelope)).Nodup ∧
      ∀ key ∈ Value.keys (envelopeDocument envelope), CanonicalKey key := by
  have canonical : ∀ key ∈ allowedMembers, CanonicalKey key := by
    have decided : ∀ key ∈ allowedMembers, (canonicalKey key).isOk = true := by
      decide +kernel
    exact fun key member => canonicalKey_isOk.1 (decided key member)
  have allowed := (spells_envelopeDocument envelope).allowed
  rw [List.all_eq_true] at allowed
  constructor
  · rcases envelope with ⟨_, _, _, _, _, _, _, _, _, _, causation, state⟩
    cases causation <;> cases state <;>
      simp [envelopeDocument, Value.keys]
  · exact fun key member => canonical key (by simpa using allowed key member)

/-- A document of texts that the normalization fixes has the document of the
normal envelope as its normal form. -/
theorem normalize_envelopeDocument {host : Host} {envelope : Envelope}
    (ascii : host.KeepsAscii) (short : ShortTexts (textsOf envelope)) :
    normalizeMembers host (envelopeDocument envelope) =
      envelopeDocument (normalEnvelope host envelope) := by
  have version : host.nfc "1.0" = "1.0" := ascii _ (ascii_of_all (by decide))
  have content : host.nfc "application/json" = "application/json" :=
    ascii _ (ascii_of_all (by decide))
  have id := ascii _ short.id.1
  have source := ascii _ short.source
  have type := ascii _ short.type.1
  have subject := ascii _ short.subject.1
  have schema := ascii _ short.dataschema.1
  have sequence := ascii _ short.sequence.1
  have correlation := ascii _ short.correlationId.1
  have parent := ascii _ short.traceparent.1
  have time := ascii _ short.time.1
  have causation : ∀ text, envelope.causationId = some text →
      host.nfc text = text := fun text held =>
    ascii _ (short.causationId text held).1
  have state : ∀ text, envelope.tracestate = some text →
      host.nfc text = text := fun text held =>
    ascii _ (short.tracestate text held).1
  rcases envelope with ⟨_, _, _, _, _, _, _, _, _, data, cause, trail⟩
  simp only [textsOf] at id source type subject schema sequence
  simp only [textsOf] at correlation parent time
  cases cause <;> cases trail <;>
    simp_all [envelopeDocument, normalEnvelope, normalizeMembers,
      CanonicalForm.normalize]

/-! ## The document in the profile -/

theorem inProfile_text {host : Host} {bound : Nat} {text : String}
    (ascii : host.KeepsAscii) (short : ShortAscii bound text)
    (within : bound ≤ maxStringBytes) : InProfile host (.text text) := by
  have size : text.utf8ByteSize ≤ bound := by
    rw [utf8ByteSize_of_ascii short.1, ← String.length_toList]
    exact short.2
  rw [InProfile, ascii text short.1]
  exact Nat.le_trans size within

/-- Every value of a document is its data or one of its texts. -/
theorem envelopeDocument_value {host : Host} {envelope : Envelope}
    (ascii : host.KeepsAscii) (short : ShortTexts (textsOf envelope))
    (data : InProfile host (.object envelope.data))
    (source : envelope.source.utf8ByteSize ≤ maxStringBytes) :
    ∀ member ∈ envelopeDocument envelope, InProfile host member.2 := by
  have texts : ∀ text, ShortAscii 512 text → InProfile host (.text text) :=
    fun text brief => inProfile_text ascii brief (by decide)
  have named : InProfile host (.text envelope.source) := by
    rw [InProfile, ascii envelope.source short.source]
    exact source
  intro member among
  simp only [envelopeDocument, List.mem_append, List.mem_cons,
    List.not_mem_nil, or_false] at among
  rcases among with ((rfl | rfl | rfl | rfl | rfl | rfl | rfl | rfl | rfl |
    rfl | rfl | rfl) | causation) | state
  · exact texts _ (by decide)
  · exact texts _ short.id
  · exact named
  · exact texts _ short.type
  · exact texts _ short.subject
  · exact texts _ short.time
  · exact texts _ (by decide)
  · exact texts _ short.dataschema
  · exact data
  · exact texts _ short.sequence
  · exact texts _ short.correlationId
  · exact texts _ short.traceparent
  · cases held : envelope.causationId with
    | none => simp [held] at causation
    | some text =>
        rw [held] at causation
        rw [List.mem_singleton.1 causation]
        exact texts _ (short.causationId text held)
  · cases held : envelope.tracestate with
    | none => simp [held] at state
    | some text =>
        rw [held] at state
        rw [List.mem_singleton.1 state]
        exact texts _ (short.tracestate text held)

/-- The document of an envelope is in the profile when its source is short. -/
theorem inProfile_envelopeDocument {host : Host} {envelope : Envelope}
    (ascii : host.KeepsAscii) (short : ShortTexts (textsOf envelope))
    (data : InProfile host (.object envelope.data))
    (source : envelope.source.utf8ByteSize ≤ maxStringBytes) :
    InProfile host (.object (envelopeDocument envelope)) := by
  have keys := keys_envelopeDocument envelope
  rw [InProfile, membersInProfile_iff]
  exact ⟨keys.1, fun member among =>
    ⟨keys.2 member.1 (List.mem_map_of_mem among),
      envelopeDocument_value ascii short data source member among⟩⟩

/-- A source that is too long has no canonical text. -/
theorem source_of_canonicalBytes {host : Host} {members : Value.Members}
    {envelope : Envelope} {bytes : Bytes} (ascii : host.KeepsAscii)
    (short : ShortTexts (textsOf envelope)) (spells : Spells members envelope)
    (encoded : canonicalBytes host (.object members) = .ok bytes) :
    envelope.source.utf8ByteSize ≤ maxStringBytes := by
  simp only [canonicalBytes, bind_eq_ok] at encoded
  rcases encoded with ⟨text, encodes, _⟩
  rw [encode] at encodes
  have among := Value.mem_of_member? (get_eq_text.1 spells.source)
  rcases (encodeSorted_ok encodes _ among).2 with ⟨part, named⟩
  rw [encode, encodeString, ascii envelope.source short.source] at named
  split at named
  · cases named
  · omega

/-- Two documents that spell one envelope have the same members. -/
theorem spells_perm_of {left right : Value.Members} {envelope : Envelope}
    (first : Spells left envelope) (second : Spells right envelope)
    (distinct : (Value.keys left).Nodup) (also : (Value.keys right).Nodup) :
    left.Perm right := by
  have unknown : ∀ {members : Value.Members} {name : String},
      (Value.keys members).all (fun key => allowedMembers.contains key) =
          true →
        name ∉ allowedMembers → Value.member? name members = none := by
    intro members name allowed outside
    cases found : Value.member? name members with
    | none => rfl
    | some value =>
        rw [List.all_eq_true] at allowed
        have held := allowed name
          (List.mem_map_of_mem (Value.mem_of_member? found))
        exact absurd (List.contains_iff_mem.1 held) outside
  have same : ∀ name, Value.member? name left = Value.member? name right := by
    intro name
    by_cases inside : name ∈ allowedMembers
    · simp only [allowedMembers, requiredMembers, List.mem_append,
        List.mem_cons, List.not_mem_nil, or_false] at inside
      rcases inside with (rfl | rfl | rfl | rfl | rfl | rfl | rfl | rfl |
        rfl | rfl | rfl | rfl) | rfl | rfl
      · rw [get_eq_text.1 first.specversion, get_eq_text.1 second.specversion]
      · rw [get_eq_text.1 first.id, get_eq_text.1 second.id]
      · rw [get_eq_text.1 first.source, get_eq_text.1 second.source]
      · rw [get_eq_text.1 first.type, get_eq_text.1 second.type]
      · rw [get_eq_text.1 first.subject, get_eq_text.1 second.subject]
      · rw [get_eq_text.1 first.time, get_eq_text.1 second.time]
      · rw [get_eq_text.1 first.datacontenttype,
          get_eq_text.1 second.datacontenttype]
      · rw [get_eq_text.1 first.dataschema, get_eq_text.1 second.dataschema]
      · rw [get_eq_object.1 first.data, get_eq_object.1 second.data]
      · rw [get_eq_text.1 first.sequence, get_eq_text.1 second.sequence]
      · rw [get_eq_text.1 first.correlationId,
          get_eq_text.1 second.correlationId]
      · rw [get_eq_text.1 first.traceparent,
          get_eq_text.1 second.traceparent]
      · rw [first.causationId, second.causationId]
      · rw [first.tracestate, second.tracestate]
    · rw [unknown first.allowed inside, unknown second.allowed inside]
  rw [List.perm_ext_iff_of_nodup distinct.of_map also.of_map]
  rintro ⟨name, value⟩
  constructor
  · intro member
    exact Value.mem_of_member?
      ((same name).symm.trans (Value.member?_of_mem distinct member))
  · intro member
    exact Value.mem_of_member?
      ((same name).trans (Value.member?_of_mem also member))

/-! ## The text of an envelope -/

/-- The envelope with normal data follows every rule that the envelope does. -/
theorem normalEnvelope_wellFormed {host : Host} {envelope : Envelope}
    (ascii : host.KeepsAscii) (idempotent : Normalizes host)
    (data : InProfile host (.object envelope.data))
    (formed : envelope.WellFormed host) :
    (normalEnvelope host envelope).WellFormed host := by
  have short := shortTexts_of_follows formed.toFollows
  have keyed : (Value.keys envelope.data).Nodup := by
    rw [InProfile] at data
    exact data.1
  refine ⟨⟨formed.id, formed.source, formed.type, formed.subject,
    formed.dataschema, formed.sequence, formed.correlationId,
    formed.traceparent, formed.time, formed.causationId, formed.tracestate,
    formed.reserved, ?_⟩, ?_⟩
  · have bound := formed.bound
    simp only [bindEnvelope, bind_eq_ok, ensure_eq_ok, exists_const,
      Value.pyEq_text] at bound ⊢
    rcases bound with ⟨row, found, source, schema, mission, issued⟩
    refine ⟨row, found, source, schema,
      get_normal keyed (ascii _ short.subject.1) mission, ?_⟩
    exact issued.imp_right fun same =>
      get_normal keyed (ascii _ short.time.1) same
  · exact isOk_eq_true.2 ⟨_, canonicalBytes_normalize ascii
      (inProfile_normalize idempotent _ data)⟩

/-- The canonical text of any document that spells an envelope is decoded as
the envelope with normal data. -/
theorem decodeEnvelope_of_spells {host : Host} {members : Value.Members}
    {envelope : Envelope} {bytes : Bytes} (ascii : host.KeepsAscii)
    (idempotent : Normalizes host) (reads : ReadsJson host)
    (data : InProfile host (.object envelope.data))
    (formed : envelope.WellFormed host) (spells : Spells members envelope)
    (distinct : (Value.keys members).Nodup)
    (encoded : canonicalBytes host (.object members) = .ok bytes) :
    decodeEnvelope host bytes = .ok (normalEnvelope host envelope) := by
  have short := shortTexts_of_follows formed.toFollows
  have source := source_of_canonicalBytes ascii short spells encoded
  have keys := keys_envelopeDocument envelope
  have perm := spells_perm_of spells (spells_envelopeDocument envelope)
    distinct keys.1
  have whole := inProfile_envelopeDocument ascii short data source
  have admitted : InProfile host (.object members) := by
    rw [InProfile, membersInProfile_iff] at whole ⊢
    exact ⟨distinct, fun member among =>
      whole.2 member (perm.mem_iff.1 among)⟩
  have normal : normalize host (.object members) =
      .object (sortMembers (normalizeMembers host members)) := by
    rw [CanonicalForm.normalize]
  have listed : (normalizeMembers host members).Perm
      (envelopeDocument (normalEnvelope host envelope)) := by
    rw [← normalize_envelopeDocument ascii short, normalizeMembers_eq_map,
      normalizeMembers_eq_map]
    exact perm.map _
  have written := spells_perm (listed.symm.trans (sortMembers_perm _).symm)
    (keys_envelopeDocument _).1 (spells_envelopeDocument _)
  have text := canonicalBytes_normalize ascii admitted
  rw [encoded, Except.ok.injEq] at text
  have decoded := decode_normalize ascii idempotent reads admitted
  rw [← text, normal] at decoded
  exact decodeEnvelope_of decoded written
    (normalEnvelope_wellFormed ascii idempotent data formed)

/-- Two envelopes are equal up to the normal form of their data. -/
structure SameUpToNfc (host : Host) (left right : Envelope) : Prop where
  texts : textsOf left = textsOf right
  data : Equivalent host (.object left.data) (.object right.data)

/-- The envelope is decoded from its own canonical text. -/
def CanonicalRoundTrip (host : Host) (envelope : Envelope) : Prop :=
  ∃ bytes decoded,
    canonicalBytes host (.object (envelopeDocument envelope)) = .ok bytes ∧
      decodeEnvelope host bytes = .ok decoded ∧
      SameUpToNfc host decoded envelope

/-- An envelope that follows every rule is decoded from its own text exactly
when its source is short enough to be encoded. -/
theorem canonicalRoundTrip_iff {host : Host} {envelope : Envelope}
    (ascii : host.KeepsAscii) (idempotent : Normalizes host)
    (reads : ReadsJson host)
    (data : InProfile host (.object envelope.data))
    (formed : envelope.WellFormed host) :
    CanonicalRoundTrip host envelope ↔
      envelope.source.utf8ByteSize ≤ maxStringBytes := by
  have short := shortTexts_of_follows formed.toFollows
  have spells := spells_envelopeDocument envelope
  constructor
  · rintro ⟨bytes, _, encoded, _⟩
    exact source_of_canonicalBytes ascii short spells encoded
  · intro source
    have encoded := canonicalBytes_normalize ascii
      (inProfile_envelopeDocument ascii short data source)
    exact ⟨_, normalEnvelope host envelope, encoded,
      decodeEnvelope_of_spells ascii idempotent reads data formed spells
        (keys_envelopeDocument envelope).1 encoded,
      rfl, equivalent_normalize idempotent data⟩

/-! ## The topic of an envelope -/

/-- A topic parameter that the payload has to repeat. -/
def Repeated (family : Family) (name : String) : Prop :=
  (topicPayloadPath family name).isSome = true ∨ ruleFor name = .identifier

instance (family : Family) (name : String) :
    Decidable (Repeated family name) :=
  inferInstanceAs (Decidable (_ ∨ _))

/-- The envelope agrees with the topic on type, mission and every parameter
that the payload repeats. -/
structure BindsTo (envelope : Envelope) (topic : Topic) : Prop where
  type : eventType topic = .ok envelope.type
  mission : topic.missionId = envelope.subject
  parameters : ∀ name expected, (name, expected) ∈ topic.parameters →
    Repeated topic.family name →
      memberAt ((topicPayloadPath topic.family name).getD [name])
        (.object envelope.data) = .text expected

theorem checkParameter_eq_ok {envelope : Envelope} {family : Family}
    {parameter : String × String} {value : Unit} :
    checkParameter envelope family parameter = .ok value ↔
      (Repeated family parameter.1 →
        memberAt ((topicPayloadPath family parameter.1).getD [parameter.1])
          (.object envelope.data) = .text parameter.2) := by
  simp only [checkParameter, Repeated, Bool.or_eq_true, decide_eq_true_eq]
  split
  · next repeated =>
      rw [ensure_eq_ok, Value.pyEq_text]
      exact ⟨fun same _ => same, fun held => held repeated⟩
  · next repeated =>
      exact ⟨fun _ also => absurd also repeated, fun _ => rfl⟩

theorem checkParameters_eq_ok {envelope : Envelope} {family : Family}
    {parameters : List (String × String)} {value : Unit} :
    checkParameters envelope family parameters = .ok value ↔
      ∀ parameter ∈ parameters,
        checkParameter envelope family parameter = .ok () := by
  induction parameters with
  | nil => simp [checkParameters]
  | cons first rest inductionHypothesis =>
      rw [checkParameters, bind_eq_ok, List.forall_mem_cons,
        ← inductionHypothesis]
      constructor
      · rintro ⟨_, here, later⟩
        exact ⟨here, later⟩
      · rintro ⟨here, later⟩
        exact ⟨_, here, later⟩

/-- An envelope is accepted on a topic exactly when it agrees with it. -/
theorem checkTopicBinding_eq_ok {envelope : Envelope} {topic : Topic} :
    checkTopicBinding envelope topic = .ok () ↔ BindsTo envelope topic := by
  simp only [checkTopicBinding, bind_eq_ok, recast_eq_ok, ensure_eq_ok,
    exists_const, checkParameters_eq_ok, checkParameter_eq_ok]
  constructor
  · rintro ⟨type, typed, rfl, mission, parameters⟩
    exact ⟨typed, mission, fun name expected member =>
      parameters (name, expected) member⟩
  · intro binds
    exact ⟨_, binds.type, rfl, binds.mission, fun parameter member =>
      binds.parameters parameter.1 parameter.2 member⟩

theorem memberAt_null (path : List String) : memberAt path .null = .null := by
  induction path with
  | nil => rfl
  | cons name rest inductionHypothesis => exact inductionHypothesis

/-- The end of a path in a normal form is the normal form of the end. -/
theorem memberAt_normalize {host : Host} (path : List String) {value : Value}
    (admitted : InProfile host value) :
    memberAt path (normalize host value) =
      normalize host (memberAt path value) := by
  induction path generalizing value with
  | nil => rfl
  | cons name rest inductionHypothesis =>
      cases value with
      | object members =>
          rw [InProfile] at admitted
          rw [CanonicalForm.normalize, memberAt, memberAt,
            get_normalize admitted.1]
          refine inductionHypothesis ?_
          rw [Value.get]
          cases found : Value.member? name members with
          | none => simp [InProfile]
          | some value =>
              exact admitted.2.of_mem (Value.mem_of_member? found)
      | _ => simp [CanonicalForm.normalize, memberAt, memberAt_null]

/-- The envelope with normal data agrees with every topic that the envelope
agrees with. -/
theorem BindsTo.normal {host : Host} {envelope : Envelope} {topic : Topic}
    (binds : BindsTo envelope topic) (ascii : host.KeepsAscii)
    (data : InProfile host (.object envelope.data))
    (plain : ∀ name expected, (name, expected) ∈ topic.parameters →
      Ascii expected) :
    BindsTo (normalEnvelope host envelope) topic where
  type := binds.type
  mission := binds.mission
  parameters := by
    intro name expected member repeated
    have normal : Value.object (normalEnvelope host envelope).data =
        normalize host (.object envelope.data) := by
      rw [CanonicalForm.normalize]
      rfl
    rw [normal, memberAt_normalize _ data,
      binds.parameters name expected member repeated,
      CanonicalForm.normalize,
      ascii expected (plain name expected member)]

/-! ## The envelope laws -/

/-- A document is read as an envelope that survives its own document, or is
refused with the parser's own error. -/
def RefusalLaw (host : Host) (stack : PyObject → Bool)
    (document : PyObject) : Prop :=
  (∀ envelope, parseEnvelope host stack document = .ok envelope →
      parseEnvelope host stack (documentObject envelope) = .ok envelope) ∧
    FailsOnly EnvelopeRaise.Own (parseEnvelope host stack document)

/-- A telemetry event with the least payload that its binding admits. -/
def sampleTelemetry : Envelope where
  id := "event-1"
  source := "urn:aerial-rescue:fleet:drone-1"
  type := "aerial-rescue.v1.drone.telemetry"
  subject := "mission-1"
  time := "2026-01-01T00:00:00.000Z"
  dataschema := schemaBase ++ "drone-telemetry.schema.json"
  sequence := "000000000000001"
  correlationId := "mission-1"
  traceparent := "00-0af7651916cd43dd8448eb211c80319c-b7ad6b7169203331-01"
  data := [("missionId", .text "mission-1")]
  causationId := none
  tracestate := none

end AerialRescue.Contracts.EnvelopeObjects
