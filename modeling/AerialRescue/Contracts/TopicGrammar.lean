import AerialRescue.Contracts.SharedJson
import AerialRescue.Contracts.TopicText
import Mathlib.Algebra.GroupWithZero.Nat

/-!
# The topic grammar

Formatting and parsing of topics are inverse to each other, and so are the
type discriminator of a topic and its parser.  The parsers take Python strings,
whose code points may be surrogates: `parse_topic` measures the encoded text
first, and a surrogate has no encoding.
-/

namespace AerialRescue.Contracts.Topics

open AerialRescue.Lib.Guard
open AerialRescue.Contracts.Canonical
open AerialRescue.Contracts.CanonicalForm
open AerialRescue.Contracts.JsonText
open AerialRescue.Contracts.SharedJson

/-! ## Python strings -/

/-- A Python string: its code points, a surrogate being one of its own. -/
abbrev PythonText := List CodeUnit

/-- The Python string of a text of scalar values. -/
def pythonText (text : String) : PythonText :=
  text.toList.map .scalar

/-- What a parser of topic text raises. -/
inductive Raised where
  | topicError (refusal : TopicRefusal)
  | unicodeEncodeError
deriving DecidableEq

/-- `str.encode`: the characters that are encoded; a surrogate raises. -/
def encoded (text : PythonText) : Except Raised String := do
  ensure (text.any isSurrogate = false) .unicodeEncodeError
  pure (scalars text)

/-- `parse_topic` of a Python string, which is encoded to be measured. -/
def parseTopicText (text : PythonText) : Except Raised Topic := do
  let characters ← encoded text
  recast .topicError (parseTopic characters)

/-- `_conforms` of a Python string: every grammar is one of characters. -/
def conformsText (rule : Rule) (value : PythonText) : Bool :=
  !value.any isSurrogate && conforms rule (scalars value)

/-- `validated_level` of a Python string -/
def validatedText (parameter : String) (value : PythonText) :
    Except Raised String := do
  ensure (conformsText (ruleFor parameter) value)
    (.topicError (refusalByRule (ruleFor parameter)))
  pure (scalars value)

/-- `_matches_template` over the segments of a Python string -/
def matchesText : List Level → List PythonText → Bool
  | [], [] => true
  | .literal expected :: template, level :: levels =>
      pythonText expected = level && matchesText template levels
  | .parameter _ :: template, _ :: levels => matchesText template levels
  | _, _ => false

/-- `_bind` over the segments of a Python string -/
def bindText : List Level → List PythonText →
    Except Raised (List (String × String))
  | .literal _ :: template, _ :: levels => bindText template levels
  | .parameter name :: template, level :: levels => do
      let value ← validatedText name level
      let rest ← bindText template levels
      pure ((name, value) :: rest)
  | _, _ => .ok []

/-- `_TYPE_PREFIX` -/
def typePrefix : PythonText :=
  pythonText "aerial-rescue.v1."

/-- `parse_event_type` -/
def parseEventType (text : PythonText) :
    Except Raised (Family × List (String × String)) := do
  ensure (typePrefix.isPrefixOf text = true) (.topicError .namespacePrefix)
  let segments := (text.drop typePrefix.length).splitOn (.scalar '.')
  let family ← present
    (Family.all.find? fun family => matchesText family.typeLevels segments)
    (.topicError .shape)
  let parameters ← bindText family.typeLevels segments
  pure (family, parameters)

/-! ## Formatting what was parsed -/

theorem bindLevels_valid {template : List Level} {levels : List String}
    {parameters : List (String × String)}
    (bound : bindLevels template levels = .ok parameters) :
    ∀ parameter ∈ parameters,
      conforms (ruleFor parameter.1) parameter.2 = true := by
  induction template generalizing levels parameters with
  | nil =>
      cases bound
      simp
  | cons level rest inductionHypothesis =>
      cases levels with
      | nil =>
          cases level <;> cases bound <;> simp
      | cons text texts =>
          cases level with
          | literal expected => exact inductionHypothesis bound
          | parameter name =>
              simp only [bindLevels, bind_eq_ok, pure_eq_ok] at bound
              rcases bound with ⟨value, valid, later, tail, rfl⟩
              simp only [validatedLevel, bind_eq_ok, ensure_eq_ok,
                exists_const, pure_eq_ok] at valid
              intro parameter member
              rcases List.mem_cons.1 member with rfl | held
              · exact valid.2 ▸ valid.1
              · exact inductionHypothesis tail parameter held

/-- The levels of a parsed text obey their grammars. -/
theorem parseTopic_valid {text : String} {topic : Topic}
    (parses : parseTopic text = .ok topic) :
    text.utf8ByteSize ≤ 250 ∧
      (text.toList.all fun character =>
        character != '*' && character != '>') = true ∧
      isIdentifier topic.missionId = true ∧
      ∀ parameter ∈ topic.parameters,
        conforms (ruleFor parameter.1) parameter.2 = true := by
  simp only [parseTopic, bind_eq_ok, ensure_eq_ok, exists_const,
    present_eq_ok, pure_eq_ok] at parses
  rcases parses with
    ⟨short, wildcardFree, _, family, _, mission, missionLevel, parameters,
      bound, rfl⟩
  simp only [validatedLevel, bind_eq_ok, ensure_eq_ok, exists_const,
    pure_eq_ok] at missionLevel
  rcases missionLevel with ⟨identifier, rfl⟩
  exact ⟨short, wildcardFree, identifier, bindLevels_valid bound⟩

/-- The names of a template's placeholders. -/
def parameterNames (template : List Level) : List String :=
  template.filterMap fun
    | .literal _ => none
    | .parameter name => some name

theorem mem_parameterNames {template : List Level} {name : String} :
    name ∈ parameterNames template ↔ .parameter name ∈ template := by
  simp only [parameterNames, List.mem_filterMap]
  constructor
  · rintro ⟨level, member, named⟩
    cases level with
    | literal text => cases named
    | parameter other =>
        cases named
        exact member
  · intro member
    exact ⟨_, member, rfl⟩

/-- The placeholders of a template, filled from levels, give them back. -/
theorem map_levelText_filled {topic : Topic} {template : List Level}
    {levels : List String} (fits : matchesTemplate template levels = true)
    (unique : (parameterNames template).Nodup)
    (held : ∀ name value, (name, value) ∈ filled template levels →
      topic.parameter name = value) :
    template.map (levelText topic) = levels := by
  induction template generalizing levels with
  | nil =>
      cases levels with
      | nil => rfl
      | cons text texts => cases fits
  | cons level rest inductionHypothesis =>
      cases levels with
      | nil => cases level <;> cases fits
      | cons text texts =>
          cases level with
          | literal expected =>
              simp only [matchesTemplate, Bool.and_eq_true,
                decide_eq_true_eq] at fits
              rw [List.map_cons, inductionHypothesis fits.2 unique held]
              exact congrArg (· :: texts) fits.1
          | parameter name =>
              have others : (parameterNames rest).Nodup :=
                (List.nodup_cons.1 unique).2
              have later :
                  ∀ other value, (other, value) ∈ filled rest texts →
                    topic.parameter other = value :=
                fun other value member =>
                  held other value (List.mem_cons_of_mem _ member)
              rw [List.map_cons, inductionHypothesis fits others later]
              exact congrArg (· :: texts)
                (held name text List.mem_cons_self)

/-- Every level is among the levels of its template's filling. -/
theorem valid_of_filled {topic : Topic} {template : List Level}
    {levels : List String} (fits : matchesTemplate template levels = true)
    (held : ∀ name value, (name, value) ∈ filled template levels →
      topic.parameter name = value)
    (valid : ∀ parameter ∈ filled template levels,
      conforms (ruleFor parameter.1) parameter.2 = true) :
    Valid topic template := by
  intro name member
  have named : name ∈ (filled template levels).map Prod.fst := by
    rw [filled_names fits]
    exact mem_parameterNames.2 member
  rcases List.mem_map.1 named with ⟨⟨_, value⟩, among, rfl⟩
  rw [held _ value among]
  exact valid _ among

theorem mapM_levels_of {topic : Topic} {levels : List Level}
    (valid : Valid topic levels) :
    (levels.mapM fun
      | .literal text => (pure text : Except TopicRefusal String)
      | .parameter name => validatedLevel name (topic.parameter name)) =
      .ok (levels.map (levelText topic)) := by
  apply mapM_eq_ok_map
  intro level member
  cases level with
  | literal text => rfl
  | parameter name =>
      simp only [validatedLevel, bind_eq_ok, ensure_eq_ok, exists_const,
        pure_eq_ok, levelText]
      exact ⟨valid name member, trivial⟩

/-- A text is its levels joined again. -/
theorem intercalate_splitText (text : String) :
    String.intercalate "/" (splitText '/' text) = text := by
  apply String.toList_injective
  have separator : "/".toList = ['/'] := by decide
  rw [String.toList_intercalate, splitText, List.map_map, separator]
  have unspelled : String.toList ∘ String.ofList = id := by
    funext characters
    exact String.toList_ofList
  rw [unspelled, List.map_id]
  exact List.intercalate_splitOn '/'

/-- The value of a name in a mapping that holds it once. -/
theorem parameter_of_mem {topic : Topic} {name value : String}
    (unique : (topic.parameters.map Prod.fst).Nodup)
    (member : (name, value) ∈ topic.parameters) :
    topic.parameter name = value := by
  rw [Topic.parameter, lookup_of_mem unique member]
  rfl

/-- Formatting what a text parses to gives the text. -/
theorem formatTopic_of_parseTopic {text : String} {topic : Topic}
    (parses : parseTopic text = .ok topic) : formatTopic topic = .ok text := by
  rcases parseTopic_ok parses with ⟨levels, split, fits, parameters⟩
  rcases parseTopic_valid parses with ⟨_, _, mission, conforming⟩
  have names : topic.parameters.map Prod.fst = topic.family.parameters := by
    rw [parameters]
    exact filled_names fits
  have unique : (topic.parameters.map Prod.fst).Nodup :=
    names ▸ parameters_nodup topic.family
  have held : ∀ name value,
      (name, value) ∈ filled topic.family.levels levels →
        topic.parameter name = value := by
    intro name value member
    exact parameter_of_mem unique (parameters ▸ member)
  have valid : Valid topic topic.family.levels :=
    valid_of_filled fits held (parameters ▸ conforming)
  have texts : topic.family.levels.map (levelText topic) = levels :=
    map_levelText_filled fits (parameters_nodup topic.family) held
  simp only [formatTopic, bind_eq_ok, ensure_eq_ok, exists_const,
    pure_eq_ok, validatedLevel]
  refine ⟨?_, _, ⟨mission, rfl⟩, _, mapM_levels_of valid, ?_⟩
  · simp [names]
  · rw [texts, ← split, intercalate_splitText]

/-! ## Parsing what was formatted -/

theorem LevelCharacter.ascii {character : Char}
    (held : LevelCharacter character) : character.toNat < 128 := by
  rcases held with plain | rfl | rfl
  · exact isAlphanumeric_ascii plain
  · decide
  · decide

/-- An ASCII text has as many octets as characters. -/
theorem utf8ByteSize_of_ascii {text : String}
    (ascii : ∀ character ∈ text.toList, character.toNat < 128) :
    text.utf8ByteSize = text.length := by
  have sized : ∀ characters : List Char,
      (∀ character ∈ characters, character.toNat < 128) →
        (utf8 characters).length = characters.length := by
    intro characters plain
    induction characters with
    | nil => rfl
    | cons first rest inductionHypothesis =>
        have one : first.utf8Size = 1 := by
          have small := plain first List.mem_cons_self
          rw [Char.utf8Size_eq_one_iff, UInt32.le_iff_toNat_le]
          change first.toNat ≤ 127
          omega
        have later := inductionHypothesis fun character member =>
          plain character (List.mem_cons_of_mem _ member)
        simp only [utf8, List.flatMap_cons, List.length_append,
          String.length_utf8EncodeChar, List.length_cons, one] at later ⊢
        omega
  have size : (octets text).length = text.utf8ByteSize := rfl
  rw [← size, ← utf8_toList, sized text.toList ascii, String.length_toList]

/-- The most octets of a value that a grammar admits. -/
def ruleBound : Rule → Nat
  | .identifier => 64
  | .kind => 32
  | .agentName => 64
  | .decision => 7

theorem conforms_size {rule : Rule} {value : String}
    (conforming : conforms rule value = true) :
    value.utf8ByteSize ≤ ruleBound rule := by
  rw [utf8ByteSize_of_ascii fun character member =>
    (conforms_characters conforming character member).ascii]
  cases rule with
  | identifier =>
      simp only [conforms, isIdentifier, Bool.and_eq_true,
        decide_eq_true_eq, String.length_toList] at conforming
      exact conforming.1.1.1.2
  | kind =>
      simp only [conforms, isKind, Bool.and_eq_true,
        decide_eq_true_eq] at conforming
      exact conforming.1
  | agentName =>
      simp only [conforms, isAgentName, Bool.and_eq_true,
        decide_eq_true_eq, String.length_toList] at conforming
      exact conforming.1.2
  | decision =>
      rcases isDecision_eq conforming with rfl | rfl <;> decide

theorem conforms_nonempty {rule : Rule} {value : String}
    (conforming : conforms rule value = true) : value ≠ "" := by
  rintro rfl
  revert conforming
  cases rule <;> decide +kernel

theorem literal_nonempty {family : Family} {text : String}
    (member : .literal text ∈ family.levels) : text ≠ "" := by
  have every :
      ∀ held ∈ Family.all, ∀ word ∈ literals held.levels, word ≠ "" := by
    decide +kernel
  exact every family (by cases family <;> decide) text
    (List.mem_filterMap.2 ⟨_, member, rfl⟩)

theorem topicLevels_nonempty {topic : Topic}
    (mission : isIdentifier topic.missionId = true)
    (valid : Valid topic topic.family.levels) :
    ∀ level ∈ topicLevels topic, level ≠ "" := by
  intro level member
  simp only [topicLevels, prefixLevels, List.cons_append, List.nil_append,
    List.mem_cons, List.mem_map] at member
  rcases member with rfl | rfl | rfl | ⟨held, inTemplate, rfl⟩
  · decide
  · decide
  · exact @conforms_nonempty .identifier _ mission
  · cases held with
    | literal text => exact literal_nonempty inTemplate
    | parameter name => exact conforms_nonempty (valid name inTemplate)

/-- The most octets of one level of a template. -/
def levelBound : Level → Nat
  | .literal text => text.utf8ByteSize
  | .parameter name => ruleBound (ruleFor name)

theorem levelText_size {topic : Topic} {template : List Level}
    (valid : Valid topic template) {level : Level}
    (member : level ∈ template) :
    (levelText topic level).utf8ByteSize ≤ levelBound level := by
  cases level with
  | literal text => exact Nat.le_refl _
  | parameter name => exact conforms_size (valid name member)

theorem intercalate_size (levels : List String) :
    (String.intercalate "/" levels).utf8ByteSize ≤
      (levels.map fun level => level.utf8ByteSize + 1).sum := by
  induction levels with
  | nil => decide
  | cons level rest inductionHypothesis =>
      by_cases last : rest = []
      · subst last
        simp
      · have slash : "/".utf8ByteSize = 1 := by decide
        rw [String.intercalate_cons_of_ne_nil last]
        simp only [String.utf8ByteSize_append, slash, List.map_cons,
          List.sum_cons]
        omega

/-- No topic of any family exceeds the bound of the broker. -/
theorem template_size (family : Family) :
    17 + (65 + (family.levels.map fun level => levelBound level + 1).sum) ≤
      250 := by
  cases family <;> decide +kernel

theorem sum_levels_le {topic : Topic} {template : List Level}
    (valid : Valid topic template) :
    ((template.map (levelText topic)).map fun level =>
        level.utf8ByteSize + 1).sum ≤
      (template.map fun level => levelBound level + 1).sum := by
  induction template with
  | nil => exact Nat.le_refl _
  | cons level rest inductionHypothesis =>
      have here := levelText_size valid List.mem_cons_self
      have later := inductionHypothesis fun name member =>
        valid name (List.mem_cons_of_mem _ member)
      simp only [List.map_cons, List.sum_cons]
      omega

/-- A formatted topic is within the bound of the broker. -/
theorem formatTopic_size {topic : Topic} {text : String}
    (formatted : formatTopic topic = .ok text) :
    text.utf8ByteSize ≤ 250 := by
  rcases formatTopic_ok formatted with ⟨rfl, mission, valid⟩
  have identifier : topic.missionId.utf8ByteSize ≤ 64 :=
    @conforms_size .identifier _ mission
  have levels := sum_levels_le valid
  have first : ("aerial-rescue" : String).utf8ByteSize = 13 := by decide
  have second : ("v1" : String).utf8ByteSize = 2 := by decide
  calc (String.intercalate "/" (topicLevels topic)).utf8ByteSize
      ≤ ((topicLevels topic).map fun level =>
          level.utf8ByteSize + 1).sum := intercalate_size _
    _ ≤ 17 + (65 + (topic.family.levels.map fun level =>
          levelBound level + 1).sum) := by
        simp only [topicLevels, prefixLevels, List.cons_append,
          List.nil_append, List.map_cons, List.sum_cons, first, second]
        omega
    _ ≤ 250 := template_size topic.family

@[simp]
theorem boundParameters_literal (topic : Topic) (text : String)
    (template : List Level) :
    boundParameters topic (.literal text :: template) =
      boundParameters topic template :=
  rfl

@[simp]
theorem boundParameters_parameter (topic : Topic) (name : String)
    (template : List Level) :
    boundParameters topic (.parameter name :: template) =
      (name, topic.parameter name) :: boundParameters topic template :=
  rfl

theorem boundParameters_lookup {topic : Topic} (template : List Level)
    (name : String) :
    (boundParameters topic template).lookup name =
      if .parameter name ∈ template then some (topic.parameter name)
      else none := by
  induction template with
  | nil => rfl
  | cons level rest inductionHypothesis =>
      cases level with
      | literal text =>
          rw [boundParameters_literal, inductionHypothesis]
          simp
      | parameter other =>
          rw [boundParameters_parameter, List.lookup_cons]
          by_cases same : name = other
          · subst same
            simp
          · have apart : (name == other) = false := by simp [same]
            rw [apart]
            simpa [same] using inductionHypothesis

theorem parameter_mem_levels {family : Family} {name : String} :
    .parameter name ∈ family.levels ↔ name ∈ family.parameters :=
  mem_parameterNames.symm

/-- A topic that is formatted gives exactly the parameters of its family. -/
theorem formatTopic_parameters {topic : Topic} {text : String}
    (formatted : formatTopic topic = .ok text) (name : String) :
    topic.parameters.lookup name =
      if name ∈ topic.family.parameters then some (topic.parameter name)
      else none := by
  simp only [formatTopic, bind_eq_ok, ensure_eq_ok, exists_const,
    pure_eq_ok, Bool.and_eq_true, List.all_eq_true,
    List.contains_iff_mem] at formatted
  rcases formatted with ⟨⟨known, complete⟩, _⟩
  cases found : topic.parameters.lookup name with
  | none =>
      rw [if_neg]
      intro required
      rcases List.mem_map.1 (complete name required) with
        ⟨⟨_, value⟩, member, rfl⟩
      have other := List.lookup_eq_none_iff.1 found _ member
      simp at other
  | some value =>
      have member : name ∈ topic.parameters.map Prod.fst := by
        rcases List.lookup_eq_some_iff.1 found with ⟨_, _, split, _⟩
        rw [split]
        simp
      rw [if_pos (known name member), Topic.parameter, found]
      rfl

/-! ## Type discriminators -/

theorem pythonText_injective {left right : String}
    (same : pythonText left = pythonText right) : left = right := by
  apply String.toList_injective
  refine List.map_injective_iff.2 ?_ same
  intro first second equal
  cases equal
  rfl

theorem pythonText_append (left right : String) :
    pythonText (left ++ right) = pythonText left ++ pythonText right := by
  simp [pythonText]

@[simp]
theorem pythonText_surrogateFree (text : String) :
    (pythonText text).any isSurrogate = false := by
  rw [pythonText, List.any_map]
  exact List.any_eq_false.2 fun _ _ surrogate => by cases surrogate

@[simp]
theorem scalars_pythonText (text : String) :
    scalars (pythonText text) = text := by
  rw [pythonText, scalars_map, String.ofList_toList]

@[simp]
theorem encoded_pythonText (text : String) :
    encoded (pythonText text) = .ok text := by
  rw [encoded, ensure_of (pythonText_surrogateFree text),
    scalars_pythonText]
  rfl

/-- A text without a surrogate is the Python string of its characters. -/
theorem pythonText_scalars {text : PythonText}
    (free : text.any isSurrogate = false) :
    pythonText (scalars text) = text := by
  unfold pythonText scalars
  rw [String.toList_ofList]
  induction text with
  | nil => rfl
  | cons first rest inductionHypothesis =>
      rw [List.any_cons, Bool.or_eq_false_iff] at free
      cases first with
      | surrogate code => cases free.1
      | scalar character =>
          exact congrArg (CodeUnit.scalar character :: ·)
            (inductionHypothesis free.2)

theorem parseTopicText_pythonText (text : String) :
    parseTopicText (pythonText text) =
      recast .topicError (parseTopic text) := by
  rw [parseTopicText, encoded_pythonText]
  rfl

theorem parseTopicText_ok {text : PythonText} {topic : Topic} :
    parseTopicText text = .ok topic ↔
      ∃ characters,
        text = pythonText characters ∧ parseTopic characters = .ok topic := by
  constructor
  · intro parses
    simp only [parseTopicText, encoded, bind_eq_ok, ensure_eq_ok,
      exists_const, pure_eq_ok, recast_eq_ok] at parses
    rcases parses with ⟨characters, ⟨free, rfl⟩, accepted⟩
    exact ⟨scalars text, (pythonText_scalars free).symm, accepted⟩
  · rintro ⟨characters, rfl, accepted⟩
    rw [parseTopicText_pythonText, accepted]
    rfl

theorem matchesText_pythonText (template : List Level)
    (levels : List String) :
    matchesText template (levels.map pythonText) =
      matchesTemplate template levels := by
  induction template generalizing levels with
  | nil => cases levels <;> rfl
  | cons level rest inductionHypothesis =>
      cases levels with
      | nil => cases level <;> rfl
      | cons text texts =>
          cases level with
          | literal expected =>
              have same : pythonText expected = pythonText text ↔
                  expected = text :=
                ⟨pythonText_injective, congrArg pythonText⟩
              simp only [List.map_cons, matchesText, matchesTemplate,
                inductionHypothesis texts, same]
          | parameter name => exact inductionHypothesis texts

theorem bindText_pythonText (template : List Level)
    (levels : List String) :
    bindText template (levels.map pythonText) =
      recast .topicError (bindLevels template levels) := by
  induction template generalizing levels with
  | nil => cases levels <;> rfl
  | cons level rest inductionHypothesis =>
      cases levels with
      | nil => cases level <;> rfl
      | cons text texts =>
          cases level with
          | literal expected => exact inductionHypothesis texts
          | parameter name =>
              simp only [List.map_cons, bindText, bindLevels, validatedText,
                validatedLevel, conformsText, pythonText_surrogateFree,
                scalars_pythonText, inductionHypothesis texts,
                Bool.not_false, Bool.true_and, ensure]
              by_cases conforming : conforms (ruleFor name) text = true
              · rw [if_pos conforming, if_pos conforming]
                cases bindLevels rest texts <;> rfl
              · rw [if_neg conforming, if_neg conforming]
                rfl

theorem pythonText_intercalate (levels : List String) :
    pythonText (String.intercalate "." levels) =
      [CodeUnit.scalar '.'].intercalate (levels.map pythonText) := by
  have dot : pythonText "." = [CodeUnit.scalar '.'] := by decide
  induction levels with
  | nil => rfl
  | cons level rest inductionHypothesis =>
      by_cases last : rest = []
      · subst last
        simp
      · have more : rest.map pythonText ≠ [] := by simpa using last
        rw [String.intercalate_cons_of_ne_nil last, pythonText_append,
          pythonText_append, inductionHypothesis, dot, List.map_cons,
          List.intercalate_cons_of_ne_nil more]

/-- A level of some grammar has no dot, so a type splits at its segments. -/
theorem LevelCharacter.not_dot {character : Char}
    (held : LevelCharacter character) : character ≠ '.' := by
  rintro rfl
  revert held
  unfold LevelCharacter
  decide

theorem typeLevels_subset {family : Family} {level : Level}
    (member : level ∈ family.typeLevels) : level ∈ family.levels :=
  (List.mem_filter.1 member).1

theorem literal_dotFree {family : Family} {text : String}
    (member : .literal text ∈ family.levels) : '.' ∉ text.toList := by
  have every :
      ∀ held ∈ Family.all, ∀ word ∈ literals held.levels,
        '.' ∉ word.toList := by
    decide +kernel
  exact every family (by cases family <;> decide) text
    (List.mem_filterMap.2 ⟨_, member, rfl⟩)

theorem typeLevels_dotFree {topic : Topic}
    (valid : Valid topic topic.family.typeLevels) :
    ∀ segment ∈ (topic.family.typeLevels.map (levelText topic)).map
        pythonText, CodeUnit.scalar '.' ∉ segment := by
  intro segment member dotted
  rcases List.mem_map.1 member with ⟨text, inTexts, rfl⟩
  rcases List.mem_map.1 inTexts with ⟨level, inTemplate, rfl⟩
  rcases List.mem_map.1 dotted with ⟨character, inText, same⟩
  cases same
  cases level with
  | literal text => exact literal_dotFree (typeLevels_subset inTemplate) inText
  | parameter name =>
      exact (conforms_characters (valid name inTemplate) _ inText).not_dot rfl

/-- No two families have types that one text could spell. -/
theorem typeFamily_unique {left right : Family} {levels : List String}
    (fitsLeft : matchesTemplate left.typeLevels levels = true)
    (fitsRight : matchesTemplate right.typeLevels levels = true) :
    left = right := by
  have unique :
      ∀ first ∈ Family.all, ∀ second ∈ Family.all,
        compatible first.typeLevels second.typeLevels = true →
          first = second := by
    decide
  exact unique left (by cases left <;> decide) right
    (by cases right <;> decide) (compatible_of_matches fitsLeft fitsRight)

theorem eventType_ok {topic : Topic} {text : String}
    (typed : eventType topic = .ok text) :
    text = String.intercalate "."
        (prefixLevels ++ topic.family.typeLevels.map (levelText topic)) ∧
      Valid topic topic.family.typeLevels := by
  simp only [eventType, bind_eq_ok, pure_eq_ok] at typed
  rcases typed with ⟨segments, mapped, rfl⟩
  rcases mapM_levels_ok mapped with ⟨rfl, valid⟩
  exact ⟨rfl, valid⟩

theorem typeLevels_ne_nil (family : Family) : family.typeLevels ≠ [] := by
  cases family <;> decide

theorem pythonText_eventType {levels : List String} (some : levels ≠ []) :
    pythonText (String.intercalate "." (prefixLevels ++ levels)) =
      typePrefix ++
        [CodeUnit.scalar '.'].intercalate (levels.map pythonText) := by
  have head : "aerial-rescue" ++ ("." ++ ("v1" ++ ".")) =
      "aerial-rescue.v1." := by
    decide
  rw [← pythonText_intercalate, typePrefix, ← pythonText_append, ← head,
    prefixLevels, List.cons_append, List.cons_append, List.nil_append,
    String.intercalate_cons_of_ne_nil (List.cons_ne_nil _ _),
    String.intercalate_cons_of_ne_nil some]
  simp only [String.append_assoc]

/-- The parser of type discriminators inverts the derivation of a type. -/
theorem parseEventType_eventType {topic : Topic} {text : String}
    (typed : eventType topic = .ok text) :
    parseEventType (pythonText text) =
      .ok (topic.family,
        boundParameters topic topic.family.typeLevels) := by
  rcases eventType_ok typed with ⟨rfl, valid⟩
  have some : topic.family.typeLevels.map (levelText topic) ≠ [] := by
    simpa using typeLevels_ne_nil topic.family
  have segments :
      ([CodeUnit.scalar '.'].intercalate
          ((topic.family.typeLevels.map (levelText topic)).map
            pythonText)).splitOn (.scalar '.') =
        (topic.family.typeLevels.map (levelText topic)).map pythonText :=
    List.splitOn_intercalate _ (typeLevels_dotFree valid)
      (by simpa using some)
  have chosen :
      (Family.all.find? fun family =>
          matchesText family.typeLevels
            ((topic.family.typeLevels.map (levelText topic)).map
              pythonText)) = Option.some topic.family := by
    simp only [matchesText_pythonText]
    cases found : Family.all.find? fun family =>
        matchesTemplate family.typeLevels
          (topic.family.typeLevels.map (levelText topic)) with
    | none =>
        have missed := List.find?_eq_none.1 found topic.family
          (by cases topic.family <;> decide)
        simp [matchesTemplate_self] at missed
    | some family =>
        have matched := List.find?_some found
        rw [typeFamily_unique matched (matchesTemplate_self _ _)]
  rw [pythonText_eventType some, parseEventType, List.drop_left, segments]
  simp only [bind_eq_ok, ensure_eq_ok, exists_const, present_eq_ok,
    pure_eq_ok, Prod.mk.injEq]
  refine ⟨by simp, topic.family, chosen, _, ?_, rfl, rfl⟩
  rw [bindText_pythonText, bindLevels_self valid]
  rfl

/-! ## The grammar -/

/-- Two topics that Python holds equal: mappings compare by name. -/
def SameTopic (left right : Topic) : Prop :=
  left.family = right.family ∧ left.missionId = right.missionId ∧
    ∀ name, left.parameters.lookup name = right.parameters.lookup name

/-- A text within the bound, without wildcards and without empty levels. -/
def WellFormedText (text : PythonText) : Prop :=
  ∃ characters,
    text = pythonText characters ∧ characters.utf8ByteSize ≤ 250 ∧
      '*' ∉ characters.toList ∧ '>' ∉ characters.toList ∧
      "" ∉ splitText '/' characters

/-- The kind and decision parameters of a topic, which its type carries. -/
def CarriesKinds (kinds : List (String × String)) (topic : Topic) : Prop :=
  ∀ name,
    kinds.lookup name =
      if ruleFor name = .kind ∨ ruleFor name = .decision then
        topic.parameters.lookup name
      else none

/-- No parser of topic text raises anything but a topic error. -/
def RaisesTopicErrorOnly (text : PythonText) : Prop :=
  (∀ raised, parseTopicText text = .error raised →
    ∃ refusal, raised = .topicError refusal) ∧
  (∀ raised, parseEventType text = .error raised →
    ∃ refusal, raised = .topicError refusal) ∧
  ∀ parameter raised, validatedText parameter text = .error raised →
    ∃ refusal, raised = .topicError refusal

theorem parseTopicText_formatTopic {topic : Topic} {text : String}
    (formatted : formatTopic topic = .ok text) :
    ∃ parsed,
      parseTopicText (pythonText text) = .ok parsed ∧
        SameTopic parsed topic := by
  have parses := parseTopic_formatTopic formatted (formatTopic_size formatted)
  refine ⟨_, parseTopicText_ok.2 ⟨text, rfl, parses⟩, rfl, rfl, ?_⟩
  intro name
  rw [boundParameters_lookup, formatTopic_parameters formatted]
  simp only [parameter_mem_levels]

theorem wellFormedText_of_parses {text : PythonText} {topic : Topic}
    (parses : parseTopicText text = .ok topic) : WellFormedText text := by
  rcases parseTopicText_ok.1 parses with ⟨characters, rfl, accepted⟩
  rcases parseTopic_valid accepted with ⟨short, wildcardFree, mission, _⟩
  rw [List.all_eq_true] at wildcardFree
  refine ⟨characters, rfl, short, ?_, ?_, ?_⟩
  · intro star
    have refused := wildcardFree '*' star
    revert refused
    decide
  · intro greater
    have refused := wildcardFree '>' greater
    revert refused
    decide
  · intro empty
    rcases formatTopic_ok (formatTopic_of_parseTopic accepted) with
      ⟨same, _, valid⟩
    have split : splitText '/' characters = topicLevels topic := by
      rw [same]
      exact splitText_topicLevels (by simp [topicLevels, prefixLevels])
        (topicLevels_plain mission valid)
    rw [split] at empty
    exact topicLevels_nonempty mission valid "" empty rfl

theorem eventType_of_formatTopic {topic : Topic} {text : String}
    (formatted : formatTopic topic = .ok text) :
    ∃ type kinds,
      eventType topic = .ok type ∧
        parseEventType (pythonText type) = .ok (topic.family, kinds) ∧
        CarriesKinds kinds topic := by
  rcases formatTopic_ok formatted with ⟨_, _, valid⟩
  have typed :
      eventType topic =
        .ok (String.intercalate "."
          (prefixLevels ++ topic.family.typeLevels.map (levelText topic))) := by
    simp only [eventType, bind_eq_ok, pure_eq_ok]
    exact ⟨_, mapM_levels_of fun name member =>
      valid name (typeLevels_subset member), rfl⟩
  refine ⟨_, _, typed, parseEventType_eventType typed, ?_⟩
  intro name
  rw [boundParameters_lookup, formatTopic_parameters formatted]
  have kept : .parameter name ∈ topic.family.typeLevels ↔
      name ∈ topic.family.parameters ∧
        (ruleFor name = .kind ∨ ruleFor name = .decision) := by
    rw [Family.typeLevels, List.mem_filter, parameter_mem_levels]
    refine and_congr_right fun _ => ?_
    cases rule : ruleFor name <;> simp [rule]
  by_cases carried : ruleFor name = .kind ∨ ruleFor name = .decision
  · simp only [kept, carried, and_true, if_true]
  · simp only [kept, carried, and_false, if_false]

theorem validatedText_error {parameter : String} {text : PythonText}
    {raised : Raised}
    (refused : validatedText parameter text = .error raised) :
    ∃ refusal, raised = .topicError refusal := by
  simp only [validatedText, bind_eq_error, ensure_eq_error] at refused
  rcases refused with ⟨_, rfl⟩ | ⟨_, _, refused⟩
  · exact ⟨_, rfl⟩
  · cases refused

theorem bindText_error {template : List Level} {levels : List PythonText}
    {raised : Raised} (refused : bindText template levels = .error raised) :
    ∃ refusal, raised = .topicError refusal := by
  induction template generalizing levels with
  | nil => cases refused
  | cons level rest inductionHypothesis =>
      cases levels with
      | nil => cases level <;> cases refused
      | cons text texts =>
          cases level with
          | literal expected => exact inductionHypothesis refused
          | parameter name =>
              simp only [bindText, bind_eq_error] at refused
              rcases refused with invalid | ⟨_, _, later | ⟨_, _, none⟩⟩
              · exact validatedText_error invalid
              · exact inductionHypothesis later
              · cases none

theorem parseEventType_error {text : PythonText} {raised : Raised}
    (refused : parseEventType text = .error raised) :
    ∃ refusal, raised = .topicError refusal := by
  simp only [parseEventType, bind_eq_error, ensure_eq_error,
    present_eq_error] at refused
  rcases refused with
    ⟨_, rfl⟩ | ⟨_, _, ⟨_, rfl⟩ | ⟨_, _, unbound | ⟨_, _, none⟩⟩⟩
  · exact ⟨_, rfl⟩
  · exact ⟨_, rfl⟩
  · exact bindText_error unbound
  · cases none

/-- A surrogate in the text is what makes a parser raise another error. -/
theorem raisesTopicErrorOnly_iff (text : PythonText) :
    RaisesTopicErrorOnly text ↔ text.any isSurrogate = false := by
  constructor
  · rintro ⟨parses, _⟩
    by_contra surrogate
    have raised : parseTopicText text = .error .unicodeEncodeError := by
      rw [parseTopicText, encoded,
        ensure_eq_error.2 ⟨surrogate, rfl⟩]
      rfl
    rcases parses _ raised with ⟨refusal, other⟩
    cases other
  · intro free
    refine ⟨fun raised refused => ?_, fun _ => parseEventType_error,
      fun _ _ => validatedText_error⟩
    rw [← pythonText_scalars free, parseTopicText_pythonText,
      recast_eq_error] at refused
    rcases refused with ⟨refusal, _, rfl⟩
    exact ⟨refusal, rfl⟩

/-- A string of one lone surrogate is refused with the encoder's error. -/
theorem loneSurrogate_raises : ¬RaisesTopicErrorOnly [.surrogate 0xD800] := by
  rintro ⟨parses, _⟩
  rcases parses .unicodeEncodeError (by decide +kernel) with ⟨refusal, other⟩
  cases other

/--
Formatting and parsing are inverse on every accepted topic and text, every
level list has one reading, an accepted text keeps the bounds of the broker,
the type of a topic gives back its family and kinds, and nothing but a topic
error is raised exactly for the strings without a surrogate.
-/
theorem topicGrammar (topic : Topic) (text : PythonText)
    (levels : List String) (left right : Family) :
    (∀ formatted, formatTopic topic = .ok formatted →
      ∃ parsed,
        parseTopicText (pythonText formatted) = .ok parsed ∧
          SameTopic parsed topic) ∧
    (∀ parsed, parseTopicText text = .ok parsed →
      ∃ formatted,
        formatTopic parsed = .ok formatted ∧
          pythonText formatted = text) ∧
    (matchesTemplate left.levels levels = true →
      matchesTemplate right.levels levels = true → left = right) ∧
    (∀ parsed, parseTopicText text = .ok parsed → WellFormedText text) ∧
    (∀ formatted, formatTopic topic = .ok formatted →
      ∃ type kinds,
        eventType topic = .ok type ∧
          parseEventType (pythonText type) = .ok (topic.family, kinds) ∧
          CarriesKinds kinds topic) ∧
    (RaisesTopicErrorOnly text ↔ text.any isSurrogate = false) := by
  refine ⟨fun _ => parseTopicText_formatTopic, ?_, family_unique,
    fun _ => wellFormedText_of_parses, fun _ => eventType_of_formatTopic,
    raisesTopicErrorOnly_iff text⟩
  intro parsed parses
  rcases parseTopicText_ok.1 parses with ⟨characters, rfl, accepted⟩
  exact ⟨characters, formatTopic_of_parseTopic accepted, rfl⟩

end AerialRescue.Contracts.Topics
