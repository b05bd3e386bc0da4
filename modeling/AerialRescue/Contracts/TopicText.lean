import AerialRescue.Contracts.Topics

/-!
# Topic text round trip

A formatted topic parses back to the same family, mission and parameters.  No
level that passes its grammar carries a separator or a wildcard, and no two
templates are satisfied by one level list.
-/

namespace AerialRescue.Contracts.Topics

open AerialRescue.Lib.Guard
open AerialRescue.Contracts.Canonical

/-! ## Characters of a validated level -/

/-- A character with a meaning of its own in topic text. -/
def isReserved (character : Char) : Bool :=
  character = '/' || character = '*' || character = '>'

/-- No character of a text is reserved. -/
def Plain (text : String) : Prop :=
  ∀ character ∈ text.toList, isReserved character = false

instance (text : String) : Decidable (Plain text) :=
  List.decidableBAll _ text.toList

/-- A character that a level of some grammar may have. -/
def LevelCharacter (character : Char) : Prop :=
  isAlphanumeric character = true ∨ character = '-' ∨ character = '_'

theorem LevelCharacter.unreserved {character : Char}
    (held : LevelCharacter character) : isReserved character = false := by
  by_contra reserved
  simp only [isReserved, Bool.or_eq_true, decide_eq_true_eq,
    Bool.not_eq_false] at reserved
  rcases reserved with (rfl | rfl) | rfl <;> revert held <;>
    unfold LevelCharacter <;> decide

theorem LevelCharacter.of_slug {character : Char}
    (slug : isSlug character = true) : LevelCharacter character := by
  simp only [isSlug, LevelCharacter, isAlphanumeric,
    Bool.or_eq_true] at slug ⊢
  tauto

theorem isIdentifier_characters {text : String}
    (identifier : isIdentifier text = true) :
    ∀ character ∈ text.toList, LevelCharacter character := by
  simp only [isIdentifier, Bool.and_eq_true, List.all_eq_true,
    Bool.or_eq_true, decide_eq_true_eq] at identifier
  intro character member
  rcases identifier.1.1.2 character member with slug | hyphen
  · exact .of_slug slug
  · exact .inr (.inl hyphen)

/-- Every character of a joined list is a separator's or a word's. -/
theorem mem_intercalate {separator : List Char} {character : Char}
    {words : List (List Char)}
    (member : character ∈ separator.intercalate words) :
    character ∈ separator ∨ ∃ word ∈ words, character ∈ word := by
  induction words with
  | nil => simp at member
  | cons word rest inductionHypothesis =>
      by_cases last : rest = []
      · subst last
        simp only [List.intercalate_singleton] at member
        exact .inr ⟨word, by simp, member⟩
      · rw [List.intercalate_cons_of_ne_nil last] at member
        simp only [List.mem_append] at member
        rcases member with (inWord | same) | later
        · exact .inr ⟨word, by simp, inWord⟩
        · exact .inl same
        · rcases inductionHypothesis later with same | ⟨other, inRest, held⟩
          · exact .inl same
          · exact .inr ⟨other, by simp [inRest], held⟩

/-- Every character of a list is its separator or lies in one of the words. -/
theorem mem_splitOn {character : Char} {characters : List Char}
    (separator : Char) (member : character ∈ characters) :
    character = separator ∨
      ∃ word ∈ characters.splitOn separator, character ∈ word := by
  have whole :
      [separator].intercalate (characters.splitOn separator) = characters :=
    List.intercalate_splitOn separator
  rw [← whole] at member
  simpa using mem_intercalate member

theorem isKind_characters {text : String} (kind : isKind text = true) :
    ∀ character ∈ text.toList, LevelCharacter character := by
  simp only [isKind, isKindForm, Bool.and_eq_true, List.all_eq_true] at kind
  intro character member
  rcases mem_splitOn '-' member with
    rfl | ⟨word, inWords, inWord⟩
  · exact .inr (.inl rfl)
  · exact .of_slug ((kind.2.2 word inWords).2 character inWord)

theorem isAgentName_characters {text : String}
    (name : isAgentName text = true) :
    ∀ character ∈ text.toList, LevelCharacter character := by
  simp only [isAgentName, Bool.and_eq_true, List.all_eq_true,
    Bool.or_eq_true, decide_eq_true_eq] at name
  intro character member
  rcases name.2 character member with plain | underscore
  · exact .inl plain
  · exact .inr (.inr underscore)

theorem isDecision_eq {text : String} (decision : isDecision text = true) :
    text = "approve" ∨ text = "reject" := by
  simpa only [isDecision, Bool.or_eq_true, decide_eq_true_eq] using decision

theorem isDecision_characters {text : String}
    (decision : isDecision text = true) :
    ∀ character ∈ text.toList, LevelCharacter character := by
  have checked : (text.toList.all fun character => isSlug character) = true := by
    rcases isDecision_eq decision with rfl | rfl <;> decide +kernel
  intro character member
  exact .of_slug (List.all_eq_true.1 checked character member)

/-- A value of any grammar has level characters only. -/
theorem conforms_characters {rule : Rule} {value : String}
    (conforming : conforms rule value = true) :
    ∀ character ∈ value.toList, LevelCharacter character := by
  cases rule with
  | identifier => exact isIdentifier_characters conforming
  | kind => exact isKind_characters conforming
  | agentName => exact isAgentName_characters conforming
  | decision => exact isDecision_characters conforming

theorem conforms_plain {rule : Rule} {value : String}
    (conforming : conforms rule value = true) : Plain value :=
  fun character member =>
    (conforms_characters conforming character member).unreserved

theorem isIdentifier_plain {text : String}
    (identifier : isIdentifier text = true) : Plain text :=
  @conforms_plain .identifier text identifier

theorem validatedLevel_ok {parameter value level : String}
    (valid : validatedLevel parameter value = .ok level) :
    level = value ∧ Plain value := by
  simp only [validatedLevel, bind_eq_ok, ensure_eq_ok, exists_const,
    pure_eq_ok] at valid
  rcases valid with ⟨conforming, rfl⟩
  exact ⟨rfl, conforms_plain conforming⟩

/-! ## Levels -/

/-- The level of a topic at one place of its template. -/
def levelText (topic : Topic) : Level → String
  | .literal text => text
  | .parameter name => topic.parameter name

/-- Two templates that some level list could satisfy both. -/
def compatible : List Level → List Level → Bool
  | [], [] => true
  | .literal left :: lefts, .literal right :: rights =>
      left = right && compatible lefts rights
  | .literal _ :: lefts, .parameter _ :: rights => compatible lefts rights
  | .parameter _ :: lefts, .literal _ :: rights => compatible lefts rights
  | .parameter _ :: lefts, .parameter _ :: rights => compatible lefts rights
  | _, _ => false

theorem compatible_of_matches {left right : List Level}
    {levels : List String} (fitsLeft : matchesTemplate left levels = true)
    (fitsRight : matchesTemplate right levels = true) :
    compatible left right = true := by
  induction left generalizing right levels with
  | nil =>
      cases levels <;> cases right <;>
        simp_all [matchesTemplate, compatible]
  | cons level rest inductionHypothesis =>
      cases levels with
      | nil => cases level <;> cases fitsLeft
      | cons text texts =>
          cases right with
          | nil => cases fitsRight
          | cons other others =>
              cases level <;> cases other <;>
                simp only [matchesTemplate, compatible, Bool.and_eq_true,
                  decide_eq_true_eq] at fitsLeft fitsRight ⊢
              · exact ⟨fitsLeft.1.trans fitsRight.1.symm,
                  inductionHypothesis fitsLeft.2 fitsRight.2⟩
              · exact inductionHypothesis fitsLeft.2 fitsRight
              · exact inductionHypothesis fitsLeft fitsRight.2
              · exact inductionHypothesis fitsLeft fitsRight

theorem eq_of_compatible {left right : Family}
    (shared : compatible left.levels right.levels = true) :
    left = right := by
  have unique :
      ∀ first ∈ Family.all, ∀ second ∈ Family.all,
        compatible first.levels second.levels = true → first = second := by
    decide
  exact unique left (by cases left <;> decide) right
    (by cases right <;> decide) shared

/-- One list of levels fits the template of one family only. -/
theorem family_unique {left right : Family} {levels : List String}
    (fitsLeft : matchesTemplate left.levels levels = true)
    (fitsRight : matchesTemplate right.levels levels = true) :
    left = right :=
  eq_of_compatible (compatible_of_matches fitsLeft fitsRight)

theorem matchesTemplate_self (topic : Topic) (levels : List Level) :
    matchesTemplate levels (levels.map (levelText topic)) = true := by
  induction levels with
  | nil => rfl
  | cons level rest inductionHypothesis =>
      cases level <;>
        simpa [matchesTemplate, levelText] using inductionHypothesis

/-- The parameters of a topic in template order. -/
def boundParameters (topic : Topic) (levels : List Level) :
    List (String × String) :=
  levels.filterMap fun
    | .literal _ => none
    | .parameter name => some (name, topic.parameter name)

/-- Every variable level of a topic obeys its grammar. -/
def Valid (topic : Topic) (levels : List Level) : Prop :=
  ∀ name, .parameter name ∈ levels →
    conforms (ruleFor name) (topic.parameter name) = true

theorem bindLevels_self {topic : Topic} {levels : List Level}
    (valid : Valid topic levels) :
    bindLevels levels (levels.map (levelText topic)) =
      .ok (boundParameters topic levels) := by
  induction levels with
  | nil => rfl
  | cons level rest inductionHypothesis =>
      have later : Valid topic rest := fun name member =>
        valid name (List.mem_cons_of_mem _ member)
      cases level with
      | literal text => exact inductionHypothesis later
      | parameter name =>
          have here := valid name (by simp)
          simp only [List.map_cons, levelText, bindLevels, bind_eq_ok,
            validatedLevel, ensure_eq_ok, exists_const, pure_eq_ok]
          exact ⟨_, ⟨here, rfl⟩, _, inductionHypothesis later, rfl⟩

/-! ## The round trip -/

theorem mapM_levels_ok {topic : Topic} {levels : List Level}
    {texts : List String}
    (mapped :
      (levels.mapM fun
        | .literal text => (pure text : Except TopicRefusal String)
        | .parameter name => validatedLevel name (topic.parameter name)) =
        .ok texts) :
    texts = levels.map (levelText topic) ∧ Valid topic levels := by
  induction levels generalizing texts with
  | nil =>
      simp only [List.mapM_nil, pure_eq_ok] at mapped
      subst mapped
      exact ⟨rfl, by simp [Valid]⟩
  | cons level rest inductionHypothesis =>
      simp only [List.mapM_cons, bind_eq_ok, pure_eq_ok] at mapped
      rcases mapped with ⟨first, head, others, tail, rfl⟩
      rcases inductionHypothesis tail with ⟨rfl, valid⟩
      cases level with
      | literal text =>
          simp only [pure_eq_ok] at head
          subst head
          refine ⟨rfl, ?_⟩
          intro name member
          exact valid name (by simpa using member)
      | parameter name =>
          rcases validatedLevel_ok head with ⟨rfl, _⟩
          simp only [validatedLevel, bind_eq_ok, ensure_eq_ok,
            exists_const, pure_eq_ok] at head
          refine ⟨rfl, ?_⟩
          intro other member
          rcases List.mem_cons.1 member with same | later
          · cases same
            exact head.1
          · exact valid other later

/-- The levels of a formatted topic. -/
def topicLevels (topic : Topic) : List String :=
  prefixLevels ++ topic.missionId ::
    topic.family.levels.map (levelText topic)

theorem formatTopic_ok {topic : Topic} {text : String}
    (formatted : formatTopic topic = .ok text) :
    text = String.intercalate "/" (topicLevels topic) ∧
      isIdentifier topic.missionId = true ∧
      Valid topic topic.family.levels := by
  simp only [formatTopic, bind_eq_ok, ensure_eq_ok, exists_const,
    pure_eq_ok] at formatted
  rcases formatted with ⟨_, mission, missionLevel, rest, mapped, rfl⟩
  rcases mapM_levels_ok mapped with ⟨rfl, valid⟩
  rcases validatedLevel_ok missionLevel with ⟨rfl, _⟩
  simp only [validatedLevel, bind_eq_ok, ensure_eq_ok, exists_const,
    pure_eq_ok] at missionLevel
  exact ⟨rfl, missionLevel.1, valid⟩

/-- The literal levels of a template. -/
def literals (levels : List Level) : List String :=
  levels.filterMap fun
    | .literal text => some text
    | .parameter _ => none

theorem plain_literal {family : Family} {text : String}
    (member : .literal text ∈ family.levels) : Plain text := by
  have every :
      ∀ held ∈ Family.all, ∀ word ∈ literals held.levels, Plain word := by
    decide +kernel
  exact every family (by cases family <;> decide) text
    (List.mem_filterMap.2 ⟨_, member, rfl⟩)

theorem topicLevels_plain {topic : Topic}
    (mission : isIdentifier topic.missionId = true)
    (valid : Valid topic topic.family.levels) :
    ∀ level ∈ topicLevels topic, Plain level := by
  intro level member
  simp only [topicLevels, prefixLevels, List.cons_append, List.nil_append,
    List.mem_cons, List.mem_map] at member
  rcases member with rfl | rfl | rfl | ⟨held, inTemplate, rfl⟩
  · decide +kernel
  · decide +kernel
  · exact isIdentifier_plain mission
  · cases held with
    | literal text => exact plain_literal inTemplate
    | parameter name => exact conforms_plain (valid name inTemplate)

/-- Levels without a separator come back from their joined text. -/
theorem splitText_intercalate {levels : List String} (nonempty : levels ≠ [])
    (separatorFree : ∀ level ∈ levels, '/' ∉ level.toList) :
    splitText '/' (String.intercalate "/" levels) = levels := by
  unfold splitText
  rw [String.toList_intercalate]
  have separator : "/".toList = ['/'] := by decide
  rw [separator, List.splitOn_intercalate]
  · simp [List.map_map, Function.comp_def]
  · intro word member
    rcases List.mem_map.1 member with ⟨level, inLevels, rfl⟩
    exact separatorFree level inLevels
  · simpa using nonempty

theorem Plain.separatorFree {level : String} (plain : Plain level) :
    '/' ∉ level.toList := by
  intro slash
  have unreserved := plain '/' slash
  simp [isReserved] at unreserved

theorem splitText_topicLevels {levels : List String} (nonempty : levels ≠ [])
    (plain : ∀ level ∈ levels, Plain level) :
    splitText '/' (String.intercalate "/" levels) = levels :=
  splitText_intercalate nonempty
    fun level member => (plain level member).separatorFree

theorem wildcardFree_topicLevels {levels : List String}
    (plain : ∀ level ∈ levels, Plain level) :
    ((String.intercalate "/" levels).toList.all fun character =>
      character != '*' && character != '>') = true := by
  rw [String.toList_intercalate, List.all_eq_true]
  intro character member
  rcases mem_intercalate member with slash | ⟨word, inWords, inWord⟩
  · have separator : "/".toList = ['/'] := by decide
    rw [separator, List.mem_singleton] at slash
    subst slash
    decide
  · rcases List.mem_map.1 inWords with ⟨level, inLevels, rfl⟩
    have unreserved := plain level inLevels character inWord
    simp only [isReserved, Bool.or_eq_false_iff,
      decide_eq_false_iff_not] at unreserved
    simp [unreserved.1.2, unreserved.2]

/-- A formatted topic within the length bound parses back to itself. -/
theorem parseTopic_formatTopic {topic : Topic} {text : String}
    (formatted : formatTopic topic = .ok text)
    (short : text.utf8ByteSize ≤ 250) :
    parseTopic text =
      .ok
        { topic with
          parameters := boundParameters topic topic.family.levels } := by
  rcases formatTopic_ok formatted with ⟨rfl, mission, valid⟩
  have plain := topicLevels_plain mission valid
  have split :
      splitText '/' (String.intercalate "/" (topicLevels topic)) =
        topicLevels topic :=
    splitText_topicLevels (by simp [topicLevels, prefixLevels]) plain
  have chosen :
      (Family.all.find? fun family =>
          matchesTemplate family.levels
            (topic.family.levels.map (levelText topic))) =
        some topic.family := by
    cases found : Family.all.find? fun family =>
        matchesTemplate family.levels
          (topic.family.levels.map (levelText topic)) with
    | none =>
        have missed := List.find?_eq_none.1 found topic.family
          (by cases topic.family <;> decide)
        simp [matchesTemplate_self] at missed
    | some family =>
        have matched := List.find?_some found
        rw [family_unique matched (matchesTemplate_self _ _)]
  simp only [parseTopic, bind_eq_ok, ensure_eq_ok, exists_const,
    present_eq_ok, pure_eq_ok, split]
  refine ⟨short, wildcardFree_topicLevels plain, rfl, topic.family, chosen,
    topic.missionId, ?_, _, bindLevels_self valid, rfl⟩
  simp only [validatedLevel, bind_eq_ok, ensure_eq_ok, exists_const,
    pure_eq_ok]
  exact ⟨mission, rfl⟩

/-- Whatever a formatted topic parses to is that topic. -/
theorem parseTopic_of_formatTopic {topic parsed : Topic} {text : String}
    (formatted : formatTopic topic = .ok text)
    (parses : parseTopic text = .ok parsed) :
    parsed =
      { topic with
        parameters := boundParameters topic topic.family.levels } := by
  have short : text.utf8ByteSize ≤ 250 := by
    simp only [parseTopic, bind_eq_ok, ensure_eq_ok, exists_const] at parses
    exact parses.1
  rw [parseTopic_formatTopic formatted short] at parses
  exact (Except.ok.inj parses).symm

/-! ## Parsed text -/

/-- The placeholders of a template with the levels that fill them. -/
def filled : List Level → List String → List (String × String)
  | .literal _ :: template, _ :: levels => filled template levels
  | .parameter name :: template, level :: levels =>
      (name, level) :: filled template levels
  | _, _ => []

theorem bindLevels_ok {template : List Level} {levels : List String}
    {parameters : List (String × String)}
    (bound : bindLevels template levels = .ok parameters) :
    parameters = filled template levels := by
  induction template generalizing levels parameters with
  | nil =>
      cases bound
      rfl
  | cons level rest inductionHypothesis =>
      cases levels with
      | nil =>
          cases level <;> cases bound <;> rfl
      | cons text texts =>
          cases level with
          | literal expected => exact inductionHypothesis bound
          | parameter name =>
              simp only [bindLevels, bind_eq_ok, pure_eq_ok] at bound
              rcases bound with ⟨value, valid, later, tail, rfl⟩
              rw [(validatedLevel_ok valid).1, inductionHypothesis tail]
              rfl

/-- What the levels of an accepted text are. -/
theorem parseTopic_ok {text : String} {topic : Topic}
    (parses : parseTopic text = .ok topic) :
    ∃ levels,
      splitText '/' text = prefixLevels ++ topic.missionId :: levels ∧
        matchesTemplate topic.family.levels levels = true ∧
        topic.parameters = filled topic.family.levels levels := by
  simp only [parseTopic, bind_eq_ok, ensure_eq_ok, exists_const,
    present_eq_ok, pure_eq_ok] at parses
  rcases parses with
    ⟨_, _, first, family, chosen, mission, missionLevel, parameters, bound,
      rfl⟩
  have matched := List.find?_some chosen
  rcases validatedLevel_ok missionLevel with ⟨rfl, _⟩
  refine ⟨(splitText '/' text).drop 3, ?_, matched, bindLevels_ok bound⟩
  have long : 2 < (splitText '/' text).length := by
    by_contra short
    rw [List.drop_eq_nil_of_le (by omega)] at matched
    cases family <;> cases matched
  have mission :
      (splitText '/' text).getD 2 "" = (splitText '/' text)[2] := by
    rw [List.getD_eq_getElem?_getD, List.getElem?_eq_getElem long,
      Option.getD_some]
  calc splitText '/' text
      = (splitText '/' text).take 2 ++ (splitText '/' text).drop 2 :=
        (List.take_append_drop _ _).symm
    _ = _ := by
        rw [first, List.drop_eq_getElem_cons long, mission]

/-- The names of the filled placeholders are those of the template. -/
theorem filled_names {template : List Level} {levels : List String}
    (fits : matchesTemplate template levels = true) :
    (filled template levels).map Prod.fst =
      template.filterMap fun
        | .literal _ => none
        | .parameter name => some name := by
  induction template generalizing levels with
  | nil => cases levels <;> rfl
  | cons level rest inductionHypothesis =>
      cases levels with
      | nil => cases level <;> cases fits
      | cons text texts =>
          cases level with
          | literal expected =>
              simp only [matchesTemplate, Bool.and_eq_true] at fits
              exact inductionHypothesis fits.2
          | parameter name =>
              exact congrArg (name :: ·) (inductionHypothesis fits)

theorem parameters_nodup (family : Family) : family.parameters.Nodup := by
  cases family <;> decide

/-- A mapping gives a name the value it holds once. -/
theorem lookup_of_mem {parameters : List (String × String)}
    {name value : String} (unique : (parameters.map Prod.fst).Nodup)
    (member : (name, value) ∈ parameters) :
    parameters.lookup name = some value := by
  induction parameters with
  | nil => cases member
  | cons first rest inductionHypothesis =>
      rw [List.map_cons, List.nodup_cons] at unique
      rw [List.lookup_cons]
      rcases List.mem_cons.1 member with rfl | later
      · simp
      · have other : (name == first.1) = false := by
          rw [beq_eq_false_iff_ne]
          rintro rfl
          exact unique.1 (List.mem_map.2 ⟨_, later, rfl⟩)
        rw [other]
        exact inductionHypothesis unique.2 later

end AerialRescue.Contracts.Topics
