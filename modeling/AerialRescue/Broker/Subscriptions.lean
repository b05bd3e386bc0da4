import AerialRescue.Contracts.TopicText

/-!
# Subscription texts

The wildcard subscriptions of the broker adapter and the broker's own matching
rule.  Every family pattern uses the single-level wildcard only, so a pattern
covers a topic exactly when the template of its family fits.
-/

namespace AerialRescue.Broker.Subscriptions

open AerialRescue.Lib.Guard
open AerialRescue.Contracts.Topics

/-! ## The matching rule -/

/--
Whether the levels of a subscription cover the levels of a topic: `*` stands
for exactly one level, and a final `>` for one or more.
-/
def covers : List String → List String → Bool
  | [], levels => levels.isEmpty
  | _ :: _, [] => false
  | pattern :: patterns, level :: levels =>
      (pattern = ">" && patterns.isEmpty) ||
        ((pattern = "*" || pattern = level) && covers patterns levels)

/-- Whether a subscription text attracts a topic text. -/
def attracts (subscription topic : String) : Bool :=
  covers (splitText '/' subscription) (splitText '/' topic)

/-! ## Building a subscription -/

/-- `SubscriptionRefusal`, for a namespace that is text. -/
inductive SubscriptionRefusal where
  | wildcard
  | emptyLevel
  | namespaceCollision
  | length
deriving DecidableEq

/-- A template level with some parameters chosen and the others wild. -/
def patternLevel (chosen : String → Option String) : Level → String
  | .literal text => text
  | .parameter name => (chosen name).getD "*"

/-- `_wildcarded` -/
def wildcarded : Level → String :=
  patternLevel fun _ => none

/-- The levels of a subscription under the application namespace. -/
def subscriptionLevels (missionLevel : String) (levels : List String) :
    List String :=
  prefixLevels ++ missionLevel :: levels

/-- `subscription_for` -/
def subscriptionFor (family : Family) : String :=
  String.intercalate "/"
    (subscriptionLevels
      (if family = .gatewayResponse then "reply" else "*")
      (family.levels.map wildcarded))

/-- A family pattern with one parameter made literal. -/
def fixedSubscription (family : Family) (name text : String) : String :=
  String.intercalate "/"
    (subscriptionLevels "*"
      (family.levels.map
        (patternLevel fun held => if held = name then some text else none)))

/-- `connectivity_subscription` -/
def connectivitySubscription : String :=
  fixedSubscription .droneEvent "eventType" "connectivity-changed"

/-- `salient_subscription` -/
def salientSubscription : String :=
  fixedSubscription .droneEvent "eventType" "salient"

/-- `drone_command_subscription` -/
def droneCommandSubscription (droneId : String) :
    Except TopicRefusal String := do
  let level ← validatedLevel "droneId" droneId
  pure (fixedSubscription .droneCommand "droneId" level)

/-- `reply_subscription` -/
def replySubscription : String :=
  String.intercalate "/"
    (subscriptionLevels "reply"
      (Family.gatewayResponse.levels.dropLast.map wildcarded ++ [">"]))

/-- `a2a_subscription` -/
def a2aSubscription (namespaceText : String) :
    Except SubscriptionRefusal String := do
  ensure (namespaceText.toList.all fun character =>
    character != '*' && character != '>') .wildcard
  let levels := splitText '/' namespaceText
  ensure (levels.all fun level => level != "") .emptyLevel
  ensure (levels.head? ≠ some "aerial-rescue") .namespaceCollision
  let text := String.intercalate "/" [namespaceText, ">"]
  ensure (text.utf8ByteSize ≤ 250) .length
  pure text

/-! ## What a pattern covers -/

@[simp]
theorem covers_cons {pattern level : String} {patterns levels : List String}
    (bounded : pattern ≠ ">") :
    covers (pattern :: patterns) (level :: levels) = true ↔
      (pattern = "*" ∨ pattern = level) ∧ covers patterns levels = true := by
  simp [covers, bounded]

theorem not_wildcard_of_plain {text : String} (plain : Plain text) :
    text ≠ "*" ∧ text ≠ ">" := by
  refine ⟨?_, ?_⟩ <;> rintro rfl <;> revert plain <;> decide

/-- A literal level covers its own text only. -/
theorem covers_literal {text level : String} {patterns levels : List String}
    (plain : Plain text) :
    covers (text :: patterns) (level :: levels) = true ↔
      text = level ∧ covers patterns levels = true := by
  rw [covers_cons (not_wildcard_of_plain plain).2]
  simp [(not_wildcard_of_plain plain).1]

/-- A wild level covers whatever stands in its place. -/
theorem covers_wild {level : String} {patterns levels : List String} :
    covers ("*" :: patterns) (level :: levels) = true ↔
      covers patterns levels = true := by
  rw [covers_cons (by decide)]
  simp

/-- The chosen parameters are the ones that the levels hold. -/
def Chosen (chosen : String → Option String)
    (parameters : List (String × String)) : Prop :=
  ∀ parameter ∈ parameters,
    ∀ text, chosen parameter.1 = some text → text = parameter.2

theorem chosen_cons {chosen : String → Option String}
    {parameter : String × String} {rest : List (String × String)} :
    Chosen chosen (parameter :: rest) ↔
      (∀ text, chosen parameter.1 = some text → text = parameter.2) ∧
        Chosen chosen rest :=
  List.forall_mem_cons

/--
A pattern built on a template covers the levels that fit the template and hold
the chosen parameters.
-/
theorem covers_pattern {chosen : String → Option String}
    {template : List Level} {levels : List String}
    (literal : ∀ text, .literal text ∈ template → Plain text)
    (plain : ∀ name text, chosen name = some text → Plain text) :
    covers (template.map (patternLevel chosen)) levels = true ↔
      matchesTemplate template levels = true ∧
        Chosen chosen (filled template levels) := by
  induction template generalizing levels with
  | nil =>
      cases levels <;> simp [covers, matchesTemplate, Chosen, filled]
  | cons level rest inductionHypothesis =>
      have inRest : ∀ text, .literal text ∈ rest → Plain text :=
        fun text member => literal text (List.mem_cons_of_mem _ member)
      cases levels with
      | nil => cases level <;> simp [covers, matchesTemplate]
      | cons found levels =>
          have later := @inductionHypothesis levels inRest
          cases level with
          | literal text =>
              simp only [List.map_cons, patternLevel, matchesTemplate,
                filled, Bool.and_eq_true, decide_eq_true_eq]
              rw [covers_literal (literal text (by simp)), and_assoc]
              exact and_congr_right fun _ => later
          | parameter name =>
              simp only [List.map_cons, patternLevel, matchesTemplate, filled]
              rw [chosen_cons]
              cases choice : chosen name with
              | none =>
                  rw [Option.getD_none, covers_wild]
                  simpa using later
              | some text =>
                  rw [Option.getD_some,
                    covers_literal (plain name text choice), later]
                  simp only [Option.some.injEq, forall_eq']
                  exact and_left_comm

/-! ## Patterns against accepted topics -/

/-- A level that may stand in a subscription of this module. -/
def IsPattern (level : String) : Prop :=
  level = "*" ∨ Plain level

theorem IsPattern.separatorFree {level : String} (pattern : IsPattern level) :
    '/' ∉ level.toList := by
  rcases pattern with rfl | plain
  · decide
  · exact plain.separatorFree

theorem patternLevel_isPattern {chosen : String → Option String}
    {level : Level} (literal : ∀ text, level = .literal text → Plain text)
    (plain : ∀ name text, chosen name = some text → Plain text) :
    IsPattern (patternLevel chosen level) := by
  cases level with
  | literal text => exact .inr (literal text rfl)
  | parameter name =>
      simp only [patternLevel]
      cases choice : chosen name with
      | none => exact .inl rfl
      | some text => exact .inr (plain name text choice)

theorem prefixLevels_plain : ∀ level ∈ prefixLevels, Plain level := by
  decide +kernel

/-- The levels of a subscription come back from its text. -/
theorem splitText_subscription {missionLevel : String} {levels : List String}
    (mission : IsPattern missionLevel)
    (separatorFree : ∀ level ∈ levels, '/' ∉ level.toList) :
    splitText '/'
        (String.intercalate "/" (subscriptionLevels missionLevel levels)) =
      subscriptionLevels missionLevel levels := by
  refine splitText_intercalate (by simp [subscriptionLevels]) ?_
  intro level member
  simp only [subscriptionLevels, List.mem_append, List.mem_cons] at member
  rcases member with inPrefix | rfl | later
  · exact (prefixLevels_plain level inPrefix).separatorFree
  · exact mission.separatorFree
  · exact separatorFree level later

/-- Under the shared prefix the mission level decides first. -/
theorem covers_subscriptionLevels {missionLevel mission : String}
    {patterns levels : List String} (pattern : IsPattern missionLevel) :
    covers (subscriptionLevels missionLevel patterns)
        (prefixLevels ++ mission :: levels) = true ↔
      (missionLevel = "*" ∨ missionLevel = mission) ∧
        covers patterns levels = true := by
  have bounded : missionLevel ≠ ">" := by
    rcases pattern with rfl | plain
    · decide
    · exact (not_wildcard_of_plain plain).2
  simp [subscriptionLevels, prefixLevels, bounded]

/-- What a family pattern attracts among the accepted topics. -/
theorem attracts_pattern {missionLevel text : String} {topic : Topic}
    {family : Family} {chosen : String → Option String}
    (parses : parseTopic text = .ok topic) (mission : IsPattern missionLevel)
    (plain : ∀ name value, chosen name = some value → Plain value) :
    attracts
        (String.intercalate "/"
          (subscriptionLevels missionLevel
            (family.levels.map (patternLevel chosen))))
        text = true ↔
      (missionLevel = "*" ∨ missionLevel = topic.missionId) ∧
        topic.family = family ∧ Chosen chosen topic.parameters := by
  rcases parseTopic_ok parses with ⟨levels, split, fits, parameters⟩
  have separatorFree :
      ∀ level ∈ family.levels.map (patternLevel chosen),
        '/' ∉ level.toList := by
    intro level member
    rcases List.mem_map.1 member with ⟨held, inTemplate, rfl⟩
    refine IsPattern.separatorFree (patternLevel_isPattern ?_ plain)
    rintro text rfl
    exact plain_literal inTemplate
  rw [attracts, splitText_subscription mission separatorFree, split,
    covers_subscriptionLevels mission,
    covers_pattern (fun _ => plain_literal) plain, parameters]
  refine and_congr_right fun _ => ?_
  constructor
  · rintro ⟨fitsFamily, held⟩
    cases family_unique fits fitsFamily
    exact ⟨rfl, held⟩
  · rintro ⟨rfl, held⟩
    exact ⟨fits, held⟩

/-- One value stands under a name when no name is repeated. -/
theorem lookup_getD_eq {parameters : List (String × String)}
    {name value : String} (unique : (parameters.map Prod.fst).Nodup)
    (present : name ∈ parameters.map Prod.fst) :
    (∀ parameter ∈ parameters, parameter.1 = name → value = parameter.2) ↔
      (parameters.lookup name).getD "" = value := by
  induction parameters with
  | nil => cases present
  | cons parameter rest inductionHypothesis =>
      rw [List.map_cons, List.nodup_cons] at unique
      rw [List.forall_mem_cons, List.lookup_cons]
      by_cases same : parameter.1 = name
      · have absent :
            ∀ other ∈ rest, other.1 = name → value = other.2 := by
          intro other member named
          have repeated := List.mem_map_of_mem (f := Prod.fst) member
          rw [named, ← same] at repeated
          exact absurd repeated unique.1
        subst same
        simp only [BEq.rfl, Option.getD_some, forall_const]
        exact ⟨fun held => held.1.symm, fun held => ⟨held.symm, absent⟩⟩
      · have inRest : name ∈ rest.map Prod.fst := by
          rw [List.map_cons, List.mem_cons] at present
          exact present.resolve_left (Ne.symm same)
        rw [show (name == parameter.1) = false from
          beq_false_of_ne (Ne.symm same)]
        simpa [same] using inductionHypothesis unique.2 inRest

/-- What a pattern with one literal parameter attracts. -/
theorem attracts_fixedSubscription {text name value : String} {topic : Topic}
    {family : Family} (parses : parseTopic text = .ok topic)
    (plain : Plain value) (present : name ∈ family.parameters) :
    attracts (fixedSubscription family name value) text = true ↔
      topic.family = family ∧ topic.parameter name = value := by
  rw [fixedSubscription, attracts_pattern parses (.inl rfl)]
  · simp only [true_or, true_and]
    refine and_congr_right ?_
    rintro rfl
    rcases parseTopic_ok parses with ⟨levels, _, fits, parameters⟩
    have names : topic.parameters.map Prod.fst = topic.family.parameters := by
      rw [parameters]
      exact filled_names fits
    rw [Topic.parameter,
      ← lookup_getD_eq (names ▸ parameters_nodup topic.family)
        (names ▸ present)]
    simp [Chosen]
  · intro held chosen choice
    split at choice
    · cases choice
      exact plain
    · cases choice

/-! ## The exact reach of each subscription -/

/-- A family subscription attracts its own family and no other. -/
theorem attracts_subscriptionFor {text : String} {topic : Topic}
    {family : Family} (parses : parseTopic text = .ok topic)
    (notification : family ≠ .gatewayResponse) :
    attracts (subscriptionFor family) text = true ↔
      topic.family = family := by
  rw [subscriptionFor, if_neg notification, wildcarded,
    attracts_pattern parses (.inl rfl) (by simp)]
  simp [Chosen]

/-- A drone's command subscription attracts that drone's commands only. -/
theorem attracts_droneCommandSubscription {text droneId pattern : String}
    {topic : Topic} (parses : parseTopic text = .ok topic)
    (built : droneCommandSubscription droneId = .ok pattern) :
    attracts pattern text = true ↔
      topic.family = .droneCommand ∧
        topic.parameter "droneId" = droneId := by
  simp only [droneCommandSubscription, bind_eq_ok, pure_eq_ok] at built
  rcases built with ⟨level, valid, rfl⟩
  rcases validatedLevel_ok valid with ⟨rfl, plain⟩
  exact attracts_fixedSubscription parses plain (by decide)

/-- A reply pattern fits the gateway responses among the family templates. -/
theorem covers_reply {family : Family} {levels : List String}
    (fits : matchesTemplate family.levels levels = true) :
    covers ["gateway", "response", ">"] levels = true ↔
      family = .gatewayResponse := by
  constructor
  · intro covered
    rcases levels with _ | ⟨first, _ | ⟨second, rest⟩⟩
    · cases covered
    · simp [covers] at covered
    · simp only [covers, List.isEmpty_cons, Bool.and_false, Bool.false_or,
        Bool.and_eq_true, Bool.or_eq_true, decide_eq_true_eq,
        String.reduceEq, false_or] at covered
      rcases covered with ⟨rfl, rfl, _⟩
      cases family <;> simp [Family.levels, matchesTemplate] at fits ⊢
  · rintro rfl
    rcases levels with _ | ⟨first, _ | ⟨second, _ | ⟨third, rest⟩⟩⟩ <;>
      simp_all [Family.levels, matchesTemplate, covers]

/-- The reply subscription attracts the replies on the reserved mission. -/
theorem attracts_replySubscription {text : String} {topic : Topic}
    (parses : parseTopic text = .ok topic) :
    attracts replySubscription text = true ↔
      topic.family = .gatewayResponse ∧ topic.missionId = "reply" := by
  rcases parseTopic_ok parses with ⟨levels, split, fits, _⟩
  have reserved : IsPattern "reply" := .inr (by decide)
  have separatorFree :
      ∀ level ∈ ["gateway", "response", ">"], '/' ∉ level.toList := by
    decide +kernel
  have pattern :
      replySubscription =
        String.intercalate "/"
          (subscriptionLevels "reply" ["gateway", "response", ">"]) :=
    rfl
  rw [attracts, pattern, splitText_subscription reserved separatorFree,
    split, covers_subscriptionLevels reserved, covers_reply fits]
  simp [and_comm, eq_comm]

/-- A text begins with its first level. -/
theorem first_of_splitText {text first : String} {rest : List String}
    (split : splitText '/' text = first :: rest) :
    ∃ tail, text.toList = first.toList ++ tail := by
  rw [splitText, List.map_eq_cons_iff] at split
  rcases split with ⟨word, words, split, rfl, _⟩
  have whole : ['/'].intercalate (text.toList.splitOn '/') = text.toList :=
    List.intercalate_splitOn '/'
  rw [split] at whole
  rw [String.toList_ofList, ← whole]
  by_cases last : words = []
  · exact ⟨[], by rw [last, List.intercalate_singleton, List.append_nil]⟩
  · exact ⟨_, by
      rw [List.intercalate_cons_of_ne_nil last, List.append_assoc]⟩

/-- The mesh namespace attracts no application topic. -/
theorem attracts_a2aSubscription {text namespaceText pattern : String}
    {topic : Topic} (parses : parseTopic text = .ok topic)
    (built : a2aSubscription namespaceText = .ok pattern) :
    attracts pattern text = false := by
  simp only [a2aSubscription, bind_eq_ok, ensure_eq_ok, exists_const,
    pure_eq_ok] at built
  rcases built with ⟨wildcardFree, nonempty, foreign, _, rfl⟩
  rcases parseTopic_ok parses with ⟨levels, split, _, _⟩
  have levelsOf :
      splitText '/' (String.intercalate "/" [namespaceText, ">"]) =
        splitText '/' namespaceText ++ [">"] := by
    have joined :
        (String.intercalate "/" [namespaceText, ">"]).toList =
          namespaceText.toList ++ '/' :: ">".toList := by
      rw [String.toList_intercalate]
      have separator : "/".toList = ['/'] := by decide
      simp [separator, List.intercalate]
    have single : ">".toList.splitOn '/' = [">".toList] :=
      List.splitOn_eq_singleton (by decide)
    rw [splitText, joined, List.splitOn_append_cons_self, single]
    simp [splitText]
  rw [attracts, levelsOf, split]
  cases named : splitText '/' namespaceText with
  | nil =>
      rw [splitText, List.map_eq_nil_iff] at named
      exact absurd named (List.splitOn_ne_nil _ _)
  | cons first rest =>
      rw [named] at foreign
      have literal : first ≠ "*" ∧ first ≠ ">" := by
        rcases first_of_splitText named with ⟨tail, characters⟩
        rw [characters, List.all_append, Bool.and_eq_true] at wildcardFree
        refine ⟨?_, ?_⟩ <;> rintro rfl <;>
          exact absurd wildcardFree.1 (by decide)
      simp [prefixLevels, covers, literal.1, literal.2] at foreign ⊢
      intro same
      exact absurd same foreign

end AerialRescue.Broker.Subscriptions
