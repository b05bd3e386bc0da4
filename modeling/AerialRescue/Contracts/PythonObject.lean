import AerialRescue.Contracts.TopicGrammar
import Mathlib.Data.List.Lex

/-!
# Python objects at the trust boundary

What a parser of documents may be handed: any Python object.  A mapping may
have keys that are no strings, and a string may hold surrogates; a decoded
JSON value has neither.  The closed parsers name the least unknown key by its
`str`, which is a key of the mapping only when it is a string.
-/

namespace AerialRescue.Contracts

open AerialRescue.Contracts.JsonText
open AerialRescue.Contracts.SharedJson
open AerialRescue.Contracts.Topics

/-- A key of a mapping: a string, or another object with its `str`. -/
inductive PyKey where
  | text (text : PythonText)
  | other (identity : Nat) (spelling : PythonText)
deriving DecidableEq

/-- `str(key)` -/
def PyKey.spelling : PyKey → PythonText
  | .text value => value
  | .other _ spelling => spelling

/-- A Python object, up to what the parsers look at. -/
inductive PyObject where
  | none
  | bool (value : Bool)
  | int (value : Int)
  | text (value : PythonText)
  | sequence (items : List PyObject)
  | mapping (members : List (PyKey × PyObject))
  | other (identity : Nat)
deriving Inhabited

/-- The items of a mapping. -/
abbrev PyMembers := List (PyKey × PyObject)

namespace PyObject

/-- `mapping.get(key)`, when the key is there. -/
def find? (key : PyKey) : PyMembers → Option PyObject
  | [] => Option.none
  | (held, value) :: rest => if held = key then some value else find? key rest

/-- `mapping[name]`, when the name is there. -/
def member? (name : String) (members : PyMembers) : Option PyObject :=
  find? (.text (pythonText name)) members

/-- `name in mapping` -/
def has (name : String) (members : PyMembers) : Bool :=
  (member? name members).isSome

/-- The keys outside a closed set of names, in the mapping's order. -/
def unknownKeys (allowed : List String) (members : PyMembers) : List PyKey :=
  (members.map Prod.fst).filter fun key =>
    !(allowed.map fun name => PyKey.text (pythonText name)).contains key

/-- The number of a code point. -/
def codePoint : CodeUnit → Nat
  | .scalar character => character.toNat
  | .surrogate code => code

/-- Python compares strings by their code points. -/
def NotAfter (left right : PythonText) : Prop :=
  left.map codePoint ≤ right.map codePoint

instance : DecidableRel NotAfter := fun left right =>
  inferInstanceAs (Decidable (left.map codePoint ≤ right.map codePoint))

/-- `sorted(str(key) for key in document if key not in allowed)[0]` -/
def leastUnknown (allowed : List String) (members : PyMembers) :
    Option PythonText :=
  (((unknownKeys allowed members).map PyKey.spelling).insertionSort
    NotAfter).head?

/-- The least spelling of an unknown key, if there is one, is a key. -/
def NamesUnknown (allowed : List String) (members : PyMembers) : Prop :=
  ∀ name, leastUnknown allowed members = some name →
    (find? (.text name) members).isSome = true

/-- The text pattern of a rule, which no string with surrogates matches. -/
def matchesRule (pattern : String → Bool) (text : PythonText) : Bool :=
  !text.any isSurrogate && pattern (scalars text)

/-! ## Decoded JSON values -/

mutual

/-- The Python object that a decoded JSON value is. -/
def ofValue : Value → PyObject
  | .null => .none
  | .bool value => .bool value
  | .int value => .int value
  | .float _ => .other 0
  | .text value => .text (pythonText value)
  | .array items => .sequence (ofItems items)
  | .object members => .mapping (ofMembers members)

/-- The objects of a decoded array. -/
def ofItems : List Value → List PyObject
  | [] => []
  | value :: rest => ofValue value :: ofItems rest

/-- The items of a decoded object. -/
def ofMembers : Value.Members → PyMembers
  | [] => []
  | (name, value) :: rest =>
      (.text (pythonText name), ofValue value) :: ofMembers rest

end

@[simp]
theorem matchesRule_pythonText (pattern : String → Bool) (text : String) :
    matchesRule pattern (pythonText text) = pattern text := by
  rw [matchesRule, pythonText_surrogateFree, scalars_pythonText]
  rfl

theorem member?_ofMembers (name : String) (members : Value.Members) :
    member? name (ofMembers members) =
      (Value.member? name members).map ofValue := by
  induction members with
  | nil => rfl
  | cons first rest inductionHypothesis =>
      rcases first with ⟨key, value⟩
      by_cases same : key = name
      · subst same
        simp [member?, find?, ofMembers, Value.member?]
      · have different : pythonText key ≠ pythonText name :=
          fun equal => same (pythonText_injective equal)
        have later := inductionHypothesis
        rw [member?] at later
        simp [member?, find?, ofMembers, Value.member?, same, different,
          later]

@[simp]
theorem has_ofMembers (name : String) (members : Value.Members) :
    has name (ofMembers members) = Value.has name members := by
  rw [has, member?_ofMembers, Value.has, Option.isSome_map]

theorem ofMembers_keys (members : Value.Members) :
    (ofMembers members).map Prod.fst =
      (Value.keys members).map fun name => PyKey.text (pythonText name) := by
  induction members with
  | nil => rfl
  | cons first rest inductionHypothesis =>
      simp [ofMembers, Value.keys, inductionHypothesis]

theorem pythonText_eq {left right : String} :
    pythonText left = pythonText right ↔ left = right :=
  ⟨pythonText_injective, congrArg pythonText⟩

/-- The unknown keys of a decoded object are its unknown names. -/
theorem unknownKeys_ofMembers (allowed : List String)
    (members : Value.Members) :
    unknownKeys allowed (ofMembers members) =
      ((Value.keys members).filter fun name => !allowed.contains name).map
        fun name => PyKey.text (pythonText name) := by
  rw [unknownKeys, ofMembers_keys, List.filter_map]
  congr 1
  apply List.filter_congr
  intro name _
  simp [List.contains_eq_mem, pythonText_eq]

end PyObject

end AerialRescue.Contracts
