import Mathlib.Tactic.Common

/-!
# Decoded JSON values

The Python values that a JSON text decodes to, with the equality Python gives
them.  A mapping keeps its members in the order of the text.  Python compares a
Boolean with an integer by value, so `true` equals `1`; the comparisons of the
services are between such values and are modelled by `Value.pyEq`.

A `str` here is a sequence of Unicode scalar values.  The decoder reports a
text with an unpaired surrogate as a failure of its own.
-/

namespace AerialRescue.Contracts

/-- The octets of a message body or of a binary column. -/
abbrev Bytes := List UInt8

/-- A decoded JSON value. -/
inductive Value where
  | null
  | bool (value : Bool)
  | int (value : Int)
  | float (repr : String)
  | text (value : String)
  | array (items : List Value)
  | object (members : List (String × Value))
deriving Inhabited

namespace Value

/-- The members of a mapping. -/
abbrev Members := List (String × Value)

/-- `members[name]`, when the member is there. -/
def member? (name : String) : Members → Option Value
  | [] => none
  | (key, value) :: rest =>
      if key = name then some value else member? name rest

/-- `members.get(name)`, whose default `None` is the JSON null. -/
def get (name : String) (members : Members) : Value :=
  (member? name members).getD .null

/-- `name in members`. -/
def has (name : String) (members : Members) : Bool :=
  (member? name members).isSome

/-- The keys of a mapping, in its own order. -/
def keys (members : Members) : List String :=
  members.map Prod.fst

/-- `set(members) == names`. -/
def keysAre (members : Members) (names : List String) : Bool :=
  (keys members).all names.contains && names.all (keys members).contains

/-- The integer Python gives a Boolean. -/
def ofBool (value : Bool) : Int :=
  if value then 1 else 0

mutual

/-- Python's `==` on values without floating-point members. -/
def pyEq : Value → Value → Bool
  | .null, .null => true
  | .bool left, .bool right => left == right
  | .bool left, .int right => ofBool left == right
  | .int left, .bool right => left == ofBool right
  | .int left, .int right => left == right
  | .text left, .text right => left == right
  | .array left, .array right => itemsEq left right
  | .object left, .object right =>
      left.length == right.length && membersEq left right
  | _, _ => false

/-- Equality of sequences, item by item. -/
def itemsEq : List Value → List Value → Bool
  | [], [] => true
  | left :: lefts, right :: rights =>
      pyEq left right && itemsEq lefts rights
  | _, _ => false

/-- Every member of the left mapping has an equal member on the right. -/
def membersEq : Members → Members → Bool
  | [], _ => true
  | (key, value) :: rest, right =>
      (match member? key right with
        | some other => pyEq value other
        | none => false) &&
        membersEq rest right

end

/-- An optional text as the service compares it: absence is `None`. -/
def ofText? : Option String → Value
  | some value => .text value
  | none => .null

/-- An optional integer as the service compares it: absence is `None`. -/
def ofInt? : Option Int → Value
  | some value => .int value
  | none => .null

/-! ## Looking a member up -/

theorem mem_of_member? {members : Members} {name : String} {value : Value}
    (found : member? name members = some value) :
    (name, value) ∈ members := by
  induction members with
  | nil => simp [member?] at found
  | cons first rest inductionHypothesis =>
      simp only [member?] at found
      split at found
      · rename_i same
        cases found
        rw [← same]
        exact List.mem_cons_self
      · exact List.mem_cons_of_mem _ (inductionHypothesis found)

/-- A member of a mapping is found under its key. -/
theorem member?_of_mem {members : Members} {name : String} {value : Value}
    (distinct : (keys members).Nodup) (among : (name, value) ∈ members) :
    member? name members = some value := by
  induction members with
  | nil => cases among
  | cons first rest inductionHypothesis =>
      rw [keys, List.map_cons, List.nodup_cons] at distinct
      rcases List.mem_cons.1 among with rfl | later
      · simp [member?]
      · have other : first.1 ≠ name := by
          rintro rfl
          exact distinct.1 (List.mem_map.2 ⟨_, later, rfl⟩)
        simp only [member?, if_neg other]
        exact inductionHypothesis distinct.2 later

/-! ## Comparison with a text or an integer -/

@[simp]
theorem pyEq_text {value : Value} {text : String} :
    pyEq value (.text text) = true ↔ value = .text text := by
  cases value <;> simp [pyEq]

theorem pyEq_one {value : Value} :
    pyEq value (.int 1) = true ↔ value = .int 1 ∨ value = .bool true := by
  cases value with
  | bool flag => cases flag <;> simp [pyEq, ofBool]
  | _ => simp [pyEq]

@[simp]
theorem text_pyEq {value : Value} {text : String} :
    pyEq (.text text) value = true ↔ value = .text text := by
  cases value with
  | text other =>
      simp only [pyEq, beq_iff_eq, Value.text.injEq]
      exact eq_comm
  | _ => simp [pyEq]

end Value

end AerialRescue.Contracts
