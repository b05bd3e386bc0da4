import AerialRescue.Contracts.SharedJson

/-!
# `JSON.parse`

The reader of JSON texts that the browser brings with it.  A text is read into
a JSON value that repeats a member as often as the text does, and the script's
value is made from it: a numeral is a number, and of the members of one name
the last one counts.

A raw text is a list of characters.  What the readers compare with it is ASCII
throughout, so a character outside the first plane, which the browser holds as
two code units, is passed over like any other.  The text of a string literal
is a sequence of code units, since an escape can name half a character.
-/

namespace AerialRescue.Dashboard.JsonParse

open AerialRescue.Lib.Binary64
open AerialRescue.Lib.Guard
open AerialRescue.Contracts.Canonical
open AerialRescue.Contracts.JsonText
open AerialRescue.Contracts.SharedJson

/-! ## Script values -/

/-- A value of the script that a JSON text can stand for. -/
inductive ScriptValue where
  | null
  | bool (value : Bool)
  | number (value : Double)
  | string (units : Units)
  | array (items : List ScriptValue)
  | object (members : List (Units × ScriptValue))

/-- The own properties of an object, in the order of their creation. -/
abbrev Properties := List (Units × ScriptValue)

/-- `CreateDataProperty`: a property that exists keeps its place. -/
def setProperty (name : Units) (value : ScriptValue) :
    Properties → Properties
  | [] => [(name, value)]
  | (held, other) :: rest =>
      if held = name then (held, value) :: rest
      else (held, other) :: setProperty name value rest

/-- An object of the given members, the last of each name in force. -/
def fromEntries (members : Properties) : Properties :=
  members.foldl
    (fun properties member => setProperty member.1 member.2 properties) []

mutual

/-- The script's value of a JSON value. -/
def evaluate : Json → ScriptValue
  | .null => .null
  | .bool value => .bool value
  | .integer negative magnitude => .number (ofInteger negative magnitude)
  | .real value => .number value
  | .text units => .string units
  | .array items => .array (evaluateItems items)
  | .object members => .object (fromEntries (evaluateMembers members))

def evaluateItems : List Json → List ScriptValue
  | [] => []
  | item :: rest => evaluate item :: evaluateItems rest

def evaluateMembers : Json.Members → Properties
  | [] => []
  | (name, value) :: rest => (name, evaluate value) :: evaluateMembers rest

end

/-! ## Reading -/

/-- The code units of one unit of a literal. -/
def pointUnits : CodeUnit → Units
  | .scalar character => unitsOf character
  | .surrogate code => [UInt16.ofNat code]

/-- The code units that a string literal stands for. -/
def literalUnits (points : List CodeUnit) : Units :=
  points.flatMap pointUnits

/-- A numeral after its sign.  `number` is the number of a numeral with a
fraction or an exponent. -/
def parseNumeral (number : String → Double) (negative : Bool)
    (characters : List Char) : Option (Json × List Char) :=
  let (digits, afterInteger) := integerDigits characters
  let (decimals, afterFraction) := fraction afterInteger
  let (power, rest) := exponent afterFraction
  if digits = [] then none
  else if decimals = [] ∧ power = [] then
    some (.integer negative (Nat.ofDigitChars 10 digits 0), rest)
  else
    let sign := if negative then ['-'] else []
    some
      (.real (number (String.ofList (sign ++ digits ++ decimals ++ power))),
        rest)

/-- A literal or a number. -/
def parsePlain (number : String → Double) :
    List Char → Option (Json × List Char)
  | 'n' :: 'u' :: 'l' :: 'l' :: rest => some (.null, rest)
  | 't' :: 'r' :: 'u' :: 'e' :: rest => some (.bool true, rest)
  | 'f' :: 'a' :: 'l' :: 's' :: 'e' :: rest => some (.bool false, rest)
  | '-' :: rest => parseNumeral number true rest
  | characters => parseNumeral number false characters

mutual

/-- A value that begins with the first character. -/
def parseValue (number : String → Double) :
    Nat → List Char → Option (Json × List Char)
  | 0, _ => none
  | _ + 1, [] => none
  | fuel + 1, first :: rest =>
      if first = '"' then do
        let (points, later) ← readUnits rest
        some (.text (literalUnits points), later)
      else if first = '[' then
        match skipSpace rest with
        | ']' :: later => some (.array [], later)
        | others => do
            let (items, later) ← parseItems number fuel others
            some (.array items, later)
      else if first = '{' then
        match skipSpace rest with
        | '}' :: later => some (.object [], later)
        | others => do
            let (members, later) ← parseMembers number fuel others
            some (.object members, later)
      else
        parsePlain number (first :: rest)

/-- The items of an array after its opening bracket. -/
def parseItems (number : String → Double) :
    Nat → List Char → Option (List Json × List Char)
  | 0, _ => none
  | fuel + 1, characters => do
      let (item, after) ← parseValue number fuel characters
      match skipSpace after with
      | ']' :: later => some ([item], later)
      | ',' :: later => do
          let (others, final) ← parseItems number fuel (skipSpace later)
          some (item :: others, final)
      | _ => none

/-- The members of an object after its opening brace. -/
def parseMembers (number : String → Double) :
    Nat → List Char → Option (Json.Members × List Char)
  | 0, _ => none
  | _ + 1, [] => none
  | fuel + 1, first :: rest =>
      if first = '"' then do
        let (points, after) ← readUnits rest
        match skipSpace after with
        | ':' :: later => do
            let (item, follows) ← parseValue number fuel (skipSpace later)
            match skipSpace follows with
            | '}' :: later => some ([(literalUnits points, item)], later)
            | ',' :: later => do
                let (others, final) ←
                  parseMembers number fuel (skipSpace later)
                some ((literalUnits points, item) :: others, final)
            | _ => none
        | _ => none
      else none

end

/-- The JSON value of a text, if it is a JSON text. -/
def jsonParse (number : String → Double) (text : List Char) : Option Json := do
  let (value, rest) ← parseValue number (text.length + 1) (skipSpace text)
  if skipSpace rest = [] then some value else none

end AerialRescue.Dashboard.JsonParse
