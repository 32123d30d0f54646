import PsCore.TypesCore

/-!
Decoded JSON, and what the handlers do with it: keyed access, truth values, `str`.
Numbers are integers, as every number that the gateway sends is.
-/

namespace PsCore

inductive Json
  | null
  | boolean (value : Bool)
  | number (value : Int)
  | text (value : String)
  | array (items : List Json)
  | object (entries : List (String × Json))
  deriving Repr

namespace Json

def getOr (json : Json) (key : String) (fallback : Json) : Except ServiceError Json :=
  match json with
  | .object entries => .ok ((entries.lookup key).getD fallback)
  | _ => .error .attributeError

def get (json : Json) (key : String) : Except ServiceError Json :=
  json.getOr key .null

def truthy : Json → Bool
  | .null => false
  | .boolean value => value
  | .number value => value ≠ 0
  | .text value => value ≠ ""
  | .array items => items ≠ []
  | .object entries => entries ≠ []

def escapedCharacter (quote character : Char) : List Char :=
  if character = '\\' then ['\\', '\\']
  else if character = quote then ['\\', quote]
  else if character = '\n' then ['\\', 'n']
  else if character = '\r' then ['\\', 'r']
  else if character = '\t' then ['\\', 't']
  else if character.toNat < 0x20 ∨ character.toNat = 0x7F then
    ['\\', 'x', Nat.digitChar (character.toNat / 16), Nat.digitChar (character.toNat % 16)]
  else [character]

/-- `repr` of a string: single quotes, unless it has some and no double ones. -/
def quoted (value : String) : String :=
  let characters := value.toList
  let quote := if '\'' ∈ characters ∧ '"' ∉ characters then '"' else '\''
  String.ofList (quote :: characters.flatMap (escapedCharacter quote) ++ [quote])

mutual

def repr : Json → String
  | .null => "None"
  | .boolean value => if value then "True" else "False"
  | .number value => toString value
  | .text value => quoted value
  | .array items => "[" ++ ", ".intercalate (reprItems items) ++ "]"
  | .object entries => "\x7b" ++ ", ".intercalate (reprEntries entries) ++ "\x7d"

def reprItems : List Json → List String
  | [] => []
  | item :: rest => item.repr :: reprItems rest

def reprEntries : List (String × Json) → List String
  | [] => []
  | (key, value) :: rest => (quoted key ++ ": " ++ value.repr) :: reprEntries rest

end

def str : Json → String
  | .text value => value
  | value => value.repr

/-- `value == number`; true and false are one and zero. -/
def equalsNumber (json : Json) (number : Int) : Bool :=
  match json with
  | .number value => value == number
  | .boolean value => (if value then 1 else 0) == number
  | _ => false

/-- `Decimal(value)` in whole units. A text is read where it is an integer. -/
def decimal : Json → Except ServiceError Int
  | .number value => .ok value
  | .boolean value => .ok (if value then 1 else 0)
  | .text value => match value.toInt? with
      | some parsed => .ok parsed
      | none => .error .valueError
  | .array _ => .error .valueError
  | .null | .object _ => .error .typeError

example : (object [("a", .array [.null, .text "it's", .number (-3)])]).str =
    "\x7b'a': [None, \"it's\", -3]\x7d" := by decide

end Json

end PsCore
