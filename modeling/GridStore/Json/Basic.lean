import GridStore.Number.Display
import GridStore.Fields

/-!
JSON values and their compact text. Members of an object are kept in the order of their names.
-/

set_option autoImplicit false

namespace GridStore

/-- Integers that fit 64 bits stay integers; every other number is a floating-point number. -/
inductive Numeral where
  | natural (value : Nat)
  | negative (magnitude : Nat)
  | float (value : Number)
deriving DecidableEq

def Numeral.toNumber : Numeral → Number
  | .natural value => .ofNat value
  | .negative magnitude => .ofInt (-(magnitude : Int))
  | .float value => value

def Numeral.text : Numeral → String
  | .natural value => toString value
  | .negative magnitude => "-" ++ toString magnitude
  | .float value => value.jsonText

inductive Json where
  | null
  | boolean (value : Bool)
  | number (value : Numeral)
  | string (value : String)
  | array (items : List Json)
  | object (members : List (String × Json))

namespace Json

def escaped (character : Char) : List Char :=
  if character == '"' || character == '\\' then ['\\', character]
  else if character == '\n' then ['\\', 'n']
  else if character == '\r' then ['\\', 'r']
  else if character == '\t' then ['\\', 't']
  else if character.toNat = 0x8 then ['\\', 'b']
  else if character.toNat = 0xC then ['\\', 'f']
  else if character.toNat < 0x20 then
    let digits := Nat.toDigits 16 character.toNat
    ['\\', 'u', '0', '0'] ++ List.replicate (2 - digits.length) '0' ++ digits
  else [character]

def stringText (text : String) : String :=
  String.ofList ('"' :: text.toList.flatMap escaped ++ ['"'])

mutual

def compact : Json → String
  | .null => "null"
  | .boolean value => if value then "true" else "false"
  | .number value => value.text
  | .string value => stringText value
  | .array items => "[" ++ ",".intercalate (compactItems items) ++ "]"
  | .object members => "\x7b" ++ ",".intercalate (compactMembers members) ++ "\x7d"

def compactItems : List Json → List String
  | [] => []
  | item :: rest => compact item :: compactItems rest

def compactMembers : List (String × Json) → List String
  | [] => []
  | (name, value) :: rest => (stringText name ++ ":" ++ compact value) :: compactMembers rest

end

def isNull : Json → Bool
  | .null => true
  | _ => false

end Json

end GridStore
