import GridStore.Json.Basic
import GridStore.Number.Read

/-!
JSON documents as written: the syntax tree of a text, before any decision about what its numbers,
strings and nesting mean. Repeated names and the order of members are kept, because some readers
care about them, and a part that nobody looks at may hold what a value could not.
-/

set_option autoImplicit false

namespace GridStore

structure NumberLiteral where
  negative : Bool
  whole : List Char
  fraction : List Char
  exponent : Option (Bool × List Char)
deriving DecidableEq

/-- A string is `none` when a surrogate in it has no partner. -/
inductive Document where
  | null
  | boolean (value : Bool)
  | number (literal : NumberLiteral)
  | string (content : Option String)
  | array (items : List Document)
  | object (members : List (Option String × Document))

namespace Document

def isSpace (character : Char) : Bool :=
  character == ' ' || character == '\n' || character == '\t' || character == '\r'

def skipSpace (text : List Char) : List Char := text.dropWhile isSpace

/-- A part of a string: a character, or a 16-bit unit written as an escape. -/
inductive StringPart where
  | character (value : Char)
  | escapedUnit (value : Nat)

def hexValue? (digit : Char) : Option Nat :=
  if digit.isDigit then some (digit.toNat - '0'.toNat)
  else if 'a' ≤ digit ∧ digit ≤ 'f' then some (digit.toNat - 'a'.toNat + 10)
  else if 'A' ≤ digit ∧ digit ≤ 'F' then some (digit.toNat - 'A'.toNat + 10)
  else none

def hexUnit? (a b c d : Char) : Option Nat := do
  some ((((← hexValue? a) * 16 + (← hexValue? b)) * 16 + (← hexValue? c)) * 16 + (← hexValue? d))

def simpleEscape? (character : Char) : Option Char :=
  if character == '"' || character == '\\' || character == '/' then some character
  else if character == 'b' then some '\x08'
  else if character == 'f' then some '\x0c'
  else if character == 'n' then some '\n'
  else if character == 'r' then some '\r'
  else if character == 't' then some '\t'
  else none

def readString (parts : List StringPart) : List Char → Option (List StringPart × List Char)
  | [] => none
  | '"' :: rest => some (parts.reverse, rest)
  | '\\' :: 'u' :: a :: b :: c :: d :: rest => do
      readString (.escapedUnit (← hexUnit? a b c d) :: parts) rest
  | '\\' :: character :: rest => do
      readString (.character (← simpleEscape? character) :: parts) rest
  | character :: rest =>
      if character.toNat < 0x20 then none else readString (.character character :: parts) rest

def isHighSurrogate (unit : Nat) : Bool := 0xD800 ≤ unit && unit < 0xDC00

def isLowSurrogate (unit : Nat) : Bool := 0xDC00 ≤ unit && unit < 0xE000

def joinUnits? : List StringPart → Option (List Char)
  | [] => some []
  | .character value :: rest => (joinUnits? rest).map (value :: ·)
  | .escapedUnit high :: .escapedUnit low :: rest =>
      if isHighSurrogate high then
        if isLowSurrogate low then
          (joinUnits? rest).map
            (Char.ofNat (0x10000 + (high - 0xD800) * 0x400 + (low - 0xDC00)) :: ·)
        else none
      else if isLowSurrogate high then none
      else (joinUnits? (.escapedUnit low :: rest)).map (Char.ofNat high :: ·)
  | .escapedUnit unit :: rest =>
      if isHighSurrogate unit || isLowSurrogate unit then none
      else (joinUnits? rest).map (Char.ofNat unit :: ·)

def readText (text : List Char) : Option (Option String × List Char) := do
  let (parts, rest) ← readString [] text
  some ((joinUnits? parts).map String.ofList, rest)

def readFraction : List Char → Option (List Char × List Char)
  | '.' :: rest =>
      let (digits, rest) := rest.span Char.isDigit
      if digits.isEmpty then none else some (digits, rest)
  | text => some ([], text)

def readExponent : List Char → Option (Option (Bool × List Char) × List Char)
  | [] => some (none, [])
  | mark :: rest =>
      if mark == 'e' || mark == 'E' then
        let (negative, rest) := Number.readSign rest
        let (digits, rest) := rest.span Char.isDigit
        if digits.isEmpty then none else some (some (negative, digits), rest)
      else some (none, mark :: rest)

/-- A number whose sign has been read. A leading zero stands alone. -/
def readNumber (negative : Bool) (text : List Char) : Option (NumberLiteral × List Char) := do
  let (whole, rest) := text.span Char.isDigit
  if whole.isEmpty || (whole.head? == some '0' && whole.length != 1) then none
  else
    let (fraction, rest) ← readFraction rest
    let (exponent, rest) ← readExponent rest
    some (⟨negative, whole, fraction, exponent⟩, rest)

def readWord (word : List Char) (value : Document) (text : List Char) :
    Option (Document × List Char) :=
  if word.isPrefixOf text then some (value, text.drop word.length) else none

mutual

/-- Reads a value at the front of a text without leading spaces. Every step consumes a character,
so the length of the text is fuel enough. -/
def readValue : Nat → List Char → Option (Document × List Char)
  | 0, _ => none
  | fuel + 1, text =>
      match text with
      | [] => none
      | '"' :: rest => do
          let (content, rest) ← readText rest
          some (.string content, rest)
      | '-' :: rest => do
          let (literal, rest) ← readNumber true rest
          some (.number literal, rest)
      | '[' :: rest =>
          match skipSpace rest with
          | ']' :: rest => some (.array [], rest)
          | rest => do
              let (items, rest) ← readItems fuel [] rest
              some (.array items, rest)
      | '\x7b' :: rest =>
          match skipSpace rest with
          | '\x7d' :: rest => some (.object [], rest)
          | rest => do
              let (members, rest) ← readMembers fuel [] rest
              some (.object members, rest)
      | 'n' :: _ => readWord ['n', 'u', 'l', 'l'] .null text
      | 't' :: _ => readWord ['t', 'r', 'u', 'e'] (.boolean true) text
      | 'f' :: _ => readWord ['f', 'a', 'l', 's', 'e'] (.boolean false) text
      | _ => do
          let (literal, rest) ← readNumber false text
          some (.number literal, rest)

def readItems : Nat → List Document → List Char → Option (List Document × List Char)
  | 0, _, _ => none
  | fuel + 1, items, text => do
      let (item, rest) ← readValue fuel text
      match skipSpace rest with
      | ',' :: rest => readItems fuel (item :: items) (skipSpace rest)
      | ']' :: rest => some ((item :: items).reverse, rest)
      | _ => none

def readMembers : Nat → List (Option String × Document) → List Char →
    Option (List (Option String × Document) × List Char)
  | 0, _, _ => none
  | fuel + 1, members, text =>
      match text with
      | '"' :: rest => do
          let (name, rest) ← readText rest
          match skipSpace rest with
          | ':' :: rest =>
              let (value, rest) ← readValue fuel (skipSpace rest)
              let members := (name, value) :: members
              match skipSpace rest with
              | ',' :: rest => readMembers fuel members (skipSpace rest)
              | '\x7d' :: rest => some (members.reverse, rest)
              | _ => none
          | _ => none
      | _ => none

end

def ofText? (text : String) : Option Document := do
  let characters := skipSpace text.toList
  let (document, rest) ← readValue (characters.length + 1) characters
  if (skipSpace rest).isEmpty then some document else none

end Document

end GridStore
