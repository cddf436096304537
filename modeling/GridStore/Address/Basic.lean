import GridStore.Grid.Metric
import GridStore.Number.Display
import GridStore.Number.Read
import GridStore.Text.Quoted
import GridStore.Text.WholeWord

/-!
Addresses of blocks: up to four tokens for row, column, height and width.

A token is a number, a text with an expression over the metrics of the grid, or a function that
finds the whole block by itself. A text in the first place may also hold all four tokens,
separated by commas, or an A1 address.
-/

set_option autoImplicit false

namespace GridStore

inductive AddressToken where
  | missing
  | number (value : Number)
  | text (content : String)
  | resolver (find : Grid → Except String Span)

namespace AddressToken

/-- Zero, `nan` and empty text count as missing. -/
def isPresent : AddressToken → Bool
  | .missing => false
  | .number value => !value.isZero && !value.isNaN
  | .text content => !content.isEmpty
  | .resolver _ => true

/-- Whether a text mentions a metric, even inside a longer word. -/
def isSymbolic : AddressToken → Bool
  | .text content => Metric.all.any fun metric => Text.occursIn metric.symbol content.toList
  | _ => false

def kind (token : AddressToken) : String :=
  if token.isSymbolic then "token"
  else match token with
    | .missing => "undefined"
    | .number _ => "number"
    | .text _ => "string"
    | .resolver _ => "function"

def display : AddressToken → String
  | .missing => ""
  | .number value => value.display
  | .text content => content
  | .resolver _ => "<function>"

def record : AddressToken → String
  | .missing => "Missing"
  | .number value => "Number(" ++ value.display ++ ")"
  | .text content => "Text(" ++ Text.quoted content ++ ")"
  | .resolver _ => "Resolver"

end AddressToken

structure Address where
  row : AddressToken := .missing
  column : AddressToken := .missing
  rows : AddressToken := .missing
  columns : AddressToken := .missing

namespace Address

def tokens (address : Address) : List AddressToken :=
  [address.row, address.column, address.rows, address.columns]

def ofText (content : String) : Address := { row := .text content }

def ofResolver (find : Grid → Except String Span) : Address := { row := .resolver find }

def ofNumbers (row column rows columns : Nat) : Address where
  row := .number (.ofNat row)
  column := .number (.ofNat column)
  rows := .number (.ofNat rows)
  columns := .number (.ofNat columns)

def ofSpan (span : Span) : Address := ofNumbers span.row span.column span.rows span.columns

def ofTokens : List AddressToken → Address
  | [] => {}
  | [row] => { row }
  | [row, column] => { row, column }
  | [row, column, rows] => { row, column, rows }
  | row :: column :: rows :: columns :: _ => { row, column, rows, columns }

def signature (address : Address) : String :=
  ",".intercalate (address.tokens.map AddressToken.kind)

def display (address : Address) : String :=
  ",".intercalate (address.tokens.map AddressToken.display)

def record (address : Address) : String :=
  "RangeAddress \x7b row: " ++ address.row.record ++ ", column: " ++ address.column.record ++
    ", rows: " ++ address.rows.record ++ ", columns: " ++ address.columns.record ++ " \x7d"

def parts (separator : Char) : List Char → List (List Char)
  | [] => [[]]
  | character :: rest =>
      if character = separator then [] :: parts separator rest
      else match parts separator rest with
        | [] => [[character]]
        | part :: others => (character :: part) :: others

def isDecimalCharacter (character : Char) : Bool :=
  character.isDigit || character == '.' || character == '-' || character == '+' ||
    character == 'e' || character == 'E'

/-- Reads a decimal with blanks around it; blanks alone are zero. -/
def lenientNumber? (text : List Char) : Option Number :=
  let trimmed := Text.trim text
  if trimmed.isEmpty then some (.zero false)
  else if trimmed.all isDecimalCharacter then Number.ofChars? trimmed
  else none

/-- A part of a joined address. Zero stays text, so that it is present and can be refused. -/
def tokenOfPart (part : List Char) : AddressToken :=
  match lenientNumber? part with
  | some value => if value.isZero then .text (String.ofList part) else .number value
  | none => .text (String.ofList part)

/-- The address that a text joins with commas; parts after the fourth are ignored. -/
def split (text : List Char) : Address := ofTokens ((parts ',' text).map tokenOfPart)

end Address

end GridStore
