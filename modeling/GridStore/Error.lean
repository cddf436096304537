import GridStore.Selector
import GridStore.Span

/-!
Everything that can go wrong, by cause, and the message of each cause.
-/

set_option autoImplicit false

namespace GridStore

inductive RangeError where
  | badSignature (signature : String)
  | notANumber (token : String)
  | incorrect (arguments : String)
  | badFormat (text : String)
deriving DecidableEq, Repr

def RangeError.message : RangeError → String
  | .badSignature signature => "Invalid range signature: " ++ signature ++ " for Sheet.getRange()"
  | .notANumber token => "The expression(" ++ token ++ ") did not give a number."
  | .incorrect arguments => "Incorrect range values. Sheet.getRange(" ++ arguments ++ ")"
  | .badFormat text => "Invalid range format '" ++ text ++ "'"

inductive GridError where
  | emptyBlock (span : Span)
  | outOfBounds (span : Span) (sheet : String) (rows columns : Nat)
  | wrongShape (span : Span)
  | unreadableAddress (address : String)
  | sortColumnOutside (column : Nat) (span : Span)
deriving DecidableEq, Repr

def GridError.message : GridError → String
  | .emptyBlock span => "Range " ++ span.record ++ " is empty"
  | .outOfBounds span sheet rows columns =>
      "Range " ++ span.a1 ++ " is out of bounds for sheet '" ++ sheet ++ "' (" ++
        toString rows ++ " x " ++ toString columns ++ ")"
  | .wrongShape span =>
      "The data does not match the range " ++ span.a1 ++ " (" ++ toString span.rows ++ " x " ++
        toString span.columns ++ ")"
  | .unreadableAddress address => "Cannot clear range '" ++ address ++ "'"
  | .sortColumnOutside column span =>
      "Sort column " ++ toString column ++ " is outside of range " ++ span.a1

inductive AppendError where
  | tooWide (available used : Nat)
  | unevenRows
  | noRows
deriving DecidableEq, Repr

def AppendError.message : AppendError → String
  | .tooWide available used =>
      "Data out of range, columns available " ++ toString available ++ " used " ++ toString used
  | .unevenRows => "Values rows of different sizes"
  | .noRows => "The array must store at least 1 row"

inductive SchemaError where
  | columnWithoutSelector
  | missingOption (name : String)
  | duplicate (selector : Selector)
  | malformed
deriving DecidableEq, Repr

def SchemaError.message : SchemaError → String
  | .columnWithoutSelector => "Selector is required"
  | .missingOption name => "Bad schema options: " ++ name ++ " is required!"
  | .duplicate selector => "Such a scheme " ++ selector.display ++ " already exists"
  | .malformed => "Bad schema options: malformed JSON"

inductive FilterError where
  | malformed
  | notAnObject (found : String)
deriving DecidableEq, Repr

def FilterError.message : FilterError → String
  | .malformed => "Invalid filter: malformed JSON"
  | .notAnObject found => "Invalid filter: expected an object, found " ++ found

inductive Error where
  | inContext (message : String)
  /-- The failure of a caller's own resolver function. -/
  | resolver (message : String)
  | grid (cause : GridError)
  | malformedJson
  | wrongWorkbook (id : String)
  | sheetNotFound (selector : Selector)
  | range (cause : RangeError)
  | append (cause : AppendError)
  | headerNotFound (header : String)
  | schema (cause : SchemaError)
  | entityNotFound (selector : Selector)
  | filter (cause : FilterError)
deriving DecidableEq, Repr

def Error.message : Error → String
  | .inContext message => message
  | .resolver message => message
  | .grid cause => cause.message
  | .malformedJson => "malformed JSON"
  | .wrongWorkbook id => "Table by id(" ++ id ++ ") not found"
  | .sheetNotFound selector => "Sheet by selector(" ++ selector.display ++ ") not found"
  | .range cause => cause.message
  | .append cause => cause.message
  | .headerNotFound header => "Bad column selector, column " ++ header ++ " not found"
  | .schema cause => cause.message
  | .entityNotFound selector => "Entity " ++ selector.display ++ " not found"
  | .filter cause => cause.message

def Error.within (context : String) (error : Error) : Error :=
  .inContext (context ++ ": " ++ error.message)

/-- Hands the message to a presenter as often as asked. Presenting is a courtesy: whether it
succeeds changes nothing, and without a presenter nothing happens. -/
def Error.notify {σ : Type} (error : Error) (presenter : Option (String → σ → Bool × σ))
    (state : σ) : σ :=
  match presenter with
  | some present => (present error.message state).2
  | none => state

end GridStore
