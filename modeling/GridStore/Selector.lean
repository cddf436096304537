/-!
Selectors: how a sheet or a column is picked out, by name or by position counted from zero. A
position is never the same selector as a name, even when both read alike.
-/

set_option autoImplicit false

namespace GridStore

inductive Selector where
  | position (index : Nat)
  | name (text : String)
deriving DecidableEq, Repr

def Selector.display : Selector → String
  | .position index => toString index
  | .name text => text

inductive ColumnSelector where
  | position (index : Nat)
  | header (text : String)
deriving DecidableEq, Repr

def ColumnSelector.display : ColumnSelector → String
  | .position index => toString index
  | .header text => text

end GridStore
