import GridStore.Sheet

/-!
Workbooks: grids in a row, found by name or by position, under one identifier.
-/

set_option autoImplicit false

namespace GridStore

structure Workbook where
  id : String
  sheets : List Grid

namespace Workbook

def checkId (workbook : Workbook) : Option String → Except Error Unit
  | some id => if id = workbook.id then .ok () else .error (.wrongWorkbook id)
  | none => .ok ()

def position? (workbook : Workbook) : Selector → Option Nat
  | .position index => if index < workbook.sheets.length then some index else none
  | .name text => workbook.sheets.findIdx? fun grid => grid.name == text

def select (workbook : Workbook) (selector : Selector) : Except Error (Nat × Grid) :=
  match workbook.position? selector with
  | none => .error (.sheetNotFound selector)
  | some position =>
      match workbook.sheets[position]? with
      | none => .error (.sheetNotFound selector)
      | some grid => .ok (position, grid)

def replace (workbook : Workbook) (position : Nat) (grid : Grid) : Workbook :=
  { workbook with sheets := workbook.sheets.set position grid }

end Workbook

end GridStore
