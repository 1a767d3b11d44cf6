import TradeRun.Store.Error
import TradeRun.Text.Blank

/-!
Tables of trade data.

* `Cell`, `Table`, `Store`: stored values, named columns with rows of cells, and all that a file
  holds. A view has a name like a table, but is none;
* `Table.slot`, `Table.slotOr`: the cell of a row in a column, or a null or another substitute when
  there is no such column. Columns are found up to the case of ASCII letters;
* `Slot.read`: the value of a cell, or an error that names its place.
-/

namespace TradeRun

/-- A stored value. -/
inductive Cell
  | null
  | integer (value : Int)
  | real (value : Float)
  | text (value : String)
  | blob (bytes : List UInt8)

namespace Cell

/-- How a cell is stored. -/
def storageClass : Cell → StorageClass
  | null => .null
  | integer _ => .integer
  | real _ => .real
  | text _ => .text
  | blob _ => .blob

/-- A way to read a cell. -/
abbrev Reader (α : Type) := Cell → Option α

/-- A whole number. -/
def int? : Reader Int
  | integer n => some n
  | _ => none

/-- A number. -/
def float? : Reader Float
  | integer n => some (Float.ofInt n)
  | real x => some x
  | _ => none

/-- A text. -/
def text? : Reader String
  | text s => some s
  | _ => none

/-- A value, or nothing for a null. -/
def optional {α : Type} (read : Reader α) : Reader (Option α)
  | null => some none
  | cell => (read cell).map some

end Cell

/-- Named columns with rows of cells. -/
structure Table where
  name : String
  columns : List String
  rows : List (List Cell)
  /-- Why there may be further rows that cannot be read. -/
  fault : Option StoreError := none

/-- What a file holds under a name. -/
inductive Relation
  | table (table : Table)
  | view (name : String)

/-- All that a file holds. -/
structure Store where
  relations : List Relation

/-- The table of a name, in which case counts (`table_exists`). -/
def Store.table? (s : Store) (name : String) : Option Table :=
  s.relations.findSome? fun relation =>
    match relation with
    | .table t => if t.name = name then some t else none
    | .view _ => none

/-- A cell of a row, its place among the cells that are read, and the name of its column. -/
structure Slot where
  index : Nat
  column : String
  cell : Cell

/-- The value of a cell. -/
def Slot.read {α : Type} (s : Slot) (reader : Cell.Reader α) : Except StoreError α :=
  match reader s.cell with
  | some a => .ok a
  | none => .error (.columnType s.cell.storageClass s.index s.column)

namespace Table

variable (t : Table)

/-- The place of a column. -/
def columnIndex? (name : String) : Option Nat :=
  t.columns.findIdx? fun column => Text.equalAscii column name

/-- Whether there is a column of a name. -/
def hasColumn (name : String) : Bool := (t.columnIndex? name).isSome

/-- The cell of a row in a column, or a given one if there is no such column. -/
def slotOr (substitute : Cell) (row : List Cell) (index : Nat) (name : String) : Slot :=
  match t.columnIndex? name with
  | some i => ⟨index, t.columns.getD i name, row.getD i .null⟩
  | none => ⟨index, name, substitute⟩

/-- The cell of a row in a column, null if there is no such column. -/
def slot (row : List Cell) (index : Nat) (name : String) : Slot := t.slotOr .null row index name

end Table

end TradeRun
