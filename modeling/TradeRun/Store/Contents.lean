import TradeRun.Decimal.Reading
import TradeRun.Store.Declaration
import TradeRun.Store.File
import TradeRun.Store.Image
import TradeRun.Store.Record
import TradeRun.Text.Lossy

/-!
All that the file of the trade data holds.

The tree whose root is the first page lists all tables with their declarations and roots.

* `Entry`, `Entry.fault?`: an entry of that list, and what makes no sense in it after other ones;
* `Image.store`: the tables, which must be listed properly. Their own rows are read as far as they
  go;
* `StoreFile.ofBytes`: a file. One of less than two bytes holds nothing.
-/

namespace TradeRun

namespace Store

/-! ### The list of all tables -/

/-- A text up to the first zero in it. -/
def uptoZero (s : String) : String := String.ofList (s.toList.takeWhile (· != '\x00'))

/-- A cell as text. -/
def textOf? : Cell → Option String
  | .null => none
  | .integer n => some (Decimal.integer n)
  | .real x => some (Decimal.json x)
  | .text s => some (uptoZero s)
  | .blob bytes => some (uptoZero (Text.ofBytes bytes))

/-- An entry of the list of all tables: what it tells of, with the declaration of that. -/
structure Entry where
  kind : Cell
  name : Cell
  /-- The name of the table to which it belongs. -/
  owner : Cell
  root : Cell
  declaration : Cell

namespace Entry

/-- The entry of a stored row. -/
def ofCells (cells : List Cell) : Entry :=
  ⟨cells.getD 0 .null, cells.getD 1 .null, cells.getD 2 .null, cells.getD 3 .null,
    cells.getD 4 .null⟩

variable (e : Entry)

/-- The declaration, which is empty if there is none. -/
def text : String := (textOf? e.declaration).getD ""

/-- Whether the declaration begins as one. -/
def isDeclared : Bool := Text.foldAscii (e.text.toList.take 2) == "CR".toList

/-- Whether the root is a page from a certain one on. -/
def hasRoot (least pageCount : Nat) : Bool :=
  (((textOf? e.root).map String.toList).bind Decimal.natOfDigits?).any fun n =>
    least ≤ n && n ≤ pageCount

/-- Whether a cell holds a name, in any case. -/
def holds (cell : Cell) (name : String) : Bool := (textOf? cell).any (Text.equalAscii name)

/-- The name of the list of all tables itself, whose root is the first page. -/
def listName : String := "sqlite_master"

/-- The table or view that the entry declares. -/
def subject? : Option Subject := Subject.ofDeclaration? e.text

/-- Whether the entry tells of what its declaration declares. -/
def agrees : Bool :=
  match e.subject? with
  | some s =>
    let name := if e.hasRoot 1 1 then listName else s.name
    holds e.kind s.kind && holds e.name name && holds e.owner name
  | none => true

/-- What makes no sense in the declaration after others: what they declare cannot be declared once
more. -/
def repeated? (earlier : List Entry) : Option String :=
  e.subject?.bind fun s =>
    ((earlier.filterMap subject?).find? (Text.equalAscii ·.name s.name)).map fun t =>
      t.kind ++ " " ++ s.name ++ " already exists"

/-- How the names of indices begin that go with a table. -/
def indexNameStart (table : String) : String := "sqlite_autoindex_" ++ table ++ "_"

/-- Whether an index of a name goes with the table of the entry. -/
def bringsIndex (name : String) : Bool :=
  e.isDeclared && Declaration.needsIndex e.text &&
    (textOf? e.name).any fun table => (indexNameStart table).toList.isPrefixOf name.toList

/-- What makes no sense in an entry after others, of so many pages. Only an index that goes with a
table needs no declaration. -/
def remark? (pageCount : Nat) (earlier : List Entry) : Option String :=
  if (textOf? e.root).isNone then some ""
  else if e.isDeclared then
    if !e.hasRoot 0 pageCount then some "invalid rootpage"
    else if !e.agrees then some ""
    else e.repeated? earlier
  else
    match textOf? e.name with
    | none => some ""
    | some name =>
      if e.text ≠ "" then some ""
      else if !earlier.any (·.bringsIndex name) then some "orphan index"
      else if e.hasRoot 2 pageCount then none
      else some "invalid rootpage"

/-- Why the entry cannot be read after others, of so many pages. -/
def fault? (pageCount : Nat) (earlier : List Entry) : Option StoreError :=
  (e.remark? pageCount earlier).map fun remark =>
    .malformedEntry ((textOf? e.name).getD "?") remark

/-- Why entries cannot be read after others, of so many pages. -/
def firstFault? (pageCount : Nat) (earlier : List Entry) : List Entry → Option StoreError
  | [] => none
  | e :: es => e.fault? pageCount earlier <|> firstFault? pageCount (e :: earlier) es

end Entry

/-! ### Tables -/

/-- The cells of a row by the declarations of their columns; what is not stored is null. -/
def cellsOf : List ColumnDeclaration → Int → List Cell → List Cell
  | [], _, _ => []
  | column :: columns, number, cells =>
    let cell :=
      if column.isRowNumber then .integer number
      else
        match cells.headD .null with
        | .integer n => if column.isReal then .real (Float.ofInt n) else .integer n
        | stored => stored
    cell :: cellsOf columns number (cells.drop 1)

namespace Image

variable (i : Image)

/-- The table of a name, a root and a declaration, which is none if its rows have no numbers. -/
def table (name : String) (root : Nat) (text : String) : Relation :=
  let d := Declaration.parse text
  if d.hasRowNumbers then
    let read := (i.rows root).map? fun row =>
      (record? i.encoding row.size row.bytes).map (cellsOf d.columns row.number)
    .table {
      name
      columns := d.columns.map ColumnDeclaration.name
      rows := read.items
      fault := if read.isWhole then none else some .malformed }
  else .view name

/-- What an entry stands for. -/
def relation? (e : Entry) : Option Relation :=
  match e with
  | ⟨.text "table", .text name, _, .integer root, .text declaration⟩ =>
    some (i.table name root.toNat declaration)
  | ⟨.text "view", .text name, _, _, _⟩ => some (.view name)
  | _ => none

/-- The tables of the pages. -/
def store : Except StoreError Store :=
  let list := (i.rows 1).map? fun row =>
    (record? i.encoding row.size row.bytes).map Entry.ofCells
  match Entry.firstFault? i.pageCount [] list.items with
  | some fault => .error fault
  | none => if list.isWhole then .ok ⟨list.items.filterMap i.relation?⟩ else .error .malformed

end Image

end Store

/-- All that a file holds. -/
def StoreFile.ofBytes (bytes : ByteArray) : StoreFile :=
  if bytes.size ≤ 1 then .empty
  else
    { isEmpty := false
      isLogged := Store.Image.isSigned bytes && Store.Image.readVersion bytes == 2
      contents := (Store.Image.ofBytes bytes).bind Store.Image.store }

end TradeRun
