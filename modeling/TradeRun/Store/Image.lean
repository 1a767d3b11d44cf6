import TradeRun.Store.Bytes
import TradeRun.Store.Error
import TradeRun.Store.Yield

/-!
The file of the trade data as pages.

A file is a sequence of pages of one size, of which the first one begins with a header for the whole
file. Each table is a tree of pages: the leaves hold the rows in ascending order of their numbers,
and the other pages hold the numbers of the pages below. What does not fit a leaf goes on in a chain
of further pages.

* `Image.ofBytes`: the pages of a file, if its header makes sense;
* `Image.rows`: the rows of a tree, as far as they go.
-/

namespace TradeRun.Store

open Bytes

/-- The pages of a file. -/
structure Image where
  bytes : ByteArray
  /-- The size of a page. -/
  pageSize : Nat
  /-- How much of a page is in use. -/
  usable : Nat
  pageCount : Nat
  encoding : Encoding

namespace Image

/-! ### The header -/

/-- The text with which a file begins, and the zero after it. -/
def signature : List UInt8 := "SQLite format 3".toUTF8.toList ++ [0]

/-- Three bytes that are the same in all files. -/
def shares : List UInt8 := [64, 32, 32]

/-- The sizes that a page can have. -/
def pageSizes : List Nat := (List.range 8).map fun k => 512 * Nat.pow 2 k

/-- How much of a page has to be in use. -/
def leastUsable : Nat := 480

/-- The latest form in which tables are stored. -/
def latestFormat : Nat := 4

/-- How the texts of a file are stored. -/
def encodingOf : Nat → Encoding
  | 2 => .utf16 false
  | 3 => .utf16 true
  | _ => .utf8

/-- The number of some bytes, or zero after the end of the file. -/
def stored (bytes : ByteArray) (place width : Nat) : Nat := (number? bytes place width).getD 0

/-- Whether a file begins like one of pages. -/
def isSigned (bytes : ByteArray) : Bool := (bytes.extract 0 16).toList == signature

/-- How the file is to be read: at once, or with the log beside it, or in a way of later times. -/
def readVersion (bytes : ByteArray) : Nat := stored bytes 19 1

/-- The size of a page; one stands for more than two bytes can tell. -/
def pageSizeOf (bytes : ByteArray) : Nat :=
  let size := stored bytes 16 2
  if size = 1 then 65536 else size

/-- The number of pages: the one in the header, if it was written by who changed the file last. -/
def pageCountOf (bytes : ByteArray) : Nat :=
  let told := stored bytes 28 4
  if told = 0 ∨ stored bytes 24 4 ≠ stored bytes 92 4 then
    (bytes.size + pageSizeOf bytes - 1) / pageSizeOf bytes
  else told

/-- Whether the header has the form of all headers. -/
def hasForm (bytes : ByteArray) : Bool :=
  isSigned bytes && readVersion bytes ≤ 2 && (bytes.extract 21 24).toList == shares
    && pageSizes.contains (pageSizeOf bytes)

/-- The pages of a file. -/
def ofBytes (bytes : ByteArray) : Except StoreError Image :=
  let pageSize := pageSizeOf bytes
  let usable := pageSize - stored bytes 20 1
  let pageCount := pageCountOf bytes
  if !hasForm bytes then .error .notDatabase
  else if bytes.size + pageSize ≤ pageSize * pageCount then .error .malformed
  else if usable < leastUsable then .error .notDatabase
  else if latestFormat < stored bytes 47 1 then .error .unknownFormat
  else .ok { bytes, pageSize, usable, pageCount, encoding := encodingOf (stored bytes 59 1 % 4) }

/-! ### Pages -/

variable (i : Image)

/-- A page, which are numbered from one, with zeros after the end of the file. -/
def page? (number : Nat) : Option ByteArray :=
  if number = 0 ∨ i.pageCount < number then none
  else
    let start := (number - 1) * i.pageSize
    let held := i.bytes.extract start (start + i.pageSize)
    some (held ++ ⟨Array.replicate (i.pageSize - held.size) 0⟩)

/-- Where the header of a page begins, which on the first page comes after that of the file. -/
def headerStart (number : Nat) : Nat := if number = 1 then 100 else 0

/-- How many bytes of a row of some size stand in its leaf. -/
def localSize (size : Nat) : Nat :=
  let most := i.usable - 35
  let least := (i.usable - 12) * 32 / 255 - 23
  let fitting := least + (size - least) % (i.usable - 4)
  if size ≤ most then size else if fitting ≤ most then fitting else least

/-- So many bytes of a chain of pages, of which there are at most so many, as far as they go. -/
def chain : Nat → Nat → Nat → ByteArray
  | _, 0, _ => .empty
  | 0, _, _ => .empty
  | left + 1, size, number =>
    match i.page? number with
    | some page =>
      let here := min size (i.usable - 4)
      page.extract 4 (4 + here) ++ chain left (size - here) (stored page 0 4)
    | none => .empty

/-- A stored row: its number, its size and its bytes, as far as they go. -/
structure Row where
  number : Int
  size : Nat
  bytes : ByteArray

/-- The row at a place of a page. The first byte counts even if the row has none. -/
def row? (page : ByteArray) (place : Nat) : Option Row := do
  let (size, place) ← varint? page place
  let (number, place) ← varint? page place
  let here := i.localSize size
  let start := page.extract place (place + max 1 here)
  let rest :=
    if here < size then i.chain i.pageCount (size - here) (stored page (place + here) 4)
    else .empty
  return ⟨withSign 64 number, size, start ++ rest⟩

/-- The places that a page points to, so many of them from a place on. -/
def cellPlaces (page : ByteArray) (start n : Nat) : List Nat :=
  (List.range n).map fun k => stored page (start + 2 * k) 2 % i.pageSize

/-- The numbers of the pages below a page. -/
def children (page : ByteArray) (header n : Nat) : List Nat :=
  (i.cellPlaces page (header + 12) n).map (stored page · 4) ++ [stored page (header + 8) 4]

/-- The greatest number of cells of a page. -/
def maxCells : Nat := (i.pageSize - 8) / 6

/-- The greatest depth of a tree. -/
def maxDepth : Nat := 20

/-- The rows of a tree of at most some depth. Only a root can be empty, and only the first page of a
file can have one page below it. -/
def rowsBelow : Nat → Bool → Nat → Yield Row
  | 0, _, _ => .failed
  | depth + 1, isRoot, number =>
    match i.page? number with
    | none => .failed
    | some page =>
      let header := headerStart number
      let n := stored page (header + 3) 2
      if i.maxCells < n ∨ (n = 0 ∧ !isRoot) then .failed
      else if stored page header 1 = 13 then
        Yield.ofList (i.row? page) (i.cellPlaces page (header + 8) n)
      else if stored page header 1 = 5 ∧ (n ≠ 0 ∨ number = 1) then
        Yield.flatMap (rowsBelow depth false) (i.children page header n)
      else .failed

/-- The rows of a tree. -/
def rows (root : Nat) : Yield Row := i.rowsBelow maxDepth true root

end Image

end TradeRun.Store
