import TradeRun.Store.Bytes
import TradeRun.Store.Table

/-!
Rows as they are stored: a header of type numbers, and the contents of the cells after it.

* `cell?`: the cell of a type number and its width in bytes;
* `record?`: the cells of a row.
-/

namespace TradeRun.Store

open Bytes

/-- The contents of a cell of whole bytes: those of odd numbers are texts. What is no text of the
encoding is told by its bytes. -/
def longCell (encoding : Encoding) (type : Nat) (bytes : ByteArray) : Cell :=
  if type % 2 = 0 then .blob bytes.toList
  else
    match encoding.decode? bytes with
    | some s => .text s
    | none => .blob bytes.toList

/-- How many bytes a cell of a type number takes. -/
def widthOf (type : Nat) : Nat :=
  if 12 ≤ type then (type - 12) / 2
  else [0, 1, 2, 3, 4, 6, 8, 8].getD type 0

/-- The cell of a type number at a place. -/
def cell? (encoding : Encoding) (bytes : ByteArray) (type place : Nat) : Option Cell :=
  if 12 ≤ type then
    if place + widthOf type ≤ bytes.size then
      some (longCell encoding type (bytes.extract place (place + widthOf type)))
    else none
  else
    match type with
    | 0 | 10 | 11 => some .null
    | 7 => (number? bytes place 8).map fun n => .real (Float.ofBits (UInt64.ofNat n))
    | 8 => some (.integer 0)
    | 9 => some (.integer 1)
    | _ => (signed? bytes place (widthOf type)).map .integer

/-- The type numbers of a header from a place on, of which there are at most as many as bytes. -/
def types? (bytes : ByteArray) (finish : Nat) : Nat → Nat → Option (List Nat)
  | 0, place => if place = finish then some [] else none
  | left + 1, place =>
    if place = finish then some []
    else if finish < place then none
    else do
      let (type, next) ← varint? bytes place
      let types ← types? bytes finish left next
      return type :: types

/-- The cells of type numbers from a place on. -/
def cells? (encoding : Encoding) (bytes : ByteArray) : List Nat → Nat → Option (List Cell)
  | [], _ => some []
  | type :: types, place => do
    let cell ← cell? encoding bytes type place
    let cells ← cells? encoding bytes types (place + widthOf type)
    return cell :: cells

/-- The cells of a row of some size, of whose bytes there may be less. A header of size zero stands
for no cells; any other one tells the size of the row. -/
def record? (encoding : Encoding) (size : Nat) (bytes : ByteArray) : Option (List Cell) := do
  let (finish, start) ← varint? bytes 0
  if finish = 0 then return []
  guard (start < finish)
  let types ← types? bytes finish finish start
  guard (finish + (types.map widthOf).foldr (· + ·) 0 = size)
  cells? encoding bytes types finish

end TradeRun.Store
