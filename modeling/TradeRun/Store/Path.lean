import TradeRun.Store.Location
import TradeRun.Text.Pieces

/-!
Paths as bytes, and the ways that they stand for.

* `Way`: the entries from the root to a place, and `Way.path?`: its path, if that is a text;
* `Disk.follow?`: the way after one more entry, for which `.` stays where it is and `..` goes one
  entry back;
* `Disk.resolve?`: the way that a path stands for.

Steps back are taken in the words of the path. What they take back must have made sense all the
same: no way leads through a file, and none gets too long.
-/

namespace TradeRun

/-- The name of a file or a directory: bytes other than a stroke. -/
abbrev PathEntry := List UInt8

/-- The entries from the root to a place, the last one first. -/
abbrev Way := List PathEntry

/-- The bytes of a text. -/
def bytesOf (s : String) : List UInt8 := s.toUTF8.toList

/-- The stroke between entries. -/
def stroke : UInt8 := 0x2F

/-- The greatest number of bytes that a path can have. -/
def maxPathSize : Nat := 512

/-- How many bytes are left for what is added to the path of a store. -/
def pathReserve : Nat := 8

namespace Way

/-- The number of bytes of the path, without the root itself. -/
def size (way : Way) : Nat := (way.map fun entry => entry.length + 1).foldr (· + ·) 0

/-- The path, if it is a text. -/
def path? (way : Way) : Option String :=
  if way = [] then some "/"
  else String.fromUTF8? (way.reverse.flatMap (stroke :: ·)).toByteArray

/-- Whether the path leads to a store, which the root is not, and leaves room for what is added. -/
def isPlace (way : Way) : Bool := way.size != 0 && way.size + pathReserve ≤ maxPathSize

end Way

namespace Disk

variable {m : Type → Type} [Monad m] (disk : Disk m)

/-- Whether a way leads to a file. -/
def endsInFile (way : Way) : m Bool :=
  match way.path? with
  | some path => disk.isFile path
  | none => pure false

/-- The way after one more entry, if there can be one. -/
def follow? (way : Way) (entry : PathEntry) : OptionT m Way := do
  if entry = [] ∨ entry = bytesOf "." then return way
  else if entry = bytesOf ".." then return way.drop 1
  else if maxPathSize < way.size + entry.length + 2 then failure
  else if ← disk.endsInFile way then failure
  else return entry :: way

/-- The way that a path stands for from a directory on, if there can be one. -/
def resolve? (directory : String) (path : List UInt8) : OptionT m Way := do
  let start := if path.head? = some stroke then [] else Text.pieces stroke (bytesOf directory)
  let way ← (start ++ Text.pieces stroke path).foldlM disk.follow? []
  if way.isPlace then return way else failure

end Disk

end TradeRun
