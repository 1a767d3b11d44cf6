import TradeRun.Text.Pieces

/-!
Text in lines and columns.

* `lines`: the lines of a text. A line ends in a line feed, or a carriage return and a line feed;
  the last one may do without;
* `unlines`: the text of some lines, each ended by a line feed;
* `cutLine`: the first line and what follows its line feed;
* `padLeft`, `padRight`: a text filled up to a count of characters.
-/

namespace TradeRun.Text

/-- The lines of a list of characters, without their ends. -/
def splitLines : List Char → List (List Char)
  | [] => []
  | '\n' :: cs => [] :: splitLines cs
  | '\r' :: '\n' :: cs => [] :: splitLines cs
  | c :: cs =>
    match splitLines cs with
    | [] => [[c]]
    | l :: ls => (c :: l) :: ls

/-- The lines of a text, without their ends. -/
def lines (s : String) : List String := (splitLines s.toList).map String.ofList

/-- The text of some lines. -/
def unlines (ls : List String) : String := String.join (ls.map (· ++ "\n"))

/-- What stands before and after the first line feed. -/
def cutLine (s : String) : String × String :=
  let (line, rest) := cut '\n' s.toList
  (String.ofList line, String.ofList rest)

/-- A text with characters put before it. -/
def padLeft (fill : Char) (width : Nat) (s : String) : String :=
  String.ofList (List.replicate (width - s.length) fill) ++ s

/-- A text with blanks put after it. -/
def padRight (width : Nat) (s : String) : String :=
  s ++ String.ofList (List.replicate (width - s.length) ' ')

/-- The greatest of some widths. -/
def widest (widths : List Nat) : Nat := widths.foldl max 0

end TradeRun.Text
