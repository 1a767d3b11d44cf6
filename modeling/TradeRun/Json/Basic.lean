import TradeRun.Decimal.Text
import TradeRun.Text.Hexadecimal

/-!
JSON values and their texts.

* `Json`: values whose numbers are either whole numbers or doubles, and whose records keep the
  order of their fields;
* `Json.compact`: the text without blanks;
* `Json.pretty`: one item a line, nested by two blanks; an empty list or record stays on its line.
-/

namespace TradeRun

/-- A JSON value. -/
inductive Json where
  | null
  | bool (value : Bool)
  | integer (value : Int)
  | real (value : Float)
  | text (value : String)
  | list (items : List Json)
  | record (fields : List (String × Json))

namespace Json

open Text (hexDigit)

/-- A character inside quotes: quotes, backslashes and control characters are escaped. -/
def escape (c : Char) : List Char :=
  if c = '"' then ['\\', '"']
  else if c = '\\' then ['\\', '\\']
  else if c = '\n' then ['\\', 'n']
  else if c = '\r' then ['\\', 'r']
  else if c = '\t' then ['\\', 't']
  else if c.toNat = 8 then ['\\', 'b']
  else if c.toNat = 12 then ['\\', 'f']
  else if c.toNat < 32 then ['\\', 'u', '0', '0', hexDigit (c.toNat / 16), hexDigit (c.toNat % 16)]
  else [c]

/-- A text in quotes. -/
def quote (s : String) : String := String.ofList ('"' :: s.toList.flatMap escape ++ ['"'])

/-- A line break and the blanks of a nesting depth. -/
def indent (depth : Nat) : String := String.ofList ('\n' :: List.replicate (2 * depth) ' ')

mutual

/-- The text without blanks. -/
def compact : Json → String
  | .null => "null"
  | .bool b => if b then "true" else "false"
  | .integer n => Decimal.integer n
  | .real x => Decimal.json x
  | .text s => quote s
  | .list items => "[" ++ ",".intercalate (compactItems items) ++ "]"
  | .record fields => "\x7b" ++ ",".intercalate (compactFields fields) ++ "\x7d"

/-- The texts of the items of a list. -/
def compactItems : List Json → List String
  | [] => []
  | v :: vs => compact v :: compactItems vs

/-- The texts of the fields of a record. -/
def compactFields : List (String × Json) → List String
  | [] => []
  | (key, v) :: fields => (quote key ++ ":" ++ compact v) :: compactFields fields

end

mutual

/-- The text with one item a line, at a nesting depth. -/
def prettyAt (depth : Nat) : Json → String
  | .list [] => "[]"
  | .list (v :: vs) =>
    "[" ++ indent (depth + 1)
      ++ ("," ++ indent (depth + 1)).intercalate (prettyItems (depth + 1) (v :: vs))
      ++ indent depth ++ "]"
  | .record [] => "\x7b\x7d"
  | .record (field :: fields) =>
    "\x7b" ++ indent (depth + 1)
      ++ ("," ++ indent (depth + 1)).intercalate (prettyFields (depth + 1) (field :: fields))
      ++ indent depth ++ "\x7d"
  | .null => "null"
  | .bool b => if b then "true" else "false"
  | .integer n => Decimal.integer n
  | .real x => Decimal.json x
  | .text s => quote s

/-- The texts of the items of a list, at a nesting depth. -/
def prettyItems (depth : Nat) : List Json → List String
  | [] => []
  | v :: vs => prettyAt depth v :: prettyItems depth vs

/-- The texts of the fields of a record, at a nesting depth. -/
def prettyFields (depth : Nat) : List (String × Json) → List String
  | [] => []
  | (key, v) :: fields => (quote key ++ ": " ++ prettyAt depth v) :: prettyFields depth fields

end

/-- The text with one item a line. -/
def pretty (v : Json) : String := prettyAt 0 v

/-- The value of a field, `null` for what is not there. -/
def field (v : Json) (key : String) : Json :=
  match v with
  | .record fields => (fields.lookup key).getD .null
  | _ => .null

end Json

/-- A JSON value or `null`. -/
def Json.ofOption {α : Type} (f : α → Json) : Option α → Json
  | some a => f a
  | none => .null

end TradeRun
