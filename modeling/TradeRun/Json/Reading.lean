import TradeRun.Json.Basic
import TradeRun.Decimal.Reading

/-!
JSON values read from text.

`Json.parse?` takes a whole text, blanks around it allowed. A number without point and exponent is
a whole number when it fits 64 bits, with or without sign, and a double otherwise; `-0` is the
double `-0.0`. Of two fields of one name the later one counts.

The readers of lists and records call one another at most once for each character, so that twice
the length of the text bounds the depth of their calls.
-/

namespace TradeRun.Json

/-- The blanks that may stand between the parts of a JSON text. -/
def isGap (c : Char) : Bool := c == ' ' || c == '\n' || c == '\r' || c == '\t'

/-- The rest of a text after its leading blanks. -/
def skip (cs : List Char) : List Char := cs.dropWhile isGap

/-- The rest of a text after a given beginning. -/
def after? : List Char → List Char → Option (List Char)
  | [], cs => some cs
  | w :: ws, c :: cs => if w = c then after? ws cs else none
  | _ :: _, [] => none

/-- The number of four hexadecimal digits and what follows them. -/
def hexFour? : List Char → Option (Nat × List Char)
  | a :: b :: c :: d :: cs => do
    let n ← [a, b, c, d].foldlM (fun n digit => (Text.hexValue? digit).map (16 * n + ·)) 0
    some (n, cs)
  | _ => none

/-- The character of an escape `\u`, for which two of them are taken where the first one is a high
surrogate, and what follows. -/
def unicode? (cs : List Char) : Option (Char × List Char) := do
  let (high, rest) ← hexFour? cs
  if 0xD800 ≤ high ∧ high < 0xDC00 then
    let rest ← after? ['\\', 'u'] rest
    let (low, rest) ← hexFour? rest
    if 0xDC00 ≤ low ∧ low < 0xE000 then
      some (Char.ofNat (0x10000 + (high - 0xD800) * 0x400 + (low - 0xDC00)), rest)
    else none
  else if 0xDC00 ≤ high ∧ high < 0xE000 then none
  else some (Char.ofNat high, rest)

/-- The character that a letter after a backslash stands for. -/
def unescape? (c : Char) : Option Char :=
  match c with
  | '"' => some '"'
  | '\\' => some '\\'
  | '/' => some '/'
  | 'b' => some (Char.ofNat 8)
  | 'f' => some (Char.ofNat 12)
  | 'n' => some '\n'
  | 'r' => some '\r'
  | 't' => some '\t'
  | _ => none

/-- The characters up to the closing quote, and what follows it. -/
def quoted? : Nat → List Char → List Char → Option (String × List Char)
  | 0, _, _ => none
  | _ + 1, acc, '"' :: cs => some (String.ofList acc.reverse, cs)
  | fuel + 1, acc, '\\' :: 'u' :: cs =>
    match unicode? cs with
    | some (c, rest) => quoted? fuel (c :: acc) rest
    | none => none
  | fuel + 1, acc, '\\' :: c :: cs =>
    match unescape? c with
    | some d => quoted? fuel (d :: acc) cs
    | none => none
  | fuel + 1, acc, c :: cs => if c.toNat < 32 then none else quoted? fuel (c :: acc) cs
  | _ + 1, _, [] => none

/-- Whether a character may belong to a number. -/
def isNumberPart (c : Char) : Bool :=
  c.isDigit || c == '-' || c == '+' || c == '.' || c == 'e' || c == 'E'

/-- The value of a number's text. -/
def number? (cs : List Char) : Option Json :=
  let text := String.ofList cs
  match Decimal.readInt? text with
  | some n =>
    if n = 0 ∧ cs.head? = some '-' then some (.real (-0.0))
    else if Binary.minInt64 ≤ n ∧ n < 0x10000000000000000 then some (.integer n)
    else (Decimal.readFloat? text).map .real
  | none => (Decimal.readFloat? text).map .real

/-- A record with a field put in; the later of two fields of one name counts. -/
def putField (fields : List (String × Json)) (key : String) (v : Json) : List (String × Json) :=
  fields.filter (·.1 != key) ++ [(key, v)]

mutual

/-- A value and what follows it. -/
def value? : Nat → List Char → Option (Json × List Char)
  | 0, _ => none
  | fuel + 1, cs =>
    match skip cs with
    | '"' :: rest => (quoted? (rest.length + 1) [] rest).map fun (s, rest) => (.text s, rest)
    | '[' :: rest =>
      match skip rest with
      | ']' :: rest => some (.list [], rest)
      | rest => items? fuel [] rest
    | '\x7b' :: rest =>
      match skip rest with
      | '\x7d' :: rest => some (.record [], rest)
      | rest => fields? fuel [] rest
    | 'n' :: rest => (after? "ull".toList rest).map fun rest => (.null, rest)
    | 't' :: rest => (after? "rue".toList rest).map fun rest => (.bool true, rest)
    | 'f' :: rest => (after? "alse".toList rest).map fun rest => (.bool false, rest)
    | rest =>
      (number? (rest.takeWhile isNumberPart)).map fun v => (v, rest.dropWhile isNumberPart)

/-- The items of a list up to its closing bracket, after those read already. -/
def items? : Nat → List Json → List Char → Option (Json × List Char)
  | 0, _, _ => none
  | fuel + 1, acc, cs =>
    match value? fuel cs with
    | some (v, rest) =>
      match skip rest with
      | ',' :: rest => items? fuel (v :: acc) rest
      | ']' :: rest => some (.list (v :: acc).reverse, rest)
      | _ => none
    | none => none

/-- The fields of a record up to its closing brace, after those read already. -/
def fields? : Nat → List (String × Json) → List Char → Option (Json × List Char)
  | 0, _, _ => none
  | fuel + 1, acc, cs =>
    match skip cs with
    | '"' :: rest =>
      match quoted? (rest.length + 1) [] rest with
      | some (key, rest) =>
        match skip rest with
        | ':' :: rest =>
          match value? fuel rest with
          | some (v, rest) =>
            match skip rest with
            | ',' :: rest => fields? fuel (putField acc key v) rest
            | '\x7d' :: rest => some (.record (putField acc key v), rest)
            | _ => none
          | none => none
        | _ => none
      | none => none
    | _ => none

end

/-- The value of a whole text. -/
def parse? (s : String) : Option Json :=
  let cs := s.toList
  match value? (2 * cs.length + 2) cs with
  | some (v, rest) => if (skip rest).isEmpty then some v else none
  | none => none

end TradeRun.Json
