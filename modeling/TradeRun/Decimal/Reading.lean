import TradeRun.Text.Blank

/-!
Numbers read from text, as they are typed on a command line.

* `readInt?`: an optional sign and decimal digits;
* `readNat?`: the same without a minus sign;
* `readFloat?`: a decimal number with an optional point and exponent, or one of the words `inf`,
  `infinity` and `nan` in any case, read to the nearest double.

A reader takes the whole text or nothing; blanks are not skipped.
-/

namespace TradeRun.Decimal

/-- The number that a list of decimal digits stands for, if it is one and not empty. -/
def natOfDigits? (cs : List Char) : Option Nat :=
  if cs.isEmpty || !cs.all Char.isDigit then none
  else some (cs.foldl (fun n c => 10 * n + (c.toNat - '0'.toNat)) 0)

/-- The sign in front of a number (`true` for minus) and what follows it. -/
def splitSign : List Char → Bool × List Char
  | '-' :: cs => (true, cs)
  | '+' :: cs => (false, cs)
  | cs => (false, cs)

/-- A whole number with an optional sign. -/
def readInt? (s : String) : Option Int :=
  let (negative, cs) := splitSign s.toList
  (natOfDigits? cs).map fun n => if negative then -(n : Int) else n

/-- A natural number with an optional plus sign. -/
def readNat? (s : String) : Option Nat :=
  match s.toList with
  | '+' :: cs => natOfDigits? cs
  | cs => natOfDigits? cs

/-- An exponent held to a range in which no double is lost: whatever the coefficient is, what lies
above is infinite and what lies below is zero. -/
def heldExponent (coefficient : Nat) (exponent : Int) : Int :=
  max (-(coefficient.log2 + 400 : Nat)) (min 400 exponent)

/-- The double nearest to `coefficient * 10 ^ exponent`. -/
def nearest (coefficient : Nat) (exponent : Int) : Float :=
  let held := heldExponent coefficient exponent
  Float.ofScientific coefficient (held < 0) held.natAbs

/-- The exponent part of a number: nothing, or `e`, an optional sign and digits. -/
def exponentOf? : List Char → Option Int
  | [] => some 0
  | c :: cs =>
    if c = 'e' ∨ c = 'E' then
      let (negative, ds) := splitSign cs
      (natOfDigits? ds).map fun n => if negative then -(n : Int) else n
    else none

/-- A number without sign: digits with at most one point, at least one of them, and an exponent. -/
def unsigned? (cs : List Char) : Option Float :=
  let whole := cs.takeWhile Char.isDigit
  let (fraction, rest) :=
    match cs.dropWhile Char.isDigit with
    | '.' :: ds => (ds.takeWhile Char.isDigit, ds.dropWhile Char.isDigit)
    | ds => ([], ds)
  match natOfDigits? (whole ++ fraction), exponentOf? rest with
  | some n, some e => some (nearest n (e - fraction.length))
  | _, _ => none

/-- The words for numbers that have no digits. -/
def word? (cs : List Char) : Option Float :=
  let word := Text.foldAscii cs
  if word = "INF".toList ∨ word = "INFINITY".toList then some (1.0 / 0.0)
  else if word = "NAN".toList then some (0.0 / 0.0)
  else none

/-- A decimal number or one of the words. -/
def readFloat? (s : String) : Option Float :=
  let (negative, cs) := splitSign s.toList
  ((word? cs).or (unsigned? cs)).map fun x => if negative then -x else x

end TradeRun.Decimal
