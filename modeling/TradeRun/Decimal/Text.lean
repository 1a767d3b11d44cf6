import TradeRun.Decimal.Digits

/-!
Numbers as text.

* `plain`: the shortest digits, a tie going up, always positional, nothing after a whole number;
* `json`: the shortest digits, a tie going to the even one, with `.0` after a whole number and a
  signed exponent for numbers of `10 ^ 16` and more and below `10 ^ -5`;
* `fixed`: a given count of places after the point, a half going to the even neighbour.

`Layout` holds the decisions in which `plain` and `json` differ.
-/

namespace TradeRun.Decimal

open Float.Model (UnpackedFloat)

/-- How a double is laid out from its shortest digits. -/
structure Layout where
  /-- Which of two equally near and equally short numbers is written. -/
  tie : Tie
  /-- Whether a number `0.d₁d₂… * 10 ^ point` is written without an exponent. -/
  positional : Int → Bool
  /-- What follows a whole number. -/
  wholeEnd : String
  notANumber : String
  infinite : String
  negativeInfinite : String

/-- A tie goes up; always positional, whole numbers bare. -/
def Layout.plain : Layout := ⟨.up, fun _ => true, "", "NaN", "inf", "-inf"⟩

/-- A tie goes to the even digit; whole numbers end in `.0`; from `10 ^ 16` on and below `10 ^ -5`
an exponent is written; what is no finite number is `null`. -/
def Layout.json : Layout :=
  ⟨.toEven, fun point => -5 < point && point ≤ 16, ".0", "null", "null", "null"⟩

/-- The decimal digits of a natural number. -/
def digitsOf (n : Nat) : List Char := Nat.toDigits 10 n

/-- A run of zeros. -/
def zeros (n : Nat) : List Char := List.replicate n '0'

/-- A whole number in decimal. -/
def integer (n : Int) : String :=
  String.ofList (if n < 0 then '-' :: digitsOf n.natAbs else digitsOf n.natAbs)

/-- An exponent with its sign. -/
def exponentText (e : Int) : List Char := (if e < 0 then '-' else '+') :: digitsOf e.natAbs

/-- A positive number laid out from its digits. -/
def Layout.digits (layout : Layout) (d : Digits) : List Char :=
  let cs := digitsOf d.coefficient
  let point : Int := cs.length + d.exponent
  if layout.positional point then
    if 0 ≤ d.exponent then cs ++ zeros d.exponent.toNat ++ layout.wholeEnd.toList
    else if 0 < point then cs.take point.toNat ++ '.' :: cs.drop point.toNat
    else '0' :: '.' :: (zeros (-point).toNat ++ cs)
  else
    let fraction := if cs.length ≤ 1 then [] else '.' :: cs.drop 1
    cs.take 1 ++ fraction ++ 'e' :: exponentText (point - 1)

/-- The sign written before a number. -/
def signOf : UnpackedFloat.Sign → List Char
  | .positive => []
  | .negative => ['-']

/-- A double in the given layout. -/
def Layout.text (layout : Layout) (x : Float) : String :=
  match Binary.decode x with
  | .notANumber => layout.notANumber
  | .infinity .positive => layout.infinite
  | .infinity .negative => layout.negativeInfinite
  | .zero s => String.ofList (signOf s ++ '0' :: layout.wholeEnd.toList)
  | .finite s m q _ => String.ofList (signOf s ++ layout.digits (shortest layout.tie m q))

/-- A double with its shortest digits, without exponent. -/
def plain (x : Float) : String := Layout.plain.text x

/-- A double as a number of a JSON text. -/
def json (x : Float) : String := Layout.json.text x

/-- The digits of `n / 10 ^ places`. -/
def pointed (n places : Nat) : List Char :=
  let whole := digitsOf (n / Nat.pow 10 places)
  if places = 0 then whole
  else
    let cs := digitsOf (n % Nat.pow 10 places)
    whole ++ '.' :: (zeros (places - cs.length) ++ cs)

/-- A double with a given count of places; a half goes to the even neighbour. -/
def fixed (places : Nat) (x : Float) : String :=
  match Binary.decode x with
  | .notANumber => "NaN"
  | .infinity .positive => "inf"
  | .infinity .negative => "-inf"
  | .zero s => String.ofList (signOf s ++ pointed 0 places)
  | .finite s m q _ =>
    let n :=
      roundQuotient .toEven (m * Nat.pow 10 places * Nat.pow 2 q.toNat) (Nat.pow 2 (-q).toNat)
    String.ofList (signOf s ++ pointed n places)

end TradeRun.Decimal
