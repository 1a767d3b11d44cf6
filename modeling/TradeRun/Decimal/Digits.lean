import TradeRun.Decimal.Binary

/-!
Decimal digits of a double, chosen in exact integer arithmetic.

* `Tie`: which of two equally near neighbours is taken;
* `roundQuotient`: a quotient rounded to the nearest whole number;
* `shortest`: the fewest digits that read back as the same double, and of those the nearest to it.

The doubles that read back as `m * 2 ^ q` form an interval around it, closed when `m` is even. For
each count of digits only the two neighbours of the value on that decimal grid can be the nearest
grid points inside the interval, so `shortest` looks at these two for 1, 2, ... 17 digits.
-/

namespace TradeRun.Decimal

/-- The rule for a value halfway between two neighbours. -/
inductive Tie where
  /-- The even neighbour. -/
  | toEven
  /-- The upper neighbour. -/
  | up
deriving DecidableEq, Repr

/-- The neighbour taken for a value halfway between `below` and `below + 1`. -/
def Tie.settle (below : Nat) : Tie → Nat
  | .toEven => below + below % 2
  | .up => below + 1

/-- The nearest whole number to `num / den`. -/
def roundQuotient (tie : Tie) (num den : Nat) : Nat :=
  let quotient := num / den
  let twice := 2 * (num % den)
  if twice < den then quotient
  else if den < twice then quotient + 1
  else tie.settle quotient

/-- A positive decimal number `coefficient * 10 ^ exponent`. -/
structure Digits where
  coefficient : Nat
  exponent : Int
deriving DecidableEq, Repr

/-- The interval of reals that read back as the double `m * 2 ^ q`, over one denominator. -/
structure Interval where
  low : Nat
  value : Nat
  high : Nat
  denominator : Nat
  /-- The ends belong to the interval. -/
  closed : Bool

/-- The interval around the double `m * 2 ^ q`. Below a power of two the doubles lie twice as
dense, unless it is the least normal one. -/
def Interval.around (m : Nat) (q : Int) : Interval :=
  let scale := Nat.pow 2 q.toNat
  let below := if m = 0x10000000000000 ∧ -1074 < q then 1 else 2
  { low := (4 * m - below) * scale
    value := 4 * m * scale
    high := (4 * m + 2) * scale
    denominator := 4 * Nat.pow 2 (-q).toNat
    closed := m % 2 == 0 }

namespace Interval

/-- The point `c * 10 ^ t` over the denominator of the interval, and the scale that `low`, `value`
and `high` need beside it. -/
def place (i : Interval) (c : Nat) (t : Int) : Nat × Nat :=
  (c * i.denominator * Nat.pow 10 t.toNat, Nat.pow 10 (-t).toNat)

/-- Whether `c * 10 ^ t` lies in the interval. -/
def contains (i : Interval) (c : Nat) (t : Int) : Bool :=
  let (point, scale) := i.place c t
  if i.closed then i.low * scale ≤ point && point ≤ i.high * scale
  else i.low * scale < point && point < i.high * scale

/-- The whole number of units `10 ^ t` in the value. -/
def units (i : Interval) (t : Int) : Nat :=
  i.value * Nat.pow 10 (-t).toNat / (i.denominator * Nat.pow 10 t.toNat)

/-- The place of the first digit: `10 ^ lead ≤ value < 10 ^ (lead + 1)`, found from an estimate
that is at most one off. -/
def lead (i : Interval) (estimate : Int) : Int :=
  if 0 < i.units (estimate + 1) then estimate + 1
  else if 0 < i.units estimate then estimate
  else estimate - 1

/-- The grid point with unit `10 ^ t` that reads back, the nearer one if both neighbours of the
value do. -/
def onGrid? (i : Interval) (tie : Tie) (t : Int) : Option Digits :=
  let below := i.units t
  match i.contains below t, i.contains (below + 1) t with
  | false, false => none
  | true, false => some ⟨below, t⟩
  | false, true => some ⟨below + 1, t⟩
  | true, true =>
    let half := i.place (2 * below + 1) t
    let twice := 2 * i.value * half.2
    if twice < half.1 then some ⟨below, t⟩
    else if half.1 < twice then some ⟨below + 1, t⟩
    else some ⟨tie.settle below, t⟩

end Interval

/-- The same number without trailing zeros in its coefficient. -/
def Digits.trim : Nat → Digits → Digits
  | 0, d => d
  | fuel + 1, d =>
    if d.coefficient ≠ 0 ∧ d.coefficient % 10 = 0 then
      Digits.trim fuel ⟨d.coefficient / 10, d.exponent + 1⟩
    else d

/-- The fewest digits that read back as `m * 2 ^ q`, nearest to it. -/
def shortest (tie : Tie) (m : Nat) (q : Int) : Digits :=
  let i := Interval.around m q
  let first := i.lead ((m.log2 + q) * 1233 / 4096)
  let found := (List.range 17).findSome? fun n : Nat => i.onGrid? tie (first - n)
  (found.getD ⟨i.units (first - 16), first - 16⟩).trim 18

end TradeRun.Decimal
