import TradeRun.Decimal.Binary
import TradeRun.Decimal.Reading

/-!
Figures: doubles with all their bits.

* `Figure`: the bits of a double. A double that is no number has many of them, which tell in the
  total order;
* `Figure.missing`: the result of an operation that has none, such as `∞ - ∞` and `0 * ∞`;
* `Figure.combine`: an operation on doubles carried over to figures. What is no number is kept, with
  the bit set that marks it as quiet; of two such figures the left one is kept, in a sum the right
  one;
* `Figure.compareTotal`: the total order on figures (`total_cmp`). What is no number stands above
  all numbers, or with the sign set below them; so does a missing result.
-/

namespace TradeRun

/-- A double, by its bits. -/
structure Figure where
  bits : UInt64
deriving DecidableEq

namespace Figure

/-- The figure of a double. -/
def double (x : Float) : Figure := ⟨x.toBits⟩

/-- The double of a figure. -/
def toFloat (a : Figure) : Float := Float.ofBits a.bits

/-- The result of an operation that has none: no number, with the sign set. -/
def missing : Figure := ⟨0xFFF8000000000000⟩

/-- A figure that is no number, marked as quiet. -/
def quieted (a : Figure) : Figure := ⟨a.bits ||| 0x0008000000000000⟩

/-- The figure of an operation on two doubles. -/
def combine (op : Float → Float → Float) (a b : Figure) : Figure :=
  if a.toFloat.isNaN then a.quieted
  else if b.toFloat.isNaN then b.quieted
  else if (op a.toFloat b.toFloat).isNaN then missing
  else double (op a.toFloat b.toFloat)

instance : Add Figure := ⟨fun a b => combine (· + ·) b a⟩

instance : Sub Figure := ⟨combine (· - ·)⟩

instance : Mul Figure := ⟨combine (· * ·)⟩

instance : Div Figure := ⟨combine (· / ·)⟩

/-! ### The total order -/

/-- The place of a figure in the total order. -/
def orderKey (a : Figure) : Int := Binary.bitsKey a.bits

/-- Comparison in the total order. -/
def compareTotal (a b : Figure) : Ordering := compare a.orderKey b.orderKey

/-! ### Reading -/

/-- A decimal number or a word for a number without digits; `-nan` has the sign set. -/
def read? (s : String) : Option Figure :=
  if Text.equalAscii s "-nan" then some missing else (Decimal.readFloat? s).map double

end Figure

end TradeRun
