/-!
What a double holds, read off its bits.

* `decode`: the sign, mantissa and exponent of a double;
* `bitsKey`, `orderKey`, `compareTotal`: the total order on doubles, in which `-0.0` stands below
  `0.0` and all bits have a place of their own;
* `floorInt`: the greatest whole number not above a double, held to the range of 64-bit integers;
* `floor`: the same as a double;
* `toSingle`: the nearest single, ties to the even neighbour.

All of them are exact integer arithmetic on the mantissa, so that they compute in proofs as they
do when run.
-/

namespace TradeRun.Binary

open Float.Model (UnpackedFloat Format)

/-- A double as a signed `mantissa * 2 ^ exponent`, a signed zero, a signed infinity or no number
at all. -/
def decode (x : Float) : UnpackedFloat :=
  UnpackedFloat.unpack Format.binary64 x.toBits.toBitVec

/-! ### The total order -/

/-- The place of the bits of a double in the total order: the bits for a positive sign, counted
downwards from `-1` for a negative one. -/
def bitsKey (bits : UInt64) : Int :=
  if bits.toNat < 0x8000000000000000 then (bits.toNat : Int)
  else 0x7FFFFFFFFFFFFFFF - (bits.toNat : Int)

/-- The place of a double in the total order. -/
def orderKey (x : Float) : Int := bitsKey x.toBits

/-- Comparison in the total order (`total_cmp`). -/
def compareTotal (x y : Float) : Ordering := compare (orderKey x) (orderKey y)

/-- Of two doubles the one that stands first in the total order, the left one on a tie. -/
def minTotal (x y : Float) : Float := if (compareTotal x y).isLE then x else y

/-! ### Whole numbers -/

/-- The least 64-bit integer. -/
def minInt64 : Int := -0x8000000000000000

/-- The greatest 64-bit integer. -/
def maxInt64 : Int := 0x7FFFFFFFFFFFFFFF

/-- The nearest 64-bit integer. -/
def clampInt64 (n : Int) : Int := max minInt64 (min maxInt64 n)

/-- The floor of `± mantissa * 2 ^ exponent`. -/
def floorOf (sign : UnpackedFloat.Sign) (mantissa : Nat) (exponent : Int) : Int :=
  let m := sign.apply mantissa
  if 0 ≤ exponent then m * (Nat.pow 2 exponent.toNat : Int)
  else m / (Nat.pow 2 (-exponent).toNat : Int)

/-- The greatest whole number not above a double. What lies beyond the 64-bit integers is held at
their ends, and no number counts as zero. -/
def floorInt (x : Float) : Int :=
  match decode x with
  | .notANumber => 0
  | .zero _ => 0
  | .infinity .positive => maxInt64
  | .infinity .negative => minInt64
  | .finite s m e _ => clampInt64 (floorOf s m e)

/-- The greatest whole number not above a double, as a double. Doubles of `2 ^ 52` and beyond are
whole already. -/
def floor (x : Float) : Float :=
  match decode x with
  | .finite s m e _ => if 0 ≤ e then x else Float.ofInt (floorOf s m e)
  | _ => x

/-! ### Singles -/

/-- The nearest single, of two equally near ones the even one. -/
def toSingle (x : Float) : Float32 :=
  match decode x with
  | .finite s m e _ =>
    Float32.ofBits ⟨(UnpackedFloat.round Format.binary32 s m e).pack Format.binary32⟩
  | other => Float32.ofBits ⟨other.pack Format.binary32⟩

end TradeRun.Binary
