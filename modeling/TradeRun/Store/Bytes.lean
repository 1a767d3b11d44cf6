/-!
Numbers and texts in a sequence of bytes.

* `number?`, `signed?`: whole numbers of some bytes, the most significant one first;
* `varint?`: whole numbers of one to nine bytes, in which the first eight give seven bits each and
  tell by the eighth bit that another byte follows;
* `Encoding.decode?`: texts of Unicode characters in units of 8 or 16 bits.
-/

namespace TradeRun.Bytes

/-- The byte at a place. -/
def byte? (bytes : ByteArray) (place : Nat) : Option Nat := bytes[place]?.map UInt8.toNat

/-- The whole number of some bytes from a place on, continuing another one. -/
def numberFrom? (bytes : ByteArray) : Nat → Nat → Nat → Option Nat
  | 0, _, n => some n
  | left + 1, place, n =>
    (byte? bytes place).bind fun b => numberFrom? bytes left (place + 1) (256 * n + b)

/-- The whole number of some bytes from a place on. -/
def number? (bytes : ByteArray) (place width : Nat) : Option Nat :=
  numberFrom? bytes width place 0

/-- The number below zero that is meant when the first of so many bits is set. -/
def withSign (bits n : Nat) : Int := Int.bmod n (Nat.pow 2 bits)

/-- The whole number with sign of some bytes from a place on. -/
def signed? (bytes : ByteArray) (place width : Nat) : Option Int :=
  (number? bytes place width).map (withSign (8 * width))

/-- The number of at most so many bytes of seven bits and one of eight, continuing another one, and
the place after it. -/
def varintFrom? (bytes : ByteArray) : Nat → Nat → Nat → Option (Nat × Nat)
  | 0, place, n => (byte? bytes place).map fun b => (256 * n + b, place + 1)
  | left + 1, place, n =>
    (byte? bytes place).bind fun b =>
      if b < 128 then some (128 * n + b, place + 1)
      else varintFrom? bytes left (place + 1) (128 * n + (b - 128))

/-- The number of one to nine bytes at a place, and the place after it. -/
def varint? (bytes : ByteArray) (place : Nat) : Option (Nat × Nat) := varintFrom? bytes 8 place 0

/-- How texts are stored. -/
inductive Encoding
  | utf8
  | utf16 (mostSignificantFirst : Bool)
deriving DecidableEq, Repr

/-- The characters of units of 16 bits, in which a high and a low surrogate stand for one. -/
def charsOfUnits? : List Nat → Option (List Char)
  | [] => some []
  | high :: low :: units =>
    if 0xD800 ≤ high ∧ high < 0xDC00 ∧ 0xDC00 ≤ low ∧ low < 0xE000 then
      (charsOfUnits? units).map
        (Char.ofNat (0x10000 + (high - 0xD800) * 0x400 + (low - 0xDC00)) :: ·)
    else if 0xD800 ≤ high ∧ high < 0xE000 then none
    else (charsOfUnits? (low :: units)).map (Char.ofNat high :: ·)
  | [unit] => if 0xD800 ≤ unit ∧ unit < 0xE000 then none else some [Char.ofNat unit]

/-- The units of 16 bits of some bytes. -/
def unitsOf (mostSignificantFirst : Bool) : List UInt8 → List Nat
  | a :: b :: bytes =>
    (if mostSignificantFirst then 256 * a.toNat + b.toNat else 256 * b.toNat + a.toNat)
      :: unitsOf mostSignificantFirst bytes
  | _ => []

/-- The text of some bytes. -/
def Encoding.decode? (e : Encoding) (bytes : ByteArray) : Option String :=
  match e with
  | utf8 => String.fromUTF8? bytes
  | utf16 first => (charsOfUnits? (unitsOf first bytes.toList)).map String.ofList

end TradeRun.Bytes
