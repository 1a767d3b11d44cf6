/-!
Hexadecimal digits.

* `hexDigit`: the digit of a number below sixteen;
* `hexValue?`: the number of a digit, small or capital.
-/

namespace TradeRun.Text

/-- The hexadecimal digit of a number below sixteen. -/
def hexDigit (n : Nat) : Char := "0123456789abcdef".toList.getD n '0'

/-- The value of a hexadecimal digit. -/
def hexValue? (c : Char) : Option Nat := "0123456789abcdef".toList.idxOf? c.toLower

end TradeRun.Text
