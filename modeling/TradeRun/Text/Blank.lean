/-!
White space and the folding of ASCII letters.

* `isBlank`: the characters with the Unicode property White_Space;
* `trim`: a text without the blanks at its two ends;
* `foldAscii`, `equalAscii`: comparison of texts in which only `a` to `z` and `A` to `Z` are
  matched with one another.
-/

namespace TradeRun.Text

/-- The Unicode property White_Space. -/
def isBlank (c : Char) : Bool :=
  let n := c.toNat
  (0x9 ≤ n && n ≤ 0xD) || n == 0x20 || n == 0x85 || n == 0xA0 || n == 0x1680 ||
    (0x2000 ≤ n && n ≤ 0x200A) || n == 0x2028 || n == 0x2029 || n == 0x202F || n == 0x205F ||
    n == 0x3000

/-- A list of characters without the blanks at its two ends. -/
def trimBlanks (cs : List Char) : List Char :=
  ((cs.dropWhile isBlank).reverse.dropWhile isBlank).reverse

/-- A text without the blanks at its two ends. -/
def trim (s : String) : String := String.ofList (trimBlanks s.toList)

/-- Only ASCII letters have other capitals than themselves. -/
theorem toUpper_eq_self {c : Char} (h : 0x80 ≤ c.toNat) : c.toUpper = c := by
  refine dif_neg ?_
  rintro ⟨-, hlast⟩
  have hle : c.toNat ≤ 0x7A := UInt32.le_iff_toNat_le.1 hlast
  omega

/-- The letters `a` to `z` made capitals; all else stays. -/
def foldAscii (cs : List Char) : List Char := cs.map Char.toUpper

/-- Equality of texts up to the case of ASCII letters. -/
def equalAscii (s t : String) : Bool := foldAscii s.toList == foldAscii t.toList

end TradeRun.Text
