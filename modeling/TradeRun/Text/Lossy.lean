/-!
Bytes shown as text.

* `Text.ofBytes`: the text that bytes stand for. Where they stand for no character it has the mark
  `replacement`, once for each byte that begins no character and once for each beginning that is not
  continued.

A character takes one to four bytes. The first byte tells how many follow, and what the next one may
be; those after it are `0x80` to `0xBF`.
-/

namespace TradeRun.Text

/-- The mark for what is no character. -/
def replacement : Char := '\uFFFD'

/-- The least and the greatest byte that may come next. -/
abbrev Bounds := Nat × Nat

/-- A character under way: its number so far, and the bounds of the bytes still to come. -/
structure Unfinished where
  number : Nat
  bounds : List Bounds

namespace Unfinished

/-- The bounds of a byte that goes on with a character. -/
def anyNext : Bounds := (0x80, 0xBF)

/-- The character of several bytes that a byte begins. -/
def ofFirst? (b : Nat) : Option Unfinished :=
  if b < 0xC2 then none
  else if b < 0xE0 then some ⟨b - 0xC0, [anyNext]⟩
  else if b = 0xE0 then some ⟨0x0, [(0xA0, 0xBF), anyNext]⟩
  else if b = 0xED then some ⟨0xD, [(0x80, 0x9F), anyNext]⟩
  else if b < 0xF0 then some ⟨b - 0xE0, [anyNext, anyNext]⟩
  else if b = 0xF0 then some ⟨0x0, [(0x90, 0xBF), anyNext, anyNext]⟩
  else if b < 0xF4 then some ⟨b - 0xF0, [anyNext, anyNext, anyNext]⟩
  else if b = 0xF4 then some ⟨0x4, [(0x80, 0x8F), anyNext, anyNext]⟩
  else none

end Unfinished

/-- The characters that are finished by a byte where one begins, and the one under way after it. -/
def firstByte (b : Nat) : List Char × Option Unfinished :=
  if b < 0x80 then ([Char.ofNat b], none)
  else
    match Unfinished.ofFirst? b with
    | some u => ([], some u)
    | none => ([replacement], none)

/-- The characters that are finished by a byte, and the one under way after it. -/
def nextByte (u : Option Unfinished) (b : Nat) : List Char × Option Unfinished :=
  match u with
  | none | some ⟨_, []⟩ => firstByte b
  | some ⟨number, (least, greatest) :: bounds⟩ =>
    if least ≤ b ∧ b ≤ greatest then
      let number := 64 * number + (b - 0x80)
      if bounds.isEmpty then ([Char.ofNat number], none) else ([], some ⟨number, bounds⟩)
    else
      let (finished, next) := firstByte b
      (replacement :: finished, next)

/-- The characters of bytes that go on with what is under way. -/
def charsFrom (u : Option Unfinished) : List UInt8 → List Char
  | [] => if u.isSome then [replacement] else []
  | b :: bytes =>
    let (finished, next) := nextByte u b.toNat
    finished ++ charsFrom next bytes

/-- The text that bytes stand for. -/
def ofBytes (bytes : List UInt8) : String := String.ofList (charsFrom none bytes)

end TradeRun.Text
