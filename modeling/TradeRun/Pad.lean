import TradeRun.Text.Blank

/-!
Landing pads.

* `PadSize`: the largest pad of a station, with its one-letter code;
* `PadSizes`: a set of pad sizes that a ship accepts, written as a string of codes;
* `PadSizes.parse`: reads such a string; blanks are skipped and letters count in either case;
* `PadSizes.text`: writes a set in the order `SML?`.
-/

namespace TradeRun

/-- The largest landing pad of a station. -/
inductive PadSize
  | small
  | medium
  | large
  | unknown
deriving DecidableEq, Repr

namespace PadSize

/-- All sizes, in the order in which they are written. -/
def all : List PadSize := [small, medium, large, unknown]

/-- The code of a size. -/
def code : PadSize → Char
  | small => 'S'
  | medium => 'M'
  | large => 'L'
  | unknown => '?'

/-- The size of a code, in either case of its letter (`PadSize.from_code`). -/
def ofCode? (c : Char) : Option PadSize := all.find? fun size => size.code == c.toUpper

/-- The name of a size. -/
def label : PadSize → String
  | small => "Small"
  | medium => "Medium"
  | large => "Large"
  | unknown => "Unknown"

end PadSize

/-- A set of pad sizes. -/
structure PadSizes where
  small : Bool := false
  medium : Bool := false
  large : Bool := false
  unknown : Bool := false
deriving DecidableEq, Repr

/-- Why a string of codes is no set of pad sizes. -/
inductive PadFault
  /-- A character of the string is no code. -/
  | unknownCode (code : Char) (codes : String)
  /-- The string holds blanks only. -/
  | empty
deriving DecidableEq, Repr

namespace PadFault

/-- The text of a fault. -/
def message : PadFault → String
  | unknownCode code codes =>
    "invalid pad size '" ++ code.toString ++ "' in '" ++ codes
      ++ "'; expected any of S, M, L or ?"
  | empty => "pad size requirement is empty"

end PadFault

namespace PadSizes

/-- Whether a size belongs to the set. -/
def accepts (sizes : PadSizes) : PadSize → Bool
  | .small => sizes.small
  | .medium => sizes.medium
  | .large => sizes.large
  | .unknown => sizes.unknown

/-- The set with one more size. -/
def insert (sizes : PadSizes) : PadSize → PadSizes
  | .small => { sizes with small := true }
  | .medium => { sizes with medium := true }
  | .large => { sizes with large := true }
  | .unknown => { sizes with unknown := true }

/-- The sizes of the set, in the order in which they are written. -/
def toList (sizes : PadSizes) : List PadSize := PadSize.all.filter sizes.accepts

/-- The codes of the set. -/
def text (sizes : PadSizes) : String := String.ofList (sizes.toList.map PadSize.code)

/-- The set with the size of one more code of a string. -/
def insertCode (codes : String) (sizes : PadSizes) (code : Char) : Except PadFault PadSizes :=
  match PadSize.ofCode? code with
  | some size => .ok (sizes.insert size)
  | none => .error (.unknownCode code codes)

/-- Reads a string of codes into a set. -/
def parse (codes : String) : Except PadFault PadSizes := do
  let sizes ← (codes.toList.filter (!Text.isBlank ·)).foldlM (insertCode codes) {}
  if sizes = {} then .error .empty else .ok sizes

@[simp]
theorem accepts_insert (sizes : PadSizes) (s t : PadSize) :
    (sizes.insert s).accepts t = (decide (t = s) || sizes.accepts t) := by
  cases s <;> cases t <;> rfl

end PadSizes

end TradeRun
