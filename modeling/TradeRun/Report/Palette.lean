import TradeRun.Environment
import TradeRun.Text.Blank

/-!
Colours of texts on a terminal.

* `Palette`: the codes that begin a colour, and the one that ends it;
* `Palette.ansi`, `Palette.plain`: with colours and without;
* `Palette.detect`: colours unless `NO_COLOR` is set or the terminal is a dumb one.
-/

namespace TradeRun

/-- The codes written before and after coloured text (`ColorPalette`). -/
structure Palette where
  reset : String
  headline : String
  gray : String
  green : String
  yellow : String
  red : String
deriving DecidableEq, Repr

namespace Palette

/-- The sequence that selects a way of display. -/
def code (display : String) : String := "\x1b[" ++ display ++ "m"

/-- The colours of a terminal. -/
def ansi : Palette where
  reset := code "0"
  headline := code "1;97"
  gray := code "90"
  green := code "32"
  yellow := code "33"
  red := code "31"

/-- No colours. -/
def plain : Palette := ⟨"", "", "", "", "", ""⟩

/-- Whether colours are wanted and can be shown (`supports_color`). -/
def isSupported (env : Environment) : Bool :=
  env.noColor.isNone && !env.terminal.any (Text.equalAscii "dumb")

/-- The palette for an environment. -/
def detect (env : Environment) : Palette := if isSupported env then ansi else plain

/-- A text in a colour of the palette. -/
def paint (p : Palette) (color : Palette → String) (s : String) : String := color p ++ s ++ p.reset

end Palette

end TradeRun
