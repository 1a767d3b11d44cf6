import TradeRun.Report.Itinerary
import TradeRun.Report.Palette
import TradeRun.Search.Run

/-!
Runs as text on a terminal.

* `HopReport.text`: the line that is shown when a hop begins;
* `RunResult.text`: the routes to be shown, after the words of caution.
-/

namespace TradeRun

/-- The line that is shown when a hop begins (`format_progress`). -/
def HopReport.text (r : HopReport) : String :=
  "* Hop " ++ Text.padLeft ' ' 3 (Decimal.integer r.hop) ++ ": "
    ++ Text.padLeft '.' 10 (Decimal.integer r.origins) ++ " origins"
    ++ (if 0 < r.pruned then " (" ++ Decimal.integer r.pruned ++ " pruned)" else "")

/-- How routes are shown (`RouteDisplay`). -/
structure Display where
  /-- A line for each hop in place of the itinerary. -/
  digest : Bool := false
  detail : Detail := {}
deriving DecidableEq, Repr

/-- A route as it is shown, ended by a line feed. -/
def Route.text (r : Route) (g : Galaxy) (display : Display) (p : Palette) : String :=
  if display.digest then r.digest g ++ "\n"
  else
    let (headline, rest) := Text.cutLine (r.itinerary g display.detail)
    p.paint Palette.headline headline ++ "\n" ++ rest ++ "\n"

namespace RunResult

variable (result : RunResult) (p : Palette)

/-- The words of caution, followed by an empty line. -/
def cautionText : String :=
  if result.caution = "" then ""
  else Text.unlines ((Text.lines result.caution).map (p.paint Palette.yellow) ++ [""])

/-- The line that tells that the goal is reached. -/
def goalText : String :=
  if result.goalReached then
    p.paint Palette.gray
      ("Goal system reached after " ++ Decimal.integer result.hopsCompleted ++ " hop(s).") ++ "\n"
  else ""

/-- The words of caution, the routes with empty lines between them, and the goal
(`render_run_text`). -/
def text (g : Galaxy) (display : Display) : String :=
  result.cautionText p
    ++ "\n".intercalate (result.displayed.map fun r => r.text g display p)
    ++ result.goalText p

end RunResult

end TradeRun
