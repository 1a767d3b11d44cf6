import TradeRun.Report.Credits
import TradeRun.Route
import TradeRun.Text.Lines

/-!
Routes as text.

* `Route.title`: the two ends and the gain, on one line;
* `Route.digest`: a line for each hop, and totals;
* `Route.itinerary`: what to load, where to fly and what it earns, hop by hop. `Detail` says how
  much of it is told;
* `Route.balances`: the money after each hop; the last one is what the itinerary ends with.
-/

namespace TradeRun

/-- How much an itinerary tells (`DetailOptions`). -/
structure Detail where
  /-- With one, the jumps of each hop as well; with two, also the stations and the age of the
  data. -/
  verbosity : Nat := 0
  credits : CreditStyle := .grouped
deriving DecidableEq, Repr

/-- The letter for what is known about a black market. -/
def blackMarketCode : Option Bool → String
  | some true => "Y"
  | some false => "N"
  | none => "?"

/-- The distance from the star in whole light seconds, if it is known. -/
def Station.distanceText (s : Station) : String :=
  if 0 < s.starDistance then Decimal.fixed 0 s.starDistance else "?"

/-- What there is to know about a station before docking (`station_details`). -/
def Station.remark (s : Station) : String :=
  " (" ++ s.distanceText ++ "ls, BMk:" ++ blackMarketCode s.blackMarket ++ ", Pad:"
    ++ s.pad.code.toString ++ ")"

namespace Route

variable (r : Route) (g : Galaxy)

/-- The two ends of a route. -/
def ends : String := g.stationName r.origin ++ " -> " ++ g.stationName r.last

/-- The two ends of a route and its gain (`Route.descriptor`). -/
def title : String := r.ends g ++ " +" ++ r.gain.text .grouped

/-! ### Digest -/

/-- A count of jumps. -/
def jumpsText (jumps : Nat) : String :=
  Decimal.integer jumps ++ (if jumps = 1 then " jump" else " jumps")

/-- The line for a hop, numbered from zero. -/
def digestLine (hop : Nat) (leg : Leg) : String :=
  "  Hop " ++ Text.padLeft ' ' 4 (Decimal.integer (hop + 1 : Nat)) ++ ": +"
    ++ leg.gain.text .grouped ++ " to " ++ g.stationName leg.destination ++ " ("
    ++ jumpsText leg.jumps ++ ")"

/-- A line for each hop, and totals (`Route.summary`). -/
def digest : String :=
  let hops := r.legs.zipIdx.map fun (leg, hop) => digestLine g hop leg
  "\n".intercalate <|
    [r.ends g, "  Start CR: " ++ r.startCredits.text .grouped] ++ hops ++
    ["  Gain CR : " ++ r.gain.text .grouped ++ " (" ++ r.gainPerHop.text .grouped ++ "/hop)",
      "  Final CR: " ++ r.available.text .grouped]

/-! ### Itinerary -/

/-- The money after each of some hops. -/
def balancesFrom (start : Credits) : List Hop → List Credits
  | [] => []
  | hop :: hops => (start + hop.gain) :: balancesFrom (start + hop.gain) hops

/-- The money after each hop. -/
def balances : List Credits := balancesFrom r.startCredits r.hops

/-- A hop of a route: where it starts, what is flown, and the money after it. -/
structure Stage where
  source : StationId
  leg : Leg
  balance : Credits

/-- The hops of a route. -/
def stages : List Stage :=
  (r.stations.zip (r.legs.zip r.balances)).map fun (source, leg, balance) => ⟨source, leg, balance⟩

variable (d : Detail)

/-- A station's name, and what there is to know about it where that is told. -/
def stationText (id : StationId) : String :=
  g.stationName id ++ (if 2 ≤ d.verbosity then ((g.station? id).map Station.remark).getD "" else "")

/-- The line for a trade; names are filled up to a width. -/
def tradeLine (width : Nat) (t : Trade) : String :=
  "     " ++ Text.padLeft ' ' 4 (Decimal.integer t.quantity) ++ " x "
    ++ Text.padRight width (g.itemName t.item) ++ " "
    ++ Text.padLeft ' ' 12 (t.cost.text d.credits) ++ " each, +" ++ t.gain.text d.credits ++ "/unit"
    ++ (if 2 ≤ d.verbosity then
        ", " ++ Decimal.fixed 1 t.sourceAge ++ " vs " ++ Decimal.fixed 1 t.targetAge ++ " days"
      else "")

/-- The lines for the trades of a hop (`write_trades`). -/
def tradeLines (trades : List Trade) : List String :=
  trades.map (tradeLine g d (Text.widest (trades.map fun t => (g.itemName t.item).utf8ByteSize)))

/-- The line for the systems flown through. -/
def jumpLine (path : List SystemId) : String :=
  "  Jump " ++ " -> ".intercalate (path.map g.systemName)

/-- The line for what a hop earns. -/
def unloadLine (stage : Stage) : String :=
  let gain := stage.leg.gain
  let perTon : Credits := gain / .ofNat (max stage.leg.units 1)
  "  Unload at " ++ stationText g d stage.leg.destination ++ " => Gain " ++ gain.text d.credits
    ++ " (" ++ perTon.text d.credits ++ "/ton) => " ++ stage.balance.text d.credits

/-- The lines for a hop. -/
def stageLines (stage : Stage) : List String :=
  ("  Load from " ++ stationText g d stage.source ++ ":") :: tradeLines g d stage.leg.trades
    ++ (if 1 ≤ d.verbosity then [jumpLine g stage.leg.path] else []) ++ [unloadLine g d stage]

/-- The line for the whole route. -/
def finishLine : String :=
  "  Finish at " ++ g.stationName r.last ++ " gaining " ++ r.gain.text d.credits ++ " ("
    ++ r.gainPerHop.text d.credits ++ "/hop) => est " ++ r.available.text d.credits ++ " total"

/-- What to load, where to fly and what it earns (`Route.detail`). -/
def itinerary : String :=
  "\n".intercalate <|
    (r.title g ++ " (score: " ++ Decimal.fixed 2 r.score.toFloat ++ ")") ::
      r.stages.flatMap (stageLines g d) ++ ["  ----------", r.finishLine g d]

/-! ### Balances -/

end Route

end TradeRun
