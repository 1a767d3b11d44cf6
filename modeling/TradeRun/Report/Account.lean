import TradeRun.Json.Basic
import TradeRun.Search.Run

/-!
Accounts of runs: what was found, with all names written out.

* `RouteAccount.of`: the account of a route and its rank;
* `RunAccount.of`: the account of the routes to be shown;
* `RouteAccount.json`, `RunAccount.json`: accounts as JSON records.
-/

namespace TradeRun

/-- A station on a route (`StopSummary`). -/
structure Stop where
  id : StationId
  name : String
  system : String
deriving DecidableEq, Repr

/-- A trade with the name of its item (`TradeSummary`). -/
structure TradeEntry where
  item : String
  trade : Trade

/-- A hop of a route (`HopSummary`). -/
structure HopEntry where
  source : String
  target : String
  /-- The systems flown through. -/
  jumps : List String
  units : Nat
  cost : Credits
  gain : Credits
  trades : List TradeEntry

/-- The account of a route (`RouteSummary`). -/
structure RouteAccount where
  rank : Nat
  stops : List Stop
  hops : List HopEntry
  startCredits : Credits
  gain : Credits
  finalCredits : Credits
  score : Float
  jumps : Nat

/-- The account of a run (`RunSummary`). -/
structure RunAccount where
  caution : Option String
  goalReached : Bool
  hopsCompleted : Nat
  routes : List RouteAccount

/-! ### Drawing up -/

/-- A stop at a station; nothing but the number is told of one that is not there. -/
def Stop.of (g : Galaxy) (id : StationId) : Stop :=
  match g.station? id with
  | some s => ⟨id, s.name, g.systemName s.system⟩
  | none => ⟨id, "", ""⟩

/-- A leg flown from a station. -/
def HopEntry.of (g : Galaxy) (source : StationId) (leg : Leg) : HopEntry where
  source := g.stationName source
  target := g.stationName leg.destination
  jumps := leg.path.map g.systemName
  units := leg.units
  cost := leg.cost
  gain := leg.gain
  trades := leg.trades.map fun t => ⟨g.itemName t.item, t⟩

/-- The account of a route (`RouteSummary.from_route`). -/
def RouteAccount.of (g : Galaxy) (rank : Nat) (r : Route) : RouteAccount where
  rank
  stops := r.stations.map (Stop.of g)
  hops := r.stations.zipWith (HopEntry.of g) r.legs
  startCredits := r.startCredits
  gain := r.gain
  finalCredits := r.available
  score := r.score.toFloat
  jumps := r.totalJumps

/-- The account of the routes of a result that are to be shown (`RunSummary.from_result`). -/
def RunAccount.of (g : Galaxy) (result : RunResult) : RunAccount where
  caution := if result.caution = "" then none else some result.caution
  goalReached := result.goalReached
  hopsCompleted := result.hopsCompleted
  routes := result.displayed.mapIdx fun index r => RouteAccount.of g (index + 1) r

/-! ### JSON -/

/-- A stop as JSON. -/
def Stop.json (s : Stop) : Json :=
  .record [("id", .integer s.id), ("name", .text s.name), ("system", .text s.system)]

/-- A trade as JSON. -/
def TradeEntry.json (e : TradeEntry) : Json :=
  .record
    [ ("item_id", .integer e.trade.item),
      ("item", .text e.item),
      ("quantity", .integer e.trade.quantity),
      ("cost_cr", .integer e.trade.cost.toInt),
      ("gain_cr", .integer e.trade.gain.toInt),
      ("src_age_days", .real e.trade.sourceAge),
      ("dst_age_days", .real e.trade.targetAge) ]

/-- A hop as JSON. -/
def HopEntry.json (h : HopEntry) : Json :=
  .record
    [ ("from", .text h.source),
      ("to", .text h.target),
      ("jumps", .list (h.jumps.map .text)),
      ("units", .integer h.units),
      ("cost_cr", .integer h.cost.toInt),
      ("gain_cr", .integer h.gain.toInt),
      ("trades", .list (h.trades.map TradeEntry.json)) ]

/-- The account of a route as JSON. -/
def RouteAccount.json (a : RouteAccount) : Json :=
  .record
    [ ("rank", .integer a.rank),
      ("stations", .list (a.stops.map Stop.json)),
      ("hops", .list (a.hops.map HopEntry.json)),
      ("start_cr", .integer a.startCredits.toInt),
      ("gain_cr", .integer a.gain.toInt),
      ("final_cr", .integer a.finalCredits.toInt),
      ("score", .real a.score),
      ("jumps", .integer a.jumps) ]

/-- The account of a run as JSON, without the caution if there is none. -/
def RunAccount.json (a : RunAccount) : Json :=
  .record <|
    (a.caution.toList.map fun c => ("caution", Json.text c)) ++
    [ ("goal_reached", .bool a.goalReached),
      ("hops_completed", .integer a.hopsCompleted),
      ("routes", .list (a.routes.map RouteAccount.json)) ]

end TradeRun
