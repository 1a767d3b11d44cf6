import TradeRun.Cargo.Fit
import TradeRun.Charter

/-!
One hop: every route is extended by its most profitable legs.

* `Charter.landings`: the stations that a hop can end at, each with a path of fewest jumps. With a
  goal only systems closer to it than the start, or the goal itself, will do;
* `Charter.starFactor`: how much a gain counts at a distance from the star;
* `Charter.candidates`: the legs of all routes, in the order of the routes;
* `Charter.bestHops`: for each station the best candidate that ends there, in ascending order of
  the stations. Of candidates with equal scores the first one stays.
-/

namespace TradeRun

/-- A station at which a hop can end (`Destination`). -/
structure Landing where
  station : Station
  /-- The systems flown through, the first and the last one included. -/
  path : List SystemId

/-- A leg that a route could fly next. -/
structure Candidate where
  route : Route
  landing : Landing
  load : Load
  /-- What the leg adds to the score. -/
  legScore : Figure

namespace Candidate

/-- The score of the route with the leg. -/
def score (c : Candidate) : Figure := c.route.score + c.legScore

/-- The station at which the leg ends. -/
def destination (c : Candidate) : StationId := c.landing.station.id

/-- The route with the leg. -/
def extended (c : Candidate) : Route :=
  c.route.extend ⟨c.destination, .ofTrades c.load.trades, c.landing.path⟩ c.legScore

end Candidate

namespace Charter

variable (c : Charter) (g : Galaxy)

/-- The galaxy as the laden ship sees it. -/
def space : Space := ⟨g, c.ladenRange, c.avoid⟩

/-- Whether a hop from one system to another leads to the goal or closer to it. -/
def approaches (source target : SystemId) : Bool :=
  match c.goal with
  | none => true
  | some goal =>
    match g.distance? source goal with
    | none => true
    | some distance => target == goal || (g.distance? target goal).any (· < distance)

/-- Whether a hop from a station may end at another one. -/
def lands (source : Station) (restriction : Option PlaceSet) (target : Station) : Bool :=
  target.id != source.id && c.filter.isEligible target && !c.avoid.matches target
    && restriction.all (·.matches target)

/-- The stations at which a hop from a station can end, by ascending numbers of jumps
(`TradeCalc.destinations`). -/
def landings (source : Station) (restriction : Option PlaceSet) : List Landing :=
  let arrivals := (c.space g).explore c.jumpsPerHop [source.system]
  (arrivals.filter fun a => c.approaches g source.system a.system).flatMap fun a =>
    ((g.stationsIn a.system).filter (c.lands source restriction)).map fun s => ⟨s, a.path⟩

/-- The best load from one station to another (`TradeCalc.load_between`). -/
def load? (source target : StationId) (credits : Credits) : Option Load :=
  let deals := (g.deals source target).filter fun deal => !c.avoidItems.contains deal.item
  Cargo.fit? (discount deals c.margin c.minGain) ⟨c.capacity, c.unitLimit, credits⟩

/-- The share of a gain that counts at a distance from the star, in light seconds: all of it below a
thousand, and ever less beyond, down to nothing (`TradeCalc.ls_multiplier`). -/
def starFactor (distance : Float) : Figure :=
  if c.starPenalty.toFloat ≤ 0 || distance ≤ 0 then .double 1.0
  else
    let thousands := Figure.double (Binary.floor (distance / 100.0) / 10.0)
    let penalty :=
      (thousands * thousands - thousands) / .double 3.0 * (c.starPenalty / .double 100.0)
    let share := .double 1.0 - penalty
    if share.toFloat < 0 then .double 0.0 else if 1 < share.toFloat then .double 1.0 else share

/-- The leg of a route to a landing, if it may be flown and earns something. -/
def candidate? (r : Route) (landing : Landing) : Option Candidate :=
  if c.unique && r.stations.contains landing.station.id then none
  else
    (c.load? g r.last landing.station.id r.available).map fun load =>
      { route := r, landing, load
        legScore :=
          .double (Float.ofInt load.gain.toInt) * c.starFactor landing.station.starDistance }

/-- The legs that a route could fly next. -/
def candidatesOf (restriction : Option PlaceSet) (r : Route) : List Candidate :=
  match g.station? r.last with
  | some source => (c.landings g source restriction).filterMap (c.candidate? g r)
  | none => []

/-- The legs that the routes could fly next, route by route. -/
def candidates (routes : List Route) (restriction : Option PlaceSet) : List Candidate :=
  routes.flatMap (c.candidatesOf g restriction)

/-- The best candidates so far by their stations. -/
abbrev Selection := Std.ExtTreeMap StationId Candidate

/-- Puts a candidate in the place of a worse one. -/
def keepBetter (best : Selection) (candidate : Candidate) : Selection :=
  match best[candidate.destination]? with
  | some current =>
    if candidate.score.toFloat ≤ current.score.toFloat then best
    else best.insert candidate.destination candidate
  | none => best.insert candidate.destination candidate

/-- The routes with their most profitable next legs, one for each station
(`TradeCalc.best_hops`). -/
def bestHops (routes : List Route) (restriction : Option PlaceSet) : List Route :=
  ((c.candidates g routes restriction).foldl keepBetter ∅).toList.map fun (_, best) =>
    best.extended

end Charter

end TradeRun
