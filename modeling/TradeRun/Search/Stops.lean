import TradeRun.Search.Hop

/-!
The ends and the stops of a run.

* `Charter.seeds`: the routes that have not left yet, one for each origin at which the ship can
  dock;
* `PlaceSet.coverage`: how many of the places to call at a route has called at;
* `keepCoverage`: the routes with the greatest coverage, which must not be nothing;
* `Route.reaches`, `goalFirst`: the routes that end in the goal, put first;
* `Charter.restriction`: the places at which a hop must end, if it is not free to choose.
-/

namespace TradeRun

/-- The routes that have not left yet (`seed_routes`). -/
def Charter.seeds (c : Charter) (g : Galaxy) : Except PlanError (List Route) :=
  let docks := (c.origins.filterMap g.station?).filter fun s =>
    !c.avoid.matches s && c.filter.acceptsPad s
  if docks.isEmpty then
    if g.stations.toList.all fun s => s.itemCount == 0 then .error (.noData .unpricedGalaxy)
    else .error (.noData .noStation)
  else .ok (docks.map fun s => Route.seed s.id c.startCredits)

/-! ### Places to call at -/

/-- How many places of the set a route has called at from a given stop on (`via_coverage`). -/
def PlaceSet.coverage (via : PlaceSet) (g : Galaxy) (start : Nat) (r : Route) : Nat :=
  let called := (r.stations.drop start).filterMap g.station?
  via.toList.countP fun place => called.any place.covers

/-- The greatest coverage of some routes. -/
def greatestCoverage (via : PlaceSet) (g : Galaxy) (start : Nat) (routes : List Route) : Nat :=
  (routes.map (via.coverage g start)).foldl max 0

/-- Routes, and how many places they called at where not all were. -/
structure Covered where
  routes : List Route
  shortfall : Option Nat := none

/-- The routes that called at the most places (`filter_by_via`). -/
def keepCoverage (via : PlaceSet) (g : Galaxy) (start : Nat) (routes : List Route) :
    Except PlanError Covered :=
  if via.isEmpty then .ok ⟨routes, none⟩
  else
    let greatest := greatestCoverage via g start routes
    if greatest = 0 then .error .noViaMatch
    else
      .ok
        { routes := routes.filter fun r => via.coverage g start r == greatest
          shortfall := if greatest < via.size then some greatest else none }

/-! ### The goal -/

/-- Whether a route ends in a system (`reaches_goal`). -/
def Route.reaches (r : Route) (g : Galaxy) (goal : SystemId) : Bool :=
  (g.station? r.last).any fun s => s.system == goal

/-- The routes that end in a system before the others, each kind in its order (`goal_first`). -/
def goalFirst (g : Galaxy) (goal : SystemId) (routes : List Route) : List Route :=
  routes.filter (·.reaches g goal) ++ routes.filter (!·.reaches g goal)

/-! ### Restrictions -/

namespace Charter

variable (c : Charter)

/-- Whether there are more places to call at than hops that are free to choose. -/
def viaRestricts : Bool := !c.via.isEmpty && c.freeHops < c.via.size

/-- The places at which a hop, numbered from zero, must end. -/
def restriction (hop : Nat) : Option PlaceSet :=
  let fallback := if c.viaRestricts then some c.via else none
  match c.destinations with
  | some destinations => if hop + 1 = c.hops then some destinations else fallback
  | none => fallback

/-- The stop from which on calls count: the first one after a named origin. -/
def viaStart : Nat := c.origin.isSome.toNat

/-- The routes with those that end in the goal first, if there is one. -/
def goalOrder (g : Galaxy) (routes : List Route) : List Route :=
  match c.goal with
  | some goal => goalFirst g goal routes
  | none => routes

/-- Whether the first route ends in the goal. -/
def reachesGoal (g : Galaxy) (routes : List Route) : Bool :=
  c.goal.any fun goal => routes.head?.any (·.reaches g goal)

end Charter

end TradeRun
