import TradeRun.Search.Stops

/-!
The search for a run of several hops.

* `Charter.fly`: hop by hop the routes are pruned and extended, until all hops are flown, the goal
  is reached or no route can be extended;
* `Charter.search`: the routes that come of it, those that called at the most places to call at,
  the best one first, with words of caution where they fall short of the request;
* `plan`: the search for a request.

Each hop begins with a report, and reports are kept also when the search fails.
-/

namespace TradeRun

/-- What is reported at the start of a hop (`HopProgress`). -/
structure HopReport where
  /-- The number of the hop, from one. -/
  hop : Nat
  /-- How many routes are extended. -/
  origins : Nat
  /-- How many routes were dropped before. -/
  pruned : Nat
deriving DecidableEq, Repr

/-- How the flight of the hops ended. -/
inductive Ending
  /-- All hops are flown. -/
  | complete
  /-- The goal is reached. -/
  | goal
  /-- No route could be extended, under this restriction. -/
  | deadEnd (restriction : Option PlaceSet)

/-- The flight of the hops. -/
structure Voyage where
  reports : List HopReport
  routes : List Route
  /-- How many hops were flown. -/
  completed : Nat
  ending : Ending

/-- What the routes of a search fall short of. -/
inductive Caution
  /-- No route could be extended in a hop, numbered from one. -/
  | deadEnd (places : Option String) (hop : Nat)
  /-- No route called at more than so many places. -/
  | shortfall (matched : Nat)

/-- The text of a caution (`dead_end_caution`). -/
def Caution.message : Caution → String
  | deadEnd (some places) hop =>
    "SORRY: Could not find any routes that delivered a profit to " ++ places ++ " at hop #"
      ++ Decimal.integer hop ++ "\nYou may need to add more hops to your route."
  | deadEnd none hop =>
    "SORRY: Could not find routes beyond hop #" ++ Decimal.integer ((hop : Int) - 1)
  | shortfall matched =>
    "SORRY: No runs visited all of your via destinations. "
      ++ "Listing runs that matched at least " ++ Decimal.integer matched ++ "."

/-- The routes that a search found. -/
structure RunResult where
  /-- The routes, the best one first. -/
  routes : List Route
  /-- What the routes fall short of, a line each; empty when the request is met. -/
  caution : String
  goalReached : Bool
  hopsCompleted : Nat
  /-- How many routes are to be shown. -/
  displayLimit : Nat

/-- The routes to be shown. -/
def RunResult.displayed (r : RunResult) : List Route := r.routes.take r.displayLimit

/-- What a search reports and what comes of it. -/
structure Outcome where
  reports : List HopReport
  result : Except PlanError RunResult

/-- The names of places in words: a single name, the system that all of them lie in, or all names
with `or` before the last one (`describe_places`). -/
def PlaceSet.describe (set : PlaceSet) (g : Galaxy) : String :=
  match set.toList, (set.systemsIn g).toList with
  | [], _ => ""
  | [only], _ => only.nameIn g
  | _, [system] => g.systemName system
  | places, _ =>
    let names := places.map (·.nameIn g)
    ", ".intercalate names.dropLast ++ " or " ++ names.getLast?.getD ""

namespace Charter

variable (c : Charter) (g : Galaxy)

/-- The flight of so many hops more, from a hop numbered from zero on. -/
def fly : Nat → Nat → List Route → Voyage
  | 0, hop, routes => ⟨[], routes, hop, .complete⟩
  | left + 1, hop, routes =>
    let kept := c.beam.prune hop routes
    let report : HopReport := ⟨hop + 1, kept.length, c.beam.dropped hop routes⟩
    match c.bestHops g kept (c.restriction hop) with
    | [] => ⟨[report], kept, hop, .deadEnd (c.restriction hop)⟩
    | next =>
      let ordered := c.goalOrder g (Route.rank next)
      if c.reachesGoal g ordered then ⟨[report], ordered, hop + 1, .goal⟩
      else
        let voyage := fly left (hop + 1) ordered
        { voyage with reports := report :: voyage.reports }

/-- The caution for the way in which the flight ended. -/
def endCaution (v : Voyage) : List Caution :=
  match v.ending with
  | .deadEnd restriction => [.deadEnd (restriction.map (·.describe g)) (v.completed + 1)]
  | _ => []

/-- Whether the flight ended before its first hop. -/
def Voyage.isGrounded (v : Voyage) : Bool :=
  match v.ending with
  | .deadEnd _ => v.completed == 0
  | _ => false

/-- What comes of a flight. -/
def conclude (v : Voyage) : Except PlanError RunResult :=
  if Voyage.isGrounded v then .error (.noTrades .nothingMatches)
  else do
    let covered ← keepCoverage c.via g c.viaStart v.routes
    let cautions := endCaution g v ++ covered.shortfall.toList.map Caution.shortfall
    return {
      routes := Route.rank covered.routes
      caution := "\n".intercalate (cautions.map Caution.message)
      goalReached := v.ending matches .goal
      hopsCompleted := v.completed
      displayLimit := c.routes }

/-- The search for the routes of a charter. -/
def search : Outcome :=
  match c.seeds g with
  | .error e => ⟨[], .error e⟩
  | .ok seeds =>
    let voyage := c.fly g c.hops 0 seeds
    ⟨voyage.reports, c.conclude g voyage⟩

end Charter

/-- The search for the routes of a request (`plan_run_with_progress`). -/
def plan (g : Galaxy) (r : Request) : Outcome :=
  if g.tradingCount = 0 then ⟨[], .error (.noTrades .nothingTrades)⟩
  else
    match Charter.draw g r with
    | .error e => ⟨[], .error e⟩
    | .ok c => c.search g

end TradeRun
