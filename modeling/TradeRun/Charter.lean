import TradeRun.Beam
import TradeRun.Galaxy.Directory
import TradeRun.Request
import TradeRun.Surroundings

/-!
Charters: requests made precise.

* `Charter`: what a search needs to know, with every name resolved and every number checked;
* `Numbers`: the numbers of a request after their checks (`Request.numbers`);
* `Charter.draw`: the charter of a request, or the first error in a fixed order: the numbers, the
  pad sizes, the list of what to avoid, the origin (`drawOrigin`), the destination
  (`drawDestination`), the goal (`drawGoal`), equal ends, the stops on the way (`checkAvoided`,
  `checkAnchors`, `checkStops`) and at last what speaks against calling nowhere twice
  (`checkUnique`).
-/

namespace TradeRun

/-- Money beyond the credits that insurance may not reach (`MIN_TRADE_CREDITS`). -/
def tradeReserve : Credits := 42

/-- What a search needs to know (`SearchConfig`). -/
structure Charter where
  /-- The hold space in units. -/
  capacity : Nat
  /-- The most units of any one item. -/
  unitLimit : Nat
  credits : Credits
  insurance : Credits
  /-- The range of a jump with a full hold. -/
  ladenRange : Float
  /-- The range of a jump around the ends of the run. -/
  emptyRange : Float
  jumpsPerHop : Nat
  hops : Nat
  /-- The least gain on a unit. -/
  minGain : Credits
  margin : Float
  starPenalty : Figure
  filter : StationFilter
  unique : Bool
  /-- The place named for the origin. -/
  origin : Option Place
  /-- The place named for the destination. -/
  destination : Option Place
  /-- The stations at which the run may start. -/
  origins : List StationId
  /-- The stations at which the run must end. -/
  destinations : Option PlaceSet
  via : PlaceSet
  avoid : PlaceSet
  avoidItems : Std.ExtTreeSet ItemId
  goal : Option SystemId
  beam : Beam
  /-- How many routes are shown. -/
  routes : Nat
  /-- The hops whose end the search is free to choose. -/
  freeHops : Nat

/-- The money for the first purchase (`SearchConfig.start_cr`). -/
def Charter.startCredits (c : Charter) : Credits := c.credits - c.insurance

/-! ### Numbers -/

/-- The numbers of a request after their checks (`Scalars`). -/
structure Numbers where
  capacity : Nat
  unitLimit : Nat
  ladenRange : Float
  emptyRange : Float
  jumpsPerHop : Nat
  hops : Nat
  startJumps : Nat
  endJumps : Nat
  routes : Nat
  beam : Beam

/-- Fails with a fault when it is there. -/
def refuse (fault : OptionFault) (present : Bool) : Except PlanError Unit :=
  if present then .error (.option fault) else .ok ()

/-- The value of an option that every run needs. -/
def needed {α : Type} (option : RequiredOption) : Option α → Except PlanError α
  | some a => .ok a
  | none => .error (.missingOption option)

/-- Whether a range is no number of light years. -/
def isNoRange (range : Float) : Bool := !range.isFinite || range < 0

namespace Request

variable (r : Request)

/-- The range around the ends of the run: that of the option if it is given and not zero, else the
laden range. -/
def emptyRangeOr (laden : Float) : Float :=
  match r.emptyRange with
  | some range => if 0 < range then range else laden
  | none => laden

/-- The most units of any one item: that of the option if it is given and not zero, else what the
hold takes. -/
def unitLimitOr (capacity : Int) : Int :=
  match r.unitLimit with
  | some limit => if 0 < limit then limit else capacity
  | none => capacity

/-- The hold space, checked. -/
def checkedCapacity : Except PlanError Int := do
  let capacity ← needed .capacity r.capacity
  refuse .negativeCapacity (capacity < 0)
  refuse .capacityTooLarge (maxCapacity < capacity)
  return capacity

/-- The laden range, checked. -/
def checkedRange : Except PlanError Float := do
  let range ← needed .ladenRange r.ladenRange
  refuse .ladenRange (isNoRange range)
  refuse .emptyRange (r.emptyRange.any isNoRange)
  return range

/-- Checks what concerns money and gains. -/
def checkMoney : Except PlanError Unit := do
  refuse .negativeInsurance (r.insurance < 0)
  refuse .insuranceTooHigh (0 < r.insurance && r.credits + tradeReserve ≤ r.insurance)
  refuse .marginOutOfRange (!(0 ≤ r.margin && r.margin ≤ maxMargin))
  refuse .negativeStarPenalty (r.starPenalty.toFloat < 0)
  refuse .negativeMaxStarDistance (r.maxStarDistance.any (· < 0))
  refuse .negativeMaxAge (r.maxAge.any (· < 0))

/-- Checks what concerns the ends of the run. -/
def checkEnds : Except PlanError Unit := do
  refuse .negativeEndJumps (r.startJumps < 0 || r.endJumps < 0)
  refuse .startJumpsWithoutOrigin (0 < r.startJumps && r.origin.isNone)
  refuse .endJumpsWithoutDestination (0 < r.endJumps && r.destination.isNone)
  refuse .goalWithDestination (r.goal.isSome && r.destination.isSome)
  refuse .goalWithoutOrigin (r.goal.isSome && r.origin.isNone)

/-- Whether routes are dropped by their scores. -/
def prunesByScore : Bool := 0 < r.pruneScore && 0 < r.pruneHops

/-- The two policies for following up routes, checked (`Scalars.beam_policy`). -/
def checkedBeam : Except PlanError Beam := do
  refuse .noRoutesKept (r.maxRoutes == some 0)
  refuse .negativePruneScore (r.pruneScore < 0)
  if r.prunesByScore then
    refuse .pruneScoreTooHigh (100 < r.pruneScore)
    refuse .pruneHopsTooFew (r.pruneHops < 2)
    return ⟨r.maxRoutes, some ⟨r.pruneScore, r.pruneHops.toNat⟩⟩
  else return ⟨r.maxRoutes, none⟩

/-- The numbers of a request, checked in order (`Scalars.validate`). -/
def numbers : Except PlanError Numbers := do
  refuse .negativeCredits (r.credits < 0)
  refuse .noRoutes (r.routes < 1)
  refuse .noHops (r.hops < 1)
  refuse .tooManyHops (maxHops < r.hops)
  refuse .negativeJumps (r.jumpsPerHop < 0)
  let capacity ← r.checkedCapacity
  let range ← r.checkedRange
  refuse .negativeLimit (r.unitLimit.any (· < 0))
  refuse .limitAboveCapacity (r.unitLimit.any (capacity < ·))
  r.checkMoney
  r.checkEnds
  let beam ← r.checkedBeam
  return {
    capacity := capacity.toNat
    unitLimit := (r.unitLimitOr capacity).toNat
    ladenRange := range
    emptyRange := r.emptyRangeOr range
    jumpsPerHop := r.jumpsPerHop.toNat
    hops := r.hops.toNat
    startJumps := r.startJumps.toNat
    endJumps := r.endJumps.toNat
    routes := r.routes.toNat
    beam }

/-- The filter for all stops. A greatest distance of zero is none. -/
def stationFilter : Except PlanError StationFilter := do
  let padSizes ← r.padSizes.mapM fun codes =>
    (PadSizes.parse codes).mapError fun fault => .option (.padSizes fault)
  return {
    padSizes
    blackMarket := r.blackMarket
    maxStarDistance := r.maxStarDistance.filter fun limit => 0 < limit
    maxAge := r.maxAge }

end Request

/-! ### Names -/

/-- What is to be avoided. -/
structure Avoided where
  places : PlaceSet := .empty
  items : Std.ExtTreeSet ItemId := ∅

namespace Galaxy

variable (g : Galaxy)

/-- The places and items of a list of names; a name of both counts as an item (`resolve_avoid`). -/
def avoided (names : List String) : Except PlanError Avoided :=
  names.foldlM
    (fun a name =>
      match g.itemNamed? name with
      | some item => .ok { a with items := a.items.insert item.id }
      | none => (g.place name).map fun place => { a with places := a.places.insert place }) {}

/-- Holds a place at an end of the run to the filter. A system must have stations. -/
def requireEnd (filter : StationFilter) (anchor : Anchor) (place : Place) :
    Except PlanError Unit :=
  match place with
  | .station id =>
    match g.station? id with
    | some s => filter.require g s anchor
    | none => .ok ()
  | .system id =>
    if (g.stationsIn id).isEmpty then .error (.noData (.bareSystem anchor (g.systemName id)))
    else .ok ()

/-- Why no station is left at or around a place (`check_for_empty_station_list`). -/
def gapAt (place : Place) (jumps : Nat) (anchor : Anchor) : Gap :=
  if 0 < jumps then .noneWithin anchor jumps (place.nameIn g)
  else
    match place with
    | .system id =>
      if (g.stationsIn id).all fun s => s.itemCount == 0 then .unpriced anchor (place.nameIn g)
      else .noneMeets anchor (place.nameIn g)
    | .station _ => .avoided anchor (place.nameIn g)

/-- The place named for an end of the run and the stations at and around it, of which there must be
some (`resolve_endpoint`). -/
def endStations (name : String) (jumps : Nat) (range : Float) (filter : StationFilter)
    (avoid : PlaceSet) (anchor : Anchor) : Except PlanError (Place × List StationId) := do
  let place ← g.place name
  g.requireEnd filter anchor place
  let stations := (Space.mk g range avoid).stationsAround filter [place] jumps
  if stations.isEmpty then throw (.noData (g.gapAt place jumps anchor))
  return (place, stations)

/-- The stations at which any run may start. -/
def openStations (filter : StationFilter) (avoid : PlaceSet) : List StationId :=
  (g.stations.toList.filter fun s => filter.isEligible s && !avoid.matches s).map Station.id

/-- Holds a place on the way to the filter. A system must have a pad for the ship. -/
def requireVia (filter : StationFilter) (place : Place) : Except PlanError Unit :=
  match place with
  | .station id =>
    match g.station? id with
    | some s => filter.require g s .via
    | none => .ok ()
  | .system _ =>
    if place.hasPad g filter.padSizes then .ok ()
    else .error (.option (.viaWithoutPad (place.nameIn g)))

/-- The places of a list of names that must be called at (`resolve_via`). -/
def viaPlaces (names : List String) (filter : StationFilter) : Except PlanError PlaceSet :=
  names.foldlM
    (fun set name => do
      let place ← g.place name
      g.requireVia filter place
      return set.insert place) .empty

end Galaxy

namespace Charter

/-- Whether the one station at which a run may start is the one at which it must end. -/
def sameEnds (origins : List StationId) (destinations : Option PlaceSet) : Bool :=
  match origins, destinations with
  | [only], some set => set.size == 1 && set.contains (.station only)
  | _, _ => false

/-- The first of the two ends that is a station to call at on the way. -/
def endInVia? (via : PlaceSet) (origin destination : Option Place) : Option (Place × Anchor) :=
  [(origin, Anchor.origin), (destination, Anchor.destination)].findSome? fun (place, anchor) =>
    match place with
    | some (.station id) =>
      if via.contains (.station id) then some (.station id, anchor) else none
    | _ => none

/-- How many ends of the run are given. -/
def pinned (origin destination : Option Place) : Nat :=
  origin.isSome.toNat + destination.isSome.toNat

/-- The least number of hops for calls in so many systems. -/
def hopsFor (systems pinned : Nat) : Nat := max (systems + pinned - 1) 1

/-- Checks what speaks against calling nowhere twice, if that is asked for (`check_unique`). -/
def checkUnique (g : Galaxy) (unique : Bool) (hops : Nat) (origins : List StationId)
    (destinations : Option PlaceSet) (via : PlaceSet) (origin destination : Option Place) :
    Except PlanError Unit :=
  if !unique then .ok ()
  else if g.stationCount ≤ hops then .error (.unique .tooFewStations)
  else if sameEnds origins destinations then .error (.unique .sameEnds)
  else
    match endInVia? via origin destination with
    | some (place, anchor) => .error (.unique (.endInVia anchor (place.nameIn g)))
    | none => .ok ()

/-- The place named for the origin, and the stations at which the run may start
(`resolve_origins`). -/
def drawOrigin (g : Galaxy) (r : Request) (n : Numbers) (filter : StationFilter)
    (avoid : PlaceSet) : Except PlanError (Option Place × List StationId) :=
  match r.origin with
  | some name => do
    let (place, stations) ← g.endStations name n.startJumps n.emptyRange filter avoid .origin
    return (some place, stations)
  | none => .ok (none, g.openStations filter avoid)

/-- The place named for the destination, and the stations at which the run must end
(`resolve_destinations`). -/
def drawDestination (g : Galaxy) (r : Request) (n : Numbers) (filter : StationFilter)
    (avoid : PlaceSet) : Except PlanError (Option Place × Option PlaceSet) :=
  match r.destination with
  | some name => do
    let (place, stations) ← g.endStations name n.endJumps n.emptyRange filter avoid .destination
    return (some place, some (PlaceSet.ofList (stations.map .station)))
  | none => .ok (none, none)

/-- The system to work towards. -/
def drawGoal (g : Galaxy) (r : Request) : Except PlanError (Option SystemId) :=
  match r.goal with
  | some name => (g.place name).map (·.systemIn? g)
  | none => .ok none

/-- Checks that no place to call at is to be avoided. -/
def checkAvoided (g : Galaxy) (via avoid : PlaceSet) : Except PlanError Unit :=
  match via.firstConflict? avoid g with
  | some place => .error (.viaAvoided (place.nameIn g))
  | none => .ok ()

/-- Checks that a run of two hops, which has one stop on the way, does not call at its own end there
(`check_anchors_in_via`). -/
def checkAnchors (g : Galaxy) (hops : Nat) (via : PlaceSet) (origin destination : Option Place) :
    Except PlanError Unit :=
  if hops = 2 then
    match endInVia? via origin destination with
    | some (place, anchor) => .error (.anchorInVia (place.nameIn g) anchor)
    | none => .ok ()
  else .ok ()

/-- How many stops of a run are free to choose. -/
def freeStops (hops : Nat) (origin destination : Option Place) : Nat :=
  hops + 1 - pinned origin destination

/-- Checks that there are stops enough for the systems to call in. -/
def checkStops (g : Galaxy) (hops : Nat) (via : PlaceSet) (origin destination : Option Place) :
    Except PlanError Unit :=
  let systems := (via.systemsIn g).size
  if freeStops hops origin destination < systems then
    .error (.viaTooLong (hopsFor systems (pinned origin destination)))
  else .ok ()

/-- The charter of a request (`SearchConfig.build`). -/
def draw (g : Galaxy) (r : Request) : Except PlanError Charter := do
  let n ← r.numbers
  let filter ← r.stationFilter
  let avoided ← g.avoided r.avoid
  let (origin, origins) ← drawOrigin g r n filter avoided.places
  let (destination, destinations) ← drawDestination g r n filter avoided.places
  let goal ← drawGoal g r
  refuse .sameEndsInOneHop (n.hops = 1 && sameEnds origins destinations)
  let via ← g.viaPlaces r.via filter
  checkAvoided g via avoided.places
  checkAnchors g n.hops via origin destination
  checkStops g n.hops via origin destination
  checkUnique g r.unique n.hops origins destinations via origin destination
  return {
    capacity := n.capacity
    unitLimit := n.unitLimit
    credits := r.credits
    insurance := r.insurance
    ladenRange := n.ladenRange
    emptyRange := n.emptyRange
    jumpsPerHop := n.jumpsPerHop
    hops := n.hops
    minGain := r.minGain
    margin := r.margin
    starPenalty := r.starPenalty
    filter
    unique := r.unique
    origin
    destination
    origins
    destinations
    via
    avoid := avoided.places
    avoidItems := avoided.items
    goal
    beam := n.beam
    routes := n.routes
    freeHops := freeStops n.hops origin destination - 1 }

end Charter

end TradeRun
