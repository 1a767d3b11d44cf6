import Std.Data.ExtTreeSet
import TradeRun.Galaxy.Range
import TradeRun.Place

/-!
Flights by jumps from system to system.

* `Space`: the galaxy as a ship sees it, with the range of its jumps and the systems to avoid;
* `Space.steps`: the systems that one jump can lead to;
* `Space.explore`: the systems reached from some starting points in at most so many jumps, each
  with a path of as few jumps as possible. They come ring by ring: first the starting points, then
  what one jump reaches for the first time, and so on;
* a system is entered once, from the first system of the ring before that leads to it.

An avoided system is never entered, so that nothing is reached through it; a starting point is not
asked.
-/

namespace TradeRun

/-- The galaxy as a ship sees it. -/
structure Space where
  galaxy : Galaxy
  /-- The range of a jump in light years. -/
  range : Float
  avoid : PlaceSet

/-- A system reached, with the systems flown through. -/
structure Arrival where
  system : SystemId
  /-- The systems from the start to this one, both included. -/
  path : List SystemId
deriving DecidableEq

/-- The arrival at the start. -/
def Arrival.start (id : SystemId) : Arrival := ⟨id, [id]⟩

/-- The arrival after one jump more. -/
def Arrival.jump (a : Arrival) (id : SystemId) : Arrival := ⟨id, a.path ++ [id]⟩

/-- The systems entered so far, and those entered in the ring under way, in reverse order. -/
structure Ring where
  entered : Std.ExtTreeSet SystemId
  arrivals : List Arrival

namespace Ring

/-- Enters a system from another one, unless it was entered before. -/
def enter (a : Arrival) (ring : Ring) (id : SystemId) : Ring :=
  if ring.entered.contains id then ring
  else ⟨ring.entered.insert id, a.jump id :: ring.arrivals⟩

end Ring

namespace Space

variable (space : Space)

/-- The systems that one jump can lead to, the nearest first. -/
def steps (id : SystemId) : List SystemId :=
  (space.galaxy.neighbours id space.range).filter (!space.avoid.hasSystem ·)

/-- The ring around the arrivals of the ring before. -/
def nextRing (frontier : List Arrival) (entered : Std.ExtTreeSet SystemId) : Ring :=
  frontier.foldl (fun ring a => (space.steps a.system).foldl (Ring.enter a) ring) ⟨entered, []⟩

/-- The rings around a frontier, at most so many of them. -/
def rings : Nat → List Arrival → Std.ExtTreeSet SystemId → List Arrival
  | 0, _, _ => []
  | jumps + 1, frontier, entered =>
    let ring := space.nextRing frontier entered
    match ring.arrivals.reverse with
    | [] => []
    | next => next ++ rings jumps next ring.entered

/-- The systems reached from some starting points in at most so many jumps (`expand_for_jumps`,
`destinations`). -/
def explore (jumps : Nat) (starts : List SystemId) : List Arrival :=
  let arrivals := starts.map Arrival.start
  arrivals ++ space.rings jumps arrivals (Std.ExtTreeSet.ofList starts)

end Space

end TradeRun
