import TradeRun.Galaxy.Basic

/-!
Distances and neighbourhoods.

* `SystemTree.near`: the systems within a radius of a point, the nearest first;
* `Galaxy.inRange`: the systems within a radius of a system, other than itself.

A system counts as near when its distance is within the radius and when, besides, a search finds its
point of single precision within a slightly larger radius, all computed in single precision. Far
from the origin the coarse points may lie too far apart for that.
-/

namespace TradeRun

/-- By how much the radius grows for the comparison in single precision, as a share of it and in
light years (`RADIUS_SLACK`). -/
def radiusSlack : Float := 1e-4

/-- The square of the larger radius. -/
def squaredReach (radius : Float) : Float32 :=
  let reach := radius * (1.0 + radiusSlack) + radiusSlack
  Binary.toSingle (reach * reach)

/-- The nearer system first; of two at one distance the one with the smaller number. -/
def compareNear (a b : SystemId × Float) : Ordering :=
  (Binary.compareTotal a.2 b.2).then (compare a.1 b.1)

/-- The systems within a radius of a point with their distances, the nearest first
(`SpatialIndex.within_radius`). -/
def SystemTree.near (t : SystemTree) (point : Position) (radius : Float) :
    List (SystemId × Float) :=
  if radius ≤ 0 then []
  else
    let found := (t.within point.coarse (squaredReach radius)).filterMap fun s =>
      let distance := point.distance s.position
      if distance ≤ radius then some (s.id, distance) else none
    found.mergeSort fun a b => (compareNear a b).isLE

namespace Galaxy

variable (g : Galaxy)

/-- The systems within a radius of a system, other than itself, the nearest first
(`systems_in_range`). -/
def inRange (id : SystemId) (radius : Float) : List (SystemId × Float) :=
  match g.system? id with
  | some s => (g.chart.near s.position radius).filter (·.1 != id)
  | none => []

/-- The numbers of the systems in range. -/
def neighbours (id : SystemId) (radius : Float) : List SystemId := (g.inRange id radius).map (·.1)

/-- The distance of two systems, if both are there (`distance`). -/
def distance? (a b : SystemId) : Option Float :=
  match g.system? a, g.system? b with
  | some s, some t => some (s.position.distance t.position)
  | _, _ => none

end Galaxy

end TradeRun
