import TradeRun.Decimal.Binary

/-!
Points of space.

* `Position`, `CoarsePosition`: points with coordinates in light years, as doubles and to single
  precision;
* `Position.distance`, `CoarsePosition.squaredDistance`: the straight line between two points, and
  in single precision its square;
* `Axis`: the three directions, which follow each other in a circle.
-/

namespace TradeRun

/-- A point of space, in light years (`SystemPosition`). -/
structure Position where
  x : Float
  y : Float
  z : Float

/-- A point of space to single precision. -/
structure CoarsePosition where
  x : Float32
  y : Float32
  z : Float32

/-- The nearest point of single precision (`to_coords`). -/
def Position.coarse (p : Position) : CoarsePosition :=
  ⟨Binary.toSingle p.x, Binary.toSingle p.y, Binary.toSingle p.z⟩

/-- The straight line between two points (`SystemPosition.distance_to`). -/
def Position.distance (p q : Position) : Float :=
  let dx := p.x - q.x
  let dy := p.y - q.y
  let dz := p.z - q.z
  (dx * dx + dy * dy + dz * dz).sqrt

/-- A direction of space. -/
inductive Axis
  | x
  | y
  | z
deriving DecidableEq, Repr

/-- The direction after another one. -/
def Axis.next : Axis → Axis
  | x => y
  | y => z
  | z => x

namespace CoarsePosition

/-- The square of the straight line between two points of single precision. -/
def squaredDistance (p q : CoarsePosition) : Float32 :=
  let dx := p.x - q.x
  let dy := p.y - q.y
  let dz := p.z - q.z
  dx * dx + dy * dy + dz * dz

/-- The coordinate in a direction. -/
def along (p : CoarsePosition) : Axis → Float32
  | .x => p.x
  | .y => p.y
  | .z => p.z

/-- The point with another coordinate in a direction. -/
def set (p : CoarsePosition) (value : Float32) : Axis → CoarsePosition
  | .x => { p with x := value }
  | .y => { p with y := value }
  | .z => { p with z := value }

end CoarsePosition

end TradeRun
