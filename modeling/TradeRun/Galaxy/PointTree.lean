import TradeRun.Galaxy.Position

/-!
Entries kept by points of space, for searches by distance.

* `PointTree`: leaves of at most `leafCapacity` entries, and nodes that part space at a plane. The
  planes of one depth stand across one axis, those of the next depth across the next axis;
* `PointTree.insert`, `PointTree.ofList`: a leaf that is full is parted at the middle of its
  coordinates before another entry goes in;
* `PointTree.within`: the entries within a distance of a point.

A search enters the side of a plane on which its point lies, and the other side only if that is near
enough: how far away a region is at least follows from the planes on the way, in single precision.
Where two such distances are infinite their difference is no number, and the region is not entered.
-/

namespace TradeRun

/-- Entries by points of space (`SpatialIndex`). -/
inductive PointTree (α : Type)
  | leaf (entries : List (CoarsePosition × α))
  /-- Space parted at a plane. -/
  | node (plane : Float32) (below above : PointTree α)

/-- How many entries a leaf holds before it is parted (`BUCKET_SIZE`). -/
def leafCapacity : Nat := 32

/-- What is known of a region: how far away it is at least along each axis, and the square of how
far away it is in all. -/
structure Approach where
  gaps : CoarsePosition := ⟨0.0, 0.0, 0.0⟩
  squared : Float32 := 0.0

/-- The region behind a plane, so far away along an axis. -/
def Approach.beyond (a : Approach) (axis : Axis) (gap : Float32) : Approach :=
  let step := gap - a.gaps.along axis
  ⟨a.gaps.set gap axis, a.squared + step * step⟩

namespace PointTree

variable {α : Type}

/-- No entries. -/
def empty : PointTree α := leaf []

/-- The plane at which the entries of a leaf are parted: the middle one of their coordinates. -/
def middlePlane (axis : Axis) (entries : List (CoarsePosition × α)) : Float32 :=
  let sorted := (entries.map (·.1.along axis)).mergeSort (· ≤ ·)
  sorted.getD (leafCapacity / 2) 0.0

/-- One entry more, in the tree at a depth with some axis. -/
def insertAt (entry : CoarsePosition × α) : Axis → PointTree α → PointTree α
  | axis, leaf entries =>
    if entries.length < leafCapacity then leaf (entry :: entries)
    else
      let plane := middlePlane axis entries
      let (below, above) := (entry :: entries).partition (·.1.along axis < plane)
      node plane (leaf below) (leaf above)
  | axis, node plane below above =>
    if entry.1.along axis < plane then node plane (insertAt entry axis.next below) above
    else node plane below (insertAt entry axis.next above)

/-- One entry more. -/
def insert (t : PointTree α) (entry : CoarsePosition × α) : PointTree α := insertAt entry .x t

/-- The tree of entries, which come in one after the other. -/
def ofList (entries : List (CoarsePosition × α)) : PointTree α := entries.foldl insert empty

/-! ### Searches -/

/-- The entries of a region whose squared distance from a point is at most `reach`. -/
def withinAt (point : CoarsePosition) (reach : Float32) :
    Axis → Approach → PointTree α → List α
  | _, _, leaf entries =>
    entries.filterMap fun (place, a) =>
      if point.squaredDistance place ≤ reach then some a else none
  | axis, approach, node plane below above =>
    let x := point.along axis
    let beyond := approach.beyond axis (x - plane).abs
    let other := if beyond.squared ≤ reach then some beyond else none
    let (ofBelow, ofAbove) := if x < plane then (some approach, other) else (other, some approach)
    ofBelow.elim [] (withinAt point reach axis.next · below)
      ++ ofAbove.elim [] (withinAt point reach axis.next · above)

/-- The entries whose squared distance from a point is at most `reach`. -/
def within (t : PointTree α) (point : CoarsePosition) (reach : Float32) : List α :=
  withinAt point reach .x {} t

end PointTree

end TradeRun
