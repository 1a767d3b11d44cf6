import TradeRun.Jumps
import TradeRun.StationFilter

/-!
The stations at and around places.

* `stationsAt`: without jumps, the stations named themselves, and the eligible ones of systems;
* `stationsAround`: with jumps, the eligible stations of all systems reached from the systems of
  the places, in ascending order of the systems and, within one, of its listing;
* avoided stations are left out in both.
-/

namespace TradeRun

namespace Space

variable (space : Space) (filter : StationFilter)

/-- Whether a station is a stop that need not be avoided. -/
def welcomes (s : Station) : Bool := filter.isEligible s && !space.avoid.matches s

/-- The stations of a place. -/
def stationsOf : Place → List StationId
  | .station id =>
    if (space.galaxy.station? id).any (!space.avoid.matches ·) then [id] else []
  | .system id =>
    ((space.galaxy.stationsIn id).filter (space.welcomes filter)).map Station.id

/-- The stations of places, in ascending order. -/
def stationsAt (places : List Place) : List StationId :=
  (Std.ExtTreeSet.ofList (places.flatMap (space.stationsOf filter))).toList

/-- The systems of places that need not be avoided, in ascending order. -/
def startsOf (places : List Place) : List SystemId :=
  (Std.ExtTreeSet.ofList
    ((places.filterMap (·.systemIn? space.galaxy)).filter (!space.avoid.hasSystem ·))).toList

/-- The systems reached from places, in ascending order. -/
def systemsAround (jumps : Nat) (places : List Place) : List SystemId :=
  (Std.ExtTreeSet.ofList
    ((space.explore jumps (space.startsOf places)).map Arrival.system)).toList

/-- The stations at and around places (`expand_for_jumps`). -/
def stationsAround (places : List Place) (jumps : Nat) : List StationId :=
  if jumps = 0 then space.stationsAt filter places
  else
    (((space.systemsAround jumps places).flatMap space.galaxy.stationsIn).filter
      (space.welcomes filter)).map Station.id

end Space

end TradeRun
