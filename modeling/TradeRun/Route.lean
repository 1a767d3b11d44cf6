import TradeRun.Cargo.Basic
import TradeRun.Figure

/-!
Routes of trade.

* `Hop`: what is traded on the way from one station to the next, with its gain (`Hop.new`);
* `Route`: the stations called at, the hops and the paths between them, the money at hand, and what
  was gained and scored. There is one more station than there are hops and paths, and the gain is
  that of all hops;
* `Route.seed`, `Route.extend`: the route that has not left yet, and one hop more;
* `Leg`, `Route.legs`: a hop with the station at its end and the path to it;
* `Route.compareRank`: the better route first (`rank_order`). A higher score is better, then fewer
  jumps, then more gain, then the stations that sort first, so that no two different itineraries
  tie;
* `Route.rank`: routes in that order, with routes that tie kept in the order they came in
  (`rank_routes`).
-/

namespace TradeRun

/-- What is bought at one station and sold at the next. -/
structure Hop where
  trades : List Trade
  gain : Credits

namespace Hop

/-- The hop of some trades, which gains what they gain. -/
def ofTrades (trades : List Trade) : Hop := ⟨trades, Trade.gainOf trades⟩

/-- What is paid for the goods of a hop (`cost_cr`). -/
def cost (h : Hop) : Credits := Trade.costOf h.trades

/-- How many units are traded, by the last 32 bits of their number. -/
def units (h : Hop) : Nat := Trade.unitsOf h.trades % 0x100000000

end Hop

/-- A hop with the station at its end. -/
structure Leg where
  destination : StationId
  hop : Hop
  /-- The systems flown through, the first and the last one included. -/
  path : List SystemId

namespace Leg

/-- What is traded on the leg. -/
def trades (l : Leg) : List Trade := l.hop.trades

/-- What the leg gains. -/
def gain (l : Leg) : Credits := l.hop.gain

/-- What is paid for the goods of the leg. -/
def cost (l : Leg) : Credits := l.hop.cost

/-- How many units are traded. -/
def units (l : Leg) : Nat := l.hop.units

/-- The jumps from one system to the next. -/
def jumps (l : Leg) : Nat := l.path.length - 1

end Leg

/-- A route of trade. -/
structure Route where
  /-- The stations called at, that of departure included. -/
  stations : List StationId
  hops : List Hop
  /-- The systems flown through on each hop, the first and the last one included. -/
  paths : List (List SystemId)
  /-- The money for the first purchase. -/
  startCredits : Credits
  /-- What all hops gain. -/
  gain : Credits
  score : Figure
  length_stations : stations.length = hops.length + 1
  length_paths : paths.length = hops.length
  gain_eq : gain = (hops.map Hop.gain).sum

namespace Route

/-- The route that has not left its station. -/
def seed (origin : StationId) (startCredits : Credits) : Route where
  stations := [origin]
  hops := []
  paths := []
  startCredits
  gain := 0
  score := .double 0.0
  length_stations := rfl
  length_paths := rfl
  gain_eq := rfl

/-- The route with one leg more, which adds to the score. -/
def extend (r : Route) (leg : Leg) (legScore : Figure) : Route where
  stations := r.stations ++ [leg.destination]
  hops := r.hops ++ [leg.hop]
  paths := r.paths ++ [leg.path]
  startCredits := r.startCredits
  gain := r.gain + leg.hop.gain
  score := r.score + legScore
  length_stations := by simp [r.length_stations]
  length_paths := by simp [r.length_paths]
  gain_eq := by simp [r.gain_eq]

variable (r : Route)

theorem stations_ne_nil : r.stations ≠ [] := by
  have h := r.length_stations
  intro hnil
  rw [hnil] at h
  cases h

/-- The station of departure. -/
def origin : StationId := r.stations.head r.stations_ne_nil

/-- The station at which the route ends (`last_station`). -/
def last : StationId := r.stations.getLast r.stations_ne_nil

/-- How many hops the route has. -/
def hopCount : Nat := r.hops.length

/-- The hops with the stations at their ends and the paths between them. -/
def legs : List Leg :=
  (r.stations.tail.zip (r.hops.zip r.paths)).map fun (destination, hop, path) =>
    ⟨destination, hop, path⟩

/-- The money for the next purchase (`available_cr`). -/
def available : Credits := r.startCredits + r.gain

/-- The jumps of all hops (`total_jumps`). -/
def totalJumps : Nat := (r.paths.map fun path => path.length - 1).foldr (· + ·) 0

/-- The gain of a hop on average, towards zero; zero for a route without hops (`gain_per_hop`). -/
def gainPerHop : Credits := r.gain / .ofNat r.hopCount

/-! ### Ranking -/

/-- The better route first. -/
def compareRank (a b : Route) : Ordering :=
  (Figure.compareTotal b.score a.score).then <| (compare a.totalJumps b.totalJumps).then <|
    (compare b.gain a.gain).then (compare a.stations b.stations)

/-- The routes from the best to the worst. -/
def rank (routes : List Route) : List Route :=
  routes.mergeSort fun a b => (compareRank a b).isLE

/-! ### Facts -/

@[simp]
theorem stations_extend (leg : Leg) (s : Figure) :
    (r.extend leg s).stations = r.stations ++ [leg.destination] := rfl

@[simp]
theorem origin_extend (leg : Leg) (s : Figure) : (r.extend leg s).origin = r.origin :=
  List.head_append_of_ne_nil r.stations_ne_nil

@[simp]
theorem last_extend (leg : Leg) (s : Figure) : (r.extend leg s).last = leg.destination := by
  simp [last, extend]

@[simp]
theorem gain_extend (leg : Leg) (s : Figure) : (r.extend leg s).gain = r.gain + leg.gain := rfl

theorem length_tail_stations : r.stations.tail.length = (r.hops.zip r.paths).length := by
  simp [r.length_stations, r.length_paths]

@[simp]
theorem legs_seed (origin : StationId) (startCredits : Credits) :
    (seed origin startCredits).legs = [] := rfl

/-- One leg more comes after all others. -/
@[simp]
theorem legs_extend (leg : Leg) (s : Figure) : (r.extend leg s).legs = r.legs ++ [leg] := by
  simp only [legs, extend, List.tail_append_of_ne_nil r.stations_ne_nil]
  rw [List.zip_append r.length_paths.symm, List.zip_append r.length_tail_stations, List.map_append]
  rfl

/-- The stations are that of departure and those at the ends of the legs. -/
theorem stations_eq : r.stations = r.origin :: r.legs.map Leg.destination := by
  have hends : r.legs.map Leg.destination = r.stations.tail := by
    rw [legs, List.map_map]
    exact List.map_fst_zip (Nat.le_of_eq r.length_tail_stations)
  rw [hends]
  exact (List.cons_head_tail r.stations_ne_nil).symm

/-- The legs have the hops and the paths of the route. -/
theorem map_legs : (r.legs.map fun leg => (leg.hop, leg.path)) = r.hops.zip r.paths := by
  rw [legs, List.map_map]
  exact List.map_snd_zip (Nat.le_of_eq r.length_tail_stations.symm)

@[simp]
theorem map_hop_legs : r.legs.map Leg.hop = r.hops := by
  have h := congrArg (List.map Prod.fst) r.map_legs
  rwa [List.map_map, List.map_fst_zip (Nat.le_of_eq r.length_paths.symm)] at h

@[simp]
theorem map_path_legs : r.legs.map Leg.path = r.paths := by
  have h := congrArg (List.map Prod.snd) r.map_legs
  rwa [List.map_map, List.map_snd_zip (Nat.le_of_eq r.length_paths)] at h

/-- The gain is that of all legs. -/
theorem gain_eq_sum_legs : r.gain = (r.legs.map Leg.gain).sum := by
  rw [r.gain_eq, ← r.map_hop_legs, List.map_map]
  rfl

@[simp]
theorem length_legs : r.legs.length = r.hopCount := by
  rw [hopCount, ← r.map_hop_legs, List.length_map]

end Route

end TradeRun
