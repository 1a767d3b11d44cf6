import TradeRun.Galaxy.PointTree
import TradeRun.Pad
import TradeRun.Register

/-!
The known galaxy: systems, their stations, and what the stations pay and ask.

* `StarSystem`, `Station`, `Item`: the records, each with a number of its own;
* `Price`: what a station asks for a unit of an item and what it bids for one;
* `Galaxy`: the registers of systems, stations and items, and the systems in space;
* `Galaxy.stationsIn`: the stations that a system lists, in the order of its list.

A station carries its own prices. What a station is said to have, `Station.itemCount` goods and
data of age `Station.dataAge`, is read off them.
-/

namespace TradeRun

/-- The number of a star system. -/
abbrev SystemId := Int

/-- The number of a station. -/
abbrev StationId := Int

/-- The number of an item of trade. -/
abbrev ItemId := Int

/-- An amount of money: a whole number of 64 bits, whose sums and products wrap around. -/
abbrev Credits := Int64

/-- A star system (`System`). -/
structure StarSystem where
  id : SystemId
  name : String
  position : Position
  /-- The numbers of the stations read for this system, in ascending order. -/
  listing : List StationId := []

/-- An item of trade. -/
structure Item where
  id : ItemId
  name : String
deriving DecidableEq

/-- What a station asks and bids for an item (`PriceEntry`). -/
structure Price where
  /-- The price at which the station sells a unit; the station sells none at zero or less. -/
  ask : Credits := 0
  /-- The units on offer, where they are known. -/
  stock : Option Nat := none
  /-- The price that the station pays for a unit. -/
  bid : Credits := 0
  /-- How old the entry is, in days. -/
  age : Float := 0.0

/-- The prices of a station by item. -/
abbrev Market := Std.ExtTreeMap ItemId Price

/-- A station at which a ship can dock. -/
structure Station where
  id : StationId
  name : String
  system : SystemId
  /-- The distance from the star in light seconds; zero or less when it is not known. -/
  starDistance : Float := 0.0
  /-- Whether there is a black market, where that is known. -/
  blackMarket : Option Bool := none
  pad : PadSize := .unknown
  market : Market := ∅

namespace Station

/-- How many items have a price. -/
def itemCount (s : Station) : Nat := s.market.size

/-- The age of the freshest price, in days. -/
def dataAge (s : Station) : Option Float :=
  s.market.toList.foldl
    (fun least (_, price) => some (least.elim price.age (Binary.minTotal · price.age))) none

end Station

/-- Systems by their points of single precision. -/
abbrev SystemTree := PointTree StarSystem

/-- The tree of systems, which come in one after the other. -/
def SystemTree.ofList (systems : List StarSystem) : SystemTree :=
  PointTree.ofList (systems.map fun s => (s.position.coarse, s))

/-- All that is known (`TradeDb`). -/
structure Galaxy where
  systems : Register StarSystem StarSystem.id
  stations : Register Station Station.id
  items : Register Item Item.id
  /-- The systems in space. -/
  chart : SystemTree := SystemTree.ofList systems.toList
  chart_eq : chart = SystemTree.ofList systems.toList := by rfl

namespace Galaxy

variable (g : Galaxy)

/-- The system of a number. -/
def system? (id : SystemId) : Option StarSystem := g.systems.find? id

/-- The station of a number. -/
def station? (id : StationId) : Option Station := g.stations.find? id

/-- The item of a number. -/
def item? (id : ItemId) : Option Item := g.items.find? id

/-- The stations that a system lists (`stations_in`). -/
def stationsIn (id : SystemId) : List Station :=
  match g.system? id with
  | some s => s.listing.filterMap g.station?
  | none => []

/-- The prices of a station, in ascending order of the items. -/
def prices (id : StationId) : List (ItemId × Price) :=
  match g.station? id with
  | some s => s.market.toList
  | none => []

/-- How many stations there are (`station_count`). -/
def stationCount : Nat := g.stations.size

/-! ### Names -/

/-- The name shown for what is not there. -/
def unknownName : String := "<unknown>"

/-- The name of a system (`system_name`). -/
def systemName (id : SystemId) : String := ((g.system? id).map StarSystem.name).getD unknownName

/-- The name of an item (`item_name`). -/
def itemName (id : ItemId) : String := ((g.item? id).map Item.name).getD unknownName

/-- The name of a station after that of its system, with a stroke between them (`station_name`). -/
def stationName (id : StationId) : String :=
  match g.station? id with
  | some s => g.systemName s.system ++ "/" ++ s.name
  | none => "<station " ++ toString id ++ ">"

/-! ### Facts -/

/-- Two galaxies with the same records are one. -/
theorem ext_records {g h : Galaxy} (systems : g.systems = h.systems)
    (stations : g.stations = h.stations) (items : g.items = h.items) : g = h := by
  obtain ⟨_, _, _, _, rfl⟩ := g
  obtain ⟨_, _, _, _, rfl⟩ := h
  cases systems
  cases stations
  cases items
  rfl

variable {g}

theorem id_of_station? {id : StationId} {s : Station} (h : g.station? id = some s) : s.id = id :=
  Register.number_of_find? h

/-- A station that a system lists is on record under its own number. -/
theorem station?_of_mem_stationsIn {id : SystemId} {s : Station} (h : s ∈ g.stationsIn id) :
    g.station? s.id = some s := by
  rw [stationsIn] at h
  split at h
  · obtain ⟨number, -, hs⟩ := List.mem_filterMap.1 h
    rw [id_of_station? hs, hs]
  · cases h

end Galaxy

end TradeRun
