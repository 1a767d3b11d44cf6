import TradeRun.Galaxy.Basic

/-!
A galaxy put together from rows.

* `Rows`: the systems, stations, items and prices as they were recorded, in the order of the
  record;
* `Galaxy.ofRows`: the galaxy of the rows. Of several rows with one number the last one counts. A
  station whose system is not there is left out, and so is a price whose station or item is not;
* `StarSystem.listing` names a station once for every row of it that was read for the system.
-/

namespace TradeRun

/-- A price recorded for an item at a station. -/
structure PriceRow where
  station : StationId
  item : ItemId
  price : Price

/-- The rows of a record. What a system lists and what a station trades is not part of its own
row. -/
structure Rows where
  systems : List StarSystem := []
  stations : List Station := []
  items : List Item := []
  prices : List PriceRow := []

/-- The system with a given listing. -/
def StarSystem.withListing (s : StarSystem) (listing : List StationId) : StarSystem :=
  { s with listing := listing }

/-- The station with a given market. -/
def Station.withMarket (s : Station) (market : Market) : Station := { s with market := market }

namespace Rows

/-- The systems by number, with nothing listed. -/
def systemRegister (rows : List StarSystem) : Register StarSystem StarSystem.id :=
  Register.ofList (rows.map (·.withListing []))

/-- The stations by number, with nothing priced. -/
def stationRegister (rows : List Station) : Register Station Station.id :=
  Register.ofList (rows.map (·.withMarket ∅))

/-- The numbers of the station rows by the system that they name. -/
def listings (rows : List Station) : Std.ExtTreeMap SystemId (List StationId) :=
  rows.foldl (fun m s => m.insert s.system (s.id :: m.getD s.system [])) ∅

/-- The prices by station and item; of several for one item at one station the last one counts. -/
def markets (rows : List PriceRow) : Std.ExtTreeMap StationId Market :=
  rows.foldl (fun m p => m.insert p.station ((m.getD p.station ∅).insert p.item p.price)) ∅

end Rows

/-- The galaxy of a record (`from_parts`). -/
def Galaxy.ofRows (rows : Rows) : Galaxy :=
  let systems := Rows.systemRegister rows.systems
  let placed := rows.stations.filter fun s => systems.has s.system
  let stations := Rows.stationRegister placed
  let items : Register Item Item.id := Register.ofList rows.items
  let listings := Rows.listings placed
  let markets := Rows.markets
    (rows.prices.filter fun p => stations.has p.station && items.has p.item)
  { systems := systems.map
      (fun s : StarSystem => s.withListing (listings.getD s.id []).mergeSort) fun _ => rfl
    stations := stations.map
      (fun s : Station => s.withMarket (markets.getD s.id ∅)) fun _ => rfl
    items := items }

end TradeRun
