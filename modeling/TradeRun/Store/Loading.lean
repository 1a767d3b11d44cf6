import TradeRun.Galaxy.Assembly
import TradeRun.Store.Table

/-!
The galaxy of stored tables.

* `Schema.ofStore`: the four tables, which must have certain columns;
* `systemOfRow`, `stationOfRow`, `itemOfRow`, `priceOfRow`: records of rows. Of what a null tells
  nothing is known. Where a column of the stations is missing, each row has a distance of zero or a
  question mark instead;
* `Galaxy.ofStore`: the galaxy of all rows, or the first error, row by row and in a row from cell
  to cell.

The age of a price is stored in days or, where that column is missing, as the time of the last
change, in seconds. No age is less than zero.
-/

namespace TradeRun

/-- How many seconds a day has (`SECONDS_PER_DAY`). -/
def secondsPerDay : Float := 86400.0

/-- The four tables (`SchemaDefinition`). -/
structure Schema where
  systems : Table
  stations : Table
  items : Table
  prices : Table

/-- The table of a name, if it has certain columns. -/
def Store.tableWith (s : Store) (name : String) (columns : List String) :
    Except StoreError Table :=
  match s.table? name with
  | some t => if columns.all t.hasColumn then .ok t else .error .unsupportedSchema
  | none => .error .unsupportedSchema

/-- The four tables of a store (`detect_schema`). -/
def Schema.ofStore (s : Store) : Except StoreError Schema := do
  let systems ← s.tableWith "System" ["system_id", "name", "pos_x", "pos_y", "pos_z"]
  let stations ← s.tableWith "Station" ["station_id", "name", "system_id"]
  let items ← s.tableWith "Item" ["item_id", "name"]
  let prices ←
    s.tableWith "StationItem" ["station_id", "item_id", "demand_price", "supply_price"]
  return { systems, stations, items, prices }

/-! ### Rows -/

/-- The system of a row (`load_systems`). -/
def systemOfRow (t : Table) (row : List Cell) : Except StoreError StarSystem := do
  let id ← (t.slot row 0 "system_id").read Cell.int?
  let name ← (t.slot row 1 "name").read Cell.text?
  let x ← (t.slot row 2 "pos_x").read Cell.float?
  let y ← (t.slot row 3 "pos_y").read Cell.float?
  let z ← (t.slot row 4 "pos_z").read Cell.float?
  return { id, name, position := ⟨x, y, z⟩ }

/-- What is known of the letters `Y` and `N`, in either case and with blanks around them
(`parse_flag`). -/
def flagOf? (code : String) : Option Bool :=
  let letter := Text.trim code
  if Text.equalAscii letter "Y" then some true
  else if Text.equalAscii letter "N" then some false
  else none

/-- The pad size of the first character of a text. -/
def padOf (codes : String) : PadSize := (codes.toList.head?.bind PadSize.ofCode?).getD .unknown

/-- The station of a row (`load_stations`). -/
def stationOfRow (t : Table) (row : List Cell) : Except StoreError Station := do
  let id ← (t.slot row 0 "station_id").read Cell.int?
  let name ← (t.slot row 1 "name").read Cell.text?
  let system ← (t.slot row 2 "system_id").read Cell.int?
  let distance ← (t.slotOr (.integer 0) row 3 "ls_from_star").read (Cell.optional Cell.float?)
  let market ← (t.slotOr (.text "?") row 4 "blackmarket").read (Cell.optional Cell.text?)
  let pad ← (t.slotOr (.text "?") row 5 "max_pad_size").read (Cell.optional Cell.text?)
  return {
    id, name, system
    starDistance := distance.getD 0.0
    blackMarket := market.bind flagOf?
    pad := pad.elim .unknown padOf }

/-- The item of a row (`load_items`). -/
def itemOfRow (t : Table) (row : List Cell) : Except StoreError Item := do
  let id ← (t.slot row 0 "item_id").read Cell.int?
  let name ← (t.slot row 1 "name").read Cell.text?
  return { id, name }

/-- An age, or zero for what is less. -/
def atLeastZero (age : Float) : Float := if 0 < age then age else 0.0

/-- The column that tells the age of a price. -/
def ageColumn (t : Table) : String := if t.hasColumn "age_days" then "age_days" else "modified"

/-- The age of a price, for what is stored in the column that tells it. -/
def ageOf (t : Table) (now : Float) : Option Float → Float
  | none => 0.0
  | some stored =>
    if t.hasColumn "age_days" then atLeastZero stored
    else atLeastZero ((now - stored) / secondsPerDay)

/-- The stock of a stored number: nothing is known of zero, of less, and of what does not fit 32
bits. -/
def stockOf? (units : Int) : Option Nat :=
  if 0 < units ∧ units < 0x100000000 then some units.toNat else none

/-- The price of a row (`load_prices`). -/
def priceOfRow (now : Float) (t : Table) (row : List Cell) : Except StoreError PriceRow := do
  let station ← (t.slot row 0 "station_id").read Cell.int?
  let stored ← (t.slot row 5 (ageColumn t)).read (Cell.optional Cell.float?)
  let units ← (t.slot row 4 "supply_units").read (Cell.optional Cell.int?)
  let item ← (t.slot row 1 "item_id").read Cell.int?
  let bid ← (t.slot row 2 "demand_price").read (Cell.optional Cell.int?)
  let ask ← (t.slot row 3 "supply_price").read (Cell.optional Cell.int?)
  return {
    station, item
    price :=
      { ask := .ofInt (ask.getD 0)
        stock := units.bind stockOf?
        bid := .ofInt (bid.getD 0)
        age := ageOf t now stored } }

/-! ### Tables -/

/-- The records of all rows of a table. -/
def Table.mapRows {α : Type} (t : Table) (ofRow : Table → List Cell → Except StoreError α) :
    Except StoreError (List α) := do
  let records ← t.rows.mapM (ofRow t)
  match t.fault with
  | some fault => throw fault
  | none => return records

/-- The rows of a store, at a time given in seconds. -/
def Rows.ofStore (now : Float) (s : Store) : Except StoreError Rows := do
  let schema ← Schema.ofStore s
  let systems ← schema.systems.mapRows systemOfRow
  let stations ← schema.stations.mapRows stationOfRow
  let items ← schema.items.mapRows itemOfRow
  let prices ← schema.prices.mapRows (priceOfRow now)
  return { systems, stations, items, prices }

/-- The galaxy of a store, at a time given in seconds (`load_trade_db`). -/
def Galaxy.ofStore (now : Float) (s : Store) : Except StoreError Galaxy :=
  (Rows.ofStore now s).map Galaxy.ofRows

end TradeRun
