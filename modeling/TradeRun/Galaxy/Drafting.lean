import TradeRun.Galaxy.Assembly

/-!
A galaxy drawn up step by step.

* `Draft`: rows under construction, in which systems, stations and items are numbered from one in
  the order in which they are named;
* `Draft.sells`, `Draft.buys`: what a station asks and bids for an item, in one entry for both;
* `Draft.galaxy`: the finished galaxy, in which a station's entries have the age set for it.
-/

namespace TradeRun

/-- A galaxy under construction (`TradeDbBuilder`). Lists are in reverse order. -/
structure Draft where
  systems : List StarSystem := []
  stations : List Station := []
  items : List Item := []
  prices : Std.ExtTreeMap StationId Market := ∅
  ages : Std.ExtTreeMap StationId Float := ∅

namespace Draft

/-- A further system. -/
def system (d : Draft) (name : String) (position : Position) : Draft :=
  { d with systems := { id := d.systems.length + 1, name, position } :: d.systems }

/-- A further station of a system. -/
def station (d : Draft) (system : SystemId) (name : String) (starDistance : Float)
    (pad : PadSize) : Draft :=
  { d with stations := { id := d.stations.length + 1, name, system, starDistance, pad }
      :: d.stations }

/-- Sets what is known about a station's black market. -/
def blackMarket (d : Draft) (station : StationId) (present : Option Bool) : Draft :=
  { d with stations := d.stations.map fun s =>
      if s.id = station then { s with blackMarket := present } else s }

/-- A further item. -/
def item (d : Draft) (name : String) : Draft :=
  { d with items := { id := d.items.length + 1, name } :: d.items }

/-- Changes the entry of an item at a station, a new entry if there was none. -/
def entry (d : Draft) (station : StationId) (item : ItemId) (f : Price → Price) : Draft :=
  let market := d.prices.getD station ∅
  { d with prices := d.prices.insert station (market.insert item (f (market.getD item {}))) }

/-- A station sells an item at a price. -/
def sells (d : Draft) (station : StationId) (item : ItemId) (ask : Credits)
    (stock : Option Nat) : Draft :=
  d.entry station item fun p => { p with ask := ask, stock := stock }

/-- A station buys an item at a price. -/
def buys (d : Draft) (station : StationId) (item : ItemId) (bid : Credits) : Draft :=
  d.entry station item fun p => { p with bid := bid }

/-- All entries of a station have an age (`TradeDbBuilder.data_age`). -/
def dataAge (d : Draft) (station : StationId) (age : Float) : Draft :=
  { d with ages := d.ages.insert station age }

/-- The rows of the prices, by station and item. -/
def priceRows (d : Draft) : List PriceRow :=
  d.prices.toList.flatMap fun (station, market) =>
    market.toList.map fun (item, price) =>
      ⟨station, item, { price with age := d.ages.getD station price.age }⟩

/-- The finished galaxy (`TradeDbBuilder.build`). -/
def galaxy (d : Draft) : Galaxy :=
  Galaxy.ofRows
    { systems := d.systems.reverse
      stations := d.stations.reverse
      items := d.items.reverse
      prices := d.priceRows }

end Draft

end TradeRun
