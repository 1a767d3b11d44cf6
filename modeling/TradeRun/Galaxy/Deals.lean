import TradeRun.Galaxy.Basic

/-!
Deals: what one station sells for less than another one pays.

* `Deal`: an item with its price, the gain on a unit and the stock;
* `Galaxy.deals`: the deals from one station to another, in ascending order of the items;
* `Galaxy.tradingCount`: how many items are sold somewhere for less than they fetch elsewhere.
-/

namespace TradeRun

/-- An item that one station sells for less than another one pays (`TradeCandidate`). -/
structure Deal where
  item : ItemId
  /-- The price of a unit where it is bought. -/
  cost : Credits
  /-- What a unit fetches above its price. -/
  gain : Credits
  /-- The units on offer, where they are known. -/
  stock : Option Nat
  sourceAge : Float
  targetAge : Float

/-- The deal on an item between a seller's price and the market of a buyer. -/
def Deal.between? (item : ItemId) (seller : Price) (buyers : Market) : Option Deal :=
  if 0 < seller.ask then
    buyers[item]?.bind fun buyer =>
      if 0 < buyer.bid - seller.ask then
        some
          { item, cost := seller.ask, gain := buyer.bid - seller.ask, stock := seller.stock
            sourceAge := seller.age, targetAge := buyer.age }
      else none
  else none

/-- The deals from one market to another. -/
def Market.deals (source target : Market) : List Deal :=
  source.toList.filterMap fun (item, price) => Deal.between? item price target

namespace Galaxy

variable (g : Galaxy)

/-- The deals from one station to another (`trades_between`). -/
def deals (source target : StationId) : List Deal :=
  match g.station? source, g.station? target with
  | some s, some t => Market.deals s.market t.market
  | _, _ => []

/-- All prices of all stations. -/
def allPrices : List (ItemId × Price) := g.stations.toList.flatMap fun s => s.market.toList

/-- The least price at which each item is sold. -/
def leastAsks : Std.ExtTreeMap ItemId Credits :=
  g.allPrices.foldl
    (fun m (item, p) =>
      if 0 < p.ask then m.insert item (m[item]?.elim p.ask (min · p.ask)) else m) ∅

/-- The greatest price that is paid for each item. -/
def greatestBids : Std.ExtTreeMap ItemId Credits :=
  g.allPrices.foldl
    (fun m (item, p) =>
      if 0 < p.bid then m.insert item (m[item]?.elim p.bid (max · p.bid)) else m) ∅

/-- How many items are sold somewhere for less than they fetch elsewhere (`trading_count`,
`count_trading_items`). -/
def tradingCount : Nat :=
  let bids := g.greatestBids
  g.leastAsks.toList.countP fun (item, ask) => bids[item]?.any (ask < ·)

end Galaxy

end TradeRun
