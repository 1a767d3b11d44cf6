import TradeRun.Galaxy.Deals

/-!
What a ship can carry and what it earns.

* `Trade`: units of one item, bought at one station and sold at another;
* `Lot`: a deal with the gain on a unit that is counted on, after a margin is taken off;
* `discount`: the lots of a list of deals that still gain enough;
* `Load`: the trades of a hop with their totals;
* `Limits`: hold space, units of any one item, and money.
-/

namespace TradeRun

/-- Units of one item, bought at one station and sold at another (`TradeOption`). -/
structure Trade where
  item : ItemId
  quantity : Nat
  /-- The price of a unit. -/
  cost : Credits
  /-- The gain on a unit that is counted on. -/
  gain : Credits
  sourceAge : Float
  targetAge : Float

namespace Trade

/-- The price of all units (`total_cost`). -/
def totalCost (t : Trade) : Credits := t.cost * .ofNat t.quantity

/-- The gain on all units (`total_gain`). -/
def totalGain (t : Trade) : Credits := t.gain * .ofNat t.quantity

/-- The gain on all units of a list of trades. -/
def gainOf (trades : List Trade) : Credits := (trades.map totalGain).sum

/-- The price of all units of a list of trades. -/
def costOf (trades : List Trade) : Credits := (trades.map totalCost).sum

/-- The units of a list of trades. -/
def unitsOf (trades : List Trade) : Nat := (trades.map quantity).foldr (· + ·) 0

end Trade

/-- A deal with the gain on a unit that is counted on. -/
structure Lot where
  deal : Deal
  unitGain : Credits

/-- A gain reduced by a share of it, down to a whole amount. -/
def reducedGain (margin : Float) (gain : Credits) : Credits :=
  .ofInt (Binary.floorInt (Float.ofInt gain.toInt * (1.0 - margin)))

/-- The lots that gain something, and at least so much, after the margin is taken off. -/
def discount (deals : List Deal) (margin : Float) (minGain : Credits) : List Lot :=
  deals.filterMap fun deal =>
    let unitGain := reducedGain margin deal.gain
    if 0 < unitGain ∧ minGain ≤ unitGain then some ⟨deal, unitGain⟩ else none

/-- What a load must keep to (`LoadLimits`). -/
structure Limits where
  /-- The hold space in units. -/
  capacity : Nat
  /-- The most units of any one item. -/
  unitLimit : Nat
  credits : Credits

/-- The trades of a hop. -/
structure Load where
  trades : List Trade
  gain : Credits
  cost : Credits
  units : Nat

end TradeRun
