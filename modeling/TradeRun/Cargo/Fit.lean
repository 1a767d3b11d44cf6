import TradeRun.Cargo.Basic

/-!
The most profitable load (`fit_load`).

* `stowage`: the lots of which at least one unit can be bought, each with the most units of it,
  sorted by gain on a unit, price and item;
* `Totals.compare`: more gain is better, then less cost, then fewer units (`preference`);
* `Node`, `Tally`: what the search hands down, and the record that it keeps. The quantities under
  trial stand in one list, in which each lot has a place of its own;
* `descend`: branch and bound over the quantities of the sorted lots, the largest quantity of each
  lot first. A branch is left when even the remaining space, filled at the gain of the next lot,
  cannot reach the best gain found;
* `fit?`: the best load found, nothing when no load gains.

Each visit to a branch is counted. Once more than `visitBudget` visits are counted no branch is
entered any further, and the best load found until then stands. Gains and costs are amounts of 64
bits: a bound that does not fit them wraps around, and cuts its branch off if it comes out negative.
-/

namespace TradeRun.Cargo

/-- How many visits the search for a load may make before it enters no further branch
(`NODE_BUDGET`). -/
def visitBudget : Nat := 250000

/-- A lot with the most units of it that a load can hold (`FitItem`). -/
structure Stow where
  lot : Lot
  most : Nat

/-- The price of a unit. -/
def Stow.cost (s : Stow) : Credits := s.lot.deal.cost

/-- The gain on a unit. -/
def Stow.gain (s : Stow) : Credits := s.lot.unitGain

/-- The units that some money buys at a price. -/
def affordable (money price : Credits) : Nat := (money / price).toNatClampNeg

/-- The most units of a lot that limits, stock and money allow. -/
def mostUnits (limits : Limits) (lot : Lot) : Nat :=
  let stocked := lot.deal.stock.elim limits.capacity (min limits.capacity)
  min (min limits.unitLimit stocked) (affordable limits.credits lot.deal.cost)

/-- The lot as a load can hold it, if it gains, costs something, and one unit can be had. -/
def stow? (limits : Limits) (lot : Lot) : Option Stow :=
  if 0 < lot.unitGain ∧ 0 < lot.deal.cost ∧ 0 < mostUnits limits lot then
    some ⟨lot, mostUnits limits lot⟩
  else none

/-- The order in which lots are loaded: more gain first, then less cost, then the smaller item. -/
def Stow.compare (a b : Stow) : Ordering :=
  (Ord.compare b.gain a.gain).then <| (Ord.compare a.cost b.cost).then <|
    Ord.compare a.lot.deal.item b.lot.deal.item

/-- The lots that can be loaded, in the order of loading. -/
def stowage (limits : Limits) (lots : List Lot) : List Stow :=
  (lots.filterMap (stow? limits)).mergeSort fun a b => (a.compare b).isLE

/-- The totals of a load. -/
structure Totals where
  gain : Credits := 0
  cost : Credits := 0
  units : Nat := 0
deriving DecidableEq, Repr

namespace Totals

/-- The better totals are the greater ones: more gain, then less cost, then fewer units
(`Totals.preference`). -/
def compare (a b : Totals) : Ordering :=
  (Ord.compare a.gain b.gain).then <| (Ord.compare b.cost a.cost).then <|
    Ord.compare b.units a.units

/-- The totals with more units of a lot. -/
def add (t : Totals) (s : Stow) (quantity : Nat) : Totals :=
  { gain := t.gain + .ofNat quantity * s.gain
    cost := t.cost + .ofNat quantity * s.cost
    units := t.units + quantity }

end Totals

/-- A place in the search, before some lot: what the quantities chosen for the lots before it
leave, and their totals. -/
structure Node where
  space : Nat
  credits : Credits
  totals : Totals

namespace Node

/-- The place before the first lot. -/
def start (limits : Limits) : Node := ⟨limits.capacity, limits.credits, {}⟩

/-- The place after a quantity of one more lot. -/
def take (n : Node) (s : Stow) (quantity : Nat) : Node :=
  { space := n.space - quantity
    credits := n.credits - .ofNat quantity * s.cost
    totals := n.totals.add s quantity }

/-- What could be gained if all space were filled at some gain. -/
def bound (n : Node) (gain : Credits) : Credits := n.totals.gain + .ofNat n.space * gain

/-- The most units of a lot for which there is space and money. -/
def room (n : Node) (s : Stow) : Nat := min (min s.most n.space) (affordable n.credits s.cost)

end Node

/-- The record that the search keeps: the quantities that it is trying, the best load found, and how
many visits were made (`BranchAndBound`). -/
structure Tally where
  /-- The quantities of all lots; those after the place of the search are zero. -/
  quantities : List Nat
  best : Totals := {}
  /-- The quantities of the best load. -/
  bestQuantities : List Nat
  visits : Nat := 0

namespace Tally

/-- The record before the first visit. -/
def start (lots : Nat) : Tally :=
  { quantities := List.replicate lots 0, bestQuantities := List.replicate lots 0 }

/-- Counts a visit, and keeps the quantities if their totals are better than the best ones. -/
def visit (t : Tally) (totals : Totals) : Tally :=
  let counted := { t with visits := t.visits + 1 }
  if totals.compare t.best = .gt then
    { counted with best := totals, bestQuantities := t.quantities }
  else counted

/-- Sets the quantity of the lot at some index. -/
def put (t : Tally) (index quantity : Nat) : Tally :=
  { t with quantities := t.quantities.set index quantity }

end Tally

/-- Tries the quantities of the lot at some index from the given one downwards, as long as the bound
on what the later lots could add reaches the best gain. -/
def tryQuantities (deeper : Node → Tally → Tally) (nextGain : Credits) (s : Stow) (index : Nat)
    (n : Node) : Nat → Tally → Tally
  | 0, t =>
    if (n.take s 0).bound nextGain < t.best.gain then t else deeper (n.take s 0) (t.put index 0)
  | quantity + 1, t =>
    if (n.take s (quantity + 1)).bound nextGain < t.best.gain then t
    else
      tryQuantities deeper nextGain s index n quantity
        (deeper (n.take s (quantity + 1)) (t.put index (quantity + 1)))

/-- The gain on a unit of the first of the remaining lots. -/
def nextGain : List Stow → Credits
  | [] => 0
  | s :: _ => s.gain

/-- Visits a place and everything to which the remaining lots lead from there, the first of which
has some index (`descend`). -/
def descend : List Stow → Nat → Node → Tally → Tally
  | [], _, n, t => t.visit n.totals
  | s :: rest, index, n, t =>
    let visited := t.visit n.totals
    if n.space = 0 ∨ visitBudget < visited.visits ∨ n.bound s.gain < visited.best.gain then visited
    else
      (tryQuantities (descend rest (index + 1)) (nextGain rest) s index n (n.room s) visited).put
        index 0

/-- The whole search. -/
def search (limits : Limits) (stows : List Stow) : Tally :=
  descend stows 0 (Node.start limits) (Tally.start stows.length)

/-- Units of a lot as a trade. -/
def Stow.trade (s : Stow) (quantity : Nat) : Trade :=
  { item := s.lot.deal.item
    quantity
    cost := s.cost
    gain := s.gain
    sourceAge := s.lot.deal.sourceAge
    targetAge := s.lot.deal.targetAge }

/-- The trades of quantities of lots. -/
def tradesOf (stows : List Stow) (quantities : List Nat) : List Trade :=
  ((stows.zip quantities).filter fun (_, quantity) => 0 < quantity).map fun (s, quantity) =>
    s.trade quantity

/-- The most profitable load found within the limits (`fit_load`). -/
def fit? (lots : List Lot) (limits : Limits) : Option Load :=
  if limits.capacity = 0 ∨ limits.credits ≤ 0 then none
  else
    let stows := stowage limits lots
    let found := search limits stows
    if found.best.gain ≤ 0 then none
    else
      some
        { trades := tradesOf stows found.bestQuantities
          gain := found.best.gain
          cost := found.best.cost
          units := found.best.units }

end TradeRun.Cargo
