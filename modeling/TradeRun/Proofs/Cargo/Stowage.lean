import TradeRun.Proofs.Cargo.Bookkeeping

/-!
What stands behind the trades of a load.

Two markets make deals, the deals that gain enough make lots, and quantities of lots make trades. On
the way nothing is counted twice: of each item there is one deal at most, so one lot and one trade.

* `Deal.Struck`: the prices of the two markets behind a deal. `Market.of_mem_deals` finds them, and
  `Market.pairwise_deals` says that the deals are on different items;
* `of_mem_discount`, `pairwise_discount`: the same of lots;
* `Cargo.of_mem_stowage`, `Cargo.pairwise_stowage`: the same of the lots as they are loaded;
* `Cargo.of_mem_tradesOf`, `Cargo.nodup_tradesOf`: the same of trades;
* `Cargo.fit?_stowed`: **every trade of a load draws on a lot**, of no more units than limits and
  stock allow, and no two are on one item.
-/

namespace TradeRun

/-! ### Deals -/

/-- A deal on an item for which one market asks a price and another one bids so much that the
difference of the two amounts is positive. -/
structure Deal.Struck (source target : Market) (ask bid : Price) (d : Deal) : Prop where
  ask_eq : source[d.item]? = some ask
  bid_eq : target[d.item]? = some bid
  ask_pos : 0 < ask.ask
  cost_eq : d.cost = ask.ask
  gain_eq : d.gain = bid.bid - ask.ask
  gain_pos : 0 < d.gain
  stock_eq : d.stock = ask.stock

/-- The price asked is below the one bid, as long as the difference of the two is an amount. -/
lemma Deal.Struck.ask_lt_bid_iff {source target : Market} {ask bid : Price} {d : Deal}
    (h : d.Struck source target ask bid) :
    ask.ask < bid.bid ↔ -2 ^ 63 ≤ bid.bid.toInt - ask.ask.toInt := by
  have hpos := h.gain_pos
  rw [h.gain_eq, Credits.sub_pos_iff h.ask_pos, Int64.lt_iff_toInt_lt] at hpos
  rw [Int64.lt_iff_toInt_lt]
  omega

/-- A deal is on the item for which it was looked, and gains. -/
lemma Deal.of_between?_eq_some {item : ItemId} {source target : Market} {ask : Price} {d : Deal}
    (hask : source[item]? = some ask) (h : Deal.between? item ask target = some d) :
    d.item = item ∧ ∃ bid, d.Struck source target ask bid := by
  rw [between?] at h
  split_ifs at h with hpos
  obtain ⟨bid, hbid, h⟩ := Option.bind_eq_some_iff.1 h
  split_ifs at h with hgain
  obtain rfl := Option.some.inj h
  exact ⟨rfl, bid, hask, hbid, hpos, rfl, rfl, hgain, rfl⟩

namespace Market

variable {source target : Market} {d : Deal}

/-- The deals between two markets are struck. -/
lemma of_mem_deals (h : d ∈ Market.deals source target) :
    ∃ ask bid, d.Struck source target ask bid := by
  obtain ⟨⟨item, ask⟩, hlisted, hbetween⟩ := List.mem_filterMap.1 h
  rw [Std.ExtTreeMap.mem_toList_iff_getElem?_eq_some] at hlisted
  exact ⟨ask, (Deal.of_between?_eq_some hlisted hbetween).2⟩

/-- **The deals between two markets are on different items.** -/
lemma pairwise_deals (source target : Market) :
    (Market.deals source target).Pairwise fun a b => a.item ≠ b.item := by
  refine List.pairwise_filterMap.2 (source.distinct_keys_toList.imp_of_mem ?_)
  rintro ⟨item, ask⟩ ⟨item', ask'⟩ hmem hmem' hne d hd d' hd'
  rw [Std.ExtTreeMap.mem_toList_iff_getElem?_eq_some] at hmem hmem'
  rw [(Deal.of_between?_eq_some hmem hd).1, (Deal.of_between?_eq_some hmem' hd').1]
  exact fun he => hne (Std.LawfulEqOrd.compare_eq_iff_eq.2 he)

end Market

/-! ### Lots -/

section Lots

variable {deals : List Deal} {margin : Float} {minGain : Credits}

/-- A lot is a deal whose gain, less the margin, is there and not too small. -/
lemma of_mem_discount {lot : Lot} (h : lot ∈ discount deals margin minGain) :
    lot.deal ∈ deals ∧ lot.unitGain = reducedGain margin lot.deal.gain ∧
      0 < lot.unitGain ∧ minGain ≤ lot.unitGain := by
  obtain ⟨d, hd, hlot⟩ := List.mem_filterMap.1 h
  dsimp only at hlot
  split_ifs at hlot with hgain
  obtain rfl := Option.some.inj hlot
  exact ⟨hd, rfl, hgain⟩

/-- Lots of deals on different items are on different items. -/
lemma pairwise_discount (h : deals.Pairwise fun a b => a.item ≠ b.item) :
    (discount deals margin minGain).Pairwise fun a b => a.deal.item ≠ b.deal.item := by
  refine List.pairwise_filterMap.2 (h.imp ?_)
  intro d d' hne lot hlot lot' hlot'
  dsimp only at hlot hlot'
  split_ifs at hlot hlot'
  obtain rfl := Option.some.inj hlot
  obtain rfl := Option.some.inj hlot'
  exact hne

end Lots

namespace Cargo

variable {limits : Limits} {lots : List Lot}

/-! ### The most units of a lot -/

lemma mostUnits_le_unitLimit (limits : Limits) (lot : Lot) :
    mostUnits limits lot ≤ limits.unitLimit :=
  (Nat.min_le_left _ _).trans (Nat.min_le_left _ _)

lemma mostUnits_le_stocked (limits : Limits) (lot : Lot) :
    mostUnits limits lot ≤ lot.deal.stock.elim limits.capacity (min limits.capacity) :=
  (Nat.min_le_left _ _).trans (Nat.min_le_right _ _)

lemma mostUnits_le_capacity (limits : Limits) (lot : Lot) :
    mostUnits limits lot ≤ limits.capacity := by
  refine (mostUnits_le_stocked limits lot).trans ?_
  cases lot.deal.stock with
  | none => exact le_rfl
  | some stock => exact Nat.min_le_left _ _

lemma mostUnits_le_stock {lot : Lot} {stock : Nat} (h : lot.deal.stock = some stock) :
    mostUnits limits lot ≤ stock := by
  have hstocked := mostUnits_le_stocked limits lot
  rw [h] at hstocked
  exact hstocked.trans (Nat.min_le_right _ _)

/-! ### Stowage -/

lemma of_stow?_eq_some {lot : Lot} {s : Stow} (h : stow? limits lot = some s) :
    s = ⟨lot, mostUnits limits lot⟩ := by
  rw [stow?] at h
  split_ifs at h
  exact (Option.some.inj h).symm

/-- What can be loaded is one of the lots, with the most units that can be had of it. -/
lemma of_mem_stowage {s : Stow} (h : s ∈ stowage limits lots) :
    s.lot ∈ lots ∧ s.most = mostUnits limits s.lot := by
  rw [stowage, List.mem_mergeSort] at h
  obtain ⟨lot, hlot, hs⟩ := List.mem_filterMap.1 h
  obtain rfl := of_stow?_eq_some hs
  exact ⟨hlot, rfl⟩

/-- Of lots on different items what can be loaded is on different items. -/
lemma pairwise_stowage (h : lots.Pairwise fun a b => a.deal.item ≠ b.deal.item) :
    (stowage limits lots).Pairwise fun a b => a.lot.deal.item ≠ b.lot.deal.item := by
  rw [stowage, (List.mergeSort_perm _ _).pairwise_iff fun hne => hne.symm]
  refine List.pairwise_filterMap.2 (h.imp ?_)
  intro lot lot' hne s hs s' hs'
  obtain rfl := of_stow?_eq_some hs
  obtain rfl := of_stow?_eq_some hs'
  exact hne

/-! ### Trades -/

/-- A trade is a quantity of one of the lots. -/
lemma of_mem_tradesOf {stows : List Stow} {quantities : List Nat} {t : Trade}
    (h : t ∈ tradesOf stows quantities) :
    ∃ s quantity, (s, quantity) ∈ stows.zip quantities ∧ 1 ≤ quantity ∧ s.trade quantity = t := by
  obtain ⟨⟨s, quantity⟩, hmem, rfl⟩ := List.mem_map.1 h
  obtain ⟨hzip, hpos⟩ := List.mem_filter.1 hmem
  exact ⟨s, quantity, hzip, of_decide_eq_true hpos, rfl⟩

/-- Quantities of lots on different items make trades on different items. -/
lemma nodup_tradesOf {stows : List Stow} {quantities : List Nat}
    (hlength : stows.length ≤ quantities.length)
    (h : stows.Pairwise fun a b => a.lot.deal.item ≠ b.lot.deal.item) :
    ((tradesOf stows quantities).map Trade.item).Nodup := by
  rw [← List.map_fst_zip hlength, List.pairwise_map] at h
  rw [tradesOf, List.map_map, List.Nodup, List.pairwise_map]
  exact h.filter _

/-- What is loaded gains. -/
lemma gain_pos_of_fit? {load : Load} (h : fit? lots limits = some load) :
    ∀ t ∈ load.trades, 0 < t.gain := by
  obtain ⟨first, rest, chosen, n, hs, -, -, -, -, rfl⟩ := of_fit?_eq_some h
  intro t ht
  obtain ⟨s, quantity, hzip, -, rfl⟩ := of_mem_tradesOf ht
  have hmem : s ∈ stowage limits lots :=
    hs ▸ List.mem_append_left rest (List.of_mem_zip hzip).1
  rw [stowage, List.mem_mergeSort] at hmem
  obtain ⟨lot, -, hlot⟩ := List.mem_filterMap.1 hmem
  rw [stow?] at hlot
  split_ifs at hlot with hstow
  obtain rfl := Option.some.inj hlot
  exact hstow.1

/-- A trade of a lot, of no more units than can be had of it. -/
structure Draws (limits : Limits) (lot : Lot) (t : Trade) : Prop where
  item_eq : t.item = lot.deal.item
  cost_eq : t.cost = lot.deal.cost
  gain_eq : t.gain = lot.unitGain
  quantity_pos : 1 ≤ t.quantity
  quantity_le : t.quantity ≤ mostUnits limits lot

/-- What stands behind a load: it has trades, on different items, and each draws on a lot. -/
structure Stowed (limits : Limits) (lots : List Lot) (load : Load) : Prop where
  trades_ne_nil : load.trades ≠ []
  nodup : (load.trades.map Trade.item).Nodup
  draws : ∀ t ∈ load.trades, ∃ lot ∈ lots, Draws limits lot t

/-- **Every trade of a load draws on a lot**, and no two are on one item as long as no two lots
are. -/
theorem fit?_stowed {load : Load} (hlots : lots.Pairwise fun a b => a.deal.item ≠ b.deal.item)
    (h : fit? lots limits = some load) : Stowed limits lots load := by
  obtain ⟨first, rest, chosen, n, hs, hn, -, -, -, hload⟩ := of_fit?_eq_some h
  have htrades : load.trades = tradesOf first chosen.reverse := by rw [hload]
  have hbalanced := fit?_balanced h
  refine ⟨fun hnil => ?_, ?_, fun t ht => ?_⟩
  · have hgain := hbalanced.gain_pos
    rw [hbalanced.gain_eq, hnil] at hgain
    exact absurd hgain (by decide)
  · rw [htrades]
    have hfirst : (stowage limits lots).Pairwise _ := pairwise_stowage hlots
    rw [hs, List.pairwise_append] at hfirst
    exact nodup_tradesOf (by simp [hn.length_eq]) hfirst.1
  · rw [htrades] at ht
    obtain ⟨s, quantity, hzip, hpos, rfl⟩ := of_mem_tradesOf ht
    obtain ⟨hlot, hmost⟩ : s.lot ∈ lots ∧ s.most = mostUnits limits s.lot := by
      refine of_mem_stowage ?_
      rw [hs]
      exact List.mem_append_left _ (List.of_mem_zip hzip).1
    exact ⟨s.lot, hlot, ⟨rfl, rfl, rfl, hpos, hmost ▸ hn.quantity_le _ hzip⟩⟩

end Cargo

end TradeRun
