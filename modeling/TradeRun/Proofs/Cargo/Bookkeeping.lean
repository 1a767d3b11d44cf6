import TradeRun.Proofs.Cargo.Amounts

/-!
The books of a load: what the search for a load keeps adds up.

The search carries totals and what is left of space and money along with the quantities that it
tries. These stand in one list that every branch overwrites and sets back, and the trades of a load
are put together from a copy of it only at the end.

* `spread`: what stands in the list when quantities are chosen for the first lots: nothing of those
  after them. `quantities_descend` says that a branch leaves the list as it found it;
* `Node.Settled`: the invariant of a place before some lot. The quantities chosen can be had, its
  totals are those of the trades that they stand for, and what is left is what the limits allow less
  these totals, which never overdraws the money;
* `Node.Settled.take`: a quantity of one more lot keeps it, as long as there is room;
* `Tally.Settled`: the best load found is that of a settled place. `descend_settled` carries this
  through the whole search, also when the visits run out: a branch that is not entered leaves the
  best load as it is;
* `of_fit?_eq_some`: a load is put together from a settled place;
* `fit?_balanced`: the totals of a load are those of its trades, it keeps to space and money, and it
  gains.

Costs are whole numbers throughout, as what is paid is never more than the money. A gain counts its
sum, and is that sum only if it fits an amount.
-/

namespace TradeRun

/-- A load whose totals are those of its trades, within the limits, that gains. -/
structure Load.Balanced (limits : Limits) (load : Load) : Prop where
  gain_eq : load.gain = Trade.gainOf load.trades
  cost_eq : load.cost = Trade.costOf load.trades
  whole_cost : load.cost.toInt = (load.trades.map Trade.wholeCost).sum
  units_eq : load.units = Trade.unitsOf load.trades
  cost_le : load.cost ≤ limits.credits
  units_le : load.units ≤ limits.capacity
  gain_pos : 1 ≤ load.gain

namespace Cargo

/-! ### The list of quantities -/

/-- What stands in the list when quantities are chosen for the first lots, the last one's first:
nothing of the lots that are left. -/
def spread (chosen : List Nat) (left : Nat) : List Nat := chosen.reverse ++ List.replicate left 0

@[simp] lemma length_spread (chosen : List Nat) (left : Nat) :
    (spread chosen left).length = chosen.length + left := by
  simp [spread]

/-- No units of a lot are what stands there before it is tried. -/
lemma spread_zero_cons (chosen : List Nat) (left : Nat) :
    spread (0 :: chosen) left = spread chosen (left + 1) := by
  simp [spread, List.replicate_succ]

/-- One quantity of the last lot is replaced by another. -/
lemma set_spread (chosen : List Nat) (left quantity other : Nat) :
    (spread (quantity :: chosen) left).set chosen.length other = spread (other :: chosen) left := by
  simp [spread, List.set_append_right]

/-- What going deeper keeps for each quantity that is tried is kept by all trials. -/
lemma tryQuantities_induction {P : Tally → Prop} {deeper : Node → Tally → Tally}
    {nextGain : Credits} {s : Stow} {index : Nat} {n : Node} {quantity : Nat} {t : Tally}
    (hdeeper : ∀ q ≤ quantity, ∀ t, P t → P (deeper (n.take s q) (t.put index q))) (ht : P t) :
    P (tryQuantities deeper nextGain s index n quantity t) := by
  induction quantity generalizing t with
  | zero =>
      rw [tryQuantities]
      split
      · exact ht
      · exact hdeeper 0 le_rfl t ht
  | succ quantity ih =>
      rw [tryQuantities]
      split
      · exact ht
      · exact ih (fun q hq => hdeeper q (by omega)) (hdeeper _ le_rfl t ht)

/-- The record holds the quantities chosen for the first lots, and some quantity of the next. -/
def Tally.Tries (chosen : List Nat) (left : Nat) (t : Tally) : Prop :=
  ∃ quantity, t.quantities = spread (quantity :: chosen) left

namespace Tally

variable {chosen : List Nat} {left : Nat} {t : Tally}

@[simp] lemma quantities_visit (t : Tally) (totals : Totals) :
    (t.visit totals).quantities = t.quantities := by
  rw [visit]
  split <;> rfl

lemma Tries.put (h : t.Tries chosen left) (quantity : Nat) :
    (t.put chosen.length quantity).quantities = spread (quantity :: chosen) left := by
  obtain ⟨other, hother⟩ := h
  rw [Tally.put, hother, set_spread]

end Tally

/-- **A branch leaves the list of quantities as it found it**: nothing is left of what it tried. -/
lemma quantities_descend : ∀ {rest : List Stow} (chosen : List Nat) {n : Node} {t : Tally},
    t.quantities = spread chosen rest.length →
      (descend rest chosen.length n t).quantities = spread chosen rest.length
  | [], _, _, t, ht => by rw [descend, t.quantities_visit, ht]
  | s :: rest, chosen, n, t, ht => by
      rw [descend]
      split
      · rw [t.quantities_visit, ht]
      · have htries : (tryQuantities (descend rest (chosen.length + 1)) (nextGain rest) s
            chosen.length n (n.room s) (t.visit n.totals)).Tries chosen rest.length := by
          refine tryQuantities_induction (fun q _ t ht => ⟨q, ?_⟩) ⟨0, ?_⟩
          · exact quantities_descend (q :: chosen) (ht.put q)
          · rw [t.quantities_visit, ht, List.length_cons, spread_zero_cons]
        rw [htries.put, spread_zero_cons, List.length_cons]

/-! ### Trades of quantities -/

@[simp] lemma tradesOf_nil (stows : List Stow) : tradesOf stows [] = [] := by
  simp [tradesOf]

/-- The trades of further lots come last. -/
lemma tradesOf_append {stows : List Stow} {quantities : List Nat}
    (h : quantities.length = stows.length) (more : List Stow) (further : List Nat) :
    tradesOf (stows ++ more) (quantities ++ further)
      = tradesOf stows quantities ++ tradesOf more further := by
  rw [tradesOf, List.zip_append h.symm, List.filter_append, List.map_append]
  rfl

lemma tradesOf_append_singleton {stows : List Stow} {quantities : List Nat}
    (h : quantities.length = stows.length) (s : Stow) (quantity : Nat) :
    tradesOf (stows ++ [s]) (quantities ++ [quantity])
      = tradesOf stows quantities ++ if 0 < quantity then [s.trade quantity] else [] := by
  rw [tradesOf_append h]
  by_cases hq : 0 < quantity <;> simp [tradesOf, hq]

/-- Lots of which nothing is taken are not traded. -/
lemma tradesOf_replicate_zero (stows : List Stow) (n : Nat) :
    tradesOf stows (List.replicate n 0) = [] := by
  rw [tradesOf, List.map_eq_nil_iff, List.filter_eq_nil_iff]
  rintro ⟨s, quantity⟩ hmem
  simp [List.eq_of_mem_replicate (List.of_mem_zip hmem).2]

lemma tradesOf_spread {first : List Stow} {chosen : List Nat} (h : chosen.length = first.length)
    (rest : List Stow) :
    tradesOf (first ++ rest) (spread chosen rest.length) = tradesOf first chosen.reverse := by
  rw [spread, tradesOf_append (by simp [h]), tradesOf_replicate_zero, List.append_nil]

/-- The totals of a list of trades. -/
def Totals.ofTrades (trades : List Trade) : Totals :=
  ⟨Trade.gainOf trades, Trade.costOf trades, Trade.unitsOf trades⟩

/-- A further quantity of a lot adds to the totals of the trades what it adds to the totals that
are carried along, also when it is zero and there is no trade. -/
lemma Totals.ofTrades_append (trades : List Trade) (s : Stow) (quantity : Nat) :
    Totals.ofTrades (trades ++ if 0 < quantity then [s.trade quantity] else [])
      = (Totals.ofTrades trades).add s quantity := by
  rcases Nat.eq_zero_or_pos quantity with rfl | hq
  · simp [Totals.add, Totals.ofTrades]
  · simp [Totals.ofTrades, Totals.add, Trade.gainOf, Trade.costOf, Trade.unitsOf_eq_sum, hq,
      Trade.totalGain, Trade.totalCost, Stow.trade, Int64.mul_comm]

/-- The price of a further quantity of a lot, as a whole number. -/
lemma sum_wholeCost_append (trades : List Trade) (s : Stow) (quantity : Nat) :
    ((trades ++ if 0 < quantity then [s.trade quantity] else []).map Trade.wholeCost).sum
      = (trades.map Trade.wholeCost).sum + quantity * s.cost.toInt := by
  rcases Nat.eq_zero_or_pos quantity with rfl | hq
  · simp
  · simp [hq, Trade.wholeCost, Stow.trade]

/-! ### Places -/

/-- A place after some lots whose books are in order: no more of a lot is chosen than can be had,
the totals are those of the trades chosen, and what is left of space and money is what the limits
allow less the totals. -/
structure Node.Settled (limits : Limits) (stows : List Stow) (chosen : List Nat) (n : Node) :
    Prop where
  length_eq : chosen.length = stows.length
  quantity_le : ∀ p ∈ stows.zip chosen.reverse, p.2 ≤ p.1.most
  totals_eq : n.totals = Totals.ofTrades (tradesOf stows chosen.reverse)
  whole_cost : n.totals.cost.toInt = ((tradesOf stows chosen.reverse).map Trade.wholeCost).sum
  space_add_units : n.space + n.totals.units = limits.capacity
  credits_add_cost : n.credits.toInt + n.totals.cost.toInt = limits.credits.toInt
  credits_nonneg : 0 ≤ n.credits
  cost_nonneg : 0 ≤ n.totals.cost.toInt

/-- What there is room for can be paid for. -/
lemma Node.mul_cost_le_of_le_room {n : Node} {s : Stow} {quantity : Nat} (hn : 0 ≤ n.credits)
    (h : quantity ≤ n.room s) : quantity * s.cost.toInt ≤ n.credits.toInt :=
  mul_le_of_le_affordable hn (h.trans (Nat.min_le_right _ _))

lemma Node.room_le_space (n : Node) (s : Stow) : n.room s ≤ n.space :=
  (Nat.min_le_left _ _).trans (Nat.min_le_right _ _)

/-- The money that is left after units for which there is room. -/
lemma Node.toInt_credits_take {n : Node} {s : Stow} {quantity : Nat} (hn : 0 ≤ n.credits)
    (hcost : 0 < s.cost) (h : quantity ≤ n.room s) :
    (n.take s quantity).credits.toInt = n.credits.toInt - quantity * s.cost.toInt := by
  have hpaid := mul_cost_le_of_le_room hn h
  have hprice := Credits.mul_toInt_nonneg quantity hcost
  refine Credits.toInt_sub_mul (Credits.Fits.mono (Credits.fits_toInt 0)
    (Credits.fits_toInt n.credits) ?_ ?_)
  · rw [Int64.toInt_zero]
    linarith
  · linarith

namespace Node.Settled

variable {limits : Limits} {stows : List Stow} {chosen : List Nat} {n : Node}

/-- The place before the first lot is settled. -/
lemma start (h : 0 ≤ limits.credits) : (Node.start limits).Settled limits [] [] where
  length_eq := rfl
  quantity_le := by simp
  totals_eq := rfl
  whole_cost := rfl
  space_add_units := by simp [Node.start]
  credits_add_cost := by simp [Node.start]
  credits_nonneg := h
  cost_nonneg := by simp [Node.start]

/-- The price of units for which there is room is a whole number. -/
lemma toInt_cost_take (h : n.Settled limits stows chosen) {s : Stow} {quantity : Nat}
    (hcost : 0 < s.cost) (hroom : quantity ≤ n.room s) :
    (n.take s quantity).totals.cost.toInt = n.totals.cost.toInt + quantity * s.cost.toInt := by
  have hpaid := mul_cost_le_of_le_room h.credits_nonneg hroom
  have hprice := Credits.mul_toInt_nonneg quantity hcost
  have hcredits := h.credits_add_cost
  have hnonneg := h.cost_nonneg
  refine Credits.toInt_add_mul (Credits.Fits.mono (Credits.fits_toInt 0)
    (Credits.fits_toInt limits.credits) ?_ ?_)
  · rw [Int64.toInt_zero]
    linarith
  · linarith

/-- A quantity of one more lot, for which there is room, keeps the books in order. -/
lemma take (h : n.Settled limits stows chosen) {s : Stow} {quantity : Nat} (hcost : 0 < s.cost)
    (hroom : quantity ≤ n.room s) :
    (n.take s quantity).Settled limits (stows ++ [s]) (quantity :: chosen) := by
  have hlength : chosen.reverse.length = stows.length := by simp [h.length_eq]
  have htrades := tradesOf_append_singleton hlength s quantity
  have hpaid := mul_cost_le_of_le_room h.credits_nonneg hroom
  have hcredits := toInt_credits_take h.credits_nonneg hcost hroom
  have htotal := h.toInt_cost_take hcost hroom
  rw [← List.reverse_cons] at htrades
  exact {
    length_eq := by simp [h.length_eq]
    quantity_le := by
      have hmost : quantity ≤ s.most :=
        hroom.trans ((Nat.min_le_left _ _).trans (Nat.min_le_left _ _))
      rw [List.reverse_cons, List.zip_append hlength.symm]
      intro p hp
      rcases List.mem_append.1 hp with hp | hp
      · exact h.quantity_le p hp
      · obtain rfl := List.mem_singleton.1 hp
        exact hmost
    totals_eq := by rw [htrades, Totals.ofTrades_append, ← h.totals_eq]; rfl
    whole_cost := by rw [htrades, sum_wholeCost_append, ← h.whole_cost, htotal]
    space_add_units := by
      have hspace := hroom.trans (n.room_le_space s)
      have hunits := h.space_add_units
      simp only [Node.take, Totals.add]
      omega
    credits_add_cost := by
      have hbefore := h.credits_add_cost
      linarith
    credits_nonneg := by
      rw [Int64.le_iff_toInt_le, hcredits, Int64.toInt_zero]
      linarith
    cost_nonneg := by
      have hnonneg := h.cost_nonneg
      have hprice := Credits.mul_toInt_nonneg quantity hcost
      linarith }

end Node.Settled

/-! ### The search -/

/-- The best load found so far is that of a settled place after the first of the lots. -/
def Tally.Settled (limits : Limits) (stows : List Stow) (t : Tally) : Prop :=
  ∃ first rest chosen n, stows = first ++ rest ∧ Node.Settled limits first chosen n ∧
    t.best = n.totals ∧ t.bestQuantities = spread chosen rest.length

section Search

variable {limits : Limits} {stows : List Stow}

/-- Nothing found yet is the load of the place before the first lot. -/
lemma Tally.settled_start (h : 0 ≤ limits.credits) :
    (Tally.start stows.length).Settled limits stows :=
  ⟨[], stows, [], Node.start limits, rfl, .start h, rfl, rfl⟩

/-- A visit keeps what was found, or the settled place that is visited. -/
lemma Tally.Settled.visit {first rest : List Stow} {chosen : List Nat} {t : Tally} {n : Node}
    (ht : t.Settled limits stows) (hs : stows = first ++ rest) (hn : n.Settled limits first chosen)
    (hquantities : t.quantities = spread chosen rest.length) :
    (t.visit n.totals).Settled limits stows := by
  rw [Tally.visit]
  split
  · exact ⟨first, rest, chosen, n, hs, hn, rfl, hquantities⟩
  · exact ht

/-- The search from a settled place keeps the best load settled, whether or not the visits run out
on the way. -/
lemma descend_settled (hcost : ∀ s ∈ stows, 0 < s.cost) :
    ∀ {rest first : List Stow} (chosen : List Nat) {n : Node} {t : Tally},
      stows = first ++ rest → n.Settled limits first chosen →
      t.quantities = spread chosen rest.length → t.Settled limits stows →
        (descend rest chosen.length n t).Settled limits stows
  | [], _, _, _, _, hs, hn, hquantities, ht => ht.visit hs hn hquantities
  | s :: rest, first, chosen, n, t, hs, hn, hquantities, ht => by
      have hvisit := ht.visit hs hn hquantities
      have hs' : stows = (first ++ [s]) ++ rest := by simp [hs]
      have hpos : 0 < s.cost := hcost s (by simp [hs])
      rw [descend]
      split
      · exact hvisit
      · -- with the best load the list of quantities is kept in order, from one trial to the next
        refine (tryQuantities_induction (P := fun t => t.Tries chosen rest.length ∧
          t.Settled limits stows) (fun q hq t ht => ⟨⟨q, ?_⟩, ?_⟩) ⟨⟨0, ?_⟩, hvisit⟩).2
        · exact quantities_descend (q :: chosen) (ht.1.put q)
        · exact descend_settled hcost (q :: chosen) hs' (hn.take hpos hq) (ht.1.put q) ht.2
        · rw [t.quantities_visit, hquantities, List.length_cons, spread_zero_cons]

lemma search_settled (hcost : ∀ s ∈ stows, 0 < s.cost) (h : 0 ≤ limits.credits) :
    (search limits stows).Settled limits stows :=
  descend_settled hcost [] rfl (.start h) rfl (Tally.settled_start h)

end Search

/-! ### The load -/

/-- What can be loaded costs something. -/
lemma cost_pos_of_mem_stowage {limits : Limits} {lots : List Lot} :
    ∀ s ∈ stowage limits lots, 0 < s.cost := by
  intro s hs
  rw [stowage, List.mem_mergeSort] at hs
  obtain ⟨lot, -, hlot⟩ := List.mem_filterMap.1 hs
  rw [stow?] at hlot
  split_ifs at hlot with h
  obtain rfl := Option.some.inj hlot
  exact h.2.1

/-- A load is put together from the settled place that the search found to be the best, after the
first of the lots that can be loaded. -/
lemma of_fit?_eq_some {lots : List Lot} {limits : Limits} {load : Load}
    (h : fit? lots limits = some load) :
    ∃ first rest chosen n, stowage limits lots = first ++ rest ∧
      Node.Settled limits first chosen n ∧
      (search limits (stowage limits lots)).best = n.totals ∧
      (search limits (stowage limits lots)).bestQuantities = spread chosen rest.length ∧
      0 < n.totals.gain ∧
      load = {
        trades := tradesOf first chosen.reverse
        gain := n.totals.gain
        cost := n.totals.cost
        units := n.totals.units } := by
  simp only [fit?] at h
  split_ifs at h with hnone hgain
  obtain rfl := Option.some.inj h
  rw [not_or, Int64.not_le] at hnone
  rw [Int64.not_le] at hgain
  have hfound : (search limits (stowage limits lots)).Settled limits (stowage limits lots) :=
    search_settled cost_pos_of_mem_stowage (Int64.le_of_lt hnone.2)
  obtain ⟨first, rest, chosen, n, hs, hn, hbest, hquantities⟩ := hfound
  rw [hbest] at hgain
  refine ⟨first, rest, chosen, n, hs, hn, hbest, hquantities, hgain, ?_⟩
  rw [hbest, hquantities, hs, tradesOf_spread hn.length_eq]

/-- Nothing is loaded without money. -/
lemma credits_pos_of_fit? {lots : List Lot} {limits : Limits} {load : Load}
    (h : fit? lots limits = some load) : 0 < limits.credits := by
  simp only [fit?] at h
  split_ifs at h with hnone
  exact Int64.not_le.1 (not_or.1 hnone).2

/-- **The books of a load**: the totals that the search kept are those of the trades put together
from its quantities, they keep to the limits, and the load gains. -/
theorem fit?_balanced {lots : List Lot} {limits : Limits} {load : Load}
    (h : fit? lots limits = some load) : load.Balanced limits := by
  obtain ⟨first, rest, chosen, n, -, hn, -, -, hgain, rfl⟩ := of_fit?_eq_some h
  have hspace := hn.space_add_units
  have hcredits := hn.credits_add_cost
  have hleft := Int64.le_iff_toInt_le.1 hn.credits_nonneg
  exact {
    gain_eq := congrArg Totals.gain hn.totals_eq
    cost_eq := congrArg Totals.cost hn.totals_eq
    whole_cost := hn.whole_cost
    units_eq := congrArg Totals.units hn.totals_eq
    cost_le := by
      rw [Int64.toInt_zero] at hleft
      rw [Int64.le_iff_toInt_le]
      linarith
    units_le := by dsimp only; omega
    gain_pos := Credits.one_le_iff.2 hgain }

end Cargo

end TradeRun
