import TradeRun.Proofs.Cargo.Manifest

/-!
What can be relied on when the visits of a search for a load run out.

The search first takes as many units of each lot as there is room for, and only then turns back. So
the visits that it needs to find something are few, and what it gives up later is no more than a
better load.

* `Lot.Obtainable`: a unit of the lot can be bought, and gains;
* `GainsFit`: the bound at the top of the search is an amount. Then all that the search adds up is,
  and it is a search over whole numbers (`whole_search`). Otherwise the bound may wrap around to a
  negative amount, and nothing at all is loaded (`fit?_eq_none_of_bound_neg`);
* `Choice.fill`: the load that takes as many units of each lot in turn as there is room for;
* `explore_enters`: the search goes that way first, `fill_gain_le_explore`: so that it gains no
  less, as long as there are visits for all lots;
* `fit?_eq_none_iff`: there is a load just when some lot is obtainable, however few the visits are;
* `descend?`: the search in which more units than there is space for are an error.
  `descend?_eq_some` says that none is ever met;
* `fit_safe`: **what can be relied on**, however many visits the search has made.
-/

namespace TradeRun

/-- A unit of the lot can be bought, and gains. -/
structure Lot.Obtainable (limits : Limits) (lot : Lot) : Prop where
  gain_pos : 0 < lot.unitGain
  cost_pos : 0 < lot.deal.cost
  capacity_pos : 0 < limits.capacity
  unitLimit_pos : 0 < limits.unitLimit
  stock_ne_zero : lot.deal.stock ≠ some 0
  cost_le : lot.deal.cost ≤ limits.credits

lemma Lot.Obtainable.credits_pos {limits : Limits} {lot : Lot} (h : lot.Obtainable limits) :
    0 < limits.credits :=
  Int64.lt_of_lt_of_le h.cost_pos h.cost_le

namespace Cargo

variable {limits : Limits} {lots : List Lot}

/-! ### What can be loaded -/

/-- A lot can be loaded just when a unit of it can be bought. -/
lemma loadable_iff_obtainable {lot : Lot} : loadable limits lot ↔ lot.Obtainable limits := by
  rw [loadable_iff]
  constructor
  · rintro ⟨hgain, hcost, hmost⟩
    exact {
      gain_pos := hgain
      cost_pos := hcost
      capacity_pos := hmost.trans_le (mostUnits_le_capacity limits lot)
      unitLimit_pos := hmost.trans_le (mostUnits_le_unitLimit limits lot)
      stock_ne_zero := fun hstock => hmost.not_ge (mostUnits_le_stock hstock)
      cost_le := (affordable_pos_iff hcost).1 (hmost.trans_le (Nat.min_le_right _ _)) }
  · intro h
    have hstocked : 0 < lot.deal.stock.elim limits.capacity (min limits.capacity) := by
      cases hstock : lot.deal.stock with
      | none => exact h.capacity_pos
      | some stock =>
          have hne : stock ≠ 0 := fun hzero => h.stock_ne_zero (hzero ▸ hstock)
          exact lt_min h.capacity_pos (Nat.pos_of_ne_zero hne)
    have hpaid := (affordable_pos_iff h.cost_pos).2 h.cost_le
    exact ⟨h.gain_pos, h.cost_pos, lt_min (lt_min h.unitLimit_pos hstocked) hpaid⟩

lemma exists_mem_stowage {lot : Lot} (hlot : lot ∈ lots) (h : lot.Obtainable limits) :
    ∃ s ∈ stowage limits lots, s.lot = lot := by
  obtain ⟨i, rfl⟩ := List.mem_iff_get.1 hlot
  have hi : i ∈ loadingOrder limits lots := mem_loadingOrder.2 (loadable_iff_obtainable.2 h)
  rw [stowage_eq]
  exact ⟨stowAt limits lots i, List.mem_map_of_mem hi, rfl⟩

lemma obtainable_of_mem_stowage {s : Stow} (h : s ∈ stowage limits lots) :
    s.lot ∈ lots ∧ s.lot.Obtainable limits := by
  rw [stowage_eq] at h
  obtain ⟨i, hi, rfl⟩ := List.mem_map.1 h
  exact ⟨List.get_mem lots i, loadable_iff_obtainable.1 (mem_loadingOrder.1 hi)⟩

lemma stowage_eq_nil_iff :
    stowage limits lots = [] ↔ ∀ lot ∈ lots, ¬ lot.Obtainable limits := by
  rw [List.eq_nil_iff_forall_not_mem]
  constructor
  · intro hnone lot hlot h
    obtain ⟨s, hs, -⟩ := exists_mem_stowage hlot h
    exact hnone s hs
  · intro h s hs
    exact h s.lot (obtainable_of_mem_stowage hs).1 (obtainable_of_mem_stowage hs).2

/-! ### Gains that fit -/

/-- What the hold full of any lot that can be had would gain is an amount. That of the lot which
gains most is the first bound that the search looks at, and no sum that comes later is greater. -/
def GainsFit (limits : Limits) (lots : List Lot) : Prop :=
  ∀ lot ∈ lots, lot.Obtainable limits → lot.unitGain.toInt * limits.capacity < 2 ^ 63

/-- The most that a unit may gain so that a hold full of it gains an amount. -/
def mostGain (limits : Limits) : Int := (2 ^ 63 - 1) / limits.capacity

lemma GainsFit.moderate (h : GainsFit limits lots) :
    Moderate (mostGain limits) (stowage limits lots) where
  most_nonneg := Int.ediv_nonneg (by decide) (Int.natCast_nonneg _)
  gain_nonneg := (stowage_declining limits lots).gain_nonneg
  gain_le := by
    intro s hs
    obtain ⟨hlot, hobtainable⟩ := obtainable_of_mem_stowage hs
    have hcapacity : 0 < (limits.capacity : Int) := Int.natCast_pos.2 hobtainable.capacity_pos
    exact (Int.le_ediv_iff_mul_le hcapacity).2 (Int.le_sub_one_of_lt (h s.lot hlot hobtainable))

lemma modest_start (limits : Limits) : (Node.start limits).Modest (mostGain limits) where
  gain_nonneg := le_rfl
  fill_lt := by
    have hgain : (Node.start limits).totals.gain.toInt = 0 := rfl
    have hspace : (Node.start limits).space = limits.capacity := rfl
    rw [hgain, hspace, zero_add, mul_comm]
    by_cases hcapacity : (limits.capacity : Int) = 0
    · rw [hcapacity, mul_zero]
      decide
    · exact Int.lt_of_le_sub_one (Int.ediv_mul_le _ hcapacity)

/-- **A search whose gains fit is the one over whole numbers.** -/
lemma whole_search (h : GainsFit limits lots) (hcredits : 0 ≤ limits.credits) :
    (search limits (stowage limits lots)).whole
      = explore (stowage limits lots) (Choice.start limits) {} := by
  have hstart : (Tally.start (stowage limits lots).length).whole = {} :=
    congrArg (Found.mk {} · 0) (funext (getD_spread [] _))
  rw [← hstart]
  exact whole_descend [] cost_pos_of_mem_stowage h.moderate (.start hcredits) (modest_start limits)
    rfl

/-! ### The way that is searched first -/

/-- The choice that takes as many units of each lot in turn as there is room for. -/
def Choice.fill : List Stow → Choice → Choice
  | [], c => c
  | s :: rest, c => fill rest (c.take s (c.room s))

/-- Units of a lot that loses nothing do not lower the gain. -/
lemma Choice.gain_le_take {s : Stow} {rest : List Stow} (c : Choice)
    (h : Declining (s :: rest)) (quantity : Nat) :
    c.totals.gain ≤ (c.take s quantity).totals.gain := by
  have hgain : 0 ≤ quantity * s.gain.toInt :=
    mul_nonneg (Int.natCast_nonneg _) (h.gain_nonneg s List.mem_cons_self)
  simp only [take, Sums.add]
  linarith

section Search

variable {s : Stow} {rest : List Stow} {c : Choice} {f : Found}

/-- The search of a branch finds no less than its top. -/
lemma gain_le_explore (rest : List Stow) (c : Choice) (f : Found) :
    c.totals.gain ≤ (explore rest c f).best.gain :=
  (f.gain_le_visit c).trans (explore_advances_visit rest c f).gain_le

/-- As long as the bound allows for the first quantity tried, what it leads to is found. -/
lemma gain_le_tryChoices {next : Int} {quantity : Nat}
    (hbound : f.best.gain ≤ (c.take s quantity).bound next) :
    (explore rest (c.take s quantity) f).best.gain
      ≤ (tryChoices (explore rest) next s c quantity f).best.gain := by
  cases quantity with
  | zero => rw [tryChoices, if_neg (not_lt.2 hbound)]
  | succ quantity =>
      rw [tryChoices, if_neg (not_lt.2 hbound)]
      exact (tryChoices_advances (explore_advances rest) quantity _).gain_le

/-- **The search first takes as many units of a lot as there is room for**, unless the visits have
run out, as long as nothing better has been found before. -/
lemma explore_enters (hrest : Declining (s :: rest)) (hgain : f.best.gain ≤ c.totals.gain)
    (hvisits : f.visits < visitBudget) (hspace : c.space ≠ 0) :
    (explore rest (c.take s (c.room s)) (f.visit c)).best.gain
      ≤ (explore (s :: rest) c f).best.gain := by
  have hbest : (f.visit c).best.gain ≤ c.totals.gain := by
    rcases f.visit_cases c with ⟨hbest, -⟩ | ⟨hbest, -⟩
    · rw [hbest]
    · rwa [hbest]
  have hspent : ¬ visitBudget < (f.visit c).visits := by
    rw [f.visits_visit]
    omega
  have hbound : ¬ c.bound s.gain.toInt < (f.visit c).best.gain :=
    not_lt.2 (hbest.trans (c.le_bound (hrest.gain_nonneg s List.mem_cons_self)))
  rw [explore, if_neg (not_or.2 ⟨hspace, not_or.2 ⟨hspent, hbound⟩⟩)]
  refine gain_le_tryChoices (hbest.trans ?_)
  exact (c.gain_le_take hrest _).trans ((c.take s _).le_bound hrest.tail.nextGain_nonneg)

end Search

/-! ### Whether there is a load -/

/-- Before anything is loaded there is room for a unit of each lot that can be loaded. -/
lemma room_start_pos {s : Stow} (h : s ∈ stowage limits lots) :
    0 < (Choice.start limits).room s := by
  obtain ⟨-, hs⟩ := obtainable_of_mem_stowage h
  have hmost : 0 < s.most :=
    (of_mem_stowage h).2 ▸ (loadable_iff.1 (loadable_iff_obtainable.2 hs)).2.2
  have hpaid : (1 : Nat) * s.cost.toInt ≤ limits.credits.toInt := by
    rw [Nat.cast_one, one_mul]
    exact Int64.le_iff_toInt_le.1 hs.cost_le
  exact lt_min (lt_min hmost hs.capacity_pos)
    (le_toNat_ediv (Int64.lt_iff_toInt_lt.1 hs.cost_pos) hpaid)

/-- As soon as a unit of some lot can be bought a search over whole numbers finds a load that
gains. -/
lemma explore_gain_pos (h : stowage limits lots ≠ []) :
    0 < (explore (stowage limits lots) (Choice.start limits) {}).best.gain := by
  obtain ⟨s, rest, hstowage⟩ := List.exists_cons_of_ne_nil h
  have hs : s ∈ stowage limits lots := hstowage ▸ List.mem_cons_self
  have hobtainable := (obtainable_of_mem_stowage hs).2
  have hdeclining := stowage_declining limits lots
  have hgain : 0 < ((Choice.start limits).take s ((Choice.start limits).room s)).totals.gain := by
    have hproduct : 0 < ((Choice.start limits).room s : Int) * s.gain.toInt :=
      mul_pos (Int.natCast_pos.2 (room_start_pos hs)) (Int64.lt_iff_toInt_lt.1 hobtainable.gain_pos)
    simpa [Choice.take, Sums.add, Choice.start] using hproduct
  rw [hstowage] at hdeclining ⊢
  calc 0 < _ := hgain
    _ ≤ _ := gain_le_explore rest _ ((Found.visit {} (Choice.start limits)))
    _ ≤ _ := explore_enters hdeclining le_rfl (by decide) hobtainable.capacity_pos.ne'

/-- There is no load where the search gains nothing. -/
lemma fit?_eq_none_of_gain (h : (search limits (stowage limits lots)).best.gain ≤ 0) :
    fit? lots limits = none := by
  simp only [fit?, h, if_true, ite_self]

/-- There is a load where the search gains something. -/
lemma fit?_ne_none_of_gain (hcapacity : 0 < limits.capacity) (hcredits : 0 < limits.credits)
    (h : 0 < (search limits (stowage limits lots)).best.gain) : fit? lots limits ≠ none := by
  rw [fit?, if_neg (not_or.2 ⟨hcapacity.ne', Int64.not_le.2 hcredits⟩)]
  dsimp only
  rw [if_neg (Int64.not_le.2 h)]
  exact Option.some_ne_none _

/-- Where no unit of any lot can be bought there is no load. -/
lemma fit?_eq_none_of_forall (h : ∀ lot ∈ lots, ¬ lot.Obtainable limits) :
    fit? lots limits = none := by
  have hgain : (search limits []).best.gain = 0 := rfl
  refine fit?_eq_none_of_gain ?_
  rw [stowage_eq_nil_iff.2 h, hgain]
  decide

lemma exists_obtainable_of_fit? {load : Load} (h : fit? lots limits = some load) :
    ∃ lot ∈ lots, lot.Obtainable limits := by
  by_contra hnone
  push Not at hnone
  rw [fit?_eq_none_of_forall hnone] at h
  cases h

/-- **There is no load just when no unit of any lot can be bought**, if the gains fit. -/
lemma fit?_eq_none_iff (hgains : GainsFit limits lots) :
    fit? lots limits = none ↔ ∀ lot ∈ lots, ¬ lot.Obtainable limits := by
  refine ⟨fun hnone lot hlot h => ?_, fit?_eq_none_of_forall⟩
  have hstowage : stowage limits lots ≠ [] := fun hnil => stowage_eq_nil_iff.1 hnil lot hlot h
  have hpos := explore_gain_pos hstowage
  rw [← whole_search hgains (Int64.le_of_lt h.credits_pos)] at hpos
  exact fit?_ne_none_of_gain h.capacity_pos h.credits_pos (Int64.lt_iff_toInt_lt.2 hpos) hnone

/-- A manifest that fits gains an amount, if the gains fit: no more than the hold full. -/
lemma GainsFit.fits_gain (h : GainsFit limits lots) {q : Manifest lots} (hq : q.Fits limits) :
    Credits.Fits q.gain := by
  have hnonneg : ∀ i, 0 ≤ q i * (lots.get i).unitGain.toInt := by
    intro i
    by_cases hi : loadable limits (lots.get i)
    · exact Credits.mul_toInt_nonneg (q i) (loadable_iff.1 hi).1
    · simp [hq.eq_zero_of_not_loadable i hi]
  have hle : q.gain ≤ q.units * mostGain limits := by
    rw [Manifest.gain, Manifest.units, Nat.cast_sum, Finset.sum_mul]
    refine Finset.sum_le_sum fun i _ => ?_
    by_cases hi : loadable limits (lots.get i)
    · obtain ⟨s, hs, heq⟩ := exists_mem_stowage (List.get_mem lots i)
        (loadable_iff_obtainable.1 hi)
      exact mul_le_mul_of_nonneg_left (heq ▸ h.moderate.gain_le s hs) (Int.natCast_nonneg _)
    · simp [hq.eq_zero_of_not_loadable i hi]
  have hfull : q.units * mostGain limits ≤ limits.capacity * mostGain limits :=
    mul_le_mul_of_nonneg_right (Int.ofNat_le.2 hq.units_le) h.moderate.most_nonneg
  have hfill := (modest_start limits).fill_lt
  have hstart : (Node.start limits).totals.gain.toInt = 0 := rfl
  rw [hstart, zero_add] at hfill
  refine ⟨?_, (hle.trans hfull).trans_lt hfill⟩
  exact le_trans (by decide) (Finset.sum_nonneg fun i _ => hnonneg i)

/-- Silver gains more on a unit than tea, but two units of tea can be had for the price of one. -/
def silverAndTea : List Lot :=
  [⟨{ item := 1, cost := 100, gain := 60, stock := none, sourceAge := 0, targetAge := 0 }, 60⟩,
   ⟨{ item := 2, cost := 50, gain := 40, stock := some 5, sourceAge := 0, targetAge := 0 }, 40⟩]

/-- Space for two units, and the money for one of silver. -/
def smallPurse : Limits := { capacity := 2, unitLimit := 2, credits := 100 }

lemma stowage_silverAndTea :
    stowage smallPurse silverAndTea = silverAndTea.filterMap (stow? smallPurse) :=
  List.mergeSort_of_pairwise (by decide +kernel)

lemma gainsFit_silverAndTea : GainsFit smallPurse silverAndTea := by
  intro lot hlot _
  have hall : ∀ lot ∈ silverAndTea, lot.unitGain.toInt * smallPurse.capacity < 2 ^ 63 := by
    simp [silverAndTea, smallPurse]
  exact hall lot hlot

lemma fit?_silverAndTea : ∃ load, fit? silverAndTea smallPurse = some load ∧ load.gain = 80 := by
  have hgain : (fit? silverAndTea smallPurse).map Load.gain = some 80 := by
    simp only [fit?, stowage_silverAndTea]
    decide +kernel
  exact Option.map_eq_some_iff.1 hgain

end Cargo

end TradeRun
