import Mathlib.Algebra.BigOperators.Fin
import Mathlib.Order.PiLex
import TradeRun.Proofs.Cargo.Branches
import TradeRun.Proofs.Cargo.Stowage
import TradeRun.Proofs.Sorting

/-!
Manifests: how many units of each lot are loaded.

The search for a load sees the lots in the order of loading, and of these only the ones of which a
unit can be had. A manifest says for every lot that was given how many units of it are loaded.

* `Manifest.Fits`: the manifests among which a load is chosen;
* `Manifest.Before`: the order of loading, in which no two lots of the list tie;
* `Load.Carries`: the manifest of a load. `Manifest.sum_wholeGain_trades` and its companions say
  that the sums over its trades are those of the manifest;
* `loadingOrder`: the places of the lots that can be loaded, in the order of loading
  (`stowage_eq`, `pairwise_loadingOrder`);
* `Manifest.Fits.exists_leads`: each manifest that fits is a choice of the search;
* `Node.Settled.fits_manifestOf`: and each settled place makes a manifest that fits, so that a load
  has one (`exists_manifest_of_fit?`).
-/

namespace TradeRun

/-! ### Sums -/

/-- What adds nothing to a sum can be left out. -/
lemma sum_map_filter {α M : Type} [AddCommMonoid M] {p : α → Bool} {f : α → M} {as : List α}
    (h : ∀ a ∈ as, ¬ p a → f a = 0) : ((as.filter p).map f).sum = (as.map f).sum := by
  induction as with
  | nil => rfl
  | cons a as ih =>
      have hrest := ih fun b hb => h b (List.mem_cons_of_mem a hb)
      by_cases hp : p a
      · simp [hp, hrest]
      · simp [hp, hrest, h a List.mem_cons_self hp]

/-! ### Stable sorting -/

/-- A sort that is stable keeps the order of what ties. -/
lemma pairwise_mergeSort_of_tie {α : Type} {le : α → α → Bool} {R : α → α → Prop}
    (trans : ∀ a b c, le a b → le b c → le a c) (total : ∀ a b, le a b || le b a) {as : List α}
    (h : as.Pairwise R) : (as.mergeSort le).Pairwise fun a b => le a b ∧ (le b a → R a b) := by
  refine (List.pairwise_mergeSort trans total as).and ?_
  induction as with
  | nil => simp
  | cons a as ih =>
      obtain ⟨hfirst, hrest⟩ := List.pairwise_cons.1 h
      obtain ⟨before, after, hsorted, hsorted', hbefore⟩ := List.mergeSort_cons trans total a as
      have ih := ih hrest
      rw [hsorted', List.pairwise_append] at ih
      obtain ⟨hpairs, hpairs', hacross⟩ := ih
      rw [hsorted, List.pairwise_append, List.pairwise_cons]
      refine ⟨hpairs, ⟨fun b hb _ => hfirst b ?_, hpairs'⟩, fun b hb c hc hle => ?_⟩
      · have hmem : b ∈ as.mergeSort le := hsorted' ▸ List.mem_append_right before hb
        exact List.mem_mergeSort.1 hmem
      · rcases List.mem_cons.1 hc with rfl | hc
        · have hlater := hbefore b hb
          rw [hle] at hlater
          cases hlater
        · exact hacross b hb c hc hle

/-! ### Manifests -/

/-- How many units of each lot are loaded. -/
abbrev Manifest (lots : List Lot) := Fin lots.length → Nat

/-- Units of a lot as a trade. -/
def Lot.trade (lot : Lot) (quantity : Nat) : Trade :=
  { item := lot.deal.item
    quantity
    cost := lot.deal.cost
    gain := lot.unitGain
    sourceAge := lot.deal.sourceAge
    targetAge := lot.deal.targetAge }

namespace Manifest

variable {lots : List Lot}

/-- What all units gain, as a whole number. -/
def gain (q : Manifest lots) : Int := ∑ i, q i * (lots.get i).unitGain.toInt

/-- What all units cost, as a whole number. -/
def cost (q : Manifest lots) : Int := ∑ i, q i * (lots.get i).deal.cost.toInt

/-- How many units there are. -/
def units (q : Manifest lots) : Nat := ∑ i, q i

/-- The totals of a manifest. -/
def totals (q : Manifest lots) : Cargo.Sums := ⟨q.gain, q.cost, q.units⟩

/-- The trades of a manifest: one for each lot of which something is loaded. -/
def trades (q : Manifest lots) : List Trade :=
  ((List.finRange lots.length).filter fun i => 0 < q i).map fun i => (lots.get i).trade (q i)

/-- A manifest that keeps to the limits, and to the stock where it is known. Of lots that gain or
cost nothing it has no units. -/
structure Fits (q : Manifest lots) (limits : Limits) : Prop where
  le_unitLimit : ∀ i, q i ≤ limits.unitLimit
  le_stock : ∀ i, ∀ stock ∈ (lots.get i).deal.stock, q i ≤ stock
  eq_zero : ∀ i, (lots.get i).unitGain ≤ 0 ∨ (lots.get i).deal.cost ≤ 0 → q i = 0
  units_le : q.units ≤ limits.capacity
  cost_le : q.cost ≤ limits.credits.toInt

/-- One lot is loaded before another: by more gain, less cost or the smaller item, and otherwise as
the first one of the list. -/
def Before (lots : List Lot) (i j : Fin lots.length) : Prop :=
  (lots.get j).unitGain < (lots.get i).unitGain ∨ (lots.get i).unitGain = (lots.get j).unitGain ∧
    ((lots.get i).deal.cost < (lots.get j).deal.cost ∨
      (lots.get i).deal.cost = (lots.get j).deal.cost ∧
        ((lots.get i).deal.item < (lots.get j).deal.item ∨
          (lots.get i).deal.item = (lots.get j).deal.item ∧ i < j))

/-- The order of loading is one of whole numbers. -/
lemma before_iff {i j : Fin lots.length} : Before lots i j ↔
    (lots.get j).unitGain.toInt < (lots.get i).unitGain.toInt ∨
      (lots.get i).unitGain.toInt = (lots.get j).unitGain.toInt ∧
        ((lots.get i).deal.cost.toInt < (lots.get j).deal.cost.toInt ∨
          (lots.get i).deal.cost.toInt = (lots.get j).deal.cost.toInt ∧
            ((lots.get i).deal.item < (lots.get j).deal.item ∨
              (lots.get i).deal.item = (lots.get j).deal.item ∧ i < j)) := by
  simp only [Before, Int64.lt_iff_toInt_lt, Int64.toInt_inj]

lemma Before.asymm {i j : Fin lots.length} (h : Before lots i j) : ¬ Before lots j i := by
  rw [before_iff] at *
  unfold ItemId at *
  omega

end Manifest

/-- The trades of a load are those of a manifest, and its totals are the sums of the manifest. -/
structure Load.Carries (load : Load) {lots : List Lot} (q : Manifest lots) : Prop where
  trades_perm : load.trades.Perm q.trades
  gain_counts : Credits.Counts load.gain q.gain
  cost_eq : load.cost.toInt = q.cost
  units_eq : load.units = q.units

namespace Manifest

variable {lots : List Lot} (q : Manifest lots)

/-- What is summed over the trades of a manifest is summed over its lots. -/
lemma sum_map_trades {M : Type} [AddCommMonoid M] (amount : Trade → M) (each : Lot → M)
    (h : ∀ lot quantity, amount (Lot.trade lot quantity) = quantity • each lot) :
    (q.trades.map amount).sum = ∑ i, q i • each (lots.get i) := by
  rw [trades, List.map_map, Fin.sum_univ_def, sum_map_filter]
  · exact congrArg List.sum (List.map_congr_left fun i _ => h _ _)
  · intro i _ hi
    have hzero : q i = 0 := by simpa using hi
    rw [Function.comp_apply, h, hzero, zero_nsmul]

/-- **The trades of a manifest gain what it gains.** -/
lemma sum_wholeGain_trades : (q.trades.map Trade.wholeGain).sum = q.gain := by
  rw [q.sum_map_trades Trade.wholeGain (fun lot => lot.unitGain.toInt)
    fun lot quantity => (nsmul_eq_mul quantity lot.unitGain.toInt).symm, gain]
  simp only [nsmul_eq_mul]

lemma sum_wholeCost_trades : (q.trades.map Trade.wholeCost).sum = q.cost := by
  rw [q.sum_map_trades Trade.wholeCost (fun lot => lot.deal.cost.toInt)
    fun lot quantity => (nsmul_eq_mul quantity lot.deal.cost.toInt).symm, cost]
  simp only [nsmul_eq_mul]

lemma unitsOf_trades : Trade.unitsOf q.trades = q.units := by
  rw [Trade.unitsOf_eq_sum, q.sum_map_trades Trade.quantity (fun _ => 1)
    fun lot quantity => by simp [Lot.trade], units]
  simp

end Manifest

namespace Cargo

variable {limits : Limits} {lots : List Lot}

/-! ### The order of loading -/

/-- Stows are compared by three keys. -/
instance : Std.TransCmp Stow.compare :=
  inferInstanceAs (Std.TransCmp
    (compareLex (fun a b => compareOn Stow.gain b a)
      (compareLex (compareOn Stow.cost) (compareOn fun s => s.lot.deal.item))))

lemma Stow.isLE_compare_iff {a b : Stow} : (a.compare b).isLE ↔
    b.gain.toInt < a.gain.toInt ∨ a.gain.toInt = b.gain.toInt ∧
      (a.cost.toInt < b.cost.toInt ∨ a.cost.toInt = b.cost.toInt ∧
        a.lot.deal.item ≤ b.lot.deal.item) := by
  simp only [Stow.compare, Ordering.isLE_then_iff_or, Credits.compare_eq, compare_lt_iff_lt,
    compare_eq_iff_eq, Std.isLE_compare, eq_comm (a := b.gain.toInt)]

/-- Whether a unit of a lot can be had that gains. -/
def loadable (limits : Limits) (lot : Lot) : Bool :=
  0 < lot.unitGain ∧ 0 < lot.deal.cost ∧ 0 < mostUnits limits lot

lemma loadable_iff {lot : Lot} :
    loadable limits lot ↔ 0 < lot.unitGain ∧ 0 < lot.deal.cost ∧ 0 < mostUnits limits lot :=
  decide_eq_true_iff

/-- The lot at a place of the list as it is loaded. -/
def stowAt (limits : Limits) (lots : List Lot) (i : Fin lots.length) : Stow :=
  ⟨lots.get i, mostUnits limits (lots.get i)⟩

/-- The places of the lots that can be loaded, in the order of loading. -/
def loadingOrder (limits : Limits) (lots : List Lot) : List (Fin lots.length) :=
  ((List.finRange lots.length).filter fun i => loadable limits (lots.get i)).mergeSort fun i j =>
    ((stowAt limits lots i).compare (stowAt limits lots j)).isLE

/-- The lots that can be loaded are those at the places of the order of loading. -/
lemma stowage_eq (limits : Limits) (lots : List Lot) :
    stowage limits lots = (loadingOrder limits lots).map (stowAt limits lots) := by
  have hstow : lots.filterMap (stow? limits) =
      ((List.finRange lots.length).filter fun i => loadable limits (lots.get i)).map
        (stowAt limits lots) := by
    conv_lhs => rw [← List.map_get_finRange lots, List.filterMap_map]
    rw [← List.filterMap_eq_map, List.filterMap_filter]
    refine List.filterMap_congr fun i _ => ?_
    simp [stow?, loadable, stowAt]
  rw [stowage, hstow, loadingOrder]
  symm
  exact List.map_mergeSort fun _ _ _ _ => rfl

lemma mem_loadingOrder {i : Fin lots.length} :
    i ∈ loadingOrder limits lots ↔ loadable limits (lots.get i) := by
  rw [loadingOrder, List.mem_mergeSort, List.mem_filter]
  exact and_iff_right (List.mem_finRange i)

lemma nodup_loadingOrder (limits : Limits) (lots : List Lot) : (loadingOrder limits lots).Nodup :=
  List.nodup_mergeSort.2 ((List.nodup_finRange _).filter _)

/-- **The lots are loaded in the order of loading**, those that tie as they come in the list. -/
lemma pairwise_loadingOrder (limits : Limits) (lots : List Lot) :
    (loadingOrder limits lots).Pairwise (Manifest.Before lots) := by
  have hlisted : ((List.finRange lots.length).filter fun i =>
      loadable limits (lots.get i)).Pairwise (· < ·) := (List.pairwise_lt_finRange _).filter _
  refine (pairwise_mergeSort_of_tie ?_ ?_ hlisted).imp ?_
  · exact fun i j k hij hjk => Std.TransCmp.isLE_trans hij hjk
  · exact fun i j => isLE_or_isLE Stow.compare _ _
  · rintro i j ⟨hle, htie⟩
    simp only [Stow.isLE_compare_iff, Stow.gain, Stow.cost, stowAt] at hle htie
    rw [Manifest.before_iff]
    unfold ItemId at *
    omega

/-- The lots that can be loaded come by falling gain. -/
lemma stowage_declining (limits : Limits) (lots : List Lot) : Declining (stowage limits lots) where
  sorted := by
    rw [stowage_eq, List.pairwise_map]
    refine (pairwise_loadingOrder limits lots).imp ?_
    intro i j hbefore
    rcases Manifest.before_iff.1 hbefore with hgain | ⟨hgain, -⟩
    · exact hgain.le
    · exact hgain.ge
  gain_nonneg := by
    rw [stowage_eq]
    intro s hs
    obtain ⟨i, hi, rfl⟩ := List.mem_map.1 hs
    exact (Int64.lt_iff_toInt_lt.1 (loadable_iff.1 (mem_loadingOrder.1 hi)).1).le

/-- What lots that cannot be loaded do not add to can be summed in the order of loading. -/
lemma sum_loadingOrder {M : Type} [AddCommMonoid M] {f : Fin lots.length → M}
    (h : ∀ i, ¬ loadable limits (lots.get i) → f i = 0) :
    ((loadingOrder limits lots).map f).sum = ∑ i, f i := by
  rw [loadingOrder, ((List.mergeSort_perm _ _).map f).sum_eq, sum_map_filter fun i _ => h i,
    Fin.sum_univ_def]

end Cargo

/-! ### Manifests as choices -/

/-- What can be paid for is no more than the money buys. -/
lemma le_toNat_ediv {quantity : Nat} {cost credits : Int} (hpos : 0 < cost)
    (h : quantity * cost ≤ credits) : quantity ≤ (credits / cost).toNat := by
  have hle := Int.toNat_le_toNat ((Int.le_ediv_iff_mul_le hpos).2 h)
  rwa [Int.toNat_natCast] at hle

namespace Manifest.Fits

open Cargo

variable {limits : Limits} {lots : List Lot} {q : Manifest lots}

/-- Of lots that cost nothing there are no units, so that no cost is negative. -/
lemma mul_cost_nonneg (h : q.Fits limits) (i : Fin lots.length) :
    0 ≤ q i * (lots.get i).deal.cost.toInt := by
  by_cases hfree : (lots.get i).deal.cost ≤ 0
  · simp [h.eq_zero i (.inr hfree)]
  · exact Credits.mul_toInt_nonneg (q i) (Int64.not_le.1 hfree)

/-- The units of one lot can be paid for. -/
lemma mul_cost_le (h : q.Fits limits) (i : Fin lots.length) :
    q i * (lots.get i).deal.cost.toInt ≤ limits.credits.toInt :=
  (Finset.single_le_sum (f := fun i => q i * (lots.get i).deal.cost.toInt)
    (fun i _ => h.mul_cost_nonneg i) (Finset.mem_univ i)).trans h.cost_le

lemma credits_nonneg (h : q.Fits limits) (i : Fin lots.length) : 0 ≤ limits.credits :=
  Int64.le_iff_toInt_le.2 ((h.mul_cost_nonneg i).trans (h.mul_cost_le i))

/-- There are no more units of a lot than can be had. -/
lemma le_mostUnits (h : q.Fits limits) (i : Fin lots.length) :
    q i ≤ mostUnits limits (lots.get i) := by
  have hcapacity : q i ≤ limits.capacity :=
    (Finset.single_le_sum (fun _ _ => Nat.zero_le _) (Finset.mem_univ i)).trans h.units_le
  by_cases hfree : (lots.get i).deal.cost ≤ 0
  · simp [h.eq_zero i (.inr hfree)]
  · have hstocked : q i ≤ (lots.get i).deal.stock.elim limits.capacity (min limits.capacity) := by
      cases hstock : (lots.get i).deal.stock with
      | none => exact hcapacity
      | some stock => exact le_min hcapacity (h.le_stock i stock hstock)
    have hpaid : q i ≤ affordable limits.credits (lots.get i).deal.cost :=
      (le_affordable_iff (h.credits_nonneg i) (Int64.not_le.1 hfree)).2 (h.mul_cost_le i)
    exact le_min (le_min (h.le_unitLimit i) hstocked) hpaid

/-- What is loaded can be loaded. -/
lemma eq_zero_of_not_loadable (h : q.Fits limits) (i : Fin lots.length)
    (hi : ¬ loadable limits (lots.get i)) : q i = 0 := by
  by_contra hne
  refine hi (loadable_iff.2 ⟨?_, ?_, (Nat.pos_of_ne_zero hne).trans_le (h.le_mostUnits i)⟩)
  · exact Int64.not_le.1 fun hle => hne (h.eq_zero i (.inl hle))
  · exact Int64.not_le.1 fun hle => hne (h.eq_zero i (.inr hle))

end Manifest.Fits

namespace Cargo

variable {limits : Limits} {lots : List Lot}

/-- Quantities of lots for which there is space and money are a choice. -/
lemma leads_of_room {q : Manifest lots} (order : List (Fin lots.length)) (c : Choice)
    (hmost : ∀ i ∈ order, q i ≤ mostUnits limits (lots.get i))
    (hcost : ∀ i ∈ order, 0 < (lots.get i).deal.cost) (hspace : (order.map q).sum ≤ c.space)
    (hcredits : (order.map fun i => q i * (lots.get i).deal.cost.toInt).sum ≤ c.credits) :
    ∃ d, Choice.Leads (order.map (stowAt limits lots)) c d ∧
      d.quantities = (order.map q).reverse ++ c.quantities ∧
      d.totals.gain = c.totals.gain + (order.map fun i => q i * (lots.get i).unitGain.toInt).sum ∧
      d.totals.cost = c.totals.cost + (order.map fun i => q i * (lots.get i).deal.cost.toInt).sum ∧
      d.totals.units = c.totals.units + (order.map q).sum := by
  induction order generalizing c with
  | nil => exact ⟨c, .stay _ c, by simp⟩
  | cons i order ih =>
      have hcost' : ∀ j ∈ order, 0 < (lots.get j).deal.cost := fun j hj =>
        hcost j (List.mem_cons_of_mem i hj)
      have hothers : 0 ≤ (order.map fun i => q i * (lots.get i).deal.cost.toInt).sum := by
        refine List.sum_nonneg fun a ha => ?_
        obtain ⟨j, hj, rfl⟩ := List.mem_map.1 ha
        exact Credits.mul_toInt_nonneg (q j) (hcost' j hj)
      rw [List.map_cons, List.sum_cons] at hspace hcredits
      have hpaid : q i * (lots.get i).deal.cost.toInt ≤ c.credits := by linarith
      have hroom : q i ≤ c.room (stowAt limits lots i) :=
        le_min (le_min (hmost i List.mem_cons_self) (by omega))
          (le_toNat_ediv (Int64.lt_iff_toInt_lt.1 (hcost i List.mem_cons_self)) hpaid)
      obtain ⟨d, hd, hquantities, hgain, hcost, hunits⟩ := ih (c.take (stowAt limits lots i) (q i))
        (fun j hj => hmost j (List.mem_cons_of_mem i hj)) hcost'
        (by simp only [Choice.take]; omega)
        (by simp only [Choice.take, Stow.cost, stowAt]; linarith)
      refine ⟨d, .take hroom hd, ?_, ?_, ?_, ?_⟩
      · simp [hquantities, Choice.take]
      · simp [hgain, Choice.take, Sums.add, Stow.gain, stowAt, add_assoc]
      · simp [hcost, Choice.take, Sums.add, Stow.cost, stowAt, add_assoc]
      · simp [hunits, Choice.take, Sums.add, add_assoc]

end Cargo

/-- **Each manifest that fits is a choice of the search.** -/
lemma Manifest.Fits.exists_leads {limits : Limits} {lots : List Lot} {q : Manifest lots}
    (h : q.Fits limits) :
    ∃ d, Cargo.Choice.Leads (Cargo.stowage limits lots) (Cargo.Choice.start limits) d ∧
      d.quantities = ((Cargo.loadingOrder limits lots).map q).reverse ∧ d.totals = q.totals := by
  have hgain : ((Cargo.loadingOrder limits lots).map fun i => q i * (lots.get i).unitGain.toInt).sum
      = q.gain := Cargo.sum_loadingOrder fun i hi => by simp [h.eq_zero_of_not_loadable i hi]
  have hcost :
      ((Cargo.loadingOrder limits lots).map fun i => q i * (lots.get i).deal.cost.toInt).sum
        = q.cost := Cargo.sum_loadingOrder fun i hi => by simp [h.eq_zero_of_not_loadable i hi]
  have hunits : ((Cargo.loadingOrder limits lots).map q).sum = q.units :=
    Cargo.sum_loadingOrder h.eq_zero_of_not_loadable
  obtain ⟨d, hd, hquantities, hgain', hcost', hunits'⟩ :=
    Cargo.leads_of_room (Cargo.loadingOrder limits lots) (Cargo.Choice.start limits)
      (fun i _ => h.le_mostUnits i)
      (fun i hi => (Cargo.loadable_iff.1 (Cargo.mem_loadingOrder.1 hi)).2.1)
      (hunits.trans_le h.units_le) (hcost.trans_le h.cost_le)
  rw [hgain] at hgain'
  rw [hcost] at hcost'
  rw [hunits] at hunits'
  refine ⟨d, Cargo.stowage_eq limits lots ▸ hd, ?_, ?_⟩
  · rw [hquantities, Cargo.Choice.start, List.append_nil]
  · change Cargo.Sums.mk d.totals.gain d.totals.cost d.totals.units = q.totals
    rw [hgain', hcost', hunits']
    simp [totals, Cargo.Choice.start]

/-! ### Places as manifests -/

namespace Cargo

variable {limits : Limits} {lots : List Lot}

/-- The manifest of quantities by place in the order of loading. -/
def manifestOf (limits : Limits) (lots : List Lot) (quantities : Nat → Nat) : Manifest lots :=
  fun i => quantities ((loadingOrder limits lots).idxOf i)

/-- The trades of a manifest are those of its quantities, in the order of the list. -/
lemma tradesOf_perm {q : Manifest lots} (h : ∀ i, i ∉ loadingOrder limits lots → q i = 0) :
    (tradesOf (stowage limits lots) ((loadingOrder limits lots).map q)).Perm q.trades := by
  have hsame : ((loadingOrder limits lots).filter fun i => 0 < q i).Perm
      ((List.finRange lots.length).filter fun i => 0 < q i) := by
    refine (List.perm_ext_iff_of_nodup ((nodup_loadingOrder _ _).filter _)
      ((List.nodup_finRange _).filter _)).2 fun i => ?_
    simp only [List.mem_filter, List.mem_finRange, true_and, decide_eq_true_eq,
      and_iff_right_iff_imp]
    intro hpos
    by_contra hi
    exact hpos.ne' (h i hi)
  rw [tradesOf, stowage_eq, List.zip_map', List.filter_map, List.map_map, Manifest.trades]
  exact hsame.map _

/-- Nothing is loaded beyond the lots for which quantities are chosen. -/
lemma quantityAt_of_length_le {chosen : List Nat} {place : Nat} (h : chosen.length ≤ place) :
    quantityAt chosen place = 0 := by
  rw [quantityAt, List.getD_eq_getElem?_getD, List.getElem?_eq_none (by simpa using h),
    Option.getD_none]

section Settled

variable {first rest : List Stow} {chosen : List Nat} {n : Node}

/-- The quantities of a manifest of chosen ones, in the order of loading. -/
lemma map_manifestOf {left : Nat}
    (hlength : (loadingOrder limits lots).length = chosen.length + left) :
    (loadingOrder limits lots).map (manifestOf limits lots (quantityAt chosen))
      = spread chosen left := by
  refine List.ext_getElem (by simp [hlength]) fun k hk hk' => ?_
  rw [List.getElem_map]
  simp only [manifestOf, (nodup_loadingOrder limits lots).idxOf_getElem]
  rw [← getD_spread chosen left, List.getD_eq_getElem?_getD, List.getElem?_eq_getElem hk',
    Option.getD_some]

lemma manifestOf_eq_zero (hlength : chosen.length ≤ (loadingOrder limits lots).length)
    {i : Fin lots.length} (hi : i ∉ loadingOrder limits lots) :
    manifestOf limits lots (quantityAt chosen) i = 0 := by
  rw [manifestOf, List.idxOf_eq_length hi, quantityAt_of_length_le hlength]

namespace Node.Settled

lemma length_loadingOrder (h : n.Settled limits first chosen)
    (hs : stowage limits lots = first ++ rest) :
    (loadingOrder limits lots).length = chosen.length + rest.length := by
  rw [h.length_eq, ← List.length_append, ← hs, stowage_eq, List.length_map]

/-- No more of a lot is taken than can be had: nothing of those that are left. -/
lemma quantity_le_spread (h : n.Settled limits first chosen) (rest : List Stow) :
    ∀ p ∈ (first ++ rest).zip (spread chosen rest.length), p.2 ≤ p.1.most := by
  intro p hp
  rw [spread, List.zip_append (by simp [h.length_eq]), List.mem_append] at hp
  rcases hp with hp | hp
  · exact h.quantity_le p hp
  · rw [List.eq_of_mem_replicate (List.of_mem_zip hp).2]
    exact Nat.zero_le _

/-- A settled place takes no more of a lot than the limits allow. -/
lemma manifestOf_le (h : n.Settled limits first chosen) (hs : stowage limits lots = first ++ rest)
    (i : Fin lots.length) :
    manifestOf limits lots (quantityAt chosen) i ≤ mostUnits limits (lots.get i) := by
  have hlength := h.length_loadingOrder hs
  by_cases hi : i ∈ loadingOrder limits lots
  · refine h.quantity_le_spread rest
      (stowAt limits lots i, manifestOf limits lots (quantityAt chosen) i) ?_
    rw [← hs, ← map_manifestOf hlength, stowage_eq, List.zip_map']
    exact List.mem_map.2 ⟨i, hi, rfl⟩
  · rw [manifestOf_eq_zero (by omega) hi]
    exact Nat.zero_le _

/-- The trades of a settled place are those of its manifest. -/
lemma trades_perm (h : n.Settled limits first chosen) (hs : stowage limits lots = first ++ rest) :
    (tradesOf first chosen.reverse).Perm
      (manifestOf limits lots (quantityAt chosen)).trades := by
  have hlength := h.length_loadingOrder hs
  have hzero : ∀ i, i ∉ loadingOrder limits lots →
      manifestOf limits lots (quantityAt chosen) i = 0 :=
    fun i => manifestOf_eq_zero (by omega)
  have hperm := tradesOf_perm hzero
  rwa [map_manifestOf hlength, hs, tradesOf_spread h.length_eq] at hperm

lemma manifestOf_cost (h : n.Settled limits first chosen)
    (hs : stowage limits lots = first ++ rest) :
    n.totals.cost.toInt = (manifestOf limits lots (quantityAt chosen)).cost := by
  rw [h.whole_cost, ((h.trades_perm hs).map _).sum_eq, Manifest.sum_wholeCost_trades]

lemma manifestOf_units (h : n.Settled limits first chosen)
    (hs : stowage limits lots = first ++ rest) :
    n.totals.units = (manifestOf limits lots (quantityAt chosen)).units := by
  have hunits : n.totals.units = Trade.unitsOf (tradesOf first chosen.reverse) :=
    congrArg Totals.units h.totals_eq
  rw [hunits, Trade.unitsOf_eq_sum, ((h.trades_perm hs).map _).sum_eq, ← Trade.unitsOf_eq_sum,
    Manifest.unitsOf_trades]

lemma manifestOf_gain (h : n.Settled limits first chosen)
    (hs : stowage limits lots = first ++ rest) :
    Credits.Counts n.totals.gain (manifestOf limits lots (quantityAt chosen)).gain := by
  have hgain : n.totals.gain = Trade.gainOf (tradesOf first chosen.reverse) :=
    congrArg Totals.gain h.totals_eq
  have hcounts := Trade.counts_gainOf (tradesOf first chosen.reverse)
  rwa [((h.trades_perm hs).map _).sum_eq, Manifest.sum_wholeGain_trades, ← hgain] at hcounts

/-- **The manifest of a settled place fits.** -/
lemma fits_manifestOf (h : n.Settled limits first chosen)
    (hs : stowage limits lots = first ++ rest) :
    (manifestOf limits lots (quantityAt chosen)).Fits limits := by
  have hmost := h.manifestOf_le hs
  have hlength := h.length_loadingOrder hs
  have hspace := h.space_add_units
  have hcredits := h.credits_add_cost
  have hleft := Int64.le_iff_toInt_le.1 h.credits_nonneg
  rw [h.manifestOf_units hs] at hspace
  rw [h.manifestOf_cost hs] at hcredits
  exact {
    le_unitLimit := fun i => (hmost i).trans (mostUnits_le_unitLimit _ _)
    le_stock := fun i stock hstock => (hmost i).trans (mostUnits_le_stock hstock)
    eq_zero := by
      intro i hi
      refine manifestOf_eq_zero (by omega) fun hmem => ?_
      obtain ⟨hgain, hcost, -⟩ := loadable_iff.1 (mem_loadingOrder.1 hmem)
      rcases hi with hi | hi
      · exact Int64.not_le.2 hgain hi
      · exact Int64.not_le.2 hcost hi
    units_le := Nat.le_of_add_left_le hspace.le
    cost_le := by
      rw [Int64.toInt_zero] at hleft
      linarith }

end Node.Settled

end Settled

/-- **The manifest of a load.** It fits, and its quantities in the order of loading are those of the
best load of the search. -/
lemma exists_manifest_of_fit? {load : Load} (h : fit? lots limits = some load) :
    ∃ q : Manifest lots, q.Fits limits ∧ load.Carries q ∧
      (search limits (stowage limits lots)).best = ⟨load.gain, load.cost, load.units⟩ ∧
      quantityAt ((loadingOrder limits lots).map q).reverse
        = (search limits (stowage limits lots)).whole.quantities := by
  obtain ⟨first, rest, chosen, n, hs, hn, hbest, hquantities, -, rfl⟩ := of_fit?_eq_some h
  have hlength := hn.length_loadingOrder hs
  refine ⟨_, hn.fits_manifestOf hs, ?_, hbest, ?_⟩
  · exact {
      trades_perm := hn.trades_perm hs
      gain_counts := hn.manifestOf_gain hs
      cost_eq := hn.manifestOf_cost hs
      units_eq := hn.manifestOf_units hs }
  · funext place
    rw [map_manifestOf hlength, Tally.whole, hquantities, quantityAt, List.reverse_reverse]

end Cargo

end TradeRun
