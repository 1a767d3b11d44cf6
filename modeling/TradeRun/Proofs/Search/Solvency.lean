import TradeRun.Proofs.Cargo.Stowage
import TradeRun.Proofs.Charter.Drawing
import TradeRun.Proofs.Search.Legs

/-!
The money of a run.

* `Leg.wholeGain`, `Leg.wholeCost`: what the trades of a leg gain and cost as whole numbers;
* `Route.moneyBefore`: the money at hand when a hop is flown, by the sums of the program;
* `Charter.Bought`: a leg is what the best load for the money at hand makes of it, so that the
  totals that the search kept of the load are those of the leg;
* `Charter.Flown.bought`: every leg of a flown route is bought with the money at hand then;
* `Charter.Flown.counts_money`: that money counts the whole number that it should be, and is that
  number as long as all gains together leave an amount;
* `plan_solvent`: no run spends money that it does not have.
-/

namespace TradeRun

open Credits (Counts)

/-- What the trades of a leg gain as a whole number. -/
def Leg.wholeGain (l : Leg) : Int := (l.trades.map Trade.wholeGain).sum

/-- What is paid for the goods of a leg as a whole number. -/
def Leg.wholeCost (l : Leg) : Int := (l.trades.map Trade.wholeCost).sum

/-- The money at hand for the purchase of a hop, numbered from zero: what the run started with and
what the hops before it gained. -/
def Route.moneyBefore (r : Route) (hop : Nat) : Credits :=
  r.startCredits + ((r.legs.take hop).map Leg.gain).sum

namespace Charter

variable {c : Charter} {g : Galaxy}

/-- A leg from a station carries the best load for the money at hand, and has the totals that were
kept of that load. -/
structure Bought (c : Charter) (g : Galaxy) (source : StationId) (money : Credits) (leg : Leg)
    (load : Load) : Prop where
  load_eq : c.load? g source leg.destination money = some load
  trades_eq : leg.trades = load.trades
  gain_eq : leg.gain = load.gain
  cost_eq : leg.cost = load.cost

/-- The leg of a candidate is bought with what its route has available. -/
lemma bought_of_mem_candidatesOf {restriction : Option PlaceSet} {r : Route} {cand : Candidate}
    (h : cand ∈ c.candidatesOf g restriction r) :
    Bought c g r.last r.available ⟨cand.destination, .ofTrades cand.load.trades, cand.landing.path⟩
      cand.load := by
  obtain ⟨source, -, -, -, -, hload⟩ := of_mem_candidatesOf h
  have hbalanced := Cargo.fit?_balanced hload
  exact ⟨hload, rfl, hbalanced.gain_eq.symm, hbalanced.cost_eq.symm⟩

namespace Bought

variable {source : StationId} {money : Credits} {leg : Leg} {load : Load}

/-- What is bought is paid for. -/
lemma wholeCost_le (h : Bought c g source money leg load) : leg.wholeCost ≤ money.toInt := by
  have hbalanced := Cargo.fit?_balanced h.load_eq
  rw [Leg.wholeCost, h.trades_eq, ← hbalanced.whole_cost]
  exact Int64.le_iff_toInt_le.1 hbalanced.cost_le

/-- What is bought gains. -/
lemma gain_pos (h : Bought c g source money leg load) : 1 ≤ leg.gain :=
  h.gain_eq ▸ (Cargo.fit?_balanced h.load_eq).gain_pos

lemma counts_gain (h : Bought c g source money leg load) : Counts leg.gain leg.wholeGain := by
  rw [h.gain_eq, (Cargo.fit?_balanced h.load_eq).gain_eq, ← h.trades_eq]
  exact Trade.counts_gainOf leg.trades

lemma wholeGain_nonneg (h : Bought c g source money leg load) : 0 ≤ leg.wholeGain := by
  refine List.sum_nonneg fun n hn => ?_
  obtain ⟨t, ht, rfl⟩ := List.mem_map.1 hn
  exact Credits.mul_toInt_nonneg t.quantity
    (Cargo.gain_pos_of_fit? h.load_eq t (h.trades_eq ▸ ht))

end Bought

namespace Flown

variable {n : Nat} {r : Route} (h : Flown c g n r)

include h

lemma startCredits_eq : r.startCredits = c.startCredits := by
  induction h with
  | seed => rfl
  | hop _ next ih =>
      obtain ⟨source, -, -, hroute, -⟩ := of_mem_candidatesOf next
      rw [← ih, ← hroute]
      rfl

/-- **Every leg of a flown route is bought** with the money at hand when it was flown. -/
lemma bought {k : Nat} {leg : Leg} (hleg : r.legs[k]? = some leg) :
    ∃ source load, r.stations[k]? = some source ∧
      Bought c g source (r.moneyBefore k) leg load := by
  obtain ⟨before, cand, hbefore⟩ := h.departure hleg
  have hmoney : r.moneyBefore k = before.available := by
    rw [Route.moneyBefore, Route.available, Route.gain_eq_sum_legs, hbefore.legs_eq,
      h.startCredits_eq, hbefore.flown.startCredits_eq]
  rw [hmoney, hbefore.leg_eq]
  exact ⟨before.last, cand.load, hbefore.source_eq, bought_of_mem_candidatesOf hbefore.next⟩

lemma bought_of_mem {leg : Leg} (hleg : leg ∈ r.legs) :
    ∃ source money load, Bought c g source money leg load := by
  obtain ⟨k, hk⟩ := List.mem_iff_getElem?.1 hleg
  obtain ⟨source, load, -, hbought⟩ := h.bought hk
  exact ⟨source, _, load, hbought⟩

/-- The gains of some of the legs together count the sum of what their trades gain. -/
lemma counts_gains {legs : List Leg} (hlegs : legs ⊆ r.legs) :
    Counts (legs.map Leg.gain).sum (legs.map Leg.wholeGain).sum := by
  induction legs with
  | nil => exact Credits.counts_ofInt 0
  | cons leg legs ih =>
      obtain ⟨source, money, load, hbought⟩ := h.bought_of_mem (hlegs List.mem_cons_self)
      simpa using hbought.counts_gain.add (ih fun l hl => hlegs (List.mem_cons_of_mem leg hl))

lemma sum_wholeGain_nonneg {legs : List Leg} (hlegs : legs ⊆ r.legs) :
    0 ≤ (legs.map Leg.wholeGain).sum := by
  refine List.sum_nonneg fun n hn => ?_
  obtain ⟨leg, hleg, rfl⟩ := List.mem_map.1 hn
  obtain ⟨source, money, load, hbought⟩ := h.bought_of_mem (hlegs hleg)
  exact hbought.wholeGain_nonneg

/-- What is started with is money, if any hop is flown. -/
lemma startCredits_pos (hlegs : r.legs ≠ []) : 0 < r.startCredits := by
  obtain ⟨leg, rest, hcons⟩ := List.exists_cons_of_ne_nil hlegs
  have hleg : r.legs[0]? = some leg := by rw [hcons]; rfl
  obtain ⟨source, load, -, hbought⟩ := h.bought hleg
  have hpos := Cargo.credits_pos_of_fit? hbought.load_eq
  change 0 < r.moneyBefore 0 at hpos
  rwa [Route.moneyBefore, List.take_zero, List.map_nil, List.sum_nil, Int64.add_zero] at hpos

/-- **The money at hand is the whole number that it should be**, as long as all gains together leave
an amount. -/
lemma counts_money (k : Nat) : Counts (r.moneyBefore k)
    (r.startCredits.toInt + ((r.legs.take k).map Leg.wholeGain).sum) :=
  (Credits.counts_toInt _).add (h.counts_gains (List.take_subset k r.legs))

variable (hfits : r.startCredits.toInt + (r.legs.map Leg.wholeGain).sum < 2 ^ 63)

include hfits

lemma fits_money (k : Nat) :
    Credits.Fits (r.startCredits.toInt + ((r.legs.take k).map Leg.wholeGain).sum) := by
  have hstart := r.startCredits.le_toInt
  have hearlier := h.sum_wholeGain_nonneg (List.take_subset k r.legs)
  have hlater := h.sum_wholeGain_nonneg (List.drop_subset k r.legs)
  rw [← r.legs.take_append_drop k, List.map_append, List.sum_append] at hfits
  exact ⟨by omega, by omega⟩

/-- The gain of a leg is the sum of what its trades gain. -/
lemma toInt_gain {leg : Leg} (hleg : leg ∈ r.legs) : leg.gain.toInt = leg.wholeGain := by
  obtain ⟨source, money, load, hbought⟩ := h.bought_of_mem hleg
  have hpos := Int64.lt_iff_toInt_lt.1 (h.startCredits_pos (List.ne_nil_of_mem hleg))
  have hnonneg := hbought.wholeGain_nonneg
  obtain ⟨before, after, hsplit⟩ := List.append_of_mem hleg
  have hbefore : 0 ≤ (before.map Leg.wholeGain).sum := h.sum_wholeGain_nonneg (by simp [hsplit])
  have hafter : 0 ≤ (after.map Leg.wholeGain).sum := h.sum_wholeGain_nonneg (by simp [hsplit])
  rw [hsplit, List.map_append, List.sum_append, List.map_cons, List.sum_cons] at hfits
  rw [Int64.toInt_zero] at hpos
  exact hbought.counts_gain.toInt_eq ⟨by omega, by omega⟩

lemma sum_toInt_gain {legs : List Leg} (hlegs : legs ⊆ r.legs) :
    (legs.map fun leg => leg.gain.toInt).sum = (legs.map Leg.wholeGain).sum :=
  congrArg List.sum (List.map_congr_left fun _ hleg => h.toInt_gain hfits (hlegs hleg))

/-- What is available at the end is what was started with and what all legs gained. -/
lemma toInt_available :
    r.available.toInt = r.startCredits.toInt + (r.legs.map fun leg => leg.gain.toInt).sum := by
  have hmoney := h.counts_money r.legs.length
  have hfitsAll := h.fits_money hfits r.legs.length
  rw [Route.moneyBefore, List.take_length, ← Route.gain_eq_sum_legs] at hmoney
  rw [List.take_length] at hfitsAll
  rw [h.sum_toInt_gain hfits (List.Subset.refl _)]
  exact hmoney.toInt_eq hfitsAll

end Flown

/-- What a run starts with is the credits that are not insurance. -/
lemma Drawn.toInt_startCredits {r : Request} {n : Numbers} {avoided : Avoided}
    (h : Drawn g r n avoided c) : c.startCredits.toInt = r.credits.toInt - r.insurance.toInt := by
  obtain ⟨hcredits, hinsurance⟩ := h.money_nonneg
  rw [Int64.le_iff_toInt_le, Int64.toInt_zero] at hcredits hinsurance
  have hmax := r.credits.toInt_lt
  have hmax' := r.insurance.toInt_lt
  rw [h.startCredits_eq]
  exact Credits.toInt_sub_of_fits ⟨by omega, by omega⟩

end Charter

/-! ### The run -/

/-- **No run spends money that it does not have**, as long as its money and all its gains together
are an amount. Every hop is paid for out of the credits that are not insurance and the gains of the
hops before it, and gains what its trades gain, which is a credit at least; the load that the search
found for that money has the same trades and totals. What is available at the end is what the run
started with and what all hops gained. -/
theorem plan_solvent {g : Galaxy} {r : Request} {result : RunResult}
    (h : (plan g r).result = .ok result) {route : Route} (hroute : route ∈ result.routes)
    (hfits : r.credits.toInt - r.insurance.toInt + (route.legs.map Leg.wholeGain).sum < 2 ^ 63) :
    (∀ k leg, route.legs[k]? = some leg →
      let money := r.credits.toInt - r.insurance.toInt
        + ((route.legs.take k).map fun before => before.gain.toInt).sum
      (leg.trades.map fun t => (t.quantity : Int) * t.cost.toInt).sum ≤ money ∧
        leg.gain.toInt = (leg.trades.map fun t => (t.quantity : Int) * t.gain.toInt).sum ∧
        1 ≤ leg.gain.toInt ∧
          ∃ c source load, Charter.draw g r = .ok c ∧ route.stations[k]? = some source ∧
            c.load? g source leg.destination (.ofInt money) = some load ∧
              leg.trades = load.trades ∧ leg.gain = load.gain ∧ leg.cost = load.cost) ∧
      route.available.toInt = r.credits.toInt - r.insurance.toInt
        + (route.legs.map fun leg => leg.gain.toInt).sum := by
  obtain ⟨c, hdraw, hsearch⟩ := plan_eq_ok h
  obtain ⟨n, avoided, hdrawn⟩ := Charter.draw_eq_ok.1 hdraw
  have hflown := Charter.search_flown hsearch route hroute
  have hstart : route.startCredits.toInt = r.credits.toInt - r.insurance.toInt := by
    rw [hflown.startCredits_eq, hdrawn.toInt_startCredits]
  rw [← hstart] at hfits ⊢
  refine ⟨fun k leg hleg => ?_, hflown.toInt_available hfits⟩
  obtain ⟨source, load, hsource, hbought⟩ := hflown.bought hleg
  have hmoney := hflown.counts_money k
  have hmem := List.mem_of_getElem? hleg
  rw [hflown.sum_toInt_gain hfits (List.take_subset k route.legs)]
  refine ⟨?_, hflown.toInt_gain hfits hmem, Int64.le_iff_toInt_le.1 hbought.gain_pos, c, source,
    load, hdraw, hsource, ?_, hbought.trades_eq, hbought.gain_eq, hbought.cost_eq⟩
  · rw [← hmoney.toInt_eq (hflown.fits_money hfits k)]
    exact hbought.wholeCost_le
  · rw [← hmoney.eq_ofInt]
    exact hbought.load_eq

/-- From the one port to the other and back, forty credits grow to seventy-two, and both hops are
paid for. -/
theorem plan_solvent_thereAndBack :
    ∃ result route, (plan twoPorts thereAndBack).result = .ok result ∧ route ∈ result.routes ∧
      route.stations = [1, 2, 1] ∧ (45 - 5 : Int) + (route.legs.map Leg.wholeGain).sum < 2 ^ 63 ∧
        (72 : Int) = 45 - 5 + (route.legs.map fun leg => leg.gain.toInt).sum ∧
          ∀ k leg, route.legs[k]? = some leg →
            (leg.trades.map fun t => (t.quantity : Int) * t.cost.toInt).sum
              ≤ 45 - 5 + ((route.legs.take k).map fun before => before.gain.toInt).sum ∧
              leg.gain.toInt = (leg.trades.map fun t => (t.quantity : Int) * t.gain.toInt).sum ∧
              1 ≤ leg.gain.toInt := by
  obtain ⟨result, hresult, route, hroute, hview⟩ := (plan twoPorts thereAndBack).exists_route
    (p := fun _ route => route.stations == [1, 2, 1] && route.available.toInt == 72 &&
      decide ((45 - 5 : Int) + (route.legs.map Leg.wholeGain).sum < 2 ^ 63)) (by decide +kernel)
  rw [Bool.and_eq_true, Bool.and_eq_true, beq_iff_eq, beq_iff_eq, decide_eq_true_iff] at hview
  obtain ⟨⟨hstations, hbalance⟩, hfits⟩ := hview
  obtain ⟨hlegs, havailable⟩ := plan_solvent hresult hroute hfits
  refine ⟨result, route, hresult, hroute, hstations, hfits, hbalance.symm.trans havailable, ?_⟩
  intro k leg hleg
  obtain ⟨hcost, hgain, hpos, -⟩ := hlegs k leg hleg
  exact ⟨hcost, hgain, hpos⟩

end TradeRun
