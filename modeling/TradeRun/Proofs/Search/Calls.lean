import Mathlib.Data.Set.Card
import TradeRun.Proofs.Search.Coverage
import TradeRun.Proofs.Search.Flight

/-!
Which routes are kept for the places that they call at.

* `Route.calls`: the places of a set at which a route calls, of which its coverage is the number
  (`PlaceSet.coverage_eq_ncard`), however often it calls there and whether or not one station is in
  several of them;
* `Route.CallsEverywhere`: the route calls at all of them;
* `isGreatest_greatestCoverage`: the greatest coverage is the greatest number of places at which a
  route calls;
* `keepCoverage_fullest`: **just the routes that call at the most places are kept**, in their order,
  and there are none only if no route calls at any;
* `keepCoverage_fullest_dock`: a dock and its system, which one station is enough for.
-/

namespace TradeRun

/-- The places of a set at which a route calls from a given stop on. -/
def Route.calls (r : Route) (via : PlaceSet) (g : Galaxy) (start : Nat) : Set Place :=
  {place | via.contains place ∧ r.CallsAt g start place}

/-- From a given stop on, the route calls at every place of a set. -/
def Route.CallsEverywhere (r : Route) (via : PlaceSet) (g : Galaxy) (start : Nat) : Prop :=
  ∀ place, via.contains place → r.CallsAt g start place

variable {via : PlaceSet} {g : Galaxy} {start : Nat} {r : Route} {routes : List Route}

instance : Decidable (r.CallsEverywhere via g start) :=
  decidable_of_iff (via.coverage g start r = via.size) PlaceSet.coverage_eq_size

/-! ### Coverage as a number of places -/

/-- **The coverage of a route is the number of places at which it calls.** -/
lemma PlaceSet.coverage_eq_ncard : via.coverage g start r = (r.calls via g start).ncard := by
  have hcalls : r.calls via g start = {place | place ∈ via.toList.filter fun place =>
      ((r.stations.drop start).filterMap g.station?).any place.covers} := by
    ext place
    rw [Set.mem_ofPred_eq, List.mem_filter, mem_toList, Route.any_covers_iff]
    rfl
  have hnodup := via.nodup_toList.filter fun place =>
    ((r.stations.drop start).filterMap g.station?).any place.covers
  rw [hcalls, ← List.coe_toFinset, Set.ncard_coe_finset, List.toFinset_card_of_nodup hnodup,
    ← List.countP_eq_length_filter]
  rfl

lemma PlaceSet.coverage_eq_zero : via.coverage g start r = 0 ↔ r.calls via g start = ∅ := by
  rw [coverage, List.countP_eq_zero, Set.eq_empty_iff_forall_notMem]
  refine forall_congr' fun place => ?_
  rw [mem_toList, Route.any_covers_iff]
  exact not_and.symm

lemma PlaceSet.ncard_calls_eq_size :
    (r.calls via g start).ncard = via.size ↔ r.CallsEverywhere via g start := by
  rw [← coverage_eq_ncard]
  exact coverage_eq_size

/-- The greatest coverage is the greatest number of places at which one of the routes calls. -/
lemma isGreatest_greatestCoverage (h : routes ≠ []) :
    IsGreatest {n | ∃ r ∈ routes, (r.calls via g start).ncard = n}
      (greatestCoverage via g start routes) := by
  constructor
  · obtain ⟨r, hr, hmost⟩ := exists_coverage_eq_greatest via g start h
    exact ⟨r, hr, PlaceSet.coverage_eq_ncard.symm.trans hmost⟩
  · rintro n ⟨r, hr, rfl⟩
    exact PlaceSet.coverage_eq_ncard.symm.trans_le (le_greatestCoverage hr)

/-- There is no coverage at all just when no route calls anywhere. -/
lemma greatestCoverage_eq_zero :
    greatestCoverage via g start routes = 0 ↔ ∀ r ∈ routes, r.calls via g start = ∅ := by
  simp only [← PlaceSet.coverage_eq_zero]
  constructor
  · intro hzero r hr
    exact Nat.le_zero.1 (hzero ▸ le_greatestCoverage hr)
  · intro hnone
    by_cases hne : routes = []
    · rw [hne]
      rfl
    · obtain ⟨r, hr, hmost⟩ := exists_coverage_eq_greatest via g start hne
      rw [← hmost, hnone r hr]

/-! ### What is kept -/

/-- Nothing is kept where no route calls anywhere. -/
lemma keepCoverage_of_zero (hvia : ¬ via.isEmpty)
    (hzero : greatestCoverage via g start routes = 0) :
    keepCoverage via g start routes = .error .noViaMatch :=
  (if_neg hvia).trans (if_pos hzero)

/-- Otherwise the routes that call at the most places are kept, and what they fall short by is said
if they do. -/
lemma keepCoverage_of_pos (hvia : ¬ via.isEmpty)
    (hpos : greatestCoverage via g start routes ≠ 0) :
    keepCoverage via g start routes = .ok
      { routes := routes.filter fun r =>
          (r.calls via g start).ncard = greatestCoverage via g start routes
        shortfall :=
          if greatestCoverage via g start routes < via.size then
            some (greatestCoverage via g start routes)
          else none } := by
  rw [keepCoverage, if_neg hvia]
  dsimp only
  rw [if_neg hpos]
  simp only [PlaceSet.coverage_eq_ncard]
  rfl

/-- **Just the routes that call at the most places are kept,** in their order. There are none only
if no route calls at any place. If even these fall short of all places, it is said how many they
call at. In particular, if some route calls everywhere, then those that do are kept, and nothing is
said to be missing. -/
theorem keepCoverage_fullest (g : Galaxy) (start : Nat) (routes : List Route)
    (hvia : ¬ via.isEmpty) :
    (keepCoverage via g start routes = .error .noViaMatch ↔
        ∀ r ∈ routes, r.calls via g start = ∅) ∧
      ((∃ r ∈ routes, (r.calls via g start).Nonempty) →
        ∃ most, IsGreatest {n | ∃ r ∈ routes, (r.calls via g start).ncard = n} most ∧
          keepCoverage via g start routes = .ok
            { routes := routes.filter fun r => (r.calls via g start).ncard = most
              shortfall := if most < via.size then some most else none }) ∧
      ((∃ r ∈ routes, r.CallsEverywhere via g start) →
        keepCoverage via g start routes = .ok
          { routes := routes.filter fun r => r.CallsEverywhere via g start
            shortfall := none }) := by
  refine ⟨⟨fun herror => ?_, fun hnone => ?_⟩, ?_, ?_⟩
  · by_contra hsome
    rw [keepCoverage_of_pos hvia (greatestCoverage_eq_zero.not.2 hsome)] at herror
    cases herror
  · exact keepCoverage_of_zero hvia (greatestCoverage_eq_zero.2 hnone)
  · rintro ⟨r, hr, hcalls⟩
    have hpos : greatestCoverage via g start routes ≠ 0 := fun hzero =>
      hcalls.ne_empty (greatestCoverage_eq_zero.1 hzero r hr)
    exact ⟨_, isGreatest_greatestCoverage (List.ne_nil_of_mem hr), keepCoverage_of_pos hvia hpos⟩
  · rintro ⟨r, hr, hall⟩
    have hgreatest : greatestCoverage via g start routes = via.size :=
      le_antisymm greatestCoverage_le_size
        (PlaceSet.coverage_eq_size.2 hall ▸ le_greatestCoverage hr)
    have hpos : greatestCoverage via g start routes ≠ 0 :=
      hgreatest ▸ PlaceSet.isEmpty_iff_size.not.1 hvia
    rw [keepCoverage_of_pos hvia hpos, hgreatest, if_neg (lt_irrefl _)]
    simp only [PlaceSet.ncard_calls_eq_size]

/-! #### A dock and its system -/

/-- The route from the quay that calls at these stations, with nothing traded. -/
def routeBy (stations : List StationId) : Route :=
  stations.foldl (fun r id => r.extend ⟨id, .ofTrades [], [1]⟩ (.double 0.0)) (Route.seed 1 45)

/-- The dock and the system that it is in. -/
def dockAndHome : PlaceSet := .ofList [.station 2, .system 1]

/-- From the first stop after the quay on, two calls at the dock are calls at both places, whereas
the quay, which is in the same system, is only a call at the system. -/
theorem keepCoverage_fullest_dock :
    ¬ dockAndHome.isEmpty ∧ (routeBy [2, 2]).CallsEverywhere dockAndHome twoPorts 1 ∧
      keepCoverage dockAndHome twoPorts 1 [routeBy [1], routeBy [2, 2], routeBy [], routeBy [1, 2]]
        = .ok ⟨[routeBy [2, 2], routeBy [1, 2]], none⟩ := by
  have hvia : ¬ dockAndHome.isEmpty := by decide +kernel
  have hall : (routeBy [2, 2]).CallsEverywhere dockAndHome twoPorts 1 := by decide +kernel
  obtain ⟨-, -, hkept⟩ := keepCoverage_fullest twoPorts 1
    [routeBy [1], routeBy [2, 2], routeBy [], routeBy [1, 2]] hvia
  refine ⟨hvia, hall, ?_⟩
  rw [hkept ⟨_, List.mem_cons_of_mem _ List.mem_cons_self, hall⟩]
  have hnot : ∀ stations ∈ [[1], []],
      ¬ (routeBy stations).CallsEverywhere dockAndHome twoPorts 1 := by decide +kernel
  have hyes : (routeBy [1, 2]).CallsEverywhere dockAndHome twoPorts 1 := by decide +kernel
  simp [hall, hyes, hnot]

end TradeRun
