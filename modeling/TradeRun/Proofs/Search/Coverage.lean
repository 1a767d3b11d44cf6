import Mathlib.Tactic
import TradeRun.Search.Stops

/-!
How many of the places to call at a route has called at.

* `Route.CallsAt`, `Route.any_covers_iff`: a route calls at a place from a given stop on;
* `PlaceSet.coverage_eq_size`: the coverage is complete just when the route calls at every place;
* `greatestCoverage_le`, `exists_coverage_eq_greatest`: the greatest coverage is reached by one of
  the routes and by none exceeded;
* `keepCoverage_perm_ok`, `keepCoverage_perm_error`: in another order the same routes are kept;
* `mem_of_keepCoverage`: a route is kept just when no other one called at more places, which is all
  of them when there is no place to call at;
* `shortfall_eq_none`: nothing is said to be missing just when all routes that are kept call at
  every place.
-/

namespace TradeRun

/-- From a given stop on, the route calls at the place or at a station in it. -/
def Route.CallsAt (r : Route) (g : Galaxy) (start : Nat) (place : Place) : Prop :=
  ∃ id ∈ r.stations.drop start, ∃ s, g.station? id = some s ∧ place.covers s

variable {via : PlaceSet} {g : Galaxy} {start : Nat} {r : Route} {routes : List Route}

lemma PlaceSet.coverage_le_size : via.coverage g start r ≤ via.size := by
  rw [← via.length_toList]
  exact List.countP_le_length

/-- One of the stations called at is in a place just when the route calls there. -/
lemma Route.any_covers_iff {place : Place} :
    ((r.stations.drop start).filterMap g.station?).any place.covers ↔ r.CallsAt g start place := by
  simp only [List.any_eq_true, List.mem_filterMap, CallsAt]
  constructor
  · rintro ⟨s, ⟨id, hid, hs⟩, hcovers⟩
    exact ⟨id, hid, s, hs, hcovers⟩
  · rintro ⟨id, hid, s, hs, hcovers⟩
    exact ⟨s, ⟨id, hid, hs⟩, hcovers⟩

/-- The coverage is complete just when the route calls at every place. -/
lemma PlaceSet.coverage_eq_size :
    via.coverage g start r = via.size ↔ ∀ place, via.contains place → r.CallsAt g start place := by
  rw [← via.length_toList, coverage, List.countP_eq_length]
  exact forall_congr' fun place => imp_congr mem_toList Route.any_covers_iff

/-! ### The greatest coverage -/

lemma le_greatestCoverage (h : r ∈ routes) :
    via.coverage g start r ≤ greatestCoverage via g start routes := by
  have hmem : via.coverage g start r ∈ routes.map (via.coverage g start) := List.mem_map_of_mem h
  rw [greatestCoverage, List.foldl_max_eq_max (List.ne_nil_of_mem hmem)]
  exact (List.le_max_of_mem hmem).trans (le_max_right _ _)

variable (via g start) in
/-- One of the routes has the greatest coverage. -/
lemma exists_coverage_eq_greatest (h : routes ≠ []) :
    ∃ r ∈ routes, via.coverage g start r = greatestCoverage via g start routes := by
  have hne : routes.map (via.coverage g start) ≠ [] := by simpa using h
  obtain ⟨r, hr, hmax⟩ := List.mem_map.1 (List.max_mem hne)
  refine ⟨r, hr, ?_⟩
  rw [greatestCoverage, List.foldl_max_eq_max hne, hmax, Nat.zero_max]

lemma greatestCoverage_le_size : greatestCoverage via g start routes ≤ via.size := by
  by_cases hne : routes = []
  · subst hne
    exact Nat.zero_le _
  · obtain ⟨r, -, hr⟩ := exists_coverage_eq_greatest via g start hne
    exact hr ▸ PlaceSet.coverage_le_size

/-- The greatest coverage does not depend on the order of the routes. -/
lemma greatestCoverage_perm {others : List Route} (h : others.Perm routes) :
    greatestCoverage via g start others = greatestCoverage via g start routes :=
  (h.map _).foldl_eq 0

/-! ### What is kept -/

section Kept

variable {covered : Covered}

/-- Whether or not there are places to call at, the routes with the greatest coverage are kept, and
nothing is said to be missing just when that is complete. -/
lemma of_keepCoverage_eq_ok (h : keepCoverage via g start routes = .ok covered) :
    covered.routes
        = routes.filter (via.coverage g start · == greatestCoverage via g start routes) ∧
      (covered.shortfall = none ↔ greatestCoverage via g start routes = via.size) := by
  rw [keepCoverage] at h
  split_ifs at h with hempty
  · obtain rfl := Except.ok.inj h
    have hsize := PlaceSet.isEmpty_iff_size.1 hempty
    have hcoverage : ∀ r, via.coverage g start r = 0 := fun r =>
      Nat.le_zero.1 (hsize ▸ PlaceSet.coverage_le_size)
    have hgreatest : greatestCoverage via g start routes = 0 :=
      Nat.le_zero.1 (hsize ▸ greatestCoverage_le_size)
    exact ⟨by simp [hcoverage, hgreatest], by simp [hsize, hgreatest]⟩
  · dsimp only at h
    split_ifs at h with hzero hshort
    · obtain rfl := Except.ok.inj h
      exact ⟨rfl, by simp [hshort.ne]⟩
    · obtain rfl := Except.ok.inj h
      exact ⟨rfl, by simp [le_antisymm greatestCoverage_le_size (not_lt.1 hshort)]⟩

/-- Nothing is kept only where there are places to call at and no route called at any. -/
lemma exists_keepCoverage (h : via.isEmpty ∨ ∃ r ∈ routes, 0 < via.coverage g start r) :
    ∃ covered, keepCoverage via g start routes = .ok covered := by
  by_cases hempty : via.isEmpty
  · exact ⟨_, if_pos hempty⟩
  · obtain ⟨r, hr, hpos⟩ := h.resolve_left hempty
    have hgreatest : greatestCoverage via g start routes ≠ 0 :=
      (hpos.trans_le (le_greatestCoverage hr)).ne'
    exact ⟨_, (if_neg hempty).trans (if_neg hgreatest)⟩

/-- A route is kept just when no other one called at more places. -/
lemma mem_of_keepCoverage (h : keepCoverage via g start routes = .ok covered) :
    r ∈ covered.routes ↔
      r ∈ routes ∧ ∀ r' ∈ routes, via.coverage g start r' ≤ via.coverage g start r := by
  rw [(of_keepCoverage_eq_ok h).1, List.mem_filter, beq_iff_eq]
  refine and_congr_right fun hr => ⟨fun heq r' hr' => heq ▸ le_greatestCoverage hr', fun hmax => ?_⟩
  obtain ⟨best, hbest, hgreatest⟩ := exists_coverage_eq_greatest via g start (List.ne_nil_of_mem hr)
  exact le_antisymm (le_greatestCoverage hr) (hgreatest ▸ hmax best hbest)

/-- Some route is kept. -/
lemma ne_nil_of_keepCoverage (h : keepCoverage via g start routes = .ok covered)
    (hne : routes ≠ []) : covered.routes ≠ [] := by
  obtain ⟨best, hbest, hgreatest⟩ := exists_coverage_eq_greatest via g start hne
  exact List.ne_nil_of_mem
    ((mem_of_keepCoverage h).2 ⟨hbest, fun r' hr' => hgreatest ▸ le_greatestCoverage hr'⟩)

/-- Nothing is said to be missing just when all routes that are kept call at every place. -/
lemma shortfall_eq_none (h : keepCoverage via g start routes = .ok covered) (hne : routes ≠ []) :
    covered.shortfall = none ↔
      ∀ r ∈ covered.routes, ∀ place, via.contains place → r.CallsAt g start place := by
  obtain ⟨hroutes, hshort⟩ := of_keepCoverage_eq_ok h
  have hcoverage : ∀ r ∈ covered.routes,
      via.coverage g start r = greatestCoverage via g start routes := by
    intro r hr
    rw [hroutes, List.mem_filter] at hr
    exact beq_iff_eq.1 hr.2
  rw [hshort]
  constructor
  · intro hfull r hr
    exact PlaceSet.coverage_eq_size.1 (hcoverage r hr ▸ hfull)
  · intro hall
    obtain ⟨r, hr⟩ := List.exists_mem_of_ne_nil _ (ne_nil_of_keepCoverage h hne)
    exact hcoverage r hr ▸ PlaceSet.coverage_eq_size.2 (hall r hr)

/-! #### The order of the routes -/

section Order

variable {others : List Route} (hperm : others.Perm routes)
include hperm

lemma keepCoverage_perm_error {e : PlanError} (h : keepCoverage via g start routes = .error e) :
    keepCoverage via g start others = .error e := by
  rw [keepCoverage] at h ⊢
  rw [greatestCoverage_perm hperm]
  split_ifs at h ⊢
  dsimp only at h ⊢
  split_ifs at h ⊢
  exact h

/-- In another order the same routes are kept, in another order. -/
lemma keepCoverage_perm_ok (h : keepCoverage via g start routes = .ok covered) :
    ∃ kept, kept.Perm covered.routes ∧
      keepCoverage via g start others = .ok { covered with routes := kept } := by
  rw [keepCoverage] at h ⊢
  rw [greatestCoverage_perm hperm]
  split_ifs at h ⊢ with hempty
  · obtain rfl := Except.ok.inj h
    exact ⟨others, hperm, rfl⟩
  · dsimp only at h ⊢
    split_ifs at h ⊢
    all_goals
      obtain rfl := Except.ok.inj h
      exact ⟨_, hperm.filter _, rfl⟩

end Order

end Kept

end TradeRun
