import TradeRun.Proofs.Route.Order
import TradeRun.Proofs.Search.Goal
import TradeRun.Proofs.Search.Legs

/-!
The shape of a result.

Every hop keeps one route for each station at which it ends. Following up only some of them, putting
those first that end in the goal, and keeping those that called at the most places all leave it at
that, so that no two routes of a result can tie.

* `EndsApart`: no two routes end at one station;
* `Charter.endsApart_generation`, `Beam.endsApart_prune`: so it is with the routes of a hop, and
  with those of them that are followed up;
* `Charter.search_endsApart`: and so it is with the routes of a result, whichever way the hops
  ended;
* `Charter.search_shape`: **the shape of a result**.
-/

namespace TradeRun

/-- No two routes end at one station. -/
def EndsApart (routes : List Route) : Prop := (routes.map Route.last).Nodup

namespace EndsApart

variable {routes others : List Route}

lemma perm (h : EndsApart routes) (hperm : others.Perm routes) : EndsApart others :=
  (hperm.map Route.last).nodup_iff.2 h

lemma sublist (h : EndsApart routes) (hsub : others.Sublist routes) : EndsApart others :=
  (hsub.map Route.last).nodup h

end EndsApart

/-- Routes that are followed up end apart if all do. -/
lemma Beam.endsApart_prune (b : Beam) (hop : Nat) {routes : List Route} (h : EndsApart routes) :
    EndsApart (b.prune hop routes) :=
  (h.perm (Route.rank_perm routes)).sublist (b.prune_prefix hop routes).sublist

lemma goalFirst_perm (g : Galaxy) (goal : SystemId) (routes : List Route) :
    (goalFirst g goal routes).Perm routes :=
  List.filter_append_perm _ _

namespace Charter

variable {c : Charter} {g : Galaxy} {result : RunResult}

lemma goalOrder_perm (routes : List Route) : (c.goalOrder g routes).Perm routes := by
  rw [goalOrder]
  split
  · exact goalFirst_perm g _ routes
  · exact .refl _

/-! ### One route for each station -/

/-- The routes of a hop end apart. -/
lemma endsApart_generation (hop : Nat) (routes : List Route) :
    EndsApart (c.generation g hop routes) := by
  have hbest : EndsApart (c.bestHops g (c.beam.prune hop routes) (c.restriction hop)) :=
    nodup_last_bestHops c g _ _
  exact hbest.perm ((goalOrder_perm _).trans (Route.rank_perm _))

/-- The routes of a result come from the routes with which the hops ended, and end apart. -/
lemma search_endsApart (hhops : 1 ≤ c.hops) (h : (c.search g).result = .ok result) :
    EndsApart result.routes := by
  obtain ⟨seeds, hseeds, covered, hresult⟩ := search_eq_ok h
  have hflown := completed_pos_of_not_grounded hhops hresult.airborne
  have hvoyage : EndsApart (c.fly g c.hops 0 seeds).routes :=
    fly_keeps c.hops 0 endsApart_generation (fun hop _ => c.beam.endsApart_prune hop) hflown
  have hcovered : covered.routes.Sublist (c.fly g c.hops 0 seeds).routes := by
    rw [(of_keepCoverage_eq_ok hresult.kept).1]
    exact List.filter_sublist
  rw [hresult.routes_eq]
  exact (hvoyage.sublist hcovered).perm (Route.rank_perm _)

/-- Routes that end apart at stations of the galaxy are no more than these. -/
lemma length_le_stationCount {routes : List Route} (h : EndsApart routes)
    (hknown : ∀ r ∈ routes, ∃ s, g.station? r.last = some s) : routes.length ≤ g.stationCount := by
  rw [← List.length_map (f := Route.last), Galaxy.stationCount]
  refine Register.length_le_size h fun id hid => ?_
  obtain ⟨r, hr, rfl⟩ := List.mem_map.1 hid
  obtain ⟨s, hs⟩ := hknown r hr
  exact Option.isSome_iff_exists.2 ⟨s, hs⟩

/-- A hop makes no more routes than there are stations. -/
lemma length_generation_le (c : Charter) (g : Galaxy) (hop : Nat) (routes : List Route) :
    (c.generation g hop routes).length ≤ g.stationCount := by
  refine length_le_stationCount (endsApart_generation hop routes) fun r hr => ?_
  obtain ⟨r₀, -, cand, hcand, rfl⟩ := exists_of_mem_bestHops (mem_generation.1 hr)
  exact ⟨_, station?_last_extended hcand⟩

/-! ### The search -/

/-- **The shape of a result.** Its routes are in strict order of rank, and no two of them end at one
station, so that there are no more of them than there are stations. All have as many hops as were
completed, which is one at least and no more than were asked for. Of these routes the first ones are
shown, as many as are asked for if there are so many, and one at least. -/
theorem search_shape {r : Request} (hdraw : draw g r = .ok c)
    (h : (c.search g).result = .ok result) :
    (result.routes.Pairwise fun a b => Route.compareRank a b = .lt) ∧
      (result.routes.map Route.last).Nodup ∧
      result.routes.length ≤ g.stationCount ∧
      (∀ route ∈ result.routes, route.hopCount = result.hopsCompleted) ∧
      1 ≤ result.hopsCompleted ∧ result.hopsCompleted ≤ c.hops ∧
      result.displayed <+: result.routes ∧ result.displayed ≠ [] ∧
      result.displayed.length = min result.routes.length result.displayLimit ∧
      result.displayLimit = c.routes := by
  obtain ⟨n, avoided, hdrawn⟩ := draw_eq_ok.1 hdraw
  obtain ⟨seeds, hseeds, covered, hresult⟩ := search_eq_ok h
  have hends := search_endsApart hdrawn.hops_pos h
  have hcovered : EndsApart covered.routes :=
    hends.perm (hresult.routes_eq ▸ (Route.rank_perm covered.routes).symm)
  have hflown := search_flown h
  have hdisplayed : result.displayed ≠ [] := by
    have hlimit := hdrawn.routes_pos
    rw [← hresult.displayLimit_eq] at hlimit
    rw [RunResult.displayed, Ne, List.take_eq_nil_iff, not_or]
    exact ⟨by omega, search_routes_ne_nil h⟩
  refine ⟨hresult.routes_eq ▸ Route.pairwise_lt_rank hcovered, hends,
    length_le_stationCount hends fun r hr => ?_, fun r hr => (hflown r hr).hopCount_eq, ?_, ?_,
    List.take_prefix _ _, hdisplayed, ?_, hresult.displayLimit_eq⟩
  · obtain ⟨s, hs, -⟩ := (hflown r hr).last_safe
    exact ⟨s, hs⟩
  · rw [hresult.hopsCompleted_eq]
    exact completed_pos_of_not_grounded hdrawn.hops_pos hresult.airborne
  · rw [hresult.hopsCompleted_eq]
    exact (fly_completed_le c.hops 0).trans_eq (Nat.zero_add _)
  · rw [RunResult.displayed, List.length_take, Nat.min_comm]

end Charter

/-! ### Two ways to sell -/

/-- A run of one hop from the depot to wherever the ore is bought. -/
def oreSale : Request :=
  { Request.basic 10 1000 5.0 with origin := some "Depot", hops := 1, jumpsPerHop := 1 }

/-- The charter of the ore sale. -/
def oreSaleCharter : Charter := (Charter.draw oreGalaxy oreSale).toOption.get (by decide +kernel)

section OreSale

/-- What the search reads of the charter. -/
lemma oreSaleCharter_eq : oreSaleCharter.goal.isNone ∧ oreSaleCharter.hops = 1 ∧
    oreSaleCharter.jumpsPerHop = 1 ∧ oreSaleCharter.origins = [3] ∧
    oreSaleCharter.startCredits = 1000 ∧ oreSaleCharter.avoid.matches oreDepot = false ∧
    oreSaleCharter.filter.acceptsPad oreDepot = true ∧ oreSaleCharter.via.isEmpty ∧
    oreSaleCharter.destinations.isNone ∧ oreSaleCharter.viaRestricts = false ∧
    oreSaleCharter.routes = 1 := by
  decide +kernel

lemma oreSaleCharter_seeds : oreSaleCharter.seeds oreGalaxy = .ok [oreSeed] := by
  obtain ⟨-, -, -, horigins, hcredits, hsafe, hdock, -⟩ := oreSaleCharter_eq
  simp only [Charter.seeds, horigins, List.filterMap_cons, oreGalaxy_station, List.filterMap_nil,
    List.filter_cons, hsafe, hdock, hcredits]
  rfl

/-- The ore is sold at the port or at the waypoint. -/
lemma oreSaleCharter_bestHops :
    (oreSaleCharter.bestHops oreGalaxy [oreSeed] none).map Route.stations = [[3, 1], [3, 2]] := by
  have hlast : oreSeed.last = 3 := rfl
  have hsystem : oreDepot.system = 3 := rfl
  have hspace : oreSaleCharter.space oreGalaxy = oreSpace := rfl
  obtain ⟨-, -, hjumps, -⟩ := oreSaleCharter_eq
  simp only [Charter.bestHops, Charter.candidates, List.flatMap_cons, List.flatMap_nil,
    List.append_nil, Charter.candidatesOf, hlast, oreGalaxy_station, Charter.landings, hsystem,
    hspace, hjumps, oreSpace_explore]
  decide +kernel

lemma oreSaleCharter_followed : oreSaleCharter.bestHops oreGalaxy
    (oreSaleCharter.beam.prune 0 [oreSeed]) (oreSaleCharter.restriction 0)
      = oreSaleCharter.bestHops oreGalaxy [oreSeed] none := by
  obtain ⟨-, -, -, -, -, -, -, -, hopen, hfree, -⟩ := oreSaleCharter_eq
  have hrestriction : oreSaleCharter.restriction 0 = none := by
    rw [Charter.restriction, Option.isNone_iff_eq_none.1 hopen, hfree]
    rfl
  rw [Beam.prune_singleton, hrestriction]

/-- The only hop is the last one. -/
lemma oreSaleCharter_fly : ∃ reports, oreSaleCharter.fly oreGalaxy 1 0 [oreSeed]
    = ⟨reports, oreSaleCharter.generation oreGalaxy 0 [oreSeed], 1, .complete⟩ := by
  have hsome : oreSaleCharter.bestHops oreGalaxy (oreSaleCharter.beam.prune 0 [oreSeed])
      (oreSaleCharter.restriction 0) ≠ [] := by
    intro hnone
    have hstations := oreSaleCharter_bestHops
    rw [← oreSaleCharter_followed, hnone] at hstations
    cases hstations
  refine ⟨_, Charter.fly_of_not_someReaches 0 0 hsome ?_⟩
  rintro ⟨goal, hgoal, -⟩
  have hnone := oreSaleCharter_eq.1
  rw [hgoal] at hnone
  cases hnone

/-- The search finds both ways. -/
lemma oreSaleCharter_search : ∃ result, (oreSaleCharter.search oreGalaxy).result = .ok result ∧
    (result.routes.map Route.stations).Perm [[3, 1], [3, 2]] := by
  obtain ⟨-, hhops, -, -, -, -, -, hvia, -⟩ := oreSaleCharter_eq
  obtain ⟨reports, hfly⟩ := oreSaleCharter_fly
  obtain ⟨result, hresult⟩ : ∃ result, (oreSaleCharter.search oreGalaxy).result = .ok result := by
    rw [Charter.search, oreSaleCharter_seeds, hhops]
    exact Charter.exists_conclude (by rw [hfly]; rfl) (.inl hvia)
  refine ⟨result, hresult, ?_⟩
  obtain ⟨seeds, hseeds, covered, hconcluded⟩ := Charter.search_eq_ok hresult
  obtain rfl := Except.ok.inj (oreSaleCharter_seeds.symm.trans hseeds)
  have hkept := hconcluded.kept
  rw [keepCoverage, if_pos hvia, hhops, hfly] at hkept
  have hfound : (oreSaleCharter.generation oreGalaxy 0 [oreSeed]).Perm
      (oreSaleCharter.bestHops oreGalaxy [oreSeed] none) := by
    rw [← oreSaleCharter_followed]
    exact (Charter.goalOrder_perm _).trans (Route.rank_perm _)
  rw [hconcluded.routes_eq, ← Except.ok.inj hkept, ← oreSaleCharter_bestHops]
  exact ((Route.rank_perm _).trans hfound).map Route.stations

end OreSale

/-- Both ways to sell the ore are found, the better one first, and one of them is shown. -/
theorem search_shape_oreSale :
    ∃ result, Charter.draw oreGalaxy oreSale = .ok oreSaleCharter ∧
      (oreSaleCharter.search oreGalaxy).result = .ok result ∧ result.routes.length = 2 ∧
      (result.routes.Pairwise fun a b => Route.compareRank a b = .lt) ∧
      (result.routes.map Route.last).Nodup ∧ result.hopsCompleted = 1 ∧
      result.displayed.length = 1 := by
  obtain ⟨result, hresult, hroutes⟩ := oreSaleCharter_search
  have hdraw : Charter.draw oreGalaxy oreSale = .ok oreSaleCharter := eq_ok_get _
  obtain ⟨hranked, hends, -, -, hpos, hle, -, -, hlength, hlimit⟩ :=
    Charter.search_shape hdraw hresult
  obtain ⟨-, hhops, -, -, -, -, -, -, -, -, hshown⟩ := oreSaleCharter_eq
  have htwo : result.routes.length = 2 := by simpa using hroutes.length_eq
  refine ⟨result, hdraw, hresult, htwo, hranked, hends, ?_, ?_⟩
  · exact le_antisymm (hle.trans_eq hhops) hpos
  · rw [hlength, htwo, hlimit, hshown]
    rfl

end TradeRun
