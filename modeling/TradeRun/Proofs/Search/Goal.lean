import TradeRun.Proofs.Charter.Drawing
import TradeRun.Proofs.Search.Flight
import TradeRun.Proofs.Space.Ways

/-!
What the flag for the goal says about the routes of a search.

The flag is set when the hops end, and looks at all routes there are then. Which of them are kept
is decided later, by the places at which they called.

* `Charter.finalRoutes`: the routes with which the hops end;
* `Charter.search_goalReached_iff`: the flag is true of the routes with which the hops end. It is
  true of those that are kept just when, among the former, one that ends in the goal called at as
  many places as any other;
* `search_goalReached_passedOver`: a search where that is not so.
-/

namespace TradeRun

namespace Charter

variable {c : Charter} {g : Galaxy} {goal : SystemId} {result : RunResult}

/-! ### The last generation -/

/-- The routes with which the hops of a search end, before any of them is dropped for the places at
which it did not call. -/
def finalRoutes (c : Charter) (g : Galaxy) : List Route :=
  match c.seeds g with
  | .ok seeds => (c.fly g c.hops 0 seeds).routes
  | .error _ => []

/-- No route with which the hops end called at more places. -/
def Foremost (c : Charter) (g : Galaxy) (route : Route) : Prop :=
  ∀ other ∈ c.finalRoutes g,
    c.via.coverage g c.viaStart other ≤ c.via.coverage g c.viaStart route

lemma foremost_of_isEmpty (h : c.via.isEmpty) (route : Route) : c.Foremost g route := by
  intro other _
  have hsize := PlaceSet.isEmpty_iff_size.1 h
  have hle : c.via.coverage g c.viaStart other ≤ c.via.size := PlaceSet.coverage_le_size
  omega

/-! ### The flag -/

lemma someReaches_iff {routes : List Route} (hgoal : c.goal = some goal) :
    c.SomeReaches g routes ↔ ∃ route ∈ routes, route.reaches g goal := by
  constructor
  · rintro ⟨other, hother, hreach⟩
    obtain rfl := Option.some.inj (hgoal.symm.trans hother)
    exact hreach
  · exact fun hreach => ⟨goal, hgoal, hreach⟩

/-- A voyage whose result is not refused has flown a hop. -/
lemma completed_pos_of_not_grounded {left : Nat} {routes : List Route} (hleft : 1 ≤ left)
    (h : Voyage.isGrounded (c.fly g left 0 routes) = false) :
    0 < (c.fly g left 0 routes).completed := by
  cases hending : (c.fly g left 0 routes).ending with
  | complete =>
      rw [completed_of_fly_complete hending]
      omega
  | goal => exact lt_completed_of_fly_goal hending
  | deadEnd restriction =>
      rw [Voyage.isGrounded, hending] at h
      exact Nat.pos_of_ne_zero (beq_eq_false_iff_ne.1 h)

/-- A search that succeeds has completed a hop. -/
lemma search_hopsCompleted_pos (hhops : 1 ≤ c.hops) (h : (c.search g).result = .ok result) :
    1 ≤ result.hopsCompleted := by
  obtain ⟨seeds, -, covered, hresult⟩ := search_eq_ok h
  rw [hresult.hopsCompleted_eq]
  exact completed_pos_of_not_grounded hhops hresult.airborne

/-- The routes of a result are the foremost of those with which the hops end. -/
lemma mem_routes_iff (h : (c.search g).result = .ok result) {route : Route} :
    route ∈ result.routes ↔ route ∈ c.finalRoutes g ∧ c.Foremost g route := by
  obtain ⟨seeds, hseeds, covered, hresult⟩ := search_eq_ok h
  rw [hresult.mem_routes, mem_of_keepCoverage hresult.kept, Foremost, finalRoutes, hseeds]

/-- The flag tells whether a route ended in the goal when the hops ended. -/
lemma goalReached_iff_finalRoutes (hhops : 1 ≤ c.hops) (hgoal : c.goal = some goal)
    (h : (c.search g).result = .ok result) :
    result.goalReached ↔ ∃ route ∈ c.finalRoutes g, route.reaches g goal := by
  obtain ⟨seeds, hseeds, covered, hresult⟩ := search_eq_ok h
  have hflown := completed_pos_of_not_grounded hhops hresult.airborne
  rw [hresult.goalReached_iff, fly_goal_iff c.hops 0 hflown, someReaches_iff hgoal, finalRoutes,
    hseeds]

/-- **What the flag says.** It is raised just when a route ends in the goal at the time the hops
end. It says the same of the routes in the result just when, as soon as there is such a route, one
of them is foremost in its calls. That is so when there is no place to call at. -/
theorem search_goalReached_iff {r : Request} (hdraw : draw g r = .ok c)
    (hgoal : c.goal = some goal) (h : (c.search g).result = .ok result) :
    (result.goalReached ↔ ∃ route ∈ c.finalRoutes g, route.reaches g goal) ∧
      ((result.goalReached ↔ ∃ route ∈ result.routes, route.reaches g goal) ↔
        ((∃ route ∈ c.finalRoutes g, route.reaches g goal) →
          ∃ route ∈ c.finalRoutes g, route.reaches g goal ∧ c.Foremost g route)) ∧
      (c.via.isEmpty →
        (result.goalReached ↔ ∃ route ∈ result.routes, route.reaches g goal)) := by
  obtain ⟨n, avoided, hdrawn⟩ := draw_eq_ok.1 hdraw
  have hflag := goalReached_iff_finalRoutes hdrawn.hops_pos hgoal h
  have hkept : (∃ route ∈ result.routes, route.reaches g goal) ↔
      ∃ route ∈ c.finalRoutes g, route.reaches g goal ∧ c.Foremost g route := by
    refine exists_congr fun route => ?_
    rw [mem_routes_iff h, and_assoc, and_comm (a := c.Foremost g route)]
  have hlost : (∃ route ∈ c.finalRoutes g, route.reaches g goal ∧ c.Foremost g route) →
      ∃ route ∈ c.finalRoutes g, route.reaches g goal := by
    rintro ⟨route, hroute, hreach, -⟩
    exact ⟨route, hroute, hreach⟩
  rw [hkept, hflag]
  refine ⟨Iff.rfl, ⟨fun hsame => hsame.1, fun hfound => ⟨hfound, hlost⟩⟩, fun hempty => ?_⟩
  refine ⟨?_, hlost⟩
  rintro ⟨route, hroute, hreach⟩
  exact ⟨route, hroute, hreach, foremost_of_isEmpty hempty route⟩

end Charter

/-! ### A goal passed over -/

/-- The system at which the ore run starts. -/
def oreSystem : StarSystem := ⟨3, "Start", ⟨0.0, 0.0, 0.0⟩, [3]⟩

/-- The station that sells the ore. -/
def oreDepot : Station :=
  { id := 3, name := "Depot", system := 3, market := (∅ : Market).insertMany [(1, { ask := 10 })] }

/-- The station on the way, which buys the ore. -/
def oreWaypoint : Station :=
  { id := 2, name := "Waypoint", system := 2,
    market := (∅ : Market).insertMany [(1, { bid := 25 })] }

/-- A station that sells ore, and two stations that buy it: one in the goal, the other one in a
system on the way there. -/
def oreGalaxy : Galaxy where
  systems := .ofList
    [⟨1, "Goal", ⟨4.0, 0.0, 0.0⟩, [1]⟩, ⟨2, "Middle", ⟨2.0, 0.0, 0.0⟩, [2]⟩, oreSystem]
  stations := .ofList
    [{ id := 1, name := "Port", system := 1,
       market := (∅ : Market).insertMany [(1, { bid := 30 })] },
     oreWaypoint, oreDepot]
  items := .ofList [⟨1, "Ore"⟩]

/-- A run of two hops towards the goal that must call at the waypoint. -/
def oreRun : Request :=
  { Request.basic 10 1000 5.0 with
    origin := some "Depot", goal := some "Goal", via := ["Waypoint"], jumpsPerHop := 1 }

/-- The charter of the ore run. -/
def oreCharter : Charter := (Charter.draw oreGalaxy oreRun).toOption.get (by decide +kernel)

/-- The ore run before its first hop. -/
def oreSeed : Route := .seed 3 1000

/-- The ore galaxy as a ship with that range sees it. -/
def oreSpace : Space := ⟨oreGalaxy, 5.0, .empty⟩

section Ore

lemma oreGalaxy_station : oreGalaxy.station? 3 = some oreDepot := rfl

lemma oreSpace_steps : oreSpace.steps 3 = [2, 1] := by
  have hsystem : oreSpace.galaxy.system? 3 = some oreSystem := rfl
  rw [Space.steps_eq [(3, 0.0), (2, 2.0), (1, 4.0)] hsystem (by decide +kernel)
    (by decide +kernel) (by decide +kernel)]
  decide +kernel

lemma oreSpace_explore : oreSpace.explore 1 [3] = [⟨3, [3]⟩, ⟨2, [3, 2]⟩, ⟨1, [3, 1]⟩] := by
  simp only [Space.explore, Space.rings, Space.nextRing, List.map, List.foldl, oreSpace_steps,
    Arrival.start]
  decide +kernel

/-- What the search reads of the charter. -/
lemma oreCharter_eq : oreCharter.goal = some 1 ∧ oreCharter.hops = 2 ∧
    oreCharter.jumpsPerHop = 1 ∧ oreCharter.viaStart = 1 ∧ oreCharter.origins = [3] ∧
    oreCharter.startCredits = 1000 ∧ oreCharter.avoid.matches oreDepot = false ∧
    oreCharter.filter.acceptsPad oreDepot = true ∧ oreCharter.viaRestricts = false ∧
    oreCharter.destinations.isNone := by
  decide +kernel

lemma oreCharter_restriction (hop : Nat) : oreCharter.restriction hop = none := by
  obtain ⟨-, -, -, -, -, -, -, -, hfree, hopen⟩ := oreCharter_eq
  rw [Charter.restriction, Option.isNone_iff_eq_none.1 hopen, hfree]
  rfl

lemma oreCharter_explore :
    (oreCharter.space oreGalaxy).explore oreCharter.jumpsPerHop [3]
      = [⟨3, [3]⟩, ⟨2, [3, 2]⟩, ⟨1, [3, 1]⟩] := by
  obtain ⟨-, -, hjumps, -⟩ := oreCharter_eq
  have hspace : oreCharter.space oreGalaxy = oreSpace := rfl
  rw [hjumps, hspace, oreSpace_explore]

lemma oreCharter_seeds : oreCharter.seeds oreGalaxy = .ok [oreSeed] := by
  obtain ⟨-, -, -, -, horigins, hcredits, hsafe, hdock, -⟩ := oreCharter_eq
  simp only [Charter.seeds, horigins, List.filterMap_cons, oreGalaxy_station, List.filterMap_nil,
    List.filter_cons, hsafe, hdock, hcredits]
  rfl

/-- One of the two hops ends in the goal and the other one calls at the waypoint. -/
lemma oreCharter_bestHops :
    (∃ r ∈ oreCharter.bestHops oreGalaxy [oreSeed] none, r.reaches oreGalaxy 1) ∧
      (∃ r ∈ oreCharter.bestHops oreGalaxy [oreSeed] none,
        oreCharter.via.coverage oreGalaxy 1 r = 1) ∧
      ∀ r ∈ oreCharter.bestHops oreGalaxy [oreSeed] none, r.reaches oreGalaxy 1 →
        oreCharter.via.coverage oreGalaxy 1 r = 0 := by
  have hlast : oreSeed.last = 3 := rfl
  have hsystem : oreDepot.system = 3 := rfl
  simp only [Charter.bestHops, Charter.candidates, List.flatMap_cons, List.flatMap_nil,
    List.append_nil, Charter.candidatesOf, hlast, oreGalaxy_station, Charter.landings, hsystem,
    oreCharter_explore]
  decide +kernel

/-- The first hop leads to the goal and is the last one. -/
lemma oreCharter_fly : ∃ reports, oreCharter.fly oreGalaxy 2 0 [oreSeed]
    = ⟨reports, oreCharter.generation oreGalaxy 0 [oreSeed], 1, .goal⟩ := by
  refine ⟨_, Charter.fly_of_someReaches 1 0 ((Charter.someReaches_iff oreCharter_eq.1).2 ?_)⟩
  obtain ⟨r, hr, hreach⟩ := oreCharter_bestHops.1
  refine ⟨r, Charter.mem_generation.2 ?_, hreach⟩
  rwa [Beam.prune_singleton, oreCharter_restriction]

lemma oreCharter_finalRoutes {r : Route} :
    r ∈ oreCharter.finalRoutes oreGalaxy ↔ r ∈ oreCharter.bestHops oreGalaxy [oreSeed] none := by
  obtain ⟨-, hhops, -⟩ := oreCharter_eq
  obtain ⟨reports, hfly⟩ := oreCharter_fly
  rw [Charter.finalRoutes, oreCharter_seeds, hhops]
  dsimp only
  rw [hfly, Charter.mem_generation, Beam.prune_singleton, oreCharter_restriction]

lemma oreCharter_search :
    ∃ result, (oreCharter.search oreGalaxy).result = .ok result := by
  obtain ⟨-, hhops, -, hstart, -⟩ := oreCharter_eq
  obtain ⟨reports, hfly⟩ := oreCharter_fly
  obtain ⟨r, hr, hcalled⟩ := oreCharter_bestHops.2.1
  have hfinal := oreCharter_finalRoutes.2 hr
  rw [Charter.finalRoutes, oreCharter_seeds, hhops] at hfinal
  rw [Charter.search, oreCharter_seeds, hhops]
  refine Charter.exists_conclude (by rw [hfly]; rfl) (.inr ⟨r, hfinal, ?_⟩)
  rw [hstart, hcalled]
  exact Nat.zero_lt_one

end Ore

/-- The ore run reaches the goal, and the flag says so, but only the route to the waypoint is kept,
which ends elsewhere. -/
theorem search_goalReached_passedOver :
    Charter.draw oreGalaxy oreRun = .ok oreCharter ∧ oreCharter.goal = some 1 ∧
      ∃ result, (oreCharter.search oreGalaxy).result = .ok result ∧ result.goalReached ∧
        ¬ ∃ route ∈ result.routes, route.reaches oreGalaxy 1 := by
  obtain ⟨hgoal, -, -, hstart, -⟩ := oreCharter_eq
  obtain ⟨result, hresult⟩ := oreCharter_search
  obtain ⟨hreaches, ⟨other, hother, hcalled⟩, hmissed⟩ := oreCharter_bestHops
  have hdraw : Charter.draw oreGalaxy oreRun = .ok oreCharter := eq_ok_get _
  obtain ⟨hflag, hsame, -⟩ := Charter.search_goalReached_iff hdraw hgoal hresult
  simp only [oreCharter_finalRoutes] at hflag hsame
  have hraised := hflag.2 hreaches
  refine ⟨hdraw, hgoal, result, hresult, hraised, fun hkept => ?_⟩
  obtain ⟨route, hroute, hreach, hforemost⟩ := hsame.1 ⟨fun _ => hkept, fun _ => hraised⟩ hreaches
  have hle := hforemost other (oreCharter_finalRoutes.2 hother)
  rw [hstart, hcalled, hmissed route hroute hreach] at hle
  omega

end TradeRun
