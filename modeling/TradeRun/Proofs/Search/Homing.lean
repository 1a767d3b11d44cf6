import TradeRun.Proofs.Search.Passages

/-!
Runs towards a goal.

The goal bears on a run in two places. A hop must lead to it or closer to it, and the hops end as
soon as some route ends in it.

* `Galaxy.ClosesIn`: a hop from one system to another leads to the goal or closer to it;
* `Galaxy.Housed`: what is needed of a galaxy so that a station says where it is;
* `Charter.Flown.closesIn`: **every leg of a flown route closes in on the goal**;
* `Leg.Misses`, `Charter.fly_misses`: **no leg before the last one leads to the goal**, whichever
  way the hops ended;
* `Route.Homes`: a route that closes in on the goal and calls there nowhere on the way. Where
  nothing is nearer to the goal than the goal itself (`Galaxy.SelfNearest`), one that starts there
  has a single hop (`Route.Homes.single_hop`);
* `Charter.search_homes`: so it is with every route of a search;
* `portRows`, `homeRun`, `homeCharter`: the rows of which the two ports are put together, and a run
  that starts in its goal.
-/

namespace TradeRun

namespace Galaxy

variable (g : Galaxy) {goal source target : SystemId}

/-- A hop from one system to another leads to the goal or closer to it. -/
def ClosesIn (goal source target : SystemId) : Prop :=
  target = goal ∨ ∃ near far, g.distance? target goal = some near ∧
    g.distance? source goal = some far ∧ near < far

/-- No distance to a system comes out less than that of the system to itself. -/
def SelfNearest (goal : SystemId) : Prop :=
  ∀ id d self, g.distance? id goal = some d → g.distance? goal goal = some self → ¬ d < self

/-- Every station lies in a system on record, and no system lists a station of another one. -/
structure Housed : Prop where
  system_known : ∀ id s, g.station? id = some s → ∃ sys, g.system? s.system = some sys
  system_eq : ∀ system, ∀ s ∈ g.stationsIn system, s.system = system

variable {g}

/-- Nothing closes in on the goal from the goal but what stays there. -/
lemma ClosesIn.eq_of_selfNearest (h : g.ClosesIn goal goal target) (hself : g.SelfNearest goal) :
    target = goal := by
  obtain rfl | ⟨near, far, hnear, hfar, hlt⟩ := h
  · rfl
  · exact absurd hlt (hself target near far hnear hfar)

/-- A galaxy put together from rows of which no two stations have one number houses its
stations. -/
lemma housed_ofRows {rows : Rows} (hids : (rows.stations.map Station.id).Nodup) :
    (ofRows rows).Housed where
  system_known := fun _ _ => system?_of_station?_ofRows
  system_eq := fun _ _ => system_of_mem_stationsIn_ofRows hids

/-- The system of a place that was found by its name is on record. -/
lemma Housed.system?_of_place (hhoused : g.Housed) {name : String} {place : Place}
    (hplace : g.place name = .ok place) {id : SystemId} (hid : place.systemIn? g = some id) :
    ∃ sys, g.system? id = some sys := by
  cases place with
  | system id' =>
      obtain rfl : id' = id := Option.some.inj hid
      exact Galaxy.system?_of_place hplace
  | station id' =>
      obtain ⟨s, hs, rfl⟩ := Option.map_eq_some_iff.1 hid
      exact hhoused.system_known id' s hs

end Galaxy

namespace Charter

variable {c : Charter} {g : Galaxy} {goal : SystemId}

/-! ### Closing in -/

/-- The goal of a charter that was drawn is on record. -/
lemma Drawn.goal_known {r : Request} {n : Numbers} {avoided : Avoided} (h : Drawn g r n avoided c)
    (hhoused : g.Housed) (hgoal : c.goal = some goal) : ∃ sys, g.system? goal = some sys := by
  have hdrawn := h.goal_eq
  rw [drawGoal, hgoal] at hdrawn
  split at hdrawn
  · next name hname =>
    cases hplace : g.place name with
    | error e =>
        rw [hplace] at hdrawn
        cases hdrawn
    | ok place =>
        rw [hplace] at hdrawn
        exact hhoused.system?_of_place hplace (Except.ok.inj hdrawn)
  · cases hdrawn

/-- What approaches the goal closes in on it, where both systems are on record. -/
lemma closesIn_of_approaches {source target : SystemId} (hgoal : c.goal = some goal)
    (hknown : ∃ sys, g.system? goal = some sys) (hsource : ∃ sys, g.system? source = some sys)
    (h : c.approaches g source target) : g.ClosesIn goal source target := by
  obtain ⟨goalSystem, hgoalSystem⟩ := hknown
  obtain ⟨sourceSystem, hsourceSystem⟩ := hsource
  have hfar : g.distance? source goal
      = some (sourceSystem.position.distance goalSystem.position) := by
    rw [Galaxy.distance?, hsourceSystem, hgoalSystem]
  rw [approaches, hgoal] at h
  dsimp only at h
  rw [hfar, Bool.or_eq_true, beq_iff_eq, Option.any_eq_true] at h
  obtain rfl | ⟨near, hnear, hlt⟩ := h
  · exact .inl rfl
  · exact .inr ⟨near, _, hnear, hfar, of_decide_eq_true hlt⟩

/-- **Every leg of a flown route closes in on the goal.** -/
lemma Flown.closesIn (hgoal : c.goal = some goal) (hhoused : g.Housed)
    (hknown : ∃ sys, g.system? goal = some sys) {hops k : Nat} {route : Route} {leg : Leg}
    (h : Flown c g hops route) (hleg : route.legs[k]? = some leg) :
    ∃ a b, route.stations[k]? = some a.id ∧ g.station? a.id = some a ∧
      route.stations[k + 1]? = some b.id ∧ g.station? b.id = some b ∧
        g.ClosesIn goal a.system b.system := by
  obtain ⟨source, landing, hlanded⟩ := h.landed hleg
  obtain ⟨a, -, happroach, hlisted, -, -⟩ := mem_landings.1 hlanded.mem
  rw [← hhoused.system_eq _ _ hlisted] at happroach
  exact ⟨source, landing.station, hlanded.source_eq, hlanded.source_known, hlanded.target_eq,
    station?_of_mem_landings hlanded.mem, closesIn_of_approaches hgoal hknown
      (hhoused.system_known _ _ hlanded.source_known) happroach⟩

end Charter

/-! ### Stopping -/

/-- A leg that does not lead to a system. -/
def Leg.Misses (g : Galaxy) (system : SystemId) (leg : Leg) : Prop :=
  ∀ s, g.station? leg.destination = some s → s.system ≠ system

/-- All legs of a route that does not end in a system miss it as soon as those before the last one
do. -/
lemma Route.forall_misses {g : Galaxy} {system : SystemId} {r : Route}
    (hbefore : ∀ leg ∈ r.legs.dropLast, leg.Misses g system) (h : ¬ r.reaches g system) :
    ∀ leg ∈ r.legs, leg.Misses g system := by
  rcases List.eq_nil_or_concat r.legs with hlegs | ⟨legs, last, hlegs⟩
  · simp [hlegs]
  · rw [hlegs, List.concat_eq_append] at hbefore ⊢
    rw [List.dropLast_concat] at hbefore
    intro leg hleg
    rcases List.mem_append.1 hleg with hleg | hleg
    · exact hbefore leg hleg
    · obtain rfl := List.mem_singleton.1 hleg
      rintro s hs rfl
      have hlast : r.last = leg.destination :=
        Route.last_eq_destination (hlegs.trans List.concat_eq_append)
      refine h ?_
      rw [Route.reaches, hlast, hs]
      exact beq_self_eq_true _

namespace Charter

variable {c : Charter} {g : Galaxy} {goal : SystemId} {routes : List Route}

/-- The routes of a hop may end in a system, but call there no earlier if those before did not. -/
lemma generation_misses {hop : Nat} (h : ∀ r ∈ routes, ∀ leg ∈ r.legs, leg.Misses g goal) :
    ∀ r ∈ c.generation g hop routes, ∀ leg ∈ r.legs.dropLast, leg.Misses g goal := by
  intro r hr
  obtain ⟨before, hbefore, cand, hcand, rfl⟩ := exists_of_mem_bestHops (mem_generation.1 hr)
  obtain ⟨-, -, -, hroute, -⟩ := of_mem_candidatesOf hcand
  rw [Candidate.extended, hroute, Route.legs_extend, List.dropLast_concat]
  exact h before (c.beam.mem_of_mem_prune hop routes hbefore)

/-- **No leg before the last one leads to the goal**: the hops end with the first one that does. -/
lemma fly_misses {left hop : Nat} (hgoal : c.goal = some goal)
    (h : ∀ r ∈ routes, ∀ leg ∈ r.legs, leg.Misses g goal) :
    ∀ r ∈ (c.fly g left hop routes).routes, ∀ leg ∈ r.legs.dropLast, leg.Misses g goal := by
  fun_induction fly c g left hop routes with
  | case1 hop routes => exact fun r hr leg hleg => h r hr leg (List.mem_of_mem_dropLast hleg)
  | case2 left hop routes kept =>
      intro r hr leg hleg
      exact h r (c.beam.mem_of_mem_prune hop routes hr) leg (List.mem_of_mem_dropLast hleg)
  | case3 left hop routes => exact generation_misses h
  | case4 left hop routes kept report hsome ordered hreach voyage ih =>
      have hnone := (someReaches_iff hgoal).not.1 (reachesGoal_generation.not.1 hreach)
      refine ih fun r hr => Route.forall_misses (generation_misses h r hr) fun hends => ?_
      exact hnone ⟨r, hr, hends⟩

/-- No stop between the first and the last one of a route in a result lies in the goal. -/
lemma search_misses {result : RunResult} {route : Route} (hgoal : c.goal = some goal)
    (h : (c.search g).result = .ok result) (hroute : route ∈ result.routes) :
    ∀ leg ∈ route.legs.dropLast, leg.Misses g goal := by
  obtain ⟨seeds, hseeds, covered, hresult⟩ := search_eq_ok h
  refine fly_misses hgoal (fun r hr => ?_) route (hresult.mem_voyage hroute)
  cases (of_seeds_eq_ok hseeds).2 r hr with
  | seed => simp

end Charter

/-! ### The run -/

/-- A route that closes in on a goal with every hop and calls there nowhere on the way. -/
structure Route.Homes (r : Route) (g : Galaxy) (goal : SystemId) : Prop where
  closes : ∀ k < r.hopCount, ∃ a b : Station,
    r.stations[k]? = some a.id ∧ g.station? a.id = some a ∧
    r.stations[k + 1]? = some b.id ∧ g.station? b.id = some b ∧ g.ClosesIn goal a.system b.system
  between : ∀ k < r.hopCount, 0 < k → ∃ s : Station,
    r.stations[k]? = some s.id ∧ g.station? s.id = some s ∧ s.system ≠ goal

/-- Where such a route starts in the goal its first hop stays there, so that there is no second
one. -/
lemma Route.Homes.single_hop {r : Route} {g : Galaxy} {goal : SystemId} (h : r.Homes g goal)
    (hself : g.SelfNearest goal) (hpos : 0 < r.hopCount) {first : Station}
    (hfirst : g.station? r.origin = some first) (hstart : first.system = goal) :
    r.hopCount = 1 ∧ ∃ last, g.station? r.last = some last ∧ last.system = goal := by
  obtain ⟨a, b, ha, hknown, hb, hknown', hclose⟩ := h.closes 0 hpos
  obtain rfl : a = first := by
    rw [← Option.some.inj (r.getElem?_stations_zero.symm.trans ha), hfirst] at hknown
    exact (Option.some.inj hknown).symm
  rw [hstart] at hclose
  have hstays : b.system = goal := hclose.eq_of_selfNearest hself
  have hsingle : r.hopCount = 1 := by
    by_contra hmore
    obtain ⟨s, hs, hknown'', haway⟩ := h.between 1 (by omega) Nat.one_pos
    have hid : s.id = b.id := Option.some.inj (hs.symm.trans hb)
    rw [hid, hknown'] at hknown''
    exact haway (Option.some.inj hknown'' ▸ hstays)
  have hlast : r.last = b.id := by
    have hend := r.getElem?_stations_hopCount
    rw [hsingle, hb] at hend
    exact (Option.some.inj hend).symm
  exact ⟨hsingle, b, hlast ▸ hknown', hstays⟩

namespace Charter

variable {c : Charter} {g : Galaxy} {goal : SystemId}

/-- A flown route homes in on the goal as soon as no leg before the last one leads there. -/
lemma Flown.homes (hgoal : c.goal = some goal) (hhoused : g.Housed)
    (hknown : ∃ sys, g.system? goal = some sys) {hops : Nat} {route : Route}
    (h : Flown c g hops route) (hmisses : ∀ leg ∈ route.legs.dropLast, leg.Misses g goal) :
    route.Homes g goal where
  closes := by
    intro k hk
    obtain ⟨leg, hleg⟩ := Route.exists_leg_of_lt hk
    exact h.closesIn hgoal hhoused hknown hleg
  between := by
    intro k hk hpos
    obtain ⟨j, rfl⟩ := Nat.exists_eq_add_one.2 hpos
    obtain ⟨next, hnext⟩ := Route.exists_leg_of_lt hk
    obtain ⟨a, -, ha, hknown', -⟩ := h.closesIn hgoal hhoused hknown hnext
    obtain ⟨leg, hleg, hdestination⟩ := Route.exists_leg ha
    have hearlier : leg ∈ route.legs.dropLast := by
      refine List.mem_of_getElem? (i := j) ?_
      rw [← route.length_legs] at hk
      rw [List.getElem?_dropLast, if_pos (Nat.lt_sub_of_add_lt hk), hleg]
    exact ⟨a, ha, hknown', hmisses leg hearlier a (hdestination ▸ hknown')⟩

/-- **A run closes in on its goal and stops there**, in a galaxy put together from rows of which no
two stations have one number. Each hop leads to the goal or closer to it, and no stop between the
first and the last one lies in it. A run that starts in the goal has a single hop and stays there,
as long as no distance to the goal comes out less than that of the goal to itself. -/
theorem search_homes {rows : Rows} {r : Request} {result : RunResult} {route : Route}
    (hids : (rows.stations.map Station.id).Nodup) (hdraw : draw (Galaxy.ofRows rows) r = .ok c)
    (hgoal : c.goal = some goal) (h : (c.search (Galaxy.ofRows rows)).result = .ok result)
    (hroute : route ∈ result.routes) :
    route.Homes (Galaxy.ofRows rows) goal ∧
      ((Galaxy.ofRows rows).SelfNearest goal →
        ∀ first, (Galaxy.ofRows rows).station? route.origin = some first → first.system = goal →
          route.hopCount = 1 ∧
            ∃ last, (Galaxy.ofRows rows).station? route.last = some last ∧ last.system = goal) := by
  obtain ⟨n, avoided, hdrawn⟩ := draw_eq_ok.1 hdraw
  have hhoused := Galaxy.housed_ofRows hids
  have hflown := search_flown h route hroute
  have hhomes : route.Homes (Galaxy.ofRows rows) goal :=
    hflown.homes hgoal hhoused (hdrawn.goal_known hhoused hgoal) (search_misses hgoal h hroute)
  have hpos : 0 < route.hopCount := by
    rw [hflown.hopCount_eq]
    exact search_hopsCompleted_pos hdrawn.hops_pos h
  exact ⟨hhomes, fun hself first hfirst hstart => hhomes.single_hop hself hpos hfirst hstart⟩

end Charter

/-- The two ports as they were recorded. -/
def portRows : Rows where
  systems := [⟨1, "Home", ⟨0.0, 0.0, 0.0⟩, []⟩]
  stations := [{ id := 1, name := "Quay", system := 1 }, { id := 2, name := "Dock", system := 1 }]
  items := [⟨1, "Ore"⟩, ⟨2, "Tea"⟩]
  prices := [⟨1, 1, { ask := 10 }⟩, ⟨1, 2, { bid := 9 }⟩, ⟨2, 1, { bid := 15 }⟩,
    ⟨2, 2, { ask := 6 }⟩]

lemma portRows_listing : ((Rows.listings portRows.placed).getD 1 []).mergeSort = [1, 2] := by
  have hlisted : (Rows.listings portRows.placed).getD 1 [] = [2, 1] := by with_unfolding_all rfl
  rw [hlisted]
  cbv

lemma ofRows_portRows : Galaxy.ofRows portRows = twoPorts := by
  refine Galaxy.ext_records (Register.ext_find? fun id => ?_) (by with_unfolding_all rfl)
    (by with_unfolding_all rfl)
  change (Galaxy.ofRows portRows).system? id = _
  rw [Galaxy.system?_ofRows, twoPorts, Register.find?_ofList, Rows.systemRegister,
    Register.find?_ofList]
  obtain rfl | hid := eq_or_ne id 1
  · exact congrArg (fun listing => some (StarSystem.withListing ⟨1, "Home", ⟨0.0, 0.0, 0.0⟩, []⟩
      listing)) portRows_listing
  · simp [portRows, StarSystem.withListing, hid.symm]

/-- There is no other system. -/
lemma twoPorts_selfNearest : twoPorts.SelfNearest 1 := by
  intro id d self hd hself
  obtain rfl : id = 1 := by
    by_contra hne
    rw [Galaxy.distance?, Galaxy.system?, twoPorts, Register.find?_ofList] at hd
    simp [Ne.symm hne] at hd
  obtain rfl := Option.some.inj (hd.symm.trans hself)
  have heq : twoPorts.distance? 1 1 = some 0.0 := by with_unfolding_all rfl
  obtain rfl := Option.some.inj (hd.symm.trans heq)
  decide +kernel

/-- The run between the ports towards the system in which both lie. -/
def homeRun : Request := { thereAndBack with goal := some "Home" }

/-- The charter of that run. -/
def homeCharter : Charter := (Charter.draw twoPorts homeRun).toOption.get (by decide +kernel)

/-- No route of the ore run reaches the goal. -/
lemma oreRun_falls_short {result : RunResult}
    (h : (oreCharter.search oreGalaxy).result = .ok result) :
    ∀ route ∈ result.routes, ¬ route.reaches oreGalaxy 1 := by
  intro route hroute hreach
  obtain ⟨-, -, -, hstart, -⟩ := oreCharter_eq
  obtain ⟨-, ⟨other, hother, hcalled⟩, hmissed⟩ := oreCharter_bestHops
  obtain ⟨hfinal, hforemost⟩ := (Charter.mem_routes_iff h).1 hroute
  have hle := hforemost other (oreCharter_finalRoutes.2 hother)
  rw [hstart, hcalled, hmissed route (oreCharter_finalRoutes.1 hfinal) hreach] at hle
  omega

/-- The ore galaxy as it was recorded. -/
def oreRows : Rows where
  systems := [⟨1, "Goal", ⟨4.0, 0.0, 0.0⟩, []⟩, ⟨2, "Middle", ⟨2.0, 0.0, 0.0⟩, []⟩,
    ⟨3, "Start", ⟨0.0, 0.0, 0.0⟩, []⟩]
  stations := [{ id := 1, name := "Port", system := 1 },
    { id := 2, name := "Waypoint", system := 2 }, { id := 3, name := "Depot", system := 3 }]
  items := [⟨1, "Ore"⟩]
  prices := [⟨1, 1, { bid := 30 }⟩, ⟨2, 1, { bid := 25 }⟩, ⟨3, 1, { ask := 10 }⟩]

lemma ofRows_oreRows : Galaxy.ofRows oreRows = oreGalaxy :=
  Galaxy.ext_records (by with_unfolding_all rfl) (by with_unfolding_all rfl)
    (by with_unfolding_all rfl)

/-- The run from the quay towards the system in which it lies ends at the dock, though it was to
have two hops. The ore run, which does not reach its goal, gets closer to it. -/
theorem search_homes_twice :
    ((portRows.stations.map Station.id).Nodup ∧ (Galaxy.ofRows portRows).SelfNearest 1 ∧
      homeCharter.goal = some 1 ∧ homeCharter.hops = 2 ∧
      ∃ result route, Charter.draw (Galaxy.ofRows portRows) homeRun = .ok homeCharter ∧
        (homeCharter.search (Galaxy.ofRows portRows)).result = .ok result ∧
        route ∈ result.routes ∧ route.stations = [1, 2] ∧ route.hopCount = 1 ∧
        ∃ last, (Galaxy.ofRows portRows).station? route.last = some last ∧ last.system = 1) ∧
    (oreRows.stations.map Station.id).Nodup ∧ oreCharter.goal = some 1 ∧
      ∃ result route, Charter.draw (Galaxy.ofRows oreRows) oreRun = .ok oreCharter ∧
        (oreCharter.search (Galaxy.ofRows oreRows)).result = .ok result ∧
        route ∈ result.routes ∧ route.Homes (Galaxy.ofRows oreRows) 1 ∧
        ¬ route.reaches (Galaxy.ofRows oreRows) 1 := by
  have hports : (portRows.stations.map Station.id).Nodup := by decide
  have hore : (oreRows.stations.map Station.id).Nodup := by decide
  have hself : (Galaxy.ofRows portRows).SelfNearest 1 := ofRows_portRows ▸ twoPorts_selfNearest
  obtain ⟨hgoal, hhops⟩ : homeCharter.goal = some 1 ∧ homeCharter.hops = 2 := by decide +kernel
  refine ⟨⟨hports, hself, hgoal, hhops, ?_⟩, hore, oreCharter_eq.1, ?_⟩
  · have hdraw : Charter.draw twoPorts homeRun = .ok homeCharter := eq_ok_get _
    obtain ⟨result, hresult, route, hroute, hstations⟩ := (plan twoPorts homeRun).exists_route
      (p := fun _ route => route.stations == [1, 2]) (by decide +kernel)
    rw [beq_iff_eq] at hstations
    obtain ⟨c, hdraw', hsearch⟩ := plan_eq_ok hresult
    obtain rfl : homeCharter = c := Except.ok.inj (hdraw.symm.trans hdraw')
    rw [← ofRows_portRows] at hdraw hsearch
    obtain ⟨-, hstay⟩ := Charter.search_homes hports hdraw hgoal hsearch hroute
    obtain ⟨quay, hquay, hstart⟩ :
        ∃ s, (Galaxy.ofRows portRows).station? 1 = some s ∧ s.system = 1 := by
      rw [ofRows_portRows]
      exact ⟨_, rfl, rfl⟩
    have horigin : route.origin = 1 := Route.origin_eq hstations
    obtain ⟨hsingle, hlast⟩ := hstay hself quay (horigin ▸ hquay) hstart
    exact ⟨result, route, hdraw, hsearch, hroute, hstations, hsingle, hlast⟩
  · have hdraw : Charter.draw oreGalaxy oreRun = .ok oreCharter := eq_ok_get _
    obtain ⟨result, hsearch⟩ := oreCharter_search
    obtain ⟨route, hroute⟩ := List.exists_mem_of_ne_nil _ (Charter.search_routes_ne_nil hsearch)
    have hshort := oreRun_falls_short hsearch route hroute
    rw [← ofRows_oreRows] at hdraw hsearch hshort
    obtain ⟨hhomes, -⟩ := Charter.search_homes hore hdraw oreCharter_eq.1 hsearch hroute
    exact ⟨result, route, hdraw, hsearch, hroute, hhomes, hshort⟩

end TradeRun
