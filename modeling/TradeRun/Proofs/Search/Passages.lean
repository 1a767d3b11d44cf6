import TradeRun.Proofs.Charter.Avoidance
import TradeRun.Proofs.Galaxy.Listing
import TradeRun.Proofs.Search.Legs
import TradeRun.Proofs.Search.Shape
import TradeRun.Proofs.Space.Ways

/-!
The systems that a run flies through.

* `Leg.Flyable`: what makes a leg one that can be flown as requested, from one system to another;
* `Charter.way_of_mem_landings`: a landing is reached on a way of the exploration around its source;
* `Charter.Flown.flyable`: every leg of a flown route can be flown, as far as systems list stations
  of their own only;
* `plan_flyable`: **every run can be flown**, and each of its hops starts where the last one ended;
* `straitRows`, `straitTrip`, `plan_strait`: a run of two hops past a reef that it keeps away from.
-/

namespace TradeRun

/-- A leg that can be flown as requested, from one system to another: each jump leads to a system in
range, no system is entered twice, and none is one to keep away from. -/
structure Leg.Flyable (g : Galaxy) (r : Request) (source target : SystemId) (leg : Leg) : Prop where
  head_eq : leg.path.head? = some source
  last_eq : leg.path.getLast? = some target
  length_le : (leg.path.length : Int) ≤ r.jumpsPerHop + 1
  nodup : leg.path.Nodup
  in_range : ∃ range, r.ladenRange = some range ∧
    leg.path.IsChain fun x y => y ∈ g.neighbours x range
  safe : ∀ system ∈ leg.path, ¬ r.Shuns g (.system system)

namespace Charter

variable {c : Charter} {g : Galaxy} {r : Request} {n : Numbers} {avoided : Avoided}

/-- A landing is reached on a way from the system of its source, by no more jumps than allowed, to a
system that lists its station. -/
lemma way_of_mem_landings {source : Station} {restriction : Option PlaceSet} {landing : Landing}
    (h : landing ∈ c.landings g source restriction) :
    ∃ target, landing.station ∈ g.stationsIn target ∧
      (c.space g).Way source.system target landing.path ∧
        landing.path.length ≤ c.jumpsPerHop + 1 := by
  obtain ⟨a, ha, -, hlisted, -, hpath⟩ := mem_landings.1 h
  obtain ⟨⟨start, hstart, hway⟩, hlength⟩ := Space.of_mem_explore ha
  obtain rfl := List.mem_singleton.1 hstart
  exact ⟨a.system, hlisted, hpath ▸ hway, hpath ▸ hlength⟩

/-- A station that need not be avoided lies in a system that need not be avoided. -/
lemma not_hasSystem_of_not_matches {set : PlaceSet} {s : Station} (h : ¬ set.matches s) :
    ¬ set.hasSystem s.system :=
  fun hsystem => h (PlaceSet.matches_iff.2 ⟨.system s.system, hsystem, beq_self_eq_true _⟩)

/-- **Every leg of a flown route can be flown**, as far as systems list stations of their own
only. -/
lemma Flown.flyable (hdrawn : Drawn g r n avoided c)
    (hlisting : ∀ system, ∀ s ∈ g.stationsIn system, s.system = system) {hops k : Nat}
    {route : Route} {leg : Leg} (h : Flown c g hops route) (hleg : route.legs[k]? = some leg) :
    ∃ a b, route.stations[k]? = some a.id ∧ g.station? a.id = some a ∧
      route.stations[k + 1]? = some b.id ∧ g.station? b.id = some b ∧
        leg.Flyable g r a.system b.system := by
  obtain ⟨source, landing, hlanded⟩ := h.landed hleg
  obtain ⟨target, hlisted, hway, hlength⟩ := way_of_mem_landings hlanded.mem
  obtain rfl := hlisting target _ hlisted
  have hsafe := hway.forall_safe (not_hasSystem_of_not_matches hlanded.source_safe)
  rw [← hlanded.path_eq] at hway hlength hsafe
  refine ⟨source, landing.station, hlanded.source_eq, hlanded.source_known, hlanded.target_eq,
    station?_of_mem_landings hlanded.mem, ?_⟩
  exact {
    head_eq := hway.head_eq
    last_eq := hway.last_eq
    length_le := by rw [← hdrawn.jumpsPerHop_eq]; omega
    nodup := hway.nodup
    in_range := ⟨c.ladenRange, hdrawn.ladenRange_eq, hway.in_range⟩
    safe := fun system hsystem => (hdrawn.avoid_contains_iff _).not.1 (hsafe system hsystem) }

end Charter

/-! ### The run -/

/-- **Every run can be flown.** In a galaxy put together from rows of which no two stations have one
number, each hop of a run leads from the system of one station to that of the next one, by no more
jumps than allowed, each of them within range, through no system twice and through none to keep away
from. So each hop starts in the system in which the one before it ended, and there is one station
more than there are hops, each with its way. -/
theorem plan_flyable {rows : Rows} {r : Request} {result : RunResult} {route : Route}
    (hids : (rows.stations.map Station.id).Nodup)
    (h : (plan (Galaxy.ofRows rows) r).result = .ok result) (hroute : route ∈ result.routes) :
    (∀ k leg, route.legs[k]? = some leg → ∃ a b : Station,
      route.stations[k]? = some a.id ∧ (Galaxy.ofRows rows).station? a.id = some a ∧
      route.stations[k + 1]? = some b.id ∧ (Galaxy.ofRows rows).station? b.id = some b ∧
      leg.Flyable (Galaxy.ofRows rows) r a.system b.system) ∧
    (∀ k leg next, route.legs[k]? = some leg → route.legs[k + 1]? = some next →
      ∃ system, leg.path.getLast? = some system ∧ next.path.head? = some system) ∧
    route.stations.length = route.hopCount + 1 ∧ route.paths.length = route.hopCount ∧
      route.legs.map Leg.path = route.paths := by
  obtain ⟨c, hdraw, hsearch⟩ := plan_eq_ok h
  obtain ⟨n, avoided, hdrawn⟩ := Charter.draw_eq_ok.1 hdraw
  have hflown := Charter.search_flown hsearch route hroute
  have hlegs := fun k leg (hleg : route.legs[k]? = some leg) =>
    hflown.flyable hdrawn (fun _ _ => Galaxy.system_of_mem_stationsIn_ofRows hids) hleg
  refine ⟨hlegs, fun k leg next hleg hnext => ?_, route.length_stations,
    route.length_paths, route.map_path_legs⟩
  obtain ⟨_, b, -, -, hb, hknown, hflyable⟩ := hlegs k leg hleg
  obtain ⟨b', _, hb', hknown', -, -, hflyable'⟩ := hlegs (k + 1) next hnext
  have hid : b'.id = b.id := Option.some.inj (hb'.symm.trans hb)
  obtain rfl : b' = b := Option.some.inj (by rw [← hknown', hid, hknown])
  exact ⟨_, hflyable.last_eq, hflyable'.head_eq⟩

/-- Four systems of which one is a reef, with a station each: ore is sold at one end, tea in the
middle, and the wreck on the reef pays more for the ore than the waypoint does. -/
def straitRows : Rows where
  systems := [⟨1, "East", ⟨8.0, 0.0, 0.0⟩, []⟩, ⟨2, "Middle", ⟨4.0, 0.0, 0.0⟩, []⟩,
    ⟨3, "West", ⟨0.0, 0.0, 0.0⟩, []⟩, ⟨4, "Reef", ⟨4.0, 1.0, 0.0⟩, []⟩]
  stations := [{ id := 1, name := "Port", system := 1 },
    { id := 2, name := "Waypoint", system := 2 }, { id := 3, name := "Depot", system := 3 },
    { id := 4, name := "Wreck", system := 4 }]
  items := [⟨1, "Ore"⟩, ⟨2, "Tea"⟩]
  prices := [⟨1, 2, { bid := 9 }⟩, ⟨2, 1, { bid := 30 }⟩, ⟨2, 2, { ask := 5 }⟩,
    ⟨3, 1, { ask := 10 }⟩, ⟨4, 1, { bid := 99 }⟩]

/-- The strait between the two ends. -/
def strait : Galaxy := .ofRows straitRows

/-- A run of two hops from the depot that keeps away from the reef. -/
def straitTrip : Request :=
  { Request.basic 10 1000 5.0 with
    origin := some "Depot", hops := 2, jumpsPerHop := 1, avoid := ["Reef"] }

/-- The charter of that run. -/
def straitCharter : Charter := (Charter.draw strait straitTrip).toOption.get (by decide +kernel)

section Strait

lemma draw_strait : Charter.draw strait straitTrip = .ok straitCharter := eq_ok_get _

/-- The reef is what the run keeps away from. -/
lemma straitTrip_shuns_reef : straitTrip.Shuns strait (.system 4) := by
  obtain ⟨n, avoided, hdrawn⟩ := Charter.draw_eq_ok.1 draw_strait
  exact (hdrawn.avoid_contains_iff _).1 (by decide +kernel)

lemma straitCharter_eq : straitCharter.goal.isNone ∧ straitCharter.hops = 2 ∧
    straitCharter.jumpsPerHop = 1 ∧ straitCharter.via.isEmpty ∧
    straitCharter.destinations.isNone ∧ straitCharter.viaRestricts = false := by
  decide +kernel

lemma straitCharter_seeds : straitCharter.seeds strait = .ok [Route.seed 3 1000] := by rfl

lemma straitCharter_restriction (hop : Nat) : straitCharter.restriction hop = none := by
  obtain ⟨-, -, -, -, hopen, hfree⟩ := straitCharter_eq
  rw [Charter.restriction, Option.isNone_iff_eq_none.1 hopen, hfree]
  rfl

/-- The reef is in range of both systems, and no jump leads there. -/
lemma strait_steps : (straitCharter.space strait).steps 3 = [2] ∧
    (straitCharter.space strait).steps 2 = [1, 3] := by
  constructor
  · rw [Space.steps_eq [(3, 0.0), (2, 4.0), (4, Float.sqrt 17.0)] rfl (by decide +kernel)
      (by decide +kernel) (by decide +kernel)]
    decide +kernel
  · rw [Space.steps_eq [(2, 0.0), (4, 1.0), (1, 4.0), (3, 4.0)] rfl (by decide +kernel)
      (by decide +kernel) (by decide +kernel)]
    decide +kernel

lemma strait_explore :
    (straitCharter.space strait).explore 1 [3] = [⟨3, [3]⟩, ⟨2, [3, 2]⟩] ∧
    (straitCharter.space strait).explore 1 [2] = [⟨2, [2]⟩, ⟨1, [2, 1]⟩, ⟨3, [2, 3]⟩] := by
  obtain ⟨hdepot, hwaypoint⟩ := strait_steps
  constructor
  · simp only [Space.explore, Space.rings, Space.nextRing, List.map, List.foldl, hdepot,
      Arrival.start]
    decide +kernel
  · simp only [Space.explore, Space.rings, Space.nextRing, List.map, List.foldl, hwaypoint,
      Arrival.start]
    decide +kernel

/-- The legs that a route could fly next, when the systems around it are known. -/
def straitLegs (r : Route) (system : SystemId) (arrivals : List Arrival) : List Candidate :=
  (strait.station? r.last).toList.flatMap fun source =>
    ((arrivals.filter fun a => straitCharter.approaches strait system a.system).flatMap fun a =>
      ((strait.stationsIn a.system).filter (straitCharter.lands source none)).map
        fun s => ⟨s, a.path⟩).filterMap (straitCharter.candidate? strait r)

lemma strait_candidatesOf {r : Route} {arrivals : List Arrival} {system : SystemId}
    (hsystem : (strait.station? r.last).map Station.system = some system)
    (hexplore : (straitCharter.space strait).explore 1 [system] = arrivals) :
    straitCharter.candidatesOf strait none r = straitLegs r system arrivals := by
  obtain ⟨source, hsource, rfl⟩ := Option.map_eq_some_iff.1 hsystem
  simp only [Charter.candidatesOf, hsource, Charter.landings, straitCharter_eq.2.2.1, hexplore,
    straitLegs, Option.toList_some, List.flatMap_singleton]

/-- The ore goes from the depot to the waypoint. -/
def straitOut : Candidate :=
  (straitLegs (.seed 3 1000) 3 [⟨3, [3]⟩, ⟨2, [3, 2]⟩]).get ⟨0, by decide +kernel⟩

/-- The tea goes from there to the port. -/
def straitOn : Candidate :=
  (straitLegs straitOut.extended 2 [⟨2, [2]⟩, ⟨1, [2, 1]⟩, ⟨3, [2, 3]⟩]).get ⟨0, by decide +kernel⟩

lemma straitOut_only :
    straitCharter.candidatesOf strait none (Route.seed 3 1000) = [straitOut] := by
  rw [strait_candidatesOf (by decide +kernel) strait_explore.1]
  exact List.eq_cons_of_length_one (by decide +kernel)

lemma straitOn_only :
    straitCharter.candidatesOf strait none straitOut.extended = [straitOn] := by
  rw [strait_candidatesOf (by decide +kernel) strait_explore.2]
  exact List.eq_cons_of_length_one (by decide +kernel)

/-- The flight has one way to go on at each hop. -/
lemma strait_fly : ∃ reports, straitCharter.fly strait 2 0 [.seed 3 1000]
    = ⟨reports, [straitOn.extended], 2, .complete⟩ := by
  have hgoal : straitCharter.goal = none := Option.isNone_iff_eq_none.1 straitCharter_eq.1
  have hout := straitOut_only
  have hon := straitOn_only
  rw [← straitCharter_restriction 0] at hout
  rw [← straitCharter_restriction 1] at hon
  obtain ⟨reports, hfirst⟩ := Charter.fly_singleton 1 0 hgoal hout
  obtain ⟨_, hsecond⟩ := Charter.fly_singleton 0 1 hgoal hon
  refine ⟨reports, ?_⟩
  rw [hfirst, hsecond]
  rfl

/-- The only run that is planned has both hops. -/
lemma plan_strait : ∃ result, (plan strait straitTrip).result = .ok result ∧
    result.routes = [straitOn.extended] := by
  obtain ⟨-, hhops, -, hvia, -⟩ := straitCharter_eq
  obtain ⟨reports, hfly⟩ := strait_fly
  have hplan : (plan strait straitTrip).result
      = straitCharter.conclude strait ⟨reports, [straitOn.extended], 2, .complete⟩ := by
    rw [plan, if_neg (by decide +kernel), draw_strait]
    dsimp only
    rw [Charter.search, straitCharter_seeds, hhops, ← hfly]
  obtain ⟨result, hresult⟩ : ∃ result,
      straitCharter.conclude strait ⟨reports, [straitOn.extended], 2, .complete⟩ = .ok result :=
    Charter.exists_conclude rfl (.inl hvia)
  obtain ⟨covered, hconcluded⟩ := Charter.conclude_eq_ok hresult
  refine ⟨result, hplan.trans hresult, ?_⟩
  have hkept := hconcluded.kept
  rw [keepCoverage, if_pos hvia] at hkept
  rw [hconcluded.routes_eq, ← Except.ok.inj hkept]
  exact List.mergeSort_singleton _

lemma stations_straitOn : straitOn.extended.stations = [3, 2, 1] := by decide +kernel

lemma legs_straitOn : ∃ out on, straitOn.extended.legs = [out, on] ∧
    out.path = [3, 2] ∧ on.path = [2, 1] := by
  have hpaths : straitOn.extended.legs.map Leg.path = [[3, 2], [2, 1]] := by decide +kernel
  obtain ⟨out, rest, hlegs, hout, hrest⟩ := List.map_eq_cons_iff.1 hpaths
  obtain ⟨on, rfl, hon⟩ := List.map_eq_singleton_iff.1 hrest
  exact ⟨out, on, hlegs, hout, hon⟩

end Strait

/-- The ore goes from the depot to the waypoint and the tea on from there to the port, each by a
jump that leads past the reef. -/
theorem plan_flyable_strait :
    (straitRows.stations.map Station.id).Nodup ∧
      ∃ result route out on, (plan (Galaxy.ofRows straitRows) straitTrip).result = .ok result ∧
        route ∈ result.routes ∧ route.stations = [3, 2, 1] ∧ route.legs = [out, on] ∧
          out.path = [3, 2] ∧ on.path = [2, 1] ∧
          straitTrip.Shuns (Galaxy.ofRows straitRows) (.system 4) ∧
          out.Flyable (Galaxy.ofRows straitRows) straitTrip 3 2 ∧
          on.Flyable (Galaxy.ofRows straitRows) straitTrip 2 1 ∧
          ∃ system, out.path.getLast? = some system ∧ on.path.head? = some system := by
  have hids : (straitRows.stations.map Station.id).Nodup := by decide
  obtain ⟨result, hresult, hroutes⟩ := plan_strait
  obtain ⟨out, on, hflown, hout, hon⟩ := legs_straitOn
  have hroute : straitOn.extended ∈ result.routes := hroutes ▸ List.mem_singleton_self _
  obtain ⟨hlegs, hjoin, -⟩ := plan_flyable hids hresult hroute
  have hfirst : straitOn.extended.legs[0]? = some out := by
    rw [hflown]
    rfl
  have hsecond : straitOn.extended.legs[1]? = some on := by
    rw [hflown]
    rfl
  obtain ⟨a, b, -, -, -, -, hflyable⟩ := hlegs 0 out hfirst
  obtain ⟨a', b', -, -, -, -, hflyable'⟩ := hlegs 1 on hsecond
  have hends : a.system = 3 ∧ b.system = 2 ∧ a'.system = 2 ∧ b'.system = 1 := by
    have hhead := hflyable.head_eq
    have hlast := hflyable.last_eq
    have hhead' := hflyable'.head_eq
    have hlast' := hflyable'.last_eq
    rw [hout] at hhead hlast
    rw [hon] at hhead' hlast'
    exact ⟨(Option.some.inj hhead).symm, (Option.some.inj hlast).symm,
      (Option.some.inj hhead').symm, (Option.some.inj hlast').symm⟩
  obtain ⟨ha, hb, ha', hb'⟩ := hends
  rw [ha, hb] at hflyable
  rw [ha', hb'] at hflyable'
  exact ⟨hids, result, _, out, on, hresult, hroute, stations_straitOn, hflown, hout, hon,
    straitTrip_shuns_reef, hflyable, hflyable', hjoin 0 out on hfirst hsecond⟩

end TradeRun
