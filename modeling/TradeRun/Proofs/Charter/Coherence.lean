import TradeRun.Proofs.Charter.Admission
import TradeRun.Proofs.Search.Flight

/-!
The parts of a charter fit together.

The search checks none of what it is given. What it relies on comes from some twenty checks and from
the names that were looked up.

* `Charter.Coherent`: what holds of the parts of a charter, each by itself and with the others;
* `Charter.Drawn.unitLimit_bounds`, `Charter.Drawn.beam_bounds`: the numbers, after their checks;
* `Charter.Drawn.of_mem_destinations`: a run must end at stations that can be a stop and need not be
  avoided, whichever of the ways led there;
* `Charter.Drawn.firstConflict?_eq_none`, `Charter.Drawn.via_stops`: no place to call at is to be
  avoided, and there are stops enough for their systems;
* `Charter.seeds_of_docks`: **where the ship can lie at every origin each of them makes one route**,
  so that the second look at avoided places and pads leaves nothing out;
* `Charter.draw_coherent`: so it is with every charter that was drawn;
* `fullTrip`, `shutOut`: a request with all of these parts, and one that no port is left for.
-/

namespace TradeRun

namespace Charter

/-- The parts of a charter fit together. -/
structure Coherent (g : Galaxy) (r : Request) (c : Charter) : Prop where
  capacity_le : c.capacity ≤ 1000
  unitLimit_le : c.unitLimit ≤ c.capacity
  unitLimit_pos : 1 ≤ c.capacity → 1 ≤ c.unitLimit
  hops_pos : 1 ≤ c.hops
  hops_le : c.hops ≤ 64
  routes_pos : 1 ≤ c.routes
  maxRoutes_ne_zero : c.beam.maxRoutes ≠ some 0
  scoreCut : ∀ cut ∈ c.beam.scoreCut, 2 ≤ cut.fromHop ∧ 0 < cut.percent ∧ ¬ 100 < cut.percent
  origins : ∀ id ∈ c.origins, ∃ s, g.station? id = some s ∧ ¬ c.avoid.matches s ∧
    s.itemCount ≠ 0 ∧ c.filter.acceptsPad s
  origins_ne_nil : r.origin.isSome → c.origins ≠ []
  destinations_isSome : c.destinations.isSome = r.destination.isSome
  destinations_nonempty : ∀ set ∈ c.destinations, ¬ set.isEmpty
  destinations : ∀ set ∈ c.destinations, ∀ place, set.contains place →
    ∃ s, place = .station s.id ∧ g.station? s.id = some s ∧ ¬ c.avoid.matches s ∧
      c.filter.isEligible s
  goal : c.goal.isSome → c.origin.isSome ∧ c.destination = none ∧ c.destinations = none
  via_systems : ∀ id, c.via.contains (.system id) → ¬ c.avoid.contains (.system id)
  via_stations : ∀ id s, c.via.contains (.station id) → g.station? id = some s →
    ¬ c.avoid.matches s
  via_stops : (c.via.systemsIn g).size + pinned c.origin c.destination ≤ c.hops + 1

variable {g : Galaxy} {r : Request} {c : Charter} {n : Numbers} {avoided : Avoided}

namespace Drawn

/-! ### Numbers -/

/-- The hold space is not beyond the greatest one. -/
lemma capacity_le (h : Drawn g r n avoided c) : (c.capacity : Int) ≤ maxCapacity := by
  obtain ⟨capacity, range, hn⟩ := Request.numbers_eq_ok.1 h.numbers_eq
  obtain ⟨hgiven, -, hle⟩ := Request.of_checkedCapacity_eq_ok hn.capacity_eq
  rw [Option.some.inj (h.capacity_eq.symm.trans hgiven)]
  exact hle

/-- The most units of an item are at most what the hold takes, and some where it takes any. -/
lemma unitLimit_bounds (h : Drawn g r n avoided c) :
    c.unitLimit ≤ c.capacity ∧ (1 ≤ c.capacity → 1 ≤ c.unitLimit) := by
  obtain ⟨capacity, range, hn⟩ := Request.numbers_eq_ok.1 h.numbers_eq
  obtain ⟨hle, hpos⟩ := hn.unitLimit_bounds
  rw [h.eq, hn.eq]
  dsimp only
  omega

/-- The hops are not more than the greatest number of them. -/
lemma hops_le (h : Drawn g r n avoided c) : (c.hops : Int) ≤ maxHops := by
  obtain ⟨capacity, range, hn⟩ := Request.numbers_eq_ok.1 h.numbers_eq
  rw [h.hops_eq]
  exact hn.hops_le

/-- The policies for following up routes keep some route, and compare scores from the second hop
on. -/
lemma beam_bounds (h : Drawn g r n avoided c) :
    c.beam.maxRoutes ≠ some 0 ∧
      ∀ cut ∈ c.beam.scoreCut, 2 ≤ cut.fromHop ∧ 0 < cut.percent ∧ ¬ 100 < cut.percent := by
  obtain ⟨capacity, range, hn⟩ := Request.numbers_eq_ok.1 h.numbers_eq
  rw [h.eq]
  exact Request.of_checkedBeam_eq_ok hn.beam

/-! ### Ends -/

/-- There is a station to start at where an origin is named. -/
lemma origins_ne_nil (h : Drawn g r n avoided c) (hnamed : r.origin.isSome) : c.origins ≠ [] := by
  have horigin := h.origin_eq
  rw [drawOrigin] at horigin
  split at horigin
  · obtain ⟨⟨place, stations⟩, hends, horigin⟩ := bind_eq_ok.1 horigin
    obtain ⟨-, rfl⟩ := Prod.mk.inj (Except.ok.inj horigin)
    exact (Galaxy.endStations_eq_ok hends).2.2.2
  · next hnone => simp [hnone] at hnamed

/-- The stations at which the run must end are those around the place named for the destination,
which passed. -/
lemma exists_endStations (h : Drawn g r n avoided c) {set : PlaceSet}
    (hset : c.destinations = some set) : ∃ name place stations,
      g.endStations name n.endJumps n.emptyRange c.filter c.avoid .destination
        = .ok (place, stations) ∧ set = PlaceSet.ofList (stations.map .station) := by
  have hdestination := h.destination_eq
  rw [drawDestination, hset, ← h.avoid_eq] at hdestination
  split at hdestination
  · next name hname =>
    obtain ⟨⟨place, stations⟩, hends, hdestination⟩ := bind_eq_ok.1 hdestination
    obtain ⟨-, hstations⟩ := Prod.mk.inj (Except.ok.inj hdestination)
    exact ⟨name, place, stations, hends, (Option.some.inj hstations).symm⟩
  · cases (Prod.mk.inj (Except.ok.inj hdestination)).2

/-- There is a station to end at where the run must end at one. -/
lemma destinations_nonempty (h : Drawn g r n avoided c) {set : PlaceSet}
    (hset : c.destinations = some set) : ¬ set.isEmpty := by
  obtain ⟨name, place, stations, hends, rfl⟩ := h.exists_endStations hset
  obtain ⟨id, hid⟩ := List.exists_mem_of_ne_nil _ (Galaxy.endStations_eq_ok hends).2.2.2
  have hcontains : (PlaceSet.ofList (stations.map .station)).contains (.station id) :=
    PlaceSet.contains_ofList.2 (List.mem_map_of_mem hid)
  rw [PlaceSet.isEmpty_iff_size, ← PlaceSet.length_toList, List.length_eq_zero_iff]
  exact List.ne_nil_of_mem (PlaceSet.mem_toList.2 hcontains)

/-- **A run must end at stations that can be a stop and need not be avoided.** The one that the
request names has passed all requirements. -/
lemma of_mem_destinations (h : Drawn g r n avoided c) {set : PlaceSet}
    (hset : c.destinations = some set) {place : Place} (hplace : set.contains place) :
    ∃ s, place = .station s.id ∧ g.station? s.id = some s ∧ ¬ c.avoid.matches s ∧
      c.filter.isEligible s := by
  obtain ⟨name, named, stations, hends, rfl⟩ := h.exists_endStations hset
  obtain ⟨id, hid, rfl⟩ := List.mem_map.1 (PlaceSet.contains_ofList.1 hplace)
  obtain ⟨-, hrequire, hstations, -⟩ := Galaxy.endStations_eq_ok hends
  rw [hstations] at hid
  obtain ⟨s, hs, hsafe, hstop⟩ := Space.of_mem_stationsAround hid
  obtain rfl : s.id = id := Galaxy.id_of_station? hs
  refine ⟨s, rfl, hs, hsafe, ?_⟩
  rcases hstop with heligible | ⟨-, hnamed⟩
  · exact heligible
  · obtain rfl := List.mem_singleton.1 hnamed
    rw [Galaxy.requireEnd, show g.station? s.id = some s from hs] at hrequire
    exact StationFilter.of_require_destination hrequire

/-- A goal stands with an origin and in place of a destination. -/
lemma of_goal (h : Drawn g r n avoided c) (hgoal : c.goal.isSome) :
    r.origin.isSome ∧ r.destination = none := by
  obtain ⟨capacity, range, hn⟩ := Request.numbers_eq_ok.1 h.numbers_eq
  refine (Request.of_checkEnds_eq_ok hn.ends).2 ?_
  have hdrawn := h.goal_eq
  rw [drawGoal] at hdrawn
  split at hdrawn
  · next name hname => simp [hname]
  · rw [← Except.ok.inj hdrawn] at hgoal
    cases hgoal

/-! ### Places to call at -/

/-- No place to call at is to be avoided. -/
lemma firstConflict?_eq_none (h : Drawn g r n avoided c) :
    c.via.firstConflict? c.avoid g = none := by
  have hchecked := h.unavoided
  rw [checkAvoided, ← h.avoid_eq] at hchecked
  split at hchecked
  · cases hchecked
  · assumption

/-- There are stops enough for the systems of the places to call at. -/
lemma via_stops (h : Drawn g r n avoided c) :
    (c.via.systemsIn g).size + pinned c.origin c.destination ≤ c.hops + 1 := by
  have hhops : c.hops = n.hops := by rw [h.eq]
  have hpos := h.hops_pos
  -- both ends are stops of any run, so that no stop is lost in the subtraction
  have hpinned : pinned c.origin c.destination ≤ 2 :=
    Nat.add_le_add (Bool.toNat_le _) (Bool.toNat_le _)
  have hstops := h.stops
  rw [checkStops, ← hhops, freeStops] at hstops
  split_ifs at hstops
  omega

end Drawn

/-! ### Seeds -/

/-- Stations at which the ship can lie, looked up by their numbers and looked at once more, are all
still there. -/
lemma map_id_docks {ids : List StationId}
    (h : ∀ id ∈ ids, ∃ s, g.station? id = some s ∧ ¬ c.avoid.matches s ∧ c.filter.acceptsPad s) :
    ((ids.filterMap g.station?).filter fun s =>
      !c.avoid.matches s && c.filter.acceptsPad s).map Station.id = ids := by
  induction ids with
  | nil => rfl
  | cons id rest ih =>
      obtain ⟨s, hs, hsafe, hpad⟩ := h id List.mem_cons_self
      rw [List.filterMap_cons_some hs, List.filter_cons_of_pos (by simp [hsafe, hpad]),
        List.map_cons, ih fun id hid => h id (List.mem_cons_of_mem _ hid),
        Galaxy.id_of_station? hs]

/-- **Where the ship can lie at every origin each of them makes one route**, and the search has
nothing to start with only where there is no origin. -/
lemma seeds_of_docks
    (h : ∀ id ∈ c.origins, ∃ s, g.station? id = some s ∧ ¬ c.avoid.matches s ∧
      c.filter.acceptsPad s) :
    (c.origins ≠ [] →
      c.seeds g = .ok (c.origins.map fun id => Route.seed id c.startCredits)) ∧
      (c.origins = [] → ∃ gap, c.seeds g = .error (.noData gap)) := by
  have hall := map_id_docks h
  rw [seeds]
  set docks := (c.origins.filterMap g.station?).filter fun s =>
    !c.avoid.matches s && c.filter.acceptsPad s with hdocks
  have hroutes : docks.map (fun s => Route.seed s.id c.startCredits)
      = c.origins.map fun id => Route.seed id c.startCredits := by
    rw [← hall, List.map_map]
    rfl
  constructor
  · intro hsome
    have hfound : docks ≠ [] := fun hnil => hsome (by rw [← hall, hnil]; rfl)
    rw [if_neg (by simpa using hfound), hroutes]
  · intro hnone
    have hempty : docks = [] := by rw [hdocks, hnone]; rfl
    rw [if_pos (by simp [hempty])]
    split
    · exact ⟨_, rfl⟩
    · exact ⟨_, rfl⟩

/-! ### The charter -/

/-- The parts of a charter that was drawn fit together. -/
lemma Drawn.coherent (h : Drawn g r n avoided c) : Coherent g r c where
  capacity_le := Int.ofNat_le.1 h.capacity_le
  unitLimit_le := h.unitLimit_bounds.1
  unitLimit_pos := h.unitLimit_bounds.2
  hops_pos := h.hops_pos
  hops_le := Int.ofNat_le.1 h.hops_le
  routes_pos := h.routes_pos
  maxRoutes_ne_zero := h.beam_bounds.1
  scoreCut := h.beam_bounds.2
  origins := by
    intro id hid
    obtain ⟨s, hs, hsafe, hdock, -⟩ := h.of_mem_origins hid
    obtain ⟨hpriced, hpad⟩ := (h.docksAt_iff s).1 hdock
    exact ⟨s, hs, hsafe, hpriced, hpad⟩
  origins_ne_nil := h.origins_ne_nil
  destinations_isSome := h.isSome_destinations
  destinations_nonempty := fun _ hset => h.destinations_nonempty hset
  destinations := fun _ hset _ hplace => h.of_mem_destinations hset hplace
  goal := by
    intro hgoal
    obtain ⟨horigin, hdestination⟩ := h.of_goal hgoal
    have hnone := h.isSome_destinations
    rw [hdestination] at hnone
    refine ⟨h.isSome_origin.trans horigin, ?_⟩
    rcases h.destinations_eq with hends | ⟨place, stations, -, hset⟩
    · exact hends
    · simp [hset] at hnone
  via_systems := fun _ hid =>
    List.find?_eq_none.1 h.firstConflict?_eq_none _ (PlaceSet.mem_toList.2 hid)
  via_stations := by
    intro id s hid hs
    have hsafe := List.find?_eq_none.1 h.firstConflict?_eq_none _ (PlaceSet.mem_toList.2 hid)
    simpa [hs] using hsafe
  via_stops := h.via_stops

/-- **The parts of a charter that was drawn fit together**, so that each origin makes one route that
has not left yet, with the credits that are not insurance. Only where there is no origin the search
has nothing to start with. -/
theorem draw_coherent (h : draw g r = .ok c) :
    Coherent g r c ∧
      (c.origins ≠ [] →
        c.seeds g = .ok (c.origins.map fun id => Route.seed id (c.credits - c.insurance))) ∧
        (c.origins = [] → ∃ gap, c.seeds g = .error (.noData gap)) := by
  obtain ⟨n, avoided, hdrawn⟩ := draw_eq_ok.1 h
  have hcoherent := hdrawn.coherent
  refine ⟨hcoherent, seeds_of_docks fun id hid => ?_⟩
  obtain ⟨s, hs, hsafe, -, hpad⟩ := hcoherent.origins id hid
  exact ⟨s, hs, hsafe, hpad⟩

end Charter

/-- The round trip with a limit on the units of an item and both policies for following up
routes. -/
def fullTrip : Request :=
  { roundTrip with unitLimit := some 3, maxRoutes := some 5, pruneScore := 25.0, pruneHops := 2 }

/-- The charter of that run. -/
def fullCharter : Charter := (Charter.draw twoPorts fullTrip).toOption.get (by decide +kernel)

/-- A run between ports that are all to be avoided. -/
def shutOut : Request := { Request.basic 4 45 5.0 with avoid := ["Home"] }

/-- The round trip starts at the quay with the credits that are not insurance. Where all ports are
to be avoided, but none is named for an end, there is a charter without an origin. -/
theorem draw_coherent_fullTrip :
    (Charter.draw twoPorts fullTrip = .ok fullCharter ∧
      Charter.Coherent twoPorts fullTrip fullCharter ∧ fullCharter.unitLimit = 3 ∧
      fullCharter.beam.scoreCut.isSome ∧ fullCharter.destinations.isSome ∧
      fullCharter.via.size = 1 ∧ fullCharter.seeds twoPorts = .ok [Route.seed 1 40]) ∧
      ∃ c gap, Charter.draw twoPorts shutOut = .ok c ∧ Charter.Coherent twoPorts shutOut c ∧
        c.seeds twoPorts = .error (.noData gap) := by
  have hfull : Charter.draw twoPorts fullTrip = .ok fullCharter := eq_ok_get _
  obtain ⟨hcoherent, hseeds, -⟩ := Charter.draw_coherent hfull
  have horigins : fullCharter.origins = [1] := by decide +kernel
  have hcredits : fullCharter.credits - fullCharter.insurance = 40 := by decide +kernel
  rw [horigins, hcredits] at hseeds
  have hshut := eq_ok_get (x := Charter.draw twoPorts shutOut) (by decide +kernel)
  obtain ⟨hcoherent', -, hnone⟩ := Charter.draw_coherent hshut
  obtain ⟨gap, hgap⟩ := hnone (by decide +kernel)
  exact ⟨⟨hfull, hcoherent, by decide +kernel, by decide +kernel, by decide +kernel,
    by decide +kernel, hseeds (by simp)⟩, _, gap, hshut, hcoherent', hgap⟩

end TradeRun
