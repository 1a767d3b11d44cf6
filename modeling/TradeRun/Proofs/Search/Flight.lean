import TradeRun.Proofs.Search.Coverage
import TradeRun.Proofs.Search.Ranking
import TradeRun.Search.Run

/-!
The flight of the hops, seen from a single route.

* `Charter.mem_landings`, `Charter.of_mem_candidatesOf`: what is known of a leg that a route could
  fly next;
* `Charter.exists_of_mem_bestHops`, `Charter.bestHops_eq_nil`: the best hops extend routes by such
  legs, and there are none only where no route has a leg to fly;
* `Charter.Flown`: the routes that so many hops can make of the seeds, each hop under its own
  restriction. What is to hold of every route found is shown by induction on it;
* `Charter.fly_preserves`: what every hop preserves holds at the end of a voyage, so that all routes
  of it are flown, whichever way it ends (`Charter.fly_flown`);
* `Charter.fly_endsAfter`: what the ending tells about the number of hops;
* `Charter.fly_of_bestHops_eq_nil`, `Charter.fly_of_someReaches`, `Charter.fly_of_not_someReaches`:
  a voyage hop by hop, by the three ways in which a hop can go. `Charter.fly_singleton` is the case
  of a single route that has a single way to go on;
* `Charter.fly_goal_iff`: a voyage ends by the goal just when one of its last routes does;
* `Charter.search_eq_ok`: a search that succeeds is a voyage that left the ground, whose routes with
  the greatest coverage are ranked;
* `plan_eq_ok`: a run is planned by the search for the charter of its request;
* `twoPorts`, `thereAndBack`, `roundTrip`: a galaxy of two stations and runs between them.
-/

namespace TradeRun

namespace Charter

variable {c : Charter} {g : Galaxy}

/-! ### Landings and candidates -/

lemma mem_landings {source : Station} {restriction : Option PlaceSet} {landing : Landing} :
    landing ∈ c.landings g source restriction ↔
      ∃ a ∈ (c.space g).explore c.jumpsPerHop [source.system],
        c.approaches g source.system a.system ∧ landing.station ∈ g.stationsIn a.system ∧
          c.lands source restriction landing.station ∧ landing.path = a.path := by
  simp only [landings, List.mem_flatMap, List.mem_filter, List.mem_map]
  constructor
  · rintro ⟨a, ⟨ha, happroach⟩, s, ⟨hs, hlands⟩, rfl⟩
    exact ⟨a, ha, happroach, hs, hlands, rfl⟩
  · rintro ⟨a, ha, happroach, hs, hlands, hpath⟩
    exact ⟨a, ⟨ha, happroach⟩, landing.station, ⟨hs, hlands⟩, by rw [← hpath]⟩

/-- The station at which a hop may land is known under its number. -/
lemma station?_of_mem_landings {source : Station} {restriction : Option PlaceSet}
    {landing : Landing} (h : landing ∈ c.landings g source restriction) :
    g.station? landing.station.id = some landing.station := by
  obtain ⟨a, -, -, hlisted, -⟩ := mem_landings.1 h
  exact Galaxy.station?_of_mem_stationsIn hlisted

/-- A station at which a hop may land meets the restriction. -/
lemma restriction_of_mem_landings {source : Station} {set : PlaceSet} {landing : Landing}
    (h : landing ∈ c.landings g source (some set)) : set.matches landing.station := by
  obtain ⟨a, -, -, -, hlands, -⟩ := mem_landings.1 h
  simp only [lands, Option.all_some, Bool.and_eq_true] at hlands
  exact hlands.2

/-- A hop can end at a station as soon as it can at one of that number. -/
lemma exists_landing {source target : Station} {restriction : Option PlaceSet}
    (hknown : g.station? target.id = some target)
    (h : (c.landings g source restriction).any fun l => l.station.id == target.id) :
    ∃ landing ∈ c.landings g source restriction, landing.station = target := by
  obtain ⟨landing, hlanding, hid⟩ := List.any_eq_true.1 h
  have hstation := station?_of_mem_landings hlanding
  rw [beq_iff_eq.1 hid, hknown] at hstation
  exact ⟨landing, hlanding, (Option.some.inj hstation).symm⟩

/-- The last hop of all must end at a destination. -/
lemma restriction_of_last_hop {hop : Nat} {set : PlaceSet} (hset : c.destinations = some set)
    (hlast : hop + 1 = c.hops) : c.restriction hop = some set := by
  rw [restriction, hset]
  exact if_pos hlast

/-- What is known of a leg that a route could fly next. -/
lemma of_mem_candidatesOf {restriction : Option PlaceSet} {r : Route} {cand : Candidate}
    (h : cand ∈ c.candidatesOf g restriction r) :
    ∃ source, g.station? r.last = some source ∧ cand.landing ∈ c.landings g source restriction ∧
      cand.route = r ∧ (c.unique → cand.destination ∉ r.stations) ∧
        c.load? g r.last cand.destination r.available = some cand.load := by
  rw [candidatesOf] at h
  cases hsource : g.station? r.last with
  | none => simp [hsource] at h
  | some source =>
      rw [hsource] at h
      obtain ⟨landing, hlanding, hcand⟩ := List.mem_filterMap.1 h
      rw [candidate?] at hcand
      split_ifs at hcand with hunique
      obtain ⟨load, hload, rfl⟩ := Option.map_eq_some_iff.1 hcand
      refine ⟨source, rfl, hlanding, rfl, fun hu => ?_, hload⟩
      simpa [hu, Candidate.destination] using hunique

/-- A route with one leg more ends at the landing of that leg. -/
lemma station?_last_extended {restriction : Option PlaceSet} {r : Route} {cand : Candidate}
    (h : cand ∈ c.candidatesOf g restriction r) :
    g.station? cand.extended.last = some cand.landing.station := by
  obtain ⟨source, -, hlanding, -⟩ := of_mem_candidatesOf h
  rw [Candidate.extended, Route.last_extend]
  exact station?_of_mem_landings hlanding

/-! ### The best hops -/

lemma getElem?_keepBetter (best : Selection) (cand : Candidate) (id : StationId) :
    (keepBetter best cand)[id]? = best[id]? ∨
      cand.destination = id ∧ (keepBetter best cand)[id]? = some cand := by
  rw [keepBetter]
  split
  · split_ifs
    · exact .inl rfl
    · rw [Std.ExtTreeMap.getElem?_insert]
      split_ifs with h
      · exact .inr ⟨Std.LawfulEqOrd.compare_eq_iff_eq.1 h, rfl⟩
      · exact .inl rfl
  · rw [Std.ExtTreeMap.getElem?_insert]
    split_ifs with h
    · exact .inr ⟨Std.LawfulEqOrd.compare_eq_iff_eq.1 h, rfl⟩
    · exact .inl rfl

/-- A candidate is kept for a station only if it is one of those that came in and leads there, or
was there before. -/
lemma of_getElem?_foldl_keepBetter {cands : List Candidate} {best : Selection} {id : StationId}
    {cand : Candidate} (h : (cands.foldl keepBetter best)[id]? = some cand) :
    cand ∈ cands ∧ cand.destination = id ∨ best[id]? = some cand := by
  induction cands generalizing best with
  | nil => exact .inr h
  | cons first rest ih =>
      rcases ih h with ⟨hrest, hid⟩ | hkept
      · exact .inl ⟨List.mem_cons_of_mem _ hrest, hid⟩
      · rcases getElem?_keepBetter best first id with hsame | ⟨hid, hnew⟩
        · exact .inr (hsame ▸ hkept)
        · rw [hnew] at hkept
          obtain rfl := Option.some.inj hkept
          exact .inl ⟨List.mem_cons_self, hid⟩

/-- Some candidate is kept for a station for which there was one. -/
lemma isSome_keepBetter {best : Selection} {cand : Candidate} {id : StationId}
    (h : best[id]?.isSome ∨ cand.destination = id) : (keepBetter best cand)[id]?.isSome := by
  by_cases hd : cand.destination = id
  · subst hd
    rw [keepBetter]
    split
    · next current hcurrent =>
      split_ifs
      · simp [hcurrent]
      · simp
    · simp
  · rcases getElem?_keepBetter best cand id with hsame | ⟨heq, -⟩
    · rw [hsame]
      exact h.resolve_right hd
    · exact absurd heq hd

lemma isSome_foldl_keepBetter {cands : List Candidate} {best : Selection} {id : StationId}
    (h : best[id]?.isSome ∨ ∃ cand ∈ cands, cand.destination = id) :
    (cands.foldl keepBetter best)[id]?.isSome := by
  induction cands generalizing best with
  | nil => simpa using h
  | cons first rest ih =>
      refine ih ?_
      rcases h with hbest | ⟨cand, hmem, hid⟩
      · exact .inl (isSome_keepBetter (.inl hbest))
      · rcases List.mem_cons.1 hmem with rfl | hrest
        · exact .inl (isSome_keepBetter (.inr hid))
        · exact .inr ⟨cand, hrest, hid⟩

variable {routes : List Route} {restriction : Option PlaceSet}

/-- A best hop extends a route by one of its candidates. -/
lemma exists_of_mem_bestHops {r : Route} (h : r ∈ c.bestHops g routes restriction) :
    ∃ r₀ ∈ routes, ∃ cand ∈ c.candidatesOf g restriction r₀, r = cand.extended := by
  rw [bestHops, List.mem_map] at h
  obtain ⟨⟨id, cand⟩, hmem, rfl⟩ := h
  rw [Std.ExtTreeMap.mem_toList_iff_getElem?_eq_some] at hmem
  obtain ⟨hcand, -⟩ := (of_getElem?_foldl_keepBetter hmem).resolve_right (by simp)
  obtain ⟨r₀, hr₀, hmem₀⟩ := List.mem_flatMap.1 hcand
  exact ⟨r₀, hr₀, cand, hmem₀, rfl⟩

/-- There is no best hop only where no route has a candidate. -/
lemma bestHops_eq_nil :
    c.bestHops g routes restriction = [] ↔ ∀ r ∈ routes, c.candidatesOf g restriction r = [] := by
  constructor
  · intro h r hr
    rw [List.eq_nil_iff_forall_not_mem]
    intro cand hcand
    have hall : cand ∈ c.candidates g routes restriction := List.mem_flatMap.2 ⟨r, hr, hcand⟩
    obtain ⟨kept, hkept⟩ : ∃ kept, ((c.candidates g routes restriction).foldl keepBetter ∅)[
        cand.destination]? = some kept :=
      Option.isSome_iff_exists.1 (isSome_foldl_keepBetter (.inr ⟨cand, hall, rfl⟩))
    rw [bestHops, List.map_eq_nil_iff] at h
    have hmem := Std.ExtTreeMap.mem_toList_iff_getElem?_eq_some.2 hkept
    rw [h] at hmem
    cases hmem
  · intro h
    rw [List.eq_nil_iff_forall_not_mem]
    intro r hr
    obtain ⟨r₀, hr₀, cand, hcand, -⟩ := exists_of_mem_bestHops hr
    rw [h r₀ hr₀] at hcand
    cases hcand

/-- The best hops end at the stations for which a candidate was kept, in ascending order. -/
lemma map_last_bestHops (c : Charter) (g : Galaxy) (routes : List Route)
    (restriction : Option PlaceSet) :
    (c.bestHops g routes restriction).map Route.last
      = ((c.candidates g routes restriction).foldl keepBetter ∅).keys := by
  rw [bestHops, List.map_map, ← Std.ExtTreeMap.map_fst_toList_eq_keys]
  refine List.map_congr_left ?_
  rintro ⟨id, cand⟩ hmem
  rw [Std.ExtTreeMap.mem_toList_iff_getElem?_eq_some] at hmem
  obtain ⟨-, hid⟩ := (of_getElem?_foldl_keepBetter hmem).resolve_right (by simp)
  exact (Route.last_extend _ _ _).trans hid

/-- No two best hops end at one station. -/
lemma nodup_last_bestHops (c : Charter) (g : Galaxy) (routes : List Route)
    (restriction : Option PlaceSet) :
    ((c.bestHops g routes restriction).map Route.last).Nodup := by
  rw [map_last_bestHops]
  exact Std.ExtTreeMap.nodup_keys

/-! ### Flown routes -/

/-- The routes that so many hops can make of the seeds, each hop to a landing that its own
restriction allows. -/
inductive Flown (c : Charter) (g : Galaxy) : Nat → Route → Prop
  | seed {s : Station} (origin : s.id ∈ c.origins) (known : g.station? s.id = some s)
      (safe : ¬ c.avoid.matches s) (dock : c.filter.acceptsPad s) :
      Flown c g 0 (Route.seed s.id c.startCredits)
  | hop {n : Nat} {r : Route} {cand : Candidate} (flown : Flown c g n r)
      (next : cand ∈ c.candidatesOf g (c.restriction n) r) : Flown c g (n + 1) cand.extended

/-- The seeds are the routes that have flown no hop, and there are some. -/
lemma of_seeds_eq_ok {seeds : List Route} (h : c.seeds g = .ok seeds) :
    seeds ≠ [] ∧ ∀ r ∈ seeds, Flown c g 0 r := by
  simp only [Charter.seeds] at h
  split_ifs at h with hempty
  obtain rfl := Except.ok.inj h
  refine ⟨by simpa using hempty, fun r hr => ?_⟩
  obtain ⟨s, hs, rfl⟩ := List.mem_map.1 hr
  rw [List.mem_filter, List.mem_filterMap, Bool.and_eq_true, Bool.not_eq_true'] at hs
  obtain ⟨⟨id, hid, hknown⟩, hsafe, hdock⟩ := hs
  obtain rfl : s.id = id := Galaxy.id_of_station? hknown
  exact .seed hid hknown (by simp [hsafe]) hdock

namespace Flown

variable {n : Nat} {r : Route}

/-- A flown route has as many hops as were flown. -/
lemma hopCount_eq (h : Flown c g n r) : r.hopCount = n := by
  induction h with
  | seed => rfl
  | hop _ next ih =>
      obtain ⟨source, -, -, hroute, -⟩ := of_mem_candidatesOf next
      rw [Candidate.extended, hroute]
      simp [Route.hopCount, Route.extend, ← ih]

/-- The last stop of a route whose last hop was restricted meets the restriction. -/
lemma last_matches (h : Flown c g (n + 1) r) {set : PlaceSet} (hset : c.restriction n = some set) :
    ∃ s, g.station? r.last = some s ∧ set.matches s := by
  cases h with
  | @hop _ _ cand _ next =>
      rw [hset] at next
      obtain ⟨source, -, hlanding, -⟩ := of_mem_candidatesOf next
      exact ⟨cand.landing.station, station?_last_extended next,
        restriction_of_mem_landings hlanding⟩

end Flown

/-! ### The voyage -/

/-- What is reported at the start of a hop that begins with some routes. -/
def report (c : Charter) (hop : Nat) (routes : List Route) : HopReport :=
  ⟨hop + 1, (c.beam.prune hop routes).length,
    routes.length - (c.beam.prune hop routes).length⟩

/-- The routes of the next hop, in the order in which they are looked at. -/
def generation (c : Charter) (g : Galaxy) (hop : Nat) (routes : List Route) : List Route :=
  c.goalOrder g (Route.rank (c.bestHops g (c.beam.prune hop routes) (c.restriction hop)))

lemma mem_generation {hop : Nat} {r : Route} :
    r ∈ c.generation g hop routes ↔
      r ∈ c.bestHops g (c.beam.prune hop routes) (c.restriction hop) := by
  rw [generation, mem_goalOrder, Route.mem_rank]

lemma generation_ne_nil {hop : Nat}
    (h : c.bestHops g (c.beam.prune hop routes) (c.restriction hop) ≠ []) :
    c.generation g hop routes ≠ [] := by
  obtain ⟨r, hr⟩ := List.exists_mem_of_ne_nil _ h
  exact List.ne_nil_of_mem (mem_generation.2 hr)

lemma flown_generation {hop : Nat} (h : ∀ r ∈ routes, Flown c g hop r) :
    ∀ r ∈ c.generation g hop routes, Flown c g (hop + 1) r := by
  intro r hr
  obtain ⟨r₀, hr₀, cand, hcand, rfl⟩ := exists_of_mem_bestHops (mem_generation.1 hr)
  exact .hop (h r₀ (c.beam.mem_of_mem_prune hop routes hr₀)) hcand

/-- Some route ends in the goal. -/
def SomeReaches (c : Charter) (g : Galaxy) (routes : List Route) : Prop :=
  ∃ goal, c.goal = some goal ∧ ∃ r ∈ routes, r.reaches g goal

lemma SomeReaches.mono {routes' : List Route} (h : c.SomeReaches g routes)
    (hsub : ∀ r ∈ routes, r ∈ routes') : c.SomeReaches g routes' := by
  obtain ⟨goal, hgoal, r, hr, hreach⟩ := h
  exact ⟨goal, hgoal, r, hsub r hr, hreach⟩

lemma reachesGoal_generation {hop : Nat} :
    c.reachesGoal g (c.generation g hop routes) ↔ c.SomeReaches g (c.generation g hop routes) := by
  rw [generation, reachesGoal_goalOrder, SomeReaches]
  simp only [mem_goalOrder]

/-- What a voyage of so many hops more from a hop on has completed when it ends in some way. -/
def EndsAfter (c : Charter) (hop left completed : Nat) : Ending → Prop
  | .complete => completed = hop + left
  | .goal => hop < completed ∧ completed ≤ hop + left
  | .deadEnd restriction => completed < hop + left ∧ restriction = c.restriction completed

/-- A voyage that goes on after a hop ends as the rest of it does. -/
lemma EndsAfter.of_rest {hop left completed : Nat} {ending : Ending}
    (h : c.EndsAfter (hop + 1) left completed ending) :
    c.EndsAfter hop (left + 1) completed ending := by
  cases ending with
  | complete =>
      have heq : completed = hop + 1 + left := h
      exact heq.trans (by omega)
  | goal =>
      obtain ⟨hlt, hle⟩ := h
      exact ⟨by omega, by omega⟩
  | deadEnd restriction =>
      obtain ⟨hlt, heq⟩ := h
      exact ⟨by omega, heq⟩

lemma EndsAfter.completed_le {hop left completed : Nat} {ending : Ending}
    (h : c.EndsAfter hop left completed ending) : completed ≤ hop + left := by
  cases ending with
  | complete => exact le_of_eq h
  | goal => exact h.2
  | deadEnd => exact h.1.le

section Voyage

variable (left hop : Nat)

/-- **What every hop preserves holds at the end of a voyage**: of the hops it completed and of its
last routes, whichever way it ends. -/
lemma fly_preserves {P : Nat → List Route → Prop}
    (hprune : ∀ hop routes, P hop routes → P hop (c.beam.prune hop routes))
    (hnext : ∀ hop routes,
      c.bestHops g (c.beam.prune hop routes) (c.restriction hop) ≠ [] → P hop routes →
        P (hop + 1) (c.generation g hop routes))
    (h : P hop routes) :
    P (c.fly g left hop routes).completed (c.fly g left hop routes).routes := by
  fun_induction fly c g left hop routes with
  | case1 => exact h
  | case2 left hop routes => exact hprune hop routes h
  | case3 left hop routes kept report hsome => exact hnext hop routes hsome h
  | case4 left hop routes kept report hsome ordered hgoal voyage ih =>
      exact ih (hnext hop routes hsome h)

/-- **The way in which a voyage ended tells how many hops it completed.** -/
lemma fly_endsAfter (c : Charter) (g : Galaxy) (routes : List Route) :
    c.EndsAfter hop left (c.fly g left hop routes).completed (c.fly g left hop routes).ending := by
  fun_induction fly c g left hop routes with
  | case1 => exact rfl
  | case2 => exact ⟨by dsimp only; omega, rfl⟩
  | case3 => exact ⟨by dsimp only; omega, by dsimp only; omega⟩
  | case4 left hop routes kept report hsome ordered hgoal voyage ih => exact ih.of_rest

/-- **All routes of a voyage are flown**, as many hops as it completed, whichever way it ends. -/
lemma fly_flown (h : ∀ r ∈ routes, Flown c g hop r) :
    ∀ r ∈ (c.fly g left hop routes).routes, Flown c g (c.fly g left hop routes).completed r :=
  fly_preserves (P := fun hop routes => ∀ r ∈ routes, Flown c g hop r) left hop
    (fun hop routes hflown r hr => hflown r (c.beam.mem_of_mem_prune hop routes hr))
    (fun _ _ _ hflown => flown_generation hflown) h

/-- A voyage that starts with some routes ends with some. -/
lemma fly_routes_ne_nil (h : routes ≠ []) : (c.fly g left hop routes).routes ≠ [] :=
  fly_preserves (P := fun _ routes => routes ≠ []) left hop
    (fun hop _ hsome => c.beam.prune_ne_nil hop hsome)
    (fun _ _ hbest _ => generation_ne_nil hbest) h

/-- No voyage flies more hops than it was to fly. -/
lemma fly_completed_le : (c.fly g left hop routes).completed ≤ hop + left :=
  (fly_endsAfter left hop c g routes).completed_le

variable {left hop}

/-- A complete voyage has flown all hops. -/
lemma completed_of_fly_complete (h : (c.fly g left hop routes).ending = .complete) :
    (c.fly g left hop routes).completed = hop + left := by
  have hends := fly_endsAfter left hop c g routes
  rwa [h] at hends

/-- A voyage that ends by the goal has flown a hop at least. -/
lemma lt_completed_of_fly_goal (h : (c.fly g left hop routes).ending = .goal) :
    hop < (c.fly g left hop routes).completed := by
  have hends := fly_endsAfter left hop c g routes
  rw [h] at hends
  exact hends.1

/-- A voyage that ends early has a hop left, which could not be flown under its restriction. -/
lemma of_fly_deadEnd {restriction : Option PlaceSet}
    (h : (c.fly g left hop routes).ending = .deadEnd restriction) :
    (c.fly g left hop routes).completed < hop + left ∧
      restriction = c.restriction (c.fly g left hop routes).completed := by
  have hends := fly_endsAfter left hop c g routes
  rwa [h] at hends

variable (left hop)

/-- A hop that no route can fly is the last one. -/
lemma fly_of_bestHops_eq_nil
    (h : c.bestHops g (c.beam.prune hop routes) (c.restriction hop) = []) :
    c.fly g (left + 1) hop routes
      = ⟨[c.report hop routes], c.beam.prune hop routes, hop, .deadEnd (c.restriction hop)⟩ := by
  rw [fly, h]
  rfl

/-- A hop that leads a route to the goal is the last one. -/
lemma fly_of_someReaches (h : c.SomeReaches g (c.generation g hop routes)) :
    c.fly g (left + 1) hop routes
      = ⟨[c.report hop routes], c.generation g hop routes, hop + 1, .goal⟩ := by
  have hreach := reachesGoal_generation.2 h
  have hsome : c.bestHops g (c.beam.prune hop routes) (c.restriction hop) ≠ [] := by
    obtain ⟨goal, -, r, hr, -⟩ := h
    exact List.ne_nil_of_mem (mem_generation.1 hr)
  rw [generation] at hreach ⊢
  rw [fly]
  split
  · next hnone => exact absurd hnone hsome
  · exact if_pos hreach

/-- A hop that leads no route to the goal is followed by the others. -/
lemma fly_of_not_someReaches
    (hsome : c.bestHops g (c.beam.prune hop routes) (c.restriction hop) ≠ [])
    (h : ¬ c.SomeReaches g (c.generation g hop routes)) :
    c.fly g (left + 1) hop routes =
      { c.fly g left (hop + 1) (c.generation g hop routes) with
        reports := c.report hop routes ::
          (c.fly g left (hop + 1) (c.generation g hop routes)).reports } := by
  have hreach := reachesGoal_generation.not.2 h
  rw [generation] at hreach
  rw [fly]
  split
  · next hnone => exact absurd hnone hsome
  · exact if_neg hreach

/-- The only leg that a route could fly next is the best hop. -/
lemma bestHops_singleton {restriction : Option PlaceSet} {r : Route} {cand : Candidate}
    (h : c.candidatesOf g restriction r = [cand]) :
    c.bestHops g [r] restriction = [cand.extended] := by
  rw [bestHops, candidates, List.flatMap_singleton, h, List.foldl_cons, List.foldl_nil, keepBetter]
  rfl

/-- A hop of the only route, which is not the last one and has one way to go on. -/
lemma generation_singleton {r : Route} {cand : Candidate} (hgoal : c.goal = none)
    (h : c.candidatesOf g (c.restriction hop) r = [cand]) :
    c.generation g hop [r] = [cand.extended] := by
  rw [generation, Beam.prune_singleton, bestHops_singleton h, goalOrder, hgoal]
  exact List.mergeSort_singleton _

/-- The flight goes on with the only route that there is. -/
lemma fly_singleton {r : Route} {cand : Candidate} (hgoal : c.goal = none)
    (h : c.candidatesOf g (c.restriction hop) r = [cand]) :
    ∃ reports, c.fly g (left + 1) hop [r] =
      { c.fly g left (hop + 1) [cand.extended] with reports } := by
  have hbest := bestHops_singleton h
  rw [← generation_singleton hop hgoal h]
  refine ⟨_, fly_of_not_someReaches left hop ?_ ?_⟩
  · rw [Beam.prune_singleton, hbest]
    exact List.cons_ne_nil _ _
  · rintro ⟨goal, hsome, -⟩
    cases hgoal.symm.trans hsome

/-- A voyage whose first routes do not end in the goal ends by the goal just when some route of its
last ones does. -/
lemma fly_goal_iff_of_not (h : ¬ c.SomeReaches g routes) :
    (c.fly g left hop routes).ending = .goal ↔
      c.SomeReaches g (c.fly g left hop routes).routes := by
  fun_induction fly c g left hop routes with
  | case1 hop routes => simpa using h
  | case2 left hop routes kept =>
      have hkept : ¬ c.SomeReaches g kept := fun hreach =>
        h (hreach.mono fun r hr => c.beam.mem_of_mem_prune hop routes hr)
      simpa using hkept
  | case3 left hop routes kept report hsome ordered hgoal =>
      exact ⟨fun _ => reachesGoal_generation.1 hgoal, fun _ => rfl⟩
  | case4 left hop routes kept report hsome ordered hgoal voyage ih =>
      exact ih (reachesGoal_generation.not.1 hgoal)

/-- A voyage that flew a hop ends by the goal just when some route of its last ones does, wherever
it started. -/
lemma fly_goal_iff (h : hop < (c.fly g left hop routes).completed) :
    (c.fly g left hop routes).ending = .goal ↔
      c.SomeReaches g (c.fly g left hop routes).routes := by
  revert h
  fun_cases fly c g left hop routes with
  | case1 => exact fun h => absurd h (lt_irrefl _)
  | case2 => exact fun h => absurd h (lt_irrefl _)
  | case3 left hop routes kept report hsome ordered hgoal =>
      exact fun _ => ⟨fun _ => reachesGoal_generation.1 hgoal, fun _ => rfl⟩
  | case4 left hop routes kept report hsome ordered hgoal voyage =>
      exact fun _ => fly_goal_iff_of_not left (hop + 1) (reachesGoal_generation.not.1 hgoal)

/-- What holds of the routes of every generation, and of those followed up when it does of all,
holds of the last routes of a voyage that flew a hop. -/
lemma fly_keeps {P : List Route → Prop}
    (hgeneration : ∀ hop routes, P (c.generation g hop routes))
    (hprune : ∀ hop routes, P routes → P (c.beam.prune hop routes))
    (h : hop < (c.fly g left hop routes).completed) : P (c.fly g left hop routes).routes := by
  revert h
  fun_cases fly c g left hop routes with
  | case1 => exact fun h => absurd h (lt_irrefl _)
  | case2 => exact fun h => absurd h (lt_irrefl _)
  | case3 left hop routes => exact fun _ => hgeneration hop routes
  | case4 left hop routes =>
      exact fun _ => fly_preserves (P := fun _ => P) left (hop + 1) hprune
        (fun hop routes _ _ => hgeneration hop routes) (hgeneration hop routes)

end Voyage

/-! ### The search -/

/-- What the result of a search takes from its voyage and from the routes kept of it. -/
structure Concluded (c : Charter) (g : Galaxy) (v : Voyage) (covered : Covered)
    (result : RunResult) : Prop where
  airborne : Voyage.isGrounded v = false
  kept : keepCoverage c.via g c.viaStart v.routes = .ok covered
  routes_eq : result.routes = Route.rank covered.routes
  caution_eq : result.caution = "\n".intercalate
    ((endCaution g v ++ covered.shortfall.toList.map Caution.shortfall).map Caution.message)
  goalReached_iff : result.goalReached ↔ v.ending = .goal
  hopsCompleted_eq : result.hopsCompleted = v.completed
  displayLimit_eq : result.displayLimit = c.routes

lemma conclude_eq_ok {v : Voyage} {result : RunResult} (h : c.conclude g v = .ok result) :
    ∃ covered, Concluded c g v covered result := by
  rw [conclude] at h
  split_ifs at h with hgrounded
  cases hkept : keepCoverage c.via g c.viaStart v.routes with
  | error e =>
      rw [hkept] at h
      cases h
  | ok covered =>
      rw [hkept] at h
      obtain rfl := Except.ok.inj h
      refine ⟨covered, by simpa using hgrounded, hkept, rfl, rfl, ?_, rfl, rfl⟩
      cases v.ending <;> simp

/-- A voyage that left the ground has a result as soon as there is no place to call at or one of its
routes called at one. -/
lemma exists_conclude {v : Voyage} (hflown : Voyage.isGrounded v = false)
    (hcalled : c.via.isEmpty ∨ ∃ r ∈ v.routes, 0 < c.via.coverage g c.viaStart r) :
    ∃ result, c.conclude g v = .ok result := by
  obtain ⟨covered, hkept⟩ := exists_keepCoverage hcalled
  rw [conclude, hflown, hkept]
  exact ⟨_, rfl⟩

/-- A search that succeeds is a voyage from the seeds that left the ground. -/
lemma search_eq_ok {result : RunResult} (h : (c.search g).result = .ok result) :
    ∃ seeds, c.seeds g = .ok seeds ∧
      ∃ covered, Concluded c g (c.fly g c.hops 0 seeds) covered result := by
  rw [search] at h
  cases hseeds : c.seeds g with
  | error e =>
      rw [hseeds] at h
      cases h
  | ok seeds =>
      rw [hseeds] at h
      exact ⟨seeds, rfl, conclude_eq_ok h⟩

namespace Concluded

variable {v : Voyage} {covered : Covered} {result : RunResult}

lemma mem_routes (h : Concluded c g v covered result) {r : Route} :
    r ∈ result.routes ↔ r ∈ covered.routes := by
  rw [h.routes_eq, Route.mem_rank]

lemma mem_voyage (h : Concluded c g v covered result) {r : Route} (hr : r ∈ result.routes) :
    r ∈ v.routes :=
  ((mem_of_keepCoverage h.kept).1 (h.mem_routes.1 hr)).1

end Concluded

/-- **The routes of a search are flown**, as many hops as it says. -/
lemma search_flown {result : RunResult} (h : (c.search g).result = .ok result) :
    ∀ r ∈ result.routes, Flown c g result.hopsCompleted r := by
  obtain ⟨seeds, hseeds, covered, hresult⟩ := search_eq_ok h
  intro r hr
  rw [hresult.hopsCompleted_eq]
  exact fly_flown c.hops 0 (of_seeds_eq_ok hseeds).2 r (hresult.mem_voyage hr)

/-- No search completes more hops than were asked for. -/
lemma search_hopsCompleted_le {result : RunResult} (h : (c.search g).result = .ok result) :
    result.hopsCompleted ≤ c.hops := by
  obtain ⟨seeds, -, covered, hresult⟩ := search_eq_ok h
  rw [hresult.hopsCompleted_eq]
  exact (fly_completed_le c.hops 0).trans_eq (Nat.zero_add _)

lemma search_routes_ne_nil {result : RunResult} (h : (c.search g).result = .ok result) :
    result.routes ≠ [] := by
  obtain ⟨seeds, hseeds, covered, hresult⟩ := search_eq_ok h
  rw [hresult.routes_eq, Ne, Route.rank_eq_nil]
  exact ne_nil_of_keepCoverage hresult.kept (fly_routes_ne_nil c.hops 0 (of_seeds_eq_ok hseeds).1)

end Charter

/-! ### The run -/

/-- What a request is found to be when there is something to find. -/
lemma eq_ok_get {ε α : Type} {x : Except ε α} (h : x.toOption.isSome) :
    x = .ok (x.toOption.get h) := by
  cases x with
  | error e => cases h
  | ok a => rfl

/-- A run is planned by the search for the charter of its request. -/
lemma plan_eq_ok {g : Galaxy} {r : Request} {result : RunResult}
    (h : (plan g r).result = .ok result) :
    ∃ c, Charter.draw g r = .ok c ∧ (c.search g).result = .ok result := by
  rw [plan] at h
  split_ifs at h
  cases hc : Charter.draw g r with
  | error e =>
      rw [hc] at h
      cases h
  | ok c =>
      rw [hc] at h
      exact ⟨c, rfl, h⟩

/-- Some route of a run has a property as soon as computing the run says so. -/
lemma Outcome.exists_route {o : Outcome} {p : RunResult → Route → Bool}
    (h : o.result.toOption.any fun result => result.routes.any (p result)) :
    ∃ result, o.result = .ok result ∧ ∃ route ∈ result.routes, p result route := by
  obtain ⟨result, hresult, hany⟩ := (Option.any_eq_true _ _).1 h
  refine ⟨result, ?_, List.any_eq_true.1 hany⟩
  cases ho : o.result with
  | error e =>
      rw [ho] at hresult
      cases hresult
  | ok other =>
      rw [ho] at hresult
      rw [Option.some.inj hresult]

/-! ### A small galaxy -/

/-- Two stations of one system, each of which sells what the other one buys. -/
def twoPorts : Galaxy where
  systems := .ofList [⟨1, "Home", ⟨0.0, 0.0, 0.0⟩, [1, 2]⟩]
  stations := .ofList
    [{ id := 1, name := "Quay", system := 1,
       market := (∅ : Market).insertMany [(1, { ask := 10 }), (2, { bid := 9 })] },
     { id := 2, name := "Dock", system := 1,
       market := (∅ : Market).insertMany [(1, { bid := 15 }), (2, { ask := 6 })] }]
  items := .ofList [⟨1, "Ore"⟩, ⟨2, "Tea"⟩]

/-- A run from the one port to the other and back. -/
def thereAndBack : Request :=
  { Request.basic 4 45 5.0 with origin := some "Quay", insurance := 5, jumpsPerHop := 0 }

/-- The run between the ports that must call at the dock and end at the quay. -/
def roundTrip : Request :=
  { thereAndBack with via := ["Dock"], destination := some "Quay" }

end TradeRun
