import TradeRun.Proofs.Charter.Admission
import TradeRun.Proofs.Search.Legs

/-!
The stations at which a run calls.

* `Request.Welcomes`: what makes a station one at which a run may call, at its start or later;
* `Charter.Flown.welcomes`: a flown route calls at such stations only;
* `Charter.Flown.stations_isChain`: a flown route leaves every station for another one;
* `plan_welcomes`: **a run calls at no station that its request does not admit**, except that it may
  start at the very station that the request names;
* `harbour`, `smuggling`: a run that does start at such a station.
-/

namespace TradeRun

/-- A run may call at a station: no place to keep away from covers it, the ship can lie there, and
the request admits it as a stop or, at the `start` of a run with no jumps around it, names it for
the origin. -/
structure Request.Welcomes (r : Request) (g : Galaxy) (start : Prop) (s : Station) : Prop where
  safe : ∀ place, r.Shuns g place → ¬ place.covers s
  docks : r.DocksAt s
  admits : r.Admits s ∨ start ∧ r.startJumps = 0 ∧ r.NamesOrigin g s.id

namespace Charter

variable {c : Charter} {g : Galaxy} {r : Request} {n : Numbers} {avoided : Avoided}

/-- What is not avoided is covered by no place to keep away from. -/
lemma Drawn.safe_of_not_matches (h : Drawn g r n avoided c) {s : Station}
    (hsafe : ¬ c.avoid.matches s) (place : Place) (hshuns : r.Shuns g place) : ¬ place.covers s :=
  fun hcovers => hsafe ((h.avoid_matches_iff s).2 ⟨place, hshuns, hcovers⟩)

/-- **A flown route calls at welcome stations only.** -/
lemma Flown.welcomes (hdrawn : Drawn g r n avoided c) {hops k : Nat} {route : Route}
    (h : Flown c g hops route) {id : StationId} (hid : route.stations[k]? = some id) :
    ∃ s, g.station? id = some s ∧ r.Welcomes g (k = 0) s := by
  cases k with
  | zero =>
      obtain rfl : route.origin = id :=
        Option.some.inj (route.getElem?_stations_zero.symm.trans hid)
      obtain ⟨s, hs, hsafe, hdocks, hadmits⟩ := hdrawn.of_mem_origins h.origin_mem
      refine ⟨s, hs, hdrawn.safe_of_not_matches hsafe, hdocks, ?_⟩
      rw [Galaxy.id_of_station? hs]
      exact hadmits.imp_right fun hnamed => ⟨rfl, hnamed⟩
  | succ k =>
      obtain ⟨leg, hleg, -⟩ := Route.exists_leg hid
      obtain ⟨source, landing, hlanded⟩ := h.landed hleg
      obtain rfl : landing.station.id = id := Option.some.inj (hlanded.target_eq.symm.trans hid)
      obtain ⟨-, heligible, hsafe⟩ := lands_of_mem_landings hlanded.mem
      have hadmits := (hdrawn.isEligible_iff _).1 heligible
      exact ⟨landing.station, station?_of_mem_landings hlanded.mem,
        hdrawn.safe_of_not_matches hsafe, hadmits.toDocksAt, .inl hadmits⟩

/-- A flown route leaves every station for another one. -/
lemma Flown.stations_isChain {hops : Nat} {route : Route} (h : Flown c g hops route) :
    route.stations.IsChain (· ≠ ·) := by
  rw [List.isChain_iff_getElem]
  intro k hk
  obtain ⟨leg, hleg, -⟩ := Route.exists_leg (List.getElem?_eq_getElem hk)
  obtain ⟨source, landing, hlanded⟩ := h.landed hleg
  obtain ⟨_, hsource⟩ := List.getElem?_eq_some_iff.1 hlanded.source_eq
  obtain ⟨_, htarget⟩ := List.getElem?_eq_some_iff.1 hlanded.target_eq
  rw [hsource, htarget]
  exact (lands_of_mem_landings hlanded.mem).1.symm

end Charter

/-! ### The run -/

/-- **A run calls at welcome stations only, and leaves each of them for another one.** No place to
keep away from covers any of them, each has prices and an accepted pad, and each meets all that the
request asks of a stop. Only the first one may fail the rest, and only where it is the station that
the request names for the origin, with no jump around it. -/
theorem plan_welcomes {g : Galaxy} {r : Request} {result : RunResult} {route : Route}
    (h : (plan g r).result = .ok result) (hroute : route ∈ result.routes) :
    (∀ k id, route.stations[k]? = some id →
      ∃ s, g.station? id = some s ∧ r.Welcomes g (k = 0) s) ∧
      route.stations.IsChain (· ≠ ·) := by
  obtain ⟨c, hdraw, hsearch⟩ := plan_eq_ok h
  obtain ⟨n, avoided, hdrawn⟩ := Charter.draw_eq_ok.1 hdraw
  have hflown := Charter.search_flown hsearch route hroute
  exact ⟨fun k id hid => hflown.welcomes hdrawn hid, hflown.stations_isChain⟩

/-- A harbour that sells ore and tea, of the ore a few units only, and two more that buy them. At
the first one no black market is known. -/
def harbour : Galaxy where
  systems := .ofList [⟨1, "Bay", ⟨0.0, 0.0, 0.0⟩, [1, 2, 3]⟩]
  stations := .ofList
    [{ id := 1, name := "Quay", system := 1,
       market := (∅ : Market).insertMany [(1, { ask := 10, stock := some 3 }), (2, { ask := 4 })] },
     { id := 2, name := "Dock", system := 1, blackMarket := some true,
       market := (∅ : Market).insertMany [(1, { bid := 15 }), (2, { bid := 11 })] },
     { id := 3, name := "Mole", system := 1, blackMarket := some true,
       market := (∅ : Market).insertMany [(1, { bid := 20 })] }]
  items := .ofList [⟨1, "Ore"⟩, ⟨2, "Tea"⟩]

/-- A run from the quay to a black market, but not on the mole and not with tea. -/
def smuggling : Request :=
  { Request.basic 4 45 5.0 with
    origin := some "Quay", hops := 1, jumpsPerHop := 0, blackMarket := true,
    avoid := ["Mole", "Tea"], margin := 0.1, minGain := 2 }

/-- All the ore on offer goes to the dock. Of the five credits that a unit fetches above its price,
four are counted on. -/
lemma plan_smuggling :
    ∃ result, (plan harbour smuggling).result = .ok result ∧ ∃ route ∈ result.routes,
      route.stations = [1, 2] ∧
        route.legs.map (fun leg => leg.trades.map fun t => (t.item, t.quantity, t.gain))
          = [[(1, 3, 4)]] := by
  simpa only [Bool.and_eq_true, beq_iff_eq] using Outcome.exists_route
    (p := fun _ route => route.stations == [1, 2] &&
      route.legs.map (fun leg => leg.trades.map fun t => (t.item, t.quantity, t.gain))
        == [[(1, 3, 4)]])
    (by decide +kernel)

/-- The run starts at the quay, which it could not call at later on, and ends at the dock. -/
theorem plan_welcomes_smuggling :
    ∃ result route, (plan harbour smuggling).result = .ok result ∧ route ∈ result.routes ∧
      route.stations = [1, 2] ∧
        (∃ quay, harbour.station? 1 = some quay ∧ smuggling.Welcomes harbour (0 = 0) quay ∧
          ¬ smuggling.Admits quay) ∧
        ∃ dock, harbour.station? 2 = some dock ∧ smuggling.Admits dock := by
  obtain ⟨result, hresult, route, hroute, hstations, -⟩ := plan_smuggling
  obtain ⟨hwelcome, -⟩ := plan_welcomes hresult hroute
  obtain ⟨quay, hquay, hstart⟩ := hwelcome 0 1 (by rw [hstations]; rfl)
  obtain ⟨dock, hdock, hstop⟩ := hwelcome 1 2 (by rw [hstations]; rfl)
  refine ⟨result, route, hresult, hroute, hstations, ⟨quay, hquay, hstart, fun hadmits => ?_⟩, dock,
    hdock, hstop.admits.resolve_right (by simp)⟩
  have hmarket : (harbour.station? 1).bind Station.blackMarket = none := by decide +kernel
  rw [hquay] at hmarket
  exact Option.some_ne_none _ ((hadmits.blackMarket rfl).symm.trans hmarket)

end TradeRun
