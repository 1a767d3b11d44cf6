import TradeRun.Proofs.Charter.Drawing
import TradeRun.Proofs.Search.Legs

/-!
Runs that call nowhere twice.

Routes that end at one station have come different ways, so it is asked of each candidate whether
its own route has called there.

* `Charter.Flown.nodup_stations`: **a flown route calls nowhere twice** if the charter asks for
  that;
* `Charter.Drawn.hops_lt_stationCount`: such a charter is drawn only where there are more stations
  than hops;
* `plan_unique`: so it is with every route of a run;
* `teaPorts`, `oneWay`: a run that would call at its start again.
-/

namespace TradeRun

namespace Charter

variable {c : Charter} {g : Galaxy} {n : Nat} {route : Route}

/-- **A flown route calls nowhere twice**: its next stop is one at which it has not called. -/
lemma Flown.nodup_stations (hunique : c.unique) (h : Flown c g n route) :
    route.stations.Nodup := by
  induction h with
  | seed => exact List.nodup_singleton _
  | @hop n before cand flown next ih =>
      obtain ⟨source, -, -, hroute, hnew, -⟩ := of_mem_candidatesOf next
      rw [Candidate.extended, Route.stations_extend, hroute]
      refine List.nodup_append.2 ⟨ih, List.nodup_singleton _, fun id hid id' hid' he => ?_⟩
      obtain rfl := List.mem_singleton.1 hid'
      exact hnew hunique (by rwa [he] at hid)

/-- A charter for a run that calls nowhere twice has fewer hops than there are stations. -/
lemma Drawn.hops_lt_stationCount {r : Request} {numbers : Numbers} {avoided : Avoided}
    (h : Drawn g r numbers avoided c) (hunique : r.unique) : c.hops < g.stationCount := by
  have hcheck := h.unique
  by_contra hfew
  rw [h.eq] at hfew
  rw [checkUnique, hunique, if_neg (by simp), if_pos (not_lt.1 hfew)] at hcheck
  cases hcheck

end Charter

/-! ### The run -/

/-- **No route of a run calls anywhere twice** if the request asks for that. It has fewer hops than
there are stations, as has the request itself. -/
theorem plan_unique {g : Galaxy} {r : Request} {result : RunResult} {route : Route}
    (hunique : r.unique) (h : (plan g r).result = .ok result) (hroute : route ∈ result.routes) :
    route.stations.Nodup ∧ route.hopCount < g.stationCount ∧ r.hops < g.stationCount := by
  obtain ⟨c, hdraw, hsearch⟩ := plan_eq_ok h
  obtain ⟨n, avoided, hdrawn⟩ := Charter.draw_eq_ok.1 hdraw
  have hflown := Charter.search_flown hsearch route hroute
  have hasked : c.unique := by
    rw [hdrawn.eq]
    exact hunique
  have hhops := hdrawn.hops_lt_stationCount hunique
  have hcompleted := Charter.search_hopsCompleted_le hsearch
  refine ⟨hflown.nodup_stations hasked, ?_, ?_⟩
  · rw [hflown.hopCount_eq]
    omega
  · rw [← hdrawn.hops_eq]
    exact_mod_cast hhops

/-- Three stations of one system. The quay sells ore to the dock. The dock sells tea to the mole,
but the quay pays more for it. -/
def teaPorts : Galaxy where
  systems := .ofList [⟨1, "Haven", ⟨0.0, 0.0, 0.0⟩, [1, 2, 3]⟩]
  stations := .ofList
    [{ id := 1, name := "Quay", system := 1,
       market := (∅ : Market).insertMany [(1, { ask := 10 }), (2, { bid := 12 })] },
     { id := 2, name := "Dock", system := 1,
       market := (∅ : Market).insertMany [(1, { bid := 15 }), (2, { ask := 6 })] },
     { id := 3, name := "Mole", system := 1,
       market := (∅ : Market).insertMany [(2, { bid := 9 })] }]
  items := .ofList [⟨1, "Ore"⟩, ⟨2, "Tea"⟩]

/-- The run of two hops from the quay that calls nowhere twice. -/
def oneWay : Request := { thereAndBack with unique := true }

/-- From the dock the tea would earn twice as much at the quay, where the run started. It goes on to
the mole. -/
theorem plan_unique_oneWay :
    (teaPorts.deals 2 1).map Deal.gain = [6] ∧ (teaPorts.deals 2 3).map Deal.gain = [3] ∧
      ∃ result route, (plan teaPorts oneWay).result = .ok result ∧ route ∈ result.routes ∧
        route.stations = [1, 2, 3] ∧ route.stations.Nodup ∧ route.hopCount < 3 := by
  obtain ⟨result, hresult, route, hroute, hstations⟩ := (plan teaPorts oneWay).exists_route
    (p := fun _ route => route.stations == [1, 2, 3]) (by decide +kernel)
  rw [beq_iff_eq] at hstations
  obtain ⟨hdistinct, hhops, -⟩ := plan_unique rfl hresult hroute
  have hcount : teaPorts.stationCount = 3 := by decide +kernel
  rw [hcount] at hhops
  exact ⟨by decide +kernel, by decide +kernel, result, route, hresult, hroute, hstations, hdistinct,
    hhops⟩

end TradeRun
