import TradeRun.Proofs.Search.Course

/-!
A limit on the routes that drops none.

Only the seeds can be more than there are stations, and the limit does not apply to the first hop.
After it each station is the end of one route at most.

* `Beam.prune_of_wide`: a limit that is not exceeded is none;
* `Charter.search_wideBeam`: **a search that may follow up a route for each station is as one that
  may follow up any number of them**;
* `wideTrip`: a run with a limit of that kind.
-/

namespace TradeRun

/-- A limit that the routes do not exceed, or that does not apply yet, is none. -/
lemma Beam.prune_of_wide {b b' : Beam} {most hop : Nat} {routes : List Route}
    (hopen : b.maxRoutes = none) (hsame : b' = { b with maxRoutes := some most })
    (h : hop = 0 ∨ routes.length ≤ most) : b'.prune hop routes = b.prune hop routes := by
  have hlimited : b'.limited hop (Route.rank routes) = Route.rank routes := by
    rcases h with rfl | hfew
    · exact limited_zero _
    · have hlength := (Route.rank_perm routes).length_eq
      exact limited_of_length_le hop _ (by rw [hsame]) (hlength.trans_le hfew)
  rw [prune, prune, hlimited, limited_of_maxRoutes_eq_none hop _ hopen, hsame]
  rfl

namespace Charter

variable {c c' : Charter} {g : Galaxy} {most : Nat}

/-- **A wide enough beam is no beam.** Of two charters one sets no limit to the routes that are
followed up, the other one a limit that is not below the number of stations. If they do not differ
otherwise, their searches have the same reports and the same result. -/
theorem search_wideBeam (hopen : c.beam.maxRoutes = none) (hwide : g.stationCount ≤ most)
    (hsame : c' = { c with beam := { c.beam with maxRoutes := some most } }) :
    c'.search g = c.search g := by
  have hbeam : c'.beam = { c.beam with maxRoutes := some most } := by rw [hsame]
  have hhops : c'.hops = c.hops := by rw [hsame]
  have hseeds : c'.seeds g = c.seeds g := by
    rw [hsame]
    rfl
  have halike : Alike c c' g := alike_of_eq (by rw [hsame]) (.inr hhops)
  refine halike.search_eq hseeds hhops fun seeds hop routes hbegins => ?_
  refine Beam.prune_of_wide hopen hbeam ?_
  cases hop with
  | zero => exact .inl rfl
  | succ hop => exact .inr (hbegins.length_le.trans hwide)

end Charter

/-- The run there and back with a limit on the routes that are followed up: one for each port. -/
def wideTrip : Request := { thereAndBack with maxRoutes := some 2 }

/-- The charter of the run there and back, without a limit. -/
def openCharter : Charter := (Charter.draw twoPorts thereAndBack).toOption.get (by decide +kernel)

/-- The charter of the run with the limit. -/
def wideCharter : Charter := (Charter.draw twoPorts wideTrip).toOption.get (by decide +kernel)

/-- With a limit of two routes for two ports the run there and back is found as it is without. -/
theorem search_wideBeam_wideTrip :
    Charter.draw twoPorts thereAndBack = .ok openCharter ∧
      Charter.draw twoPorts wideTrip = .ok wideCharter ∧ twoPorts.stationCount = 2 ∧
      wideCharter.search twoPorts = openCharter.search twoPorts ∧
      (openCharter.search twoPorts).reports = [⟨1, 1, 0⟩, ⟨2, 1, 0⟩] ∧
      ∃ result, (openCharter.search twoPorts).result = .ok result ∧ result.hopsCompleted = 2 := by
  have hopen : openCharter.beam.maxRoutes = none := by decide +kernel
  have hcount : twoPorts.stationCount = 2 := by decide +kernel
  have hsame : wideCharter
      = { openCharter with beam := { openCharter.beam with maxRoutes := some 2 } } := rfl
  obtain ⟨result, hresult, _, -, hhops⟩ := (openCharter.search twoPorts).exists_route
    (p := fun result _ => result.hopsCompleted == 2) (by decide +kernel)
  exact ⟨eq_ok_get _, eq_ok_get _, hcount, Charter.search_wideBeam hopen hcount.le hsame,
    by decide +kernel, result, hresult, beq_iff_eq.1 hhops⟩

end TradeRun
