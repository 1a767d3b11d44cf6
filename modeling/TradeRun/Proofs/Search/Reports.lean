import TradeRun.Proofs.Charter.Coherence
import TradeRun.Proofs.Search.Course

/-!
What the reports of a search account for.

* `Charter.Begins.report_bounds`: from the second hop on, some routes are followed up, and with
  those that were dropped they are no more than there are stations;
* `Charter.Drawn.report_seeds`: the first hop follows up one route for each origin, and drops none;
* `Charter.length_reports_search`: the reports count the hops, and where no route could be extended
  the hop that was not flown;
* `Charter.search_reports`: **the reports account for the search**.
-/

namespace TradeRun

namespace Charter

variable {c : Charter} {g : Galaxy} {seeds routes : List Route} {hop : Nat}

/-! ### The reports of the hops -/

/-- The report of a later hop is of some routes, of no more than there are stations together with
those that were dropped, and of no more than the limit. -/
lemma Begins.report_bounds (h : Begins c g seeds (hop + 1) routes)
    (hlimit : c.beam.maxRoutes ≠ some 0) :
    1 ≤ (c.report (hop + 1) routes).origins ∧
      (c.report (hop + 1) routes).origins + (c.report (hop + 1) routes).pruned ≤ g.stationCount ∧
      ∀ most, c.beam.maxRoutes = some most → (c.report (hop + 1) routes).origins ≤ most := by
  have hsome := List.length_pos_iff.2 (c.beam.prune_ne_nil (hop + 1) h.ne_nil)
  have hkept := c.beam.length_prune_le (hop + 1) routes
  have hstations := h.length_le
  refine ⟨hsome, ?_, fun most hmost => ?_⟩
  · dsimp only [report]
    omega
  · refine Beam.length_prune_succ_le hop routes hmost ?_
    rintro rfl
    exact hlimit hmost

/-- The first hop follows up one route for each origin and drops none. -/
lemma Drawn.report_seeds {r : Request} {n : Numbers} {avoided : Avoided}
    (h : Drawn g r n avoided c) (hseeds : c.seeds g = .ok seeds) :
    c.report 0 seeds = ⟨1, c.origins.length, 0⟩ := by
  have hdocks : ∀ id ∈ c.origins, ∃ s, g.station? id = some s ∧ ¬ c.avoid.matches s ∧
      c.filter.acceptsPad s := by
    intro id hid
    obtain ⟨s, hs, hsafe, -, hpad⟩ := h.coherent.origins id hid
    exact ⟨s, hs, hsafe, hpad⟩
  obtain ⟨hsome, hnone⟩ := seeds_of_docks hdocks
  have hlength : seeds.length = c.origins.length := by
    by_cases horigins : c.origins = []
    · obtain ⟨gap, hgap⟩ := hnone horigins
      rw [hseeds] at hgap
      cases hgap
    · obtain rfl := Except.ok.inj (hseeds.symm.trans (hsome horigins))
      exact List.length_map _
  have hkept : (c.beam.prune 0 seeds).length = c.origins.length := by
    rw [Beam.prune_zero _ fun cut hcut => (h.coherent.scoreCut cut hcut).1,
      (Route.rank_perm seeds).length_eq, hlength]
  rw [report, hkept, hlength, Nat.sub_self]

/-! ### The number of reports -/

/-- The reports count the hops that were completed and, where no route could be extended, the hop
that was not flown. -/
lemma length_reports_search {result : RunResult} (h : (c.search g).result = .ok result) :
    (c.EndsStuck g → (c.search g).reports.length = result.hopsCompleted + 1) ∧
      (¬ c.EndsStuck g → (c.search g).reports.length = result.hopsCompleted) := by
  obtain ⟨seeds, hseeds, covered, hresult⟩ := search_eq_ok h
  have hlength := length_reports_fly c g c.hops 0 seeds
  rw [Nat.zero_add] at hlength
  rw [search_of_seeds hseeds, hresult.hopsCompleted_eq, endsStuck_iff hseeds, hlength]
  cases (c.fly g c.hops 0 seeds).isStuck <;> simp

/-- **The reports account for the search.** They are numbered from one on. The first one is of as
many routes as there are origins, and of none that was dropped. Each later one is of some routes, of
no more than the limit, and together with those that were dropped of no more than there are
stations. There is one for each hop that was completed, and just where no route could be extended
one more; so there are no more than hops to fly. -/
theorem search_reports {r : Request} {result : RunResult} (hdraw : draw g r = .ok c)
    (h : (c.search g).result = .ok result) :
    (∀ i told, (c.search g).reports[i]? = some told → told.hop = i + 1) ∧
      (c.search g).reports.head? = some ⟨1, c.origins.length, 0⟩ ∧
      (∀ i told, (c.search g).reports[i + 1]? = some told →
        1 ≤ told.origins ∧ told.origins + told.pruned ≤ g.stationCount ∧
          ∀ most, c.beam.maxRoutes = some most → told.origins ≤ most) ∧
      ((c.search g).reports.length = result.hopsCompleted ∨
        (c.search g).reports.length = result.hopsCompleted + 1) ∧
      ((c.search g).reports.length = result.hopsCompleted + 1 ↔ c.EndsStuck g) ∧
      (c.EndsStuck g ↔ result.hopsCompleted < c.hops ∧ ¬ result.goalReached) ∧
      (c.search g).reports.length ≤ c.hops := by
  obtain ⟨n, avoided, hdrawn⟩ := draw_eq_ok.1 hdraw
  obtain ⟨seeds, hseeds, -⟩ := search_eq_ok h
  have hvoyage : (c.search g).reports = (c.fly g c.hops 0 seeds).reports := by
    rw [search_of_seeds hseeds]
  have hreports (i : Nat) (told : HopReport) (htold : (c.search g).reports[i]? = some told) :
      ∃ start, Begins c g seeds i start ∧ told = c.report i start := by
    rw [hvoyage] at htold
    simpa using begins_of_getElem?_reports .seeds i told htold
  have hstuck := endsStuck_iff_of_search_eq_ok h
  obtain ⟨hmore, hsame⟩ := length_reports_search h
  refine ⟨fun i told htold => ?_, ?_, fun i told htold => ?_, ?_, ?_, hstuck, ?_⟩
  · obtain ⟨start, -, rfl⟩ := hreports i told htold
    rfl
  · obtain ⟨left, hleft⟩ := Nat.exists_eq_add_one.2 hdrawn.hops_pos
    rw [hvoyage, hleft, head?_reports_fly, hdrawn.report_seeds hseeds]
  · obtain ⟨start, hbegins, rfl⟩ := hreports (i + 1) told htold
    exact hbegins.report_bounds hdrawn.coherent.maxRoutes_ne_zero
  · by_cases hends : c.EndsStuck g
    · exact .inr (hmore hends)
    · exact .inl (hsame hends)
  · refine ⟨fun hlength => ?_, hmore⟩
    by_contra hends
    rw [hsame hends] at hlength
    omega
  · by_cases hends : c.EndsStuck g
    · rw [hmore hends]
      exact (hstuck.1 hends).1
    · rw [hsame hends]
      exact search_hopsCompleted_le h

end Charter

/-- The second of two hops cannot be flown, so that it has a report and is not completed. One route
was followed up in it and none was dropped; there are two stations, and five routes could have been
followed up. -/
theorem search_reports_oreOnly :
    ∃ result told, Charter.draw twoPorts oreOnly = .ok oreOnlyCharter ∧
      (oreOnlyCharter.search twoPorts).result = .ok result ∧ result.hopsCompleted = 1 ∧
      (oreOnlyCharter.search twoPorts).reports = [⟨1, oreOnlyCharter.origins.length, 0⟩, told] ∧
      told = ⟨2, 1, 0⟩ ∧ told.origins + told.pruned ≤ twoPorts.stationCount ∧
      oreOnlyCharter.beam.maxRoutes = some 5 ∧ told.origins ≤ 5 ∧
      (oreOnlyCharter.search twoPorts).reports.length = 2 := by
  have hdraw : Charter.draw twoPorts oreOnly = .ok oreOnlyCharter := eq_ok_get _
  have hlimit : oreOnlyCharter.beam.maxRoutes = some 5 := by decide +kernel
  have htold : (oreOnlyCharter.search twoPorts).reports[1]? = some ⟨2, 1, 0⟩ := by decide +kernel
  obtain ⟨hstuck, result, hresult, hcompleted⟩ := oreOnlyCharter_endsStuck
  obtain ⟨-, -, hlater, -, hlength, -⟩ := Charter.search_reports hdraw hresult
  obtain ⟨-, hstations, hmost⟩ := hlater 0 _ htold
  refine ⟨result, _, hdraw, hresult, hcompleted, by decide +kernel, rfl, hstations, hlimit,
    hmost 5 hlimit, ?_⟩
  rw [hlength.2 hstuck, hcompleted]

end TradeRun
