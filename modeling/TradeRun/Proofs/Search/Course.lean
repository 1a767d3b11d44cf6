import TradeRun.Proofs.Search.Shape

/-!
The course of a search, hop by hop.

* `Charter.Begins`: the routes with which each hop begins. From the second hop on there are some,
  and no more than there are stations;
* `Charter.begins_of_getElem?_reports`: **every report is of the routes with which its hop begins**;
* `Charter.EndsStuck`: the hops of a search end where no route can be extended;
* `Charter.Alike`: two charters that extend routes alike and draw the same conclusions, as they do
  when they differ in their origins, hops and beam alone (`Charter.alike_of_eq`);
* `Charter.KeepsAlike`: two charters that follow up the same routes;
* `Charter.Alike.fly_eq`: **two charters that do both stay in step**;
* `Charter.Alike.search_eq`: and with that, if they start alike, their searches are the same;
* `oreOnly`: a run whose second hop cannot be flown.
-/

namespace TradeRun

/-- Whether the hops ended where no route could be extended. -/
def Voyage.isStuck (v : Voyage) : Bool := v.ending matches .deadEnd _

namespace Charter

variable {c c' : Charter} {g : Galaxy} {seeds routes : List Route} {left hop : Nat}

/-! ### The start of a hop -/

/-- The routes with which a hop can begin: the seeds, and what a hop has made of the routes with
which it began, if it made some. -/
inductive Begins (c : Charter) (g : Galaxy) (seeds : List Route) : Nat → List Route → Prop
  | seeds : Begins c g seeds 0 seeds
  | next {hop : Nat} {routes : List Route} (before : Begins c g seeds hop routes)
      (flown : c.generation g hop routes ≠ []) :
      Begins c g seeds (hop + 1) (c.generation g hop routes)

namespace Begins

/-- A later hop begins with some routes. -/
lemma ne_nil (h : Begins c g seeds (hop + 1) routes) : routes ≠ [] := by
  cases h with
  | next before flown => exact flown

/-- A later hop begins with no more routes than there are stations. -/
lemma length_le (h : Begins c g seeds (hop + 1) routes) : routes.length ≤ g.stationCount := by
  cases h with
  | next before flown => exact length_generation_le c g hop _

end Begins

/-! ### Reports -/

/-- **Every report is of the routes with which its hop begins.** -/
lemma begins_of_getElem?_reports (hbegins : Begins c g seeds hop routes) :
    ∀ i told, (c.fly g left hop routes).reports[i]? = some told →
      ∃ start, Begins c g seeds (hop + i) start ∧ told = c.report (hop + i) start := by
  fun_induction fly c g left hop routes with
  | case1 =>
      intro i told h
      cases h
  | case2 left hop routes =>
      intro i told h
      cases i with
      | zero => exact ⟨routes, hbegins, (Option.some.inj h).symm⟩
      | succ i => cases h
  | case3 left hop routes =>
      intro i told h
      cases i with
      | zero => exact ⟨routes, hbegins, (Option.some.inj h).symm⟩
      | succ i => cases h
  | case4 left hop routes kept report hsome ordered hgoal voyage ih =>
      intro i told h
      cases i with
      | zero => exact ⟨routes, hbegins, (Option.some.inj h).symm⟩
      | succ i =>
          -- a later report is one of the rest of the voyage, counted from the next hop
          rw [← Nat.add_assoc, Nat.add_right_comm]
          exact ih (hbegins.next (generation_ne_nil hsome)) i told h

/-- A voyage that is to fly a hop begins with the report of it. -/
lemma head?_reports_fly (c : Charter) (g : Galaxy) (left hop : Nat) (routes : List Route) :
    (c.fly g (left + 1) hop routes).reports.head? = some (c.report hop routes) := by
  rw [fly]
  split
  · rfl
  · dsimp only
    split <;> rfl

/-- There is a report for each hop that was flown, and one more where no route could be
extended. -/
lemma length_reports_fly (c : Charter) (g : Galaxy) (left hop : Nat) (routes : List Route) :
    hop + (c.fly g left hop routes).reports.length
      = (c.fly g left hop routes).completed + (c.fly g left hop routes).isStuck.toNat := by
  fun_induction fly c g left hop routes with
  | case1 => rfl
  | case2 => rfl
  | case3 => rfl
  | case4 left hop routes kept report hsome ordered hgoal voyage ih =>
      rw [List.length_cons, ← Nat.add_assoc, Nat.add_right_comm]
      exact ih

/-! ### The search -/

lemma search_of_seeds (h : c.seeds g = .ok seeds) :
    c.search g = ⟨(c.fly g c.hops 0 seeds).reports, c.conclude g (c.fly g c.hops 0 seeds)⟩ := by
  rw [search, h]

lemma search_of_seeds_error {e : PlanError} (h : c.seeds g = .error e) :
    c.search g = ⟨[], .error e⟩ := by
  rw [search, h]

/-- The hops of a search end where no route can be extended. -/
def EndsStuck (c : Charter) (g : Galaxy) : Prop :=
  ∃ seeds, c.seeds g = .ok seeds ∧ (c.fly g c.hops 0 seeds).isStuck

lemma endsStuck_iff (h : c.seeds g = .ok seeds) :
    c.EndsStuck g ↔ (c.fly g c.hops 0 seeds).isStuck := by
  constructor
  · rintro ⟨others, hothers, hstuck⟩
    obtain rfl := Except.ok.inj (h.symm.trans hothers)
    exact hstuck
  · exact fun hstuck => ⟨seeds, h, hstuck⟩

/-- The hops end where no route can be extended just when they are not all flown and the goal is
not reached. -/
lemma endsStuck_iff_of_search_eq_ok {result : RunResult} (h : (c.search g).result = .ok result) :
    c.EndsStuck g ↔ result.hopsCompleted < c.hops ∧ ¬ result.goalReached := by
  obtain ⟨seeds, hseeds, covered, hresult⟩ := search_eq_ok h
  rw [endsStuck_iff hseeds, hresult.goalReached_iff, hresult.hopsCompleted_eq, Voyage.isStuck]
  cases hending : (c.fly g c.hops 0 seeds).ending with
  | complete => simp [completed_of_fly_complete hending]
  | goal => simp
  | deadEnd restriction => simpa using (of_fly_deadEnd hending).1

/-! ### Charters in step -/

/-- The second charter follows up the same ones of the routes with which a hop of the first one can
begin. -/
def KeepsAlike (c c' : Charter) (g : Galaxy) (seeds : List Route) : Prop :=
  ∀ hop routes, Begins c g seeds hop routes →
    c'.beam.prune hop routes = c.beam.prune hop routes

lemma keepsAlike_of_beam_eq (h : c'.beam = c.beam) : KeepsAlike c c' g seeds := by
  intro hop routes _
  rw [h]

/-- Two charters extend routes alike, towards the same goal and under the same restrictions, and
draw the same conclusions from a voyage. They need not start alike, follow up the same routes or fly
as many hops. -/
structure Alike (c c' : Charter) (g : Galaxy) : Prop where
  goal : c'.goal = c.goal
  restriction : ∀ hop, c'.restriction hop = c.restriction hop
  bestHops : ∀ routes restriction,
    c'.bestHops g routes restriction = c.bestHops g routes restriction
  conclude : ∀ v, c'.conclude g v = c.conclude g v

/-- The seeds, the number of hops and the beam have no part in extending a route or in drawing
conclusions, unless the last hop must end at a destination. -/
lemma alike_of_eq
    (hsame : c' = { c with origins := c'.origins, hops := c'.hops, beam := c'.beam })
    (hlast : c.destinations = none ∨ c'.hops = c.hops) : Alike c c' g where
  goal := by rw [hsame]
  restriction := by
    intro hop
    rw [hsame, restriction, restriction]
    rcases hlast with hopen | hhops
    · rw [hopen]
      rfl
    · rw [hhops]
      rfl
  bestHops := by
    intro routes restriction
    rw [hsame]
    rfl
  conclude := by
    intro v
    rw [hsame]
    rfl

lemma report_congr (h : c'.beam.prune hop routes = c.beam.prune hop routes) :
    c'.report hop routes = c.report hop routes := by
  rw [report, report, h]

namespace Alike

lemma someReaches_iff (h : Alike c c' g) : c'.SomeReaches g routes ↔ c.SomeReaches g routes := by
  rw [SomeReaches, SomeReaches, h.goal]

section Kept

variable (h : Alike c c' g) (hkept : c'.beam.prune hop routes = c.beam.prune hop routes)
include h hkept

lemma bestHops_prune : c'.bestHops g (c'.beam.prune hop routes) (c'.restriction hop)
    = c.bestHops g (c.beam.prune hop routes) (c.restriction hop) := by
  rw [hkept, h.restriction, h.bestHops]

lemma generation_eq : c'.generation g hop routes = c.generation g hop routes := by
  rw [generation, generation, h.bestHops_prune hkept, goalOrder, goalOrder, h.goal]

end Kept

/-- **Two charters that follow up the same routes and extend them alike stay in step.** -/
lemma fly_eq (h : Alike c c' g) (hkept : KeepsAlike c c' g seeds) (left : Nat)
    (hbegins : Begins c g seeds hop routes) :
    c'.fly g left hop routes = c.fly g left hop routes := by
  -- along the voyage of the first charter, whose hops begin with the routes that `hkept` is about
  fun_induction fly c g left hop routes with
  | case1 => rfl
  | case2 left hop routes kept report hnone =>
      have hsame := hkept hop routes hbegins
      have hnone' := (h.bestHops_prune hsame).trans hnone
      rw [fly_of_bestHops_eq_nil left hop hnone', report_congr hsame, hsame, h.restriction]
      rfl
  | case3 left hop routes kept report hsome ordered hgoal =>
      have hsame := hkept hop routes hbegins
      have hreach : c'.SomeReaches g (c'.generation g hop routes) := by
        rw [h.generation_eq hsame, h.someReaches_iff]
        exact reachesGoal_generation.1 hgoal
      rw [fly_of_someReaches left hop hreach, report_congr hsame, h.generation_eq hsame]
      rfl
  | case4 left hop routes kept report hsome ordered hgoal voyage ih =>
      have hsame := hkept hop routes hbegins
      have hmiss : ¬ c'.SomeReaches g (c'.generation g hop routes) := by
        rw [h.generation_eq hsame, h.someReaches_iff]
        exact reachesGoal_generation.not.1 hgoal
      have hsome' : c'.bestHops g (c'.beam.prune hop routes) (c'.restriction hop) ≠ [] := by
        rw [h.bestHops_prune hsame]
        exact hsome
      have hrest := ih (hbegins.next (generation_ne_nil hsome))
      rw [fly_of_not_someReaches left hop hsome' hmiss, report_congr hsame, h.generation_eq hsame]
      exact congrArg (fun v : Voyage => { v with reports := report :: v.reports }) hrest

/-- The search for the second charter, from the voyage of the first one. -/
lemma search_of_seeds (h : Alike c c' g) (hkept : KeepsAlike c c' g seeds)
    (hseeds : c'.seeds g = .ok seeds) :
    c'.search g
      = ⟨(c.fly g c'.hops 0 seeds).reports, c.conclude g (c.fly g c'.hops 0 seeds)⟩ := by
  rw [Charter.search_of_seeds hseeds, h.fly_eq hkept c'.hops .seeds, h.conclude]

/-- Two charters that extend routes alike, start alike and fly as many hops search alike. -/
lemma search_eq (h : Alike c c' g) (hseeds : c'.seeds g = c.seeds g) (hhops : c'.hops = c.hops)
    (hkept : ∀ seeds, KeepsAlike c c' g seeds) : c'.search g = c.search g := by
  cases hstart : c.seeds g with
  | error e =>
      rw [search_of_seeds_error hstart, search_of_seeds_error (hseeds.trans hstart)]
  | ok seeds =>
      rw [h.search_of_seeds (hkept seeds) (hseeds.trans hstart), hhops,
        Charter.search_of_seeds hstart]

end Alike

end Charter

/-! ### A run that ends early -/

/-- The run from the quay without the goods that the dock has to sell, following up no more than
five routes. -/
def oreOnly : Request := { thereAndBack with avoid := ["Tea"], maxRoutes := some 5 }

/-- The charter of that run. -/
def oreOnlyCharter : Charter := (Charter.draw twoPorts oreOnly).toOption.get (by decide +kernel)

/-- There is nothing to bring from the dock to the quay, so that the second of two hops cannot be
flown. -/
lemma oreOnlyCharter_endsStuck : oreOnlyCharter.EndsStuck twoPorts ∧
    ∃ result, (oreOnlyCharter.search twoPorts).result = .ok result ∧ result.hopsCompleted = 1 := by
  have hhops : oreOnlyCharter.hops = 2 := by decide +kernel
  obtain ⟨result, hresult, _, -, hview⟩ := (oreOnlyCharter.search twoPorts).exists_route
    (p := fun result _ => result.hopsCompleted == 1 && !result.goalReached) (by decide +kernel)
  rw [Bool.and_eq_true, beq_iff_eq, Bool.not_eq_true'] at hview
  refine ⟨?_, result, hresult, hview.1⟩
  rw [Charter.endsStuck_iff_of_search_eq_ok hresult, hview.1, hview.2, hhops]
  decide

end TradeRun
