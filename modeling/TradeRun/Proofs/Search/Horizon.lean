import TradeRun.Proofs.Search.Course

/-!
How far a search looks ahead.

No hop knows how many are to come, unless the run must end at a destination. So a search for more
hops takes the same course until the shorter one is at its end.

* `Charter.carryOn`: a voyage carried on by more hops, if it flew all that it was to fly;
* `Charter.fly_add`: **a voyage of more hops is the shorter one, carried on**;
* `Charter.search_horizon`: so more hops only carry a search on, and change nothing where it ended
  at the goal or where no route could be extended.
-/

namespace TradeRun

namespace Charter

variable {c c' : Charter} {g : Galaxy} {routes : List Route}

/-! ### The voyage -/

/-- The voyage carried on by so many hops, if it flew all that it was to fly. -/
def carryOn (c : Charter) (g : Galaxy) (more : Nat) (v : Voyage) : Voyage :=
  match v.ending with
  | .complete =>
    let rest := c.fly g more v.completed v.routes
    { rest with reports := v.reports ++ rest.reports }
  | _ => v

section Voyage

variable (more : Nat)

lemma carryOn_cons (told : HopReport) (v : Voyage) :
    c.carryOn g more { v with reports := told :: v.reports }
      = { c.carryOn g more v with reports := told :: (c.carryOn g more v).reports } := by
  obtain ⟨reports, routes, completed, ending⟩ := v
  cases ending <;> rfl

lemma reports_prefix_carryOn (v : Voyage) : v.reports <+: (c.carryOn g more v).reports := by
  rw [carryOn]
  cases v.ending with
  | complete => exact List.prefix_append _ _
  | goal => exact List.prefix_rfl
  | deadEnd restriction => exact List.prefix_rfl

lemma carryOn_of_ended {v : Voyage} (h : v.ending ≠ .complete) : c.carryOn g more v = v := by
  rw [carryOn]
  cases hending : v.ending with
  | complete => exact absurd hending h
  | goal => rfl
  | deadEnd restriction => rfl

/-- **A voyage of more hops is the shorter one, carried on.** -/
lemma fly_add (left hop : Nat) (routes : List Route) :
    c.fly g (left + more) hop routes = c.carryOn g more (c.fly g left hop routes) := by
  fun_induction fly c g left hop routes with
  | case1 =>
      rw [Nat.zero_add]
      rfl
  | case2 left hop routes kept report hnone =>
      rw [Nat.succ_add, fly_of_bestHops_eq_nil _ hop hnone]
      rfl
  | case3 left hop routes kept report hsome ordered hgoal =>
      rw [Nat.succ_add, fly_of_someReaches _ hop (reachesGoal_generation.1 hgoal)]
      rfl
  | case4 left hop routes kept report hsome ordered hgoal voyage ih =>
      have hmiss := reachesGoal_generation.not.1 hgoal
      rw [Nat.succ_add, fly_of_not_someReaches _ hop hsome hmiss, carryOn_cons]
      exact congrArg (fun v : Voyage => { v with reports := report :: v.reports }) ih

end Voyage

/-! ### The search -/

/-- A search that found routes and ended early did not fly all hops. -/
lemma ending_ne_complete {seeds : List Route} {result : RunResult} (hseeds : c.seeds g = .ok seeds)
    (h : (c.search g).result = .ok result) (hended : c.EndsStuck g ∨ result.goalReached) :
    (c.fly g c.hops 0 seeds).ending ≠ .complete := by
  intro hcomplete
  rw [search_of_seeds hseeds] at h
  obtain ⟨covered, hresult⟩ := conclude_eq_ok h
  rcases hended with hstuck | hgoal
  · rw [endsStuck_iff hseeds, Voyage.isStuck, hcomplete] at hstuck
    cases hstuck
  · rw [hresult.goalReached_iff, hcomplete] at hgoal
    cases hgoal

/-- **More hops only carry a search on.** Of two charters that differ in the number of hops alone,
and have no destination, the one with fewer makes the first reports of the other one. If its search
found routes, and ended at the goal or where no route could be extended, so does the other search,
with the same result. -/
theorem search_horizon (hsame : c' = { c with hops := c'.hops }) (hopen : c.destinations = none)
    (hmore : c.hops ≤ c'.hops) :
    (c.search g).reports <+: (c'.search g).reports ∧
      ∀ result, (c.search g).result = .ok result → c.EndsStuck g ∨ result.goalReached →
        c'.search g = c.search g := by
  have halike : Alike c c' g := alike_of_eq (by rw [hsame]) (.inl hopen)
  have hstart : c'.seeds g = c.seeds g := by
    rw [hsame]
    rfl
  obtain ⟨more, hlonger⟩ := Nat.exists_eq_add_of_le hmore
  cases hseeds : c.seeds g with
  | error e =>
      rw [search_of_seeds_error hseeds, search_of_seeds_error (hstart.trans hseeds)]
      exact ⟨List.prefix_rfl, fun _ _ _ => rfl⟩
  | ok seeds =>
      have hkept : KeepsAlike c c' g seeds := keepsAlike_of_beam_eq (by rw [hsame])
      rw [halike.search_of_seeds hkept (hstart.trans hseeds), hlonger, fly_add]
      constructor
      · rw [search_of_seeds hseeds]
        exact reports_prefix_carryOn more _
      · intro result hresult hended
        rw [carryOn_of_ended more (ending_ne_complete hseeds hresult hended),
          search_of_seeds hseeds]

end Charter

/-- The charter of the run that ends early, for so many hops. -/
def oreOnlyFor (hops : Nat) : Charter := { oreOnlyCharter with hops }

/-- The second of two hops cannot be flown. The search for one hop makes the first one of the two
reports, and the search for five hops both of them, with the same result. -/
theorem search_horizon_oreOnly :
    oreOnlyCharter.hops = 2 ∧ oreOnlyCharter.destinations = none ∧
      (oreOnlyCharter.search twoPorts).reports = [⟨1, 1, 0⟩, ⟨2, 1, 0⟩] ∧
      (∃ result, (oreOnlyCharter.search twoPorts).result = .ok result ∧
        result.hopsCompleted = 1) ∧
      oreOnlyCharter.EndsStuck twoPorts ∧
      ((oreOnlyFor 1).search twoPorts).reports = [⟨1, 1, 0⟩] ∧
      ((oreOnlyFor 1).search twoPorts).reports <+: (oreOnlyCharter.search twoPorts).reports ∧
      (oreOnlyFor 5).search twoPorts = oreOnlyCharter.search twoPorts := by
  have hhops : oreOnlyCharter.hops = 2 := by decide +kernel
  have hopen : oreOnlyCharter.destinations = none :=
    Option.isNone_iff_eq_none.1 (by decide +kernel)
  have hshorter : oreOnlyCharter = { oreOnlyFor 1 with hops := oreOnlyCharter.hops } := rfl
  have hlonger : oreOnlyFor 5 = { oreOnlyCharter with hops := (oreOnlyFor 5).hops } := rfl
  have hone : (oreOnlyFor 1).hops ≤ oreOnlyCharter.hops := by
    rw [hhops]
    decide
  have hfive : oreOnlyCharter.hops ≤ (oreOnlyFor 5).hops := by
    rw [hhops]
    decide
  obtain ⟨hstuck, result, hresult, hcompleted⟩ := oreOnlyCharter_endsStuck
  obtain ⟨hfirst, -⟩ := Charter.search_horizon (g := twoPorts) hshorter hopen hone
  obtain ⟨-, hend⟩ := Charter.search_horizon (g := twoPorts) hlonger hopen hfive
  exact ⟨hhops, hopen, by decide +kernel, ⟨result, hresult, hcompleted⟩, hstuck,
    by decide +kernel, hfirst, hend result hresult (.inl hstuck)⟩

end TradeRun
