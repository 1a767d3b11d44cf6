import TradeRun.Proofs.Search.Course

/-!
The order of the origins.

The seeds come in the order of the origins, and of legs with equal scores the first one is taken.
But routes are ranked before they are extended, and seeds that tie are one and the same.

* `Untied`: routes of which no two different ones tie. Their ranking does not depend on their order
  (`Untied.rank_eq`);
* `Charter.seeds_perm`, `Charter.untied_seeds`: the seeds are such routes, in the order of the
  origins;
* `Charter.fly_congr`: a voyage of some hops sees nothing of the routes but their ranking;
* `Charter.conclude_perm`: and what comes of one does not depend on the order of its last routes;
* `Charter.search_origins_perm`: **so the order of the origins makes no difference to a search**;
* `anyPort`: a run that can begin at either of two ports.
-/

namespace TradeRun

variable {g : Galaxy} {routes others : List Route}

/-- No two different routes tie. -/
def Untied (routes : List Route) : Prop :=
  ∀ a ∈ routes, ∀ b ∈ routes, Route.compareRank a b = .eq → a = b

namespace Untied

lemma sublist (h : Untied routes) (hsub : others.Sublist routes) : Untied others :=
  fun a ha b hb => h a (hsub.subset ha) b (hsub.subset hb)

/-- The ranking of routes that do not tie does not depend on their order. -/
lemma rank_eq (h : Untied routes) (hperm : others.Perm routes) :
    Route.rank others = Route.rank routes :=
  mergeSort_isLE_eq_of_perm Route.compareRank hperm h

end Untied

namespace Charter

variable {c c' : Charter}

/-! ### The seeds -/

/-- A route that has flown no hop is at its origin. -/
lemma Flown.exists_seed {r : Route} (h : Flown c g 0 r) :
    ∃ id, r = Route.seed id c.startCredits := by
  cases h with
  | seed => exact ⟨_, rfl⟩

/-- Seeds that tie are one and the same. -/
lemma untied_seeds {seeds : List Route} (h : c.seeds g = .ok seeds) : Untied seeds := by
  intro a ha b hb htie
  obtain ⟨-, hseeds⟩ := of_seeds_eq_ok h
  obtain ⟨id, rfl⟩ := (hseeds a ha).exists_seed
  obtain ⟨id', rfl⟩ := (hseeds b hb).exists_seed
  obtain rfl : id = id' := Route.last_eq_of_compareRank_eq htie
  rfl

/-- In another order the same origins make the same seeds, in another order. -/
lemma seeds_perm (hsame : c' = { c with origins := c'.origins })
    (hperm : c'.origins.Perm c.origins) :
    (∀ e, c.seeds g = .error e → c'.seeds g = .error e) ∧
      ∀ seeds, c.seeds g = .ok seeds →
        ∃ others, others.Perm seeds ∧ c'.seeds g = .ok others := by
  have havoid : c'.avoid = c.avoid := by rw [hsame]
  have hfilter : c'.filter = c.filter := by rw [hsame]
  have hcredits : c'.startCredits = c.startCredits := by
    rw [hsame]
    rfl
  have hdocks := (hperm.filterMap g.station?).filter fun s =>
    !c.avoid.matches s && c.filter.acceptsPad s
  simp only [seeds, havoid, hfilter, hcredits, hdocks.isEmpty_eq]
  constructor
  · intro e he
    split_ifs at he ⊢
    · exact he
    · exact he
  · intro seeds hseeds
    split_ifs at hseeds with hempty
    obtain rfl := Except.ok.inj hseeds
    exact ⟨_, hdocks.map _, if_neg hempty⟩

/-! ### The voyage -/

/-- A voyage of some hops sees nothing of the routes but their ranking. -/
lemma fly_congr (h : Route.rank others = Route.rank routes) (left hop : Nat) :
    c.fly g (left + 1) hop others = c.fly g (left + 1) hop routes := by
  have hkept : c.beam.prune hop others = c.beam.prune hop routes := by
    rw [Beam.prune, Beam.prune, h]
  have hlength : others.length = routes.length := by
    rw [← (Route.rank_perm others).length_eq, h, (Route.rank_perm routes).length_eq]
  rw [fly, fly, Beam.dropped, Beam.dropped, hkept, hlength]

/-! ### The conclusions -/

/-- What comes of a voyage does not depend on the order of its last routes. -/
lemma conclude_perm {v : Voyage} (h : Untied v.routes) (hperm : others.Perm v.routes) :
    c.conclude g { v with routes := others } = c.conclude g v := by
  cases hkept : keepCoverage c.via g c.viaStart v.routes with
  | error e =>
      rw [conclude, conclude, keepCoverage_perm_error hperm hkept, hkept]
      rfl
  | ok covered =>
      obtain ⟨kept, hcovered, hothers⟩ := keepCoverage_perm_ok hperm hkept
      have huntied : Untied covered.routes := by
        rw [(of_keepCoverage_eq_ok hkept).1]
        exact h.sublist List.filter_sublist
      simp only [conclude, hothers, hkept, bind, Except.bind, huntied.rank_eq hcovered]
      rfl

/-! ### The search -/

/-- **The order of the origins makes no difference to a search.** Two charters that have the same
origins in different orders, and do not differ otherwise, have searches with the same reports and
the same result. -/
theorem search_origins_perm (hsame : c' = { c with origins := c'.origins })
    (hperm : c'.origins.Perm c.origins) : c'.search g = c.search g := by
  have halike : Alike c c' g := alike_of_eq (by rw [hsame]) (.inr (by rw [hsame]))
  have hhops : c'.hops = c.hops := by rw [hsame]
  obtain ⟨hfailed, hstarted⟩ := seeds_perm (g := g) hsame hperm
  cases hseeds : c.seeds g with
  | error e => rw [search_of_seeds_error hseeds, search_of_seeds_error (hfailed e hseeds)]
  | ok seeds =>
      obtain ⟨others, hothers, hseeds'⟩ := hstarted seeds hseeds
      have huntied := untied_seeds hseeds
      have hkept : KeepsAlike c c' g others := keepsAlike_of_beam_eq (by rw [hsame])
      rw [halike.search_of_seeds hkept hseeds', hhops, search_of_seeds hseeds]
      cases c.hops with
      | zero =>
          -- no hop ranks the seeds, but what comes of them is ranked
          have hresult := conclude_perm (c := c) (g := g) (v := ⟨[], seeds, 0, .complete⟩) huntied
            hothers
          exact congrArg (Outcome.mk []) hresult
      | succ left => rw [fly_congr (huntied.rank_eq hothers)]

end Charter

/-! ### A run from either port -/

/-- A run of one hop from either port to the other one. -/
def anyPort : Request := { thereAndBack with origin := none, hops := 1 }

/-- The charter of that run. -/
def anyPortCharter : Charter := (Charter.draw twoPorts anyPort).toOption.get (by decide +kernel)

/-- The same with the origins in the other order. -/
def otherPortCharter : Charter := { anyPortCharter with origins := [2, 1] }

section AnyPort

/-- What the search reads of the charter. -/
lemma anyPortCharter_eq : anyPortCharter.hops = 1 ∧ anyPortCharter.origins = [1, 2] ∧
    anyPortCharter.via.isEmpty ∧ anyPortCharter.goal.isNone ∧
    anyPortCharter.beam.scoreCut.isNone ∧ (anyPortCharter.restriction 0).isNone := by
  decide +kernel

lemma anyPortCharter_seeds :
    anyPortCharter.seeds twoPorts = .ok [Route.seed 1 40, Route.seed 2 40] := rfl

lemma anyPortCharter_prune : anyPortCharter.beam.prune 0 [Route.seed 1 40, Route.seed 2 40]
    = Route.rank [Route.seed 1 40, Route.seed 2 40] := by
  obtain ⟨-, -, -, -, hcut, -⟩ := anyPortCharter_eq
  refine Beam.prune_zero _ ?_
  intro cut hsome
  rw [hsome] at hcut
  cases hcut

/-- There is something to bring from the quay to the dock, and no goal to reach. -/
lemma anyPortCharter_fly : ∃ routes, anyPortCharter.fly twoPorts 1 0
    [Route.seed 1 40, Route.seed 2 40] = ⟨[⟨1, 2, 0⟩], routes, 1, .complete⟩ := by
  obtain ⟨-, -, -, hgoal, -, hfree⟩ := anyPortCharter_eq
  have hreport : anyPortCharter.report 0 [Route.seed 1 40, Route.seed 2 40] = ⟨1, 2, 0⟩ := by
    rw [Charter.report, anyPortCharter_prune, (Route.rank_perm _).length_eq]
    rfl
  have hsome : anyPortCharter.bestHops twoPorts
      (anyPortCharter.beam.prune 0 [Route.seed 1 40, Route.seed 2 40])
      (anyPortCharter.restriction 0) ≠ [] := by
    have hlegs : (anyPortCharter.candidatesOf twoPorts none (Route.seed 1 40)).isEmpty = false := by
      decide +kernel
    intro hnone
    rw [Option.isNone_iff_eq_none.1 hfree, anyPortCharter_prune] at hnone
    rw [Charter.bestHops_eq_nil.1 hnone _ (Route.mem_rank.2 List.mem_cons_self)] at hlegs
    cases hlegs
  refine ⟨_, hreport ▸ Charter.fly_of_not_someReaches 0 0 hsome ?_⟩
  rintro ⟨goal, hany, -⟩
  rw [hany] at hgoal
  cases hgoal

lemma anyPortCharter_search : (anyPortCharter.search twoPorts).reports = [⟨1, 2, 0⟩] ∧
    ∃ result, (anyPortCharter.search twoPorts).result = .ok result := by
  obtain ⟨hhops, -, hvia, -⟩ := anyPortCharter_eq
  obtain ⟨routes, hfly⟩ := anyPortCharter_fly
  rw [Charter.search_of_seeds anyPortCharter_seeds, hhops, hfly]
  refine ⟨rfl, ?_⟩
  dsimp only
  exact Charter.exists_conclude rfl (.inl hvia)

end AnyPort

/-- The run is found just as well with the origins in the other order. -/
theorem search_origins_perm_anyPort :
    anyPortCharter.origins = [1, 2] ∧ otherPortCharter.origins = [2, 1] ∧
      (∃ result, (anyPortCharter.search twoPorts).result = .ok result) ∧
      (otherPortCharter.search twoPorts).reports = [⟨1, 2, 0⟩] ∧
      (otherPortCharter.search twoPorts).result = (anyPortCharter.search twoPorts).result := by
  obtain ⟨-, horigins, -⟩ := anyPortCharter_eq
  have hsame : otherPortCharter = { anyPortCharter with origins := otherPortCharter.origins } := rfl
  have hperm : otherPortCharter.origins.Perm anyPortCharter.origins := by
    rw [horigins]
    exact List.Perm.swap 1 2 []
  obtain ⟨hreports, hfound⟩ := anyPortCharter_search
  have hsearch := Charter.search_origins_perm (g := twoPorts) hsame hperm
  rw [hsearch]
  exact ⟨horigins, rfl, hfound, hreports, rfl⟩

end TradeRun
