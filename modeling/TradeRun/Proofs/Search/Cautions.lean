import TradeRun.Proofs.Charter.Drawing
import TradeRun.Proofs.Search.Flight

/-!
The words of caution of a search: they are there just when its routes fall short of the request.

* `Caution.joined_eq_empty`: the text is empty just when there is no caution;
* `Charter.endCaution_fly_eq_nil`: a voyage is passed over in silence just when it flew all hops or
  reached the goal;
* `Charter.Concluded.caution_eq_empty`: the text of a result is empty just when the voyage ended
  well and all routes call at every place;
* `Charter.search_caution`: **no silent shortfall**, and what a route without a caution amounts to.
-/

namespace TradeRun

/-! ### The text -/

lemma Caution.message_ne_empty (caution : Caution) : caution.message ≠ "" := by
  intro h
  cases caution with
  | deadEnd places hop =>
      cases places with
      | none => exact absurd (String.append_eq_empty_iff.1 h).1 (by decide)
      | some places => exact absurd (String.append_eq_empty_iff.1 h).2 (by decide)
  | shortfall matched => exact absurd (String.append_eq_empty_iff.1 h).2 (by decide)

/-- The text is empty just when there is no caution. -/
lemma Caution.joined_eq_empty {cautions : List Caution} :
    "\n".intercalate (cautions.map Caution.message) = "" ↔ cautions = [] := by
  cases cautions with
  | nil => simp
  | cons first rest =>
      have hfirst := first.message_ne_empty
      cases rest with
      | nil => simpa using hfirst
      | cons second rest =>
          rw [List.map_cons, List.map_cons, String.intercalate_cons_cons,
            String.append_eq_empty_iff]
          simp [hfirst]

namespace Charter

variable {c : Charter} {g : Galaxy}

/-! ### The ending -/

lemma endCaution_eq_nil {v : Voyage} :
    endCaution g v = [] ↔ ∀ restriction, v.ending ≠ .deadEnd restriction := by
  rw [endCaution]
  cases v.ending <;> simp

/-- A voyage is passed over in silence just when it flew all hops or reached the goal. -/
lemma endCaution_fly_eq_nil {left hop : Nat} {routes : List Route} :
    endCaution g (c.fly g left hop routes) = [] ↔
      (c.fly g left hop routes).completed = hop + left ∨
        (c.fly g left hop routes).ending = .goal := by
  rw [endCaution_eq_nil]
  cases hending : (c.fly g left hop routes).ending with
  | complete => simp [completed_of_fly_complete hending]
  | goal => simp
  | deadEnd restriction =>
      have hlt := (of_fly_deadEnd hending).1
      simp [hlt.ne]

/-- The text of a result is empty just when the voyage ended well and all routes call at every
place. -/
lemma Concluded.caution_eq_empty {v : Voyage} {covered : Covered} {result : RunResult}
    (h : Concluded c g v covered result) (hne : v.routes ≠ []) :
    result.caution = "" ↔ endCaution g v = [] ∧
      ∀ r ∈ result.routes, ∀ place, c.via.contains place → r.CallsAt g c.viaStart place := by
  rw [h.caution_eq, Caution.joined_eq_empty, List.append_eq_nil_iff, List.map_eq_nil_iff,
    Option.toList_eq_nil_iff, shortfall_eq_none h.kept hne]
  simp only [h.mem_routes]

/-! ### The destination -/

/-- A route with all hops ends at one of the stations at which the run must end. -/
lemma Drawn.ends_in_destinations {r : Request} {n : Numbers} {avoided : Avoided} {set : PlaceSet}
    {route : Route} (hdrawn : Drawn g r n avoided c) (hset : c.destinations = some set)
    (h : Flown c g c.hops route) : set.contains (.station route.last) := by
  obtain ⟨hop, hhop⟩ : ∃ hop, c.hops = hop + 1 := Nat.exists_eq_add_one.2 hdrawn.hops_pos
  rw [hhop] at h
  obtain ⟨s, hs, hmatches⟩ := h.last_matches (restriction_of_last_hop hset hhop.symm)
  obtain ⟨place, hplace, hcovers⟩ := PlaceSet.matches_iff.1 hmatches
  rcases hdrawn.destinations_eq with ⟨-, hnone⟩ | ⟨-, stations, -, hstations⟩
  · rw [hset] at hnone
    cases hnone
  · obtain rfl := Option.some.inj (hset.symm.trans hstations)
    obtain ⟨id, -, rfl⟩ := List.mem_map.1 (PlaceSet.contains_ofList.1 hplace)
    have hid : s.id = id := beq_iff_eq.1 hcovers
    rwa [← Galaxy.id_of_station? hs, hid]

/-! ### The search -/

/-- **No silent shortfall.** The search for a charter that was drawn gives some route. Its text of
caution is empty just when all hops are flown or the goal is reached, and every route calls at every
place to call at, from the first stop after a named origin on. And where there is neither a caution
nor a goal reached, every route has all hops and ends where the run must end. -/
theorem search_caution {r : Request} {result : RunResult} (hdraw : draw g r = .ok c)
    (h : (c.search g).result = .ok result) :
    result.routes ≠ [] ∧
      (result.caution = "" ↔
        (result.hopsCompleted = c.hops ∨ result.goalReached) ∧
          ∀ route ∈ result.routes, ∀ place, c.via.contains place →
            route.CallsAt g r.origin.isSome.toNat place) ∧
      (result.caution = "" → ¬ result.goalReached → ∀ route ∈ result.routes,
        route.hopCount = c.hops ∧
          ∀ set, c.destinations = some set → set.contains (.station route.last)) := by
  obtain ⟨n, avoided, hdrawn⟩ := draw_eq_ok.1 hdraw
  obtain ⟨seeds, hseeds, covered, hresult⟩ := search_eq_ok h
  have hcaution : result.caution = "" ↔ (result.hopsCompleted = c.hops ∨ result.goalReached) ∧
      ∀ route ∈ result.routes, ∀ place, c.via.contains place →
        route.CallsAt g r.origin.isSome.toNat place := by
    rw [hresult.caution_eq_empty (fly_routes_ne_nil c.hops 0 (of_seeds_eq_ok hseeds).1),
      endCaution_fly_eq_nil, hresult.hopsCompleted_eq, hresult.goalReached_iff, Nat.zero_add,
      viaStart, hdrawn.isSome_origin]
  refine ⟨search_routes_ne_nil h, hcaution, fun hempty hgoal route hroute => ?_⟩
  have hflown := search_flown h route hroute
  have hall : result.hopsCompleted = c.hops := (hcaution.1 hempty).1.resolve_right hgoal
  rw [hall] at hflown
  exact ⟨hflown.hopCount_eq, fun set hset => hdrawn.ends_in_destinations hset hflown⟩

end Charter

/-- The round trip gives no cause for caution: every route calls at the dock, has both hops and ends
at the quay. -/
theorem search_caution_roundTrip :
    ∃ c result, Charter.draw twoPorts roundTrip = .ok c ∧
      (c.search twoPorts).result = .ok result ∧ result.caution = "" ∧ ¬ result.goalReached ∧
        ∀ route ∈ result.routes,
          (∀ place, c.via.contains place → route.CallsAt twoPorts 1 place) ∧
            route.hopCount = c.hops ∧
              ∀ set, c.destinations = some set → set.contains (.station route.last) := by
  obtain ⟨result, hresult, _, -, hview⟩ := (plan twoPorts roundTrip).exists_route
    (p := fun result _ => result.caution == "" && !result.goalReached) (by decide +kernel)
  rw [Bool.and_eq_true, beq_iff_eq, Bool.not_eq_true'] at hview
  obtain ⟨c, hdraw, hsearch⟩ := plan_eq_ok hresult
  obtain ⟨-, hcaution, hends⟩ := Charter.search_caution hdraw hsearch
  have hgoal : ¬ result.goalReached := by simp [hview.2]
  exact ⟨c, result, hdraw, hsearch, hview.1, hgoal, fun route hroute =>
    ⟨(hcaution.1 hview.1).2 route hroute, hends hview.1 hgoal route hroute⟩⟩

end TradeRun
