import Mathlib.Tactic
import TradeRun.Search.Stops

/-!
What happens to the routes of a generation between two hops.

* `Route.rank_perm`: ranking keeps the routes;
* `Beam.prune_prefix`, `Beam.prune_ne_nil`: what is followed up is the upper end of the ranking, and
  something always is;
* `Beam.prune_zero`, `Beam.length_prune_succ_le`: the first hop follows up all routes, if it does
  not compare their scores, and a later one no more than the limit;
* `Charter.mem_goalOrder`, `Charter.reachesGoal_goalOrder`: the routes that end in the goal come
  first, so that the first route ends there as soon as any of them does.
-/

namespace TradeRun

/-! ### Ranking -/

lemma Route.rank_perm (routes : List Route) : (Route.rank routes).Perm routes :=
  List.mergeSort_perm _ _

@[simp] lemma Route.mem_rank {r : Route} {routes : List Route} :
    r ∈ Route.rank routes ↔ r ∈ routes :=
  (Route.rank_perm routes).mem_iff

@[simp] lemma Route.rank_eq_nil {routes : List Route} : Route.rank routes = [] ↔ routes = [] :=
  ⟨fun h => List.nil_perm.1 (h ▸ Route.rank_perm routes),
    fun h => List.perm_nil.1 (h ▸ Route.rank_perm routes)⟩

/-! ### The beam -/

lemma dropPoor_prefix (threshold : Float) (routes : List Route) :
    dropPoor threshold routes <+: routes := by
  cases routes with
  | nil => exact List.prefix_rfl
  | cons best rest =>
      have hprefix := List.reverse_prefix.2
        (List.dropWhile_suffix (l := rest.reverse) fun r => decide (r.score.toFloat < threshold))
      rw [List.reverse_reverse] at hprefix
      exact List.prefix_cons_inj best |>.2 hprefix

namespace Beam

variable (b : Beam) (hop : Nat) (routes : List Route)

lemma limited_prefix : b.limited hop routes <+: routes := by
  rw [limited]
  split
  · split_ifs
    · exact List.take_prefix _ _
    · exact List.prefix_rfl
  · exact List.prefix_rfl

lemma cut_prefix : b.cut hop routes <+: routes := by
  unfold cut
  split
  · split_ifs
    · exact dropPoor_prefix _ _
    · exact List.prefix_rfl
  · exact List.prefix_rfl

/-- What is followed up is the upper end of the ranking. -/
lemma prune_prefix : b.prune hop routes <+: Route.rank routes :=
  (b.cut_prefix hop _).trans (b.limited_prefix hop _)

lemma mem_of_mem_prune {r : Route} (h : r ∈ b.prune hop routes) : r ∈ routes :=
  Route.mem_rank.1 ((b.prune_prefix hop routes).subset h)

lemma length_prune_le : (b.prune hop routes).length ≤ routes.length := by
  rw [← (Route.rank_perm routes).length_eq]
  exact (b.prune_prefix hop routes).length_le

variable {b} {most : Nat}

/-! #### The limit -/

/-- The limit does not apply to the first hop. -/
lemma limited_zero : b.limited 0 routes = routes := by
  rw [limited]
  split <;> rfl

/-- The first hop follows up all routes if scores are not compared before it. -/
lemma prune_zero (h : ∀ cut ∈ b.scoreCut, 2 ≤ cut.fromHop) :
    b.prune 0 routes = Route.rank routes := by
  rw [prune, limited_zero]
  unfold cut
  split
  · next cut _ _ hcut _ =>
    rw [if_neg]
    have := h cut hcut
    omega
  · rfl

/-- Where there is no limit nothing is dropped for it. -/
lemma limited_of_maxRoutes_eq_none (h : b.maxRoutes = none) :
    b.limited hop routes = routes := by
  rw [limited, h]

/-- A limit that is not exceeded drops nothing. -/
lemma limited_of_length_le (hmost : b.maxRoutes = some most) (h : routes.length ≤ most) :
    b.limited hop routes = routes := by
  rw [limited, hmost]
  dsimp only
  split_ifs
  · exact List.take_of_length_le (h.trans (le_max_left _ _))
  · rfl

/-- From the second hop on no more routes are followed up than the limit says. -/
lemma length_prune_succ_le (hmost : b.maxRoutes = some most) (hpos : most ≠ 0) :
    (b.prune (hop + 1) routes).length ≤ most := by
  have hlimited : (b.limited (hop + 1) (Route.rank routes)).length ≤ most := by
    rw [limited, hmost]
    dsimp only
    rw [if_pos (Nat.le_add_left 1 hop), List.length_take]
    omega
  exact (b.cut_prefix (hop + 1) _).length_le.trans hlimited

variable (b) {routes}

lemma limited_ne_nil (h : routes ≠ []) : b.limited hop routes ≠ [] := by
  rw [limited]
  split
  · split_ifs
    · rw [Ne, List.take_eq_nil_iff]
      rintro (h0 | h0)
      · omega
      · exact h h0
    · exact h
  · exact h

lemma cut_ne_nil (h : routes ≠ []) : b.cut hop routes ≠ [] := by
  unfold cut
  split
  · split_ifs <;> simp [dropPoor]
  · exact h

/-- The best route is always followed up. -/
lemma prune_ne_nil (h : routes ≠ []) : b.prune hop routes ≠ [] :=
  b.cut_ne_nil hop (b.limited_ne_nil hop (Route.rank_eq_nil.not.2 h))

lemma prune_singleton (r : Route) : b.prune hop [r] = [r] := by
  have hprefix := b.prune_prefix hop [r]
  rw [Route.rank, List.mergeSort_singleton] at hprefix
  have hlength := List.length_pos_iff.2 (b.prune_ne_nil hop (List.cons_ne_nil r []))
  exact hprefix.eq_of_length (le_antisymm hprefix.length_le hlength)

end Beam

/-! ### The goal -/

lemma mem_goalFirst {g : Galaxy} {goal : SystemId} {routes : List Route} {r : Route} :
    r ∈ goalFirst g goal routes ↔ r ∈ routes := by
  rw [goalFirst, List.mem_append, List.mem_filter, List.mem_filter]
  cases r.reaches g goal <;> simp

/-- The first route ends in the goal as soon as any of them does. -/
lemma any_head?_goalFirst (g : Galaxy) (goal : SystemId) (routes : List Route) :
    (goalFirst g goal routes).head?.any (·.reaches g goal)
      ↔ ∃ r ∈ routes, r.reaches g goal := by
  rw [goalFirst]
  cases hreach : routes.filter (·.reaches g goal) with
  | nil =>
      have hnone : ∀ r ∈ routes, ¬ r.reaches g goal := List.filter_eq_nil_iff.1 hreach
      constructor
      · intro h
        rw [List.nil_append, Option.any_eq_true] at h
        obtain ⟨r, hr, hg⟩ := h
        exact absurd hg (hnone r (List.mem_filter.1 (List.mem_of_mem_head? hr)).1)
      · rintro ⟨r, hr, hg⟩
        exact absurd hg (hnone r hr)
  | cons r rest =>
      have hr : r ∈ routes.filter (·.reaches g goal) := hreach ▸ List.mem_cons_self
      rw [List.mem_filter] at hr
      simp only [List.cons_append, List.head?_cons, Option.any_some]
      exact ⟨fun h => ⟨r, hr⟩, fun _ => hr.2⟩

namespace Charter

variable {c : Charter} {g : Galaxy} {routes : List Route}

@[simp] lemma mem_goalOrder {r : Route} : r ∈ c.goalOrder g routes ↔ r ∈ routes := by
  rw [goalOrder]
  split
  · exact mem_goalFirst
  · exact Iff.rfl

/-- With the routes in order, the goal counts as reached when any route ends there. -/
lemma reachesGoal_goalOrder :
    c.reachesGoal g (c.goalOrder g routes)
      ↔ ∃ goal, c.goal = some goal ∧ ∃ r ∈ routes, r.reaches g goal := by
  rw [reachesGoal, goalOrder]
  cases hgoal : c.goal with
  | none => simp
  | some goal => simpa using any_head?_goalFirst g goal routes

end Charter

end TradeRun
