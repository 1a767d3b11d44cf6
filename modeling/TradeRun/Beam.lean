import TradeRun.Route

/-!
How many routes are followed up.

* `Beam.limited`: from the second hop on at most so many routes are kept;
* `Beam.cut`: from a given hop on, routes whose score falls below a percentage of the best one are
  dropped, as long as there are more than ten;
* `Beam.prune`: both, on the routes in order of rank. The best route always stays;
* `Beam.dropped`: how many routes that leaves out.
-/

namespace TradeRun

/-- More routes than this must be there before scores are compared (`SCORE_CUT_MIN_ROUTES`). -/
def scoreCutFloor : Nat := 10

/-- Drops routes whose score is below a percentage of the best one. -/
structure ScoreCut where
  percent : Float
  /-- The number of the first hop, counted from one, before which routes are dropped. -/
  fromHop : Nat

/-- The two policies; either may be absent (`BeamPolicy`). -/
structure Beam where
  maxRoutes : Option Nat := none
  scoreCut : Option ScoreCut := none

/-- The score below which routes are dropped, for the score of the best one. -/
def ScoreCut.threshold (cut : ScoreCut) (best : Float) : Float := best * cut.percent / 100.0

/-- The routes without those at the end whose score is below a threshold; the first one stays. -/
def dropPoor (threshold : Float) : List Route → List Route
  | [] => []
  | best :: rest => best :: (rest.reverse.dropWhile fun r => r.score.toFloat < threshold).reverse

namespace Beam

variable (b : Beam)

/-- The routes kept for a hop, numbered from zero, by their number alone. -/
def limited (hop : Nat) (ranked : List Route) : List Route :=
  match b.maxRoutes with
  | some limit => if 1 ≤ hop then ranked.take (max limit 1) else ranked
  | none => ranked

/-- The routes kept for a hop, numbered from zero, by their scores. -/
def cut (hop : Nat) (ranked : List Route) : List Route :=
  match b.scoreCut, ranked with
  | some c, best :: _ =>
    if c.fromHop ≤ hop + 1 ∧ scoreCutFloor < ranked.length then
      dropPoor (c.threshold best.score.toFloat) ranked
    else ranked
  | _, _ => ranked

/-- The routes to be followed up in a hop, numbered from zero, the best one first
(`BeamPolicy.apply`). -/
def prune (hop : Nat) (routes : List Route) : List Route :=
  b.cut hop (b.limited hop (Route.rank routes))

/-- How many routes are not followed up in a hop, numbered from zero. -/
def dropped (hop : Nat) (routes : List Route) : Nat := routes.length - (b.prune hop routes).length

end Beam

end TradeRun
