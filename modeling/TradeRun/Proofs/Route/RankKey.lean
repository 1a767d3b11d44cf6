import TradeRun.Proofs.Decimal.TotalOrder
import TradeRun.Proofs.Route.Order
import TradeRun.Proofs.Search.Ranking

/-!
The keys of rank.

What the order of rank sees of a route are four keys: the bits of its score, its jumps, its gain and
its stations.

* `Binary.bitsKey_inj`: all bit patterns have a place of their own, those that are no number too;
* `RankKey`, `RankKey.compare`: the four keys and their order, which is a linear one
  (`Std.TransCmp`, `Std.LawfulEqCmp`). `RankKey.sort_perm` says that keys are sorted alike in
  whatever order they come;
* `Route.compareRank_eq_compare_rankKey`: routes compare by rank as their keys do;
* `Route.map_rankKey_rank`: so that the keys of a ranking are those of its routes, sorted;
* `Route.rank_canonical`: **the order of rank is total and the ranking canonical**;
* `rank_canonical_oddScores`: two zeros and five scores that are no numbers.
-/

namespace TradeRun

/-- Each bit pattern has a place of its own. -/
lemma Binary.bitsKey_inj {a b : UInt64} : bitsKey a = bitsKey b ↔ a = b := by
  refine ⟨fun h => UInt64.toNat_inj.1 ?_, congrArg bitsKey⟩
  have ha := a.toNat_lt
  have hb := b.toNat_lt
  unfold bitsKey at h
  split_ifs at h <;> omega

/-! ### Keys -/

/-- What the order of rank sees of a route. -/
structure RankKey where
  /-- The bits of the score. -/
  score : UInt64
  jumps : Nat
  gain : Credits
  stations : List StationId

namespace RankKey

/-- The better key first: more score, then fewer jumps, then more gain, then the stations that sort
first. -/
def compare (a b : RankKey) : Ordering :=
  (Ord.compare (Binary.bitsKey b.score) (Binary.bitsKey a.score)).then <|
    (Ord.compare a.jumps b.jumps).then <|
      (Ord.compare b.gain a.gain).then (Ord.compare a.stations b.stations)

instance : Std.TransCmp compare :=
  inferInstanceAs (Std.TransCmp
    (compareLex (fun a b => compareOn (Binary.bitsKey ∘ score) b a)
      (compareLex (compareOn jumps)
        (compareLex (fun a b => compareOn gain b a) (compareOn stations)))))

/-- Keys that tie are one key. -/
instance : Std.LawfulEqCmp compare where
  eq_of_compare {a b} h := by
    obtain ⟨score, jumps, gain, stations⟩ := a
    obtain ⟨score', jumps', gain', stations'⟩ := b
    simp only [compare, Ordering.then_eq_eq, Std.compare_eq_iff_eq, Binary.bitsKey_inj] at h
    obtain ⟨rfl, rfl, rfl, rfl⟩ := h
    rfl

/-- The keys from the best to the worst. -/
def sort (keys : List RankKey) : List RankKey := keys.mergeSort fun a b => (a.compare b).isLE

/-- **Keys are sorted alike in whatever order they come.** -/
lemma sort_perm {keys others : List RankKey} (hperm : others.Perm keys) : sort others = sort keys :=
  mergeSort_isLE_eq_of_perm compare hperm fun _ _ _ _ => Std.LawfulEqCmp.eq_of_compare

end RankKey

namespace Route

/-- The keys of a route. -/
def rankKey (r : Route) : RankKey := ⟨r.score.bits, r.totalJumps, r.gain, r.stations⟩

variable {a b : Route}

/-- **Routes compare by rank as their keys do.** -/
lemma compareRank_eq_compare_rankKey (a b : Route) :
    compareRank a b = a.rankKey.compare b.rankKey := rfl

/-- Two routes tie just when their keys are the same. -/
lemma compareRank_eq_eq_iff_rankKey : compareRank a b = .eq ↔ a.rankKey = b.rankKey := by
  rw [compareRank_eq_compare_rankKey]
  exact Std.LawfulEqCmp.compare_eq_iff_eq

/-- A ranking begins with a best route. -/
lemma isLE_of_mem_head?_rank {routes : List Route} {best r : Route}
    (hbest : best ∈ (rank routes).head?) (hr : r ∈ routes) : (compareRank best r).isLE := by
  obtain ⟨rest, hrest⟩ := List.head?_eq_some_iff.1 hbest
  have hsorted := pairwise_rank routes
  have hmem : r ∈ rank routes := mem_rank.2 hr
  rw [hrest] at hsorted hmem
  rcases List.mem_cons.1 hmem with rfl | hmem
  · exact Std.ReflCmp.isLE_rfl
  · exact List.rel_of_pairwise_cons hsorted hmem

/-- **The keys of a ranking are those of its routes, sorted.** -/
lemma map_rankKey_rank (routes : List Route) :
    (rank routes).map rankKey = RankKey.sort (routes.map rankKey) :=
  List.map_mergeSort fun a _ b _ => by rw [compareRank_eq_compare_rankKey a b]

/-- **The order of rank is total and the ranking canonical.** Routes compare as their keys do, which
are in one line whatever the bits of the scores. The comparison turns around with its two routes and
is transitive, and two routes tie just when the bits of their scores, their jumps, their gains and
their stations are the same. A ranking holds the routes that were given, in order and with a best
one first; its keys are those of the routes, sorted; and in whatever order the routes come, place by
place it has the same keys. -/
theorem rank_canonical :
    (∀ a b, compareRank a b = a.rankKey.compare b.rankKey) ∧
    (∀ a b, compareRank a b = (compareRank b a).swap) ∧
    (∀ a b c, (compareRank a b).isLE → (compareRank b c).isLE → (compareRank a c).isLE) ∧
    (∀ a b, compareRank a b = .eq ↔ a.score.bits = b.score.bits ∧ a.totalJumps = b.totalJumps ∧
      a.gain = b.gain ∧ a.stations = b.stations) ∧
    (∀ routes, (rank routes).Perm routes ∧
      (rank routes).Pairwise (fun a b => (compareRank a b).isLE) ∧
      (rank routes).map rankKey = RankKey.sort (routes.map rankKey) ∧
        ∀ best ∈ (rank routes).head?, ∀ r ∈ routes, (compareRank best r).isLE) ∧
    ∀ routes others, others.Perm routes →
      (rank others).map rankKey = (rank routes).map rankKey := by
  refine ⟨compareRank_eq_compare_rankKey, fun a b => Std.OrientedCmp.eq_swap,
    fun a b c hab hbc => Std.TransCmp.isLE_trans hab hbc, fun a b => ?_,
    fun routes => ⟨rank_perm routes, pairwise_rank routes, map_rankKey_rank routes, ?_⟩,
    fun routes others hperm => ?_⟩
  · rw [compareRank_eq_eq_iff_rankKey, rankKey, rankKey, RankKey.mk.injEq]
  · exact fun best hbest r hr => isLE_of_mem_head?_rank hbest hr
  · rw [map_rankKey_rank, map_rankKey_rank, RankKey.sort_perm (hperm.map rankKey)]

end Route

/-- Routes that differ in their scores only, the best one first: no numbers with three different
bit patterns, the two zeros, and no numbers with the sign set, of which the first is a missing
score. -/
def oddScores : List Route :=
  [⟨0x7FFFFFFFFFFFFFFF⟩, .double (0.0 / 0.0), ⟨0x7FF0000000000001⟩, .double 0.0, .double (-0.0),
    .missing, ⟨0xFFFFFFFFFFFFFFFF⟩].map fun score => { Route.seed 1 100 with score }

/-- No two of these routes tie, and turned around they are ranked the same. -/
theorem rank_canonical_oddScores :
    oddScores.reverse.Perm oddScores ∧
      oddScores.Pairwise (fun a b => Route.compareRank a b = .lt) ∧
      (Route.rank oddScores.reverse).map Route.rankKey = oddScores.map Route.rankKey := by
  have hordered : oddScores.Pairwise fun a b => Route.compareRank a b = .lt := by decide +kernel
  have hranked : Route.rank oddScores = oddScores :=
    List.mergeSort_of_pairwise (hordered.imp fun h => by rw [h]; rfl)
  have hperm := List.reverse_perm oddScores
  obtain ⟨-, -, -, -, -, hsame⟩ := Route.rank_canonical
  have hkeys := hsame oddScores oddScores.reverse hperm
  rw [hranked] at hkeys
  exact ⟨hperm, hordered, hkeys⟩

end TradeRun
