import TradeRun.Proofs.Search.Pruning

/-!
The two policies of a beam, each on its own and both together.

The limit goes first, and what it leaves is what the cut by scores looks at. Both take routes off
the lower end of one ranking, so that of two such results one is the upper end of the other.

* `Beam.limitAlone`, `Beam.cutAlone`: a beam with one of its policies only;
* `Beam.cut_prefix_of_prefix`: of the upper end of a ranking no more is kept than of the whole, as
  long as there are routes enough to compare their scores;
* `Beam.Spares`: the limit leaves too few routes for that, and more than the cut by scores would;
* `Beam.prune_both_iff`: **just then does the limit keep a route that the cut by scores alone
  drops**, whereas the cut by scores never keeps a route that the limit alone drops;
* `prune_both_spares`: ten routes of which the cut by scores alone keeps six.
-/

namespace TradeRun

/-! ### The upper end of a list -/

/-- From the upper end of a list no less is dropped than from the whole. -/
lemma isPrefix_rdropWhile {α : Type} {p : α → Bool} {kept l : List α} (h : kept <+: l) :
    kept.rdropWhile p <+: l.rdropWhile p := by
  obtain ⟨lost, rfl⟩ := h
  induction lost using List.reverseRecOn with
  | nil => rw [List.append_nil]
  | append_singleton lost a ih =>
      rw [← List.append_assoc]
      by_cases ha : p a
      · rwa [List.rdropWhile_concat_pos _ _ _ ha]
      · rw [List.rdropWhile_concat_neg _ _ _ ha]
        calc kept.rdropWhile p
            <+: kept := List.rdropWhile_prefix p kept
          _ <+: kept ++ lost ++ [a] := by
            rw [List.append_assoc]
            exact List.prefix_append _ _

lemma dropPoor_prefix_of_prefix (threshold : Float) {kept routes : List Route}
    (h : kept <+: routes) : dropPoor threshold kept <+: dropPoor threshold routes := by
  cases kept with
  | nil => exact List.nil_prefix
  | cons best rest =>
      obtain ⟨lost, rfl⟩ := h
      rw [List.cons_append, dropPoor_cons, dropPoor_cons]
      exact (List.prefix_cons_inj best).2 (isPrefix_rdropWhile (List.prefix_append _ _))

namespace Beam

variable (b : Beam) (hop : Nat) (routes : List Route)

/-! ### One policy -/

/-- The beam that limits the number of routes and does not compare their scores. -/
def limitAlone : Beam := { b with scoreCut := none }

/-- The beam that compares the scores of the routes and does not limit their number. -/
def cutAlone : Beam := { b with maxRoutes := none }

lemma prune_cutAlone : b.cutAlone.prune hop routes = b.cut hop (Route.rank routes) := rfl

/-- The limit leaves too few routes for their scores to be compared, and more of them than the cut
by scores would leave. -/
def Spares : Prop :=
  (b.limitAlone.prune hop routes).length ≤ scoreCutFloor ∧
    (b.cutAlone.prune hop routes).length < (b.limitAlone.prune hop routes).length

/-! ### Both policies -/

variable {b hop routes}

/-- Of too few routes to compare their scores all are kept. -/
lemma cut_of_length_le (h : routes.length ≤ scoreCutFloor) : b.cut hop routes = routes := by
  cases hcut : b.scoreCut with
  | none => simp only [cut, hcut]
  | some c =>
      cases routes with
      | nil => simp only [cut, hcut]
      | cons best rest => rw [cut_cons hcut, if_neg fun hcompares => not_lt.2 h hcompares.2]

/-- Of the upper end of a ranking no more is kept than of the whole, as long as there are routes
enough to compare their scores. The best route, by which the threshold goes, is in both. -/
lemma cut_prefix_of_prefix {kept : List Route} (h : kept <+: routes)
    (hmany : scoreCutFloor < kept.length) : b.cut hop kept <+: b.cut hop routes := by
  cases hcut : b.scoreCut with
  | none => simpa only [cut, hcut] using h
  | some c =>
      cases kept with
      | nil => exact absurd hmany (Nat.not_lt_zero _)
      | cons best rest =>
          have hmany' := hmany.trans_le h.length_le
          obtain ⟨lost, rfl⟩ := h
          rw [List.cons_append] at hmany' ⊢
          rw [cut_cons hcut, cut_cons hcut]
          by_cases hhop : c.fromHop ≤ hop + 1
          · rw [if_pos ⟨hhop, hmany⟩, if_pos ⟨hhop, hmany'⟩]
            exact dropPoor_prefix_of_prefix _ (List.prefix_append (best :: rest) lost)
          · rw [if_neg fun hcompares => hhop hcompares.1, if_neg fun hcompares => hhop hcompares.1]
            exact List.prefix_append (best :: rest) lost

variable (b hop routes)

/-- Both policies keep no more than the limit alone. -/
lemma prune_prefix_limitAlone : b.prune hop routes <+: b.limitAlone.prune hop routes :=
  b.cut_prefix hop _

variable {b hop routes} in
/-- Where the limit leaves too few routes to compare their scores, both policies together are as the
limit alone. -/
lemma prune_eq_limitAlone (hfew : (b.limitAlone.prune hop routes).length ≤ scoreCutFloor) :
    b.prune hop routes = b.limitAlone.prune hop routes :=
  cut_of_length_le hfew

/-- **Each policy drops what it drops on its own,** but for one case. What both of them keep is
always kept by the limit alone. It is kept by the cut by scores alone as well, unless the limit
leaves too few routes for their scores to be compared, and more of them than the cut by scores
would leave. -/
theorem prune_both_iff (b : Beam) (hop : Nat) (routes : List Route) :
    b.prune hop routes <+: b.limitAlone.prune hop routes ∧
      (b.prune hop routes <+: b.cutAlone.prune hop routes ↔ ¬ b.Spares hop routes) := by
  refine ⟨b.prune_prefix_limitAlone hop routes, ?_⟩
  constructor
  · rintro hkept ⟨hfew, hmore⟩
    rw [prune_eq_limitAlone hfew] at hkept
    exact hkept.length_le.not_gt hmore
  · intro hspares
    by_cases hfew : (b.limitAlone.prune hop routes).length ≤ scoreCutFloor
    · have hless := not_lt.1 fun hmore => hspares ⟨hfew, hmore⟩
      rw [prune_eq_limitAlone hfew]
      exact List.prefix_of_prefix_length_le (b.limitAlone.prune_prefix hop routes)
        (b.cutAlone.prune_prefix hop routes) hless
    · exact cut_prefix_of_prefix (b.limited_prefix hop (Route.rank routes)) (not_le.1 hfew)

end Beam

/-! #### Ten routes of twelve -/

/-- At most ten routes, and from the second hop on no route with less than half of the best
score. -/
def tenBeam : Beam := { maxRoutes := some 10, scoreCut := some ⟨50.0, 2⟩ }

/-- Of the twelve routes the limit leaves ten, too few to compare their scores, and with them four
that have less than half of the best score. The cut by scores alone drops these. -/
theorem prune_both_spares :
    ¬ tenBeam.prune 1 (scoredRoutes twelveScores)
        ⊆ tenBeam.cutAlone.prune 1 (scoredRoutes twelveScores) := by
  have hranked := rank_scoredRoutes_twelveScores
  have hboth : tenBeam.prune 1 (scoredRoutes twelveScores)
      = scoredRoutes (twelveScores.take 10) := by
    rw [Beam.prune, hranked]
    rfl
  have halone : tenBeam.cutAlone.prune 1 (scoredRoutes twelveScores)
      = scoredRoutes (twelveScores.take 6) := by
    rw [Beam.prune_cutAlone, hranked]
    with_unfolding_all rfl
  rw [hboth, halone]
  intro hsubset
  have hpoor : ∃ r ∈ scoredRoutes (twelveScores.take 10), r.score.toFloat < 50.0 := by
    decide +kernel
  have hrich : ∀ r ∈ scoredRoutes (twelveScores.take 6), ¬ r.score.toFloat < 50.0 := by
    decide +kernel
  obtain ⟨r, hr, hlt⟩ := hpoor
  exact hrich r (hsubset hr) hlt

end TradeRun
