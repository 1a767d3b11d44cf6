import TradeRun.Proofs.Cargo.Cutoff

/-!
The best load.

* `Manifest.Optimal`: a manifest that gains most, of these costs least, of these has the fewest
  units, and of these takes the most of what is loaded first;
* `quantityAt_map`: the quantities of a manifest in the order of loading;
* `exists_before_of_lt`: manifests whose quantities compare lexicographically differ first in a lot
  of which the greater one takes more;
* `fit_optimal`: **the load that is fitted is the best one**, as long as the visits of the search
  last.
-/

namespace TradeRun

/-- The best manifest that fits: none has better totals, and each other one with the same totals has
less of the first lot, in the order of loading, in which they differ. -/
structure Manifest.Optimal {lots : List Lot} (limits : Limits) (q : Manifest lots) : Prop where
  fits : q.Fits limits
  best : ∀ r : Manifest lots, r.Fits limits → q.totals.Better r.totals ∨ q.totals = r.totals
  first : ∀ r : Manifest lots, r.Fits limits → q.totals = r.totals → r ≠ q →
    ∃ i, (∀ j, Manifest.Before lots j i → r j = q j) ∧ r i < q i

namespace Cargo

variable {limits : Limits} {lots : List Lot}

/-! ### The order of manifests -/

/-- Nothing is loaded of lots that are not in the order of loading. -/
lemma eq_zero_of_not_mem {q : Manifest lots} (h : q.Fits limits) {i : Fin lots.length}
    (hi : i ∉ loadingOrder limits lots) : q i = 0 :=
  h.eq_zero_of_not_loadable i fun hloadable => hi (mem_loadingOrder.2 hloadable)

/-- The quantity at a place of the order of loading is that of the lot which is there. -/
lemma quantityAt_map (order : List (Fin lots.length)) (q : Manifest lots) (place : Nat) :
    quantityAt (order.map q).reverse place = (order[place]?.map q).getD 0 := by
  rw [quantityAt, List.reverse_reverse, List.getD_eq_getElem?_getD, List.getElem?_map]

/-- A lot comes before another one in the list of the order of loading if it is loaded before it. -/
lemma lt_of_before {place other : Nat} {i j : Fin lots.length}
    (hi : (loadingOrder limits lots)[place]? = some i)
    (hj : (loadingOrder limits lots)[other]? = some j) (h : Manifest.Before lots j i) :
    other < place := by
  obtain ⟨hplace, rfl⟩ := List.getElem?_eq_some_iff.1 hi
  obtain ⟨hother, rfl⟩ := List.getElem?_eq_some_iff.1 hj
  have hsorted := List.pairwise_iff_getElem.1 (pairwise_loadingOrder limits lots)
  rcases lt_trichotomy other place with hlt | rfl | hgt
  · exact hlt
  · exact absurd h h.asymm
  · exact absurd (hsorted place other hplace hother hgt) h.asymm

/-- **Quantities that compare lexicographically** differ first in a lot of which the greater ones
have more. -/
lemma exists_before_of_lt {q r : Manifest lots} (hq : q.Fits limits) (hr : r.Fits limits)
    (h : toLex (quantityAt ((loadingOrder limits lots).map r).reverse)
      < toLex (quantityAt ((loadingOrder limits lots).map q).reverse)) :
    ∃ i, (∀ j, Manifest.Before lots j i → r j = q j) ∧ r i < q i := by
  obtain ⟨place, hsame, hless⟩ := h
  simp only [Pi.toLex_apply, quantityAt_map] at hsame hless
  cases hplace : (loadingOrder limits lots)[place]? with
  | none => simp [hplace] at hless
  | some i =>
      refine ⟨i, fun j hbefore => ?_, by simpa [hplace] using hless⟩
      by_cases hj : j ∈ loadingOrder limits lots
      · obtain ⟨other, hother⟩ := List.mem_iff_getElem?.1 hj
        simpa [hother] using hsame other (lt_of_before hplace hother hbefore)
      · rw [eq_zero_of_not_mem hq hj, eq_zero_of_not_mem hr hj]

/-- Manifests with the same quantities in the order of loading are the same. -/
lemma manifest_ext {q r : Manifest lots} (hq : q.Fits limits) (hr : r.Fits limits)
    (h : quantityAt ((loadingOrder limits lots).map r).reverse
      = quantityAt ((loadingOrder limits lots).map q).reverse) : r = q := by
  funext i
  by_cases hi : i ∈ loadingOrder limits lots
  · obtain ⟨place, hplace⟩ := List.mem_iff_getElem?.1 hi
    simpa [quantityAt_map, hplace] using congrFun h place
  · rw [eq_zero_of_not_mem hq hi, eq_zero_of_not_mem hr hi]

/-! ### The search -/

/-- Nothing that is as good as no load comes before it. -/
lemma foreruns_start (stows : List Stow) :
    Found.Foreruns {} (Choice.Leads stows (Choice.start limits)) := by
  intro d hd hbest
  have hunits : d.totals.units = (Choice.start limits).totals.units :=
    (congrArg Sums.units hbest).symm
  rw [(hd.eq_of_units_eq hunits).2]
  exact le_rfl

/-- A search whose visits last covers every manifest that fits. -/
lemma explore_covers_manifest
    (hvisits : (explore (stowage limits lots) (.start limits) {}).visits ≤ visitBudget)
    {r : Manifest lots} (hr : r.Fits limits) :
    (explore (stowage limits lots) (.start limits) {}).best.Better r.totals ∨
      (explore (stowage limits lots) (.start limits) {}).best = r.totals ∧
        toLex (quantityAt ((loadingOrder limits lots).map r).reverse)
          ≤ toLex (explore (stowage limits lots) (.start limits) {}).quantities := by
  obtain ⟨d, hd, hquantities, htotals⟩ := hr.exists_leads
  have hcovered : (explore (stowage limits lots) (.start limits) {}).Covers d :=
    explore_covers (stowage_declining limits lots) hvisits (foreruns_start _) d hd
  rwa [Found.Covers, hquantities, htotals] at hcovered

/-! ### The load -/

/-- A manifest with the totals and the quantities of the best load is optimal, as long as the visits
last. -/
lemma optimal_of_explore {q : Manifest lots}
    (hvisits : (explore (stowage limits lots) (.start limits) {}).visits ≤ visitBudget)
    (hfits : q.Fits limits)
    (htotals : q.totals = (explore (stowage limits lots) (.start limits) {}).best)
    (hquantities : quantityAt ((loadingOrder limits lots).map q).reverse
      = (explore (stowage limits lots) (.start limits) {}).quantities) : q.Optimal limits := by
  have hcovered : ∀ r : Manifest lots, r.Fits limits → q.totals.Better r.totals ∨
      q.totals = r.totals ∧ toLex (quantityAt ((loadingOrder limits lots).map r).reverse)
        ≤ toLex (quantityAt ((loadingOrder limits lots).map q).reverse) := by
    rw [htotals, hquantities]
    exact fun r hr => explore_covers_manifest hvisits hr
  refine ⟨hfits, fun r hr => (hcovered r hr).imp_right And.left, fun r hr hsame hne => ?_⟩
  rcases hcovered r hr with hbetter | ⟨-, hle⟩
  · exact absurd hbetter (hsame ▸ Sums.Better.irrefl _)
  · have hlt := hle.lt_of_ne fun heq => hne (manifest_ext hfits hr heq)
    exact exists_before_of_lt hfits hr hlt

/-- **The load that is fitted is the best one**, as long as the visits of the search last: the load
of an optimal manifest. Where there is none nothing else than the empty manifest fits. That the
gains fit says that the arithmetic of the search is exact. -/
theorem fit_optimal (lots : List Lot) (limits : Limits) (hgains : GainsFit limits lots)
    (hvisits : (search limits (stowage limits lots)).visits ≤ visitBudget) :
    (∀ load, fit? lots limits = some load →
      ∃ q : Manifest lots, load.Carries q ∧ load.gain.toInt = q.gain ∧ q.Optimal limits) ∧
      (fit? lots limits = none → ∀ q : Manifest lots, q.Fits limits → q = 0) := by
  constructor
  · intro load hload
    obtain ⟨q, hfits, hcarries, hbest, hquantities⟩ := exists_manifest_of_fit? hload
    obtain ⟨lot, -, hlot⟩ := exists_obtainable_of_fit? hload
    have hgain := hcarries.gain_counts.toInt_eq (hgains.fits_gain hfits)
    have hsearch := whole_search hgains (Int64.le_of_lt hlot.credits_pos)
    have htotals : q.totals = (search limits (stowage limits lots)).whole.best := by
      rw [Manifest.totals, ← hgain, ← hcarries.cost_eq, ← hcarries.units_eq, Tally.whole, hbest]
      rfl
    rw [hsearch] at htotals hquantities
    exact ⟨q, hcarries, hgain, optimal_of_explore (hsearch ▸ hvisits) hfits htotals hquantities⟩
  · intro hnone q hq
    funext i
    refine hq.eq_zero_of_not_loadable i fun hi => ?_
    exact (fit?_eq_none_iff hgains).1 hnone _ (List.get_mem lots i) (loadable_iff_obtainable.1 hi)

/-- Two units of tea gain more than one of silver, which is all that the money would buy. -/
theorem fit_optimal_silverAndTea :
    GainsFit smallPurse silverAndTea ∧
      (search smallPurse (stowage smallPurse silverAndTea)).visits ≤ visitBudget ∧
      ∃ load, fit? silverAndTea smallPurse = some load ∧ load.gain = 80 ∧
        ∃ q : Manifest silverAndTea,
          load.Carries q ∧ load.gain.toInt = q.gain ∧ q.Optimal smallPurse := by
  have hvisits : (search smallPurse (stowage smallPurse silverAndTea)).visits ≤ visitBudget := by
    rw [stowage_silverAndTea]
    decide +kernel
  obtain ⟨load, hload, hgain⟩ := fit?_silverAndTea
  exact ⟨gainsFit_silverAndTea, hvisits, load, hload, hgain,
    (fit_optimal silverAndTea smallPurse gainsFit_silverAndTea hvisits).1 load hload⟩

end Cargo

end TradeRun
