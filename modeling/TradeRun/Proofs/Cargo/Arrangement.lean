import TradeRun.Proofs.Cargo.Cutoff

/-!
The order in which lots are given.

Where the visits run out the load is what was found until then, so that it hangs on the order in
which the branches are entered. But the lots are sorted before the search, by three keys of which
the item is the last one.

* `Cargo.Stow.item_eq_of_compare_eq`: lots tie in the order of loading only if they are on one item;
* `Cargo.stowage_perm`: so lots on different items are loaded in one order, however they are given;
* `Cargo.fit_perm`: **the load does not depend on the order in which the lots are given**;
* `fit_perm_teaFirst`: silver and tea, the tea first.
-/

namespace TradeRun.Cargo

variable {lots others : List Lot}

/-- Lots that tie in the order of loading are on one item. -/
lemma Stow.item_eq_of_compare_eq {a b : Stow} (h : a.compare b = .eq) :
    a.lot.deal.item = b.lot.deal.item := by
  simp only [Stow.compare, Ordering.then_eq_eq, Std.compare_eq_iff_eq] at h
  exact h.2.2

/-- **Lots on different items are loaded in one order**, however they are given. -/
lemma stowage_perm (hitems : (lots.map fun lot => lot.deal.item).Nodup)
    (hperm : others.Perm lots) (limits : Limits) : stowage limits others = stowage limits lots := by
  refine mergeSort_isLE_eq_of_perm Stow.compare (hperm.filterMap (stow? limits)) ?_
  intro a ha b hb htie
  obtain ⟨lot, hlot, hstow⟩ := List.mem_filterMap.1 ha
  obtain ⟨lot', hlot', hstow'⟩ := List.mem_filterMap.1 hb
  have ha := of_stow?_eq_some hstow
  have hb := of_stow?_eq_some hstow'
  have hitem : lot.deal.item = lot'.deal.item := by
    have hsame := Stow.item_eq_of_compare_eq htie
    rwa [ha, hb] at hsame
  rw [ha, hb, List.inj_on_of_nodup_map hitems hlot hlot' hitem]

/-- **The load does not depend on the order in which the lots are given**, if no two are on one
item. Every limit comes to the same search, visit by visit until they run out, so to the same load:
the same trades in the same order with the same totals, or none in either case. -/
theorem fit_perm (hitems : (lots.map fun lot => lot.deal.item).Nodup) (hperm : others.Perm lots)
    (limits : Limits) :
    search limits (stowage limits others) = search limits (stowage limits lots) ∧
      fit? others limits = fit? lots limits := by
  have hstowage := stowage_perm hitems hperm limits
  constructor
  · rw [hstowage]
  · rw [fit?, fit?, hstowage]

/-- The load is the one that gains eighty also if the tea is given first. -/
theorem fit_perm_teaFirst :
    (silverAndTea.map fun lot => lot.deal.item).Nodup ∧
      silverAndTea.reverse.Perm silverAndTea ∧
      ∃ load, fit? silverAndTea.reverse smallPurse = some load ∧ load.gain = 80 := by
  have hitems : (silverAndTea.map fun lot => lot.deal.item).Nodup := by decide
  have hperm := List.reverse_perm silverAndTea
  obtain ⟨load, hload, hgain⟩ := fit?_silverAndTea
  obtain ⟨-, hfit⟩ := fit_perm hitems hperm smallPurse
  exact ⟨hitems, hperm, load, hfit.trans hload, hgain⟩

end TradeRun.Cargo
