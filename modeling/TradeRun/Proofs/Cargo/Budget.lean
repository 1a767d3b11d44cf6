import TradeRun.Proofs.Cargo.Cutoff

/-!
How many visits the search for a load makes.

A visit is counted before the budget is looked at, and the loops over quantities go on when it is
spent. So a few more visits are made. A loop that is open at that moment has as many quantities left
to try as it has taken units, and the units that all loops have taken are in one hold: together the
loops add no more visits than there is space for units.

* `descend_of_budget_le`: where the budget is spent a branch is visited at its top and left;
* `visits_tryQuantities_le_add`: a loop then adds no more than a visit for each quantity that it has
  left to try;
* `visits_tryQuantities_le`, `visits_descend_le`: the visits up to the end of a loop and up to the
  end of a branch;
* `search_budget`: **the budget bounds the visits**, but for those that the open loops add.
-/

namespace TradeRun.Cargo

section Search

variable {s : Stow} {rest : List Stow} {index : Nat} {n : Node} {t : Tally} {next : Credits}

lemma Tally.visits_visit (t : Tally) (totals : Totals) :
    (t.visit totals).visits = t.visits + 1 := by
  rw [visit]
  split <;> rfl

lemma Tally.visits_put (t : Tally) (index quantity : Nat) :
    (t.put index quantity).visits = t.visits := rfl

/-! ### When the budget is spent -/

/-- Where the budget is spent a branch is visited at its top and left. -/
lemma descend_of_budget_le (h : visitBudget ≤ t.visits) :
    descend rest index n t = t.visit n.totals := by
  cases rest with
  | nil => rfl
  | cons s rest =>
      have hspent : visitBudget < (t.visit n.totals).visits := by
        rw [t.visits_visit]
        exact Nat.lt_succ_of_le h
      exact if_pos (.inr (.inl hspent))

/-- A loop that goes on when the budget is spent adds no more than a visit for each quantity that it
has left to try. -/
lemma visits_tryQuantities_le_add {deeper : Nat} (quantity : Nat) (h : visitBudget ≤ t.visits) :
    (tryQuantities (descend rest deeper) next s index n quantity t).visits
      ≤ t.visits + (quantity + 1) := by
  induction quantity generalizing t with
  | zero =>
      rw [tryQuantities]
      split_ifs
      · exact Nat.le_add_right _ _
      · have hput : visitBudget ≤ (t.put index 0).visits := h
        rw [descend_of_budget_le hput, Tally.visits_visit, t.visits_put]
  | succ quantity ih =>
      rw [tryQuantities]
      split_ifs
      · exact Nat.le_add_right _ _
      · have hput : visitBudget ≤ (t.put index (quantity + 1)).visits := h
        have hvisit := (t.put index (quantity + 1)).visits_visit (n.take s (quantity + 1)).totals
        rw [t.visits_put] at hvisit
        have hafter := ih (t := (t.put index (quantity + 1)).visit
          (n.take s (quantity + 1)).totals) (by omega)
        rw [descend_of_budget_le hput]
        omega

/-! ### Up to that moment -/

/-- The visits up to the end of a loop over quantities of a lot. The units of a quantity are missing
from the space that bounds the visits deeper in the tree, and as many quantities are left to try
after it. -/
lemma visits_tryQuantities_le {deeper : Nat} (quantity : Nat)
    (hdeeper : ∀ (n : Node) (t : Tally), t.visits < visitBudget →
      (descend rest deeper n t).visits ≤ visitBudget + 1 + n.space)
    (hspace : quantity ≤ n.space) (hvisits : t.visits < visitBudget) :
    (tryQuantities (descend rest deeper) next s index n quantity t).visits
      ≤ visitBudget + 1 + n.space := by
  induction quantity generalizing t with
  | zero =>
      rw [tryQuantities]
      split_ifs
      · omega
      · exact hdeeper (n.take s 0) _ hvisits
  | succ quantity ih =>
      rw [tryQuantities]
      split_ifs
      · omega
      · generalize hfirst : descend rest deeper (n.take s (quantity + 1))
          (t.put index (quantity + 1)) = after
        have hle : after.visits ≤ visitBudget + 1 + (n.space - (quantity + 1)) :=
          hfirst ▸ hdeeper _ _ hvisits
        rcases lt_or_ge after.visits visitBudget with hleft | hspent
        · exact ih (by omega) hleft
        · refine (visits_tryQuantities_le_add quantity hspent).trans ?_
          omega

/-- **The visits up to the end of a branch** at whose top the budget is not spent: the budget, the
visit that exceeds it, and one for each unit of space. -/
lemma visits_descend_le : ∀ (rest : List Stow) (index : Nat) (n : Node) (t : Tally),
    t.visits < visitBudget → (descend rest index n t).visits ≤ visitBudget + 1 + n.space
  | [], _, n, t, h => by
      rw [descend, t.visits_visit]
      omega
  | s :: rest, index, n, t, h => by
      have hvisit := t.visits_visit n.totals
      have hroom := n.room_le_space s
      rw [descend]
      split_ifs
      · omega
      · rw [Tally.visits_put]
        rcases lt_or_ge (t.visit n.totals).visits visitBudget with hleft | hspent
        · exact visits_tryQuantities_le _ (visits_descend_le rest (index + 1)) hroom hleft
        · refine (visits_tryQuantities_le_add (n.room s) hspent).trans ?_
          omega

end Search

/-- All visits of a search: the budget, the visit that exceeds it, and one for each unit that the
hold takes. -/
lemma visits_search_le (limits : Limits) (stows : List Stow) :
    (search limits stows).visits ≤ visitBudget + 1 + limits.capacity := by
  have hstart : 0 < visitBudget := by decide
  exact visits_descend_le stows 0 (Node.start limits) (Tally.start stows.length) hstart

/-- **The budget bounds the visits of the search for a load.** There are no more than the budget,
the visit that exceeds it, and the space of the hold times the number of lots that can be loaded.
When the budget is spent a branch is visited at its top and left, so that only the loops that are
still open add visits, one for each quantity that they have left to try. -/
theorem search_budget (lots : List Lot) (limits : Limits) :
    (search limits (stowage limits lots)).visits
        ≤ visitBudget + 1 + (stowage limits lots).length * limits.capacity ∧
      (∀ (rest : List Stow) (index : Nat) (n : Node) (t : Tally), visitBudget ≤ t.visits →
        descend rest index n t = t.visit n.totals) ∧
      ∀ (rest : List Stow) (next : Credits) (s : Stow) (index : Nat) (n : Node) (quantity : Nat)
        (t : Tally), visitBudget ≤ t.visits →
          (tryQuantities (descend rest (index + 1)) next s index n quantity t).visits
            ≤ t.visits + (quantity + 1) := by
  refine ⟨?_, fun _ _ _ _ => descend_of_budget_le,
    fun _ _ _ _ _ quantity _ => visits_tryQuantities_le_add quantity⟩
  cases hstows : stowage limits lots with
  | nil =>
      -- the empty hold is all there is to visit
      have hvisits : (search limits []).visits = 1 := rfl
      omega
  | cons s rest =>
      have hcapacity : limits.capacity ≤ (s :: rest).length * limits.capacity :=
        Nat.le_mul_of_pos_left _ (Nat.succ_pos _)
      exact (visits_search_le limits (s :: rest)).trans (Nat.add_le_add_left hcapacity _)

/-- Silver and tea take five visits. If the budget were spent at the start, a loop from two units of
tea down to none, with something of the same gain to follow, would still add three. -/
theorem search_budget_silverAndTea :
    (search smallPurse (stowage smallPurse silverAndTea)).visits = 5 ∧
      (search smallPurse (stowage smallPurse silverAndTea)).visits
        ≤ visitBudget + 1 + (stowage smallPurse silverAndTea).length * smallPurse.capacity ∧
      ∃ tea ∈ stowage smallPurse silverAndTea, tea.most = 2 ∧
        let spent : Tally := { Tally.start 1 with visits := visitBudget }
        (tryQuantities (descend [] 1) 40 tea 0 (.start smallPurse) 2 spent).visits
          = visitBudget + 3 ∧
        (tryQuantities (descend [] 1) 40 tea 0 (.start smallPurse) 2 spent).visits
          ≤ visitBudget + (2 + 1) ∧
        descend [tea] 0 (.start smallPurse) spent = spent.visit {} := by
  obtain ⟨hbound, hleave, hloop⟩ := search_budget silverAndTea smallPurse
  have htea : (stowage smallPurse silverAndTea)[1]? =
      some ⟨⟨{ item := 2, cost := 50, gain := 40, stock := some 5, sourceAge := 0, targetAge := 0 },
        40⟩, 2⟩ := by
    rw [stowage_silverAndTea]
    rfl
  refine ⟨?_, hbound, _, List.mem_of_getElem? htea, rfl, ?_, hloop _ _ _ _ _ _ _ le_rfl,
    hleave _ _ _ _ le_rfl⟩
  · rw [stowage_silverAndTea]
    decide +kernel
  · decide +kernel

end TradeRun.Cargo
