import Mathlib.Data.List.Sort

/-!
Lists sorted by a comparison.

* `pairwise_mergeSort_isLE`: sorted by a comparison that is oriented and transitive a list comes in
  order;
* `mergeSort_isLE_eq_of_perm`: **sorting forgets the order in which the members came** where no two
  different ones tie;
* `mergeSort_isLE_eq_of_pairwise`: a list in strict order is what comes of sorting its members;
* `mergeSort_eq_of_perm`: so it does of numbers.
-/

namespace TradeRun

variable {α : Type} (cmp : α → α → Ordering) [Std.TransCmp cmp]

/-- Of two members one comes before the other or ties with it. -/
lemma isLE_or_isLE (a b : α) : (cmp a b).isLE || (cmp b a).isLE := by
  have hswap : cmp b a = (cmp a b).swap := Std.OrientedCmp.eq_swap
  rw [hswap]
  cases cmp a b <;> rfl

/-- A sorted list comes in order. -/
lemma pairwise_mergeSort_isLE (as : List α) :
    (as.mergeSort fun a b => (cmp a b).isLE).Pairwise fun a b => (cmp a b).isLE := by
  refine List.pairwise_mergeSort ?_ (isLE_or_isLE cmp) as
  intro a b c hab hbc
  exact Std.TransCmp.isLE_trans hab hbc

/-- **Sorting forgets the order in which the members came** where no two different ones tie. -/
lemma mergeSort_isLE_eq_of_perm {as bs : List α} (hperm : bs.Perm as)
    (htie : ∀ a ∈ as, ∀ b ∈ as, cmp a b = .eq → a = b) :
    (bs.mergeSort fun a b => (cmp a b).isLE) = as.mergeSort fun a b => (cmp a b).isLE := by
  have hsorted : (bs.mergeSort fun a b => (cmp a b).isLE).Perm
      (as.mergeSort fun a b => (cmp a b).isLE) :=
    (List.mergeSort_perm _ _).trans (hperm.trans (List.mergeSort_perm _ _).symm)
  refine hsorted.eq_of_pairwise ?_ (pairwise_mergeSort_isLE cmp bs) (pairwise_mergeSort_isLE cmp as)
  intro a b ha hb hab hba
  exact htie a (hperm.mem_iff.1 (List.mem_mergeSort.1 ha)) b (List.mem_mergeSort.1 hb)
    (Std.OrientedCmp.isLE_antisymm hab hba)

/-- A list in strict order is what comes of sorting its members, in whatever order they came. -/
lemma mergeSort_isLE_eq_of_pairwise {as bs : List α} (hperm : bs.Perm as)
    (hsorted : as.Pairwise fun a b => cmp a b = .lt) :
    (bs.mergeSort fun a b => (cmp a b).isLE) = as := by
  have htie : ∀ ⦃a⦄, a ∈ as → ∀ ⦃b⦄, b ∈ as → cmp a b = .eq → a = b := by
    refine List.Pairwise.forall_of_forall_of_flip (fun _ _ _ => rfl) (hsorted.imp ?_)
      (hsorted.imp ?_)
    · intro a b hlt heq
      simp [hlt] at heq
    · intro a b hlt heq
      have hswap : cmp b a = (cmp a b).swap := Std.OrientedCmp.eq_swap
      rw [hswap, hlt] at heq
      cases heq
  rw [mergeSort_isLE_eq_of_perm cmp hperm fun a ha b hb => htie ha hb]
  exact List.mergeSort_of_pairwise (hsorted.imp fun hlt => by rw [hlt]; rfl)

/-- Numbers are sorted alike in whatever order they came. -/
lemma mergeSort_eq_of_perm {ns ms : List Int} (hperm : ms.Perm ns) :
    ms.mergeSort = ns.mergeSort := by
  refine List.Perm.eq_of_pairwise (fun a b _ _ => le_antisymm) List.sortedLE_mergeSort.pairwise
    List.sortedLE_mergeSort.pairwise ?_
  exact (List.mergeSort_perm _ _).trans (hperm.trans (List.mergeSort_perm _ _).symm)

end TradeRun
