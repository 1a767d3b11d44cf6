import Mathlib.Data.List.Destutter
import TradeRun.Proofs.Decimal.TotalOrder
import TradeRun.Proofs.Galaxy.Offers
import TradeRun.Proofs.Sorting

/-!
The names that are suggested, as the upper end of a ranking.

Names that are alike enough are ranked, repeated names are dropped and the first few are kept. Only
neighbours of one name are dropped; but the likeness of a name hangs on the name alone, so that
equal names are ranked side by side.

* `Galaxy.compareNames`: the order of rank, in which only equal names tie;
* `Galaxy.ranking`: all names that are alike enough, each once and in order. `Galaxy.mostAlike_eq`
  says that its upper end is what is kept;
* `Galaxy.Precedes`: one name is more alike than another one, or sorts first among equals;
* `Galaxy.Foremost`: some names are the exact top of the ranking of all names of places;
* `Galaxy.suggestions_foremost`: **the suggestions are**, however likeness is measured.
-/

namespace TradeRun

namespace Galaxy

open Text (upperCase)

/-- The more alike of two names first, of two that are equally so the one that sorts first. -/
def compareNames (likeness : String → Float) (a b : String) : Ordering :=
  compareLikeness (likeness a, a) (likeness b, b)

/-- All names that are alike enough, each once, the most alike first. -/
def ranking (likeness : String → Float) (names : List String) : List String :=
  ((names.filter fun name => leastLikeness ≤ likeness name).mergeSort
    fun a b => (compareNames likeness a b).isLE).dedup

/-- A name goes before another one: it is more alike, or equally so and sorts first. -/
def Precedes (likeness : String → Float) (a b : String) : Prop :=
  likeness b < likeness a ∨ likeness a = likeness b ∧ a < b

variable {likeness : String → Float} {names : List String} {a b name : String}

/-! ### The order of rank -/

instance : Std.TransCmp (compareNames likeness) :=
  inferInstanceAs (Std.TransCmp
    (compareLex (fun a b => compareOn (Binary.orderKey ∘ likeness) b a) (compareOn id)))

/-- Only equal names tie. -/
instance : Std.LawfulEqCmp (compareNames likeness) where
  eq_of_compare h := by
    simp only [compareNames, compareLikeness, Ordering.then_eq_eq, Std.compare_eq_iff_eq] at h
    exact h.2

/-- What is alike enough has a positive likeness. -/
lemma pos_of_leastLikeness_le {x : Float} (h : leastLikeness ≤ x) : 0.0 < x := by
  have hleast : 0.0 < leastLikeness := by decide +kernel
  exact Binary.lt_of_lt_of_le hleast h

lemma precedes_of_compareNames_eq_lt (ha : leastLikeness ≤ likeness a)
    (hb : leastLikeness ≤ likeness b) (h : compareNames likeness a b = .lt) :
    Precedes likeness a b := by
  rw [compareNames, compareLikeness, Ordering.then_eq_lt] at h
  rcases h with hlt | ⟨heq, hlt⟩
  · exact .inl (Binary.lt_of_orderKey_lt (pos_of_leastLikeness_le hb)
      (Binary.not_isNaN_of_le ha).2 (compare_lt_iff_lt.1 hlt))
  · exact .inr ⟨(Binary.orderKey_inj.1 (compare_eq_iff_eq.1 heq)).symm, compare_lt_iff_lt.1 hlt⟩

/-! ### The ranking -/

lemma dropRepeats_eq_destutter (entries : List (Float × String)) :
    dropRepeats entries = entries.destutter fun a b => a.2 ≠ b.2 := by
  fun_induction dropRepeats entries with
  | case1 a b rest heq ih => rw [ih, List.destutter_cons_cons, if_neg (not_not.2 heq)]; rfl
  | case2 a b rest hne ih => rw [ih, List.destutter_cons_cons, if_pos hne]; rfl
  | case3 short hshort =>
      rcases short with _ | ⟨a, _ | ⟨b, rest⟩⟩
      · rfl
      · rfl
      · exact absurd rfl (hshort a b rest)

lemma dropRepeats_map (likeness : String → Float) (names : List String) :
    dropRepeats (names.map fun name => (likeness name, name))
      = (names.destutter (· ≠ ·)).map fun name => (likeness name, name) := by
  rw [dropRepeats_eq_destutter]
  refine (List.map_destutter ?_).symm
  exact fun _ _ _ _ => Iff.rfl

/-- Sorted names come in order. -/
lemma pairwise_sorted (likeness : String → Float) (names : List String) :
    (names.mergeSort fun a b => (compareNames likeness a b).isLE).Pairwise
      fun a b => (compareNames likeness a b).isLE :=
  pairwise_mergeSort_isLE (compareNames likeness) names

/-- Names that tie are equal. -/
instance : Std.Antisymm fun a b => ((compareNames likeness a b).isLE : Prop) :=
  ⟨fun _ _ hab hba => Std.LawfulEqCmp.eq_of_compare (Std.OrientedCmp.isLE_antisymm hab hba)⟩

/-- **What is kept is the upper end of the ranking.** In order, equal names are neighbours, so that
to drop those neighbours leaves each name once. -/
lemma mostAlike_eq (limit : Nat) :
    mostAlike likeness names limit = (ranking likeness names).take limit := by
  have hscored : (names.filterMap fun name =>
      if leastLikeness ≤ likeness name then some (likeness name, name) else none)
      = (names.filter fun name => leastLikeness ≤ likeness name).map
          fun name => (likeness name, name) := by
    rw [← List.filterMap_eq_map, List.filterMap_filter]
    simp
  have hsorted := pairwise_sorted likeness (names.filter fun name => leastLikeness ≤ likeness name)
  simp only [mostAlike, hscored]
  rw [← List.map_mergeSort (r := fun a b => (compareNames likeness a b).isLE)
    fun _ _ _ _ => rfl, dropRepeats_map, hsorted.destutter_eq_dedup, List.map_take, List.map_map]
  exact congrArg (List.take limit) (List.map_id _)

lemma mem_ranking :
    name ∈ ranking likeness names ↔ name ∈ names ∧ leastLikeness ≤ likeness name := by
  simp [ranking]

/-- **The ranking is in strict order.** -/
lemma pairwise_ranking (likeness : String → Float) (names : List String) :
    (ranking likeness names).Pairwise fun a b => compareNames likeness a b = .lt := by
  have hsorted := (pairwise_sorted likeness
    (names.filter fun name => leastLikeness ≤ likeness name)).sublist (List.dedup_sublist _)
  refine (hsorted.and (List.nodup_dedup _)).imp ?_
  rintro a b ⟨hle, hne⟩
  cases hcompare : compareNames likeness a b with
  | lt => rfl
  | eq => exact absurd (Std.LawfulEqCmp.eq_of_compare hcompare) hne
  | gt =>
      rw [hcompare] at hle
      cases hle

/-! ### Suggestions -/

/-- A text is the name of a system or the full name of a station. -/
def IsPlaceName (g : Galaxy) (name : String) : Prop :=
  (∃ sys, g.system? sys.id = some sys ∧ name = sys.name) ∨
    ∃ s, g.station? s.id = some s ∧ name = g.systemName s.system ++ "/" ++ s.name

variable {g : Galaxy}

lemma mem_placeNames_iff : name ∈ g.placeNames ↔ g.IsPlaceName name := by
  rw [mem_placeNames, IsPlaceName]
  refine or_congr_right (exists_congr fun s => and_congr_right fun hs => ?_)
  rw [stationName_eq hs]

/-- Some names are the exact top of the ranking of all names of places: at most `limit` different
names that are alike enough, in order; and a name that is left out though it is alike enough comes
after all of them, and they are as many as may be. -/
structure Foremost (g : Galaxy) (likeness : String → Float) (limit : Nat) (names : List String) :
    Prop where
  length_le : names.length ≤ limit
  nodup : names.Nodup
  of_mem : ∀ name ∈ names, g.IsPlaceName name ∧ 0.8 ≤ likeness name
  ordered : names.Pairwise (Precedes likeness)
  complete : ∀ name, g.IsPlaceName name → 0.8 ≤ likeness name → name ∉ names →
    names.length = limit ∧ ∀ offered ∈ names, Precedes likeness offered name

/-- **The most alike names of places are the exact top of their ranking.** -/
lemma foremost_mostAlike (g : Galaxy) (likeness : String → Float) (limit : Nat) :
    g.Foremost likeness limit (mostAlike likeness g.placeNames limit) := by
  have hsorted := pairwise_ranking likeness g.placeNames
  have hrank {a b : String} (ha : a ∈ ranking likeness g.placeNames)
      (hb : b ∈ ranking likeness g.placeNames) (h : compareNames likeness a b = .lt) :
      Precedes likeness a b :=
    precedes_of_compareNames_eq_lt (mem_ranking.1 ha).2 (mem_ranking.1 hb).2 h
  rw [mostAlike_eq]
  refine ⟨List.length_take_le _ _, (List.nodup_dedup _).sublist (List.take_sublist _ _),
    fun name hname => ?_, ?_, fun name hplace hlike hout => ?_⟩
  · obtain ⟨hplace, hlike⟩ := mem_ranking.1 (List.mem_of_mem_take hname)
    exact ⟨mem_placeNames_iff.1 hplace, hlike⟩
  · refine (hsorted.sublist (List.take_sublist _ _)).imp_of_mem fun ha hb h => ?_
    exact hrank (List.mem_of_mem_take ha) (List.mem_of_mem_take hb) h
  · -- a name that is left out is further down the ranking
    have hname : name ∈ ranking likeness g.placeNames :=
      mem_ranking.2 ⟨mem_placeNames_iff.2 hplace, hlike⟩
    have hbelow : name ∈ (ranking likeness g.placeNames).drop limit := by
      rw [← List.take_append_drop limit (ranking likeness g.placeNames)] at hname
      exact (List.mem_append.1 hname).resolve_left hout
    have hlong := List.length_pos_of_mem hbelow
    rw [List.length_drop] at hlong
    rw [← List.take_append_drop limit (ranking likeness g.placeNames)] at hsorted
    refine ⟨by rw [List.length_take]; omega, fun offered hoffered => ?_⟩
    exact hrank (List.mem_of_mem_take hoffered) hname
      ((List.pairwise_append.1 hsorted).2.2 offered hoffered name hbelow)

/-- **Suggestions are the exact top of the ranking.** Whatever function of the two texts in capitals
measures the likeness, and so also for the one that is in use: at most `limit` different names are
suggested, each that of a system or the full one of a station and alike to at least 0.8, the more
alike first and among equals in the order of the alphabet. If a name that is alike enough is left
out, then just `limit` names are suggested and all of them go before it. -/
theorem suggestions_foremost (g : Galaxy) (name : String) (limit : Nat) :
    (∀ measure : String → String → Float,
      let likeness := fun candidate => measure (upperCase name) (upperCase candidate)
      g.Foremost likeness limit (mostAlike likeness g.placeNames limit)) ∧
    g.Foremost (fun candidate => Text.jaroWinkler (upperCase name) (upperCase candidate)) limit
      (g.suggestions name limit) :=
  ⟨fun _ => foremost_mostAlike g _ limit, foremost_mostAlike g _ limit⟩

end Galaxy

end TradeRun
