import Mathlib.Tactic
import TradeRun.Galaxy.Range

/-!
The systems in space.

* `PointTree.entries`: what a tree holds. `PointTree.mem_entries_ofList` says that a tree of entries
  holds these and no others, however its leaves were parted, and `PointTree.exists_of_mem_within`
  that a search finds nothing else;
* `Galaxy.isSome_system?_of_mem_neighbours`: **what is in range of a system is on record**.
-/

namespace TradeRun

/-! ### Trees -/

namespace PointTree

variable {α : Type} {point : CoarsePosition} {reach : Float32} {a : α}

/-- The entries of a tree. -/
def entries : PointTree α → List (CoarsePosition × α)
  | leaf entries => entries
  | node _ below above => below.entries ++ above.entries

lemma mem_entries_insertAt {entry e : CoarsePosition × α} : ∀ (t : PointTree α) (axis : Axis),
    e ∈ (insertAt entry axis t).entries ↔ e = entry ∨ e ∈ t.entries
  | leaf entries, axis => by
      rw [insertAt]
      split_ifs with hfull
      · exact List.mem_cons
      · -- the two sides of the plane together hold what the full leaf and the new entry do
        simp only [List.partition_eq_filter_filter, PointTree.entries]
        exact (List.filter_append_perm _ (entry :: entries)).mem_iff.trans List.mem_cons
  | node plane below above, axis => by
      rw [insertAt]
      split_ifs
      · simp only [entries, List.mem_append, mem_entries_insertAt below, or_assoc]
      · simp only [entries, List.mem_append, mem_entries_insertAt above, or_left_comm]

/-- **A tree of entries holds these**, and no others. -/
lemma mem_entries_ofList {es : List (CoarsePosition × α)} {e : CoarsePosition × α} :
    e ∈ (ofList es).entries ↔ e ∈ es := by
  have grown (t : PointTree α) : e ∈ (es.foldl insert t).entries ↔ e ∈ es ∨ e ∈ t.entries := by
    induction es generalizing t with
    | nil => simp
    | cons first rest ih =>
        rw [List.foldl_cons, ih, insert, mem_entries_insertAt, List.mem_cons, or_left_comm,
          or_assoc]
  rw [ofList, grown]
  simp [empty, entries]

lemma exists_of_mem_withinAt : ∀ (t : PointTree α) (axis : Axis) (approach : Approach),
    a ∈ withinAt point reach axis approach t → ∃ place, (place, a) ∈ t.entries
  | leaf entries, axis, approach, h => by
      obtain ⟨⟨place, b⟩, hmem, hb⟩ := List.mem_filterMap.1 h
      dsimp only at hb
      split_ifs at hb
      obtain rfl := Option.some.inj hb
      exact ⟨place, hmem⟩
  | node plane below above, axis, approach, h => by
      have hside (side : Option Approach) (t : PointTree α)
          (ih : ∀ approach, a ∈ withinAt point reach axis.next approach t →
            ∃ place, (place, a) ∈ t.entries)
          (h : a ∈ side.elim [] (withinAt point reach axis.next · t)) :
          ∃ place, (place, a) ∈ t.entries := by
        cases side with
        | none => cases h
        | some approach => exact ih approach h
      rw [withinAt] at h
      rcases List.mem_append.1 h with h | h
      · obtain ⟨place, hplace⟩ := hside _ below (exists_of_mem_withinAt below axis.next) h
        exact ⟨place, List.mem_append_left _ hplace⟩
      · obtain ⟨place, hplace⟩ := hside _ above (exists_of_mem_withinAt above axis.next) h
        exact ⟨place, List.mem_append_right _ hplace⟩

/-- A search finds nothing but entries. -/
lemma exists_of_mem_within {t : PointTree α} (h : a ∈ t.within point reach) :
    ∃ place, (place, a) ∈ t.entries :=
  exists_of_mem_withinAt t .x {} h

end PointTree

/-! ### Neighbours -/

/-- What is near a point is one of the systems in space. -/
lemma SystemTree.exists_of_mem_near {t : SystemTree} {point : Position} {radius : Float}
    {near : SystemId × Float} (h : near ∈ t.near point radius) :
    ∃ place s, (place, s) ∈ t.entries ∧ s.id = near.1 := by
  rw [SystemTree.near] at h
  split_ifs at h
  · cases h
  · obtain ⟨s, hs, hnear⟩ := List.mem_filterMap.1 (List.mem_mergeSort.1 h)
    dsimp only at hnear
    split_ifs at hnear
    obtain rfl := Option.some.inj hnear
    obtain ⟨place, hplace⟩ := PointTree.exists_of_mem_within hs
    exact ⟨place, s, hplace, rfl⟩

/-- **What is in range of a system is on record.** -/
lemma Galaxy.isSome_system?_of_mem_neighbours {g : Galaxy} {id other : SystemId} {radius : Float}
    (h : other ∈ g.neighbours id radius) : (g.system? other).isSome := by
  obtain ⟨near, hnear, rfl⟩ := List.mem_map.1 h
  rw [inRange] at hnear
  split at hnear
  · obtain ⟨place, s, hs, hid⟩ := SystemTree.exists_of_mem_near (List.mem_filter.1 hnear).1
    rw [g.chart_eq, SystemTree.ofList, PointTree.mem_entries_ofList] at hs
    obtain ⟨s', hlisted, hs'⟩ := List.mem_map.1 hs
    obtain rfl : s' = s := congrArg Prod.snd hs'
    rw [← hid, system?, Register.mem_toList.1 hlisted, Option.isSome_some]
  · cases hnear

end TradeRun
