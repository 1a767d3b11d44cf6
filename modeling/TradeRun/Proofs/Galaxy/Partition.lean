import TradeRun.Proofs.Galaxy.Listing

/-!
How the systems part the stations among themselves.

What a system lists is kept beside the stations, and what lies in which system is said by the
stations. Both come from the same rows, but of several rows with one number only the last one makes
a station, whereas each of them is listed.

* `Galaxy.Parted`: the lists of the systems part the stations among themselves;
* `Galaxy.map_id_stationsIn_ofRows`: a system lists one station for each row that names it, by
  ascending numbers;
* `Galaxy.mem_stationsIn_system`: no station is missing from the list of its system;
* `Galaxy.parted_of_nodup`, `Galaxy.stationsIn_partition`: **the systems part the stations just when
  no two rows that are taken over have one number**;
* `stationsIn_partition_moved`: two rows of one number, and a station that two systems list.
-/

namespace TradeRun

namespace Galaxy

/-- The systems part the stations among themselves: each lists those on record that lie in it and
no others, by strictly ascending numbers, and all lists together hold each station once. -/
structure Parted (g : Galaxy) : Prop where
  mem_iff : ∀ system s, s ∈ g.stationsIn system ↔ g.station? s.id = some s ∧ s.system = system
  ascending : ∀ system, ((g.stationsIn system).map Station.id).Pairwise (· < ·)
  once : (g.systems.toList.flatMap fun sys => g.stationsIn sys.id).Perm g.stations.toList

variable {rows : Rows} {id : StationId} {s : Station} {system : SystemId}

/-! ### What is listed -/

/-- Each row that is taken over is of a station on record. -/
lemma exists_station?_of_mem_placed {row : Station} (h : row ∈ rows.placed) :
    ∃ s, (ofRows rows).station? row.id = some s := by
  rw [← Option.isSome_iff_exists, station?_ofRows, Option.isSome_map, Rows.stationRegister,
    Register.find?_ofList, List.find?_isSome]
  exact ⟨row.withMarket ∅, List.mem_reverse.2 (List.mem_map_of_mem h), by simp [Station.withMarket]⟩

/-- **A system lists one station for each row that names it**, by ascending numbers. -/
lemma map_id_stationsIn_ofRows (rows : Rows) (system : SystemId) :
    ((ofRows rows).stationsIn system).map Station.id
      = ((rows.placed.filter (·.system == system)).map Station.id).mergeSort := by
  rw [stationsIn]
  cases hsys : (ofRows rows).system? system with
  | some sys =>
      -- what is listed is on record under its number, so that looking it up loses nothing
      have hknown : ∀ id ∈ sys.listing,
          Option.map Station.id ((ofRows rows).station? id) = some id := by
        intro id hid
        obtain ⟨row, hrow, -, rfl⟩ := (mem_listing_ofRows hsys).1 hid
        obtain ⟨s, hs⟩ := exists_station?_of_mem_placed hrow
        rw [hs, Option.map_some, id_of_station? hs]
      rw [← listing_ofRows hsys]
      dsimp only
      rw [List.map_filterMap, List.filterMap_congr hknown, List.filterMap_some]
  | none =>
      have hnone : rows.placed.filter (·.system == system) = [] := by
        refine List.filter_eq_nil_iff.2 fun row hrow hsystem => ?_
        obtain ⟨s, hs⟩ := Option.isSome_iff_exists.1 (List.mem_filter.1 hrow).2
        rw [system?_ofRows, ← beq_iff_eq.1 hsystem, hs] at hsys
        cases hsys
      rw [hnone, List.map_nil, List.mergeSort_nil]

/-- **No station is missing from the list of its system.** -/
lemma mem_stationsIn_system (h : (ofRows rows).station? id = some s) :
    s ∈ (ofRows rows).stationsIn s.system := by
  obtain ⟨sys, hsys⟩ := system?_of_station?_ofRows h
  obtain ⟨row, hrow, hid, market, rfl⟩ := of_station?_ofRows h
  rw [stationsIn, hsys]
  exact List.mem_filterMap.2 ⟨id, (mem_listing_ofRows hsys).2 ⟨row, hrow, rfl, hid⟩, h⟩

/-! ### The partition -/

/-- Strictly ascending lists of their own stations hold each station once. -/
lemma flatMap_stationsIn_perm
    (hmem : ∀ system s, s ∈ (ofRows rows).stationsIn system ↔
      (ofRows rows).station? s.id = some s ∧ s.system = system)
    (hascending : ∀ system, (((ofRows rows).stationsIn system).map Station.id).Pairwise (· < ·)) :
    ((ofRows rows).systems.toList.flatMap fun sys => (ofRows rows).stationsIn sys.id).Perm
      (ofRows rows).stations.toList := by
  have hstations : (ofRows rows).stations.toList.Nodup := Register.nodup_toList _
  have hlists : ((ofRows rows).systems.toList.flatMap fun sys =>
      (ofRows rows).stationsIn sys.id).Nodup := by
    refine List.nodup_flatMap.2 ⟨fun sys _ => ?_, (Register.pairwise_toList _).imp ?_⟩
    · exact (List.pairwise_map.1 (hascending sys.id)).imp fun hlt heq =>
        hlt.ne (congrArg Station.id heq)
    · intro a b hlt s ha hb
      exact hlt.ne (((hmem _ _).1 ha).2.symm.trans ((hmem _ _).1 hb).2)
  refine (List.perm_ext_iff_of_nodup hlists hstations).2 fun s => ?_
  rw [List.mem_flatMap, Register.mem_toList]
  constructor
  · rintro ⟨sys, -, hs⟩
    exact ((hmem _ _).1 hs).1
  · intro hs
    obtain ⟨sys, hsys⟩ := system?_of_station?_ofRows hs
    have hid : sys.id = s.system := Register.number_of_find? hsys
    refine ⟨sys, Register.mem_toList_of_find? hsys, ?_⟩
    exact (hmem _ _).2 ⟨hs, hid.symm⟩

/-- **The systems part the stations** where no two rows that are taken over have one number. -/
lemma parted_of_nodup (hids : (rows.placed.map Station.id).Nodup) : (ofRows rows).Parted := by
  have hmem : ∀ system s, s ∈ (ofRows rows).stationsIn system ↔
      (ofRows rows).station? s.id = some s ∧ s.system = system := by
    intro system s
    constructor
    · intro hs
      exact ⟨station?_of_mem_stationsIn hs, system_of_mem_stationsIn_placed hids hs⟩
    · rintro ⟨hs, rfl⟩
      exact mem_stationsIn_system hs
  have hascending : ∀ system,
      (((ofRows rows).stationsIn system).map Station.id).Pairwise (· < ·) := by
    intro system
    have hnodup : ((rows.placed.filter (·.system == system)).map Station.id).mergeSort.Nodup :=
      (List.mergeSort_perm _ _).nodup_iff.2 (hids.sublist (List.filter_sublist.map _))
    rw [map_id_stationsIn_ofRows]
    exact (List.sortedLE_mergeSort.pairwise.and hnodup).imp fun h => lt_of_le_of_ne h.1 h.2
  exact ⟨hmem, hascending, flatMap_stationsIn_perm hmem hascending⟩

/-- Two rows of one number spoil the partition: either one system lists the station twice, or two
systems list it. -/
lemma Parted.nodup (h : (ofRows rows).Parted) : (rows.placed.map Station.id).Nodup := by
  rw [List.Nodup, List.pairwise_map, List.pairwise_iff_forall_sublist]
  intro a b hsub hid
  have ha : a ∈ rows.placed := hsub.subset List.mem_cons_self
  have hb : b ∈ rows.placed := hsub.subset (List.mem_cons_of_mem _ List.mem_cons_self)
  obtain ⟨s, hs⟩ := exists_station?_of_mem_placed ha
  have hlisted : ∀ row ∈ rows.placed, row.id = a.id → s.system = row.system := by
    intro row hrow hrow_id
    have hmem : row.id ∈ ((ofRows rows).stationsIn row.system).map Station.id := by
      rw [map_id_stationsIn_ofRows, List.mem_mergeSort]
      exact List.mem_map_of_mem (List.mem_filter.2 ⟨hrow, beq_self_eq_true _⟩)
    obtain ⟨t, ht, htid⟩ := List.mem_map.1 hmem
    obtain ⟨ht, hsystem⟩ := (h.mem_iff _ _).1 ht
    rw [htid, hrow_id, hs] at ht
    exact Option.some.inj ht ▸ hsystem
  have hsystem : b.system = a.system := (hlisted b hb hid.symm).symm.trans (hlisted a ha rfl)
  have hascending := h.ascending a.system
  rw [map_id_stationsIn_ofRows] at hascending
  have hnodup : ((rows.placed.filter (·.system == a.system)).map Station.id).Nodup :=
    (List.mergeSort_perm _ _).nodup_iff.1 (hascending.imp ne_of_lt)
  rw [List.Nodup, List.pairwise_map, List.pairwise_filter] at hnodup
  exact List.pairwise_iff_forall_sublist.1 hnodup hsub (beq_self_eq_true _)
    (beq_iff_eq.2 hsystem) hid

/-- **How the systems part the stations.** A system lists one station for each row that is taken
over and names it, by ascending numbers, and each station on record is in the list of its system.
The lists part the stations just when no two rows that are taken over have one number. -/
theorem stationsIn_partition (rows : Rows) :
    (∀ system, ((ofRows rows).stationsIn system).map Station.id
      = ((rows.placed.filter (·.system == system)).map Station.id).mergeSort) ∧
    (∀ id s, (ofRows rows).station? id = some s → s ∈ (ofRows rows).stationsIn s.system) ∧
    ((ofRows rows).Parted ↔ (rows.placed.map Station.id).Nodup) :=
  ⟨map_id_stationsIn_ofRows rows, fun _ _ => mem_stationsIn_system,
    Parted.nodup, parted_of_nodup⟩

end Galaxy

/-- A post that was recorded for one system and then for another one. -/
def movedRows : Rows where
  systems := [⟨1, "Here", ⟨0.0, 0.0, 0.0⟩, []⟩, ⟨2, "There", ⟨2.0, 0.0, 0.0⟩, []⟩]
  stations := [{ id := 1, name := "Post", system := 1, pad := .large },
    { id := 1, name := "Post", system := 2, pad := .large }]

/-- The post lies in the second system and is listed by both. -/
theorem stationsIn_partition_moved :
    (∃ s, (Galaxy.ofRows movedRows).station? 1 = some s ∧ s.system = 2) ∧
      ((Galaxy.ofRows movedRows).stationsIn 1).map Station.id = [1] ∧
      ((Galaxy.ofRows movedRows).stationsIn 2).map Station.id = [1] ∧
      ¬ (Galaxy.ofRows movedRows).Parted := by
  have hlisted (system : SystemId) (h : system = 1 ∨ system = 2) :
      ((Galaxy.ofRows movedRows).stationsIn system).map Station.id = [1] := by
    rw [Galaxy.map_id_stationsIn_ofRows]
    rcases h with rfl | rfl <;> exact List.mergeSort_singleton 1
  refine ⟨⟨_, rfl, rfl⟩, hlisted 1 (.inl rfl), hlisted 2 (.inr rfl), fun hparted => ?_⟩
  exact absurd hparted.nodup (by decide +kernel)

end TradeRun
