import TradeRun.Proofs.Galaxy.Partition
import TradeRun.Proofs.Space.Reach
import TradeRun.Surroundings

/-!
The stations at and around places.

* `Space.ReachedFrom`: what can be reached from the systems of places, without entering one that is
  to be avoided. `Space.mem_systemsAround` says that these systems are collected, and
  `Space.systemsAround_eq_of_size_le` that more jumps than there are systems collect no other ones;
* `Space.Hosts`: a system lists a stop that need not be avoided;
* `Space.mem_stationsAt`, `Space.mem_stationsAround`: which stations are collected, without jumps
  and with them;
* `Space.stationsAround_neighbourhood`: **with jumps, these are the stops of all systems reached**;
* `Space.pairwise_stationsAround`: the stops come system by system, so that they ascend just when
  systems further up number their stops higher;
* `Space.stationsAround_order`: **the stations ascend just when the numbers of the stops agree with
  those of their systems**, and without jumps they always do;
* `stationsAround_order_crossed`: two posts whose numbers do not agree with those of their systems.
-/

namespace TradeRun

namespace Space

variable {space : Space} {filter : StationFilter} {places : List Place} {jumps : Nat}
  {system : SystemId} {id : StationId}

/-! ### Systems -/

/-- A system that can be reached from the system of one of the places by at most so many jumps,
where neither that one nor any system entered is to be avoided. -/
def ReachedFrom (space : Space) (places : List Place) (jumps : Nat) (system : SystemId) : Prop :=
  ∃ place ∈ places, ∃ source, place.systemIn? space.galaxy = some source ∧
    ¬ space.avoid.hasSystem source ∧
    ∃ path, space.Walk source system path ∧ path.length ≤ jumps + 1

lemma ReachedFrom.mono {more : Nat} (h : space.ReachedFrom places jumps system)
    (hmore : jumps ≤ more) : space.ReachedFrom places more system := by
  obtain ⟨place, hplace, source, hsource, hsafe, path, hwalk, hlength⟩ := h
  exact ⟨place, hplace, source, hsource, hsafe, path, hwalk, by omega⟩

/-- The numbers of a set are listed in strictly ascending order. -/
lemma pairwise_toList_numbers (numbers : Std.ExtTreeSet ℤ) : numbers.toList.Pairwise (· < ·) :=
  numbers.ordered_toList.imp compare_lt_iff_lt.1

lemma nodup_startsOf (space : Space) (places : List Place) : (space.startsOf places).Nodup :=
  (pairwise_toList_numbers _).imp ne_of_lt

lemma mem_startsOf : system ∈ space.startsOf places ↔
    ∃ place ∈ places, place.systemIn? space.galaxy = some system ∧
      ¬ space.avoid.hasSystem system := by
  rw [startsOf, Std.ExtTreeSet.mem_toList, Std.ExtTreeSet.mem_ofList, List.contains_iff_mem,
    List.mem_filter, List.mem_filterMap, Bool.not_eq_true', Bool.not_eq_true]
  simp only [← and_assoc, exists_and_right]

/-- **The systems collected are those that can be reached.** -/
lemma mem_systemsAround :
    system ∈ space.systemsAround jumps places ↔ space.ReachedFrom places jumps system := by
  rw [systemsAround, Std.ExtTreeSet.mem_toList, Std.ExtTreeSet.mem_ofList, List.contains_iff_mem,
    mem_explore_iff (space.nodup_startsOf places)]
  simp only [mem_startsOf, ReachedFrom]
  grind

lemma pairwise_systemsAround (space : Space) (jumps : Nat) (places : List Place) :
    (space.systemsAround jumps places).Pairwise (· < ·) :=
  pairwise_toList_numbers _

/-- More jumps than there are systems collect no other ones. -/
lemma systemsAround_eq_of_size_le {more : Nat} (hsize : space.galaxy.systems.size ≤ jumps)
    (hmore : jumps ≤ more) :
    space.systemsAround more places = space.systemsAround jumps places := by
  rw [systemsAround, systemsAround,
    explore_eq_of_size_le (space.nodup_startsOf places) hsize hmore]

/-! ### Stations -/

/-- A system lists a stop of that number that need not be avoided. -/
def Hosts (space : Space) (filter : StationFilter) (system : SystemId) (id : StationId) : Prop :=
  ∃ s ∈ space.galaxy.stationsIn system, s.id = id ∧ filter.isEligible s ∧ ¬ space.avoid.matches s

namespace Hosts

/-- A stop is on record. -/
lemma exists_station? (h : space.Hosts filter system id) :
    ∃ s, space.galaxy.station? id = some s ∧ filter.isEligible s ∧ ¬ space.avoid.matches s := by
  obtain ⟨s, hs, rfl, hstop⟩ := h
  exact ⟨s, Galaxy.station?_of_mem_stationsIn hs, hstop⟩

/-- Where a stop is listed there is a system. -/
lemma size_pos (h : space.Hosts filter system id) : 0 < space.galaxy.systems.size := by
  obtain ⟨s, hs, -⟩ := h
  rw [Galaxy.stationsIn] at hs
  split at hs
  · next sys hsys =>
    exact Register.length_le_size (List.nodup_singleton system)
      (List.forall_mem_singleton.2 (Option.isSome_of_eq_some hsys))
  · cases hs

end Hosts

lemma welcomes_iff {s : Station} :
    space.welcomes filter s ↔ filter.isEligible s ∧ ¬ space.avoid.matches s := by
  simp [welcomes]

/-- The stations of a system are the stops that it lists. -/
lemma mem_stationsOf_system :
    id ∈ space.stationsOf filter (.system system) ↔ space.Hosts filter system id := by
  simp only [stationsOf, List.mem_map, List.mem_filter, welcomes_iff, Hosts]
  grind

lemma mem_stationsOf_station {named : StationId} :
    id ∈ space.stationsOf filter (.station named) ↔
      id = named ∧ ∃ s, space.galaxy.station? named = some s ∧ ¬ space.avoid.matches s := by
  simp [stationsOf, Option.any_eq_true, and_comm]

/-- Without jumps the stations collected are those named themselves, whatever else they lack, and
the stops of the systems named. -/
lemma mem_stationsAt : id ∈ space.stationsAt filter places ↔
    (.station id ∈ places ∧
        ∃ s, space.galaxy.station? id = some s ∧ ¬ space.avoid.matches s) ∨
      ∃ system, .system system ∈ places ∧ space.Hosts filter system id := by
  rw [stationsAt, Std.ExtTreeSet.mem_toList, Std.ExtTreeSet.mem_ofList, List.contains_iff_mem,
    List.mem_flatMap]
  constructor
  · rintro ⟨named | named, hplace, hid⟩
    · exact .inr ⟨named, hplace, mem_stationsOf_system.1 hid⟩
    · obtain ⟨rfl, hknown⟩ := mem_stationsOf_station.1 hid
      exact .inl ⟨hplace, hknown⟩
  · rintro (⟨hplace, hknown⟩ | ⟨system, hplace, hhosts⟩)
    · exact ⟨.station id, hplace, mem_stationsOf_station.2 ⟨rfl, hknown⟩⟩
    · exact ⟨.system system, hplace, mem_stationsOf_system.2 hhosts⟩

/-- With jumps the stops come system by system. -/
lemma stationsAround_eq (space : Space) (filter : StationFilter) (places : List Place)
    (hjumps : jumps ≠ 0) : space.stationsAround filter places jumps =
      (space.systemsAround jumps places).flatMap fun system =>
        space.stationsOf filter (.system system) := by
  rw [stationsAround, if_neg hjumps, List.filter_flatMap, List.map_flatMap]
  rfl

/-- With jumps the stations collected are the stops of the systems reached. -/
lemma mem_stationsAround (hjumps : jumps ≠ 0) :
    id ∈ space.stationsAround filter places jumps ↔
      ∃ system, space.ReachedFrom places jumps system ∧ space.Hosts filter system id := by
  simp only [stationsAround_eq space filter places hjumps, List.mem_flatMap, mem_systemsAround,
    mem_stationsOf_system]

/-- A station at or around places is one that need not be avoided, and a stop unless it is one of
the places itself and no jump was to be made. -/
lemma of_mem_stationsAround (h : id ∈ space.stationsAround filter places jumps) :
    ∃ s, space.galaxy.station? id = some s ∧ ¬ space.avoid.matches s ∧
      (filter.isEligible s ∨ jumps = 0 ∧ .station id ∈ places) := by
  obtain rfl | hjumps := eq_or_ne jumps 0
  · rw [stationsAround, if_pos rfl, mem_stationsAt] at h
    rcases h with ⟨hplace, s, hs, hsafe⟩ | ⟨system, -, hhosts⟩
    · exact ⟨s, hs, hsafe, .inr ⟨rfl, hplace⟩⟩
    · obtain ⟨s, hs, heligible, hsafe⟩ := hhosts.exists_station?
      exact ⟨s, hs, hsafe, .inl heligible⟩
  · obtain ⟨system, -, hhosts⟩ := (mem_stationsAround hjumps).1 h
    obtain ⟨s, hs, heligible, hsafe⟩ := hhosts.exists_station?
    exact ⟨s, hs, hsafe, .inl heligible⟩

/-- **What is collected at and around places.** Without jumps these are the stations named
themselves, unless they are to be avoided, and the stops of the systems named. With jumps they are
the stops listed for all systems that can be reached from those of the places. The more jumps the
more stations, but more jumps than there are systems collect no other ones. -/
theorem stationsAround_neighbourhood (space : Space) (filter : StationFilter)
    (places : List Place) :
    (∀ id, id ∈ space.stationsAround filter places 0 ↔
      (.station id ∈ places ∧
          ∃ s, space.galaxy.station? id = some s ∧ ¬ space.avoid.matches s) ∨
        ∃ system, .system system ∈ places ∧ space.Hosts filter system id) ∧
    (∀ jumps ≥ 1, ∀ id, id ∈ space.stationsAround filter places jumps ↔
      ∃ system, space.ReachedFrom places jumps system ∧ space.Hosts filter system id) ∧
    (∀ jumps more, 1 ≤ jumps → jumps ≤ more →
      space.stationsAround filter places jumps ⊆ space.stationsAround filter places more) ∧
    ∀ jumps more, space.galaxy.systems.size ≤ jumps → jumps ≤ more →
      space.stationsAround filter places more ⊆ space.stationsAround filter places jumps := by
  refine ⟨fun id => ?_, fun jumps hjumps id => mem_stationsAround (by omega), ?_, ?_⟩
  · rw [stationsAround, if_pos rfl, mem_stationsAt]
  · intro jumps more hjumps hmore id hid
    obtain ⟨system, hreached, hhosts⟩ := (mem_stationsAround (by omega)).1 hid
    exact (mem_stationsAround (by omega)).2 ⟨system, hreached.mono hmore, hhosts⟩
  · intro jumps more hsize hmore
    obtain rfl | hlt := hmore.eq_or_lt
    · exact List.Subset.refl _
    · intro id hid
      obtain ⟨system, hreached, hhosts⟩ := (mem_stationsAround (by omega)).1 hid
      rw [← mem_systemsAround, systemsAround_eq_of_size_le hsize hmore, mem_systemsAround]
        at hreached
      have hsome := hhosts.size_pos
      exact (mem_stationsAround (by omega)).2 ⟨system, hreached, hhosts⟩

end Space

/-! ### Two posts -/

/-- Two posts that sell ore, each of them with the number of the other one's system. -/
def crossedRows : Rows where
  systems := [⟨1, "There", ⟨2.0, 0.0, 0.0⟩, []⟩, ⟨2, "Here", ⟨0.0, 0.0, 0.0⟩, []⟩]
  stations := [{ id := 1, name := "Near", system := 2, pad := .large },
    { id := 2, name := "Far", system := 1, pad := .large }]
  items := [⟨1, "Ore"⟩]
  prices := [⟨1, 1, { ask := 10 }⟩, ⟨2, 1, { ask := 10 }⟩]

/-- The two posts as a ship sees them that can fly from one system to the other. -/
def crossedSpace : Space := ⟨Galaxy.ofRows crossedRows, 5.0, .empty⟩

lemma crossedSpace_steps : crossedSpace.steps 2 = [1] := by
  rw [Space.steps_eq [(2, 0.0), (1, 2.0)] rfl (by decide +kernel) (by decide +kernel)
    (by decide +kernel)]
  decide +kernel

/-- One jump from here leads to both posts. The far one comes first, as its system does. -/
lemma crossedSpace_stationsAround :
    crossedSpace.stationsAround {} [.system 2] 1 = [2, 1] := by
  have hstarts : crossedSpace.startsOf [.system 2] = [2] := by decide +kernel
  simp only [Space.stationsAround, Space.systemsAround, Space.explore, Space.rings, Space.nextRing,
    hstarts, List.map, List.foldl, crossedSpace_steps, Arrival.start]
  decide +kernel

/-- The far post is a stop of a system that one jump reaches, and two jumps reach as much as any
number of them. -/
theorem stationsAround_neighbourhood_crossed :
    (∃ system, crossedSpace.ReachedFrom [.system 2] 1 system ∧ crossedSpace.Hosts {} system 2) ∧
      crossedSpace.stationsAround {} [.system 2] 1 ⊆ crossedSpace.stationsAround {} [.system 2] 2 ∧
      ∀ more ≥ 2, crossedSpace.stationsAround {} [.system 2] more ⊆
        crossedSpace.stationsAround {} [.system 2] 2 := by
  have hsize : crossedSpace.galaxy.systems.size = 2 := by decide +kernel
  obtain ⟨-, hmem, hmono, henough⟩ :=
    Space.stationsAround_neighbourhood crossedSpace {} [.system 2]
  refine ⟨(hmem 1 le_rfl 2).1 ?_, hmono 1 2 le_rfl one_le_two, fun more hmore =>
    henough 2 more hsize.le hmore⟩
  rw [crossedSpace_stationsAround]
  exact List.mem_cons_self

/-! ### The order of the stations -/

namespace Space

variable {space : Space} {filter : StationFilter} {places : List Place} {jumps : Nat}

/-- The stops of a system reached are numbered below those of any system further up. -/
def NumbersInOrder (space : Space) (filter : StationFilter) (places : List Place) (jumps : Nat) :
    Prop :=
  ∀ a b, space.ReachedFrom places jumps a → space.ReachedFrom places jumps b → a < b →
    ∀ x y, space.Hosts filter a x → space.Hosts filter b y → x < y

/-- In a strictly ascending list, what stands further up is what is greater. -/
lemma pairwise_iff_of_ascending {ids : List ℤ} (h : ids.Pairwise (· < ·)) {r : ℤ → ℤ → Prop} :
    ids.Pairwise r ↔ ∀ a ∈ ids, ∀ b ∈ ids, a < b → r a b := by
  constructor
  · intro hr a ha b hb hlt
    obtain ⟨i, hi, rfl⟩ := List.mem_iff_getElem.1 ha
    obtain ⟨j, hj, rfl⟩ := List.mem_iff_getElem.1 hb
    rcases lt_trichotomy i j with hij | rfl | hij
    · exact List.pairwise_iff_getElem.1 hr i j hi hj hij
    · exact absurd hlt (lt_irrefl _)
    · exact absurd hlt (List.pairwise_iff_getElem.1 h j i hj hi hij).asymm
  · intro hr
    exact h.imp_of_mem fun ha hb => hr _ ha _ hb

/-- Without jumps the stations ascend. -/
lemma pairwise_stationsAround_zero (space : Space) (filter : StationFilter)
    (places : List Place) : (space.stationsAround filter places 0).Pairwise (· < ·) := by
  rw [stationsAround, if_pos rfl]
  exact pairwise_toList_numbers _

/-- **With jumps the stations ascend** just when those of each system do and the systems number
their stops in order. -/
lemma pairwise_stationsAround (hjumps : jumps ≠ 0) :
    (space.stationsAround filter places jumps).Pairwise (· < ·) ↔
      (∀ system, space.ReachedFrom places jumps system →
        (space.stationsOf filter (.system system)).Pairwise (· < ·)) ∧
      space.NumbersInOrder filter places jumps := by
  rw [stationsAround_eq space filter places hjumps, List.pairwise_flatMap,
    pairwise_iff_of_ascending (space.pairwise_systemsAround jumps places)]
  simp only [mem_systemsAround, mem_stationsOf_system, NumbersInOrder]
  grind

/-- The stops of a system in a galaxy put together from rows come in order, though they may be
repeated. -/
lemma pairwise_stationsOf_system {rows : Rows} (hrows : space.galaxy = .ofRows rows)
    (system : SystemId) :
    (space.stationsOf filter (.system system)).Pairwise (· < ·) ↔
      (space.stationsOf filter (.system system)).Nodup := by
  have hlisted : ((space.galaxy.stationsIn system).map Station.id).Pairwise (· ≤ ·) := by
    rw [hrows, Galaxy.map_id_stationsIn_ofRows]
    exact List.sortedLE_mergeSort.pairwise
  have hstops : (space.stationsOf filter (.system system)).Pairwise (· ≤ ·) :=
    hlisted.sublist (List.filter_sublist.map _)
  exact ⟨fun h => h.imp ne_of_lt, fun h => (hstops.and h).imp fun hab => lt_of_le_of_ne hab.1 hab.2⟩

/-- In a galaxy put together from rows they ascend without jumps, and with jumps just when no system
reached lists a stop twice and the systems number their stops in order. -/
lemma pairwise_stationsAround_iff {rows : Rows} (hrows : space.galaxy = .ofRows rows) :
    (space.stationsAround filter places jumps).Pairwise (· < ·) ↔ jumps = 0 ∨
      (∀ system, space.ReachedFrom places jumps system →
        (space.stationsOf filter (.system system)).Nodup) ∧
      space.NumbersInOrder filter places jumps := by
  obtain rfl | hjumps := eq_or_ne jumps 0
  · exact iff_of_true (space.pairwise_stationsAround_zero filter places) (.inl rfl)
  · simp only [pairwise_stationsAround hjumps, pairwise_stationsOf_system hrows,
      or_iff_right hjumps]

/-! #### Where the systems part the stations -/

section Parted

variable (hparted : space.galaxy.Parted)
include hparted

/-- A stop is on record, with the system it is a stop of. -/
lemma Hosts.exists_record {system : SystemId} {id : StationId} (h : space.Hosts filter system id) :
    ∃ s, s.id = id ∧ space.galaxy.station? s.id = some s ∧ s.system = system := by
  obtain ⟨s, hs, hid, -⟩ := h
  exact ⟨s, hid, (hparted.mem_iff _ _).1 hs⟩

/-- A stop of a system lies in it. -/
lemma Hosts.system_eq {system : SystemId} {s : Station} (h : space.Hosts filter system s.id)
    (hs : space.galaxy.station? s.id = some s) : s.system = system := by
  obtain ⟨t, hid, ht, hsystem⟩ := h.exists_record hparted
  rw [hid, hs] at ht
  exact Option.some.inj ht ▸ hsystem

lemma nodup_stationsOf_system (system : SystemId) :
    (space.stationsOf filter (.system system)).Nodup :=
  ((hparted.ascending system).imp ne_of_lt).sublist (List.filter_sublist.map _)

/-- No station is collected twice. -/
lemma nodup_stationsAround : (space.stationsAround filter places jumps).Nodup := by
  obtain rfl | hjumps := eq_or_ne jumps 0
  · exact (space.pairwise_stationsAround_zero filter places).imp ne_of_lt
  · rw [stationsAround_eq space filter places hjumps, List.nodup_flatMap]
    refine ⟨fun system _ => nodup_stationsOf_system hparted system,
      (space.pairwise_systemsAround jumps places).imp ?_⟩
    intro a b hlt id ha hb
    obtain ⟨s, rfl, hs, hsystem⟩ := (mem_stationsOf_system.1 ha).exists_record hparted
    exact hlt.ne (hsystem.symm.trans ((mem_stationsOf_system.1 hb).system_eq hparted hs))

/-- The systems number their stops in order when the stations collected are numbered in the order
of their systems. -/
lemma numbersInOrder_iff (hjumps : jumps ≠ 0) : space.NumbersInOrder filter places jumps ↔
    ∀ s t : Station, space.galaxy.station? s.id = some s → space.galaxy.station? t.id = some t →
      s.id ∈ space.stationsAround filter places jumps →
      t.id ∈ space.stationsAround filter places jumps → s.system < t.system → s.id < t.id := by
  constructor
  · intro h s t hs ht hfound hfound' hlt
    obtain ⟨a, hreached, hhosts⟩ := (mem_stationsAround hjumps).1 hfound
    obtain ⟨b, hreached', hhosts'⟩ := (mem_stationsAround hjumps).1 hfound'
    rw [hhosts.system_eq hparted hs, hhosts'.system_eq hparted ht] at hlt
    exact h a b hreached hreached' hlt _ _ hhosts hhosts'
  · intro h a b hreached hreached' hlt x y hhosts hhosts'
    obtain ⟨s, rfl, hs, rfl⟩ := hhosts.exists_record hparted
    obtain ⟨t, rfl, ht, rfl⟩ := hhosts'.exists_record hparted
    exact h s t hs ht ((mem_stationsAround hjumps).2 ⟨_, hreached, hhosts⟩)
      ((mem_stationsAround hjumps).2 ⟨_, hreached', hhosts'⟩) hlt

/-- The stations ascend without jumps, and with jumps just when they are numbered in the order of
their systems. -/
lemma pairwise_stationsAround_iff_of_parted :
    (space.stationsAround filter places jumps).Pairwise (· < ·) ↔ jumps = 0 ∨
      ∀ s t : Station, space.galaxy.station? s.id = some s → space.galaxy.station? t.id = some t →
        s.id ∈ space.stationsAround filter places jumps →
        t.id ∈ space.stationsAround filter places jumps → s.system < t.system → s.id < t.id := by
  obtain rfl | hjumps := eq_or_ne jumps 0
  · exact iff_of_true (space.pairwise_stationsAround_zero filter places) (.inl rfl)
  · rw [or_iff_right hjumps, pairwise_stationsAround hjumps, numbersInOrder_iff hparted hjumps]
    refine and_iff_right fun system _ => ?_
    exact (hparted.ascending system).sublist (List.filter_sublist.map _)

end Parted

/-- **In which order stations are collected.** In a galaxy put together from rows they ascend
without jumps. With jumps they do just when no system reached lists a stop twice and the systems
reached number their stops in order. If no two rows that are taken over have one number no station
is collected twice, and the stations ascend just when, of any two of them in different systems, the
one in the system with the smaller number has the smaller number. -/
theorem stationsAround_order (rows : Rows) (range : Float) (avoid : PlaceSet)
    (filter : StationFilter) (places : List Place) (jumps : Nat) :
    let space : Space := ⟨.ofRows rows, range, avoid⟩
    let found := space.stationsAround filter places jumps
    (found.Pairwise (· < ·) ↔ jumps = 0 ∨
      (∀ system, space.ReachedFrom places jumps system →
        (space.stationsOf filter (.system system)).Nodup) ∧
      space.NumbersInOrder filter places jumps) ∧
    ((rows.placed.map Station.id).Nodup → found.Nodup ∧
      (found.Pairwise (· < ·) ↔ jumps = 0 ∨
        ∀ s t : Station, space.galaxy.station? s.id = some s → space.galaxy.station? t.id = some t →
          s.id ∈ found → t.id ∈ found → s.system < t.system → s.id < t.id)) := by
  refine ⟨pairwise_stationsAround_iff rfl, fun hids => ?_⟩
  have hparted : (Galaxy.ofRows rows).Parted := Galaxy.parted_of_nodup hids
  exact ⟨nodup_stationsAround hparted, pairwise_stationsAround_iff_of_parted hparted⟩

end Space

/-- The two posts are collected in the order of their systems, which is not that of their own
numbers. -/
theorem stationsAround_order_crossed :
    (crossedRows.placed.map Station.id).Nodup ∧
      crossedSpace.stationsAround {} [.system 2] 1 = [2, 1] ∧
      ¬ (crossedSpace.stationsAround {} [.system 2] 1).Pairwise (· < ·) := by
  refine ⟨by decide +kernel, crossedSpace_stationsAround, ?_⟩
  rw [crossedSpace_stationsAround]
  decide

/-- Each of the two posts is collected once. -/
theorem stationsAround_order_crossed_nodup :
    (crossedRows.placed.map Station.id).Nodup ∧
      (crossedSpace.stationsAround {} [.system 2] 1).Nodup := by
  have hids : (crossedRows.placed.map Station.id).Nodup := by decide +kernel
  have horder := Space.stationsAround_order crossedRows 5.0 .empty {} [.system 2] 1
  exact ⟨hids, (horder.2 hids).1⟩

end TradeRun
