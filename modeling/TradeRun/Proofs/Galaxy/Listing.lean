import Mathlib.Tactic
import TradeRun.Galaxy.Assembly
import TradeRun.Proofs.Sorting

/-!
What a galaxy put together from rows lists.

* `Register.find?_ofList`: of several records with one number the last one stays;
* `Rows.placed`, `Rows.priced`: the rows that are taken over;
* `Galaxy.listing_ofRows`, `Galaxy.of_station?_ofRows`: a system of the galaxy lists the numbers of
  the rows that name it, whereas a station of the galaxy is what one row makes of its number;
* `Galaxy.system?_of_station?_ofRows`: no station is there without its system;
* `Galaxy.system_of_mem_stationsIn_placed`: where no two rows have one number these are the same
  row, so that **a system lists no station of another system**.
-/

namespace TradeRun

/-! ### Registers -/

/-- Of several records with one number the last one stays. -/
theorem Register.find?_ofList {α : Type} {number : α → Int} (as : List α) (n : Int) :
    (Register.ofList as : Register α number).find? n
      = as.reverse.find? fun a => number a == n := by
  have grown (r : Register α number) : (as.foldl Register.insert r).find? n
      = (as.reverse.find? fun a => number a == n).or (r.find? n) := by
    induction as generalizing r with
    | nil => rfl
    | cons a rest ih =>
        rw [List.foldl_cons, ih, find?_insert, List.reverse_cons, List.find?_append,
          Option.or_assoc]
        by_cases h : number a = n <;> simp [h]
  rw [ofList, grown, find?_empty, Option.or_none]

/-- A record that is found is listed. -/
lemma Register.mem_toList_of_find? {α : Type} {number : α → Int} {r : Register α number} {n : Int}
    {a : α} (h : r.find? n = some a) : a ∈ r.toList :=
  mem_toList.2 (number_of_find? h ▸ h)

/-- Records of one number that are listed are one. -/
lemma Register.eq_of_mem_toList {α : Type} {number : α → Int} {r : Register α number} {a b : α}
    (ha : a ∈ r.toList) (hb : b ∈ r.toList) (h : number a = number b) : a = b := by
  have hfound := mem_toList.1 ha
  rw [h, mem_toList.1 hb] at hfound
  exact (Option.some.inj hfound).symm

/-- No record is listed twice. -/
lemma Register.nodup_toList {α : Type} {number : α → Int} (r : Register α number) :
    r.toList.Nodup :=
  (pairwise_toList r).imp fun hlt heq => hlt.ne (congrArg number heq)

/-! ### Listings -/

namespace Rows

/-- The numbers listed for a system are those of the rows that name it, the last one first. -/
lemma getD_listings (rows : List Station) (system : SystemId) :
    (listings rows).getD system []
      = ((rows.filter (·.system == system)).map Station.id).reverse := by
  have grown (m : Std.ExtTreeMap SystemId (List StationId)) :
      (rows.foldl (fun m s => m.insert s.system (s.id :: m.getD s.system [])) m).getD system []
        = ((rows.filter (·.system == system)).map Station.id).reverse ++ m.getD system [] := by
    induction rows generalizing m with
    | nil => rfl
    | cons row rest ih =>
        rw [List.foldl_cons, ih, Std.ExtTreeMap.getD_insert, List.filter_cons]
        by_cases h : row.system = system <;> simp [h]
  rw [listings, grown]
  simp

/-- The station rows that are taken over: those whose system is there. -/
def placed (rows : Rows) : List Station :=
  rows.stations.filter fun s => (systemRegister rows.systems).has s.system

/-- The price rows that are taken over: those whose station and item are there. -/
def priced (rows : Rows) : List PriceRow :=
  rows.prices.filter fun p => (stationRegister rows.placed).has p.station
    && (Register.ofList rows.items : Register Item Item.id).has p.item

end Rows

namespace Galaxy

variable {rows : Rows} {id : StationId} {s : Station} {system : SystemId}

/-! ### Galaxies -/

lemma system?_ofRows (rows : Rows) (id : SystemId) :
    (ofRows rows).system? id = ((Rows.systemRegister rows.systems).find? id).map fun s =>
      s.withListing ((Rows.listings rows.placed).getD s.id []).mergeSort :=
  Register.find?_map _ (fun _ => rfl) _ _

lemma station?_ofRows (rows : Rows) (id : StationId) :
    (ofRows rows).station? id = ((Rows.stationRegister rows.placed).find? id).map fun s =>
      s.withMarket ((Rows.markets rows.priced).getD s.id ∅) :=
  Register.find?_map _ (fun _ => rfl) _ _

/-- A system of the galaxy lists the numbers of the rows that name it, in ascending order. -/
lemma listing_ofRows {sys : StarSystem} (h : (ofRows rows).system? system = some sys) :
    sys.listing = ((rows.placed.filter (·.system == system)).map Station.id).mergeSort := by
  rw [system?_ofRows, Option.map_eq_some_iff] at h
  obtain ⟨bare, hbare, rfl⟩ := h
  have hid : bare.id = system := Register.number_of_find? hbare
  rw [StarSystem.withListing, hid, Rows.getD_listings]
  -- sorting forgets the order in which the rows came
  exact mergeSort_eq_of_perm (List.reverse_perm _)

lemma mem_listing_ofRows {sys : StarSystem} (h : (ofRows rows).system? system = some sys) :
    id ∈ sys.listing ↔ ∃ row ∈ rows.placed, row.system = system ∧ row.id = id := by
  simp [listing_ofRows h, and_assoc]

/-- A station of the galaxy is what one row makes of its number, with a market. -/
lemma of_station?_ofRows (h : (ofRows rows).station? id = some s) :
    ∃ row ∈ rows.placed, row.id = id ∧ ∃ market, s = row.withMarket market := by
  rw [station?_ofRows, Option.map_eq_some_iff] at h
  obtain ⟨bare, hbare, rfl⟩ := h
  have hid : bare.id = id := Register.number_of_find? hbare
  rw [Rows.stationRegister, Register.find?_ofList] at hbare
  obtain ⟨row, hrow, rfl⟩ := List.mem_map.1 (List.mem_reverse.1 (List.mem_of_find?_eq_some hbare))
  exact ⟨row, hrow, hid, _, rfl⟩

/-- The system of a station is on record. -/
lemma system?_of_station?_ofRows (h : (ofRows rows).station? id = some s) :
    ∃ sys, (ofRows rows).system? s.system = some sys := by
  obtain ⟨row, hrow, -, market, rfl⟩ := of_station?_ofRows h
  obtain ⟨bare, hbare⟩ := Option.isSome_iff_exists.1 (List.mem_filter.1 hrow).2
  rw [system?_ofRows, Station.withMarket, hbare]
  exact ⟨_, rfl⟩

/-- **A system lists no station of another system** where no two rows that are taken over have one
number. -/
lemma system_of_mem_stationsIn_placed (hids : (rows.placed.map Station.id).Nodup)
    (h : s ∈ (ofRows rows).stationsIn system) : s.system = system := by
  rw [stationsIn] at h
  split at h
  · next sys hsys =>
    obtain ⟨number, hnumber, hs⟩ := List.mem_filterMap.1 h
    obtain ⟨listed, hlisted, hsystem, hid⟩ := (mem_listing_ofRows hsys).1 hnumber
    obtain ⟨row, hrow, hid', market, rfl⟩ := of_station?_ofRows hs
    obtain rfl := List.inj_on_of_nodup_map hids hlisted hrow (hid.trans hid'.symm)
    exact hsystem
  · cases h

/-- The same where no two rows at all have one number. -/
theorem system_of_mem_stationsIn_ofRows (hids : (rows.stations.map Station.id).Nodup)
    (h : s ∈ (ofRows rows).stationsIn system) : s.system = system :=
  system_of_mem_stationsIn_placed (hids.sublist (List.filter_sublist.map _)) h

end Galaxy

end TradeRun
