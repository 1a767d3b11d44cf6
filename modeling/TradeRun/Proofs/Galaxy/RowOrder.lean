import TradeRun.Galaxy.Deals
import TradeRun.Proofs.Galaxy.Names

/-!
The order of rows.

Rows are read one after the other: a later row takes the place of an earlier one with its number, a
station joins the list of its system, and a row is left out if what it refers to is not there. Where
no two rows have one number none of this hangs on their order.

* `Rows.Distinct`: each number is given once, and each item has one price at a station;
* `Rows.Perm`: the same rows in other orders;
* `Register.ofList_perm`, `Rows.getD_markets_perm`: registers and markets of rows in another order;
* `Rows.Perm.placed`, `Rows.Perm.priced`: the same rows are taken over;
* `Galaxy.ofRows_perm`: **the galaxy does not depend on the order of the rows**;
* `ofRows_perm_twinSuns`: two systems and two items of one name, read in either order.
-/

namespace TradeRun

/-- The last member with a key that no two members share does not depend on their order. -/
lemma find?_reverse_eq_of_perm {α κ : Type} [BEq κ] [LawfulBEq κ] {key : α → κ} {as bs : List α}
    (hkeys : (as.map key).Nodup) (hperm : bs.Perm as) (k : κ) :
    (bs.reverse.find? fun b => key b == k) = as.reverse.find? fun a => key a == k := by
  have hmem (b : α) : b ∈ bs.reverse ↔ b ∈ as.reverse := by
    rw [List.mem_reverse, List.mem_reverse, hperm.mem_iff]
  cases hfound : as.reverse.find? fun a => key a == k with
  | none =>
      rw [List.find?_eq_none] at hfound ⊢
      exact fun b hb => hfound b ((hmem b).1 hb)
  | some a =>
      have ha := List.mem_of_find?_eq_some hfound
      have hkey : key a = k := by simpa using List.find?_some hfound
      refine find?_eq_some_of_unique ((hmem a).2 ha) (beq_iff_eq.2 hkey) fun b hb hsame => ?_
      exact List.inj_on_of_nodup_map hkeys (List.mem_reverse.1 ((hmem b).1 hb))
        (List.mem_reverse.1 ha) ((beq_iff_eq.1 hsame).trans hkey.symm)

/-- **A register of records with numbers of their own does not depend on their order.** -/
lemma Register.ofList_perm {α : Type} {number : α → Int} {as bs : List α}
    (hnumbers : (as.map number).Nodup) (hperm : bs.Perm as) :
    (ofList bs : Register α number) = ofList as := by
  refine ext_find? fun n => ?_
  rw [find?_ofList, find?_ofList]
  exact find?_reverse_eq_of_perm hnumbers hperm n

namespace Rows

/-- Each number is given once, and each item has one price at a station. -/
structure Distinct (rows : Rows) : Prop where
  systems : (rows.systems.map StarSystem.id).Nodup
  stations : (rows.stations.map Station.id).Nodup
  items : (rows.items.map Item.id).Nodup
  prices : (rows.prices.map fun p => (p.station, p.item)).Nodup

/-- The same rows in other orders. -/
structure Perm (others rows : Rows) : Prop where
  systems : others.systems.Perm rows.systems
  stations : others.stations.Perm rows.stations
  items : others.items.Perm rows.items
  prices : others.prices.Perm rows.prices

variable {rows others : Rows}

/-! ### Markets -/

/-- The price of an item at a station is that of the last row for it. -/
lemma getElem?_markets (rows : List PriceRow) (station : StationId) (item : ItemId) :
    ((markets rows).getD station ∅)[item]?
      = (rows.reverse.find? fun p => (p.station, p.item) == (station, item)).map
          PriceRow.price := by
  have grown (m : Std.ExtTreeMap StationId Market) :
      ((rows.foldl (fun m p => m.insert p.station ((m.getD p.station ∅).insert p.item p.price))
          m).getD station ∅)[item]?
        = ((rows.reverse.find? fun p => (p.station, p.item) == (station, item)).map
            PriceRow.price).or (m.getD station ∅)[item]? := by
    induction rows generalizing m with
    | nil => rfl
    | cons row rest ih =>
        rw [List.foldl_cons, ih, Std.ExtTreeMap.getD_insert, List.reverse_cons,
          List.find?_append, Option.map_or, Option.or_assoc]
        congr 1
        by_cases hstation : row.station = station
        · by_cases hitem : row.item = item <;>
            simp [hstation, hitem, Std.ExtTreeMap.getElem?_insert]
        · simp [hstation]
  rw [markets, grown]
  simp

/-- **The market of a station does not depend on the order of the rows.** -/
lemma getD_markets_perm {prices others : List PriceRow}
    (hkeys : (prices.map fun p => (p.station, p.item)).Nodup) (hperm : others.Perm prices)
    (station : StationId) : (markets others).getD station ∅ = (markets prices).getD station ∅ := by
  refine Std.ExtTreeMap.ext_getElem? fun item => ?_
  rw [getElem?_markets, getElem?_markets, find?_reverse_eq_of_perm hkeys hperm]

/-! ### The rows that are taken over -/

lemma Perm.systemRegister (hperm : others.Perm rows) (h : rows.Distinct) :
    systemRegister others.systems = systemRegister rows.systems := by
  refine Register.ofList_perm ?_ (hperm.systems.map _)
  rw [List.map_map]
  exact h.systems

/-- The same stations are taken over. -/
lemma Perm.placed (hperm : others.Perm rows) (h : rows.Distinct) :
    others.placed.Perm rows.placed := by
  rw [Rows.placed, Rows.placed, hperm.systemRegister h]
  exact hperm.stations.filter _

lemma Distinct.placed (h : rows.Distinct) : (rows.placed.map Station.id).Nodup :=
  h.stations.sublist (List.filter_sublist.map _)

lemma Perm.stationRegister (hperm : others.Perm rows) (h : rows.Distinct) :
    stationRegister others.placed = stationRegister rows.placed := by
  refine Register.ofList_perm ?_ ((hperm.placed h).map _)
  rw [List.map_map]
  exact h.placed

lemma Perm.itemRegister (hperm : others.Perm rows) (h : rows.Distinct) :
    (Register.ofList others.items : Register Item Item.id) = Register.ofList rows.items :=
  Register.ofList_perm h.items hperm.items

/-- The same prices are taken over. -/
lemma Perm.priced (hperm : others.Perm rows) (h : rows.Distinct) :
    others.priced.Perm rows.priced := by
  rw [Rows.priced, Rows.priced, hperm.stationRegister h, hperm.itemRegister h]
  exact hperm.prices.filter _

lemma Distinct.priced (h : rows.Distinct) :
    (rows.priced.map fun p => (p.station, p.item)).Nodup :=
  h.prices.sublist (List.filter_sublist.map _)

/-- What a system lists, once it is sorted. -/
lemma Perm.mergeSort_listings (hperm : others.Perm rows) (h : rows.Distinct) (id : SystemId) :
    ((listings others.placed).getD id []).mergeSort
      = ((listings rows.placed).getD id []).mergeSort := by
  rw [getD_listings, getD_listings]
  refine mergeSort_eq_of_perm ?_
  exact (List.reverse_perm _).trans
    ((((hperm.placed h).filter _).map _).trans (List.reverse_perm _).symm)

end Rows

/-- **The galaxy does not depend on the order of the rows** where each number is given once and each
item has one price at a station: from the same rows in other orders there comes one and the same
galaxy, so that no question to it is answered in another way. Names that several systems or items
have are no exception, nor are rows that are left out. -/
theorem Galaxy.ofRows_perm {rows others : Rows} (h : rows.Distinct) (hperm : others.Perm rows) :
    ofRows others = ofRows rows := by
  refine ext_records (Register.ext_find? fun id => ?_) (Register.ext_find? fun id => ?_)
    (hperm.itemRegister h)
  · change (ofRows others).system? id = (ofRows rows).system? id
    rw [system?_ofRows, system?_ofRows, hperm.systemRegister h]
    simp only [hperm.mergeSort_listings h]
  · change (ofRows others).station? id = (ofRows rows).station? id
    rw [station?_ofRows, station?_ofRows, hperm.stationRegister h]
    simp only [Rows.getD_markets_perm h.priced (hperm.priced h)]

/-! #### Two suns -/

/-- Two systems of one name, each with a port, a wreck that is nowhere, and two items of one name,
of which one is traded. -/
def twinRows : Rows where
  systems := [⟨1, "Sol", ⟨0.0, 0.0, 0.0⟩, []⟩, ⟨2, "SOL", ⟨2.0, 0.0, 0.0⟩, []⟩]
  stations := [{ id := 1, name := "Quay", system := 1 }, { id := 2, name := "Dock", system := 2 },
    { id := 3, name := "Wreck", system := 9 }]
  items := [⟨1, "Ore"⟩, ⟨2, "ORE"⟩]
  prices := [⟨1, 1, { ask := 10, age := 2.0 }⟩, ⟨2, 1, { bid := 15 }⟩, ⟨3, 1, { bid := 20 }⟩]

/-- The same rows from the last one to the first. -/
def twinRowsBackwards : Rows where
  systems := twinRows.systems.reverse
  stations := twinRows.stations.reverse
  items := twinRows.items.reverse
  prices := twinRows.prices.reverse

/-- Backwards the rows make the same galaxy: of one name the greater number still counts, the wreck
is still left out, and the ore still brings the same gain. -/
theorem ofRows_perm_twinSuns :
    twinRows.Distinct ∧ twinRowsBackwards.Perm twinRows ∧
      Galaxy.ofRows twinRowsBackwards = Galaxy.ofRows twinRows ∧
      ((Galaxy.ofRows twinRowsBackwards).systemNamed? "sol").map StarSystem.id = some 2 ∧
      ((Galaxy.ofRows twinRowsBackwards).itemNamed? "ore").map Item.id = some 2 ∧
      (Galaxy.ofRows twinRowsBackwards).stationCount = 2 ∧
      ((Galaxy.ofRows twinRowsBackwards).deals 1 2).map Deal.gain = [5] := by
  have hdistinct : twinRows.Distinct := ⟨by decide, by decide, by decide, by decide⟩
  have hperm : twinRowsBackwards.Perm twinRows :=
    ⟨List.reverse_perm _, List.reverse_perm _, List.reverse_perm _, List.reverse_perm _⟩
  have hsame := Galaxy.ofRows_perm hdistinct hperm
  rw [hsame]
  exact ⟨hdistinct, hperm, rfl, by decide +kernel⟩

end TradeRun
