import TradeRun.Proofs.Steps
import TradeRun.Proofs.Store.Slots
import TradeRun.Store.Loading

/-!
Stores without some of their columns.

Some columns of the stations and of the prices need not be there. Instead of the cells of a missing
column there are substitutes, and the age of a price is looked up in one of two columns. Nothing is
lost by that: the galaxy is the one that a column of nulls would give.

* `Store.without`, `Store.blanked`: a store without some columns, and with nulls in them;
* `stationOfRow_without`, `priceOfRow_without`: a row without the columns is read as the row with
  nulls;
* `Rows.ofStore_without`: **so is a store**;
* `Galaxy.ofStore_missing`: **and it is read if it was before**.
-/

namespace TradeRun

open OptionalColumn (names Required)

/-! ### Stores without some columns -/

namespace Store

/-- The store with each table changed in some way. -/
def mapTables (f : Table → Table) (s : Store) : Store where
  relations := s.relations.map fun relation =>
    match relation with
    | .table t => .table (f t)
    | .view name => .view name

/-- The store without some columns. -/
def without (missing : List OptionalColumn) (s : Store) : Store := s.mapTables (.without missing)

/-- The store with nulls in some columns. -/
def blanked (missing : List OptionalColumn) (s : Store) : Store := s.mapTables (.blanked missing)

end Store

/-! ### Rows -/

section Rows

variable {missing : List OptionalColumn} {t : Table}

/-- The age of a price is read alike without the columns and with nulls in them, if no column of
times is read in place of a missing column of ages. -/
lemma map_age_without (hage : names missing t.name "age_days" →
      names missing t.name "modified" ∨ ¬ t.hasColumn "modified") (now : Float) (row : List Cell) :
    (((t.without missing).slot (t.keptCells missing row) 5 (ageColumn (t.without missing))).read
        (Cell.optional Cell.float?)).map (ageOf (t.without missing) now)
      = (((t.blanked missing).slot (t.blankedCells missing row) 5
        (ageColumn (t.blanked missing))).read (Cell.optional Cell.float?)).map
          (ageOf (t.blanked missing) now) := by
  have hdays := Table.hasColumn_without missing t "age_days"
  cases hnames : names missing t.name "age_days" with
  | false =>
      rw [hnames, Bool.not_false, Bool.true_and] at hdays
      have hcolumn : ageColumn (t.without missing) = ageColumn (t.blanked missing) := by
        rw [ageColumn, hdays]
        rfl
      have hmeaning : ageOf (t.without missing) now = ageOf (t.blanked missing) now := by
        funext stored
        cases stored with
        | none => rfl
        | some stored =>
            rw [ageOf, hdays]
            rfl
      rw [hcolumn, hmeaning]
      exact Table.map_read_without rfl row 5 _
  | true =>
      rw [hnames, Bool.not_true, Bool.false_and] at hdays
      have htimes : ¬ (t.without missing).hasColumn "modified" := by
        rw [Table.hasColumn_without]
        rcases hage hnames with h | h <;> simp [h]
      have hnull : ((t.blanked missing).slot (t.blankedCells missing row) 5
          (ageColumn (t.blanked missing))).read (Cell.optional Cell.float?) = .ok none := by
        rw [ageColumn]
        split_ifs with hcolumn
        · exact Table.read_blanked_of_names (.inl hnames) row 5
        · exact Table.read_blanked_of_names (hage hnames) row 5
      rw [hnull, ageColumn, hdays, Table.slot, if_neg Bool.false_ne_true,
        Table.slotOr_of_not_hasColumn htimes]
      rfl

/-- The columns of the systems are read without others and with nulls in them as before. -/
lemma systemOfRow_eq (ht : t.name = "System") (row : List Cell) :
    systemOfRow (t.without missing) (t.keptCells missing row) = systemOfRow t row ∧
      systemOfRow (t.blanked missing) (t.blankedCells missing row) = systemOfRow t row := by
  have hid : Required t.name "system_id" := ht ▸ by decide
  have hname : Required t.name "name" := ht ▸ by decide
  have hx : Required t.name "pos_x" := ht ▸ by decide
  have hy : Required t.name "pos_y" := ht ▸ by decide
  have hz : Required t.name "pos_z" := ht ▸ by decide
  constructor
  · simp only [systemOfRow, Table.read_without hid, Table.read_without hname,
      Table.read_without hx, Table.read_without hy, Table.read_without hz]
  · simp only [systemOfRow, Table.read_blanked hid, Table.read_blanked hname,
      Table.read_blanked hx, Table.read_blanked hy, Table.read_blanked hz]

/-- The columns of the items are read without others and with nulls in them as before. -/
lemma itemOfRow_eq (ht : t.name = "Item") (row : List Cell) :
    itemOfRow (t.without missing) (t.keptCells missing row) = itemOfRow t row ∧
      itemOfRow (t.blanked missing) (t.blankedCells missing row) = itemOfRow t row := by
  have hid : Required t.name "item_id" := ht ▸ by decide
  have hname : Required t.name "name" := ht ▸ by decide
  constructor
  · simp only [itemOfRow, Table.read_without hid, Table.read_without hname]
  · simp only [itemOfRow, Table.read_blanked hid, Table.read_blanked hname]

/-- **A station without some columns is the one with nulls in them.** -/
lemma stationOfRow_without (ht : t.name = "Station") (row : List Cell) :
    stationOfRow (t.without missing) (t.keptCells missing row)
      = stationOfRow (t.blanked missing) (t.blankedCells missing row) := by
  have hid : Required t.name "station_id" := ht ▸ by decide
  have hname : Required t.name "name" := ht ▸ by decide
  have hsystem : Required t.name "system_id" := ht ▸ by decide
  simp only [stationOfRow, Table.read_without hid, Table.read_without hname,
    Table.read_without hsystem, Table.read_blanked hid, Table.read_blanked hname,
    Table.read_blanked hsystem]
  refine bind_congr fun id => bind_congr fun name => bind_congr fun system => ?_
  -- what matters of the cells is what the station makes of them
  refine bind_congr_of_map (Table.map_read_without (f := (·.getD 0.0)) rfl row 3 _)
    fun distance distance' hdistance => ?_
  refine bind_congr_of_map (Table.map_read_without (f := (·.bind flagOf?)) rfl row 4 _)
    fun market market' hmarket => ?_
  refine bind_congr_of_map (Table.map_read_without (f := (·.elim .unknown padOf)) rfl row 5 _)
    fun pad pad' hpad => ?_
  rw [hdistance, hmarket, hpad]

/-- **A price without some columns is the one with nulls in them.** -/
lemma priceOfRow_without (ht : t.name = "StationItem")
    (hage : names missing t.name "age_days" →
      names missing t.name "modified" ∨ ¬ t.hasColumn "modified") (now : Float) (row : List Cell) :
    priceOfRow now (t.without missing) (t.keptCells missing row)
      = priceOfRow now (t.blanked missing) (t.blankedCells missing row) := by
  have hstation : Required t.name "station_id" := ht ▸ by decide
  have hitem : Required t.name "item_id" := ht ▸ by decide
  have hbid : Required t.name "demand_price" := ht ▸ by decide
  have hask : Required t.name "supply_price" := ht ▸ by decide
  simp only [priceOfRow, Table.read_without hstation, Table.read_without hitem,
    Table.read_without hbid, Table.read_without hask, Table.read_blanked hstation,
    Table.read_blanked hitem, Table.read_blanked hbid, Table.read_blanked hask]
  refine bind_congr fun station => ?_
  refine bind_congr_of_map (map_age_without hage now row) fun stored stored' hstored => ?_
  refine bind_congr_of_map (Table.map_read_without (f := id) rfl row 4 _)
    fun units units' hunits => ?_
  obtain rfl : units = units' := hunits
  rw [hstored]

/-- A station that can be read can be read with nulls in some columns. -/
lemma exists_stationOfRow_blanked (ht : t.name = "Station") {row : List Cell}
    (h : ∃ station, stationOfRow t row = .ok station) :
    ∃ station, stationOfRow (t.blanked missing) (t.blankedCells missing row) = .ok station := by
  have hid : Required t.name "station_id" := ht ▸ by decide
  have hname : Required t.name "name" := ht ▸ by decide
  have hsystem : Required t.name "system_id" := ht ▸ by decide
  obtain ⟨station, h⟩ := h
  simp only [stationOfRow, bind_eq_ok] at h
  obtain ⟨id, hreadId, name, hreadName, system, hreadSystem, distance, hdistance, market, hmarket,
    pad, hpad, -⟩ := h
  obtain ⟨distance', hdistance'⟩ := Table.exists_read_blanked missing ⟨_, hdistance⟩
  obtain ⟨market', hmarket'⟩ := Table.exists_read_blanked missing ⟨_, hmarket⟩
  obtain ⟨pad', hpad'⟩ := Table.exists_read_blanked missing ⟨_, hpad⟩
  simp only [stationOfRow, bind_eq_ok, Table.read_blanked hid, Table.read_blanked hname,
    Table.read_blanked hsystem]
  exact ⟨_, id, hreadId, name, hreadName, system, hreadSystem, distance', hdistance', market',
    hmarket', pad', hpad', rfl⟩

/-- A price that can be read can be read with nulls in some columns. -/
lemma exists_priceOfRow_blanked (ht : t.name = "StationItem") {now : Float} {row : List Cell}
    (h : ∃ price, priceOfRow now t row = .ok price) :
    ∃ price, priceOfRow now (t.blanked missing) (t.blankedCells missing row) = .ok price := by
  have hstation : Required t.name "station_id" := ht ▸ by decide
  have hitem : Required t.name "item_id" := ht ▸ by decide
  have hbid : Required t.name "demand_price" := ht ▸ by decide
  have hask : Required t.name "supply_price" := ht ▸ by decide
  obtain ⟨price, h⟩ := h
  simp only [priceOfRow, bind_eq_ok] at h
  obtain ⟨station, hreadStation, stored, hstored, units, hunits, item, hreadItem, bid, hreadBid,
    ask, hreadAsk, -⟩ := h
  obtain ⟨stored', hstored'⟩ := Table.exists_read_blanked missing ⟨_, hstored⟩
  obtain ⟨units', hunits'⟩ := Table.exists_read_blanked missing ⟨_, hunits⟩
  simp only [priceOfRow, bind_eq_ok, Table.read_blanked hstation, Table.read_blanked hitem,
    Table.read_blanked hbid, Table.read_blanked hask]
  exact ⟨_, station, hreadStation, stored', hstored', units', hunits', item, hreadItem, bid,
    hreadBid, ask, hreadAsk, rfl⟩

end Rows

/-! ### Tables -/

namespace Table

variable {missing : List OptionalColumn} {t : Table} {α : Type}
  {ofRow : Table → List Cell → Except StoreError α}

lemma mapRows_without (h : ∀ row, ofRow (t.without missing) (t.keptCells missing row)
      = ofRow (t.blanked missing) (t.blankedCells missing row)) :
    (t.without missing).mapRows ofRow = (t.blanked missing).mapRows ofRow := by
  have hrows : (t.without missing).rows.mapM (ofRow (t.without missing))
      = (t.blanked missing).rows.mapM (ofRow (t.blanked missing)) := by
    rw [without, blanked, List.mapM_map, List.mapM_map]
    exact congrArg (fun f => t.rows.mapM f) (funext h)
  rw [mapRows, mapRows, hrows]
  rfl

/-- All rows of a table are read just when each of them can be, and there are no more. -/
lemma exists_mapRows_eq_ok : (∃ records, t.mapRows ofRow = .ok records) ↔
    t.fault = none ∧ ∀ row ∈ t.rows, ∃ record, ofRow t row = .ok record := by
  rw [← exists_mapM_eq_ok, mapRows]
  cases t.fault with
  | none => simp [bind_eq_ok, pure, Except.pure]
  | some fault => simp [bind_eq_ok, throw, throwThe, MonadExceptOf.throw]

lemma exists_mapRows_blanked (hrows : ∀ row, (∃ record, ofRow t row = .ok record) →
      ∃ record, ofRow (t.blanked missing) (t.blankedCells missing row) = .ok record)
    (h : ∃ records, t.mapRows ofRow = .ok records) :
    ∃ records, (t.blanked missing).mapRows ofRow = .ok records := by
  obtain ⟨hfault, hread⟩ := exists_mapRows_eq_ok.1 h
  refine exists_mapRows_eq_ok.2 ⟨hfault, fun row hrow => ?_⟩
  obtain ⟨before, hbefore, rfl⟩ := List.mem_map.1 hrow
  exact hrows before (hread before hbefore)

end Table

/-! ### Stores -/

namespace Store

variable {f : Table → Table} {s : Store} {name : String}

lemma name_of_table? {t : Table} (h : s.table? name = some t) : t.name = name := by
  obtain ⟨relation, -, hrelation⟩ := List.exists_of_findSome?_eq_some h
  split at hrelation
  · split_ifs at hrelation with hname
    cases hrelation
    exact hname
  · cases hrelation

/-- A table is found by its name, which does not change. -/
lemma table?_mapTables (hname : ∀ t, (f t).name = t.name) (s : Store) (name : String) :
    (s.mapTables f).table? name = (s.table? name).map f := by
  rw [table?, table?, mapTables, List.findSome?_map, List.map_findSome?]
  congr 1
  funext relation
  cases relation with
  | table t =>
      simp only [Function.comp_apply, hname]
      split_ifs <;> rfl
  | view name => rfl

lemma table?_of_tableWith {t : Table} {columns : List String}
    (h : s.tableWith name columns = .ok t) : s.table? name = some t := by
  rw [tableWith] at h
  split at h
  · split_ifs at h
    cases h
    assumption
  · cases h

/-- A table that has the columns that it must have has them still. -/
lemma tableWith_mapTables (hname : ∀ t, (f t).name = t.name) {columns : List String}
    (hcolumns : ∀ t : Table, t.name = name → ∀ column ∈ columns,
      (f t).hasColumn column = t.hasColumn column) :
    (s.mapTables f).tableWith name columns = (s.tableWith name columns).map f := by
  rw [tableWith, tableWith, table?_mapTables hname]
  cases htable : s.table? name with
  | none => rfl
  | some t =>
      have hsame : columns.all (f t).hasColumn = columns.all t.hasColumn := by
        rw [Bool.eq_iff_iff, List.all_eq_true, List.all_eq_true]
        refine forall₂_congr fun column hcolumn => ?_
        rw [hcolumns t (name_of_table? htable) column hcolumn]
      simp only [Option.map_some, hsame]
      split_ifs <;> rfl

end Store

namespace Schema

variable {f : Table → Table} {s : Store} {schema : Schema}

/-- The four tables changed in some way. -/
def mapTables (f : Table → Table) (schema : Schema) : Schema where
  systems := f schema.systems
  stations := f schema.stations
  items := f schema.items
  prices := f schema.prices

/-- The four tables are found if the columns that they must have are left. -/
lemma ofStore_mapTables (hname : ∀ t, (f t).name = t.name)
    (hcolumns : ∀ (t : Table) column, Required t.name column →
      (f t).hasColumn column = t.hasColumn column) (s : Store) :
    ofStore (s.mapTables f) = (ofStore s).map (mapTables f) := by
  have hkept {name : String} {columns : List String}
      (h : ∀ column ∈ columns, Required name column) :
      (s.mapTables f).tableWith name columns = (s.tableWith name columns).map f :=
    Store.tableWith_mapTables hname fun t ht column hcolumn =>
      hcolumns t column (ht ▸ h column hcolumn)
  rw [ofStore, ofStore, hkept (by decide), hkept (by decide), hkept (by decide), hkept (by decide)]
  cases s.tableWith "System" _ <;> cases s.tableWith "Station" _ <;>
    cases s.tableWith "Item" _ <;> cases s.tableWith "StationItem" _ <;> rfl

/-- The tables are those of the store that have their names. -/
structure Found (s : Store) (schema : Schema) : Prop where
  systems : s.table? "System" = some schema.systems
  stations : s.table? "Station" = some schema.stations
  items : s.table? "Item" = some schema.items
  prices : s.table? "StationItem" = some schema.prices

lemma found_of_ofStore (h : ofStore s = .ok schema) : schema.Found s := by
  simp only [ofStore, bind_eq_ok] at h
  obtain ⟨systems, hsystems, stations, hstations, items, hitems, prices, hprices, h⟩ := h
  cases h
  exact ⟨Store.table?_of_tableWith hsystems, Store.table?_of_tableWith hstations,
    Store.table?_of_tableWith hitems, Store.table?_of_tableWith hprices⟩

end Schema

/-! ### Galaxies -/

section Loading

variable {missing : List OptionalColumn} {s : Store} {now : Float}

/-- No other column stands in for a missing one: where the column of ages is missing there is no
column of times, or it is missing as well. -/
def Store.NoStandIn (missing : List OptionalColumn) (s : Store) : Prop :=
  .age ∈ missing → .changeTime ∈ missing ∨
    ∀ t, s.table? "StationItem" = some t → ¬ t.hasColumn "modified"

lemma Store.NoStandIn.names {t : Table} (h : s.NoStandIn missing)
    (ht : s.table? "StationItem" = some t) (hnames : names missing t.name "age_days") :
    names missing t.name "modified" ∨ ¬ t.hasColumn "modified" := by
  rw [Store.name_of_table? ht] at hnames ⊢
  refine (h ((OptionalColumn.names_iff_mem .age).1 hnames)).imp (fun hmem => ?_) fun hnone => ?_
  · exact (OptionalColumn.names_iff_mem .changeTime).2 hmem
  · exact hnone t ht

lemma Schema.ofStore_without (missing : List OptionalColumn) (s : Store) :
    ofStore (s.without missing) = (ofStore s).map (mapTables (.without missing)) := by
  refine ofStore_mapTables (f := .without missing) (fun _ => rfl) (fun t column h => ?_) s
  rw [Table.hasColumn_without, h.names_eq_false]
  rfl

lemma Schema.ofStore_blanked (missing : List OptionalColumn) (s : Store) :
    ofStore (s.blanked missing) = (ofStore s).map (mapTables (.blanked missing)) :=
  ofStore_mapTables (f := .blanked missing) (fun _ => rfl) (fun _ _ _ => rfl) s

/-- **The rows of a store without some columns are those of the store with nulls in them**, and so
is the error if they cannot be read. -/
lemma Rows.ofStore_without (hage : s.NoStandIn missing) :
    ofStore now (s.without missing) = ofStore now (s.blanked missing) := by
  rw [ofStore, ofStore, Schema.ofStore_without, Schema.ofStore_blanked]
  cases hschema : Schema.ofStore s with
  | error e => rfl
  | ok schema =>
      have hfound := Schema.found_of_ofStore hschema
      have hsystems : (schema.systems.without missing).mapRows systemOfRow
          = (schema.systems.blanked missing).mapRows systemOfRow :=
        Table.mapRows_without fun row =>
          have hrow := systemOfRow_eq (Store.name_of_table? hfound.systems) row
          hrow.1.trans hrow.2.symm
      have hstations : (schema.stations.without missing).mapRows stationOfRow
          = (schema.stations.blanked missing).mapRows stationOfRow :=
        Table.mapRows_without (stationOfRow_without (Store.name_of_table? hfound.stations))
      have hitems : (schema.items.without missing).mapRows itemOfRow
          = (schema.items.blanked missing).mapRows itemOfRow :=
        Table.mapRows_without fun row =>
          have hrow := itemOfRow_eq (Store.name_of_table? hfound.items) row
          hrow.1.trans hrow.2.symm
      have hprices : (schema.prices.without missing).mapRows (priceOfRow now)
          = (schema.prices.blanked missing).mapRows (priceOfRow now) :=
        Table.mapRows_without (priceOfRow_without (Store.name_of_table? hfound.prices)
          (hage.names hfound.prices) now)
      simp only [Except.map, Schema.mapTables, bind, Except.bind, hsystems, hstations, hitems,
        hprices]

/-- A store that can be read can be read with nulls in some columns. -/
lemma Rows.exists_ofStore_blanked (missing : List OptionalColumn)
    (h : ∃ rows, ofStore now s = .ok rows) :
    ∃ rows, ofStore now (s.blanked missing) = .ok rows := by
  obtain ⟨rows, h⟩ := h
  simp only [ofStore, bind_eq_ok] at h
  obtain ⟨schema, hschema, systems, hsystems, stations, hstations, items, hitems, prices, hprices,
    -⟩ := h
  have hfound := Schema.found_of_ofStore hschema
  obtain ⟨systems', hsystems'⟩ : ∃ systems,
      (schema.systems.blanked missing).mapRows systemOfRow = .ok systems :=
    Table.exists_mapRows_blanked (fun row hrow => by
      rwa [(systemOfRow_eq (Store.name_of_table? hfound.systems) row).2]) ⟨_, hsystems⟩
  obtain ⟨stations', hstations'⟩ : ∃ stations,
      (schema.stations.blanked missing).mapRows stationOfRow = .ok stations :=
    Table.exists_mapRows_blanked (fun _ hrow =>
      exists_stationOfRow_blanked (Store.name_of_table? hfound.stations) hrow) ⟨_, hstations⟩
  obtain ⟨items', hitems'⟩ : ∃ items,
      (schema.items.blanked missing).mapRows itemOfRow = .ok items :=
    Table.exists_mapRows_blanked (fun row hrow => by
      rwa [(itemOfRow_eq (Store.name_of_table? hfound.items) row).2]) ⟨_, hitems⟩
  obtain ⟨prices', hprices'⟩ : ∃ prices,
      (schema.prices.blanked missing).mapRows (priceOfRow now) = .ok prices :=
    Table.exists_mapRows_blanked (fun _ hrow =>
      exists_priceOfRow_blanked (Store.name_of_table? hfound.prices) hrow) ⟨_, hprices⟩
  simp only [ofStore, Schema.ofStore_blanked, hschema, bind_eq_ok]
  exact ⟨_, _, rfl, systems', hsystems', stations', hstations', items', hitems', prices', hprices',
    rfl⟩

/-- **A missing column tells what a column of nulls tells.** A store that can be read can also be
read without any of the columns that may be missing, and with nulls in them; both give one and the
same galaxy, so that no question to it is answered in another way. The column of ages is meant if
there is no column of times that would be read in its place, or if that is missing as well. -/
theorem Galaxy.ofStore_missing {loaded : Galaxy} (h : ofStore now s = .ok loaded)
    (hage : s.NoStandIn missing) :
    ∃ g, ofStore now (s.without missing) = .ok g ∧ ofStore now (s.blanked missing) = .ok g := by
  have hread : ∃ rows, Rows.ofStore now s = .ok rows := by
    rw [ofStore] at h
    cases hrows : Rows.ofStore now s with
    | error e => rw [hrows] at h; cases h
    | ok rows => exact ⟨rows, rfl⟩
  obtain ⟨rows, hrows⟩ := Rows.exists_ofStore_blanked missing hread
  refine ⟨ofRows rows, ?_, ?_⟩
  · rw [ofStore, Rows.ofStore_without hage, hrows]
    rfl
  · rw [ofStore, hrows]
    rfl

end Loading

/-! #### A quay of which all is known -/

/-- A quay in a store that has each column but that of times, one of them in capitals. -/
def quayStore : Store where
  relations := [
    .table { name := "System", columns := ["system_id", "name", "pos_x", "pos_y", "pos_z"],
             rows := [[.integer 1, .text "Home", .real 0.0, .real 0.0, .real 0.0]] },
    .table { name := "Station",
             columns := ["station_id", "MAX_PAD_SIZE", "name", "blackmarket", "system_id",
               "ls_from_star"],
             rows := [[.integer 1, .text "L", .text "Quay", .text " y", .integer 1,
               .integer 250]] },
    .table { name := "Item", columns := ["item_id", "name"], rows := [[.integer 1, .text "Ore"]] },
    .table { name := "StationItem",
             columns := ["station_id", "item_id", "age_days", "demand_price", "supply_price",
               "supply_units"],
             rows := [[.integer 1, .integer 1, .real 2.5, .null, .integer 10, .integer 3]] }]

/-- The columns that may be missing in that store. -/
def quayColumns : List OptionalColumn := [.starDistance, .blackMarket, .pad, .stock, .age]

/-- The rows of a store of one quay, for what is known of it and of the price of its ore. -/
def quayRows (quay : Station) (ore : Price) : Rows where
  systems := [⟨1, "Home", ⟨0.0, 0.0, 0.0⟩, []⟩]
  stations := [quay]
  items := [⟨1, "Ore"⟩]
  prices := [⟨1, 1, ore⟩]

/-- Without these columns less is known of the quay, and just as little with nulls in them. -/
theorem ofStore_missing_quay :
    (∃ loaded, Galaxy.ofStore 0.0 quayStore = .ok loaded ∧
      (loaded.station? 1).map (fun s => (s.pad, s.blackMarket)) = some (.large, some true) ∧
      (loaded.prices 1).map (fun p => p.2.stock) = [some 3]) ∧
    quayStore.NoStandIn quayColumns ∧
    ∃ g, Galaxy.ofStore 0.0 (quayStore.without quayColumns) = .ok g ∧
      Galaxy.ofStore 0.0 (quayStore.blanked quayColumns) = .ok g ∧
      (g.station? 1).map (fun s => (s.pad, s.blackMarket)) = some (.unknown, none) ∧
      (g.prices 1).map (fun p => p.2.stock) = [none] := by
  have hloaded : Galaxy.ofStore 0.0 quayStore = .ok (.ofRows (quayRows
      { id := 1, name := "Quay", system := 1, starDistance := 250.0, blackMarket := some true,
        pad := .large } { ask := 10, stock := some 3, age := 2.5 })) := rfl
  have hage : quayStore.NoStandIn quayColumns := by
    refine fun _ => .inr fun t ht => ?_
    cases ht
    decide
  obtain ⟨g, hwithout, hblanked⟩ := Galaxy.ofStore_missing hloaded hage
  have hknown : Galaxy.ofStore 0.0 (quayStore.without quayColumns) = .ok (.ofRows (quayRows
      { id := 1, name := "Quay", system := 1 } { ask := 10 })) := rfl
  obtain rfl := Except.ok.inj (hknown.symm.trans hwithout)
  exact ⟨⟨_, hloaded, by decide +kernel, by decide +kernel⟩, hage, _, hwithout, hblanked,
    by decide +kernel, by decide +kernel⟩

end TradeRun
