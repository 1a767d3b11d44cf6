import TradeRun.Proofs.Cargo.Stowage
import TradeRun.Proofs.Galaxy.Listing
import TradeRun.Proofs.Search.Homing
import TradeRun.Proofs.Search.Solvency
import TradeRun.Store.Loading

/-!
The stock that is recorded and the stock that is loaded.

A number of units is stored for each price. The loader takes zero for a number that is not known,
and a stock that is not known holds back no purchase.

* `Rows.ofRecord`: the rows of a store with the stock as it is recorded;
* `Price.loaded`, `Deal.loaded`: what loading makes of them: an empty stock is forgotten;
* `Rows.ofStore_eq_loaded`: the rows that are loaded are those of the record, loaded;
* `Galaxy.deals_loaded`: and the deals between two stations as well;
* `Charter.Bought.exists_deal`: what is bought is no more than the stock of a deal;
* `Galaxy.ofStore_stock`: **every stock but an empty one survives loading**;
* `ofStore_stock_threeUnits`, `ofStore_stock_soldOut`: three units of ore, of which a run buys
  three, and none, of which it buys a hold full.
-/

namespace TradeRun

/-! ### The record -/

/-- The stock that a row records. -/
def Table.recordedStock? (t : Table) (row : List Cell) : Option Nat :=
  (Cell.int? (t.slot row 4 "supply_units").cell).map Int.toNat

/-- The price of a row with the stock that the row records. -/
def Table.withRecordedStock (t : Table) (row : List Cell) (p : PriceRow) : PriceRow :=
  { p with price := { p.price with stock := t.recordedStock? row } }

/-- The rows of a store at a time given in seconds, with the stocks as they are recorded. -/
def Rows.ofRecord (now : Float) (s : Store) : Except StoreError Rows := do
  let schema ← Schema.ofStore s
  let rows ← Rows.ofStore now s
  let prices := List.zipWith schema.prices.withRecordedStock schema.prices.rows rows.prices
  return { rows with prices }

/-- Each price is stored with a number of units that fits 32 bits. -/
def Store.RecordsStock (s : Store) : Prop :=
  ∀ schema, Schema.ofStore s = .ok schema → ∀ row ∈ schema.prices.rows, ∃ units : Nat,
    (schema.prices.slot row 4 "supply_units").cell = .integer units ∧ units < 2 ^ 32

/-! ### What loading makes of it -/

/-- The price as it is loaded: of an empty stock nothing is known. -/
def Price.loaded (p : Price) : Price := { p with stock := p.stock.filter (0 < ·) }

/-- The row of a price as it is loaded. -/
def PriceRow.loaded (p : PriceRow) : PriceRow := { p with price := p.price.loaded }

/-- The market as it is loaded. -/
def Market.loaded (m : Market) : Market := m.map fun _ p => p.loaded

/-- The rows as they are loaded. -/
def Rows.loaded (rows : Rows) : Rows := { rows with prices := rows.prices.map PriceRow.loaded }

/-- The deal as it is loaded. -/
def Deal.loaded (d : Deal) : Deal := { d with stock := d.stock.filter (0 < ·) }

lemma Deal.loaded_eq_self {d : Deal} : d.loaded = d ↔ d.stock ≠ some 0 := by
  obtain ⟨item, cost, gain, stock, sourceAge, targetAge⟩ := d
  rw [loaded, mk.injEq]
  cases stock with
  | none => simp
  | some units => simp [Option.filter, Nat.pos_iff_ne_zero]

lemma Deal.map_loaded_eq_self {deals : List Deal} :
    deals.map loaded = deals ↔ ∀ d ∈ deals, d.stock ≠ some 0 := by
  rw [← List.map_inj_left.trans (forall₂_congr fun d _ => loaded_eq_self), List.map_id']

/-! ### Rows -/

/-- Where each member stays as it is, so does the list. -/
lemma zipWith_eq_right {α β : Type} {f : α → β → β} {as : List α} {bs : List β}
    (h : List.Forall₂ (fun a b => f a b = b) as bs) : List.zipWith f as bs = bs := by
  induction h with
  | nil => rfl
  | cons hb _ ih => rw [List.zipWith_cons_cons, hb, ih]

/-- The stock that is loaded is the recorded one, if it is not empty. -/
lemma stock_of_priceOfRow {now : Float} {t : Table} {row : List Cell} {p : PriceRow} {units : Nat}
    (h : priceOfRow now t row = .ok p)
    (hcell : (t.slot row 4 "supply_units").cell = .integer units) (hunits : units < 2 ^ 32) :
    p.price.stock = (t.recordedStock? row).filter (0 < ·) := by
  simp only [priceOfRow, bind_eq_ok] at h
  obtain ⟨station, -, stored, -, read, hread, item, -, bid, -, ask, -, h⟩ := h
  cases h
  rw [Slot.read, hcell] at hread
  cases hread
  rw [Table.recordedStock?, hcell]
  simp only [Option.bind_some, Cell.int?, Option.map_some, Int.toNat_natCast, stockOf?,
    Option.filter, decide_eq_true_eq]
  split_ifs <;> simp_all

/-- The price that is loaded of a row is that of the record, loaded. -/
lemma loaded_withRecordedStock {now : Float} {t : Table} {row : List Cell} {p : PriceRow}
    (h : priceOfRow now t row = .ok p)
    (hstock : ∃ units : Nat, (t.slot row 4 "supply_units").cell = .integer units ∧
      units < 2 ^ 32) : (t.withRecordedStock row p).loaded = p := by
  obtain ⟨units, hcell, hunits⟩ := hstock
  rw [PriceRow.loaded, Price.loaded, Table.withRecordedStock, ← stock_of_priceOfRow h hcell hunits]

/-- The prices that are loaded are read of the rows of their table. -/
lemma Rows.of_ofStore_eq_ok {now : Float} {s : Store} {rows : Rows}
    (h : Rows.ofStore now s = .ok rows) :
    ∃ schema, Schema.ofStore s = .ok schema ∧
      schema.prices.rows.mapM (priceOfRow now schema.prices) = .ok rows.prices := by
  simp only [ofStore, Table.mapRows, bind_eq_ok] at h
  obtain ⟨schema, hschema, systems, -, stations, -, items, -, prices, hprices, h⟩ := h
  obtain ⟨read, hread, hprices⟩ := hprices
  split at hprices
  · cases hprices
  · cases hprices
    cases h
    exact ⟨schema, hschema, hread⟩

/-- **The rows that are loaded are those of the record, loaded.** -/
lemma Rows.ofStore_eq_loaded {now : Float} {s : Store} {rows : Rows}
    (h : Rows.ofStore now s = .ok rows) (hstock : s.RecordsStock) :
    ∃ recorded, Rows.ofRecord now s = .ok recorded ∧ recorded.loaded = rows := by
  obtain ⟨schema, hschema, hread⟩ := of_ofStore_eq_ok h
  have hloaded : List.Forall₂ (fun row p => (schema.prices.withRecordedStock row p).loaded = p)
      schema.prices.rows rows.prices := by
    have hread := mapM_eq_ok.1 hread
    rw [List.forall₂_iff_zip] at hread ⊢
    refine ⟨hread.1, fun hmem => ?_⟩
    exact loaded_withRecordedStock (hread.2 hmem) (hstock schema hschema _ (List.of_mem_zip hmem).1)
  refine ⟨{ rows with
    prices := List.zipWith schema.prices.withRecordedStock schema.prices.rows rows.prices }, ?_, ?_⟩
  · rw [ofRecord, hschema, h]
    rfl
  · rw [loaded, List.map_zipWith, zipWith_eq_right hloaded]

/-! ### Deals -/

lemma Market.loaded_insert (m : Market) (item : ItemId) (p : Price) :
    (Market.loaded (m.insert item p)) = (Market.loaded m).insert item p.loaded := by
  refine Std.ExtTreeMap.ext_getElem? fun other => ?_
  simp only [loaded, Std.ExtTreeMap.getElem?_map, Std.ExtTreeMap.getElem?_insert]
  split_ifs <;> rfl

/-- The deal on an item between a price and a market as they are loaded. -/
lemma Deal.between?_loaded (item : ItemId) (seller : Price) (buyers : Market) :
    Deal.between? item seller.loaded buyers.loaded
      = (Deal.between? item seller buyers).map Deal.loaded := by
  by_cases hask : 0 < seller.ask
  · cases hbuyer : buyers[item]? with
    | none => simp [between?, Market.loaded, hbuyer]
    | some buyer =>
        by_cases hgain : 0 < buyer.bid - seller.ask <;>
          simp [between?, Market.loaded, Price.loaded, loaded, hask, hbuyer, hgain]
  · simp [between?, Price.loaded, hask]

/-- The deals between two markets as they are loaded. -/
lemma Market.deals_loaded (source target : Market) :
    Market.deals source.loaded target.loaded = (Market.deals source target).map Deal.loaded := by
  have hlisted : source.loaded.toList = source.toList.map fun entry => (entry.1, entry.2.loaded) :=
    Std.ExtTreeMap.toList_map
  rw [deals, deals, hlisted, List.filterMap_map, List.map_filterMap]
  exact List.filterMap_congr fun entry _ => Deal.between?_loaded entry.1 entry.2 target

/-- The markets of rows as they are loaded. -/
lemma Rows.getD_markets_loaded (rows : List PriceRow) (id : StationId) :
    (markets (rows.map PriceRow.loaded)).getD id ∅ = ((markets rows).getD id ∅).loaded := by
  have grown (m m' : Std.ExtTreeMap StationId Market)
      (h : ∀ id, m'.getD id ∅ = (m.getD id ∅).loaded) :
      ((rows.map PriceRow.loaded).foldl
          (fun m p => m.insert p.station ((m.getD p.station ∅).insert p.item p.price)) m').getD id ∅
        = ((rows.foldl (fun m p => m.insert p.station ((m.getD p.station ∅).insert p.item p.price))
            m).getD id ∅).loaded := by
    induction rows generalizing m m' with
    | nil => exact h id
    | cons row rest ih =>
        refine ih _ _ fun id => ?_
        rw [Std.ExtTreeMap.getD_insert, Std.ExtTreeMap.getD_insert, PriceRow.loaded]
        split_ifs
        · rw [Market.loaded_insert, ← h]
        · exact h id
  exact grown ∅ ∅ fun id => by simp [Market.loaded]

namespace Galaxy

/-- A station as it is loaded has its market as it is loaded. -/
lemma station?_loaded (rows : Rows) (id : StationId) :
    (ofRows rows.loaded).station? id
      = ((ofRows rows).station? id).map fun s => s.withMarket s.market.loaded := by
  have hpriced : rows.loaded.priced = rows.priced.map PriceRow.loaded := List.filter_map
  rw [station?_ofRows, station?_ofRows, hpriced, Option.map_map]
  refine congrArg (fun f => Option.map f _) (funext fun s => ?_)
  rw [Rows.getD_markets_loaded]
  rfl

/-- **The deals between two stations as they are loaded.** -/
lemma deals_loaded (rows : Rows) (source target : StationId) :
    (ofRows rows.loaded).deals source target
      = ((ofRows rows).deals source target).map Deal.loaded := by
  rw [deals, deals, station?_loaded, station?_loaded]
  cases (ofRows rows).station? source with
  | none => rfl
  | some s =>
      cases (ofRows rows).station? target with
      | none => rfl
      | some t => exact Market.deals_loaded s.market t.market

end Galaxy

/-! ### Purchases -/

/-- **What is bought of an item is no more than the stock of the deal on it.** -/
lemma Charter.Bought.exists_deal {c : Charter} {g : Galaxy} {source : StationId} {money : Credits}
    {leg : Leg} {load : Load} (h : Bought c g source money leg load) {t : Trade}
    (ht : t ∈ leg.trades) :
    ∃ d ∈ g.deals source leg.destination, d.item = t.item ∧
      ∀ stock ∈ d.stock, t.quantity ≤ stock := by
  have hdistinct : (g.deals source leg.destination).Pairwise fun a b => a.item ≠ b.item := by
    rw [Galaxy.deals]
    split
    · exact Market.pairwise_deals _ _
    · exact .nil
  have hstowed := Cargo.fit?_stowed (pairwise_discount (hdistinct.filter _)) h.load_eq
  obtain ⟨lot, hlot, hdraws⟩ := hstowed.draws t (h.trades_eq ▸ ht)
  obtain ⟨hdeal, -⟩ := of_mem_discount hlot
  refine ⟨lot.deal, (List.mem_filter.1 hdeal).1, hdraws.item_eq.symm, fun stock hstock => ?_⟩
  exact hdraws.quantity_le.trans (Cargo.mostUnits_le_stock hstock)

/-- On each hop of a route no more units of an item are bought than the stock that is recorded, if
that is not empty. -/
def Route.KeepsToStock (record : Galaxy) (r : Route) : Prop :=
  ∀ (k : Nat) (leg : Leg), r.legs[k]? = some leg → ∀ t ∈ leg.trades,
    ∃ source, r.stations[k]? = some source ∧
      ∃ d ∈ record.deals source leg.destination, d.item = t.item ∧
        ∀ stock ∈ d.stock, 0 < stock → t.quantity ≤ stock

/-- A run in the galaxy that is loaded keeps to the stock that is recorded. -/
lemma keepsToStock_of_loaded {rows : Rows} {r : Request} {result : RunResult} {route : Route}
    (h : (plan (.ofRows rows.loaded) r).result = .ok result) (hroute : route ∈ result.routes) :
    route.KeepsToStock (.ofRows rows) := by
  intro k leg hleg t ht
  obtain ⟨c, -, hsearch⟩ := plan_eq_ok h
  obtain ⟨source, load, hsource, hbought⟩ := (Charter.search_flown hsearch route hroute).bought hleg
  obtain ⟨d, hd, hitem, hle⟩ := hbought.exists_deal ht
  rw [Galaxy.deals_loaded] at hd
  obtain ⟨recorded, hrecorded, rfl⟩ := List.mem_map.1 hd
  refine ⟨source, hsource, recorded, hrecorded, hitem, fun stock hstock hpos => hle stock ?_⟩
  exact Option.mem_filter_iff.2 ⟨hstock, decide_eq_true hpos⟩

/-- **Every stock but an empty one survives loading.** A galaxy that is loaded from a store has the
deals of the record, in which an empty stock is taken for one that is not known: they are the same
deals just when none of the record is on an item that is sold out. A run in the loaded galaxy buys
no more units of an item than the stock that is recorded, if that is not empty. -/
theorem Galaxy.ofStore_stock {now : Float} {s : Store} {loaded : Galaxy}
    (h : Galaxy.ofStore now s = .ok loaded) (hstock : s.RecordsStock) :
    ∃ rows, Rows.ofRecord now s = .ok rows ∧
      (∀ source target, loaded.deals source target
        = ((ofRows rows).deals source target).map fun d =>
          { d with stock := d.stock.filter (0 < ·) }) ∧
      ((∀ source target, loaded.deals source target = (ofRows rows).deals source target) ↔
        ∀ source target, ∀ d ∈ (ofRows rows).deals source target, d.stock ≠ some 0) ∧
      ∀ r result, (plan loaded r).result = .ok result → ∀ route ∈ result.routes,
        route.KeepsToStock (ofRows rows) := by
  rw [ofStore] at h
  cases hread : Rows.ofStore now s with
  | error e => rw [hread] at h; cases h
  | ok read =>
      rw [hread] at h
      cases h
      obtain ⟨rows, hrows, rfl⟩ := Rows.ofStore_eq_loaded hread hstock
      refine ⟨rows, hrows, deals_loaded rows, ?_, fun r result hresult route hroute =>
        keepsToStock_of_loaded hresult hroute⟩
      simp only [deals_loaded]
      exact forall₂_congr fun source target => Deal.map_loaded_eq_self

/-! #### A hold full of ore -/

/-- The two ports in a store. The quay sells ore, of which a number of units is recorded, and the
dock, which has none, buys it. -/
def portStore (units : Nat) : Store where
  relations := [
    .table { name := "System", columns := ["system_id", "name", "pos_x", "pos_y", "pos_z"],
             rows := [[.integer 1, .text "Home", .real 0.0, .real 0.0, .real 0.0]] },
    .table { name := "Station", columns := ["station_id", "name", "system_id"],
             rows := [[.integer 1, .text "Quay", .integer 1],
               [.integer 2, .text "Dock", .integer 1]] },
    .table { name := "Item", columns := ["item_id", "name"],
             rows := [[.integer 1, .text "Ore"], [.integer 2, .text "Tea"]] },
    .table { name := "StationItem",
             columns := ["station_id", "item_id", "demand_price", "supply_price", "supply_units"],
             rows := [[.integer 1, .integer 1, .integer 0, .integer 10, .integer units],
               [.integer 2, .integer 1, .integer 15, .integer 0, .integer 0]] }]

/-- The rows of that store with the stock of the quay and that of the dock. -/
def orePortRows (quay dock : Option Nat) : Rows :=
  { portRows with
    prices := [⟨1, 1, { ask := 10, stock := quay }⟩, ⟨2, 1, { bid := 15, stock := dock }⟩] }

/-- The galaxy of those rows, with the listings of the two ports. -/
def orePorts (quay dock : Option Nat) : Galaxy where
  systems := twoPorts.systems
  stations := (Galaxy.ofRows (orePortRows quay dock)).stations
  items := twoPorts.items

lemma ofRows_orePortRows (quay dock : Option Nat) :
    Galaxy.ofRows (orePortRows quay dock) = orePorts quay dock := by
  have hsystems : (Galaxy.ofRows portRows).systems = twoPorts.systems := by rw [ofRows_portRows]
  have hitems : (Galaxy.ofRows portRows).items = twoPorts.items := by rw [ofRows_portRows]
  exact Galaxy.ext_records hsystems rfl hitems

/-- A run from the quay to the dock, with room and money for four units. -/
def oreHaul : Request := { thereAndBack with hops := 1 }

lemma recordsStock_portStore {units : Nat} (h : units < 2 ^ 32) :
    (portStore units).RecordsStock := by
  intro schema hschema row hrow
  cases hschema
  rcases List.mem_pair.1 hrow with rfl | rfl
  · exact ⟨units, rfl, h⟩
  · exact ⟨0, rfl, by decide⟩

/-- Three units of ore are recorded, and a hold that takes four is filled with three. -/
theorem ofStore_stock_threeUnits :
    Galaxy.ofStore 0.0 (portStore 3) = .ok (.ofRows (orePortRows (some 3) none)) ∧
      Rows.ofRecord 0.0 (portStore 3) = .ok (orePortRows (some 3) (some 0)) ∧
      (portStore 3).RecordsStock ∧
      ∃ result route, (plan (.ofRows (orePortRows (some 3) none)) oreHaul).result = .ok result ∧
        route ∈ result.routes ∧
        route.legs.map (fun leg => leg.trades.map fun t => (t.item, t.quantity)) = [[(1, 3)]] ∧
        route.KeepsToStock (.ofRows (orePortRows (some 3) (some 0))) := by
  have hloaded : Galaxy.ofStore 0.0 (portStore 3) = .ok (.ofRows (orePortRows (some 3) none)) := rfl
  have hrecord : Rows.ofRecord 0.0 (portStore 3) = .ok (orePortRows (some 3) (some 0)) := rfl
  have hstock : (portStore 3).RecordsStock := recordsStock_portStore (by decide)
  obtain ⟨rows, hrows, -, -, hkeeps⟩ := Galaxy.ofStore_stock hloaded hstock
  obtain rfl : orePortRows (some 3) (some 0) = rows := Except.ok.inj (hrecord.symm.trans hrows)
  obtain ⟨result, hresult, route, hroute, htrades⟩ :=
    (plan (orePorts (some 3) none) oreHaul).exists_route
      (p := fun _ route =>
        route.legs.map (fun leg => leg.trades.map fun t => (t.item, t.quantity)) == [[(1, 3)]])
      (by decide +kernel)
  rw [← ofRows_orePortRows] at hresult
  exact ⟨hloaded, hrecord, hstock, result, route, hresult, hroute, beq_iff_eq.1 htrades,
    hkeeps _ _ hresult _ hroute⟩

/-- The ore is sold out, and that is recorded. It is not known once the store is loaded, so a run
buys four units. -/
theorem ofStore_stock_soldOut :
    Galaxy.ofStore 0.0 (portStore 0) = .ok (.ofRows (orePortRows none none)) ∧
      Rows.ofRecord 0.0 (portStore 0) = .ok (orePortRows (some 0) (some 0)) ∧
      (portStore 0).RecordsStock ∧
      ((Galaxy.ofRows (orePortRows none none)).deals 1 2).map Deal.stock = [none] ∧
      ((Galaxy.ofRows (orePortRows (some 0) (some 0))).deals 1 2).map Deal.stock = [some 0] ∧
      ∃ result route, (plan (.ofRows (orePortRows none none)) oreHaul).result = .ok result ∧
        route ∈ result.routes ∧
        route.legs.map (fun leg => leg.trades.map fun t => (t.item, t.quantity)) = [[(1, 4)]] := by
  refine ⟨rfl, rfl, recordsStock_portStore (by decide), by decide +kernel, by decide +kernel, ?_⟩
  obtain ⟨result, hresult, route, hroute, htrades⟩ :=
    (plan (orePorts none none) oreHaul).exists_route
      (p := fun _ route =>
        route.legs.map (fun leg => leg.trades.map fun t => (t.item, t.quantity)) == [[(1, 4)]])
      (by decide +kernel)
  rw [← ofRows_orePortRows] at hresult
  exact ⟨result, route, hresult, hroute, beq_iff_eq.1 htrades⟩

end TradeRun
