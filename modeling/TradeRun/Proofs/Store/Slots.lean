import Mathlib.Tactic
import TradeRun.Store.Table

/-!
Tables without some of their columns.

* `OptionalColumn`: the columns of the stations and of the prices that may be missing;
* `Table.without`, `Table.blanked`: a table without some of them, and with nulls in them;
* `Table.slotOr_eq`: a row is looked at from column to column;
* `Table.slotOr_without`, `Table.slotOr_blanked`: in the other columns all is found as before;
* `Table.map_read_without`: **a missing column is read as one of nulls**, if its substitute is;
* `Table.exists_read_blanked`: what can be read can be read with nulls in some columns.
-/

namespace TradeRun

open Text (equalAscii)

/-! ### Columns that may be missing -/

/-- A column that may be missing. -/
inductive OptionalColumn
  | starDistance
  | blackMarket
  | pad
  | stock
  | age
  | changeTime
deriving DecidableEq, Repr

namespace OptionalColumn

/-- All columns that may be missing. -/
def all : List OptionalColumn := [starDistance, blackMarket, pad, stock, age, changeTime]

/-- The table to which a column belongs. -/
def table : OptionalColumn → String
  | starDistance | blackMarket | pad => "Station"
  | stock | age | changeTime => "StationItem"

/-- The name of a column. -/
def name : OptionalColumn → String
  | starDistance => "ls_from_star"
  | blackMarket => "blackmarket"
  | pad => "max_pad_size"
  | stock => "supply_units"
  | age => "age_days"
  | changeTime => "modified"

lemma mem_all (o : OptionalColumn) : o ∈ all := by cases o <;> decide

/-- Whether some columns have one of a table that has the name. -/
def names (missing : List OptionalColumn) (table column : String) : Bool :=
  missing.any fun o => o.table == table && equalAscii column o.name

variable {missing : List OptionalColumn}

/-- A column has the name that it is found by. -/
lemma names_congr {table column name : String} (h : equalAscii column name) :
    names missing table column = names missing table name := by
  have hfold := beq_iff_eq.1 h
  simp only [names, equalAscii, hfold]

/-- A column of a table may not be missing. -/
def Required (table column : String) : Prop :=
  ∀ o ∈ all, (o.table == table && equalAscii column o.name) = false

instance (table column : String) : Decidable (Required table column) :=
  inferInstanceAs (Decidable (∀ o ∈ all, (o.table == table && equalAscii column o.name) = false))

/-- A column that may not be missing is none of those that are. -/
lemma Required.names_eq_false {table column : String} (h : Required table column) :
    names missing table column = false :=
  List.any_eq_false.2 fun o _ => Bool.eq_false_iff.1 (h o o.mem_all)

/-- No two columns that may be missing have one name in one table. -/
lemma names_iff_mem (o : OptionalColumn) : names missing o.table o.name ↔ o ∈ missing := by
  have hdistinct : ∀ o ∈ all, ∀ other ∈ all,
      (other.table == o.table && equalAscii o.name other.name) = true ↔ other = o := by decide
  simp only [names, List.any_eq_true, hdistinct o o.mem_all _ (mem_all _), exists_eq_right]

end OptionalColumn

open OptionalColumn (names Required)

/-! ### Tables without them -/

namespace Table

variable (missing : List OptionalColumn) (t : Table)

/-- The cells of a row without those in some columns. -/
def keptCells (row : List Cell) : List Cell :=
  ((t.columns.zip row).filter fun (column, _) => !names missing t.name column).map Prod.snd

/-- The cells of a row with nulls in some columns. -/
def blankedCells (row : List Cell) : List Cell :=
  t.columns.zipWith (fun column cell => if names missing t.name column then .null else cell) row

/-- The table without some columns. -/
def without : Table :=
  { t with
    columns := t.columns.filter fun column => !names missing t.name column
    rows := t.rows.map (t.keptCells missing) }

/-- The table with nulls in some columns. -/
def blanked : Table := { t with rows := t.rows.map (t.blankedCells missing) }

end Table

/-! ### What is found in a row -/

namespace Table

variable {missing : List OptionalColumn} {t : Table} {name : String}

/-- The first column of a name, with the cell of a row in it. -/
def columnIn? (name : String) : List String → List Cell → Option (String × Cell)
  | [], _ => none
  | column :: columns, row =>
    if equalAscii column name then some (column, row.headD .null)
    else columnIn? name columns row.tail

/-- A row is looked at from column to column. -/
lemma slotOr_eq (substitute : Cell) (row : List Cell) (index : Nat) (name : String) :
    t.slotOr substitute row index name
      = (columnIn? name t.columns row).elim ⟨index, name, substitute⟩
          fun (column, cell) => ⟨index, column, cell⟩ := by
  have hfound (columns : List String) (row : List Cell) :
      (columns.findIdx? (equalAscii · name)).map (fun i => (columns.getD i name, row.getD i .null))
        = columnIn? name columns row := by
    induction columns generalizing row with
    | nil => rfl
    | cons column columns ih =>
        rw [List.findIdx?_cons, columnIn?]
        split_ifs
        · cases row <;> rfl
        · rw [← ih, Option.map_map]
          cases row <;> rfl
  rw [← hfound, slotOr, columnIndex?]
  cases t.columns.findIdx? (equalAscii · name) <;> rfl

lemma hasColumn_eq (t : Table) (name : String) :
    t.hasColumn name = t.columns.any (equalAscii · name) := by
  simp [hasColumn, columnIndex?]

section Rows

variable {columns : List String} {gone : String → Bool}

/-- Columns that stay are found as before. -/
lemma columnIn?_kept (hname : ∀ column, equalAscii column name → gone column = false)
    (row : List Cell) :
    columnIn? name (columns.filter fun column => !gone column)
        (((columns.zip row).filter fun (column, _) => !gone column).map Prod.snd)
      = columnIn? name columns row := by
  induction columns generalizing row with
  | nil => rfl
  | cons column columns ih =>
      by_cases hfound : equalAscii column name
      · cases row <;> simp [columnIn?, hfound, hname column hfound]
      · have hrow := ih row.tail
        cases hgone : gone column <;> cases row <;>
          simpa [columnIn?, hfound, hgone] using hrow

/-- With nulls in some columns each column is found as before, but there are nulls in these. -/
lemma columnIn?_blanked (hname : ∀ column, equalAscii column name → gone column = gone name)
    (row : List Cell) :
    columnIn? name columns
        (columns.zipWith (fun column cell => if gone column then .null else cell) row)
      = (columnIn? name columns row).map fun (column, cell) =>
          (column, if gone name then .null else cell) := by
  induction columns generalizing row with
  | nil => rfl
  | cons column columns ih =>
      by_cases hfound : equalAscii column name
      · cases row <;> simp [columnIn?, hfound, hname column hfound]
      · cases row with
        | nil => simpa [columnIn?, hfound] using ih []
        | cons cell row => simpa [columnIn?, hfound] using ih row

end Rows

/-- A row without some columns has what it had in the others. -/
lemma slotOr_without (h : names missing t.name name = false) (substitute : Cell) (row : List Cell)
    (index : Nat) :
    (t.without missing).slotOr substitute (t.keptCells missing row) index name
      = t.slotOr substitute row index name := by
  rw [slotOr_eq, slotOr_eq, without, keptCells,
    columnIn?_kept fun column hcolumn => (OptionalColumn.names_congr hcolumn).trans h]

lemma slotOr_blanked_eq (substitute : Cell) (row : List Cell) (index : Nat) :
    (t.blanked missing).slotOr substitute (t.blankedCells missing row) index name
      = ((columnIn? name t.columns row).map fun (column, cell) =>
          (column, if names missing t.name name then .null else cell)).elim
            ⟨index, name, substitute⟩ fun (column, cell) => ⟨index, column, cell⟩ := by
  rw [slotOr_eq, blanked, blankedCells,
    columnIn?_blanked fun column hcolumn => OptionalColumn.names_congr hcolumn]

/-- A row with nulls in some columns has what it had in the others. -/
lemma slotOr_blanked (h : names missing t.name name = false) (substitute : Cell) (row : List Cell)
    (index : Nat) :
    (t.blanked missing).slotOr substitute (t.blankedCells missing row) index name
      = t.slotOr substitute row index name := by
  rw [slotOr_blanked_eq, slotOr_eq, h]
  cases columnIn? name t.columns row <;> rfl

/-- A row with nulls in some columns has a null in each of them that is there. -/
lemma slotOr_blanked_of_names (h : names missing t.name name) (substitute : Cell) (row : List Cell)
    (index : Nat) :
    ((t.blanked missing).slotOr substitute (t.blankedCells missing row) index name
        = ⟨index, name, substitute⟩ ∧
      t.slotOr substitute row index name = ⟨index, name, substitute⟩) ∨
      ∃ column, (t.blanked missing).slotOr substitute (t.blankedCells missing row) index name
        = ⟨index, column, .null⟩ := by
  rw [slotOr_blanked_eq, slotOr_eq, h]
  cases columnIn? name t.columns row with
  | none => exact .inl ⟨rfl, rfl⟩
  | some found => exact .inr ⟨found.1, rfl⟩

/-- A table without some columns has the others. -/
lemma hasColumn_without (missing : List OptionalColumn) (t : Table) (name : String) :
    (t.without missing).hasColumn name = (!names missing t.name name && t.hasColumn name) := by
  rw [hasColumn_eq, hasColumn_eq, without, List.any_filter, Bool.eq_iff_iff, Bool.and_eq_true,
    List.any_eq_true, List.any_eq_true]
  simp only [Bool.and_eq_true]
  constructor
  · rintro ⟨column, hcolumn, hkept, hname⟩
    exact ⟨OptionalColumn.names_congr hname ▸ hkept, column, hcolumn, hname⟩
  · rintro ⟨hkept, column, hcolumn, hname⟩
    exact ⟨column, hcolumn, (OptionalColumn.names_congr hname).symm ▸ hkept, hname⟩

/-- Each row has a substitute for a column that is not there. -/
lemma slotOr_of_not_hasColumn (h : ¬ t.hasColumn name) (substitute : Cell) (row : List Cell)
    (index : Nat) : t.slotOr substitute row index name = ⟨index, name, substitute⟩ := by
  rw [slotOr, Option.not_isSome_iff_eq_none.1 h]

lemma slotOr_without_of_names (h : names missing t.name name) (substitute : Cell) (row : List Cell)
    (index : Nat) :
    (t.without missing).slotOr substitute row index name = ⟨index, name, substitute⟩ :=
  slotOr_of_not_hasColumn (by simp [hasColumn_without, h]) substitute row index

/-! ### What is read of it -/

variable {α β : Type} {reader : Cell.Reader α} {f : Option α → β} {substitute : Cell}

/-- **A missing column is read as one of nulls** if its substitute is read as a null. -/
lemma map_read_without (hsubstitute : (Cell.optional reader substitute).map f = some (f none))
    (row : List Cell) (index : Nat) (name : String) :
    (((t.without missing).slotOr substitute (t.keptCells missing row) index name).read
        (Cell.optional reader)).map f
      = (((t.blanked missing).slotOr substitute (t.blankedCells missing row) index name).read
        (Cell.optional reader)).map f := by
  cases hnames : names missing t.name name with
  | false => rw [slotOr_without hnames, slotOr_blanked hnames]
  | true =>
      obtain ⟨value, hvalue, hf⟩ := Option.map_eq_some_iff.1 hsubstitute
      have hread : ((⟨index, name, substitute⟩ : Slot).read (Cell.optional reader)).map f
          = .ok (f none) := by
        rw [Slot.read, hvalue, ← hf]
        rfl
      rw [slotOr_without_of_names hnames, hread]
      rcases slotOr_blanked_of_names hnames substitute row index with ⟨hslot, -⟩ | ⟨column, hslot⟩
      · rw [hslot, hread]
      · rw [hslot]
        rfl

/-- What can be read of a row can be read of it with nulls in some columns. -/
lemma exists_read_blanked (missing : List OptionalColumn) {row : List Cell} {index : Nat}
    (h : ∃ value, (t.slotOr substitute row index name).read (Cell.optional reader) = .ok value) :
    ∃ value, ((t.blanked missing).slotOr substitute (t.blankedCells missing row) index name).read
      (Cell.optional reader) = .ok value := by
  cases hnames : names missing t.name name with
  | false => rwa [slotOr_blanked hnames]
  | true =>
      rcases slotOr_blanked_of_names hnames substitute row index with
        ⟨hslot, hbefore⟩ | ⟨column, hslot⟩
      · rwa [hslot, ← hbefore]
      · exact ⟨none, by rw [hslot]; rfl⟩

/-- A column that may not be missing is read as before without others. -/
lemma read_without (h : Required t.name name) (reader : Cell.Reader α) (row : List Cell)
    (index : Nat) :
    ((t.without missing).slot (t.keptCells missing row) index name).read reader
      = (t.slot row index name).read reader := by
  rw [slot, slot, slotOr_without h.names_eq_false]

/-- A column that may not be missing is read as before with nulls in others. -/
lemma read_blanked (h : Required t.name name) (reader : Cell.Reader α) (row : List Cell)
    (index : Nat) :
    ((t.blanked missing).slot (t.blankedCells missing row) index name).read reader
      = (t.slot row index name).read reader := by
  rw [slot, slot, slotOr_blanked h.names_eq_false]

/-- A column of nulls, or one that is not there, is read as nulls. -/
lemma read_blanked_of_names (h : names missing t.name name ∨ ¬ t.hasColumn name) (row : List Cell)
    (index : Nat) :
    ((t.blanked missing).slot (t.blankedCells missing row) index name).read (Cell.optional reader)
      = .ok none := by
  rw [slot]
  rcases h with hnames | hcolumn
  · rcases slotOr_blanked_of_names hnames .null row index with ⟨hslot, -⟩ | ⟨column, hslot⟩ <;>
      rw [hslot] <;> rfl
  · rw [slotOr_of_not_hasColumn (t := t.blanked missing) hcolumn]
    rfl

end Table

end TradeRun
