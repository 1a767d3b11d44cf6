import TradeRun.Galaxy.Directory
import TradeRun.Proofs.Galaxy.Partition
import TradeRun.Proofs.Text.Trimming

/-!
Names by which places are found again.

A station is shown under the name of its system, a stroke and its own name, and such a name is read
by its first stroke. What it is read as depends on the names alone: those of systems are compared
with all letters made capitals, and those of stations, within the system, up to the case of ASCII
letters.

* `Galaxy.splitStroke?_append`: the first stroke of a full name stands behind the system's name;
* `Galaxy.WellNamed`: names that can be told apart once they are typed;
* `Galaxy.systemNamed?_name`, `Galaxy.find?_stationsIn_name`: such a name finds its own record;
* `Galaxy.place_shownName`: **each place is found again under the name it is shown with**;
* `place_shownName_twoDocks`: two docks of one name, a stroke in a name, and a station named after a
  system.
-/

namespace TradeRun

/-- Of a list in which just one element satisfies a predicate that one is found. -/
lemma find?_eq_some_of_unique {α : Type} {p : α → Bool} {l : List α} {a : α} (ha : a ∈ l) (hp : p a)
    (hunique : ∀ b ∈ l, p b → b = a) : l.find? p = some a := by
  obtain ⟨b, hb⟩ := Option.isSome_iff_exists.1 (List.find?_isSome.2 ⟨a, ha, hp⟩)
  rw [hb, hunique b (List.mem_of_find?_eq_some hb) (List.find?_some hb)]

namespace Galaxy

open Text (Tight trim upperCase equalAscii)

/-- The characters of a full name. -/
lemma toList_fullName (a b : String) : (a ++ "/" ++ b).toList = a.toList ++ '/' :: b.toList := by
  rw [String.toList_append, String.toList_append, List.append_assoc]
  rfl

/-- **The first stroke of a full name stands behind the system's name.** -/
lemma splitStroke?_append {a : String} (h : '/' ∉ a.toList) (b : String) :
    splitStroke? (a ++ "/" ++ b) = some (a, b) := by
  have hstroke : (a.toList ++ '/' :: b.toList).contains '/' := by simp
  rw [splitStroke?, toList_fullName, if_pos hstroke, Text.cut_append h]
  simp

lemma splitStroke?_eq_none {a : String} (h : '/' ∉ a.toList) : splitStroke? a = none := by
  rw [splitStroke?, if_neg (by simpa using h)]

/-- No blank stands at the ends of a full name, the first of which may be the stroke. -/
lemma tight_fullName {a b : String} (ha : Tight a) (hb : Tight b) (hne : b ≠ "") :
    Tight (a ++ "/" ++ b) := by
  have hstroke : ¬ Text.isBlank '/' := by decide
  rw [Tight, toList_fullName]
  constructor
  · intro c hc
    rw [List.head?_append, Option.mem_def, Option.or_eq_some_iff] at hc
    rcases hc with hc | ⟨-, hc⟩
    · exact ha.1 c hc
    · obtain rfl := Option.some.inj hc
      exact hstroke
  · intro c hc
    have hlist : b.toList ≠ [] := String.toList_eq_nil_iff.not.2 hne
    rw [← List.singleton_append, ← List.append_assoc, List.getLast?_append_of_ne_nil _ hlist] at hc
    exact hb.2 c hc

/-! ### Names that can be told apart -/

/-- The names of systems and, within each system, those of stations can be told apart once they are
typed: by capital letters and without blanks around them. No stroke is in the name of a system, and
no station goes without a name. -/
structure WellNamed (g : Galaxy) : Prop where
  system_tight : ∀ sys ∈ g.systems.toList, Tight sys.name
  system_no_stroke : ∀ sys ∈ g.systems.toList, '/' ∉ sys.name.toList
  system_distinct : ∀ sys ∈ g.systems.toList, ∀ other ∈ g.systems.toList,
    upperCase sys.name = upperCase other.name → sys.id = other.id
  station_tight : ∀ s ∈ g.stations.toList, Tight s.name
  station_named : ∀ s ∈ g.stations.toList, s.name ≠ ""
  station_distinct : ∀ s ∈ g.stations.toList, ∀ other ∈ g.stations.toList, s.system = other.system →
    equalAscii s.name other.name → s.id = other.id

variable {g : Galaxy} {id : StationId} {system : SystemId} {s : Station} {sys : StarSystem}

/-- **The name of a system finds the system.** -/
lemma systemNamed?_name (hnames : g.WellNamed) (h : g.system? system = some sys) :
    g.systemNamed? sys.name = some sys := by
  have hsys := Register.mem_toList_of_find? h
  rw [systemNamed?, lookupKey, Text.trim_eq_self (hnames.system_tight sys hsys)]
  refine find?_eq_some_of_unique (List.mem_reverse.2 hsys) (beq_self_eq_true _) ?_
  intro other hother heq
  have hother := List.mem_reverse.1 hother
  exact Register.eq_of_mem_toList hother hsys
    (hnames.system_distinct other hother sys hsys (beq_iff_eq.1 heq))

section Rows

variable {rows : Rows} (hids : (rows.stations.map Station.id).Nodup)
  (hnames : (ofRows rows).WellNamed)
include hids hnames

/-- **The name of a station finds the station** in its system. -/
lemma find?_stationsIn_name (h : (ofRows rows).station? id = some s) :
    ((ofRows rows).stationsIn s.system).find? (fun t => equalAscii t.name s.name) = some s := by
  have hs := Register.mem_toList_of_find? h
  have hself : equalAscii s.name s.name := beq_self_eq_true _
  refine find?_eq_some_of_unique (mem_stationsIn_system h) hself ?_
  intro other hother heq
  have hsystem := system_of_mem_stationsIn_ofRows hids hother
  have hother := Register.mem_toList_of_find? (station?_of_mem_stationsIn hother)
  exact Register.eq_of_mem_toList hother hs
    (hnames.station_distinct other hother s hs hsystem heq)

/-- **A station is found under its full name.** -/
lemma place_stationName (h : (ofRows rows).station? id = some s) :
    (ofRows rows).place ((ofRows rows).stationName id) = .ok (.station id) := by
  obtain ⟨sys, hsys⟩ := system?_of_station?_ofRows h
  have hid : sys.id = s.system := Register.number_of_find? hsys
  have hmem := Register.mem_toList_of_find? hsys
  have hstation := Register.mem_toList_of_find? h
  have hname : (ofRows rows).stationName id = sys.name ++ "/" ++ s.name := by
    rw [stationName, h]
    simp only [systemName, hsys, Option.map_some, Option.getD_some]
  have htight := hnames.station_tight s hstation
  have hfull := tight_fullName (hnames.system_tight sys hmem) htight
    (hnames.station_named s hstation)
  have hwithin : (ofRows rows).placeWithin? sys.name s.name = some (.station id) := by
    rw [placeWithin?, systemNamed?_name hnames hsys, Option.bind_some, Text.trim_eq_self htight]
    dsimp only
    rw [if_neg (hnames.station_named s hstation), hid, find?_stationsIn_name hids hnames h,
      Option.map_some, id_of_station? h]
  rw [hname, place, Text.trim_eq_self hfull, splitStroke?_append (hnames.system_no_stroke sys hmem)]
  simp only [hwithin]

end Rows

/-- **A system is found under its name,** even if a station has that name as well. -/
lemma place_systemName (hnames : g.WellNamed) (h : g.system? system = some sys) :
    g.place (g.systemName system) = .ok (.system system) := by
  have hmem := Register.mem_toList_of_find? h
  have hname : g.systemName system = sys.name := by
    rw [systemName, h, Option.map_some, Option.getD_some]
  have hid : sys.id = system := Register.number_of_find? h
  rw [hname, place, Text.trim_eq_self (hnames.system_tight sys hmem),
    splitStroke?_eq_none (hnames.system_no_stroke sys hmem)]
  simp only [placeNamed, systemNamed?_name hnames h, hid]

/-- **Each place is found again under the name it is shown with,** where no two rows of stations
have one number and the names can be told apart. -/
theorem place_shownName {rows : Rows} (hids : (rows.stations.map Station.id).Nodup)
    (hnames : (ofRows rows).WellNamed) :
    (∀ id s, (ofRows rows).station? id = some s →
        (ofRows rows).place ((ofRows rows).stationName id) = .ok (.station id)) ∧
      ∀ id sys, (ofRows rows).system? id = some sys →
        (ofRows rows).place ((ofRows rows).systemName id) = .ok (.system id) :=
  ⟨fun _ _ h => place_stationName hids hnames h, fun _ _ h => place_systemName hnames h⟩

end Galaxy

/-! #### Two docks -/

/-- Two systems, each with a dock, one with a second dock that has a stroke in its name, and the
other one with a station named after the first system. -/
def dockRows : Rows where
  systems := [⟨1, "Sol", ⟨0.0, 0.0, 0.0⟩, []⟩, ⟨2, "Wega ß", ⟨2.0, 0.0, 0.0⟩, []⟩]
  stations := [
    { id := 1, name := "Dock", system := 1 }, { id := 2, name := "Dock/Two", system := 1 },
    { id := 3, name := "Dock", system := 2 }, { id := 4, name := "SOL", system := 2 }]

lemma wellNamed_dockRows : (Galaxy.ofRows dockRows).WellNamed :=
  ⟨by decide +kernel, by decide +kernel, by decide +kernel, by decide +kernel, by decide +kernel,
    by decide +kernel⟩

/-- The two docks of one name are told apart by their systems, the second dock is found in spite of
its stroke, and the name of the first system is not taken for that of the station. -/
theorem place_shownName_twoDocks :
    (dockRows.stations.map Station.id).Nodup ∧ (Galaxy.ofRows dockRows).WellNamed ∧
      (Galaxy.ofRows dockRows).place "Sol/Dock/Two" = .ok (.station 2) ∧
      (Galaxy.ofRows dockRows).place "Wega ß/Dock" = .ok (.station 3) ∧
      (Galaxy.ofRows dockRows).place "Sol" = .ok (.system 1) := by
  have hids : (dockRows.stations.map Station.id).Nodup := by decide
  have hnames := wellNamed_dockRows
  obtain ⟨hstations, hsystems⟩ := Galaxy.place_shownName hids hnames
  have hshown : (Galaxy.ofRows dockRows).stationName 2 = "Sol/Dock/Two" ∧
      (Galaxy.ofRows dockRows).stationName 3 = "Wega ß/Dock" ∧
      (Galaxy.ofRows dockRows).systemName 1 = "Sol" := by decide +kernel
  have hknown : ((Galaxy.ofRows dockRows).station? 2).isSome ∧
      ((Galaxy.ofRows dockRows).station? 3).isSome ∧
      ((Galaxy.ofRows dockRows).system? 1).isSome := by decide +kernel
  obtain ⟨hsecond, hthird, hsystem⟩ := hknown
  rw [← hshown.1, ← hshown.2.1, ← hshown.2.2]
  exact ⟨hids, hnames, hstations 2 _ (Option.eq_some_of_isSome hsecond),
    hstations 3 _ (Option.eq_some_of_isSome hthird),
    hsystems 1 _ (Option.eq_some_of_isSome hsystem)⟩

end TradeRun
