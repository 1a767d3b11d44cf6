import TradeRun.Proofs.Galaxy.Names

/-!
What a name is read as.

A name with a stroke is read as a system and one of the stations that it lists, or as the system
alone if nothing follows the stroke. A name without one is read as a system and, if there is none,
as a station that no other station has the name of.

* `Galaxy.Bears`, `Galaxy.systemNamed?_eq_some_iff`: the system that bears a name, which is the one
  that the name finds;
* `Galaxy.ListsFirst`: the station that is meant by a name within a system;
* `Galaxy.Reads`: the readings of a name;
* `Galaxy.place_append_stroke`: a name is taken apart at its first stroke, blanks or not;
* `Galaxy.place_eq_ok_iff`: **the place of a name is what the name is read as**.
-/

namespace TradeRun

/-- Of an ordered list the least element is found that satisfies a predicate. -/
lemma find?_eq_some_iff_of_pairwise {α : Type} {r : α → α → Prop} {p : α → Bool} {l : List α}
    {a : α} (hl : l.Pairwise r) (hrefl : ∀ a, r a a)
    (hantisymm : ∀ a ∈ l, ∀ b ∈ l, r a b → r b a → a = b) :
    l.find? p = some a ↔ a ∈ l ∧ p a ∧ ∀ b ∈ l, p b → r a b := by
  have hleast {a : α} (h : l.find? p = some a) : ∀ b ∈ l, p b → r a b := by
    obtain ⟨-, before, after, rfl, hbefore⟩ := List.find?_eq_some_iff_append.1 h
    intro b hb hp
    rcases List.mem_append.1 hb with hb | hb
    · simpa [hp] using hbefore b hb
    · rcases List.mem_cons.1 hb with rfl | hb
      · exact hrefl b
      · exact (List.pairwise_cons.1 (List.pairwise_append.1 hl).2.1).1 b hb
  constructor
  · exact fun h => ⟨List.mem_of_find?_eq_some h, List.find?_some h, hleast h⟩
  · rintro ⟨ha, hp, hle⟩
    obtain ⟨b, hb⟩ := Option.isSome_iff_exists.1 (List.find?_isSome.2 ⟨a, ha, hp⟩)
    have hmem := List.mem_of_find?_eq_some hb
    rw [hb, hantisymm b hmem a ha (hleast hb a ha hp) (hle b hmem (List.find?_some hb))]

namespace Galaxy

open Text (trim upperCase equalAscii)

/-! ### Readings -/

/-- The system bears the name, in capital letters and without blanks around it, and no system with a
greater number does. -/
@[mk_iff]
structure Bears (g : Galaxy) (sys : StarSystem) (name : String) : Prop where
  known : g.system? sys.id = some sys
  name_eq : upperCase sys.name = lookupKey name
  greatest : ∀ other, g.system? other.id = some other → upperCase other.name = lookupKey name →
    other.id ≤ sys.id

/-- Of the stations that a system lists this is the first one with the name, up to the case of ASCII
letters and without blanks around it. -/
@[mk_iff]
structure ListsFirst (g : Galaxy) (system : SystemId) (name : String) (s : Station) : Prop where
  listed : s ∈ g.stationsIn system
  name_eq : equalAscii s.name (trim name)
  first : ∀ other ∈ g.stationsIn system, equalAscii other.name (trim name) → s.id ≤ other.id

/-- This station alone has the name. -/
structure Alone (g : Galaxy) (name : String) (s : Station) : Prop where
  known : g.station? s.id = some s
  name_eq : equalAscii s.name (trim name)
  unique : ∀ other, g.station? other.id = some other → equalAscii other.name (trim name) →
    other = s

/-- The readings of a name: a system or else a station of that name, and with a stroke in it the
system before the first one, as a whole or with the station behind it. -/
inductive Reads (g : Galaxy) : String → Place → Prop
  | system {name : String} {sys : StarSystem} (hstroke : '/' ∉ name.toList)
      (hbears : g.Bears sys name) : Reads g name (.system sys.id)
  | station {name : String} {s : Station} (hstroke : '/' ∉ name.toList)
      (hnone : ∀ sys, ¬ g.Bears sys name) (halone : g.Alone name s) : Reads g name (.station s.id)
  | whole {a b : String} {sys : StarSystem} (hstroke : '/' ∉ a.toList) (hbears : g.Bears sys a)
      (hblank : trim b = "") : Reads g (a ++ "/" ++ b) (.system sys.id)
  | within {a b : String} {sys : StarSystem} {s : Station} (hstroke : '/' ∉ a.toList)
      (hbears : g.Bears sys a) (hname : trim b ≠ "") (hfirst : g.ListsFirst sys.id b s) :
      Reads g (a ++ "/" ++ b) (.station s.id)

variable {g : Galaxy} {rows : Rows} {name a b : String} {sys : StarSystem} {p : Place}

/-! ### Lookups -/

/-- **A name finds the system that bears it.** -/
lemma systemNamed?_eq_some_iff : g.systemNamed? name = some sys ↔ g.Bears sys name := by
  have hordered : g.systems.toList.reverse.Pairwise fun x y : StarSystem => y.id ≤ x.id :=
    List.pairwise_reverse.2 ((Register.pairwise_toList g.systems).imp le_of_lt)
  rw [systemNamed?, find?_eq_some_iff_of_pairwise hordered fun _ => le_rfl]
  · simp only [bears_iff, List.mem_reverse, Register.mem_toList, beq_iff_eq, system?]
  · intro x hx y hy hle hge
    exact Register.eq_of_mem_toList (List.mem_reverse.1 hx) (List.mem_reverse.1 hy)
      (le_antisymm hge hle)

/-- Within a system the first station with a name is found. -/
lemma find?_stationsIn_eq_some_iff {system : SystemId} {s : Station} :
    ((ofRows rows).stationsIn system).find? (fun t => equalAscii t.name (trim name)) = some s ↔
      (ofRows rows).ListsFirst system name s := by
  have hordered : ((ofRows rows).stationsIn system).Pairwise fun x y => x.id ≤ y.id := by
    rw [← List.pairwise_map (f := Station.id) (R := (· ≤ ·)), map_id_stationsIn_ofRows]
    exact List.sortedLE_mergeSort.pairwise
  rw [find?_eq_some_iff_of_pairwise hordered fun _ => le_rfl]
  · rw [listsFirst_iff]
  · intro x hx y hy hle hge
    have hknown := station?_of_mem_stationsIn hx
    rw [le_antisymm hle hge, station?_of_mem_stationsIn hy] at hknown
    exact (Option.some.inj hknown).symm

lemma mem_stationsNamed {s : Station} :
    s ∈ g.stationsNamed name ↔ g.station? s.id = some s ∧ equalAscii s.name name := by
  rw [stationsNamed, List.mem_filter, Register.mem_toList, station?]

/-- A name has one station just when no other one has it. -/
lemma stationsNamed_eq_singleton_iff {s : Station} :
    g.stationsNamed (trim name) = [s] ↔ g.Alone name s := by
  constructor
  · intro h
    have hmem (t : Station) : g.station? t.id = some t ∧ equalAscii t.name (trim name) ↔ t = s := by
      rw [← mem_stationsNamed, h, List.mem_singleton]
    obtain ⟨hknown, hname⟩ := (hmem s).2 rfl
    exact ⟨hknown, hname, fun other hother heq => (hmem other).1 ⟨hother, heq⟩⟩
  · intro h
    have hnodup : (g.stationsNamed (trim name)).Nodup := (Register.nodup_toList g.stations).filter _
    refine List.perm_singleton.1 ((List.perm_ext_iff_of_nodup hnodup (List.nodup_singleton s)).2 ?_)
    intro t
    rw [mem_stationsNamed, List.mem_singleton]
    constructor
    · exact fun ⟨hknown, hname⟩ => h.unique t hknown hname
    · rintro rfl
      exact ⟨h.known, h.name_eq⟩

/-! ### Strokes -/

/-- A name without a stroke is not taken apart. -/
lemma place_of_no_stroke (h : '/' ∉ name.toList) : g.place name = g.placeNamed (trim name) := by
  have htrim : '/' ∉ (trim name).toList := (Text.mem_trim_iff (by decide)).not.2 h
  rw [place, splitStroke?_eq_none htrim]

/-- **A name is taken apart at its first stroke**, whatever blanks there are. -/
lemma place_append_stroke (h : '/' ∉ a.toList) :
    g.place (a ++ "/" ++ b) = .ok p ↔ g.placeWithin? a b = some p := by
  have htrim : trim (a ++ "/" ++ b) = String.ofList (a.toList.dropWhile Text.isBlank) ++ "/" ++
      String.ofList (b.toList.rdropWhile Text.isBlank) := by
    rw [← String.toList_inj, toList_fullName, trim, String.toList_ofList, toList_fullName,
      Text.trimBlanks_append_mark (by decide), String.toList_ofList, String.toList_ofList]
  have hstroke : '/' ∉ (String.ofList (a.toList.dropWhile Text.isBlank)).toList := by
    rw [String.toList_ofList]
    exact fun hmem => h ((List.dropWhile_sublist _).subset hmem)
  have hwithin : g.placeWithin? (String.ofList (a.toList.dropWhile Text.isBlank))
      (String.ofList (b.toList.rdropWhile Text.isBlank)) = g.placeWithin? a b := by
    rw [placeWithin?, placeWithin?, systemNamed?, systemNamed?, lookupKey, lookupKey,
      Text.trim_dropWhile, Text.trim_rdropWhile, String.ofList_toList, String.ofList_toList]
  rw [place, htrim, splitStroke?_append hstroke]
  dsimp only
  rw [hwithin]
  cases g.placeWithin? a b <;> simp

/-- A name has no stroke or is taken apart at its first one. -/
lemma no_stroke_or_append (name : String) :
    '/' ∉ name.toList ∨ ∃ a b, '/' ∉ a.toList ∧ name = a ++ "/" ++ b := by
  by_cases h : '/' ∈ name.toList
  · obtain ⟨before, after, hname, hstroke⟩ := List.eq_append_cons_of_mem h
    refine .inr ⟨String.ofList before, String.ofList after, by rwa [String.toList_ofList], ?_⟩
    rw [← String.toList_inj, toList_fullName, hname, String.toList_ofList, String.toList_ofList]
  · exact .inl h

/-! ### The place of a name -/

lemma placeNamed_eq_ok_iff :
    g.placeNamed (trim name) = .ok p ↔ (∃ sys, g.Bears sys name ∧ p = .system sys.id) ∨
      (∀ sys, ¬ g.Bears sys name) ∧ ∃ s, g.Alone name s ∧ p = .station s.id := by
  have htrim : g.systemNamed? (trim name) = g.systemNamed? name := by
    rw [systemNamed?, systemNamed?, lookupKey, lookupKey, Text.trim_trim]
  simp only [← systemNamed?_eq_some_iff, ← stationsNamed_eq_singleton_iff]
  rw [placeNamed, htrim]
  cases g.systemNamed? name with
  | some sys => simp [eq_comm]
  | none =>
      rcases g.stationsNamed (trim name) with _ | ⟨s, _ | ⟨t, rest⟩⟩
      · simp
      · simp [eq_comm]
      · simp

lemma placeWithin?_eq_some_iff :
    (ofRows rows).placeWithin? a b = some p ↔ ∃ sys, (ofRows rows).Bears sys a ∧
      (trim b = "" ∧ p = .system sys.id ∨
        trim b ≠ "" ∧ ∃ s, (ofRows rows).ListsFirst sys.id b s ∧ p = .station s.id) := by
  simp only [← systemNamed?_eq_some_iff, ← find?_stationsIn_eq_some_iff]
  rw [placeWithin?, Option.bind_eq_some_iff]
  refine exists_congr fun sys => and_congr_right' ?_
  by_cases hblank : trim b = ""
  · simp [hblank, eq_comm]
  · simp [hblank, eq_comm]

/-- **The place of a name is what the name is read as.** -/
theorem place_eq_ok_iff : (ofRows rows).place name = .ok p ↔ (ofRows rows).Reads name p := by
  constructor
  · intro h
    rcases no_stroke_or_append name with hstroke | ⟨a, b, hstroke, rfl⟩
    · rw [place_of_no_stroke hstroke, placeNamed_eq_ok_iff] at h
      rcases h with ⟨sys, hbears, rfl⟩ | ⟨hnone, s, halone, rfl⟩
      · exact .system hstroke hbears
      · exact .station hstroke hnone halone
    · rw [place_append_stroke hstroke, placeWithin?_eq_some_iff] at h
      obtain ⟨sys, hbears, ⟨hblank, rfl⟩ | ⟨hname, s, hfirst, rfl⟩⟩ := h
      · exact .whole hstroke hbears hblank
      · exact .within hstroke hbears hname hfirst
  · intro h
    cases h with
    | system hstroke hbears =>
        rw [place_of_no_stroke hstroke, placeNamed_eq_ok_iff]
        exact .inl ⟨_, hbears, rfl⟩
    | station hstroke hnone halone =>
        rw [place_of_no_stroke hstroke, placeNamed_eq_ok_iff]
        exact .inr ⟨hnone, _, halone, rfl⟩
    | whole hstroke hbears hblank =>
        rw [place_append_stroke hstroke, placeWithin?_eq_some_iff]
        exact ⟨_, hbears, .inl ⟨hblank, rfl⟩⟩
    | within hstroke hbears hname hfirst =>
        rw [place_append_stroke hstroke, placeWithin?_eq_some_iff]
        exact ⟨_, hbears, .inr ⟨hname, _, hfirst, rfl⟩⟩

end Galaxy

end TradeRun
