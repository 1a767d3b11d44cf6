import TradeRun.Proofs.Galaxy.Reading

/-!
Names that are offered in place of one that names no place.

A name that several stations have is answered with their full names, and a name that no place has
with names that look like it. Whether an offered name is of use hangs on the other names: a stroke
in the name of a system, blanks at the ends of a name, or a name that comes up twice lead elsewhere
or nowhere.

* `StarSystem.Addressed`, `Station.Addressed`: the systems and stations whose names lead to them;
* `Galaxy.place_name_iff`, `Galaxy.place_stationName_iff`: and it is just these;
* `Galaxy.place_eq_error`: what is said of a name that is not that of one place;
* `Galaxy.mem_of_mem_mostAlike`: only names of places are suggested;
* `Galaxy.Settles`: the offered names tell the stations of an ambiguous name apart;
* `Galaxy.place_offers`: **when the names that are offered can be used**;
* `place_offers_twoDocks`, `place_offers_stroke`: two docks that are told apart, and a system with a
  stroke in its name, which is offered in vain.
-/

namespace TradeRun

open Text (Tight trim upperCase equalAscii)

/-! ### Addresses -/

/-- The name of a system leads to it: there is no stroke in it and no blank around it, and no system
with a greater number has it too. -/
structure StarSystem.Addressed (sys : StarSystem) (g : Galaxy) : Prop where
  no_stroke : '/' ∉ sys.name.toList
  tight : Tight sys.name
  greatest : ∀ other, g.system? other.id = some other →
    upperCase other.name = upperCase sys.name → other.id ≤ sys.id

/-- The full name of a station leads to it: there is no stroke in the system's name, the station has
a name without blanks around it, and the system that bears the system's name lists no other station
of that name before it. -/
structure Station.Addressed (s : Station) (g : Galaxy) : Prop where
  no_stroke : '/' ∉ (g.systemName s.system).toList
  tight : Tight s.name
  named : s.name ≠ ""
  first : ∃ sys, g.Bears sys (g.systemName s.system) ∧ g.ListsFirst sys.id s.name s

namespace Galaxy

variable {g : Galaxy} {rows : Rows} {name a b : String} {sys : StarSystem} {s : Station}

/-- A system that bears a name has no blanks around its own. -/
lemma Bears.tight (h : g.Bears sys name) : Tight sys.name := by
  rw [← Text.tight_upperCase, h.name_eq, lookupKey, Text.tight_upperCase]
  exact Text.tight_trim name

/-- A system that bears a name without a stroke has none in its own. -/
lemma Bears.no_stroke (h : g.Bears sys name) (hstroke : '/' ∉ name.toList) :
    '/' ∉ sys.name.toList := by
  rw [← Text.stroke_mem_upperCase, h.name_eq, lookupKey, Text.stroke_mem_upperCase,
    Text.mem_trim_iff (by decide)]
  exact hstroke

/-- A system that bears a name bears its own. -/
lemma Bears.self (h : g.Bears sys name) : g.Bears sys sys.name := by
  have hkey : lookupKey sys.name = lookupKey name := by
    rw [← h.name_eq, lookupKey, Text.trim_eq_self h.tight]
  exact ⟨h.known, by rw [hkey, h.name_eq], fun other hother heq =>
    h.greatest other hother (heq.trans hkey)⟩

lemma addressed_iff_bears (h : '/' ∉ sys.name.toList) (hknown : g.system? sys.id = some sys) :
    sys.Addressed g ↔ g.Bears sys sys.name := by
  constructor
  · intro haddressed
    have hkey : lookupKey sys.name = upperCase sys.name := by
      rw [lookupKey, Text.trim_eq_self haddressed.tight]
    exact ⟨hknown, hkey.symm, fun other hother heq =>
      haddressed.greatest other hother (heq.trans hkey)⟩
  · intro hbears
    exact ⟨h, hbears.tight, fun other hother heq =>
      hbears.greatest other hother (heq.trans hbears.name_eq)⟩

/-- The first station of a name is the first one of a name that is equal to it. -/
lemma ListsFirst.congr {system : SystemId} {other : String} (h : g.ListsFirst system name s)
    (heq : equalAscii (trim other) (trim name)) : g.ListsFirst system other s := by
  have hsame (text : String) : equalAscii text (trim other) = equalAscii text (trim name) := by
    rw [equalAscii, equalAscii, beq_iff_eq.1 heq]
  refine ⟨h.listed, by rw [hsame]; exact h.name_eq, fun t ht hname => h.first t ht ?_⟩
  rwa [← hsame]

/-- A system that is named by its number is the one on record. -/
lemma Bears.eq_of_id {other : StarSystem} (h : g.Bears other name)
    (hknown : g.system? sys.id = some sys) (hid : Place.system sys.id = .system other.id) :
    other = sys := by
  have hother := h.known
  rw [← Place.system.inj hid, hknown] at hother
  exact (Option.some.inj hother).symm

/-- **A system is found under its name just when the name leads to it.** -/
lemma place_name_iff (hknown : (ofRows rows).system? sys.id = some sys) :
    (ofRows rows).place sys.name = .ok (.system sys.id) ↔ sys.Addressed (ofRows rows) := by
  rcases no_stroke_or_append sys.name with hstroke | ⟨a, b, hstroke, hname⟩
  · rw [addressed_iff_bears hstroke hknown, place_of_no_stroke hstroke, placeNamed_eq_ok_iff]
    constructor
    · rintro (⟨other, hbears, hid⟩ | ⟨-, s, -, hid⟩)
      · obtain rfl := hbears.eq_of_id hknown hid
        exact hbears
      · cases hid
    · exact fun hbears => .inl ⟨sys, hbears, rfl⟩
  · have hmem : '/' ∈ sys.name.toList := by
      rw [hname, toList_fullName]
      exact List.mem_append_right _ List.mem_cons_self
    constructor
    · intro h
      rw [hname, place_append_stroke hstroke, placeWithin?_eq_some_iff] at h
      obtain ⟨other, hbears, ⟨-, hid⟩ | ⟨-, s, -, hid⟩⟩ := h
      · obtain rfl := hbears.eq_of_id hknown hid
        exact absurd hmem (hbears.no_stroke hstroke)
      · cases hid
    · exact fun haddressed => absurd hmem haddressed.no_stroke

/-- A station that is found under a full name is listed first by the system before the stroke, if it
has as many strokes in its name as stand in what follows. -/
lemma of_place_eq_station (h : (ofRows rows).place (a ++ "/" ++ b) = .ok (.station s.id))
    (hknown : (ofRows rows).station? s.id = some s)
    (hcount : s.name.toList.count '/' = b.toList.count '/') :
    '/' ∉ a.toList ∧ trim b ≠ "" ∧ ∃ sys, (ofRows rows).Bears sys a ∧
      (ofRows rows).ListsFirst sys.id b s := by
  have hfirst {a b : String} (hstroke : '/' ∉ a.toList)
      (h : (ofRows rows).place (a ++ "/" ++ b) = .ok (.station s.id)) :
      trim b ≠ "" ∧ ∃ sys, (ofRows rows).Bears sys a ∧ (ofRows rows).ListsFirst sys.id b s := by
    rw [place_append_stroke hstroke, placeWithin?_eq_some_iff] at h
    obtain ⟨sys, hbears, ⟨-, hid⟩ | ⟨hname, t, hfirst, hid⟩⟩ := h
    · cases hid
    · have ht := station?_of_mem_stationsIn hfirst.listed
      rw [← Place.station.inj hid, hknown] at ht
      obtain rfl := Option.some.inj ht
      exact ⟨hname, sys, hbears, hfirst⟩
  rcases no_stroke_or_append a with hstroke | ⟨c, d, hstroke, rfl⟩
  · exact ⟨hstroke, hfirst hstroke h⟩
  · -- a stroke in the system's name leaves one too many in that of the station
    have hassoc : c ++ "/" ++ d ++ "/" ++ b = c ++ "/" ++ (d ++ "/" ++ b) := by
      simp only [String.append_assoc]
    rw [hassoc] at h
    obtain ⟨-, sys, -, hlisted⟩ := hfirst hstroke h
    have hmore := Text.count_stroke_of_equalAscii hlisted.name_eq
    rw [Text.count_trim (by decide), toList_fullName, List.count_append, List.count_cons_self,
      hcount] at hmore
    omega

lemma stationName_eq (hknown : g.station? s.id = some s) :
    g.stationName s.id = g.systemName s.system ++ "/" ++ s.name := by
  rw [stationName, hknown]

/-- **A station is found under its full name just when that leads to it.** -/
lemma place_stationName_iff (hknown : (ofRows rows).station? s.id = some s) :
    (ofRows rows).place ((ofRows rows).stationName s.id) = .ok (.station s.id) ↔
      s.Addressed (ofRows rows) := by
  rw [stationName_eq hknown]
  constructor
  · intro h
    obtain ⟨hstroke, hname, sys, hbears, hfirst⟩ := of_place_eq_station h hknown rfl
    have htight : Tight s.name :=
      (Text.tight_iff_of_equalAscii hfirst.name_eq).2 (Text.tight_trim s.name)
    rw [Text.trim_eq_self htight] at hname
    exact ⟨hstroke, htight, hname, sys, hbears, hfirst⟩
  · rintro ⟨hstroke, htight, hname, sys, hbears, hfirst⟩
    rw [← Text.trim_eq_self htight] at hname
    rw [place_append_stroke hstroke, placeWithin?_eq_some_iff]
    exact ⟨sys, hbears, .inr ⟨hname, s, hfirst, rfl⟩⟩

/-- Where the names can be told apart each of them leads to its place. -/
lemma WellNamed.addressed (hnames : (ofRows rows).WellNamed)
    (hids : (rows.stations.map Station.id).Nodup) :
    (∀ sys, (ofRows rows).system? sys.id = some sys → sys.Addressed (ofRows rows)) ∧
      ∀ s, (ofRows rows).station? s.id = some s → s.Addressed (ofRows rows) := by
  constructor
  · intro sys hknown
    have hname : (ofRows rows).systemName sys.id = sys.name := by
      rw [systemName, hknown]
      rfl
    rw [← place_name_iff hknown, ← hname]
    exact place_systemName hnames hknown
  · intro s hknown
    exact (place_stationName_iff hknown).1 (place_stationName hids hnames hknown)

/-! ### Errors -/

/-- What is said of a name that is not that of one place. -/
lemma place_eq_error {e : PlanError} (h : g.place name = .error e) :
    e = g.unknown (trim name) ∨ e = .ambiguousPlace (trim name)
      ((g.stationsNamed (trim name)).map fun s => g.stationName s.id) := by
  rw [place] at h
  split at h
  · split at h
    · cases h
    · cases h
      exact .inl rfl
  · rw [placeNamed] at h
    split at h
    · cases h
    · split at h
      · cases h
        exact .inl rfl
      · cases h
      · cases h
        exact .inr rfl

/-- Dropping repeated names adds none. -/
lemma dropRepeats_sublist (entries : List (Float × String)) :
    (dropRepeats entries).Sublist entries := by
  fun_induction dropRepeats entries with
  | case1 a b rest heq ih => exact ih.trans ((List.sublist_cons_self b rest).cons_cons a)
  | case2 a b rest hne ih => exact ih.cons_cons a
  | case3 short => exact List.Sublist.refl _

/-- **Only names that are given are found alike.** -/
lemma mem_of_mem_mostAlike {likeness : String → Float} {names : List String} {limit : Nat}
    (h : name ∈ mostAlike likeness names limit) : name ∈ names := by
  obtain ⟨entry, hentry, rfl⟩ := List.mem_map.1 h
  have hscored := (List.mergeSort_perm _ _).subset
    ((dropRepeats_sublist _).subset (List.mem_of_mem_take hentry))
  obtain ⟨candidate, hcandidate, hentry⟩ := List.mem_filterMap.1 hscored
  split_ifs at hentry with hlike
  obtain rfl := Option.some.inj hentry
  exact hcandidate

/-- The names of places are those of the systems and the full ones of the stations. -/
lemma mem_placeNames : name ∈ g.placeNames ↔
    (∃ sys, g.system? sys.id = some sys ∧ name = sys.name) ∨
      ∃ s, g.station? s.id = some s ∧ name = g.stationName s.id := by
  simp only [placeNames, List.mem_append, List.mem_map, Register.mem_toList, eq_comm (a := name)]
  exact Iff.rfl

/-- Only names of places are suggested. -/
lemma exists_of_mem_suggestions {limit : Nat} {offer : String}
    (h : offer ∈ g.suggestions name limit) :
    (∃ sys, g.system? sys.id = some sys ∧ offer = sys.name) ∨
      ∃ s, g.station? s.id = some s ∧ offer = g.stationName s.id :=
  mem_placeNames.1 (mem_of_mem_mostAlike h)

/-! ### Ambiguous names -/

/-- The candidates settle which station is meant: each one leads to a station, and the stations to
which they lead are those of the name. -/
structure Settles (g : Galaxy) (shown : String) (candidates : List String) : Prop where
  found : ∀ candidate ∈ candidates, ∃ id, g.place candidate = .ok (.station id)
  exact : ∀ id, (∃ candidate ∈ candidates, g.place candidate = .ok (.station id)) ↔
    ∃ s ∈ g.stationsNamed shown, s.id = id

/-- The full names of the stations of a name. -/
def candidates (g : Galaxy) (shown : String) : List String :=
  (g.stationsNamed shown).map fun s => g.stationName s.id

/-- Full names that lead to their stations settle which one is meant. -/
lemma settles_of_addressed {shown : String}
    (h : ∀ s ∈ (ofRows rows).stationsNamed shown, s.Addressed (ofRows rows)) :
    (ofRows rows).Settles shown ((ofRows rows).candidates shown) := by
  have hplace : ∀ s ∈ (ofRows rows).stationsNamed shown,
      (ofRows rows).place ((ofRows rows).stationName s.id) = .ok (.station s.id) :=
    fun s hs => (place_stationName_iff (mem_stationsNamed.1 hs).1).2 (h s hs)
  constructor
  · intro candidate hcandidate
    obtain ⟨s, hs, rfl⟩ := List.mem_map.1 hcandidate
    exact ⟨s.id, hplace s hs⟩
  · intro id
    constructor
    · rintro ⟨candidate, hcandidate, hid⟩
      obtain ⟨s, hs, rfl⟩ := List.mem_map.1 hcandidate
      rw [hplace s hs] at hid
      exact ⟨s, hs, Place.station.inj (Except.ok.inj hid)⟩
    · rintro ⟨s, hs, rfl⟩
      exact ⟨_, List.mem_map_of_mem hs, hplace s hs⟩

/-- Where no two rows that are taken over have one number, full names that settle which station is
meant lead each to its own. -/
lemma addressed_of_settles {shown : String} (hids : (rows.placed.map Station.id).Nodup)
    (h : (ofRows rows).Settles shown ((ofRows rows).candidates shown)) :
    ∀ s ∈ (ofRows rows).stationsNamed shown, s.Addressed (ofRows rows) := by
  intro s hs
  obtain ⟨hknown, hname⟩ := mem_stationsNamed.1 hs
  -- the station is found under the full name of one that is called the same
  obtain ⟨candidate, hcandidate, hplace⟩ := (h.exact s.id).2 ⟨s, hs, rfl⟩
  obtain ⟨t, ht, rfl⟩ := List.mem_map.1 hcandidate
  obtain ⟨htknown, htname⟩ := mem_stationsNamed.1 ht
  have hsame : equalAscii s.name t.name := by
    rw [equalAscii, beq_iff_eq] at hname htname ⊢
    exact hname.trans htname.symm
  rw [stationName_eq htknown] at hplace
  obtain ⟨hstroke, hne, sys, hbears, hfirst⟩ :=
    of_place_eq_station hplace hknown (Text.count_stroke_of_equalAscii hsame)
  -- so the system that lists it is its own
  have hsystem : (ofRows rows).systemName s.system = sys.name := by
    rw [system_of_mem_stationsIn_placed hids hfirst.listed, systemName, hbears.known]
    rfl
  have htight : Tight s.name :=
    (Text.tight_iff_of_equalAscii hfirst.name_eq).2 (Text.tight_trim t.name)
  have hnamed : s.name ≠ "" := (Text.eq_empty_iff_of_equalAscii hfirst.name_eq).not.2 hne
  have hsame : equalAscii (trim s.name) (trim t.name) := by
    rw [Text.trim_eq_self htight]
    exact hfirst.name_eq
  refine ⟨?_, htight, hnamed, sys, ?_, hfirst.congr hsame⟩
  · rw [hsystem]
    exact hbears.no_stroke hstroke
  · rw [hsystem]
    exact hbears.self

/-! ### Offers -/

/-- **When the names that are offered can be used.** The candidates for a name that several stations
have, blanks around it left out, are the full names of all of these. They settle which station is
meant if each of the stations is addressed by its full name and, where no two rows that are taken
over have one number, only then. Of the names that are suggested for one that no place has each is
that of a system or the full name of a station, leads to that place just when it is an address of
it, and to any place at all just when there is a reading of it. -/
theorem place_offers (rows : Rows) (name : String) :
    (∀ shown candidates, (ofRows rows).place name = .error (.ambiguousPlace shown candidates) →
      shown = trim name ∧
      candidates = ((ofRows rows).stationsNamed shown).map
        (fun s => (ofRows rows).stationName s.id) ∧
      ((∀ s ∈ (ofRows rows).stationsNamed shown, s.Addressed (ofRows rows)) →
        (ofRows rows).Settles shown candidates) ∧
      ((rows.placed.map Station.id).Nodup → (ofRows rows).Settles shown candidates →
        ∀ s ∈ (ofRows rows).stationsNamed shown, s.Addressed (ofRows rows))) ∧
    ∀ shown suggestions, (ofRows rows).place name = .error (.unknownPlace shown suggestions) →
      ∀ offer ∈ suggestions,
        ((∃ sys, (ofRows rows).system? sys.id = some sys ∧ offer = sys.name ∧
            ((ofRows rows).place offer = .ok (.system sys.id) ↔ sys.Addressed (ofRows rows))) ∨
          ∃ s, (ofRows rows).station? s.id = some s ∧ offer = (ofRows rows).stationName s.id ∧
            ((ofRows rows).place offer = .ok (.station s.id) ↔ s.Addressed (ofRows rows))) ∧
        ((∃ p, (ofRows rows).place offer = .ok p) ↔ ∃ p, (ofRows rows).Reads offer p) := by
  constructor
  · intro shown offered h
    obtain ⟨rfl, rfl⟩ : shown = trim name ∧ offered = (ofRows rows).candidates (trim name) := by
      rcases place_eq_error h with heq | heq
      · cases heq
      · exact PlanError.ambiguousPlace.inj heq
    exact ⟨rfl, rfl, settles_of_addressed, addressed_of_settles⟩
  · intro shown suggestions h offer hoffer
    obtain rfl : suggestions = (ofRows rows).suggestions (trim name) 3 := by
      rcases place_eq_error h with heq | heq
      · exact (PlanError.unknownPlace.inj heq).2
      · cases heq
    refine ⟨?_, exists_congr fun p => place_eq_ok_iff⟩
    rcases exists_of_mem_suggestions hoffer with ⟨sys, hknown, rfl⟩ | ⟨s, hknown, rfl⟩
    · exact .inl ⟨sys, hknown, rfl, place_name_iff hknown⟩
    · exact .inr ⟨s, hknown, rfl, place_stationName_iff hknown⟩

end Galaxy

/-! #### Two docks and a stroke -/

/-- Where the names can be told apart the docks of one name are settled by their full names, and the
name that is suggested for a misspelt one is that of a place. -/
theorem place_offers_twoDocks :
    (Galaxy.ofRows dockRows).place "dock"
        = .error (.ambiguousPlace "dock" ["Sol/Dock", "Wega ß/Dock"]) ∧
      (Galaxy.ofRows dockRows).Settles "dock" ["Sol/Dock", "Wega ß/Dock"] ∧
      (Galaxy.ofRows dockRows).place "Soll" = .error (.unknownPlace "Soll" ["Sol"]) ∧
      ∃ p, (Galaxy.ofRows dockRows).place "Sol" = .ok p := by
  obtain ⟨hsystems, hstations⟩ := wellNamed_dockRows.addressed (by decide)
  have hshared : (Galaxy.ofRows dockRows).place "dock"
      = .error (.ambiguousPlace "dock" ["Sol/Dock", "Wega ß/Dock"]) := by decide +kernel
  have hmisspelt :
      (Galaxy.ofRows dockRows).place "Soll" = .error (.unknownPlace "Soll" ["Sol"]) := by
    have hunknown : (Galaxy.ofRows dockRows).place "Soll"
        = .error ((Galaxy.ofRows dockRows).unknown "Soll") := by with_unfolding_all rfl
    rw [hunknown, Galaxy.unknown, Galaxy.suggestions, Galaxy.mostAlike,
      List.mergeSort_of_pairwise (by decide +kernel)]
    decide +kernel
  obtain ⟨-, -, hsettles, -⟩ := (Galaxy.place_offers dockRows "dock").1 _ _ hshared
  refine ⟨hshared, hsettles fun s hs => hstations s (Galaxy.mem_stationsNamed.1 hs).1, hmisspelt,
    ?_⟩
  obtain ⟨⟨sys, hknown, -, hplace⟩ | ⟨s, hknown, -, hplace⟩, -⟩ :=
    (Galaxy.place_offers dockRows "Soll").2 _ _ hmisspelt "Sol" List.mem_cons_self
  · exact ⟨_, hplace.2 (hsystems sys hknown)⟩
  · exact ⟨_, hplace.2 (hstations s hknown)⟩

/-- Two systems with a dock each, one of them with a stroke in its name. -/
def strokeRows : Rows where
  systems := [⟨1, "Sol/B", ⟨0.0, 0.0, 0.0⟩, []⟩, ⟨2, "Wega", ⟨2.0, 0.0, 0.0⟩, []⟩]
  stations := [{ id := 1, name := "Dock", system := 1 }, { id := 2, name := "Dock", system := 2 }]

/-- The first dock is offered under a name that no place has, and so is its system, which is there
nevertheless. -/
theorem place_offers_stroke :
    (Galaxy.ofRows strokeRows).systemNamed? "Sol/B" ≠ none ∧
      (Galaxy.ofRows strokeRows).place "Dock"
        = .error (.ambiguousPlace "Dock" ["Sol/B/Dock", "Wega/Dock"]) ∧
      ¬ (Galaxy.ofRows strokeRows).Settles "Dock" ["Sol/B/Dock", "Wega/Dock"] ∧
      (Galaxy.ofRows strokeRows).place "Sol/C"
        = .error (.unknownPlace "Sol/C" ["Sol/B", "Sol/B/Dock"]) ∧
      ∀ offer ∈ ["Sol/B", "Sol/B/Dock"], ∀ p, (Galaxy.ofRows strokeRows).place offer ≠ .ok p := by
  have hnowhere : ∀ offer ∈ ["Sol/B", "Sol/B/Dock"],
      ((Galaxy.ofRows strokeRows).place offer).toOption = none := by decide +kernel
  have hvain : ∀ offer ∈ ["Sol/B", "Sol/B/Dock"], ∀ p,
      (Galaxy.ofRows strokeRows).place offer ≠ .ok p := by
    intro offer hoffer p hp
    have hnone := hnowhere offer hoffer
    rw [hp] at hnone
    cases hnone
  refine ⟨by decide +kernel, by decide +kernel, fun hsettles => ?_, ?_, hvain⟩
  · obtain ⟨id, hid⟩ := hsettles.found "Sol/B/Dock" (by decide)
    exact hvain _ (by decide) _ hid
  · have hunknown : (Galaxy.ofRows strokeRows).place "Sol/C"
        = .error ((Galaxy.ofRows strokeRows).unknown "Sol/C") := by with_unfolding_all rfl
    rw [hunknown, Galaxy.unknown, Galaxy.suggestions, Galaxy.mostAlike,
      List.mergeSort_of_pairwise (by decide +kernel)]
    decide +kernel

end TradeRun
