import TradeRun.Error
import TradeRun.Place
import TradeRun.Text.Pieces
import TradeRun.Text.Similarity
import TradeRun.Text.UpperCase

/-!
Places and items by name.

* `Galaxy.systemNamed?`, `Galaxy.itemNamed?`: the record with a name, in any case of its letters
  and with blanks around it; of several with one name the one with the greatest number;
* `Galaxy.place`: the place of a name, which is `SYSTEM/STATION`, the name of a system, or that of
  a single station. A stroke always separates a system from a station, and the first one counts.
  Station names are matched up to the case of ASCII letters only;
* `Galaxy.suggestions`: names that look like a given one, the most alike first;
* `Galaxy.system?_of_place`: a system found by its name is on record.
-/

namespace TradeRun

namespace Galaxy

/-- A name as it is looked up. -/
def lookupKey (name : String) : String := Text.upperCase (Text.trim name)

variable (g : Galaxy)

/-- The system of a name (`system_by_name`). -/
def systemNamed? (name : String) : Option StarSystem :=
  let key := lookupKey name
  g.systems.toList.reverse.find? fun s => Text.upperCase s.name == key

/-- The item of a name (`lookup_item`). -/
def itemNamed? (name : String) : Option Item :=
  let key := lookupKey name
  g.items.toList.reverse.find? fun i => Text.upperCase i.name == key

/-! ### Suggestions -/

/-- The likeness from which on a name is suggested. -/
def leastLikeness : Float := 0.8

/-- The more alike name first; of two that are equally so the one that sorts first. -/
def compareLikeness (a b : Float × String) : Ordering :=
  (Binary.compareTotal b.1 a.1).then (compare a.2 b.2)

/-- A list without the entries that bear the name of the entry before them. -/
def dropRepeats : List (Float × String) → List (Float × String)
  | a :: b :: rest => if a.2 = b.2 then dropRepeats (a :: rest) else a :: dropRepeats (b :: rest)
  | short => short
termination_by entries => entries.length

/-- The names that are at least so much like a given one, the most alike first, at most `limit` of
them. -/
def mostAlike (likeness : String → Float) (names : List String) (limit : Nat) : List String :=
  let scored := names.filterMap fun name =>
    if leastLikeness ≤ likeness name then some (likeness name, name) else none
  ((dropRepeats (scored.mergeSort fun a b => (compareLikeness a b).isLE)).take limit).map (·.2)

/-- The names of all systems and stations. -/
def placeNames : List String :=
  g.systems.toList.map StarSystem.name ++ g.stations.toList.map fun s => g.stationName s.id

/-- The likeness of two names, with all letters made capitals. -/
def likeness (name candidate : String) : Float :=
  Text.jaroWinkler (Text.upperCase name) (Text.upperCase candidate)

/-- Names of places that look like a given one (`fuzzy_place_matches`). -/
def suggestions (name : String) (limit : Nat) : List String :=
  mostAlike (likeness name) g.placeNames limit

/-! ### Places -/

/-- The error for a name that no place has (`unknown_place`). -/
def unknown (name : String) : PlanError := .unknownPlace name (g.suggestions name 3)

/-- What stands before and after the first stroke of a name. -/
def splitStroke? (name : String) : Option (String × String) :=
  let cs := name.toList
  if cs.contains '/' then
    let (system, station) := Text.cut '/' cs
    some (String.ofList system, String.ofList station)
  else none

/-- The place of a system's name and a station's name, the system itself if the latter is blank. -/
def placeWithin? (systemName stationName : String) : Option Place :=
  (g.systemNamed? systemName).bind fun s =>
    let wanted := Text.trim stationName
    if wanted = "" then some (.system s.id)
    else
      ((g.stationsIn s.id).find? fun t => Text.equalAscii t.name wanted).map fun t => .station t.id

/-- The stations of a name. -/
def stationsNamed (name : String) : List Station :=
  g.stations.toList.filter fun s => Text.equalAscii s.name name

/-- The place of a name without a stroke. -/
def placeNamed (name : String) : Except PlanError Place :=
  match g.systemNamed? name with
  | some s => .ok (.system s.id)
  | none =>
    match g.stationsNamed name with
    | [] => .error (g.unknown name)
    | [s] => .ok (.station s.id)
    | several => .error (.ambiguousPlace name (several.map fun s => g.stationName s.id))

/-- The place of a name (`lookup_place`). -/
def place (name : String) : Except PlanError Place :=
  let trimmed := Text.trim name
  match splitStroke? trimmed with
  | some (systemName, stationName) =>
    match g.placeWithin? systemName stationName with
    | some place => .ok place
    | none => .error (g.unknown trimmed)
  | none => g.placeNamed trimmed

/-! ### Facts -/

variable {g}

theorem system?_of_systemNamed? {name : String} {s : StarSystem}
    (h : g.systemNamed? name = some s) : g.system? s.id = some s :=
  Register.mem_toList.1 (List.mem_reverse.1 (List.mem_of_find?_eq_some h))

/-- A system that is the place of a name is on record. -/
theorem system?_of_place {name : String} {id : SystemId} (h : g.place name = .ok (.system id)) :
    ∃ s, g.system? id = some s := by
  simp only [place] at h
  split at h
  · split at h
    · next found hfound =>
      rw [Except.ok.inj h, placeWithin?] at hfound
      obtain ⟨s, hs, hfound⟩ := Option.bind_eq_some_iff.1 hfound
      dsimp only at hfound
      split at hfound
      · obtain rfl := Place.system.inj (Option.some.inj hfound)
        exact ⟨s, system?_of_systemNamed? hs⟩
      · obtain ⟨_, -, hstation⟩ := Option.map_eq_some_iff.1 hfound
        cases hstation
    · cases h
  · rw [placeNamed] at h
    split at h
    · next s hs =>
      obtain rfl := Place.system.inj (Except.ok.inj h)
      exact ⟨s, system?_of_systemNamed? hs⟩
    · split at h <;> cases h

end Galaxy

end TradeRun
