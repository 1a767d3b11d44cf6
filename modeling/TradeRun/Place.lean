import Std.Data.ExtTreeSet
import TradeRun.Galaxy.Basic

/-!
Places and sets of places.

* `Place`: a whole system or a single station;
* `PlaceSet`: a finite set of places, listed systems first and by ascending numbers;
* `PlaceSet.matches`: a station matches a set when the set holds the station or its system;
* `PlaceSet.firstConflict?`: the first place of one set that another one rules out;
* `PlaceSet.contains_ofList`, `PlaceSet.matches_iff`: what a set holds and covers, read off its
  entries.

A system in a set covers its stations; a station does not cover its system.
-/

namespace TradeRun

/-- A whole system or a single station. -/
inductive Place
  | system (id : SystemId)
  | station (id : StationId)
deriving DecidableEq, Repr

namespace Place

/-- The system that a place is or belongs to (`Place.system_id`). -/
def systemIn? (g : Galaxy) : Place → Option SystemId
  | system id => some id
  | station id => (g.station? id).map Station.system

/-- The name of a place (`Place.name`). -/
def nameIn (g : Galaxy) : Place → String
  | system id => g.systemName id
  | station id => g.stationName id

/-- Whether a station is the place or lies in it (`Place.matches_station`). -/
def covers (s : Station) : Place → Bool
  | system id => s.system == id
  | station id => s.id == id

/-- Whether a ship that needs one of the pads can dock at the place (`Place.check_pad_size`). -/
def hasPad (g : Galaxy) (pads : Option PadSizes) (place : Place) : Bool :=
  match pads with
  | none => true
  | some sizes =>
    match place with
    | station id => (g.station? id).any fun s => sizes.accepts s.pad
    | system id => (g.stationsIn id).any fun s => sizes.accepts s.pad

end Place

/-- A finite set of places. -/
structure PlaceSet where
  systems : Std.ExtTreeSet SystemId := ∅
  stations : Std.ExtTreeSet StationId := ∅

namespace PlaceSet

/-- The set without places. -/
def empty : PlaceSet := {}

/-- Whether a place is an entry of the set. -/
def contains (set : PlaceSet) : Place → Bool
  | .system id => set.systems.contains id
  | .station id => set.stations.contains id

/-- The set with one more place. -/
def insert (set : PlaceSet) : Place → PlaceSet
  | .system id => { set with systems := set.systems.insert id }
  | .station id => { set with stations := set.stations.insert id }

/-- The set of a list of places. -/
def ofList (places : List Place) : PlaceSet := places.foldl insert empty

/-- The places of the set, systems first, by ascending numbers. -/
def toList (set : PlaceSet) : List Place :=
  set.systems.toList.map .system ++ set.stations.toList.map .station

/-- How many places the set has. -/
def size (set : PlaceSet) : Nat := set.systems.size + set.stations.size

/-- Whether the set has no places. -/
def isEmpty (set : PlaceSet) : Bool := set.systems.isEmpty && set.stations.isEmpty

/-- Whether the set holds a station or its system (`PlaceSet.matches_station`). -/
def «matches» (set : PlaceSet) (s : Station) : Bool :=
  set.stations.contains s.id || set.systems.contains s.system

/-- Whether the set holds a system itself (`PlaceSet.contains_system`). -/
def hasSystem (set : PlaceSet) (id : SystemId) : Bool := set.systems.contains id

/-- The systems that the places of the set are or belong to (`PlaceSet.systems`). -/
def systemsIn (set : PlaceSet) (g : Galaxy) : Std.ExtTreeSet SystemId :=
  Std.ExtTreeSet.ofList (set.toList.filterMap (·.systemIn? g))

/-- The first place of the set that is in another set, or is a station that the other set covers
(`PlaceSet.first_conflict`). -/
def firstConflict? (set other : PlaceSet) (g : Galaxy) : Option Place :=
  set.toList.find? fun place =>
    match place with
    | .system _ => other.contains place
    | .station id => (g.station? id).any other.matches

/-! ### Facts -/

variable {set : PlaceSet}

@[simp]
theorem mem_toList {place : Place} : place ∈ set.toList ↔ set.contains place := by
  cases place <;> simp [toList, contains]

@[simp]
theorem length_toList (set : PlaceSet) : set.toList.length = set.size := by
  simp [toList, size]

theorem isEmpty_iff_size : set.isEmpty ↔ set.size = 0 := by
  simp only [isEmpty, size, Std.ExtTreeSet.isEmpty_eq_size_beq_zero, Bool.and_eq_true, beq_iff_eq]
  omega

/-- No place is listed twice. -/
theorem nodup_toList (set : PlaceSet) : set.toList.Nodup := by
  have distinct (ids : Std.ExtTreeSet Int) : ids.toList.Nodup :=
    ids.distinct_toList.imp fun h he => h (Std.LawfulEqOrd.compare_eq_iff_eq.2 he)
  rw [toList, List.nodup_append]
  refine ⟨?_, ?_, ?_⟩
  · exact List.Pairwise.map _ (fun _ _ h he => h (Place.system.inj he)) (distinct _)
  · exact List.Pairwise.map _ (fun _ _ h he => h (Place.station.inj he)) (distinct _)
  · intro a ha b hb he
    obtain ⟨_, _, rfl⟩ := List.mem_map.1 ha
    obtain ⟨_, _, rfl⟩ := List.mem_map.1 hb
    cases he

/-- A station matches a set when a place of the set covers it. -/
theorem matches_iff {s : Station} :
    set.matches s ↔ ∃ place, set.contains place ∧ place.covers s := by
  rw [«matches», Bool.or_eq_true]
  constructor
  · rintro (h | h)
    · exact ⟨.station s.id, h, by simp [Place.covers]⟩
    · exact ⟨.system s.system, h, by simp [Place.covers]⟩
  · rintro ⟨place | place, h, hc⟩ <;> simp only [Place.covers, beq_iff_eq] at hc <;> subst hc
    · exact .inr h
    · exact .inl h

theorem contains_insert {place other : Place} :
    (set.insert place).contains other ↔ place = other ∨ set.contains other := by
  cases place <;> cases other <;> simp [insert, contains, Std.ExtTreeSet.contains_insert]

/-- The set of a list holds the places of the list. -/
theorem contains_ofList {places : List Place} {place : Place} :
    (ofList places).contains place ↔ place ∈ places := by
  have grown (start : PlaceSet) : (places.foldl insert start).contains place
      ↔ place ∈ places ∨ start.contains place := by
    induction places generalizing start with
    | nil => simp
    | cons first rest ih =>
      rw [List.foldl_cons, ih, contains_insert, List.mem_cons, eq_comm (a := place)]
      grind
  rw [ofList, grown]
  cases place <;> simp [empty, contains]

end PlaceSet

end TradeRun
