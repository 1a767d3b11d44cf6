import TradeRun.Proofs.Charter.Avoidance
import TradeRun.Proofs.Space.Surroundings

/-!
The stations that a request admits.

* `Request.DocksAt`, `Request.Admits`: what a request asks of the station at which the ship lies,
  and of every stop;
* `StationFilter.rejection?_eq_none`: a station fails no requirement just when it meets each of
  them;
* `StationFilter.of_require_origin`, `StationFilter.of_require_destination`: a station named for the
  origin that passes has prices and a pad, one named for the destination can be a stop;
* `Charter.Drawn.docksAt_iff`, `Charter.Drawn.isEligible_iff`: **the filter of a charter admits what
  the request admits**;
* `Charter.Drawn.of_mem_origins`: **a run starts at a station that the request admits**, or at the
  very station that it names, whichever of the three ways led there.
-/

namespace TradeRun

/-! ### What is asked -/

namespace Request

/-- The ship can lie at a station: it has prices, and its pad is one of those asked for. -/
structure DocksAt (r : Request) (s : Station) : Prop where
  priced : s.itemCount ≠ 0
  pad : ∀ codes ∈ r.padSizes, ∃ sizes, PadSizes.parse codes = .ok sizes ∧ sizes.accepts s.pad

/-- A station can be a stop: the ship can lie there, there is a black market if one is asked for,
and neither its distance from the star nor the age of its freshest price is beyond the limit. An
unknown distance is beyond every limit, an unknown age beyond none, and a greatest distance of zero
is no limit. -/
structure Admits (r : Request) (s : Station) : Prop extends r.DocksAt s where
  blackMarket : r.blackMarket → s.blackMarket = some true
  starDistance : ∀ limit ∈ r.maxStarDistance, 0 < limit →
    ¬ s.starDistance ≤ 0 ∧ ¬ limit < s.starDistance
  age : ∀ limit ∈ r.maxAge, ∀ age ∈ s.dataAge, ¬ limit < age

/-- The request names a station for the origin. -/
def NamesOrigin (r : Request) (g : Galaxy) (id : StationId) : Prop :=
  ∃ name, r.origin = some name ∧ g.place name = .ok (.station id)

end Request

/-! ### Filters -/

namespace StationFilter

variable {f : StationFilter} {s : Station}

lemma padRejection?_eq_none :
    f.padRejection? s = none ↔ ∀ sizes ∈ f.padSizes, sizes.accepts s.pad := by
  rw [padRejection?]
  cases f.padSizes <;> simp

lemma marketRejection?_eq_none :
    f.marketRejection? s = none ↔ (f.blackMarket → s.blackMarket = some true) := by
  rw [marketRejection?]
  cases f.blackMarket <;> simp

lemma distanceRejection?_eq_none :
    f.distanceRejection? s = none ↔
      ∀ limit ∈ f.maxStarDistance, ¬ s.starDistance ≤ 0 ∧ ¬ limit < s.starDistance := by
  rw [distanceRejection?]
  cases f.maxStarDistance <;> simp

lemma ageRejection?_eq_none :
    f.ageRejection? s = none ↔ ∀ limit ∈ f.maxAge, ∀ age ∈ s.dataAge, ¬ limit < age := by
  rw [ageRejection?]
  cases f.maxAge <;> simp

/-- **A station fails no requirement** just when it meets each of them. -/
lemma rejection?_eq_none :
    f.rejection? s = none ↔ s.itemCount ≠ 0 ∧ f.padRejection? s = none ∧
      f.marketRejection? s = none ∧ f.distanceRejection? s = none ∧ f.ageRejection? s = none := by
  rw [rejection?]
  split_ifs with hpriced <;> simp [hpriced, Option.or_eq_none_iff]

/-- A named station passes just when it fails nothing that counts for it. -/
lemma require_eq_ok {g : Galaxy} {anchor : Anchor} :
    f.require g s anchor = .ok () ↔ ∀ reason ∈ f.rejection? s, ¬ countsFor anchor reason := by
  rw [require]
  cases f.rejection? s with
  | none => simp
  | some reason => cases reason <;> cases anchor <;> simp [countsFor]

/-- A station named for the origin that passes has prices and an accepted pad: these are asked
first, and they count there too. -/
lemma of_require_origin {g : Galaxy} (h : f.require g s .origin = .ok ()) :
    s.itemCount ≠ 0 ∧ f.acceptsPad s := by
  rw [require_eq_ok] at h
  have hpriced : s.itemCount ≠ 0 := fun hpriced =>
    h .unpriced (by rw [rejection?, if_pos hpriced]; rfl) rfl
  refine ⟨hpriced, ?_⟩
  rw [acceptsPad, Option.isNone_iff_eq_none, padRejection?_eq_none]
  intro sizes hsizes
  by_contra hpad
  refine h (.pad sizes s.pad) ?_ rfl
  rw [rejection?, if_neg hpriced, padRejection?, Option.mem_def.1 hsizes]
  simp [hpad]

/-- A station named for the destination that passes can be a stop: all requirements count there. -/
lemma of_require_destination {g : Galaxy} (h : f.require g s .destination = .ok ()) :
    f.isEligible s := by
  rw [require_eq_ok] at h
  rw [isEligible, Option.isNone_iff_eq_none, Option.eq_none_iff_forall_ne_some]
  intro reason hreason
  exact h reason hreason (by cases reason <;> rfl)

end StationFilter

/-! ### The filter of a request -/

/-- The pad sizes of a request are read, all others of its wishes go to its filter as they are. -/
lemma Request.of_stationFilter_eq_ok {r : Request} {f : StationFilter}
    (h : r.stationFilter = .ok f) :
    f = {
      padSizes := f.padSizes
      blackMarket := r.blackMarket
      maxStarDistance := r.maxStarDistance.filter (0 < ·)
      maxAge := r.maxAge } ∧
      ∀ s : Station, (∀ sizes ∈ f.padSizes, sizes.accepts s.pad) ↔
        ∀ codes ∈ r.padSizes, ∃ sizes, PadSizes.parse codes = .ok sizes ∧ sizes.accepts s.pad := by
  obtain ⟨padSizes, hsizes, hf⟩ := bind_eq_ok.1 h
  obtain rfl := Except.ok.inj hf
  refine ⟨rfl, fun s => ?_⟩
  cases hcodes : r.padSizes with
  | none =>
      rw [hcodes] at hsizes
      obtain rfl := Except.ok.inj hsizes
      simp
  | some codes =>
      rw [hcodes] at hsizes
      cases hparse : PadSizes.parse codes with
      | error fault => simp [hparse, Except.mapError] at hsizes
      | ok sizes =>
          rw [Option.mapM_some, hparse] at hsizes
          obtain rfl := Except.ok.inj hsizes
          simp [hparse]

/-! ### The origins of a charter -/

/-- The stations at an end of a run are those around the place named for it, which passed, and
there are some. -/
lemma Galaxy.endStations_eq_ok {g : Galaxy} {name : String} {jumps : Nat} {range : Float}
    {filter : StationFilter} {avoid : PlaceSet} {anchor : Anchor} {place : Place}
    {stations : List StationId}
    (h : g.endStations name jumps range filter avoid anchor = .ok (place, stations)) :
    g.place name = .ok place ∧ g.requireEnd filter anchor place = .ok () ∧
      stations = (Space.mk g range avoid).stationsAround filter [place] jumps ∧ stations ≠ [] := by
  rw [endStations] at h
  obtain ⟨found, hplace, h⟩ := bind_eq_ok.1 h
  obtain ⟨⟨⟩, hrequire, h⟩ := bind_eq_ok.1 h
  dsimp only at h
  split at h
  · cases h
  · next hsome =>
    obtain ⟨rfl, rfl⟩ := Prod.mk.inj (Except.ok.inj h)
    exact ⟨hplace, hrequire, rfl, by simpa using hsome⟩

namespace Charter.Drawn

variable {g : Galaxy} {r : Request} {n : Numbers} {avoided : Avoided} {c : Charter}

/-- The ship can lie at a station with prices whose pad the filter of the charter accepts. -/
lemma docksAt_iff (h : Drawn g r n avoided c) (s : Station) :
    r.DocksAt s ↔ s.itemCount ≠ 0 ∧ c.filter.acceptsPad s := by
  rw [StationFilter.acceptsPad, Option.isNone_iff_eq_none, StationFilter.padRejection?_eq_none,
    (Request.of_stationFilter_eq_ok h.filter_eq).2 s]
  exact ⟨fun hdock => ⟨hdock.priced, hdock.pad⟩, fun ⟨hpriced, hpad⟩ => ⟨hpriced, hpad⟩⟩

/-- **The filter of a charter admits what the request admits.** -/
lemma isEligible_iff (h : Drawn g r n avoided c) (s : Station) :
    c.filter.isEligible s ↔ r.Admits s := by
  have hlimit (limit : Float) :
      limit ∈ r.maxStarDistance.filter (0 < ·) ↔ limit ∈ r.maxStarDistance ∧ 0 < limit := by
    simp [Option.mem_def, Option.filter_eq_some_iff]
  rw [StationFilter.isEligible, Option.isNone_iff_eq_none, StationFilter.rejection?_eq_none,
    StationFilter.marketRejection?_eq_none, StationFilter.distanceRejection?_eq_none,
    StationFilter.ageRejection?_eq_none, ← Option.isNone_iff_eq_none, ← StationFilter.acceptsPad,
    ← and_assoc, ← h.docksAt_iff, (Request.of_stationFilter_eq_ok h.filter_eq).1]
  simp only [hlimit, and_imp]
  constructor
  · rintro ⟨hdock, hmarket, hdistance, hage⟩
    exact ⟨hdock, hmarket, hdistance, hage⟩
  · rintro ⟨hdock, hmarket, hdistance, hage⟩
    exact ⟨hdock, hmarket, hdistance, hage⟩

/-- **A run starts at a station that need not be avoided and at which the ship can lie**, and which
can be a stop as well unless it is the one that the request names, with no jump around it. -/
lemma of_mem_origins (h : Drawn g r n avoided c) {id : StationId} (hid : id ∈ c.origins) :
    ∃ s, g.station? id = some s ∧ ¬ c.avoid.matches s ∧ r.DocksAt s ∧
      (r.Admits s ∨ r.startJumps = 0 ∧ r.NamesOrigin g id) := by
  have horigin := h.origin_eq
  rw [drawOrigin, ← h.avoid_eq] at horigin
  split at horigin
  · next name hname =>
    obtain ⟨⟨place, stations⟩, hends, horigin⟩ := bind_eq_ok.1 horigin
    obtain ⟨-, rfl⟩ := Prod.mk.inj (Except.ok.inj horigin)
    obtain ⟨hplace, hrequire, hstations, -⟩ := Galaxy.endStations_eq_ok hends
    rw [hstations] at hid
    obtain ⟨s, hs, hsafe, heligible | ⟨hjumps, hnamed⟩⟩ := Space.of_mem_stationsAround hid
    · have hadmits := (h.isEligible_iff s).1 heligible
      exact ⟨s, hs, hsafe, hadmits.toDocksAt, .inl hadmits⟩
    · obtain rfl := List.mem_singleton.1 hnamed
      rw [Galaxy.requireEnd, show g.station? id = some s from hs] at hrequire
      refine ⟨s, hs, hsafe, (h.docksAt_iff s).2 (StationFilter.of_require_origin hrequire),
        .inr ⟨?_, name, hname, hplace⟩⟩
      rw [← h.startJumps_eq, hjumps]
      rfl
  · rw [← (Prod.mk.inj (Except.ok.inj horigin)).2] at hid
    obtain ⟨s, hs, rfl⟩ := List.mem_map.1 hid
    rw [List.mem_filter, Bool.and_eq_true, Bool.not_eq_true'] at hs
    obtain ⟨hrecord, heligible, hsafe⟩ := hs
    have hadmits := (h.isEligible_iff s).1 heligible
    exact ⟨s, Register.mem_toList.1 hrecord, by simp [hsafe], hadmits.toDocksAt, .inl hadmits⟩

end Charter.Drawn

end TradeRun
