import TradeRun.Proofs.Search.Flight

/-!
The legs of a flown route, one by one.

* `Route.getElem?_legs_extend`: the legs of a route with one more leg;
* `Charter.Flown.departure`: **every leg of a flown route is a candidate** of the route before it,
  which was flown too. What is to hold of every leg is read off that candidate;
* `Charter.Flown.origin_mem`, `Charter.Flown.last_safe`: a flown route starts at an origin and ends
  at no station to be avoided;
* `Charter.Flown.landed`: every leg leads from a station of the route, which need not be avoided, to
  a landing of it, which is the next station.
-/

namespace TradeRun

/-! ### Legs and stations -/

namespace Route

variable {r : Route} {leg : Leg} {s : Figure} {k : Nat}

/-- A hop of the longer route is one of the shorter route or the last one. -/
lemma getElem?_legs_extend {leg' : Leg} :
    (r.extend leg s).legs[k]? = some leg' ↔
      r.legs[k]? = some leg' ∨ k = r.hopCount ∧ leg' = leg := by
  rw [legs_extend, ← length_legs]
  generalize r.legs = legs
  rcases lt_trichotomy k legs.length with h | rfl | h
  · simp [List.getElem?_append_left h, h.ne]
  · simp [eq_comm]
  · have hpast := Nat.sub_ne_zero_of_lt h
    simp [List.getElem?_append_right h.le, List.getElem?_eq_none h.le, h.ne', hpast]

lemma take_legs_extend (h : k ≤ r.hopCount) : (r.extend leg s).legs.take k = r.legs.take k := by
  rw [legs_extend, List.take_append_of_le_length (h.trans_eq r.length_legs.symm)]

lemma exists_leg_of_lt (h : k < r.hopCount) : ∃ leg, r.legs[k]? = some leg :=
  ⟨_, List.getElem?_eq_getElem (h.trans_eq r.length_legs.symm)⟩

lemma getElem?_stations_zero (r : Route) : r.stations[0]? = some r.origin := by
  rw [stations_eq]
  rfl

lemma origin_eq {id : StationId} {rest : List StationId} (h : r.stations = id :: rest) :
    r.origin = id := by
  have horigin := r.getElem?_stations_zero
  rw [h] at horigin
  exact (Option.some.inj horigin).symm

/-- A route ends where its last leg leads. -/
lemma last_eq_destination {legs : List Leg} (h : r.legs = legs ++ [leg]) :
    r.last = leg.destination := by
  rw [← Option.some_inj, last, ← List.getLast?_eq_some_getLast, stations_eq, h, List.map_append,
    ← List.cons_append]
  exact List.getLast?_concat

/-- The last station is the one reached by the last hop. -/
lemma getElem?_stations_hopCount (r : Route) : r.stations[r.hopCount]? = some r.last := by
  rw [last, ← List.getLast?_eq_some_getLast, List.getLast?_eq_getElem?, r.length_stations,
    Nat.add_sub_cancel, hopCount]

/-- A leg leads to the station after the one from which it leaves. -/
lemma getElem?_stations_succ (h : r.legs[k]? = some leg) :
    r.stations[k + 1]? = some leg.destination := by
  rw [stations_eq, List.getElem?_cons_succ, List.getElem?_map, h]
  rfl

/-- A station after another one is where a leg leads. -/
lemma exists_leg {id : StationId} (h : r.stations[k + 1]? = some id) :
    ∃ leg, r.legs[k]? = some leg ∧ leg.destination = id := by
  rw [stations_eq, List.getElem?_cons_succ, List.getElem?_map] at h
  exact Option.map_eq_some_iff.1 h

end Route

namespace Charter

variable {c : Charter} {g : Galaxy} {n k : Nat} {r : Route} {leg : Leg}

/-! ### Departures -/

/-- How a leg of a route was flown: the route before it, and the candidate that was chosen. -/
structure Departure (c : Charter) (g : Galaxy) (r : Route) (k : Nat) (leg : Leg) (before : Route)
    (cand : Candidate) : Prop where
  flown : Flown c g k before
  origin_eq : before.origin = r.origin
  legs_eq : before.legs = r.legs.take k
  next : cand ∈ c.candidatesOf g (c.restriction k) before
  leg_eq : leg = ⟨cand.destination, .ofTrades cand.load.trades, cand.landing.path⟩

/-- **Every leg of a flown route is a candidate of the route before it.** -/
lemma Flown.departure (h : Flown c g n r) (hleg : r.legs[k]? = some leg) :
    ∃ before cand, Departure c g r k leg before cand := by
  induction h generalizing k leg with
  | seed => simp at hleg
  | @hop n r cand flown next ih =>
      obtain ⟨-, -, -, hroute, -⟩ := of_mem_candidatesOf next
      rw [Candidate.extended, hroute] at hleg ⊢
      rcases Route.getElem?_legs_extend.1 hleg with hearlier | ⟨rfl, rfl⟩
      · have hk : k ≤ r.hopCount :=
          (List.getElem?_eq_some_iff.1 hearlier).1.le.trans_eq r.length_legs
        obtain ⟨before, cand', hbefore⟩ := ih hearlier
        exact ⟨before, cand', {
          hbefore with
          origin_eq := hbefore.origin_eq.trans (Route.origin_extend _ _ _).symm
          legs_eq := hbefore.legs_eq.trans (Route.take_legs_extend hk).symm }⟩
      · refine ⟨r, cand, ?_⟩
        rw [flown.hopCount_eq]
        exact {
          flown
          origin_eq := (Route.origin_extend _ _ _).symm
          legs_eq := by
            rw [Route.take_legs_extend flown.hopCount_eq.ge, ← flown.hopCount_eq,
              ← Route.length_legs, List.take_length]
          next
          leg_eq := rfl }

/-- A leg leaves from the end of the route before it. -/
lemma Departure.source_eq {before : Route} {cand : Candidate}
    (h : Departure c g r k leg before cand) : r.stations[k]? = some before.last := by
  have hstations : before.stations = r.stations.take (k + 1) := by
    rw [before.stations_eq, r.stations_eq, h.origin_eq, h.legs_eq, List.take_succ_cons,
      List.map_take]
  rw [← before.getElem?_stations_hopCount, h.flown.hopCount_eq, hstations,
    List.getElem?_take_of_lt (Nat.lt_succ_self k)]

/-! ### Landings -/

/-- What is asked of the station at which a hop may land. -/
lemma lands_of_mem_landings {source : Station} {restriction : Option PlaceSet}
    {landing : Landing} (h : landing ∈ c.landings g source restriction) :
    landing.station.id ≠ source.id ∧ c.filter.isEligible landing.station ∧
      ¬ c.avoid.matches landing.station := by
  obtain ⟨a, -, -, -, hlands, -⟩ := mem_landings.1 h
  simp only [lands, Bool.and_eq_true, bne_iff_ne, Bool.not_eq_true'] at hlands
  obtain ⟨⟨⟨hother, heligible⟩, hsafe⟩, -⟩ := hlands
  exact ⟨hother, heligible, by simp [hsafe]⟩

/-- A flown route starts at an origin. -/
lemma Flown.origin_mem (h : Flown c g n r) : r.origin ∈ c.origins := by
  induction h with
  | seed origin => exact origin
  | hop _ next ih =>
      obtain ⟨-, -, -, hroute, -⟩ := of_mem_candidatesOf next
      rw [Candidate.extended, hroute, Route.origin_extend]
      exact ih

/-- No flown route ends at a station to be avoided. -/
lemma Flown.last_safe (h : Flown c g n r) :
    ∃ s, g.station? r.last = some s ∧ ¬ c.avoid.matches s := by
  cases h with
  | seed origin known safe dock => exact ⟨_, known, safe⟩
  | @hop _ _ cand flown next =>
      obtain ⟨source, -, hlanding, -⟩ := of_mem_candidatesOf next
      exact ⟨cand.landing.station, station?_last_extended next,
        (lands_of_mem_landings hlanding).2.2⟩

/-- A leg of a route from a station to a landing. -/
structure Landed (c : Charter) (g : Galaxy) (r : Route) (k : Nat) (leg : Leg) (source : Station)
    (landing : Landing) : Prop where
  source_eq : r.stations[k]? = some source.id
  source_known : g.station? source.id = some source
  source_safe : ¬ c.avoid.matches source
  target_eq : r.stations[k + 1]? = some landing.station.id
  mem : landing ∈ c.landings g source (c.restriction k)
  path_eq : leg.path = landing.path

/-- **Every leg of a flown route leads from a station of it to a landing**, which is the next
station. -/
lemma Flown.landed (h : Flown c g n r) (hleg : r.legs[k]? = some leg) :
    ∃ source landing, Landed c g r k leg source landing := by
  obtain ⟨before, cand, hbefore⟩ := h.departure hleg
  obtain ⟨source, hsource, hlanding, -⟩ := of_mem_candidatesOf hbefore.next
  obtain ⟨s, hs, hsafe⟩ := hbefore.flown.last_safe
  obtain rfl : s = source := Option.some.inj (hs.symm.trans hsource)
  have hid : s.id = before.last := Galaxy.id_of_station? hs
  refine ⟨s, cand.landing, ?_⟩
  exact {
    source_eq := by rw [hbefore.source_eq, hid]
    source_known := by rw [hid, hs]
    source_safe := hsafe
    target_eq := by rw [Route.getElem?_stations_succ hleg, hbefore.leg_eq]; rfl
    mem := hlanding
    path_eq := by rw [hbefore.leg_eq] }

end Charter

end TradeRun
