import Mathlib.Tactic
import TradeRun.Charter
import TradeRun.Proofs.Steps

/-!
What is known of a charter that was drawn.

* `refuse_eq_ok`, `needed_eq_ok`: when a check passes; `refuse_eq_error`, `needed_eq_error`: when
  it fails;
* `Request.numbers_eq_ok`: the numbers of a request pass just when they are `Request.Numbered`;
* `Charter.draw_eq_ok`: a charter is drawn of a request just when it is `Charter.Drawn`, which
  says where each of its parts comes from and what was checked of it;
* `Charter.Drawn.hops_pos`, `Charter.Drawn.destinations_eq`: what the search relies on, read off
  these parts.
-/

namespace TradeRun

/-! ### Checks -/

section Checks

variable {α : Type}

lemma refuse_eq_ok {fault : OptionFault} {present : Bool} {u : Unit} :
    refuse fault present = .ok u ↔ ¬ present := by
  cases present <;> simp [refuse]

lemma needed_eq_ok {option : RequiredOption} {value : Option α} {a : α} :
    needed option value = .ok a ↔ value = some a := by
  cases value <;> simp [needed]

lemma refuse_eq_error {fault : OptionFault} {present : Bool} {e : PlanError} :
    refuse fault present = .error e ↔ present ∧ .option fault = e := by
  cases present <;> simp [refuse]

lemma needed_eq_error {option : RequiredOption} {value : Option α} {e : PlanError} :
    needed option value = .error e ↔ value = none ∧ .missingOption option = e := by
  cases value <;> simp [needed]

end Checks

/-! ### Numbers -/

namespace Request

/-- What is checked of the numbers of a request, whose hold space and laden range are given, and
what comes of them. -/
structure Numbered (r : Request) (capacity : Int) (range : Float) (n : Numbers) : Prop where
  credits_nonneg : 0 ≤ r.credits
  routes_pos : 1 ≤ r.routes
  hops_pos : 1 ≤ r.hops
  hops_le : r.hops ≤ maxHops
  jumps_nonneg : 0 ≤ r.jumpsPerHop
  capacity_eq : r.checkedCapacity = .ok capacity
  range_eq : r.checkedRange = .ok range
  limit_nonneg : ∀ limit ∈ r.unitLimit, 0 ≤ limit
  limit_le : ∀ limit ∈ r.unitLimit, limit ≤ capacity
  money : r.checkMoney = .ok ()
  ends : r.checkEnds = .ok ()
  beam : r.checkedBeam = .ok n.beam
  eq : n = {
    capacity := capacity.toNat
    unitLimit := (r.unitLimitOr capacity).toNat
    ladenRange := range
    emptyRange := r.emptyRangeOr range
    jumpsPerHop := r.jumpsPerHop.toNat
    hops := r.hops.toNat
    startJumps := r.startJumps.toNat
    endJumps := r.endJumps.toNat
    routes := r.routes.toNat
    beam := n.beam }

variable {r : Request} {n : Numbers}

/-- **The numbers of a request pass** just when every check does. -/
lemma numbers_eq_ok : r.numbers = .ok n ↔ ∃ capacity range, r.Numbered capacity range n := by
  have hany {p : Int → Bool} {limit : Option Int} : ¬ limit.any p ↔ ∀ l ∈ limit, ¬ p l := by
    cases limit <;> simp
  simp only [numbers, bind_eq_ok, refuse_eq_ok, exists_const, hany, decide_eq_true_eq, not_lt,
    Int64.not_lt]
  constructor
  · rintro ⟨hcredits, hroutes, hhops, hmax, hjumps, capacity, hcapacity, range, hrange, hlimit,
      hlimit', ⟨⟩, hmoney, ⟨⟩, hends, beam, hbeam, hn⟩
    obtain rfl := Except.ok.inj hn
    exact ⟨capacity, range, hcredits, hroutes, hhops, hmax, hjumps, hcapacity, hrange, hlimit,
      hlimit', hmoney, hends, hbeam, rfl⟩
  · rintro ⟨capacity, range, h⟩
    refine ⟨h.credits_nonneg, h.routes_pos, h.hops_pos, h.hops_le, h.jumps_nonneg, capacity,
      h.capacity_eq, range, h.range_eq, h.limit_nonneg, h.limit_le, (), h.money, (), h.ends, n.beam,
      h.beam, ?_⟩
    conv_rhs => rw [h.eq]
    rfl

/-- A capacity that passes its checks is the one given, not negative and not too large. -/
lemma of_checkedCapacity_eq_ok {capacity : Int} (h : r.checkedCapacity = .ok capacity) :
    r.capacity = some capacity ∧ 0 ≤ capacity ∧ capacity ≤ maxCapacity := by
  simp only [checkedCapacity, bind_eq_ok, needed_eq_ok, refuse_eq_ok, exists_const] at h
  obtain ⟨given, hgiven, hnonneg, hle, heq⟩ := h
  obtain rfl := Except.ok.inj heq
  exact ⟨hgiven, by simpa using hnonneg, by simpa using hle⟩

/-- A range that passes its checks is the one given. -/
lemma of_checkedRange_eq_ok {range : Float} (h : r.checkedRange = .ok range) :
    r.ladenRange = some range := by
  simp only [checkedRange, bind_eq_ok, needed_eq_ok, refuse_eq_ok, exists_const] at h
  obtain ⟨given, hgiven, -, -, heq⟩ := h
  obtain rfl := Except.ok.inj heq
  exact hgiven

/-- The jumps around the ends of a run that pass their checks are not negative, and a goal stands
with an origin and in place of a destination. -/
lemma of_checkEnds_eq_ok (h : r.checkEnds = .ok ()) :
    (0 ≤ r.startJumps ∧ 0 ≤ r.endJumps) ∧
      (r.goal.isSome → r.origin.isSome ∧ r.destination = none) := by
  simp only [checkEnds, bind_eq_ok, refuse_eq_ok, exists_const, Bool.or_eq_true, Bool.and_eq_true,
    decide_eq_true_eq, not_or, not_lt, not_and, Option.isNone_iff_eq_none] at h
  obtain ⟨hjumps, -, -, hdestination, horigin⟩ := h
  refine ⟨hjumps, fun hgoal => ⟨?_, ?_⟩⟩
  · exact Option.isSome_iff_ne_none.2 (horigin hgoal)
  · exact Option.not_isSome_iff_eq_none.1 (hdestination hgoal)

/-- A limit on the units of an item that passes its checks leaves at most what the hold takes, and
some unit where it takes any. -/
lemma Numbered.unitLimit_bounds {capacity : Int} {range : Float}
    (h : r.Numbered capacity range n) :
    r.unitLimitOr capacity ≤ capacity ∧ (1 ≤ capacity → 1 ≤ r.unitLimitOr capacity) := by
  rw [unitLimitOr]
  split
  · next limit hlimit =>
    split_ifs with hpos
    · exact ⟨h.limit_le limit hlimit, fun _ => hpos⟩
    · exact ⟨le_rfl, id⟩
  · exact ⟨le_rfl, id⟩

/-- Policies that pass their checks keep some route, and compare scores from the second hop on. -/
lemma of_checkedBeam_eq_ok {beam : Beam} (h : r.checkedBeam = .ok beam) :
    beam.maxRoutes ≠ some 0 ∧
      ∀ cut ∈ beam.scoreCut, 2 ≤ cut.fromHop ∧ 0 < cut.percent ∧ ¬ 100 < cut.percent := by
  simp only [checkedBeam, bind_eq_ok, refuse_eq_ok, exists_const, beq_iff_eq] at h
  obtain ⟨hroutes, -, h⟩ := h
  split at h
  · next hprunes =>
    simp only [bind_eq_ok, refuse_eq_ok, exists_const, decide_eq_true_eq, not_lt] at h
    obtain ⟨hscore, hhops, heq⟩ := h
    obtain rfl := Except.ok.inj heq
    simp only [prunesByScore, Bool.and_eq_true, decide_eq_true_eq] at hprunes
    refine ⟨hroutes, fun cut hcut => ?_⟩
    obtain rfl := Option.some.inj hcut
    exact ⟨by dsimp only; omega, hprunes.1, hscore⟩
  · obtain rfl := Except.ok.inj h
    exact ⟨hroutes, fun cut hcut => by cases hcut⟩

/-- The hops are as many as asked for. -/
lemma hops_eq_of_numbers_eq_ok (h : r.numbers = .ok n) : (n.hops : Int) = r.hops := by
  obtain ⟨capacity, range, hn⟩ := numbers_eq_ok.1 h
  rw [hn.eq]
  exact Int.toNat_of_nonneg (Int.one_nonneg.trans hn.hops_pos)

/-- A run has a hop at least. -/
lemma hops_of_numbers_eq_ok (h : r.numbers = .ok n) : 1 ≤ n.hops := by
  obtain ⟨capacity, range, hn⟩ := numbers_eq_ok.1 h
  have hpos := hn.hops_pos
  have hhops := hops_eq_of_numbers_eq_ok h
  omega

end Request

/-! ### Charters -/

namespace Charter

/-- Where the parts of a charter come from and what was checked of them. -/
structure Drawn (g : Galaxy) (r : Request) (n : Numbers) (avoided : Avoided) (c : Charter) :
    Prop where
  numbers_eq : r.numbers = .ok n
  filter_eq : r.stationFilter = .ok c.filter
  avoided_eq : g.avoided r.avoid = .ok avoided
  origin_eq : drawOrigin g r n c.filter avoided.places = .ok (c.origin, c.origins)
  destination_eq :
    drawDestination g r n c.filter avoided.places = .ok (c.destination, c.destinations)
  goal_eq : drawGoal g r = .ok c.goal
  ends : ¬ (n.hops = 1 ∧ sameEnds c.origins c.destinations)
  via_eq : g.viaPlaces r.via c.filter = .ok c.via
  unavoided : checkAvoided g c.via avoided.places = .ok ()
  anchors : checkAnchors g n.hops c.via c.origin c.destination = .ok ()
  stops : checkStops g n.hops c.via c.origin c.destination = .ok ()
  unique : checkUnique g r.unique n.hops c.origins c.destinations c.via c.origin c.destination
    = .ok ()
  eq : c = { c with
    capacity := n.capacity
    unitLimit := n.unitLimit
    credits := r.credits
    insurance := r.insurance
    ladenRange := n.ladenRange
    emptyRange := n.emptyRange
    jumpsPerHop := n.jumpsPerHop
    hops := n.hops
    minGain := r.minGain
    margin := r.margin
    starPenalty := r.starPenalty
    unique := r.unique
    avoid := avoided.places
    avoidItems := avoided.items
    beam := n.beam
    routes := n.routes
    freeHops := freeStops n.hops c.origin c.destination - 1 }

variable {g : Galaxy} {r : Request} {c : Charter}

/-- **A charter is drawn** just when every name is found and every check passes. -/
theorem draw_eq_ok : draw g r = .ok c ↔ ∃ n avoided, Drawn g r n avoided c := by
  simp only [draw, bind_eq_ok, refuse_eq_ok, exists_const, Prod.exists, Bool.and_eq_true,
    decide_eq_true_eq]
  constructor
  · rintro ⟨n, hn, filter, hfilter, avoided, havoided, origin, origins, horigin, destination,
      destinations, hdestination, goal, hgoal, hends, via, hvia, ⟨⟩, hsafe, ⟨⟩, hanchors, ⟨⟩,
      hstops, ⟨⟩, hunique, hc⟩
    obtain rfl := Except.ok.inj hc
    exact ⟨n, avoided, hn, hfilter, havoided, horigin, hdestination, hgoal, hends, hvia, hsafe,
      hanchors, hstops, hunique, rfl⟩
  · rintro ⟨n, avoided, h⟩
    refine ⟨n, h.numbers_eq, c.filter, h.filter_eq, avoided, h.avoided_eq, c.origin, c.origins,
      h.origin_eq, c.destination, c.destinations, h.destination_eq, c.goal, h.goal_eq, h.ends,
      c.via, h.via_eq, (), h.unavoided, (), h.anchors, (), h.stops, (), h.unique, ?_⟩
    conv_rhs => rw [h.eq]
    rfl

namespace Drawn

variable {n : Numbers} {avoided : Avoided}

/-- A run has a hop at least. -/
lemma hops_pos (h : Drawn g r n avoided c) : 1 ≤ c.hops := by
  rw [h.eq]
  exact Request.hops_of_numbers_eq_ok h.numbers_eq

/-- The hold space is the one given. -/
lemma capacity_eq (h : Drawn g r n avoided c) : r.capacity = some (c.capacity : Int) := by
  obtain ⟨capacity, range, hn⟩ := Request.numbers_eq_ok.1 h.numbers_eq
  obtain ⟨hgiven, hnonneg, -⟩ := Request.of_checkedCapacity_eq_ok hn.capacity_eq
  rw [h.eq, hn.eq]
  exact hgiven.trans (congrArg some (Int.toNat_of_nonneg hnonneg).symm)

/-- The most units of an item are the limit given, where it is one. -/
lemma unitLimit_eq (h : Drawn g r n avoided c) {limit : Int} (hlimit : r.unitLimit = some limit)
    (hpos : 0 < limit) : (c.unitLimit : Int) = limit := by
  obtain ⟨capacity, range, hn⟩ := Request.numbers_eq_ok.1 h.numbers_eq
  rw [h.eq, hn.eq]
  simp only [Request.unitLimitOr, hlimit, if_pos hpos, Int.toNat_of_nonneg hpos.le]

/-- The laden range is the one given. -/
lemma ladenRange_eq (h : Drawn g r n avoided c) : r.ladenRange = some c.ladenRange := by
  obtain ⟨capacity, range, hn⟩ := Request.numbers_eq_ok.1 h.numbers_eq
  rw [h.eq, hn.eq]
  exact Request.of_checkedRange_eq_ok hn.range_eq

/-- The hops are as many as asked for. -/
lemma hops_eq (h : Drawn g r n avoided c) : (c.hops : Int) = r.hops := by
  rw [h.eq]
  exact Request.hops_eq_of_numbers_eq_ok h.numbers_eq

/-- The jumps of a hop are as many as asked for. -/
lemma jumpsPerHop_eq (h : Drawn g r n avoided c) : (c.jumpsPerHop : Int) = r.jumpsPerHop := by
  obtain ⟨capacity, range, hn⟩ := Request.numbers_eq_ok.1 h.numbers_eq
  rw [h.eq, hn.eq]
  exact Int.toNat_of_nonneg hn.jumps_nonneg

/-- The jumps around the origin are as many as asked for. -/
lemma startJumps_eq (h : Drawn g r n avoided c) : (n.startJumps : Int) = r.startJumps := by
  obtain ⟨capacity, range, hn⟩ := Request.numbers_eq_ok.1 h.numbers_eq
  rw [hn.eq]
  exact Int.toNat_of_nonneg (Request.of_checkEnds_eq_ok hn.ends).1.1

/-- A route is shown at least. -/
lemma routes_pos (h : Drawn g r n avoided c) : 1 ≤ c.routes := by
  obtain ⟨capacity, range, hn⟩ := Request.numbers_eq_ok.1 h.numbers_eq
  have hpos := hn.routes_pos
  rw [h.eq, hn.eq]
  dsimp only
  omega

/-- Neither the credits nor the insurance are negative. -/
lemma money_nonneg (h : Drawn g r n avoided c) : 0 ≤ r.credits ∧ 0 ≤ r.insurance := by
  obtain ⟨capacity, range, hn⟩ := Request.numbers_eq_ok.1 h.numbers_eq
  have hmoney := hn.money
  simp only [Request.checkMoney, bind_eq_ok, refuse_eq_ok, exists_const, decide_eq_true_eq,
    Int64.not_lt] at hmoney
  exact ⟨hn.credits_nonneg, hmoney.1⟩

/-- The first purchase is made with the credits that are not insurance. -/
lemma startCredits_eq (h : Drawn g r n avoided c) : c.startCredits = r.credits - r.insurance := by
  rw [h.eq]
  rfl

/-- The places to keep away from are those of the list that was read. -/
lemma avoid_eq (h : Drawn g r n avoided c) : c.avoid = avoided.places := by
  rw [h.eq]

/-- A place for the origin is found just when one is named. -/
lemma isSome_origin (h : Drawn g r n avoided c) : c.origin.isSome = r.origin.isSome := by
  have horigin := h.origin_eq
  rw [drawOrigin] at horigin
  split at horigin
  · obtain ⟨⟨place, stations⟩, -, hends⟩ := bind_eq_ok.1 horigin
    simp [← (Prod.mk.inj (Except.ok.inj hends)).1, *]
  · simp [← (Prod.mk.inj (Except.ok.inj horigin)).1, *]

/-- The run must end at given stations just when a destination is named. -/
lemma isSome_destinations (h : Drawn g r n avoided c) :
    c.destinations.isSome = r.destination.isSome := by
  have hdestination := h.destination_eq
  rw [drawDestination] at hdestination
  split at hdestination
  · obtain ⟨⟨place, stations⟩, -, hends⟩ := bind_eq_ok.1 hdestination
    simp [← (Prod.mk.inj (Except.ok.inj hends)).2, *]
  · simp [← (Prod.mk.inj (Except.ok.inj hdestination)).2, *]

lemma freeHops_eq (h : Drawn g r n avoided c) :
    c.freeHops = freeStops c.hops c.origin c.destination - 1 := by
  rw [h.eq]

/-- The run must end at given stations just when a destination is named, and these are stations
only. -/
lemma destinations_eq (h : Drawn g r n avoided c) :
    c.destination = none ∧ c.destinations = none ∨
      ∃ place stations, c.destination = some place ∧
        c.destinations = some (PlaceSet.ofList (List.map .station stations)) := by
  have hdestination := h.destination_eq
  rw [drawDestination] at hdestination
  split at hdestination
  · obtain ⟨⟨place, stations⟩, -, hends⟩ := bind_eq_ok.1 hdestination
    obtain ⟨hplace, hstations⟩ := Prod.mk.inj (Except.ok.inj hends)
    exact .inr ⟨place, stations, hplace.symm, hstations.symm⟩
  · obtain ⟨hplace, hstations⟩ := Prod.mk.inj (Except.ok.inj hdestination)
    exact .inl ⟨hplace.symm, hstations.symm⟩

end Drawn

end Charter

end TradeRun
