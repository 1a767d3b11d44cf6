import TradeRun.Proofs.Charter.Drawing
import TradeRun.Proofs.Search.Goal

/-!
What is advised where there are more systems to call in than free stops.

No other check speaks of the number of hops to try, and none of what the names of a request stand
for depends on it. So the advice comes from the count of the stops alone, and the count for another
number of hops is of the same systems and the same ends.

* `AsksForNoHops`: a step of drawing a charter that never advises a number of hops;
* `Charter.Parts`, `Charter.Parts.Found`: what the names of a request stand for, which other hops do
  not change (`Charter.Parts.Found.withHops`);
* `Charter.Parts.check`, `Charter.Parts.Found.draw_eq_error`: what is checked of them;
* `Charter.checkStops_eq`: the stops are enough just when the hops are as many as are advised;
* `Charter.draw_tooLong_least`: **the hops that are advised are the least that are enough**;
* `draw_tooLong_least_shortTrip`: three hops where one was asked for.
-/

namespace TradeRun

/-! ### Errors -/

section Errors

variable {ε α β : Type}

/-- Whether a computation fails with a given error can be told from its result. -/
instance decidableEqError [DecidableEq ε] (x : Except ε α) (e : ε) : Decidable (x = .error e) :=
  match x with
  | .error e' => decidable_of_iff (e' = e) (by simp)
  | .ok _ => .isFalse (by simp)

/-- A step that never advises a number of hops. -/
def AsksForNoHops (x : Except PlanError α) : Prop := ∀ hops, x ≠ .error (.viaTooLong hops)

namespace AsksForNoHops

variable {x : Except PlanError α} {f : α → Except PlanError β}

lemma ok (a : α) : AsksForNoHops (.ok a : Except PlanError α) := fun _ h => by cases h

lemma bind (hx : AsksForNoHops x) (hf : ∀ a, AsksForNoHops (f a)) : AsksForNoHops (x >>= f) := by
  intro hops h
  rcases bind_eq_error.1 h with h | ⟨a, -, h⟩
  · exact hx hops h
  · exact hf a hops h

lemma map (hx : AsksForNoHops x) (f : α → β) : AsksForNoHops (x.map f) := by
  intro hops h
  cases x with
  | ok a => cases h
  | error e => exact hx hops (congrArg Except.error (Except.error.inj h))

/-- Advice on the number of hops comes from what follows a step that gives none. -/
lemma of_bind (hx : AsksForNoHops x) {hops : Nat} (h : x >>= f = .error (.viaTooLong hops)) :
    ∃ a, x = .ok a ∧ f a = .error (.viaTooLong hops) :=
  (bind_eq_error.1 h).resolve_left (hx hops)

lemma of_refuse (fault : OptionFault) (present : Bool) : AsksForNoHops (refuse fault present) := by
  intro hops h
  cases (refuse_eq_error.1 h).2

lemma foldlM {step : β → α → Except PlanError β} (h : ∀ b a, AsksForNoHops (step b a))
    (as : List α) (start : β) : AsksForNoHops (as.foldlM step start) := by
  induction as generalizing start with
  | nil => exact ok start
  | cons a as ih =>
      rw [List.foldlM_cons]
      exact (h start a).bind fun next => ih next

end AsksForNoHops

end Errors

/-! ### Numbers and names -/

namespace Request

variable (r : Request)

lemma asksForNoHops_checkedBeam : AsksForNoHops r.checkedBeam := by
  intro hops h
  simp only [checkedBeam, bind_eq_error, refuse_eq_error, reduceCtorEq, and_false, false_or] at h
  obtain ⟨_, -, _, -, h⟩ := h
  split_ifs at h
  · simp only [bind_eq_error, refuse_eq_error, reduceCtorEq, and_false, false_or] at h
    obtain ⟨_, -, _, -, h⟩ := h
    cases h
  · cases h

/-- What is wrong with the numbers is said of the number in question. -/
lemma asksForNoHops_numbers : AsksForNoHops r.numbers := by
  intro hops h
  simp only [numbers, checkedCapacity, checkedRange, checkMoney, checkEnds, bind_eq_error,
    refuse_eq_error, needed_eq_error, r.asksForNoHops_checkedBeam hops, reduceCtorEq, and_false,
    or_false, pure, Except.pure, exists_false] at h

lemma asksForNoHops_stationFilter : AsksForNoHops r.stationFilter := by
  refine .bind ?_ fun _ => .ok _
  intro hops h
  cases hpads : r.padSizes with
  | none => rw [hpads] at h; cases h
  | some codes =>
      rw [hpads, Option.mapM_some] at h
      cases hparse : PadSizes.parse codes with
      | ok sizes => rw [hparse] at h; cases h
      | error fault => rw [hparse] at h; cases h

end Request

namespace Galaxy

variable (g : Galaxy)

/-- What is wrong with a name is said of the name. -/
lemma asksForNoHops_place (name : String) : AsksForNoHops (g.place name) := by
  intro hops h
  simp only [place] at h
  split at h
  · split at h <;> cases h
  · rw [placeNamed] at h
    split at h
    · cases h
    · split at h <;> cases h

lemma asksForNoHops_require (filter : StationFilter) (s : Station) (anchor : Anchor) :
    AsksForNoHops (filter.require g s anchor) := by
  intro hops h
  rw [StationFilter.require] at h
  split at h
  · cases h
  · split_ifs at h
    split at h <;> cases h

lemma asksForNoHops_avoided (names : List String) : AsksForNoHops (g.avoided names) := by
  refine .foldlM (fun a name => ?_) names _
  split
  · exact .ok _
  · exact (g.asksForNoHops_place name).map _

lemma asksForNoHops_requireEnd (filter : StationFilter) (anchor : Anchor) (place : Place) :
    AsksForNoHops (g.requireEnd filter anchor place) := by
  unfold requireEnd
  split
  · split
    · exact g.asksForNoHops_require filter _ anchor
    · exact .ok _
  · intro hops h
    split_ifs at h
    cases h

lemma asksForNoHops_endStations (name : String) (jumps : Nat) (range : Float)
    (filter : StationFilter) (avoid : PlaceSet) (anchor : Anchor) :
    AsksForNoHops (g.endStations name jumps range filter avoid anchor) := by
  refine (g.asksForNoHops_place name).bind fun place =>
    (g.asksForNoHops_requireEnd filter anchor place).bind fun _ => ?_
  intro hops h
  dsimp only at h
  split_ifs at h
  all_goals cases h

lemma asksForNoHops_viaPlaces (names : List String) (filter : StationFilter) :
    AsksForNoHops (g.viaPlaces names filter) := by
  refine .foldlM (fun set name => ?_) names _
  refine (g.asksForNoHops_place name).bind fun place => .bind ?_ fun _ => .ok _
  unfold requireVia
  split
  · split
    · exact g.asksForNoHops_require filter _ .via
    · exact .ok _
  · intro hops h
    split_ifs at h
    cases h

end Galaxy

namespace Charter

variable (g : Galaxy) (r : Request) (n : Numbers) (filter : StationFilter) (avoid : PlaceSet)

lemma asksForNoHops_drawOrigin : AsksForNoHops (drawOrigin g r n filter avoid) := by
  unfold drawOrigin
  split
  · exact (g.asksForNoHops_endStations _ _ _ _ _ _).bind fun _ => .ok _
  · exact .ok _

lemma asksForNoHops_drawDestination : AsksForNoHops (drawDestination g r n filter avoid) := by
  unfold drawDestination
  split
  · exact (g.asksForNoHops_endStations _ _ _ _ _ _).bind fun _ => .ok _
  · exact .ok _

lemma asksForNoHops_drawGoal : AsksForNoHops (drawGoal g r) := by
  unfold drawGoal
  split
  · exact (g.asksForNoHops_place _).map _
  · exact .ok _

/-! ### What the names stand for -/

/-- What the names of a request stand for. -/
structure Parts where
  filter : StationFilter
  avoided : Avoided
  origin : Option Place
  origins : List StationId
  destination : Option Place
  destinations : Option PlaceSet
  goal : Option SystemId
  via : PlaceSet

namespace Parts

/-- The parts are what the names of a request stand for. -/
structure Found (p : Parts) (g : Galaxy) (r : Request) (n : Numbers) : Prop where
  filter_eq : r.stationFilter = .ok p.filter
  avoided_eq : g.avoided r.avoid = .ok p.avoided
  origin_eq : drawOrigin g r n p.filter p.avoided.places = .ok (p.origin, p.origins)
  destination_eq :
    drawDestination g r n p.filter p.avoided.places = .ok (p.destination, p.destinations)
  goal_eq : drawGoal g r = .ok p.goal
  via_eq : g.viaPlaces r.via p.filter = .ok p.via

/-- What is checked of the parts of a charter for a number of hops. -/
def check (p : Parts) (g : Galaxy) (unique : Bool) (hops : Nat) : Except PlanError Unit := do
  refuse .sameEndsInOneHop (hops = 1 && sameEnds p.origins p.destinations)
  checkAvoided g p.via p.avoided.places
  checkAnchors g hops p.via p.origin p.destination
  checkStops g hops p.via p.origin p.destination
  checkUnique g unique hops p.origins p.destinations p.via p.origin p.destination

/-- The least number of hops with stops enough for the systems to call in. -/
def leastHops (p : Parts) (g : Galaxy) : Nat :=
  hopsFor (p.via.systemsIn g).size (pinned p.origin p.destination)

variable {p : Parts} {g : Galaxy} {r : Request} {n : Numbers} {unique : Bool} {hops : Nat}

/-- **What the names stand for does not depend on the number of hops.** -/
lemma Found.withHops (h : p.Found g r n) (hops : Int) (hops' : Nat) :
    p.Found g { r with hops := hops } { n with hops := hops' } :=
  ⟨h.filter_eq, h.avoided_eq, h.origin_eq, h.destination_eq, h.goal_eq, h.via_eq⟩

/-- Once all names are found, drawing a charter fails just when a check of its parts does. -/
lemma Found.draw_eq_error (h : p.Found g r n) (hn : r.numbers = .ok n) {e : PlanError} :
    draw g r = .error e ↔ p.check g r.unique n.hops = .error e := by
  simp only [draw, check, bind_eq_error, hn, h.filter_eq, h.avoided_eq, h.origin_eq,
    h.destination_eq, h.goal_eq, h.via_eq, reduceCtorEq, false_or, Except.ok.injEq, exists_eq_left',
    pure, Except.pure, and_false, exists_false, or_false]

/-- Advice on the number of hops comes from the checks of what the names stand for. -/
lemma exists_found_of_draw {least : Nat} (h : draw g r = .error (.viaTooLong least)) :
    ∃ n p, r.numbers = .ok n ∧ Found p g r n ∧
      p.check g r.unique n.hops = .error (.viaTooLong least) := by
  have hdraw := h
  obtain ⟨n, hn, h⟩ := r.asksForNoHops_numbers.of_bind h
  obtain ⟨filter, hfilter, h⟩ := r.asksForNoHops_stationFilter.of_bind h
  obtain ⟨avoided, havoided, h⟩ := (g.asksForNoHops_avoided r.avoid).of_bind h
  obtain ⟨⟨origin, origins⟩, horigin, h⟩ :=
    (asksForNoHops_drawOrigin g r n filter avoided.places).of_bind h
  obtain ⟨⟨destination, destinations⟩, hdestination, h⟩ :=
    (asksForNoHops_drawDestination g r n filter avoided.places).of_bind h
  obtain ⟨goal, hgoal, h⟩ := (asksForNoHops_drawGoal g r).of_bind h
  obtain ⟨_, -, h⟩ := (AsksForNoHops.of_refuse _ _).of_bind h
  obtain ⟨via, hvia, -⟩ := (g.asksForNoHops_viaPlaces r.via filter).of_bind h
  have hfound :
      Found ⟨filter, avoided, origin, origins, destination, destinations, goal, via⟩ g r n :=
    ⟨hfilter, havoided, horigin, hdestination, hgoal, hvia⟩
  exact ⟨n, _, hn, hfound, (hfound.draw_eq_error hn).1 hdraw⟩

end Parts

/-! ### The count of the stops -/

section Checks

variable (g : Galaxy) (via avoid : PlaceSet) (origin destination : Option Place) (hops : Nat)

lemma asksForNoHops_checkAvoided : AsksForNoHops (checkAvoided g via avoid) := by
  intro least h
  rw [checkAvoided] at h
  split at h
  all_goals cases h

lemma asksForNoHops_checkAnchors :
    AsksForNoHops (checkAnchors g hops via origin destination) := by
  intro least h
  rw [checkAnchors] at h
  split_ifs at h
  split at h
  all_goals cases h

lemma asksForNoHops_checkUnique (unique : Bool) (origins : List StationId)
    (destinations : Option PlaceSet) :
    AsksForNoHops (checkUnique g unique hops origins destinations via origin destination) := by
  intro least h
  rw [checkUnique] at h
  split_ifs at h
  · cases h
  · cases h
  · split at h
    all_goals cases h

variable {hops}

/-- There are fewer free stops than systems just when the hops are fewer than are advised. -/
lemma freeStops_lt_iff (hpos : 1 ≤ hops) (systems : Nat) :
    freeStops hops origin destination < systems ↔
      hops < hopsFor systems (pinned origin destination) := by
  have horigin := Bool.toNat_le origin.isSome
  have hdestination := Bool.toNat_le destination.isSome
  rw [freeStops, hopsFor, pinned]
  omega

end Checks

namespace Parts

variable {p : Parts} {g : Galaxy} {unique : Bool} {hops : Nat}

/-- **The stops are enough just when the hops are as many as are advised.** -/
lemma checkStops_eq (hpos : 1 ≤ hops) :
    checkStops g hops p.via p.origin p.destination
      = if hops < p.leastHops g then .error (.viaTooLong (p.leastHops g)) else .ok () :=
  if_congr (freeStops_lt_iff p.origin p.destination hpos _) rfl rfl

/-- With fewer hops than are advised some check fails. -/
lemma check_ne_ok (hpos : 1 ≤ hops) (hfew : hops < p.leastHops g) :
    p.check g unique hops ≠ .ok () := by
  intro h
  simp only [check, bind_eq_ok, checkStops_eq hpos, if_pos hfew, reduceCtorEq, false_and,
    exists_false, and_false] at h

/-- Where the checks advise a number of hops, the hops are fewer, and it is the least number with
stops enough. -/
lemma of_check_eq_tooLong {least : Nat} (hpos : 1 ≤ hops)
    (h : p.check g unique hops = .error (.viaTooLong least)) :
    hops < p.leastHops g ∧ least = p.leastHops g := by
  obtain ⟨_, -, h⟩ := (AsksForNoHops.of_refuse _ _).of_bind h
  obtain ⟨_, -, h⟩ := (asksForNoHops_checkAvoided g _ _).of_bind h
  obtain ⟨_, -, h⟩ := (asksForNoHops_checkAnchors g _ _ _ _).of_bind h
  rcases bind_eq_error.1 h with h | ⟨_, -, h⟩
  · rw [checkStops_eq hpos] at h
    split_ifs at h with hfew
    exact ⟨hfew, (PlanError.viaTooLong.inj (Except.error.inj h)).symm⟩
  · exact absurd h (asksForNoHops_checkUnique g _ _ _ _ _ _ _ least)

end Parts

/-- The numbers of a request pass with other hops as well, as long as there are neither too few nor
too many of them. -/
lemma numbers_withHops {r : Request} {n : Numbers} (h : r.numbers = .ok n) {hops : Int}
    (hpos : 1 ≤ hops) (hmax : hops ≤ maxHops) :
    ({ r with hops := hops } : Request).numbers = .ok { n with hops := hops.toNat } := by
  obtain ⟨capacity, range, hn⟩ := Request.numbers_eq_ok.1 h
  refine Request.numbers_eq_ok.2 ⟨capacity, range, ?_⟩
  exact { hn with
    hops_pos := hpos
    hops_le := hmax
    eq := by
      conv_lhs => rw [hn.eq]
      rfl }

/-- **The hops that are advised are the least that are enough.** They are more than were asked for.
With as many or more of them, up to the most that are allowed, the charter is not refused for its
hops again; with fewer it is not drawn, and any advice is the same. -/
theorem draw_tooLong_least {g : Galaxy} {r : Request} {least : Nat}
    (h : draw g r = .error (.viaTooLong least)) :
    r.hops < least ∧
      (∀ hops : Int, least ≤ hops → hops ≤ maxHops → ∀ other,
        draw g { r with hops := hops } ≠ .error (.viaTooLong other)) ∧
      ∀ hops : Int, 1 ≤ hops → hops < least → hops ≤ maxHops →
        ∃ e, draw g { r with hops := hops } = .error e ∧
          ∀ other, e = .viaTooLong other → other = least := by
  obtain ⟨n, p, hn, hfound, hcheck⟩ := Parts.exists_found_of_draw h
  have hhops := Request.hops_eq_of_numbers_eq_ok hn
  obtain ⟨hfew, rfl⟩ := Parts.of_check_eq_tooLong (Request.hops_of_numbers_eq_ok hn) hcheck
  -- another number of hops only leads to other checks of the same parts
  have hdraw : ∀ hops : Int, 1 ≤ hops → hops ≤ maxHops → ∀ e,
      draw g { r with hops := hops } = .error e ↔ p.check g r.unique hops.toNat = .error e := by
    intro hops hpos hmax e
    exact (hfound.withHops hops hops.toNat).draw_eq_error (numbers_withHops hn hpos hmax)
  refine ⟨by omega, ?_, ?_⟩
  · intro hops hle hmax other hother
    have hpos : 1 ≤ hops := by omega
    have hfew' := Parts.of_check_eq_tooLong (by omega) ((hdraw hops hpos hmax _).1 hother)
    omega
  · intro hops hpos hlt hmax
    cases hchecks : p.check g r.unique hops.toNat with
    | ok u => exact absurd hchecks (Parts.check_ne_ok (by omega) (by omega))
    | error e =>
        refine ⟨e, (hdraw hops hpos hmax e).2 hchecks, ?_⟩
        rintro other rfl
        exact (Parts.of_check_eq_tooLong (by omega) hchecks).2

end Charter

/-! #### A trip that is too short -/

/-- A run of one hop from the depot to the port that must call at the waypoint, in another system,
and at the port. -/
def shortTrip : Request :=
  { Request.basic 10 1000 5.0 with
    origin := some "Depot", destination := some "Port", via := ["Waypoint", "Port"], hops := 1,
    jumpsPerHop := 1 }

/-- Both ends are given, so that calls in two systems take three hops. Two hops do not do either:
the one stop between them would have to be the end as well. -/
theorem draw_tooLong_least_shortTrip :
    Charter.draw oreGalaxy shortTrip = .error (.viaTooLong 3) ∧ shortTrip.hops < 3 ∧
      (∀ other, Charter.draw oreGalaxy { shortTrip with hops := 3 } ≠ .error (.viaTooLong other)) ∧
      ∃ e, Charter.draw oreGalaxy { shortTrip with hops := 2 } = .error e ∧
        e = .anchorInVia "Goal/Port" .destination := by
  have hrefused : Charter.draw oreGalaxy shortTrip = .error (.viaTooLong 3) := by decide +kernel
  have htwo : Charter.draw oreGalaxy { shortTrip with hops := 2 }
      = .error (.anchorInVia "Goal/Port" .destination) := by decide +kernel
  obtain ⟨hmore, henough, hfewer⟩ := Charter.draw_tooLong_least hrefused
  obtain ⟨e, he, -⟩ := hfewer 2 (by decide) (by decide) (by decide)
  exact ⟨hrefused, hmore, henough 3 le_rfl (by decide), e, he,
    Except.error.inj (he.symm.trans htwo)⟩

end TradeRun
