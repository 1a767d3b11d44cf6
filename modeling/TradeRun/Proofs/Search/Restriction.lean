import TradeRun.Proofs.Search.Goal

/-!
Whether the restriction to the places to call at rules out a run that would do.

When there are no fewer places than stops that are free to choose, hops may only end at one of the
places. The reason is a count: every place needs a stop, so that none is left for anything else.

* `Charter.Itinerary`: the stations of a run as the request asks for it, without a thought for
  profit or for the restriction;
* `Charter.Visits`, `Charter.VisitsApart`: it calls at every place, and does so at a stop of its own
  among those that are free to choose;
* `Charter.exists_call_at`: the count. If every place has a stop of its own, every free stop is one;
* `Charter.restriction_keeps_itinerary`: **the restriction loses nothing** of what calls apart,
  which is all that does not end at a place to call at or stop where two of them are;
* `restriction_keeps_passage`: a run that is kept;
* `restriction_loses_end`, `restriction_loses_shared_stop`: a run that is lost as it ends at a place
  to call at, and one that is lost as a stop is listed twice.
-/

namespace TradeRun

namespace Charter

variable {c : Charter} {g : Galaxy} {r : Request} {stop : Nat → Station}

/-! ### Itineraries -/

/-- The stations of a run with all hops: it starts at an origin, every hop ends where a hop that is
free to choose could, and the last one where the run must end. -/
structure Itinerary (c : Charter) (g : Galaxy) (stop : Nat → Station) : Prop where
  known : g.station? (stop 0).id = some (stop 0)
  start : (stop 0).id ∈ c.origins
  hop : ∀ k < c.hops, ∃ landing ∈ c.landings g (stop k) none, landing.station = stop (k + 1)
  finish : ∀ set, c.destinations = some set → set.contains (.station (stop c.hops).id)

/-- Every place to call at covers a stop that counts. -/
def Visits (c : Charter) (stop : Nat → Station) : Prop :=
  ∀ place, c.via.contains place → ∃ k, c.viaStart ≤ k ∧ k ≤ c.hops ∧ place.covers (stop k)

/-- The first stop that is no longer free to choose: the last one if the run must end somewhere,
else the one after it. -/
def openEnd (c : Charter) : Nat := c.hops + 1 - c.destinations.isSome.toNat

/-- Every place to call at covers a free stop of its own. -/
def VisitsApart (c : Charter) (stop : Nat → Station) : Prop :=
  ∃ call : Place → Nat,
    (∀ place, c.via.contains place →
      c.viaStart ≤ call place ∧ call place < c.openEnd ∧ place.covers (stop (call place))) ∧
    ∀ p q, c.via.contains p → c.via.contains q → call p = call q → p = q

/-- A stop is listed twice among the places to call at: as a station and by its system. -/
def SharedStop (c : Charter) (s : Station) : Prop :=
  c.via.contains (.station s.id) ∧ c.via.contains (.system s.system)

/-- Places that cover the same stop are one, unless it is listed twice. -/
lemma place_unique {s : Station} {p q : Place} (h : ¬ c.SharedStop s) (hp : c.via.contains p)
    (hq : c.via.contains q) (hps : p.covers s) (hqs : q.covers s) : p = q := by
  cases p with
  | system p =>
      obtain rfl : s.system = p := beq_iff_eq.1 hps
      cases q with
      | system q => rw [show s.system = q from beq_iff_eq.1 hqs]
      | station q =>
          obtain rfl : s.id = q := beq_iff_eq.1 hqs
          exact absurd ⟨hq, hp⟩ h
  | station p =>
      obtain rfl : s.id = p := beq_iff_eq.1 hps
      cases q with
      | system q =>
          obtain rfl : s.system = q := beq_iff_eq.1 hqs
          exact absurd ⟨hp, hq⟩ h
      | station q => rw [show s.id = q from beq_iff_eq.1 hqs]

/-- A run that calls at every place does so apart, unless it must end at one of them or a stop is
listed twice. -/
lemma Visits.apart (h : c.Visits stop)
    (hend : c.destinations.isSome → ¬ c.via.matches (stop c.hops))
    (hshared : ∀ k, c.viaStart ≤ k → k ≤ c.hops → ¬ c.SharedStop (stop k)) :
    c.VisitsApart stop := by
  choose! call hstart hle hcovers using h
  refine ⟨call, fun place hplace => ⟨hstart place hplace, ?_, hcovers place hplace⟩, ?_⟩
  · have hcall := hle place hplace
    rw [openEnd]
    cases hset : c.destinations with
    | none =>
        simp only [Option.isSome_none, Bool.toNat_false]
        omega
    | some set =>
        have hlast : call place ≠ c.hops := by
          intro heq
          refine hend (by rw [hset]; rfl) (PlaceSet.matches_iff.2 ⟨place, hplace, ?_⟩)
          rw [← heq]
          exact hcovers place hplace
        simp only [Option.isSome_some, Bool.toNat_true]
        omega
  · intro p q hp hq heq
    have hcovers' := hcovers q hq
    rw [← heq] at hcovers'
    exact place_unique (hshared _ (hstart p hp) (hle p hp)) hp hq (hcovers p hp) hcovers'

/-! ### The count -/

lemma viaRestricts_iff : c.viaRestricts ↔ 0 < c.via.size ∧ c.freeHops < c.via.size := by
  have hempty := c.via.isEmpty_iff_size
  rw [viaRestricts, Bool.and_eq_true, Bool.not_eq_true', Bool.eq_false_iff, Ne, hempty,
    decide_eq_true_eq, Nat.pos_iff_ne_zero]

/-- There is one free stop more than there are free hops. -/
lemma Drawn.openEnd_sub_viaStart_le {n : Numbers} {avoided : Avoided} (h : Drawn g r n avoided c) :
    c.openEnd - c.viaStart ≤ c.freeHops + 1 := by
  have hdestination : c.destinations.isSome = c.destination.isSome := by
    rcases h.destinations_eq with ⟨hplace, hset⟩ | ⟨place, stations, hplace, hset⟩ <;>
      rw [hplace, hset] <;> rfl
  rw [h.freeHops_eq, openEnd, viaStart, freeStops, pinned, hdestination]
  omega

/-- **The count.** Where calls are restricted to the places, and every place has a free stop of its
own, every free stop is that of a place. -/
lemma exists_call_at (hdraw : draw g r = .ok c) (hrestricts : c.viaRestricts) {call : Place → Nat}
    (hcall : ∀ place, c.via.contains place → c.viaStart ≤ call place ∧ call place < c.openEnd)
    (hinj : ∀ p q, c.via.contains p → c.via.contains q → call p = call q → p = q)
    {k : Nat} (hk : c.viaStart ≤ k) (hk' : k < c.openEnd) :
    ∃ place, c.via.contains place ∧ call place = k := by
  classical
  obtain ⟨n, avoided, hdrawn⟩ := draw_eq_ok.1 hdraw
  set places := c.via.toList.toFinset
  have hmem : ∀ place, place ∈ places ↔ c.via.contains place := by simp [places]
  have hmaps : Set.MapsTo call places (Finset.Ico c.viaStart c.openEnd) := by
    intro place hplace
    exact Finset.mem_coe.2 (Finset.mem_Ico.2 (hcall place ((hmem place).1 hplace)))
  have hinjOn : Set.InjOn call places := by
    intro p hp q hq heq
    exact hinj p q ((hmem p).1 hp) ((hmem q).1 hq) heq
  have hcard : (Finset.Ico c.viaStart c.openEnd).card ≤ places.card := by
    have hstops := hdrawn.openEnd_sub_viaStart_le
    have hplaces := (viaRestricts_iff.1 hrestricts).2
    rw [Nat.card_Ico, List.toFinset_card_of_nodup c.via.nodup_toList, PlaceSet.length_toList]
    omega
  obtain ⟨place, hplace, hcalled⟩ := Finset.surjOn_of_injOn_of_card_le call hmaps hinjOn hcard
    (Finset.mem_coe.2 (Finset.mem_Ico.2 ⟨hk, hk'⟩))
  exact ⟨place, (hmem place).1 hplace, hcalled⟩

/-! ### The restriction -/

lemma lt_openEnd {k : Nat} (hk : k < c.hops) (h : c.destinations = none ∨ k + 1 ≠ c.hops) :
    k + 1 < c.openEnd := by
  rw [openEnd]
  rcases h with hnone | hne
  · rw [hnone, Option.isSome_none, Bool.toNat_false]
    omega
  · have hle := Bool.toNat_le c.destinations.isSome
    omega

/-- The hops that end at a free stop are restricted to the places to call at. -/
lemma restriction_eq_via (hrestricts : c.viaRestricts) {k : Nat} (hk : k + 1 < c.openEnd) :
    c.restriction k = some c.via := by
  rw [restriction]
  cases hset : c.destinations with
  | none => exact if_pos hrestricts
  | some set =>
      have hlast : k + 1 ≠ c.hops := by
        rw [openEnd, hset, Option.isSome_some, Bool.toNat_true] at hk
        omega
      exact (if_neg hlast).trans (if_pos hrestricts)

/-- Where every place has a free stop of its own, every restricted hop ends at a place. -/
lemma VisitsApart.matches_stop (h : c.VisitsApart stop) (hdraw : draw g r = .ok c)
    (hrestricts : c.viaRestricts) {k : Nat} (hk : k + 1 < c.openEnd) :
    c.via.matches (stop (k + 1)) := by
  obtain ⟨call, hcall, hinj⟩ := h
  have hstart : c.viaStart ≤ k + 1 := (Bool.toNat_le _).trans (Nat.le_add_left 1 k)
  obtain ⟨place, hplace, hcalled⟩ := exists_call_at hdraw hrestricts
    (fun place hplace => ⟨(hcall place hplace).1, (hcall place hplace).2.1⟩) hinj hstart hk
  refine PlaceSet.matches_iff.2 ⟨place, hplace, ?_⟩
  rw [← hcalled]
  exact (hcall place hplace).2.2

/-- A landing of a hop that is free to choose is one of a hop restricted to some places if the
station meets them. -/
lemma landing_of_matches {source : Station} {landing : Landing} {set : PlaceSet}
    (h : landing ∈ c.landings g source none) (hset : set.matches landing.station) :
    landing ∈ c.landings g source (some set) := by
  obtain ⟨a, ha, happroach, hlisted, hlands, hpath⟩ := mem_landings.1 h
  refine mem_landings.2 ⟨a, ha, happroach, hlisted, ?_, hpath⟩
  rw [lands, Option.all_none, Bool.and_true] at hlands
  rw [lands, hlands, Option.all_some, hset]
  rfl

/-- **What the restriction loses.** An itinerary that the request asks for, with all its calls, ends
every restricted hop at a place to call at, and flies every hop under its restriction, as long as it
calls at each place at a free stop of its own. It does so unless the end that it must have is a
place to call at, or a stop is listed twice. -/
theorem restriction_keeps_itinerary (hdraw : draw g r = .ok c) (hrestricts : c.viaRestricts)
    (h : Itinerary c g stop) (hvisits : c.Visits stop) :
    (c.VisitsApart stop →
      (∀ k < c.hops, (c.destinations = none ∨ k + 1 ≠ c.hops) →
        c.restriction k = some c.via ∧ c.via.matches (stop (k + 1))) ∧
      ∀ k < c.hops, ∃ landing ∈ c.landings g (stop k) (c.restriction k),
        landing.station = stop (k + 1)) ∧
    (¬ c.VisitsApart stop →
      (c.destinations.isSome ∧ c.via.matches (stop c.hops)) ∨
        ∃ k, c.viaStart ≤ k ∧ k ≤ c.hops ∧ c.SharedStop (stop k)) := by
  refine ⟨fun hapart => ?_, fun hnot => ?_⟩
  · have hcalls : ∀ k < c.hops, (c.destinations = none ∨ k + 1 ≠ c.hops) →
        c.restriction k = some c.via ∧ c.via.matches (stop (k + 1)) := by
      intro k hk hrestricted
      have hopen := lt_openEnd hk hrestricted
      exact ⟨restriction_eq_via hrestricts hopen, hapart.matches_stop hdraw hrestricts hopen⟩
    refine ⟨hcalls, fun k hk => ?_⟩
    obtain ⟨landing, hlanding, hstation⟩ := h.hop k hk
    refine ⟨landing, ?_, hstation⟩
    by_cases hrestricted : c.destinations = none ∨ k + 1 ≠ c.hops
    · obtain ⟨hset, hmatches⟩ := hcalls k hk hrestricted
      rw [hset]
      exact landing_of_matches hlanding (hstation ▸ hmatches)
    · -- the last hop, where the run must end somewhere
      rw [not_or, not_not] at hrestricted
      obtain ⟨set, hset⟩ := Option.ne_none_iff_exists'.1 hrestricted.1
      rw [restriction_of_last_hop hset hrestricted.2]
      refine landing_of_matches hlanding ?_
      rw [hstation, hrestricted.2]
      exact PlaceSet.matches_iff.2 ⟨_, h.finish set hset, beq_self_eq_true _⟩
  · by_contra hcon
    rw [not_or, not_and, not_exists] at hcon
    refine hnot (hvisits.apart hcon.1 fun k hk hk' hshared => ?_)
    exact hcon.2 k ⟨hk, hk', hshared⟩

end Charter

/-! ### Runs that are kept and runs that are lost -/

/-- The station at which the passage starts. -/
def quay : Station :=
  { id := 1, name := "Quay", system := 1, market := (∅ : Market).insertMany [(1, { ask := 10 })] }

/-- The station on the way. -/
def mole : Station :=
  { id := 2, name := "Mole", system := 1,
    market := (∅ : Market).insertMany [(1, { bid := 15 }), (2, { ask := 6 })] }

/-- The station at which the passage ends. -/
def dock : Station :=
  { id := 3, name := "Dock", system := 1, market := (∅ : Market).insertMany [(2, { bid := 9 })] }

/-- Three stations of one system, of which the second one buys from the first one and sells to the
third one. -/
def threePorts : Galaxy where
  systems := .ofList [⟨1, "Home", ⟨0.0, 0.0, 0.0⟩, [1, 2, 3]⟩]
  stations := .ofList [quay, mole, dock]
  items := .ofList [⟨1, "Ore"⟩, ⟨2, "Tea"⟩]

/-- A run of two hops from the quay to any station of its system that must call somewhere. -/
def passage (via : String) : Request :=
  { Request.basic 4 45 5.0 with
    origin := some "Quay", destination := some "Home", via := [via], jumpsPerHop := 0 }

/-- The stops of the passage. -/
def passageStop : Nat → Station
  | 0 => quay
  | 1 => mole
  | _ => dock

lemma passage_itinerary {c : Charter} (hhops : c.hops = 2) (horigins : 1 ∈ c.origins)
    (hends : c.destinations.all fun set => set.contains (.station 3))
    (hfirst : (c.landings threePorts quay none).any fun l => l.station.id == 2)
    (hsecond : (c.landings threePorts mole none).any fun l => l.station.id == 3) :
    c.Itinerary threePorts passageStop := by
  refine ⟨rfl, horigins, fun k hk => ?_, fun set hset => ?_⟩
  · rw [hhops] at hk
    interval_cases k
    · exact Charter.exists_landing rfl hfirst
    · exact Charter.exists_landing rfl hsecond
  · rw [hset] at hends
    rw [hhops]
    exact hends

/-- The charter of the passage that must call at the mole. -/
def moleCharter : Charter :=
  (Charter.draw threePorts (passage "Mole")).toOption.get (by decide +kernel)

/-- The passage by way of the mole is kept: both hops are among those that the restriction
allows. -/
theorem restriction_keeps_passage :
    Charter.draw threePorts (passage "Mole") = .ok moleCharter ∧ moleCharter.viaRestricts ∧
      moleCharter.Itinerary threePorts passageStop ∧ moleCharter.Visits passageStop ∧
      moleCharter.via.matches mole ∧
      ∀ k < 2, ∃ landing ∈ moleCharter.landings threePorts (passageStop k)
        (moleCharter.restriction k), landing.station = passageStop (k + 1) := by
  obtain ⟨hhops, hrestricts, hstart, hend, hcovers, hone⟩ : moleCharter.hops = 2 ∧
      moleCharter.viaRestricts ∧ moleCharter.viaStart = 1 ∧ moleCharter.openEnd = 2 ∧
      (∀ place ∈ moleCharter.via.toList, place.covers mole) ∧
      ∀ p ∈ moleCharter.via.toList, ∀ q ∈ moleCharter.via.toList, p = q := by
    decide +kernel
  have hdraw : Charter.draw threePorts (passage "Mole") = .ok moleCharter := eq_ok_get _
  have hitinerary : moleCharter.Itinerary threePorts passageStop :=
    passage_itinerary hhops (by decide +kernel) (by decide +kernel) (by decide +kernel)
      (by decide +kernel)
  have hvisits : moleCharter.Visits passageStop := by
    intro place hplace
    rw [hstart, hhops]
    exact ⟨1, le_rfl, by decide, hcovers place (PlaceSet.mem_toList.2 hplace)⟩
  have hapart : moleCharter.VisitsApart passageStop := by
    refine ⟨fun _ => 1, fun place hplace => ?_, fun p q hp hq _ => ?_⟩
    · rw [hstart, hend]
      exact ⟨le_rfl, Nat.one_lt_two, hcovers place (PlaceSet.mem_toList.2 hplace)⟩
    · exact hone p (PlaceSet.mem_toList.2 hp) q (PlaceSet.mem_toList.2 hq)
  obtain ⟨hcalls, hflown⟩ :=
    (Charter.restriction_keeps_itinerary hdraw hrestricts hitinerary hvisits).1 hapart
  rw [hhops] at hcalls hflown
  have hmole : moleCharter.via.matches mole := (hcalls 0 (by decide) (.inr (by decide))).2
  exact ⟨hdraw, hrestricts, hitinerary, hvisits, hmole, hflown⟩

/-- The charter of the passage that must call at the dock. -/
def dockCharter : Charter :=
  (Charter.draw threePorts (passage "Dock")).toOption.get (by decide +kernel)

/-- The passage to the dock has called there when it ends, but its first hop would have to end there
as well. No run is found, although the one by way of the mole is. -/
theorem restriction_loses_end :
    Charter.draw threePorts (passage "Dock") = .ok dockCharter ∧ dockCharter.viaRestricts ∧
      dockCharter.Itinerary threePorts passageStop ∧ dockCharter.Visits passageStop ∧
      (¬ ∀ k < dockCharter.hops,
        (dockCharter.destinations = none ∨ k + 1 ≠ dockCharter.hops) →
          dockCharter.via.matches (passageStop (k + 1))) ∧
      (plan threePorts (passage "Dock")).result.toOption.isNone ∧
      (plan threePorts (passage "Mole")).result.toOption.isSome := by
  obtain ⟨hhops, hrestricts, hstart, hcovers, hmissed⟩ : dockCharter.hops = 2 ∧
      dockCharter.viaRestricts ∧ dockCharter.viaStart = 1 ∧
      (∀ place ∈ dockCharter.via.toList, place.covers dock) ∧
      dockCharter.via.matches mole = false := by
    decide +kernel
  have hitinerary : dockCharter.Itinerary threePorts passageStop :=
    passage_itinerary hhops (by decide +kernel) (by decide +kernel) (by decide +kernel)
      (by decide +kernel)
  have hvisits : dockCharter.Visits passageStop := by
    intro place hplace
    rw [hstart, hhops]
    exact ⟨2, by decide, le_rfl, hcovers place (PlaceSet.mem_toList.2 hplace)⟩
  refine ⟨eq_ok_get _, hrestricts, hitinerary, hvisits, fun hall => ?_, by decide +kernel,
    by decide +kernel⟩
  rw [hhops] at hall
  have hmole : dockCharter.via.matches mole := hall 0 (by decide) (.inr (by decide))
  rw [hmissed] at hmole
  cases hmole

/-- A run of one hop that must call at the depot, listed twice. -/
def oreTrip : Request :=
  { Request.basic 10 1000 5.0 with via := ["Start", "Depot"], hops := 1, jumpsPerHop := 1 }

/-- The charter of the ore trip. -/
def oreTripCharter : Charter := (Charter.draw oreGalaxy oreTrip).toOption.get (by decide +kernel)

/-- The stops of the ore trip. -/
def oreTripStop : Nat → Station
  | 0 => oreDepot
  | _ => oreWaypoint

lemma oreTripCharter_eq : oreTripCharter.hops = 1 ∧ oreTripCharter.jumpsPerHop = 1 ∧
    oreTripCharter.viaRestricts ∧ oreTripCharter.viaStart = 0 ∧ 3 ∈ oreTripCharter.origins ∧
    oreTripCharter.destinations.isNone ∧
    (∀ place ∈ oreTripCharter.via.toList, place.covers oreDepot) ∧
    oreTripCharter.via.matches oreWaypoint = false := by
  decide +kernel

lemma oreTrip_itinerary : oreTripCharter.Itinerary oreGalaxy oreTripStop := by
  obtain ⟨hhops, hjumps, -, -, horigins, hopen, -⟩ := oreTripCharter_eq
  have hsystem : oreDepot.system = 3 := rfl
  have hspace : oreTripCharter.space oreGalaxy = oreSpace := rfl
  refine ⟨rfl, horigins, fun k hk => ?_, fun set hset => ?_⟩
  · rw [hhops] at hk
    obtain rfl : k = 0 := by omega
    refine Charter.exists_landing rfl ?_
    rw [oreTripStop, Charter.landings, hspace, hjumps, hsystem, oreSpace_explore]
    decide +kernel
  · rw [Option.isNone_iff_eq_none.1 hopen] at hset
    cases hset

/-- The trip calls at both places at its first stop, but its hop would have to end at one of them as
well. -/
theorem restriction_loses_shared_stop :
    Charter.draw oreGalaxy oreTrip = .ok oreTripCharter ∧ oreTripCharter.viaRestricts ∧
      oreTripCharter.Itinerary oreGalaxy oreTripStop ∧ oreTripCharter.Visits oreTripStop ∧
      ¬ ∀ k < oreTripCharter.hops,
        (oreTripCharter.destinations = none ∨ k + 1 ≠ oreTripCharter.hops) →
          oreTripCharter.via.matches (oreTripStop (k + 1)) := by
  obtain ⟨hhops, -, hrestricts, hstart, -, hopen, hcovers, hmissed⟩ := oreTripCharter_eq
  have hvisits : oreTripCharter.Visits oreTripStop := by
    intro place hplace
    rw [hstart]
    exact ⟨0, le_rfl, Nat.zero_le _, hcovers place (PlaceSet.mem_toList.2 hplace)⟩
  refine ⟨eq_ok_get _, hrestricts, oreTrip_itinerary, hvisits, fun hall => ?_⟩
  rw [hhops] at hall
  have hwaypoint : oreTripCharter.via.matches oreWaypoint :=
    hall 0 (by decide) (.inl (Option.isNone_iff_eq_none.1 hopen))
  rw [hmissed] at hwaypoint
  cases hwaypoint

end TradeRun
