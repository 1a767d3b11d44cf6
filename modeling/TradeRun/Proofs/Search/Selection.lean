import TradeRun.Proofs.Decimal.Comparison
import TradeRun.Proofs.Search.WideBeam

/-!
The best leg to each station.

Of all legs that lead to a station one is kept: a leg gives way to a better one that comes after it,
and stays if it is as good. So the first of the best legs stays, as long as scores can be compared.

* `Candidate.Foremost`: the first of the best candidates of a list for a station;
* `Charter.foremost_of_getElem?_foldl`: what is kept for a station is the foremost candidate;
* `Charter.Offers`: what makes a leg that a route could fly next. `Charter.mem_candidatesOf_iff`
  says that the candidates of a route are just these legs;
* `Charter.exists_offers_of_foremost`: the foremost candidate is one of the first route that has one
  as good, and of the first landing of that route at its station;
* `Charter.bestHops_foremost`: **for each station that some route could fly to there is one best
  hop**, and it is flown by the first route with the highest score.
-/

namespace TradeRun

/-! ### Foremost candidates -/

/-- The first of the best candidates of a list for a station: those before it score less, and those
after it no more. -/
def Candidate.Foremost (cands : List Candidate) (id : StationId) (best : Candidate) : Prop :=
  ∃ before after, cands = before ++ best :: after ∧ best.destination = id ∧
    (∀ x ∈ before, x.destination = id → x.score.toFloat < best.score.toFloat) ∧
    ∀ x ∈ after, x.destination = id → x.score.toFloat ≤ best.score.toFloat

namespace Candidate.Foremost

variable {cands others : List Candidate} {id : StationId} {best x : Candidate}

lemma mem (h : Foremost cands id best) : best ∈ cands := by
  obtain ⟨before, after, rfl, -⟩ := h
  exact List.mem_append_right _ List.mem_cons_self

lemma destination_eq (h : Foremost cands id best) : best.destination = id := by
  obtain ⟨before, after, -, hid, -⟩ := h
  exact hid

/-- No candidate for the station scores more. -/
lemma le (h : Foremost cands id best) (hnumbers : ∀ x ∈ cands, ¬ x.score.toFloat.isNaN)
    (hx : x ∈ cands) (hid : x.destination = id) : x.score.toFloat ≤ best.score.toFloat := by
  have hbest := hnumbers best h.mem
  obtain ⟨before, after, rfl, -, hless, hle⟩ := h
  rcases List.mem_append.1 hx with hx' | hx'
  · exact Binary.le_of_lt (hnumbers x hx) hbest (hless x hx' hid)
  · rcases List.mem_cons.1 hx' with rfl | hx'
    · exact Binary.le_refl hbest
    · exact hle x hx' hid

/-- A candidate that is for another station, or no better, changes nothing. -/
lemma concat (h : Foremost cands id best)
    (hx : x.destination = id → x.score.toFloat ≤ best.score.toFloat) :
    Foremost (cands ++ [x]) id best := by
  obtain ⟨before, after, rfl, hid, hless, hle⟩ := h
  refine ⟨before, after ++ [x], by simp, hid, hless, fun y hy => ?_⟩
  rcases List.mem_append.1 hy with hy | hy
  · exact hle y hy
  · exact List.mem_singleton.1 hy ▸ hx

/-- The foremost candidate of two lists is that of the first one, or of the second one if the first
one has none as good. -/
lemma of_append (h : Foremost (cands ++ others) id best) : Foremost cands id best ∨
    Foremost others id best ∧
      ∀ x ∈ cands, x.destination = id → x.score.toFloat < best.score.toFloat := by
  obtain ⟨before, after, hsplit, hid, hless, hle⟩ := h
  rcases List.append_eq_append_iff.1 hsplit with ⟨more, rfl, hothers⟩ | ⟨more, hcands, hafter⟩
  · exact .inr ⟨⟨more, after, hothers, hid, fun x hx => hless x (List.mem_append_right _ hx), hle⟩,
      fun x hx => hless x (List.mem_append_left _ hx)⟩
  · cases more with
    | nil =>
        rw [List.append_nil] at hcands
        exact .inr ⟨⟨[], after, hafter.symm, hid, by simp, hle⟩, hcands ▸ hless⟩
    | cons first more =>
        obtain ⟨rfl, rfl⟩ := List.cons.inj hafter
        exact .inl ⟨before, more, hcands, hid, hless, fun x hx => hle x (List.mem_append_left _ hx)⟩

end Candidate.Foremost

/-- The foremost candidate of several lists is that of one of them, and those before have none as
good. -/
lemma exists_route_of_foremost {routes : List Route} {legs : Route → List Candidate}
    {id : StationId} {best : Candidate} (h : Candidate.Foremost (routes.flatMap legs) id best) :
    ∃ before r after, routes = before ++ r :: after ∧ Candidate.Foremost (legs r) id best ∧
      ∀ x ∈ before.flatMap legs, x.destination = id → x.score.toFloat < best.score.toFloat := by
  induction routes with
  | nil => exact absurd h.mem List.not_mem_nil
  | cons r routes ih =>
      rw [List.flatMap_cons] at h
      rcases h.of_append with hfirst | ⟨hrest, hless⟩
      · exact ⟨[], r, routes, rfl, hfirst, by simp⟩
      · obtain ⟨before, r', after, rfl, hforemost, hbefore⟩ := ih hrest
        refine ⟨r :: before, r', after, rfl, hforemost, fun x hx => ?_⟩
        rw [List.flatMap_cons] at hx
        exact (List.mem_append.1 hx).elim (hless x) (hbefore x)

namespace Charter

variable {c : Charter} {g : Galaxy} {restriction : Option PlaceSet} {r : Route}

/-! ### What is kept -/

/-- A candidate takes the place of a worse one, and of none. -/
lemma getElem?_keepBetter_destination (kept : Selection) (cand : Candidate) :
    (keepBetter kept cand)[cand.destination]? = some (match kept[cand.destination]? with
      | some current => if cand.score.toFloat ≤ current.score.toFloat then current else cand
      | none => cand) := by
  rw [keepBetter]
  cases hcurrent : kept[cand.destination]? with
  | none => simp
  | some current =>
      dsimp only
      split_ifs
      · exact hcurrent
      · simp

/-- **What is kept for a station is the foremost candidate**, as long as all scores are numbers. -/
lemma foremost_of_getElem?_foldl {cands : List Candidate} {id : StationId} {best : Candidate}
    (hnumbers : ∀ x ∈ cands, ¬ x.score.toFloat.isNaN)
    (h : (cands.foldl keepBetter ∅)[id]? = some best) : Candidate.Foremost cands id best := by
  induction cands using List.reverseRecOn generalizing best with
  | nil => simp at h
  | append_singleton cands last ih =>
      have hnumbers' : ∀ x ∈ cands, ¬ x.score.toFloat.isNaN := fun x hx =>
        hnumbers x (List.mem_append_left _ hx)
      rw [List.foldl_append, List.foldl_cons, List.foldl_nil] at h
      by_cases hid : last.destination = id
      · subst hid
        rw [getElem?_keepBetter_destination] at h
        cases hcurrent : (cands.foldl keepBetter ∅)[last.destination]? with
        | none =>
            rw [hcurrent] at h
            obtain rfl := Option.some.inj h
            refine ⟨cands, [], rfl, rfl, fun x hx hid => ?_, by simp⟩
            have hsome : (cands.foldl keepBetter ∅)[last.destination]?.isSome :=
              isSome_foldl_keepBetter (.inr ⟨x, hx, hid⟩)
            rw [hcurrent] at hsome
            cases hsome
        | some current =>
            have hforemost := ih hnumbers' hcurrent
            have hlast := hnumbers last (List.mem_append_right _ (List.mem_singleton_self last))
            have hkept := hnumbers' current hforemost.mem
            rw [hcurrent] at h
            dsimp only at h
            split_ifs at h with hle
            · obtain rfl := Option.some.inj h
              exact hforemost.concat fun _ => hle
            · obtain rfl := Option.some.inj h
              refine ⟨cands, [], rfl, rfl, fun x hx hid => ?_, by simp⟩
              have hle' := hforemost.le hnumbers' hx hid
              exact Binary.lt_of_le_of_lt (hnumbers' x hx) hkept hlast hle'
                ((Binary.not_le hlast hkept).1 hle)
      · rcases getElem?_keepBetter (cands.foldl keepBetter ∅) last id with hsame | ⟨heq, -⟩
        · exact (ih hnumbers' (hsame ▸ h)).concat fun heq => absurd heq hid
        · exact absurd heq hid

/-! ### Candidates -/

/-- A leg that a route could fly next: from the station at which it ends to one at which a hop may
end, not called at before if stations are to be unique, with a load. -/
structure Offers (c : Charter) (g : Galaxy) (restriction : Option PlaceSet) (r : Route)
    (source : Station) (landing : Landing) (load : Load) : Prop where
  source_eq : g.station? r.last = some source
  mem_landings : landing ∈ c.landings g source restriction
  unique : c.unique → landing.station.id ∉ r.stations
  load_eq : c.load? g r.last landing.station.id r.available = some load

/-- What a leg adds to the score. -/
def legScore (c : Charter) (landing : Landing) (load : Load) : Figure :=
  .double (Float.ofInt load.gain.toInt) * c.starFactor landing.station.starDistance

lemma candidate?_eq_some_iff {landing : Landing} {cand : Candidate} :
    c.candidate? g r landing = some cand ↔ (c.unique → landing.station.id ∉ r.stations) ∧
      ∃ load, c.load? g r.last landing.station.id r.available = some load ∧
        cand = ⟨r, landing, load, c.legScore landing load⟩ := by
  rw [candidate?]
  split_ifs with hcalled
  · rw [Bool.and_eq_true, List.contains_iff_mem] at hcalled
    simp [hcalled.1, hcalled.2]
  · rw [Bool.and_eq_true, List.contains_iff_mem, not_and] at hcalled
    rw [Option.map_eq_some_iff, and_iff_right hcalled]
    simp only [legScore, eq_comm (a := cand)]

/-- **The candidates of a route are the legs that it could fly next.** -/
lemma mem_candidatesOf_iff {cand : Candidate} : cand ∈ c.candidatesOf g restriction r ↔
    ∃ source landing load, c.Offers g restriction r source landing load ∧
      cand = ⟨r, landing, load, c.legScore landing load⟩ := by
  rw [candidatesOf]
  cases hsource : g.station? r.last with
  | none =>
      refine iff_of_false List.not_mem_nil ?_
      rintro ⟨source, landing, load, hoffers, -⟩
      exact absurd (hsource.symm.trans hoffers.source_eq) (by simp)
  | some source =>
      simp only [List.mem_filterMap, candidate?_eq_some_iff]
      constructor
      · rintro ⟨landing, hlanding, hunique, load, hload, rfl⟩
        exact ⟨source, landing, load, ⟨hsource, hlanding, hunique, hload⟩, rfl⟩
      · rintro ⟨other, landing, load, hoffers, rfl⟩
        obtain rfl := Option.some.inj (hsource.symm.trans hoffers.source_eq)
        exact ⟨landing, hoffers.mem_landings, hoffers.unique, load, hoffers.load_eq, rfl⟩

/-- The foremost candidate of a route is one of the first landing at its station: another landing
there makes a leg as good. -/
lemma find?_landings_of_foremost {source : Station} {id : StationId} {best : Candidate}
    (hsource : g.station? r.last = some source)
    (hnumbers : ∀ x ∈ c.candidatesOf g restriction r, ¬ x.score.toFloat.isNaN)
    (h : Candidate.Foremost (c.candidatesOf g restriction r) id best) :
    (c.landings g source restriction).find? (fun l => l.station.id == id) = some best.landing := by
  obtain ⟨before, after, hsplit, hid, hless, -⟩ := h
  have hlegs : c.candidatesOf g restriction r
      = (c.landings g source restriction).filterMap (c.candidate? g r) := by
    rw [candidatesOf, hsource]
  rw [hlegs] at hsplit hnumbers
  obtain ⟨first, rest, hlandings, rfl, hrest⟩ := List.filterMap_eq_append_iff.1 hsplit
  obtain ⟨skipped, landing, others, rfl, hskipped, hbest, -⟩ := List.filterMap_eq_cons_iff.1 hrest
  rw [← List.append_assoc] at hlandings
  have hlanding : landing ∈ c.landings g source restriction :=
    hlandings ▸ List.mem_append_right _ List.mem_cons_self
  have hearlier : ∀ l ∈ first ++ skipped, l ∈ c.landings g source restriction := fun l hl =>
    hlandings ▸ List.mem_append_left _ hl
  obtain ⟨hunique, load, hload, rfl⟩ := candidate?_eq_some_iff.1 hbest
  refine List.find?_eq_some_iff_append.2 ⟨beq_iff_eq.2 hid, _, _, hlandings, fun other hother => ?_⟩
  rw [Bool.not_eq_true', beq_eq_false_iff_ne]
  intro hid'
  -- a landing at the same station before this one would have made a leg of the same score
  have hstation : other.station = landing.station := by
    have hknown := station?_of_mem_landings (hearlier other hother)
    rw [hid', ← hid] at hknown
    exact Option.some.inj (hknown.symm.trans (station?_of_mem_landings hlanding))
  have hleg : c.candidate? g r other = some ⟨r, other, load, c.legScore landing load⟩ := by
    rw [candidate?_eq_some_iff, hstation]
    exact ⟨hunique, load, hload, by rw [legScore, legScore, hstation]⟩
  rcases List.mem_append.1 hother with hother | hother
  · have hlt := hless _ (List.mem_filterMap.2 ⟨other, hother, hleg⟩) hid'
    have hnumber := hnumbers _ (List.mem_filterMap.2 ⟨landing, hlanding, hbest⟩)
    exact Binary.lt_irrefl hnumber hlt
  · rw [hskipped other hother] at hleg
    cases hleg

/-! ### The best hops -/

section BestHops

variable {routes : List Route}

/-- There is a best hop to each station that some route could fly to, and to no other one. -/
lemma mem_map_last_bestHops {id : StationId} :
    id ∈ (c.bestHops g routes restriction).map Route.last ↔
      ∃ r ∈ routes, ∃ source landing load, c.Offers g restriction r source landing load ∧
        landing.station.id = id := by
  rw [map_last_bestHops, Std.ExtTreeMap.mem_keys, Std.ExtTreeMap.mem_iff_isSome_getElem?]
  constructor
  · intro hsome
    obtain ⟨kept, hkept⟩ := Option.isSome_iff_exists.1 hsome
    obtain ⟨hmem, rfl⟩ := (of_getElem?_foldl_keepBetter hkept).resolve_right (by simp)
    obtain ⟨r, hr, hleg⟩ := List.mem_flatMap.1 hmem
    obtain ⟨source, landing, load, hoffers, rfl⟩ := mem_candidatesOf_iff.1 hleg
    exact ⟨r, hr, source, landing, load, hoffers, rfl⟩
  · rintro ⟨r, hr, source, landing, load, hoffers, hid⟩
    refine isSome_foldl_keepBetter (.inr ⟨⟨r, landing, load, c.legScore landing load⟩,
      List.mem_flatMap.2 ⟨r, hr, ?_⟩, hid⟩)
    exact mem_candidatesOf_iff.2 ⟨source, landing, load, hoffers, rfl⟩

/-- A best hop is that of the foremost candidate for the station at which it ends. -/
lemma exists_foremost_of_mem_bestHops
    (hnumbers : ∀ x ∈ c.candidates g routes restriction, ¬ x.score.toFloat.isNaN) {best : Route}
    (h : best ∈ c.bestHops g routes restriction) :
    ∃ kept, best = kept.extended ∧
      Candidate.Foremost (c.candidates g routes restriction) best.last kept := by
  obtain ⟨⟨id, kept⟩, hkept, rfl⟩ := List.mem_map.1 h
  rw [Std.ExtTreeMap.mem_toList_iff_getElem?_eq_some] at hkept
  have hforemost := foremost_of_getElem?_foldl hnumbers hkept
  have hlast : kept.extended.last = id := (Route.last_extend _ _ _).trans hforemost.destination_eq
  exact ⟨kept, rfl, hlast.symm ▸ hforemost⟩

/-- The foremost candidate for a station is a leg of the first route that has one as good, and of
the first landing of that route there. -/
lemma exists_offers_of_foremost
    (hnumbers : ∀ x ∈ c.candidates g routes restriction, ¬ x.score.toFloat.isNaN) {id : StationId}
    {best : Candidate} (h : Candidate.Foremost (c.candidates g routes restriction) id best) :
    ∃ before r after source landing load, routes = before ++ r :: after ∧
      c.Offers g restriction r source landing load ∧
      (c.landings g source restriction).find? (fun l => l.station.id == id) = some landing ∧
      best = ⟨r, landing, load, c.legScore landing load⟩ ∧
      ∀ x ∈ c.candidates g before restriction, x.destination = id →
        x.score.toFloat < best.score.toFloat := by
  obtain ⟨before, r, after, hroutes, hfirst, hbefore⟩ := exists_route_of_foremost h
  obtain ⟨source, landing, load, hoffers, hleg⟩ := mem_candidatesOf_iff.1 hfirst.mem
  have hnumbers' : ∀ x ∈ c.candidatesOf g restriction r, ¬ x.score.toFloat.isNaN := by
    intro x hx
    refine hnumbers x (List.mem_flatMap.2 ⟨r, ?_, hx⟩)
    rw [hroutes]
    exact List.mem_append_right _ List.mem_cons_self
  have hlisted := find?_landings_of_foremost hoffers.source_eq hnumbers' hfirst
  rw [hleg] at hlisted
  exact ⟨before, r, after, source, landing, load, hroutes, hoffers, hlisted, hleg, hbefore⟩

/-- **For each station that some route could fly to there is one best hop**, in ascending order of
the stations, and for no other one, as long as all scores are numbers. No leg to that station scores
more. It is flown by the first route that has a leg as good, with the load that is fitted for that
route, and on the way of its first landing there. -/
theorem bestHops_foremost (c : Charter) (g : Galaxy) (routes : List Route)
    (restriction : Option PlaceSet)
    (hnumbers : ∀ x ∈ c.candidates g routes restriction, ¬ x.score.toFloat.isNaN) :
    ((c.bestHops g routes restriction).map Route.last).Pairwise (· < ·) ∧
    (∀ id, id ∈ (c.bestHops g routes restriction).map Route.last ↔
      ∃ r ∈ routes, ∃ source landing load, c.Offers g restriction r source landing load ∧
        landing.station.id = id) ∧
    ∀ best ∈ c.bestHops g routes restriction, ∃ before r after source landing load,
      routes = before ++ r :: after ∧ c.Offers g restriction r source landing load ∧
      (c.landings g source restriction).find? (fun l => l.station.id == best.last) = some landing ∧
      best =
        r.extend ⟨best.last, .ofTrades load.trades, landing.path⟩ (c.legScore landing load) ∧
      (∀ x ∈ c.candidates g routes restriction, x.destination = best.last →
        x.score.toFloat ≤ best.score.toFloat) ∧
      ∀ x ∈ c.candidates g before restriction, x.destination = best.last →
        x.score.toFloat < best.score.toFloat := by
  refine ⟨?_, fun id => mem_map_last_bestHops, fun best hbest => ?_⟩
  · rw [map_last_bestHops]
    exact Std.ExtTreeMap.ordered_keys.imp compare_lt_iff_lt.1
  · obtain ⟨kept, hextended, hforemost⟩ := exists_foremost_of_mem_bestHops hnumbers hbest
    obtain ⟨before, r, after, source, landing, load, hroutes, hoffers, hlisted, hleg, hbefore⟩ :=
      exists_offers_of_foremost hnumbers hforemost
    have hscore : best.score = kept.score := by rw [hextended]; rfl
    refine ⟨before, r, after, source, landing, load, hroutes, hoffers, hlisted, ?_, ?_, ?_⟩
    · rw [← hforemost.destination_eq, hextended, hleg]
      rfl
    · rw [hscore]
      exact fun x hx hid => hforemost.le hnumbers hx hid
    · rwa [hscore]

end BestHops

end Charter

/-- Three purses for the way to the dock, the first one too small for a full hold of ore. -/
def purses : List Route := [.seed 1 20, .seed 1 40, .seed 1 45]

/-- Of the two purses that fill the hold the first one is kept. -/
theorem bestHops_foremost_purses :
    (∀ x ∈ openCharter.candidates twoPorts purses none, ¬ x.score.toFloat.isNaN) ∧
      (openCharter.candidates twoPorts purses none).length = 3 ∧
      ∃ best ∈ openCharter.bestHops twoPorts purses none, best.startCredits = 40 ∧
        best.stations = [1, 2] ∧ ∀ x ∈ openCharter.candidates twoPorts purses none,
          x.destination = 2 → x.score.toFloat ≤ best.score.toFloat := by
  have hnumbers : ∀ x ∈ openCharter.candidates twoPorts purses none, ¬ x.score.toFloat.isNaN := by
    decide +kernel
  have hview : (openCharter.bestHops twoPorts purses none).map
      (fun r => (r.startCredits, r.stations, r.last)) = [(40, [1, 2], 2)] := by decide +kernel
  obtain ⟨-, -, hbest⟩ := Charter.bestHops_foremost openCharter twoPorts purses none hnumbers
  obtain ⟨best, hmem, hsame⟩ := List.mem_map.1 (hview ▸ List.mem_singleton_self _)
  obtain ⟨hcredits, hstations, hlast⟩ : best.startCredits = 40 ∧ best.stations = [1, 2] ∧
      best.last = 2 := by simpa using hsame
  obtain ⟨_, _, _, _, _, _, -, -, -, -, hle, -⟩ := hbest best hmem
  rw [hlast] at hle
  exact ⟨hnumbers, by decide +kernel, best, hmem, hcredits, hstations, hle⟩

end TradeRun
