import TradeRun.Proofs.Search.Shape
import TradeRun.Proofs.Space.Reach

/-!
Where a hop can end.

* `Charter.Admits`: what a hop may end at. `Charter.admits_iff` says that the tests on systems and
  stations come to that;
* `Charter.landings_eq`: the landings are the stations listed for the systems explored, as far as a
  hop may end there;
* `Charter.landings_neighbourhood`: **a hop can end wherever it may, all around its source** within
  the jumps allowed, and gets there by a shortest walk.
-/

namespace TradeRun

namespace Charter

variable {c : Charter} {g : Galaxy} {source : Station} {restriction : Option PlaceSet}

/-- What a hop may end at: a station, as it is listed for a system that is the goal or closer to it
than the source, if the distance of that one is known, other than the source, eligible, not to be
avoided, and allowed. -/
structure Admits (c : Charter) (g : Galaxy) (source : Station) (restriction : Option PlaceSet)
    (system : SystemId) (s : Station) : Prop where
  towards_goal : ∀ goal ∈ c.goal, ∀ far, g.distance? source.system goal = some far →
    system = goal ∨ ∃ near, g.distance? system goal = some near ∧ near < far
  elsewhere : s.id ≠ source.id
  eligible : c.filter.isEligible s
  safe : ¬ c.avoid.matches s
  allowed : ∀ set ∈ restriction, set.matches s

lemma approaches_iff {system : SystemId} : c.approaches g source.system system ↔
    ∀ goal ∈ c.goal, ∀ far, g.distance? source.system goal = some far →
      system = goal ∨ ∃ near, g.distance? system goal = some near ∧ near < far := by
  rw [approaches]
  cases c.goal with
  | none => simp
  | some goal =>
      simp only [Option.mem_some, forall_eq']
      cases g.distance? source.system goal <;> simp [Option.any_eq_true]

lemma lands_iff {s : Station} : c.lands source restriction s ↔ s.id ≠ source.id ∧
    c.filter.isEligible s ∧ ¬ c.avoid.matches s ∧ ∀ set ∈ restriction, set.matches s := by
  simp [lands, and_assoc, Option.all_eq_true]

lemma admits_iff {system : SystemId} {s : Station} :
    (c.approaches g source.system system && c.lands source restriction s)
      ↔ c.Admits g source restriction system s := by
  rw [Bool.and_eq_true, approaches_iff, lands_iff]
  constructor
  · rintro ⟨towards_goal, elsewhere, eligible, safe, allowed⟩
    exact ⟨towards_goal, elsewhere, eligible, safe, allowed⟩
  · intro h
    exact ⟨h.towards_goal, h.elsewhere, h.eligible, h.safe, h.allowed⟩

/-- The landings are the stations listed for the systems explored, as far as a hop may end there. -/
lemma landings_eq (c : Charter) (g : Galaxy) (source : Station) (restriction : Option PlaceSet) :
    c.landings g source restriction =
      ((c.space g).explore c.jumpsPerHop [source.system]).flatMap fun a =>
        ((g.stationsIn a.system).filter fun s =>
          c.approaches g source.system a.system && c.lands source restriction s).map
            fun s => ⟨s, a.path⟩ := by
  rw [landings]
  generalize (c.space g).explore c.jumpsPerHop [source.system] = arrivals
  induction arrivals with
  | nil => rfl
  | cons a arrivals ih =>
      rw [List.flatMap_cons, ← ih, List.filter_cons]
      cases happroach : c.approaches g source.system a.system <;> simp

/-- Landings come by ascending numbers of jumps. -/
lemma pairwise_landings (c : Charter) (g : Galaxy) (source : Station)
    (restriction : Option PlaceSet) :
    (c.landings g source restriction).Pairwise fun a b => a.path.length ≤ b.path.length := by
  rw [landings_eq, List.pairwise_flatMap]
  refine ⟨fun a _ => ?_, ?_⟩
  · rw [List.pairwise_map]
    exact List.pairwise_of_forall fun _ _ => le_rfl
  · refine ((c.space g).explore_surveys source.system c.jumpsPerHop).sorted.imp ?_
    intro a b hle landing hlanding other hother
    obtain ⟨s, -, rfl⟩ := List.mem_map.1 hlanding
    obtain ⟨t, -, rfl⟩ := List.mem_map.1 hother
    exact hle

/-- **A hop can end wherever it may, all around its source.** The systems explored are those that
can be reached by the jumps allowed, each of them once and by a shortest walk. The landings are the
stations listed for them as far as the hop may end there, with these walks, and by ascending numbers
of jumps. More jumps than there are systems change nothing. -/
theorem landings_neighbourhood (c : Charter) (g : Galaxy) (source : Station)
    (restriction : Option PlaceSet) :
    let arrivals := (c.space g).explore c.jumpsPerHop [source.system]
    (c.space g).Surveys source.system c.jumpsPerHop arrivals ∧
      (∃ admits : SystemId → Station → Bool,
        (∀ system s, admits system s ↔ c.Admits g source restriction system s) ∧
        c.landings g source restriction = arrivals.flatMap fun a =>
          ((g.stationsIn a.system).filter (admits a.system)).map fun s => ⟨s, a.path⟩) ∧
      ((c.landings g source restriction).Pairwise fun a b => a.path.length ≤ b.path.length) ∧
      ∀ jumps, g.systems.size ≤ c.jumpsPerHop → c.jumpsPerHop ≤ jumps →
        { c with jumpsPerHop := jumps }.landings g source restriction
          = c.landings g source restriction := by
  refine ⟨Space.explore_surveys _ _ _,
    ⟨_, fun _ _ => admits_iff, landings_eq c g source restriction⟩,
    pairwise_landings c g source restriction, fun jumps hsize hjumps => ?_⟩
  have hsame : (c.space g).explore jumps [source.system]
      = (c.space g).explore c.jumpsPerHop [source.system] :=
    Space.explore_eq_of_size_le (List.nodup_singleton _) hsize hjumps
  rw [landings, landings, ← hsame]
  rfl

end Charter

/-- From the depot one jump leads to both other systems, the nearer one first. As there are three
systems, three jumps are as good as any more. -/
theorem landings_neighbourhood_oreSale :
    oreSpace.Surveys 3 1 [⟨3, [3]⟩, ⟨2, [3, 2]⟩, ⟨1, [3, 1]⟩] ∧
      ∀ jumps ≥ 3, { oreSaleCharter with jumpsPerHop := jumps }.landings oreGalaxy oreDepot none
        = { oreSaleCharter with jumpsPerHop := 3 }.landings oreGalaxy oreDepot none := by
  have hjumps : oreSaleCharter.jumpsPerHop = 1 := by decide +kernel
  have hsize : oreGalaxy.systems.size = 3 := by decide +kernel
  obtain ⟨hsurveys, -⟩ := Charter.landings_neighbourhood oreSaleCharter oreGalaxy oreDepot none
  have hspace : oreSaleCharter.space oreGalaxy = oreSpace := rfl
  have hsystem : oreDepot.system = 3 := rfl
  rw [hspace, hjumps, hsystem, oreSpace_explore] at hsurveys
  obtain ⟨-, -, -, henough⟩ := Charter.landings_neighbourhood
    { oreSaleCharter with jumpsPerHop := 3 } oreGalaxy oreDepot none
  exact ⟨hsurveys, fun jumps hmore => henough jumps hsize.le hmore⟩

end TradeRun
