import Mathlib.Tactic
import TradeRun.Jumps
import TradeRun.Proofs.Sorting

/-!
The ways that an exploration finds.

* `Space.Way`: a way from one system to another by single jumps, which enters no system twice;
* `Ring.Around`: what one ring adds. Each of its arrivals is one jump away from one of the ring
  before, in a system that had not been entered until then;
* `Arrival.Reached`: the invariant of the rings. An arrival has come on a way from a starting point,
  by as many jumps as there are rings so far, through systems that have been entered;
* `Space.of_mem_explore`: **every system explored is reached on a way** from a starting point, by no
  more jumps than were allowed;
* `Space.Way.forall_safe`: no way leads through a system to be avoided, unless it starts in one;
* `Space.steps_eq`: the systems to which one jump can lead, where those in range are known.
-/

namespace TradeRun

namespace Space

variable {space : Space} {source target id : SystemId} {path : List SystemId}

/-! ### Ways -/

/-- A way from one system to another by single jumps, which enters no system twice. -/
structure Way (space : Space) (source target : SystemId) (path : List SystemId) : Prop where
  head_eq : path.head? = some source
  last_eq : path.getLast? = some target
  chain : path.IsChain fun x y => y ∈ space.steps x
  nodup : path.Nodup

namespace Way

/-- The way that stays where it is. -/
lemma refl (space : Space) (id : SystemId) : space.Way id id [id] :=
  ⟨rfl, rfl, List.isChain_singleton id, List.nodup_singleton id⟩

/-- A jump to a system that the way has not entered makes it longer. -/
lemma jump (h : space.Way source target path) (hstep : id ∈ space.steps target)
    (hnew : id ∉ path) : space.Way source id (path ++ [id]) where
  head_eq := by rw [List.head?_append, h.head_eq, Option.some_or]
  last_eq := List.getLast?_concat
  chain := by
    refine List.isChain_append.2 ⟨h.chain, List.isChain_singleton id, fun x hx y hy => ?_⟩
    obtain rfl := Option.some.inj (h.last_eq.symm.trans hx)
    obtain rfl := Option.some.inj hy
    exact hstep
  nodup := by
    refine List.nodup_append.2 ⟨h.nodup, List.nodup_singleton id, fun x hx y hy hxy => ?_⟩
    obtain rfl := List.mem_singleton.1 hy
    exact hnew (hxy ▸ hx)

/-- A way leads through no system to be avoided, unless it starts in one. -/
lemma forall_safe (h : space.Way source target path) (hsource : ¬ space.avoid.hasSystem source) :
    ∀ system ∈ path, ¬ space.avoid.hasSystem system := by
  refine List.IsChain.induction _ path h.chain (fun x y hstep _ => ?_) fun hne => ?_
  · rw [steps, List.mem_filter, Bool.not_eq_true'] at hstep
    simp [hstep.2]
  · have hhead := h.head_eq
    rw [List.head?_eq_some_head hne] at hhead
    rwa [Option.some.inj hhead]

/-- Each jump of a way leads to a system in range. -/
lemma in_range (h : space.Way source target path) :
    path.IsChain fun x y => y ∈ space.galaxy.neighbours x space.range :=
  h.chain.imp fun _ _ hstep => (List.mem_filter.1 hstep).1

end Way

end Space

/-! ### Rings -/

/-- A ring around a frontier, when so many systems had been entered: each arrival in it has come by
a jump from the frontier to a system that had not been entered. -/
structure Ring.Around (space : Space) (frontier : List Arrival)
    (entered : Std.ExtTreeSet SystemId) (ring : Ring) : Prop where
  keeps : ∀ id, entered.contains id → ring.entered.contains id
  enters : ∀ a ∈ ring.arrivals, ring.entered.contains a.system
  comes : ∀ b ∈ ring.arrivals, ∃ a ∈ frontier, ∃ id ∈ space.steps a.system,
    ¬ entered.contains id ∧ b = a.jump id

namespace Ring.Around

variable {space : Space} {frontier : List Arrival} {entered : Std.ExtTreeSet SystemId} {ring : Ring}

lemma start (space : Space) (frontier : List Arrival) (entered : Std.ExtTreeSet SystemId) :
    Ring.Around space frontier entered ⟨entered, []⟩ where
  keeps := fun _ h => h
  enters := by simp
  comes := by simp

/-- Entering one more system from the frontier keeps to the ring. -/
lemma enter (h : Ring.Around space frontier entered ring) {a : Arrival} {id : SystemId}
    (ha : a ∈ frontier) (hstep : id ∈ space.steps a.system) :
    Ring.Around space frontier entered (ring.enter a id) := by
  rw [Ring.enter]
  split_ifs with hold
  · exact h
  · have hnew : ¬ entered.contains id := fun hid => hold (h.keeps id hid)
    refine ⟨fun other hother => ?_, fun b hb => ?_, fun b hb => ?_⟩
    · exact Std.ExtTreeSet.contains_insert.trans (by simp [h.keeps other hother])
    · rw [Std.ExtTreeSet.contains_insert]
      rcases List.mem_cons.1 hb with rfl | hb
      · simp [Arrival.jump]
      · simp [h.enters b hb]
    · rcases List.mem_cons.1 hb with rfl | hb
      · exact ⟨a, ha, id, hstep, hnew, rfl⟩
      · exact h.comes b hb

end Ring.Around

namespace Space

variable {space : Space}

lemma nextRing_around (frontier : List Arrival) (entered : Std.ExtTreeSet SystemId) :
    Ring.Around space frontier entered (space.nextRing frontier entered) := by
  refine List.foldlRecOn frontier _ (.start space frontier entered) fun ring hring a ha => ?_
  refine List.foldlRecOn (space.steps a.system) _ hring fun ring hring id hstep => ?_
  exact hring.enter ha hstep

end Space

/-! ### Arrivals -/

/-- An arrival that has come from one of the starting points by so many jumps, through systems that
have been entered. -/
structure Arrival.Reached (space : Space) (starts : List SystemId) (jumps : Nat)
    (entered : Std.ExtTreeSet SystemId) (a : Arrival) : Prop where
  way : ∃ source ∈ starts, space.Way source a.system a.path
  length_eq : a.path.length = jumps + 1
  entered : ∀ id ∈ a.path, entered.contains id

namespace Arrival.Reached

variable {space : Space} {starts : List SystemId} {jumps : Nat}
  {entered : Std.ExtTreeSet SystemId} {a : Arrival}

lemma start {id : SystemId} (h : id ∈ starts) :
    Arrival.Reached space starts 0 (Std.ExtTreeSet.ofList starts) (.start id) where
  way := ⟨id, h, .refl space id⟩
  length_eq := rfl
  entered := by
    rintro other hother
    obtain rfl := List.mem_singleton.1 hother
    simpa using h

/-- The arrivals of the next ring have come by one jump more. -/
lemma next {frontier : List Arrival} {ring : Ring}
    (hfrontier : ∀ a ∈ frontier, Arrival.Reached space starts jumps entered a)
    (hring : Ring.Around space frontier entered ring) {b : Arrival} (hb : b ∈ ring.arrivals) :
    Arrival.Reached space starts (jumps + 1) ring.entered b := by
  obtain ⟨a, ha, id, hstep, hnew, rfl⟩ := hring.comes b hb
  obtain ⟨⟨source, hsource, hway⟩, hlength, hentered⟩ := hfrontier a ha
  refine ⟨⟨source, hsource, hway.jump hstep fun hid => hnew (hentered id hid)⟩, ?_, fun x hx => ?_⟩
  · rw [Arrival.jump, List.length_append, hlength, List.length_singleton]
  · rcases List.mem_append.1 hx with hx | hx
    · exact hring.keeps x (hentered x hx)
    · obtain rfl := List.mem_singleton.1 hx
      exact hring.enters _ hb

end Arrival.Reached

namespace Space

variable {space : Space} {starts : List SystemId}

/-- Every arrival of the rings has come by one of the numbers of jumps that they make up. -/
lemma of_mem_rings {left jumps : Nat} {frontier : List Arrival}
    {entered : Std.ExtTreeSet SystemId}
    (hfrontier : ∀ a ∈ frontier, a.Reached space starts jumps entered) :
    ∀ b ∈ space.rings left frontier entered,
      ∃ jumps' ≤ jumps + left, ∃ entered', b.Reached space starts jumps' entered' := by
  induction left generalizing jumps frontier entered with
  | zero => exact fun b hb => absurd hb List.not_mem_nil
  | succ left ih =>
      have hreached : ∀ b ∈ (space.nextRing frontier entered).arrivals.reverse,
          b.Reached space starts (jumps + 1) (space.nextRing frontier entered).entered :=
        fun b hb => .next hfrontier (nextRing_around frontier entered) (List.mem_reverse.1 hb)
      intro b hb
      rw [rings] at hb
      split at hb
      · cases hb
      · rcases List.mem_append.1 hb with hb | hb
        · exact ⟨jumps + 1, by omega, _, hreached b hb⟩
        · obtain ⟨jumps', hle, entered', hb'⟩ := ih hreached b hb
          exact ⟨jumps', by omega, entered', hb'⟩

/-- **Every system explored is reached on a way** from a starting point, by no more jumps than were
allowed. -/
theorem of_mem_explore {jumps : Nat} {a : Arrival} (h : a ∈ space.explore jumps starts) :
    (∃ source ∈ starts, space.Way source a.system a.path) ∧ a.path.length ≤ jumps + 1 := by
  have hstarts : ∀ a ∈ starts.map Arrival.start,
      a.Reached space starts 0 (Std.ExtTreeSet.ofList starts) := by
    intro a ha
    obtain ⟨id, hid, rfl⟩ := List.mem_map.1 ha
    exact .start hid
  rcases List.mem_append.1 h with ha | ha
  · have hreached := hstarts a ha
    exact ⟨hreached.way, by rw [hreached.length_eq]; omega⟩
  · obtain ⟨jumps', hle, entered', hreached⟩ := of_mem_rings hstarts a ha
    exact ⟨hreached.way, by rw [hreached.length_eq]; omega⟩

end Space

/-! ### A known neighbourhood -/

/-- The order of nearness compares the distances, and then the numbers. -/
instance : Std.TransCmp compareNear :=
  inferInstanceAs (Std.TransCmp
    (compareLex (compareOn (Binary.orderKey ∘ Prod.snd)) (compareOn Prod.fst)))

namespace Space

/-- The systems to which one jump can lead, where those in range are known with their distances. -/
lemma steps_eq {space : Space} {id : SystemId} {s : StarSystem}
    (found : List (SystemId × Float)) (hs : space.galaxy.system? id = some s)
    (hrange : ¬ space.range ≤ 0)
    (hperm : ((space.galaxy.chart.within s.position.coarse (squaredReach space.range)).filterMap
      fun t => if s.position.distance t.position ≤ space.range then
        some (t.id, s.position.distance t.position) else none).Perm found)
    (hsorted : found.Pairwise fun a b => compareNear a b = .lt) :
    space.steps id = ((found.filter (·.1 != id)).map (·.1)).filter (!space.avoid.hasSystem ·) := by
  rw [steps, Galaxy.neighbours, Galaxy.inRange, hs]
  dsimp only
  rw [SystemTree.near, if_neg hrange]
  dsimp only
  rw [mergeSort_isLE_eq_of_pairwise compareNear hperm hsorted]

end Space

end TradeRun
