import TradeRun.Proofs.Galaxy.Chart
import TradeRun.Proofs.Space.Ways

/-!
What an exploration reaches.

A walk goes from system to system as a way does, but may come through a system again. An exploration
finds all that walks lead to, and there are no shorter ones than those that it finds.

* `Space.Walk`: a walk by single jumps to systems in range that need not be avoided;
* `Space.Reach`, `Space.Away`: what walks of so many jumps lead to, and what no shorter ones do;
* `Ring.Holds`: what a ring holds after some systems were tried;
* `Space.Layer`: the invariant of the rings. The systems entered are those at most so many jumps
  away, and those of the frontier are just so far away. `Space.Layer.next` carries it to the next
  ring;
* `Space.Charted`: the arrivals between two distances, each system once. `Space.rings_charted` and
  `Space.explore_charted` say that these are the rings and the whole exploration;
* `Space.mem_explore_iff`, `Space.explore_surveys`: **an exploration reaches what can be reached**,
  around a single system by shortest walks;
* `Space.explore_eq_of_size_le`: more jumps than there are systems reach nothing else, since a way
  enters no system twice.
-/

namespace TradeRun

namespace Space

variable {space : Space} {source target id : SystemId} {path : List SystemId}

/-! ### Walks -/

/-- A walk from one system to another: each jump leads to a system in range that need not be
avoided. -/
structure Walk (space : Space) (source target : SystemId) (path : List SystemId) : Prop where
  head_eq : path.head? = some source
  last_eq : path.getLast? = some target
  chain : path.IsChain fun x y =>
    y ∈ space.galaxy.neighbours x space.range ∧ ¬ space.avoid.hasSystem y

lemma mem_steps : target ∈ space.steps source ↔
    target ∈ space.galaxy.neighbours source space.range ∧ ¬ space.avoid.hasSystem target := by
  rw [steps, List.mem_filter, Bool.not_eq_true', Bool.not_eq_true]

/-- A way is a walk. -/
lemma Way.walk (h : space.Way source target path) : space.Walk source target path :=
  ⟨h.head_eq, h.last_eq, h.chain.imp fun _ _ hstep => mem_steps.1 hstep⟩

/-- What can be reached from the starting points by so many jumps. -/
inductive Reach (space : Space) (starts : List SystemId) : Nat → SystemId → Prop
  | start {id : SystemId} (h : id ∈ starts) : Reach space starts 0 id
  | jump {jumps : Nat} {x y : SystemId} (h : Reach space starts jumps x)
      (step : y ∈ space.steps x) : Reach space starts (jumps + 1) y

/-- A walk reaches its end. -/
lemma Walk.reach {starts : List SystemId} {jumps : Nat} (h : space.Walk source target path)
    (hsource : source ∈ starts) (hlength : path.length = jumps + 1) :
    space.Reach starts jumps target := by
  induction jumps generalizing target path with
  | zero =>
      obtain ⟨x, rfl⟩ := List.length_eq_one_iff.1 hlength
      obtain rfl := Option.some.inj h.head_eq
      obtain rfl := Option.some.inj h.last_eq
      exact .start hsource
  | succ jumps ih =>
      rcases List.eq_nil_or_concat' path with rfl | ⟨before, last, rfl⟩
      · cases hlength
      · obtain rfl : last = target := Option.some.inj (List.getLast?_concat.symm.trans h.last_eq)
        have hbefore : before.length = jumps + 1 := by simpa using hlength
        have hne : before ≠ [] := List.ne_nil_of_length_eq_add_one hbefore
        obtain ⟨x, hx⟩ := Option.isSome_iff_exists.1 (List.getLast?_isSome.2 hne)
        obtain ⟨hchain, -, hstep⟩ := List.isChain_append.1 h.chain
        have hhead : before.head? = some source :=
          (List.head?_append_of_ne_nil before hne).symm.trans h.head_eq
        have hwalk : space.Walk source x before := ⟨hhead, hx, hchain⟩
        exact .jump (ih hwalk hbefore) (mem_steps.2 (hstep x hx _ rfl))

lemma Walk.exists_reach {starts : List SystemId} (h : space.Walk source target path)
    (hsource : source ∈ starts) :
    ∃ jumps, path.length = jumps + 1 ∧ space.Reach starts jumps target := by
  obtain ⟨jumps, hlength⟩ : ∃ jumps, path.length = jumps + 1 := by
    cases path with
    | nil => cases h.head_eq
    | cons x xs => exact ⟨xs.length, rfl⟩
  exact ⟨jumps, hlength, h.reach hsource hlength⟩

/-- What can be reached from the starting points by so many jumps, and no fewer. -/
def Away (space : Space) (starts : List SystemId) (jumps : Nat) (id : SystemId) : Prop :=
  space.Reach starts jumps id ∧ ∀ fewer < jumps, ¬ space.Reach starts fewer id

section Away

variable {starts : List SystemId} {jumps other : Nat}

lemma Reach.exists_away (h : space.Reach starts jumps id) :
    ∃ fewest ≤ jumps, space.Away starts fewest id := by
  classical
  have hexists : ∃ n, space.Reach starts n id := ⟨jumps, h⟩
  exact ⟨Nat.find hexists, Nat.find_min' hexists h, Nat.find_spec hexists,
    fun _ => Nat.find_min hexists⟩

lemma Away.le (h : space.Away starts jumps id) (hreach : space.Reach starts other id) :
    jumps ≤ other :=
  not_lt.1 fun hlt => h.2 other hlt hreach

lemma Away.unique (h : space.Away starts jumps id) (h' : space.Away starts other id) :
    jumps = other :=
  (h.le h'.1).antisymm (h'.le h.1)

/-- What is one jump further away is a jump away from something, and no nearer. -/
lemma away_succ_iff : space.Away starts (jumps + 1) id ↔
    (¬ ∃ fewer ≤ jumps, space.Away starts fewer id) ∧
      ∃ x, space.Away starts jumps x ∧ id ∈ space.steps x := by
  constructor
  · rintro ⟨hreach, hfewest⟩
    refine ⟨fun ⟨fewer, hfewer, haway⟩ => hfewest fewer (Nat.lt_succ_of_le hfewer) haway.1, ?_⟩
    cases hreach with
    | @jump _ x _ hreach hstep =>
        refine ⟨x, ⟨hreach, fun fewer hfewer hsooner => ?_⟩, hstep⟩
        exact hfewest (fewer + 1) (Nat.succ_lt_succ hfewer) (.jump hsooner hstep)
  · rintro ⟨hfurther, x, haway, hstep⟩
    refine ⟨.jump haway.1 hstep, fun fewer hfewer hreach => hfurther ?_⟩
    obtain ⟨fewest, hle, haway⟩ := hreach.exists_away
    exact ⟨fewest, hle.trans (Nat.le_of_lt_succ hfewer), haway⟩

end Away

end Space

/-! ### Rings -/

/-- What a ring holds after some systems were tried, when so many had been entered before. -/
structure Ring.Holds (entered : Std.ExtTreeSet SystemId) (tried : List SystemId) (ring : Ring) :
    Prop where
  contains_iff : ∀ id, ring.entered.contains id ↔ entered.contains id ∨ id ∈ tried
  mem_iff : ∀ id, id ∈ ring.arrivals.map Arrival.system ↔ ¬ entered.contains id ∧ id ∈ tried
  nodup : (ring.arrivals.map Arrival.system).Nodup

namespace Ring.Holds

variable {entered : Std.ExtTreeSet SystemId} {tried : List SystemId} {ring : Ring}

lemma start (entered : Std.ExtTreeSet SystemId) : Ring.Holds entered [] ⟨entered, []⟩ where
  contains_iff := by simp
  mem_iff := by simp
  nodup := List.nodup_nil

lemma enter (h : Ring.Holds entered tried ring) (a : Arrival) (id : SystemId) :
    Ring.Holds entered (tried ++ [id]) (ring.enter a id) := by
  rw [Ring.enter]
  split_ifs with hold
  · have htried := (h.contains_iff id).1 hold
    refine ⟨fun other => ?_, fun other => ?_, h.nodup⟩
    · rw [h.contains_iff, List.mem_append, List.mem_singleton, ← or_assoc]
      exact (or_iff_left_of_imp fun heq => heq ▸ htried).symm
    · rw [h.mem_iff, List.mem_append, List.mem_singleton]
      refine and_congr_right fun hnew => (or_iff_left_of_imp ?_).symm
      rintro rfl
      exact htried.resolve_left hnew
  · have hnew : ¬ entered.contains id ∧ id ∉ tried :=
      not_or.1 ((h.contains_iff id).not.1 hold)
    refine ⟨fun other => ?_, fun other => ?_, ?_⟩
    · dsimp only
      rw [Std.ExtTreeSet.contains_insert, Bool.or_eq_true, h.contains_iff, List.mem_append,
        List.mem_singleton, beq_iff_eq, Std.LawfulEqOrd.compare_eq_iff_eq, or_comm, or_assoc,
        eq_comm (a := id)]
    · rw [List.map_cons, List.mem_cons, h.mem_iff, List.mem_append, List.mem_singleton, or_comm,
        and_or_left]
      refine or_congr_right (and_iff_right_of_imp ?_).symm
      rintro rfl
      exact hnew.1
    · refine List.nodup_cons.2 ⟨fun hmem => ?_, h.nodup⟩
      exact hnew.2 ((h.mem_iff id).1 hmem).2

lemma enter_all (h : Ring.Holds entered tried ring) (a : Arrival) (ids : List SystemId) :
    Ring.Holds entered (tried ++ ids) (ids.foldl (Ring.enter a) ring) := by
  induction ids generalizing tried ring with
  | nil => simpa using h
  | cons id ids ih => simpa using ih (h.enter a id)

end Ring.Holds

namespace Space

variable {space : Space} {starts : List SystemId} {jumps : Nat} {frontier : List Arrival}
  {entered : Std.ExtTreeSet SystemId}

/-- The next ring holds what a jump from the frontier leads to. -/
lemma nextRing_holds (frontier : List Arrival) (entered : Std.ExtTreeSet SystemId) :
    Ring.Holds entered (frontier.flatMap fun a => space.steps a.system)
      (space.nextRing frontier entered) := by
  have grown (tried : List SystemId) (ring : Ring) (h : ring.Holds entered tried) :
      Ring.Holds entered (tried ++ frontier.flatMap fun a => space.steps a.system)
        (frontier.foldl (fun ring a => (space.steps a.system).foldl (Ring.enter a) ring) ring) := by
    induction frontier generalizing tried ring with
    | nil => simpa using h
    | cons a frontier ih =>
        rw [List.flatMap_cons, ← List.append_assoc]
        exact ih _ _ (h.enter_all a _)
  exact grown [] _ (.start entered)

/-- The frontier after so many jumps: the systems entered are those at most so far away, and those
of the frontier are just so far away, each of them once. -/
structure Layer (space : Space) (starts : List SystemId) (jumps : Nat) (frontier : List Arrival)
    (entered : Std.ExtTreeSet SystemId) : Prop where
  contains_iff : ∀ id, entered.contains id ↔ ∃ fewer ≤ jumps, space.Away starts fewer id
  mem_iff : ∀ id, id ∈ frontier.map Arrival.system ↔ space.Away starts jumps id
  nodup : (frontier.map Arrival.system).Nodup
  length_eq : ∀ a ∈ frontier, a.path.length = jumps + 1

namespace Layer

lemma start (h : starts.Nodup) :
    space.Layer starts 0 (starts.map Arrival.start) (Std.ExtTreeSet.ofList starts) := by
  have hsame : (starts.map Arrival.start).map Arrival.system = starts := by
    rw [List.map_map]
    exact List.map_id starts
  have haway (id : SystemId) : space.Away starts 0 id ↔ id ∈ starts := by
    refine ⟨fun haway => ?_, fun hid => ⟨.start hid, fun fewer hfewer => ?_⟩⟩
    · cases haway.1
      assumption
    · exact absurd hfewer (Nat.not_lt_zero fewer)
  refine ⟨fun id => ?_, fun id => by rw [hsame, haway], hsame.symm ▸ h, fun a ha => ?_⟩
  · simp [haway]
  · obtain ⟨id, -, rfl⟩ := List.mem_map.1 ha
    rfl

/-- **The next ring is a jump further away.** -/
lemma next (h : space.Layer starts jumps frontier entered) :
    space.Layer starts (jumps + 1) (space.nextRing frontier entered).arrivals.reverse
      (space.nextRing frontier entered).entered := by
  have hholds : Ring.Holds entered (frontier.flatMap fun a => space.steps a.system)
      (space.nextRing frontier entered) := nextRing_holds frontier entered
  have htried (id : SystemId) : (¬ entered.contains id ∧
      id ∈ frontier.flatMap fun a => space.steps a.system) ↔ space.Away starts (jumps + 1) id := by
    rw [away_succ_iff, h.contains_iff, List.mem_flatMap]
    refine and_congr_right fun _ => ?_
    simp only [← h.mem_iff, List.mem_map, exists_exists_and_eq_and]
  refine ⟨fun id => ?_, fun id => ?_, ?_, fun b hb => ?_⟩
  · calc (space.nextRing frontier entered).entered.contains id
        ↔ entered.contains id ∨ ¬ entered.contains id ∧
            id ∈ frontier.flatMap fun a => space.steps a.system := by
          rw [hholds.contains_iff]
          tauto
      _ ↔ (∃ fewer ≤ jumps, space.Away starts fewer id) ∨ space.Away starts (jumps + 1) id := by
          rw [htried, h.contains_iff]
      _ ↔ ∃ fewer ≤ jumps + 1, space.Away starts fewer id := by
          simp only [Nat.le_succ_iff, or_and_right, exists_or, exists_eq_left]
  · rw [List.map_reverse, List.mem_reverse, hholds.mem_iff, htried]
  · rw [List.map_reverse]
    exact List.nodup_reverse.2 hholds.nodup
  · have haround : Ring.Around space frontier entered _ := nextRing_around frontier entered
    obtain ⟨a, ha, id, -, -, rfl⟩ := haround.comes b (List.mem_reverse.1 hb)
    rw [Arrival.jump, List.length_append, h.length_eq a ha, List.length_singleton]

end Layer

/-! ### Explorations -/

/-- The arrivals between two distances from the starting points: each system once, by as many jumps
as it is away, the nearer ones first. -/
structure Charted (space : Space) (starts : List SystemId) (near far : Nat)
    (arrivals : List Arrival) : Prop where
  mem_iff : ∀ id, id ∈ arrivals.map Arrival.system ↔
    ∃ jumps, near ≤ jumps ∧ jumps ≤ far ∧ space.Away starts jumps id
  away : ∀ a ∈ arrivals, ∃ jumps, a.path.length = jumps + 1 ∧ near ≤ jumps ∧ jumps ≤ far ∧
    space.Away starts jumps a.system
  nodup : (arrivals.map Arrival.system).Nodup
  sorted : arrivals.Pairwise fun a b => a.path.length ≤ b.path.length

namespace Charted

variable {near between far : Nat} {arrivals others : List Arrival}

lemma nil (h : far < near) : space.Charted starts near far [] where
  mem_iff := by
    intro id
    simp only [List.map_nil, List.not_mem_nil, false_iff, not_exists, not_and]
    omega
  away := by simp
  nodup := List.nodup_nil
  sorted := List.Pairwise.nil

/-- The frontier is all that is just so far away. -/
lemma of_layer (h : space.Layer starts jumps frontier entered) :
    space.Charted starts jumps jumps frontier where
  mem_iff := by
    intro id
    rw [h.mem_iff]
    refine ⟨fun haway => ⟨jumps, le_rfl, le_rfl, haway⟩, ?_⟩
    rintro ⟨other, hle, hle', haway⟩
    exact hle'.antisymm hle ▸ haway
  away := fun a ha =>
    ⟨jumps, h.length_eq a ha, le_rfl, le_rfl, (h.mem_iff _).1 (List.mem_map_of_mem ha)⟩
  nodup := h.nodup
  sorted := List.pairwise_of_forall_mem_list fun a ha b hb => by
    rw [h.length_eq a ha, h.length_eq b hb]

/-- What is further away comes after what is nearer. -/
lemma append (h : space.Charted starts near between arrivals)
    (h' : space.Charted starts (between + 1) far others) (hnear : near ≤ between + 1)
    (hfar : between ≤ far) : space.Charted starts near far (arrivals ++ others) where
  mem_iff := by
    intro id
    rw [List.map_append, List.mem_append, h.mem_iff, h'.mem_iff]
    constructor
    · rintro (⟨jumps, hle, hle', haway⟩ | ⟨jumps, hle, hle', haway⟩)
      · exact ⟨jumps, hle, hle'.trans hfar, haway⟩
      · exact ⟨jumps, hnear.trans hle, hle', haway⟩
    · rintro ⟨jumps, hle, hle', haway⟩
      rcases Nat.lt_or_ge between jumps with hfurther | hnearer
      · exact .inr ⟨jumps, hfurther, hle', haway⟩
      · exact .inl ⟨jumps, hle, hnearer, haway⟩
  away := by
    intro a ha
    rcases List.mem_append.1 ha with ha | ha
    · obtain ⟨jumps, hlength, hle, hle', haway⟩ := h.away a ha
      exact ⟨jumps, hlength, hle, hle'.trans hfar, haway⟩
    · obtain ⟨jumps, hlength, hle, hle', haway⟩ := h'.away a ha
      exact ⟨jumps, hlength, hnear.trans hle, hle', haway⟩
  nodup := by
    rw [List.map_append]
    refine h.nodup.append h'.nodup fun id hid hid' => ?_
    obtain ⟨jumps, -, hle, haway⟩ := (h.mem_iff id).1 hid
    obtain ⟨jumps', hle', -, haway'⟩ := (h'.mem_iff id).1 hid'
    obtain rfl := haway.unique haway'
    omega
  sorted := by
    refine List.pairwise_append.2 ⟨h.sorted, h'.sorted, fun a ha b hb => ?_⟩
    obtain ⟨jumps, hlength, -, hle, -⟩ := h.away a ha
    obtain ⟨jumps', hlength', hle', -, -⟩ := h'.away b hb
    omega

end Charted

/-- Around no frontier there are no rings. -/
lemma rings_nil (left : Nat) : space.rings left [] entered = [] := by
  cases left <;> rfl

/-- The rings are the next one and those around it. That an empty ring is the last one makes no
difference. -/
lemma rings_succ (left : Nat) : space.rings (left + 1) frontier entered
    = (space.nextRing frontier entered).arrivals.reverse
      ++ space.rings left (space.nextRing frontier entered).arrivals.reverse
        (space.nextRing frontier entered).entered := by
  rw [rings]
  split
  · next hlast => rw [hlast, rings_nil, List.append_nil]
  · rfl

/-- **The rings are all that is further away than the frontier**, as far as they go. -/
lemma rings_charted {left : Nat} (h : space.Layer starts jumps frontier entered) :
    space.Charted starts (jumps + 1) (jumps + left) (space.rings left frontier entered) := by
  induction left generalizing jumps frontier entered with
  | zero => exact .nil (Nat.lt_succ_self jumps)
  | succ left ih =>
      have hrest := ih h.next
      rw [Nat.add_right_comm jumps 1 left] at hrest
      rw [rings_succ]
      exact (Charted.of_layer h.next).append hrest (Nat.le_succ _) (by omega)

/-- More rings come after the others, and hold what is further away. -/
lemma rings_add {left more : Nat} (h : space.Layer starts jumps frontier entered) :
    ∃ rest, space.rings (left + more) frontier entered = space.rings left frontier entered ++ rest ∧
      space.Charted starts (jumps + left + 1) (jumps + left + more) rest := by
  induction left generalizing jumps frontier entered with
  | zero =>
      rw [Nat.zero_add]
      exact ⟨_, rfl, rings_charted h⟩
  | succ left ih =>
      obtain ⟨rest, hrest, hcharted⟩ := ih h.next
      rw [Nat.add_right_comm jumps 1 left] at hcharted
      refine ⟨rest, ?_, hcharted⟩
      rw [Nat.succ_add, rings_succ, rings_succ, hrest, List.append_assoc]

/-- **An exploration reaches all that is at most so many jumps away.** -/
lemma explore_charted (h : starts.Nodup) (jumps : Nat) :
    space.Charted starts 0 jumps (space.explore jumps starts) := by
  have hstart : space.Layer starts 0 (starts.map Arrival.start) _ := .start h
  have hrest : space.Charted starts 1 (0 + jumps) _ := rings_charted hstart
  rw [Nat.zero_add] at hrest
  exact (Charted.of_layer hstart).append hrest (Nat.zero_le _) (Nat.zero_le _)

/-- What more jumps reach comes after the rest, and is further away. -/
lemma explore_add (h : starts.Nodup) (jumps more : Nat) :
    ∃ rest, space.explore (jumps + more) starts = space.explore jumps starts ++ rest ∧
      space.Charted starts (jumps + 1) (jumps + more) rest := by
  have hstart : space.Layer starts 0 (starts.map Arrival.start) _ := .start h
  obtain ⟨rest, hrest, hcharted⟩ := rings_add hstart
  rw [Nat.zero_add] at hcharted
  refine ⟨rest, ?_, hcharted⟩
  rw [explore, hrest, explore, List.append_assoc]

/-- **An exploration reaches what walks from its starting points lead to**, by no more jumps than
are allowed. -/
lemma mem_explore_iff {id : SystemId} (h : starts.Nodup) :
    id ∈ (space.explore jumps starts).map Arrival.system ↔
      ∃ source ∈ starts, ∃ path, space.Walk source id path ∧ path.length ≤ jumps + 1 := by
  constructor
  · intro hid
    obtain ⟨a, ha, rfl⟩ := List.mem_map.1 hid
    obtain ⟨⟨source, hsource, hway⟩, hlength⟩ := of_mem_explore ha
    exact ⟨source, hsource, a.path, hway.walk, hlength⟩
  · rintro ⟨source, hsource, path, hwalk, hlength⟩
    obtain ⟨n, hn, hreach⟩ := hwalk.exists_reach hsource
    obtain ⟨fewest, hfewest, haway⟩ := hreach.exists_away
    exact ((explore_charted h jumps).mem_iff id).2 ⟨fewest, Nat.zero_le _, by omega, haway⟩

/-- What the arrivals of an exploration around a system are: what can be reached by so many jumps,
each system once and by a shortest walk. -/
structure Surveys (space : Space) (source : SystemId) (jumps : Nat) (arrivals : List Arrival) :
    Prop where
  mem_iff : ∀ id, id ∈ arrivals.map Arrival.system ↔
    ∃ path, space.Walk source id path ∧ path.length ≤ jumps + 1
  nodup : (arrivals.map Arrival.system).Nodup
  walk : ∀ a ∈ arrivals, space.Walk source a.system a.path
  shortest : ∀ a ∈ arrivals, ∀ path, space.Walk source a.system path →
    a.path.length ≤ path.length
  sorted : arrivals.Pairwise fun a b => a.path.length ≤ b.path.length

/-- **An exploration reaches what can be reached**, by shortest walks. -/
theorem explore_surveys (space : Space) (source : SystemId) (jumps : Nat) :
    space.Surveys source jumps (space.explore jumps [source]) := by
  have hcharted : space.Charted [source] 0 jumps (space.explore jumps [source]) :=
    explore_charted (List.nodup_singleton source) jumps
  have hwalk : ∀ a ∈ space.explore jumps [source], space.Walk source a.system a.path := by
    intro a ha
    obtain ⟨⟨start, hstart, hway⟩, -⟩ := of_mem_explore ha
    exact List.mem_singleton.1 hstart ▸ hway.walk
  refine ⟨fun id => ?_, hcharted.nodup, hwalk, fun a ha path hpath => ?_, hcharted.sorted⟩
  · simp only [mem_explore_iff (List.nodup_singleton source), List.mem_singleton, exists_eq_left]
  · obtain ⟨fewest, hfewest, -, -, haway⟩ := hcharted.away a ha
    obtain ⟨n, hn, hreach⟩ := hpath.exists_reach (List.mem_singleton_self source)
    have hle := haway.le hreach
    omega

/-! ### Enough jumps -/

/-- What each step leads to holds of everything on the way but its start. -/
lemma forall_mem_of_isChain {α : Type} {p : α → Prop} : ∀ {x : α} {xs : List α},
    (x :: xs).IsChain (fun _ y => p y) → ∀ y ∈ xs, p y
  | _, [], _ => fun _ hy => absurd hy List.not_mem_nil
  | _, _ :: _, h => by
      obtain ⟨hfirst, hrest⟩ := List.isChain_cons_cons.1 h
      exact List.forall_mem_cons.2 ⟨hfirst, forall_mem_of_isChain hrest⟩

/-- A way has no more jumps than there are systems. -/
lemma Way.length_le (h : space.Way source target path) :
    path.length ≤ space.galaxy.systems.size + 1 := by
  cases path with
  | nil => exact Nat.zero_le _
  | cons x xs =>
      have hknown : ∀ y ∈ xs, (space.galaxy.system? y).isSome :=
        forall_mem_of_isChain (h.in_range.imp fun _ _ => Galaxy.isSome_system?_of_mem_neighbours)
      exact Nat.succ_le_succ (Register.length_le_size (List.nodup_cons.1 h.nodup).2 hknown)

/-- **More jumps than there are systems reach nothing else.** -/
theorem explore_eq_of_size_le {more : Nat} (h : starts.Nodup)
    (hsize : space.galaxy.systems.size ≤ jumps) (hmore : jumps ≤ more) :
    space.explore more starts = space.explore jumps starts := by
  obtain ⟨extra, rfl⟩ := Nat.exists_eq_add_of_le hmore
  obtain ⟨rest, hrest, hcharted⟩ : ∃ rest, space.explore (jumps + extra) starts = _ ++ rest ∧ _ :=
    explore_add h jumps extra
  rw [hrest, List.append_right_eq_self, List.eq_nil_iff_forall_not_mem]
  intro a ha
  have hexplored : a ∈ space.explore (jumps + extra) starts :=
    hrest ▸ List.mem_append_right _ ha
  obtain ⟨⟨source, -, hway⟩, -⟩ := of_mem_explore hexplored
  obtain ⟨far, hlength, hfurther, -⟩ := hcharted.away a ha
  have hle := hway.length_le
  omega

end Space

end TradeRun
