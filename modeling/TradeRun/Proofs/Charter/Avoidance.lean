import TradeRun.Proofs.Charter.Drawing

/-!
What a request asks to keep away from.

* `Request.Shuns`, `Request.ShunsItem`: the places and the items that its list names. A name of both
  is that of the item;
* `foldlM_collects`: a list read name by name collects what its names stand for;
* `Charter.Drawn.avoid_contains_iff`, `Charter.Drawn.avoidItems_contains_iff`: **the charter avoids
  what the request asks to keep away from** and nothing else;
* `Charter.Drawn.avoid_matches_iff`: a station is avoided just when such a place covers it.
-/

namespace TradeRun

/-- The request asks to keep away from a place: its list names it, by a name of no item. -/
def Request.Shuns (r : Request) (g : Galaxy) (place : Place) : Prop :=
  ∃ name ∈ r.avoid, g.itemNamed? name = none ∧ g.place name = .ok place

/-- The request asks to keep away from an item: its list names it. -/
def Request.ShunsItem (r : Request) (g : Galaxy) (id : ItemId) : Prop :=
  ∃ name ∈ r.avoid, ∃ item, g.itemNamed? name = some item ∧ item.id = id

/-! ### Lists of names -/

/-- Where each name adds what it stands for and leaves the rest, something holds in the end just
when one of the names stands for it or it held at the start. -/
lemma foldlM_collects {ε σ α : Type} {step : σ → α → Except ε σ} (holds : σ → Prop)
    (meant : α → Prop)
    (hstep : ∀ s name s', step s name = .ok s' → (holds s' ↔ meant name ∨ holds s))
    {names : List α} {start last : σ} (h : names.foldlM step start = .ok last) :
    holds last ↔ (∃ name ∈ names, meant name) ∨ holds start := by
  induction names generalizing start with
  | nil =>
      obtain rfl := Except.ok.inj h
      simp
  | cons name rest ih =>
      rw [List.foldlM_cons, bind_eq_ok] at h
      obtain ⟨next, hnext, hrest⟩ := h
      rw [ih hrest, hstep start name next hnext, List.exists_mem_cons_iff, ← or_assoc,
        or_comm (a := meant name)]

namespace Galaxy

variable {g : Galaxy} {names : List String} {avoided : Avoided}

/-- What is avoided with one name more. -/
def avoidName (g : Galaxy) (a : Avoided) (name : String) : Except PlanError Avoided :=
  match g.itemNamed? name with
  | some item => .ok { a with items := a.items.insert item.id }
  | none => (g.place name).map fun place => { a with places := a.places.insert place }

lemma avoided_eq_foldlM (g : Galaxy) (names : List String) :
    g.avoided names = names.foldlM g.avoidName {} := rfl

/-- A name adds the item that it names, else the place that it names. -/
lemma of_avoidName_eq_ok {a a' : Avoided} {name : String} (h : g.avoidName a name = .ok a') :
    (∃ item, g.itemNamed? name = some item ∧ a' = { a with items := a.items.insert item.id }) ∨
      g.itemNamed? name = none ∧
        ∃ place, g.place name = .ok place ∧ a' = { a with places := a.places.insert place } := by
  rw [avoidName] at h
  cases hitem : g.itemNamed? name with
  | some item =>
      rw [hitem] at h
      exact .inl ⟨item, rfl, (Except.ok.inj h).symm⟩
  | none =>
      rw [hitem] at h
      cases hplace : g.place name with
      | error e =>
          rw [hplace] at h
          cases h
      | ok place =>
          rw [hplace] at h
          exact .inr ⟨rfl, place, rfl, (Except.ok.inj h).symm⟩

/-- A place is avoided just when a name of the list is its name and that of no item. -/
lemma places_contains_iff (h : g.avoided names = .ok avoided) (place : Place) :
    avoided.places.contains place ↔
      ∃ name ∈ names, g.itemNamed? name = none ∧ g.place name = .ok place := by
  rw [avoided_eq_foldlM] at h
  rw [foldlM_collects (fun a : Avoided => a.places.contains place)
    (fun name => g.itemNamed? name = none ∧ g.place name = .ok place) ?_ h]
  · cases place <;> simp [PlaceSet.empty, PlaceSet.contains]
  · intro a name a' hname
    rcases of_avoidName_eq_ok hname with ⟨item, hitem, rfl⟩ | ⟨hitem, found, hfound, rfl⟩
    · simp [hitem]
    · simp [hitem, hfound, PlaceSet.contains_insert]

/-- An item is avoided just when the list names it. -/
lemma items_contains_iff (h : g.avoided names = .ok avoided) (id : ItemId) :
    avoided.items.contains id ↔
      ∃ name ∈ names, ∃ item, g.itemNamed? name = some item ∧ item.id = id := by
  rw [avoided_eq_foldlM] at h
  rw [foldlM_collects (fun a : Avoided => a.items.contains id)
    (fun name => ∃ item, g.itemNamed? name = some item ∧ item.id = id) ?_ h]
  · simp
  · intro a name a' hname
    rcases of_avoidName_eq_ok hname with ⟨item, hitem, rfl⟩ | ⟨hitem, found, hfound, rfl⟩
    · simp [hitem, Std.ExtTreeSet.contains_insert]
    · simp [hitem]

end Galaxy

/-! ### The charter -/

namespace Charter.Drawn

variable {g : Galaxy} {r : Request} {n : Numbers} {avoided : Avoided} {c : Charter}

/-- **The charter avoids the places that the request asks to keep away from.** -/
lemma avoid_contains_iff (h : Drawn g r n avoided c) (place : Place) :
    c.avoid.contains place ↔ r.Shuns g place := by
  rw [h.eq]
  exact Galaxy.places_contains_iff h.avoided_eq place

/-- **The charter avoids the items that the request asks to keep away from.** -/
lemma avoidItems_contains_iff (h : Drawn g r n avoided c) (id : ItemId) :
    c.avoidItems.contains id ↔ r.ShunsItem g id := by
  rw [h.eq]
  exact Galaxy.items_contains_iff h.avoided_eq id

/-- A station is avoided just when a place to keep away from covers it. -/
lemma avoid_matches_iff (h : Drawn g r n avoided c) (s : Station) :
    c.avoid.matches s ↔ ∃ place, r.Shuns g place ∧ place.covers s := by
  rw [PlaceSet.matches_iff]
  simp only [h.avoid_contains_iff]

end Charter.Drawn

end TradeRun
