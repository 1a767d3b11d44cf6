import Mathlib.Data.List.Forall2

/-!
Steps of which each may fail.

* `bind_eq_ok`, `bind_eq_error`: two steps pass just when both do, and else the first one that does
  not tells the error;
* `mapM_eq_ok`, `exists_mapM_eq_ok`: a list is read just when each of its members is;
* `bind_congr_of_map`: steps after others that find the same, in whatever form, do the same.
-/

namespace TradeRun

variable {ε α β γ δ : Type}

/-- What follows a step is only done when it passes. -/
lemma bind_eq_ok {x : Except ε α} {f : α → Except ε β} {b : β} :
    x >>= f = .ok b ↔ ∃ a, x = .ok a ∧ f a = .ok b := by
  cases x <;> simp [bind, Except.bind]

/-- Steps fail with the error of the first one that does. -/
lemma bind_eq_error {x : Except ε α} {f : α → Except ε β} {e : ε} :
    x >>= f = .error e ↔ x = .error e ∨ ∃ a, x = .ok a ∧ f a = .error e := by
  cases x <;> simp [bind, Except.bind]

/-- Steps do the same after others that find the same, in whatever form, if they look at nothing
else. -/
lemma bind_congr_of_map {x : Except ε α} {y : Except ε β} {f : α → γ} {g : β → γ}
    {k : α → Except ε δ} {l : β → Except ε δ} (h : x.map f = y.map g)
    (hkl : ∀ a b, f a = g b → k a = l b) : x >>= k = y >>= l := by
  cases x with
  | error e =>
      cases y with
      | error e' => exact congrArg Except.error (Except.error.inj h)
      | ok b => cases h
  | ok a =>
      cases y with
      | error e => cases h
      | ok b => exact hkl a b (Except.ok.inj h)

/-- A list is read just when each of its members is. -/
lemma mapM_eq_ok {f : α → Except ε β} {as : List α} {bs : List β} :
    as.mapM f = .ok bs ↔ List.Forall₂ (fun a b => f a = .ok b) as bs := by
  induction as generalizing bs with
  | nil => cases bs <;> simp [pure, Except.pure]
  | cons a as ih =>
      simp only [List.mapM_cons, bind_eq_ok, ih, List.forall₂_cons_left_iff]
      constructor
      · rintro ⟨b, hb, rest, hrest, heq⟩
        exact ⟨b, rest, hb, hrest, (Except.ok.inj heq).symm⟩
      · rintro ⟨b, rest, hb, hrest, rfl⟩
        exact ⟨b, hb, rest, hrest, rfl⟩

lemma exists_mapM_eq_ok {f : α → Except ε β} {as : List α} :
    (∃ bs, as.mapM f = .ok bs) ↔ ∀ a ∈ as, ∃ b, f a = .ok b := by
  simp only [mapM_eq_ok]
  induction as with
  | nil => simp
  | cons a as ih =>
      rw [List.forall_mem_cons, ← ih]
      constructor
      · rintro ⟨bs, hbs⟩
        obtain ⟨b, rest, hb, hrest, -⟩ := List.forall₂_cons_left_iff.1 hbs
        exact ⟨⟨b, hb⟩, rest, hrest⟩
      · rintro ⟨⟨b, hb⟩, rest, hrest⟩
        exact ⟨b :: rest, .cons hb hrest⟩

end TradeRun
