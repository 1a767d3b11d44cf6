import Mathlib.Order.PiLex
import TradeRun.Proofs.Cargo.Choices

/-!
The branches of the search for a load.

The search goes through a tree of choices. It leaves out what cannot be better than the best load
found so far, and it may run out of visits.

* `Sums.better_trichotomy`: of two loads one is better, or they have the same sums;
* `quantityAt_append`: the quantities of a choice, lot by lot, so that loads compare
  lexicographically, are kept by the lots that follow;
* `Choice.Leads`: the tree. `Choice.Leads.gain_le_bound` says that nothing below a choice gains more
  than its space filled at the gain of the next lot, and `Choice.Leads.eq_of_units_eq` that without
  a further unit nothing changes;
* `Found.Advances`, `explore_advances`: what the search of a branch does to the best load found,
  also when the visits run out. It stays, or a better one of the branch takes its place;
* `Found.Covers`, `explore_covers`: **a search whose visits last covers its branch**. Its best load
  is at least as good as each choice there, and of equally good ones it has the one that comes
  first, as the larger quantities of a lot are tried first and a load gives way to better ones only.
-/

namespace TradeRun.Cargo

/-! ### Better sums -/

namespace Sums

variable {a b c : Sums}

lemma Better.trans (hab : a.Better b) (hbc : b.Better c) : a.Better c := by
  unfold Better at *
  omega

lemma Better.irrefl (a : Sums) : ¬ a.Better a := by
  unfold Better
  omega

/-- Of two sums one is better, or they are the same. -/
lemma better_trichotomy (a b : Sums) : a.Better b ∨ a = b ∨ b.Better a := by
  obtain ⟨gain, cost, units⟩ := a
  obtain ⟨gain', cost', units'⟩ := b
  simp only [Better, mk.injEq]
  omega

lemma Better.gain_le (h : a.Better b) : b.gain ≤ a.gain := by
  unfold Better at *
  omega

end Sums

/-! ### Quantities lot by lot -/

/-- Further lots do not change the quantities of those before. -/
lemma quantityAt_append (more : List Nat) {quantities : List Nat} {place : Nat}
    (h : place < quantities.length) :
    quantityAt (more ++ quantities) place = quantityAt quantities place := by
  have hlt : place < quantities.reverse.length := by simpa using h
  simp only [quantityAt, List.reverse_append, List.getD_eq_getElem?_getD,
    List.getElem?_append_left hlt]

/-- One more lot does not change the quantities of those before it. -/
lemma quantityAt_cons (quantity : Nat) {quantities : List Nat} {place : Nat}
    (h : place < quantities.length) :
    quantityAt (quantity :: quantities) place = quantityAt quantities place :=
  quantityAt_append [quantity] h

lemma quantityAt_cons_length (quantity : Nat) (quantities : List Nat) :
    quantityAt (quantity :: quantities) quantities.length = quantity := by
  simp [quantityAt]

/-- A lot of which nothing is taken makes no difference. -/
lemma quantityAt_zero_cons (quantities : List Nat) :
    quantityAt (0 :: quantities) = quantityAt quantities := by
  funext place
  rcases lt_trichotomy place quantities.length with h | rfl | h
  · exact quantityAt_cons 0 h
  · rw [quantityAt_cons_length]
    simp [quantityAt]
  · have hbeyond : (0 :: quantities).reverse.length ≤ place := by simpa using h
    have hbeyond' : quantities.reverse.length ≤ place := by simpa using h.le
    simp only [quantityAt, List.getD_eq_getElem?_getD, List.getElem?_eq_none hbeyond,
      List.getElem?_eq_none hbeyond']

/-! ### The tree of choices -/

/-- The choices to which quantities of the remaining lots lead, one lot after the other. -/
inductive Choice.Leads : List Stow → Choice → Choice → Prop
  | stay (rest : List Stow) (c : Choice) : Leads rest c c
  | take {s : Stow} {rest : List Stow} {c d : Choice} {quantity : Nat}
      (room : quantity ≤ c.room s) (further : Leads rest (c.take s quantity) d) :
      Leads (s :: rest) c d

/-- Lots in the order of loading: each gains no more than the one before it, and none loses. -/
structure Declining (stows : List Stow) : Prop where
  sorted : stows.Pairwise fun a b => b.gain.toInt ≤ a.gain.toInt
  gain_nonneg : ∀ s ∈ stows, 0 ≤ s.gain.toInt

namespace Declining

variable {s : Stow} {rest : List Stow}

lemma tail (h : Declining (s :: rest)) : Declining rest :=
  ⟨h.sorted.of_cons, fun _ ht => h.gain_nonneg _ (List.mem_cons_of_mem _ ht)⟩

lemma nextGain_nonneg {stows : List Stow} (h : Declining stows) :
    0 ≤ (nextGain stows).toInt := by
  cases stows with
  | nil => exact le_rfl
  | cons s rest => exact h.gain_nonneg s List.mem_cons_self

lemma nextGain_le (h : Declining (s :: rest)) : (nextGain rest).toInt ≤ s.gain.toInt := by
  cases rest with
  | nil => exact h.gain_nonneg s List.mem_cons_self
  | cons t rest => exact List.rel_of_pairwise_cons h.sorted List.mem_cons_self

end Declining

namespace Choice

variable {c d : Choice} {s : Stow} {rest : List Stow} {quantity : Nat}

lemma room_le_space (c : Choice) (s : Stow) : c.room s ≤ c.space :=
  (Nat.min_le_left _ _).trans (Nat.min_le_right _ _)

lemma le_bound (c : Choice) {next : Int} (hnext : 0 ≤ next) :
    c.totals.gain ≤ c.bound next := by
  have hfill : 0 ≤ c.space * next := mul_nonneg (Int.natCast_nonneg _) hnext
  rw [bound]
  linarith

/-- With more of a lot and less space for the ones after it, which gain no more, the bound can only
rise. -/
lemma bound_take_mono {more : Nat} {next : Int} (hle : quantity ≤ more)
    (hspace : more ≤ c.space) (hnext : next ≤ s.gain.toInt) :
    (c.take s quantity).bound next ≤ (c.take s more).bound next := by
  obtain ⟨extra, rfl⟩ := Nat.exists_eq_add_of_le hle
  have hleft : c.space - quantity = (c.space - (quantity + extra)) + extra := by omega
  simp only [bound, take, Sums.add, hleft]
  push_cast
  have hextra : (extra : Int) * next ≤ extra * s.gain.toInt :=
    mul_le_mul_of_nonneg_left hnext (Int.natCast_nonneg extra)
  linarith

/-- Filling all space at the gain of a lot bounds what any quantity of it leaves to the next. -/
lemma bound_take_le {next : Int} (hspace : quantity ≤ c.space) (hnext : next ≤ s.gain.toInt) :
    (c.take s quantity).bound next ≤ c.bound s.gain.toInt := by
  have hfull : (c.take s c.space).bound next = c.bound s.gain.toInt := by
    simp [bound, take, Sums.add]
  exact hfull ▸ bound_take_mono hspace le_rfl hnext

namespace Leads

/-- A choice further down keeps the quantities chosen. -/
lemma exists_append (h : Leads rest c d) : ∃ more, d.quantities = more ++ c.quantities := by
  induction h with
  | stay => exact ⟨[], rfl⟩
  | @take s rest c d quantity room further ih =>
      obtain ⟨more, hmore⟩ := ih
      exact ⟨more ++ [quantity], by simp [hmore, Choice.take]⟩

lemma quantityAt_eq (h : Leads rest c d) {place : Nat} (hplace : place < c.quantities.length) :
    quantityAt d.quantities place = quantityAt c.quantities place := by
  obtain ⟨more, hmore⟩ := h.exists_append
  rw [hmore, quantityAt_append more hplace]

lemma units_le (h : Leads rest c d) : c.totals.units ≤ d.totals.units := by
  induction h with
  | stay => exact le_rfl
  | take room further ih => exact (Nat.le_add_right _ _).trans ih

/-- Without a further unit nothing changes. -/
lemma eq_of_units_eq (h : Leads rest c d) (hunits : d.totals.units = c.totals.units) :
    d.totals = c.totals ∧ quantityAt d.quantities = quantityAt c.quantities := by
  induction h with
  | stay => exact ⟨rfl, rfl⟩
  | @take s rest c d quantity room further ih =>
      obtain rfl : quantity = 0 := by
        have hle := further.units_le
        simp only [Choice.take, Sums.add] at hle
        omega
      have hsame : (c.take s 0).totals = c.totals := by simp [Choice.take, Sums.add]
      obtain ⟨htotals, hquantities⟩ := ih (hunits.trans (congrArg Sums.units hsame).symm)
      exact ⟨htotals.trans hsame, hquantities.trans (quantityAt_zero_cons c.quantities)⟩

/-- **Nothing below a choice gains more than its space filled at the gain of the next lot.** -/
lemma gain_le_bound (h : Leads rest c d) (hrest : Declining rest) :
    d.totals.gain ≤ c.bound (nextGain rest).toInt := by
  induction h with
  | stay rest c => exact c.le_bound hrest.nextGain_nonneg
  | @take s rest c d quantity room further ih =>
      have hspace : quantity ≤ c.space := room.trans (c.room_le_space s)
      exact (ih hrest.tail).trans (bound_take_le hspace hrest.nextGain_le)

/-- No space is left for a further unit. -/
lemma eq_of_space_eq_zero (h : Leads rest c d) (hspace : c.space = 0) :
    d.totals.units = c.totals.units := by
  induction h with
  | stay => rfl
  | @take s rest c d quantity room further ih =>
      obtain rfl : quantity = 0 := by
        have hle := room.trans (c.room_le_space s)
        omega
      exact (ih (by simp [Choice.take, hspace])).trans (by simp [Choice.take, Sums.add])

end Leads

end Choice

/-! ### The best load of a branch -/

namespace Found

/-- What the search of a branch makes of the best load found before: it stays, or a better one of
the branch takes its place. -/
def Advances (branch : Choice → Prop) (before after : Found) : Prop :=
  after.best = before.best ∧ after.quantities = before.quantities ∨
    ∃ d, branch d ∧ after.best = d.totals ∧ after.quantities = quantityAt d.quantities ∧
      d.totals.Better before.best

/-- The best load found is at least as good as a choice: better, or equally good with no less of the
first lot in which they differ. -/
def Covers (f : Found) (d : Choice) : Prop :=
  f.best.Better d.totals ∨ f.best = d.totals ∧
    toLex (quantityAt d.quantities) ≤ toLex f.quantities

/-- Nothing in a branch is as good as the best load found and comes before it. -/
def Foreruns (f : Found) (branch : Choice → Prop) : Prop :=
  ∀ d, branch d → f.best = d.totals →
    toLex (quantityAt d.quantities) ≤ toLex f.quantities

variable {branch other : Choice → Prop} {f f' f'' : Found} {c d : Choice}

namespace Advances

lemma refl (branch : Choice → Prop) (f : Found) : Advances branch f f := .inl ⟨rfl, rfl⟩

lemma mono (h : Advances branch f f') (hsub : ∀ d, branch d → other d) : Advances other f f' :=
  h.imp_right fun ⟨d, hd, hrest⟩ => ⟨d, hsub d hd, hrest⟩

lemma trans (h : Advances branch f f') (h' : Advances branch f' f'') : Advances branch f f'' := by
  rcases h' with ⟨hbest, hquantities⟩ | ⟨d, hd, hbest, hquantities, hbetter⟩
  · rcases h with ⟨hbest', hquantities'⟩ | ⟨d, hd, hbest', hquantities', hbetter⟩
    · exact .inl ⟨hbest.trans hbest', hquantities.trans hquantities'⟩
    · exact .inr ⟨d, hd, hbest.trans hbest', hquantities.trans hquantities', hbetter⟩
  · refine .inr ⟨d, hd, hbest, hquantities, ?_⟩
    rcases h with ⟨hsame, -⟩ | ⟨e, -, hbest', -, hbetter'⟩
    · exact hsame ▸ hbetter
    · exact (hbest' ▸ hbetter).trans hbetter'

/-- The best gain never falls. -/
lemma gain_le (h : Advances branch f f') : f.best.gain ≤ f'.best.gain := by
  rcases h with ⟨hbest, -⟩ | ⟨d, -, hbest, -, hbetter⟩
  · rw [hbest]
  · exact hbest ▸ hbetter.gain_le

/-- What was covered stays so. -/
lemma covers (h : Advances branch f f') (hd : f.Covers d) : f'.Covers d := by
  rcases h with ⟨hbest, hquantities⟩ | ⟨e, -, hbest, -, hbetter⟩
  · rw [Covers, hbest, hquantities]
    exact hd
  · refine .inl ?_
    rw [hbest]
    rcases hd with hd | ⟨hd, -⟩
    · exact hbetter.trans hd
    · exact hd ▸ hbetter

end Advances

/-- A choice that gains less is covered. -/
lemma Covers.of_gain_lt (h : d.totals.gain < f.best.gain) : f.Covers d := .inl (.inl h)

/-- Where nothing as good comes before the best load, what is not better is covered. -/
lemma Foreruns.covers (h : f.Foreruns branch) (hd : branch d) (hnot : ¬ d.totals.Better f.best) :
    f.Covers d := by
  rcases Sums.better_trichotomy f.best d.totals with hbetter | heq | hworse
  · exact .inl hbetter
  · exact .inr ⟨heq, h d hd heq⟩
  · exact absurd hworse hnot

lemma visits_visit (f : Found) (c : Choice) : (f.visit c).visits = f.visits + 1 := by
  rw [visit]
  split <;> rfl

/-- A visit keeps the better one of the best load found and the choice visited. -/
lemma visit_cases (f : Found) (c : Choice) :
    (f.visit c).best = c.totals ∧ (f.visit c).quantities = quantityAt c.quantities ∧
        c.totals.Better f.best ∨
      (f.visit c).best = f.best ∧ (f.visit c).quantities = f.quantities ∧
        ¬ c.totals.Better f.best := by
  rw [visit]
  split_ifs with h
  · exact .inl ⟨rfl, rfl, h⟩
  · exact .inr ⟨rfl, rfl, h⟩

lemma visit_advances (f : Found) {rest : List Stow} :
    Advances (Choice.Leads rest c) f (f.visit c) := by
  rcases f.visit_cases c with ⟨hbest, hquantities, hbetter⟩ | ⟨hbest, hquantities, -⟩
  · exact .inr ⟨c, .stay rest c, hbest, hquantities, hbetter⟩
  · exact .inl ⟨hbest, hquantities⟩

/-- A visited choice is not better than the best load found. -/
lemma not_better_visit (f : Found) (c : Choice) : ¬ c.totals.Better (f.visit c).best := by
  rcases f.visit_cases c with ⟨hbest, -⟩ | ⟨hbest, -, hnot⟩
  · rw [hbest]
    exact Sums.Better.irrefl _
  · rwa [hbest]

/-- A visited choice gains no more than the best load found. -/
lemma gain_le_visit (f : Found) (c : Choice) : c.totals.gain ≤ (f.visit c).best.gain :=
  not_lt.1 fun hlt => f.not_better_visit c (.inl hlt)

/-- A visit to the choice at the top of a branch comes before all others in it: what is as good has
no further unit, so that it is the same load. -/
lemma Foreruns.visit {rest : List Stow} (h : f.Foreruns (Choice.Leads rest c)) :
    (f.visit c).Foreruns (Choice.Leads rest c) := by
  intro d hd heq
  rcases f.visit_cases c with ⟨hbest, hquantities, -⟩ | ⟨hbest, hquantities, -⟩
  · have hunits : d.totals.units = c.totals.units := by rw [← heq, hbest]
    rw [hquantities, (hd.eq_of_units_eq hunits).2]
  · rw [hquantities]
    exact h d hd (hbest ▸ heq)

end Found

/-! ### The search of a branch -/

section Search

variable {s : Stow} {rest : List Stow} {c : Choice}

/-- What quantities of a lot, up to some one, and the lots after it lead to. -/
def Choice.LeadsBy (s : Stow) (rest : List Stow) (c : Choice) (most : Nat) (d : Choice) : Prop :=
  ∃ quantity ≤ most, Choice.Leads rest (c.take s quantity) d

lemma tryChoices_advances {deeper : Choice → Found → Found} {next : Int}
    (hdeeper : ∀ c f, Found.Advances (Choice.Leads rest c) f (deeper c f)) :
    ∀ (quantity : Nat) (f : Found), Found.Advances (Choice.LeadsBy s rest c quantity) f
      (tryChoices deeper next s c quantity f)
  | 0, f => by
      rw [tryChoices]
      split_ifs
      · exact .refl _ f
      · exact (hdeeper (c.take s 0) f).mono fun d hd => ⟨0, le_rfl, hd⟩
  | quantity + 1, f => by
      rw [tryChoices]
      split_ifs
      · exact .refl _ f
      · have hfirst : Found.Advances (Choice.LeadsBy s rest c (quantity + 1)) f
            (deeper (c.take s (quantity + 1)) f) :=
          (hdeeper _ f).mono fun d hd => ⟨_, le_rfl, hd⟩
        refine hfirst.trans ((tryChoices_advances hdeeper quantity _).mono ?_)
        rintro d ⟨q, hq, hd⟩
        exact ⟨q, hq.trans (Nat.le_succ quantity), hd⟩

/-- After the visit to the top of a branch the best load stays, or a better one of the branch takes
its place. -/
lemma explore_advances_visit : ∀ (rest : List Stow) (c : Choice) (f : Found),
    Found.Advances (Choice.Leads rest c) (f.visit c) (explore rest c f)
  | [], c, f => .refl _ _
  | s :: rest, c, f => by
      rw [explore]
      split_ifs
      · exact .refl _ _
      · have hdeeper : ∀ c f, Found.Advances (Choice.Leads rest c) f (explore rest c f) :=
          fun c f => f.visit_advances.trans (explore_advances_visit rest c f)
        refine (tryChoices_advances hdeeper (c.room s) _).mono ?_
        rintro d ⟨quantity, hroom, hd⟩
        exact .take hroom hd

/-- **The best load found stays, or a better one of the branch takes its place**, whether or not the
visits last. -/
lemma explore_advances (rest : List Stow) (c : Choice) (f : Found) :
    Found.Advances (Choice.Leads rest c) f (explore rest c f) :=
  f.visit_advances.trans (explore_advances_visit rest c f)

lemma visits_le_tryChoices {deeper : Choice → Found → Found} {next : Int}
    (hdeeper : ∀ c f, f.visits ≤ (deeper c f).visits) :
    ∀ (quantity : Nat) (f : Found),
      f.visits ≤ (tryChoices deeper next s c quantity f).visits
  | 0, f => by
      rw [tryChoices]
      split_ifs
      · exact le_rfl
      · exact hdeeper _ f
  | quantity + 1, f => by
      rw [tryChoices]
      split_ifs
      · exact le_rfl
      · exact (hdeeper _ f).trans (visits_le_tryChoices hdeeper quantity _)

/-- Visits are only ever added. -/
lemma visits_le_explore : ∀ (rest : List Stow) (c : Choice) (f : Found),
    f.visits ≤ (explore rest c f).visits
  | [], c, f => (Nat.le_succ _).trans_eq (f.visits_visit c).symm
  | s :: rest, c, f => by
      have hvisit : f.visits ≤ (f.visit c).visits :=
        (Nat.le_succ _).trans_eq (f.visits_visit c).symm
      rw [explore]
      split_ifs
      · exact hvisit
      · exact hvisit.trans (visits_le_tryChoices (visits_le_explore rest) _ _)

/-- After more of a lot has been tried, nothing with less of it comes before the best load. -/
lemma Found.Foreruns.after_more {f f' : Found} {quantity more : Nat}
    (h : f.Foreruns (Choice.Leads rest (c.take s quantity))) (hlt : quantity < more)
    (hf : Found.Advances (Choice.Leads rest (c.take s more)) f f') :
    f'.Foreruns (Choice.Leads rest (c.take s quantity)) := by
  intro e he heq
  rcases hf with ⟨hbest, hquantities⟩ | ⟨d, hd, -, hquantities, -⟩
  · rw [hquantities]
    exact h e he (hbest ▸ heq)
  · rw [hquantities]
    refine le_of_lt ⟨c.quantities.length, fun place hplace => ?_, ?_⟩
    · calc quantityAt e.quantities place
          = quantityAt (quantity :: c.quantities) place :=
            he.quantityAt_eq (Nat.lt_succ_of_lt hplace)
        _ = quantityAt (more :: c.quantities) place := by
          rw [quantityAt_cons quantity hplace, quantityAt_cons more hplace]
        _ = quantityAt d.quantities place := (hd.quantityAt_eq (Nat.lt_succ_of_lt hplace)).symm
    · calc quantityAt e.quantities c.quantities.length
          = quantityAt (quantity :: c.quantities) c.quantities.length :=
            he.quantityAt_eq (Nat.lt_succ_self _)
        _ = quantity := quantityAt_cons_length quantity c.quantities
        _ < more := hlt
        _ = quantityAt (more :: c.quantities) c.quantities.length :=
          (quantityAt_cons_length more c.quantities).symm
        _ = quantityAt d.quantities c.quantities.length :=
          (hd.quantityAt_eq (Nat.lt_succ_self _)).symm

/-- Trying quantities of a lot covers what they lead to, if going deeper does so for each of them
while the visits last. -/
lemma tryChoices_covers (hrest : Declining (s :: rest))
    (hdeeper : ∀ (c : Choice) (f : Found), (explore rest c f).visits ≤ visitBudget →
      f.Foreruns (Choice.Leads rest c) → ∀ d, Choice.Leads rest c d → (explore rest c f).Covers d) :
    ∀ (quantity : Nat) (f : Found), quantity ≤ c.space →
      (tryChoices (explore rest) (nextGain rest).toInt s c quantity f).visits ≤ visitBudget →
      (∀ q ≤ quantity, f.Foreruns (Choice.Leads rest (c.take s q))) →
      ∀ d, Choice.LeadsBy s rest c quantity d →
        (tryChoices (explore rest) (nextGain rest).toInt s c quantity f).Covers d
  | 0, f, _, hvisits, hfore, d, ⟨q, hq, hd⟩ => by
      obtain rfl := Nat.le_zero.1 hq
      rw [tryChoices] at hvisits ⊢
      split_ifs at hvisits ⊢ with hbound
      · exact .of_gain_lt ((hd.gain_le_bound hrest.tail).trans_lt hbound)
      · exact hdeeper _ f hvisits (hfore 0 le_rfl) d hd
  | quantity + 1, f, hspace, hvisits, hfore, d, ⟨q, hq, hd⟩ => by
      rw [tryChoices] at hvisits ⊢
      split_ifs at hvisits ⊢ with hbound
      · -- the bound falls with the quantity, so that no smaller one needs to be tried
        have hsmaller := Choice.bound_take_mono hq hspace hrest.nextGain_le
        exact .of_gain_lt (((hd.gain_le_bound hrest.tail).trans hsmaller).trans_lt hbound)
      · have hadvances := explore_advances rest (c.take s (quantity + 1)) f
        have hvisits' := (visits_le_tryChoices (visits_le_explore rest) _ _).trans hvisits
        rcases Nat.le_succ_iff.1 hq with hless | rfl
        · have hfore' : ∀ q ≤ quantity,
              (explore rest (c.take s (quantity + 1)) f).Foreruns
                (Choice.Leads rest (c.take s q)) := fun q hq =>
            (hfore q (Nat.le_succ_of_le hq)).after_more (Nat.lt_succ_of_le hq) hadvances
          exact tryChoices_covers hrest hdeeper quantity _ (Nat.le_of_succ_le hspace) hvisits
            hfore' d ⟨q, hless, hd⟩
        · have hcovered := hdeeper _ f hvisits' (hfore _ le_rfl) d hd
          exact (tryChoices_advances (explore_advances rest) quantity _).covers hcovered

/-- **A search whose visits last covers its branch**: its best load is at least as good as each
choice there, as long as none that comes before the best load so far is as good. -/
theorem explore_covers : ∀ {rest : List Stow} {c : Choice} {f : Found}, Declining rest →
    (explore rest c f).visits ≤ visitBudget → f.Foreruns (Choice.Leads rest c) →
      ∀ d, Choice.Leads rest c d → (explore rest c f).Covers d
  | [], c, f, _, _, hfore, _, .stay _ _ => hfore.visit.covers (.stay [] c) (f.not_better_visit c)
  | s :: rest, c, f, hrest, hvisits, hfore, d, hd => by
      have hvisit : (f.visit c).Covers c := hfore.visit.covers (.stay _ c) (f.not_better_visit c)
      rw [explore] at hvisits ⊢
      split_ifs at hvisits ⊢ with hleft
      · rcases hleft with hfull | hspent | hbound
        · -- without space every choice below is the one visited
          have hsame := (hd.eq_of_units_eq (hd.eq_of_space_eq_zero hfull)).1
          exact hfore.visit.covers hd (hsame ▸ f.not_better_visit c)
        · exact absurd hvisits (Nat.not_le.2 hspent)
        · exact .of_gain_lt ((hd.gain_le_bound hrest).trans_lt hbound)
      · cases hd with
        | stay => exact (tryChoices_advances (explore_advances rest) _ _).covers hvisit
        | @take _ _ _ _ quantity room further =>
            refine tryChoices_covers hrest (fun c f hvisits hfore d hd => ?_) _ _
              (c.room_le_space s) hvisits (fun q hq e he => ?_) d ⟨quantity, room, further⟩
            · exact explore_covers hrest.tail hvisits hfore d hd
            · exact hfore.visit e (.take hq he)

end Search

end TradeRun.Cargo
