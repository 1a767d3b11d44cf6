import TradeRun.Proofs.Cargo.Bookkeeping

/-!
The search for a load over whole numbers.

The search counts in amounts of 64 bits, and all its branches try their quantities in one list. What
it finds is told more easily of a search in which sums are whole numbers and each branch has
quantities of its own. The two are the same as long as nothing that the search adds up leaves the
64 bits.

* `Sums`, `Sums.Better`: totals as whole numbers and their order;
* `Choice`: a place in the search with the quantities that lead there, `Found`: the best load found;
* `explore`: branch and bound over choices;
* `Node.whole`, `Tally.whole`: the choice and the best load that a place and a record stand for;
* `Node.Modest`: filling the space that is left at the greatest gain of all lots gains an amount;
* `whole_descend`: **the search of a branch finds what the search over whole numbers finds**, if
  the books of the place are in order and its gains are modest.
-/

namespace TradeRun.Cargo

/-! ### Sums -/

/-- The totals of a load as whole numbers. -/
structure Sums where
  gain : Int := 0
  cost : Int := 0
  units : Nat := 0
deriving DecidableEq

namespace Sums

/-- More gain is better, then less cost, then fewer units. -/
def Better (a b : Sums) : Prop :=
  b.gain < a.gain ∨ a.gain = b.gain ∧
    (a.cost < b.cost ∨ a.cost = b.cost ∧ a.units < b.units)

instance : DecidableRel Better := fun _ _ => inferInstanceAs (Decidable (_ ∨ _))

/-- The sums with more units of a lot. -/
def add (t : Sums) (s : Stow) (quantity : Nat) : Sums :=
  { gain := t.gain + quantity * s.gain.toInt
    cost := t.cost + quantity * s.cost.toInt
    units := t.units + quantity }

end Sums

/-- Totals as whole numbers. -/
def Totals.whole (t : Totals) : Sums := ⟨t.gain.toInt, t.cost.toInt, t.units⟩

/-- Totals are better in the order of amounts just when they are in that of whole numbers. -/
lemma Totals.compare_eq_gt {a b : Totals} : a.compare b = .gt ↔ a.whole.Better b.whole := by
  simp only [compare, Ordering.then_eq_gt, Credits.compare_eq, compare_gt_iff_gt,
    compare_eq_iff_eq, Sums.Better, whole, eq_comm (a := b.cost.toInt)]

/-! ### The search -/

/-- A choice of quantities for the lots before some place, and what it leaves. -/
structure Choice where
  /-- The quantities, the last lot's first. -/
  quantities : List Nat
  space : Nat
  credits : Int
  totals : Sums

namespace Choice

/-- The choice before the first lot. -/
def start (limits : Limits) : Choice := ⟨[], limits.capacity, limits.credits.toInt, {}⟩

/-- The choice with a quantity of one more lot. -/
def take (c : Choice) (s : Stow) (quantity : Nat) : Choice :=
  { quantities := quantity :: c.quantities
    space := c.space - quantity
    credits := c.credits - quantity * s.cost.toInt
    totals := c.totals.add s quantity }

/-- What a choice could gain if all its space were filled at some gain. -/
def bound (c : Choice) (gain : Int) : Int := c.totals.gain + c.space * gain

/-- The most units of a lot for which a choice leaves space and money. -/
def room (c : Choice) (s : Stow) : Nat :=
  min (min s.most c.space) (c.credits / s.cost.toInt).toNat

end Choice

/-- The quantity of the lot at some place, where the last lot's quantity comes first. Nothing is
loaded of lots beyond. -/
def quantityAt (quantities : List Nat) (place : Nat) : Nat := quantities.reverse.getD place 0

/-- The best load found so far, and how many visits were made. -/
structure Found where
  best : Sums := {}
  /-- The quantities of the best load, lot by lot. -/
  quantities : Nat → Nat := fun _ => 0
  visits : Nat := 0

/-- Counts a visit, and keeps the choice if it is better than the best load found. -/
def Found.visit (f : Found) (c : Choice) : Found :=
  let counted := { f with visits := f.visits + 1 }
  if c.totals.Better f.best then
    { counted with best := c.totals, quantities := quantityAt c.quantities }
  else counted

/-- Tries the quantities of a lot from the given one downwards, as long as the bound on what the
later lots could add reaches the best gain. -/
def tryChoices (deeper : Choice → Found → Found) (next : Int) (s : Stow) (c : Choice) :
    Nat → Found → Found
  | 0, f => if (c.take s 0).bound next < f.best.gain then f else deeper (c.take s 0) f
  | quantity + 1, f =>
    if (c.take s (quantity + 1)).bound next < f.best.gain then f
    else tryChoices deeper next s c quantity (deeper (c.take s (quantity + 1)) f)

/-- Visits a choice and everything that the remaining lots can add to it. -/
def explore : List Stow → Choice → Found → Found
  | [], c, f => f.visit c
  | s :: rest, c, f =>
    let found := f.visit c
    if c.space = 0 ∨ visitBudget < found.visits ∨ c.bound s.gain.toInt < found.best.gain then found
    else tryChoices (explore rest) (nextGain rest).toInt s c (c.room s) found

/-! ### What places and records stand for -/

/-- The choice that a place stands for. -/
def Node.whole (n : Node) (chosen : List Nat) : Choice :=
  ⟨chosen, n.space, n.credits.toInt, n.totals.whole⟩

/-- The best load that a record stands for. -/
def Tally.whole (t : Tally) : Found :=
  { best := t.best.whole
    quantities := fun place => t.bestQuantities.getD place 0
    visits := t.visits }

/-- Of the lots that are left nothing is loaded. -/
lemma getD_spread (chosen : List Nat) (left place : Nat) :
    (spread chosen left).getD place 0 = quantityAt chosen place := by
  simp only [spread, quantityAt, List.getD_eq_getElem?_getD, List.getElem?_append,
    List.getElem?_replicate]
  split_ifs with hplace hleft
  · rfl
  · simp [List.getElem?_eq_none (not_lt.1 hplace)]
  · simp [List.getElem?_eq_none (not_lt.1 hplace)]

lemma Tally.whole_put (t : Tally) (index quantity : Nat) :
    (t.put index quantity).whole = t.whole := rfl

/-- A visit to a place is one to its choice. -/
lemma Tally.whole_visit {t : Tally} {chosen : List Nat} {left : Nat} (n : Node)
    (h : t.quantities = spread chosen left) :
    (t.visit n.totals).whole = t.whole.visit (n.whole chosen) := by
  simp only [Tally.visit, Found.visit, Totals.compare_eq_gt]
  -- the branches of the two visits are told apart by one test
  change Tally.whole (if n.totals.whole.Better t.best.whole then _ else _)
    = if n.totals.whole.Better t.best.whole then _ else _
  split
  · simp only [Tally.whole, h, getD_spread]
    rfl
  · rfl

/-- The place from which only so much space is left that filling it at some gain, on top of what is
gained already, gains an amount. -/
structure Node.Modest (most : Int) (n : Node) : Prop where
  gain_nonneg : 0 ≤ n.totals.gain.toInt
  fill_lt : n.totals.gain.toInt + n.space * most < 2 ^ 63

/-- Lots that lose nothing, and gain no more than some gain. -/
structure Moderate (most : Int) (stows : List Stow) : Prop where
  most_nonneg : 0 ≤ most
  gain_nonneg : ∀ s ∈ stows, 0 ≤ s.gain.toInt
  gain_le : ∀ s ∈ stows, s.gain.toInt ≤ most

namespace Moderate

variable {most : Int} {s : Stow} {rest : List Stow}

lemma tail (h : Moderate most (s :: rest)) : Moderate most rest where
  most_nonneg := h.most_nonneg
  gain_nonneg := fun t ht => h.gain_nonneg t (List.mem_cons_of_mem s ht)
  gain_le := fun t ht => h.gain_le t (List.mem_cons_of_mem s ht)

lemma nextGain_nonneg (h : Moderate most rest) : 0 ≤ (nextGain rest).toInt := by
  cases rest with
  | nil => rfl
  | cons t rest => exact h.gain_nonneg t List.mem_cons_self

lemma nextGain_le (h : Moderate most rest) : (nextGain rest).toInt ≤ most := by
  cases rest with
  | nil => exact h.most_nonneg
  | cons t rest => exact h.gain_le t List.mem_cons_self

end Moderate

namespace Node

variable {most : Int} {n : Node} {s : Stow} {quantity : Nat} {next : Credits}

/-- The bound of a modest place is a whole number. -/
lemma Modest.whole_bound (h : n.Modest most) (chosen : List Nat) (hnonneg : 0 ≤ next.toInt)
    (hle : next.toInt ≤ most) : (n.bound next).toInt = (n.whole chosen).bound next.toInt := by
  have hgain := h.gain_nonneg
  have hfill := h.fill_lt
  have hspace : 0 ≤ n.space * next.toInt := mul_nonneg (Int.natCast_nonneg _) hnonneg
  have hmost : n.space * next.toInt ≤ n.space * most :=
    mul_le_mul_of_nonneg_left hle (Int.natCast_nonneg _)
  exact Credits.toInt_add_mul ⟨by linarith, by linarith⟩

/-- Units for which there is space gain a whole number. -/
lemma Modest.toInt_gain_take (h : n.Modest most) (hspace : quantity ≤ n.space)
    (hnonneg : 0 ≤ s.gain.toInt) (hle : s.gain.toInt ≤ most) :
    (n.take s quantity).totals.gain.toInt = n.totals.gain.toInt + quantity * s.gain.toInt := by
  have hgain := h.gain_nonneg
  have hfill := h.fill_lt
  have hunits : 0 ≤ quantity * s.gain.toInt := mul_nonneg (Int.natCast_nonneg _) hnonneg
  have hmost : quantity * s.gain.toInt ≤ n.space * most :=
    mul_le_mul (Int.ofNat_le.2 hspace) hle hnonneg (Int.natCast_nonneg _)
  exact Credits.toInt_add_mul ⟨by linarith, by linarith⟩

/-- Units for which there is space keep a place modest. -/
lemma Modest.take (h : n.Modest most) (hspace : quantity ≤ n.space) (hnonneg : 0 ≤ s.gain.toInt)
    (hle : s.gain.toInt ≤ most) : (n.take s quantity).Modest most := by
  have hgain := h.toInt_gain_take hspace hnonneg hle
  have hunits : 0 ≤ quantity * s.gain.toInt := mul_nonneg (Int.natCast_nonneg _) hnonneg
  have hmost : quantity * s.gain.toInt ≤ quantity * most :=
    mul_le_mul_of_nonneg_left hle (Int.natCast_nonneg _)
  have hnonneg' := h.gain_nonneg
  have hfill := h.fill_lt
  refine ⟨by rw [hgain]; linarith, ?_⟩
  have hleft : ((n.take s quantity).space : Int) = n.space - quantity := Int.ofNat_sub hspace
  rw [hgain, hleft, sub_mul]
  linarith

variable {limits : Limits} {first : List Stow} {chosen : List Nat}

/-- There is as much room at a place as its choice leaves. -/
lemma whole_room (hn : 0 ≤ n.credits) (hcost : 0 < s.cost) :
    n.room s = (n.whole chosen).room s := by
  have haffordable : affordable n.credits s.cost = (n.credits.toInt / s.cost.toInt).toNat := by
    refine eq_of_forall_le_iff fun quantity => ?_
    have hcost' := Int64.lt_iff_toInt_lt.1 hcost
    rw [le_affordable_iff hn hcost, Int.le_toNat (Int.ediv_nonneg (Int64.le_iff_toInt_le.1 hn)
      (by simpa using hcost'.le)), Int.le_ediv_iff_mul_le (by simpa using hcost')]
  rw [room, haffordable]
  rfl

/-- A place after units for which there is room stands for the choice with them. -/
lemma Settled.whole_take (h : n.Settled limits first chosen) (hmodest : n.Modest most)
    (hcost : 0 < s.cost) (hnonneg : 0 ≤ s.gain.toInt) (hle : s.gain.toInt ≤ most)
    (hroom : quantity ≤ n.room s) :
    (n.take s quantity).whole (quantity :: chosen) = (n.whole chosen).take s quantity := by
  have hgain := hmodest.toInt_gain_take (hroom.trans (n.room_le_space s)) hnonneg hle
  have htotal := h.toInt_cost_take hcost hroom
  have hcredits := toInt_credits_take h.credits_nonneg hcost hroom
  simp only [whole, Totals.whole, hgain, htotal, hcredits]
  rfl

end Node

/-! ### The same search -/

section Search

variable {limits : Limits} {most : Int} {rest first : List Stow} {s : Stow} {chosen : List Nat}
  {n : Node}

/-- Trying quantities for which there is room finds what the search over whole numbers finds, if
going deeper does so for each of them. -/
lemma whole_tryQuantities (hcost : 0 < s.cost) (hgains : Moderate most (s :: rest))
    (hn : n.Settled limits first chosen) (hmodest : n.Modest most)
    (hdeeper : ∀ q ≤ n.room s, ∀ t : Tally, t.quantities = spread (q :: chosen) rest.length →
      (descend rest (chosen.length + 1) (n.take s q) t).whole
        = explore rest ((n.take s q).whole (q :: chosen)) t.whole) :
    ∀ {quantity : Nat} {t : Tally}, quantity ≤ n.room s → t.Tries chosen rest.length →
      (tryQuantities (descend rest (chosen.length + 1)) (nextGain rest) s chosen.length n quantity
          t).whole
        = tryChoices (explore rest) (nextGain rest).toInt s (n.whole chosen) quantity t.whole := by
  have hnonneg := hgains.gain_nonneg s List.mem_cons_self
  have hle := hgains.gain_le s List.mem_cons_self
  have htake {q : Nat} (hq : q ≤ n.room s) :
      (n.take s q).whole (q :: chosen) = (n.whole chosen).take s q :=
    hn.whole_take hmodest hcost hnonneg hle hq
  -- the two searches break off at the same quantity
  have hbound {q : Nat} (hq : q ≤ n.room s) (t : Tally) :
      (n.take s q).bound (nextGain rest) < t.best.gain
        ↔ ((n.whole chosen).take s q).bound (nextGain rest).toInt < t.whole.best.gain := by
    have hspace := hq.trans (n.room_le_space s)
    rw [Int64.lt_iff_toInt_lt, (hmodest.take hspace hnonneg hle).whole_bound (q :: chosen)
      hgains.tail.nextGain_nonneg hgains.tail.nextGain_le, htake hq]
    rfl
  intro quantity
  induction quantity with
  | zero =>
      intro t hq ht
      simp only [tryQuantities, tryChoices, hbound hq t]
      split
      · rfl
      · rw [hdeeper 0 hq _ (ht.put 0), htake hq, Tally.whole_put]
  | succ quantity ih =>
      intro t hq ht
      simp only [tryQuantities, tryChoices, hbound hq t]
      split
      · rfl
      · rw [ih (by omega) ⟨quantity + 1, ?_⟩, hdeeper _ hq _ (ht.put _), htake hq, Tally.whole_put]
        exact quantities_descend ((quantity + 1) :: chosen) (ht.put _)

/-- **The search of a branch finds what the search over whole numbers finds.** -/
theorem whole_descend : ∀ {rest first : List Stow} (chosen : List Nat) {n : Node} {t : Tally},
    (∀ s ∈ rest, 0 < s.cost) → Moderate most rest → n.Settled limits first chosen →
      n.Modest most → t.quantities = spread chosen rest.length →
        (descend rest chosen.length n t).whole = explore rest (n.whole chosen) t.whole
  | [], _, _, n, _, _, _, _, _, ht => Tally.whole_visit n ht
  | s :: rest, first, chosen, n, t, hcost, hgains, hn, hmodest, ht => by
      have hpos := hcost s List.mem_cons_self
      have hnonneg := hgains.gain_nonneg s List.mem_cons_self
      have hle := hgains.gain_le s List.mem_cons_self
      have hvisit := Tally.whole_visit n ht
      have hbound : n.bound s.gain < (t.visit n.totals).best.gain ↔
          (n.whole chosen).bound s.gain.toInt < (t.visit n.totals).whole.best.gain := by
        rw [Int64.lt_iff_toInt_lt, hmodest.whole_bound chosen hnonneg hle]
        rfl
      have hleft : (n.space = 0 ∨ visitBudget < (t.visit n.totals).visits ∨
            n.bound s.gain < (t.visit n.totals).best.gain)
          ↔ ((n.whole chosen).space = 0 ∨ visitBudget < (t.visit n.totals).whole.visits ∨
            (n.whole chosen).bound s.gain.toInt < (t.visit n.totals).whole.best.gain) := by
        rw [hbound]
        rfl
      have htries : (t.visit n.totals).Tries chosen rest.length := by
        refine ⟨0, ?_⟩
        rw [t.quantities_visit, ht, List.length_cons, spread_zero_cons]
      simp only [descend, explore, hleft, ← hvisit]
      split
      · rfl
      · rw [Tally.whole_put, ← Node.whole_room hn.credits_nonneg hpos]
        refine whole_tryQuantities hpos hgains hn hmodest (fun q hq t ht => ?_) le_rfl htries
        exact whole_descend (q :: chosen) (fun s hs => hcost s (by simp [hs]))
          hgains.tail (hn.take hpos hq)
          (hmodest.take (hq.trans (n.room_le_space s)) hnonneg hle) ht

end Search

end TradeRun.Cargo
