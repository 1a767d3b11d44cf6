import Mathlib.Tactic
import TradeRun.Cargo.Fit

/-!
Amounts of money as whole numbers.

An amount has 64 bits, and sums and products of amounts wrap around. What is proved of money is
proved of whole numbers, so that each calculation with amounts is first shown to be the one with
whole numbers.

* `Credits.Fits`: the whole numbers that are amounts;
* `Credits.Counts`: an amount that counts a whole number, modulo `2 ^ 64`. It is that number if the
  number fits;
* `Credits.toInt_add_mul`, `Credits.toInt_sub_mul`: units of a lot added to an amount and paid out
  of it, where the result fits;
* `Credits.sub_pos_iff`: when a difference is positive, as it also is far below the 64 bits;
* `Credits.compare_eq`: amounts compare as whole numbers;
* `toInt_reducedGain`: a gain less the margin is the whole number below it;
* `Trade.counts_gainOf`, `Trade.counts_costOf`: what is summed over trades counts the sum;
* `Cargo.le_affordable_iff`: the units that some money buys.
-/

namespace TradeRun

namespace Credits

/-- The whole numbers that are amounts. -/
def Fits (n : Int) : Prop := -2 ^ 63 ≤ n ∧ n < 2 ^ 63
deriving Decidable

lemma fits_toInt (a : Credits) : Fits a.toInt := ⟨a.le_toInt, a.toInt_lt⟩

/-- What lies between two numbers that fit does so too. -/
lemma Fits.mono {m n k : Int} (hm : Fits m) (hk : Fits k) (hmn : m ≤ n) (hnk : n ≤ k) : Fits n :=
  ⟨hm.1.trans hmn, hnk.trans_lt hk.2⟩

lemma toInt_ofInt {n : Int} (h : Fits n) : (Int64.ofInt n).toInt = n :=
  Int64.toInt_ofInt_of_le h.1 h.2

/-- An amount counts a whole number: modulo `2 ^ 64`, so that it is that number if the number
fits. -/
structure Counts (a : Credits) (n : Int) : Prop where
  eq_ofInt : a = .ofInt n
  toInt_eq : Fits n → a.toInt = n

lemma counts_ofInt (n : Int) : Counts (.ofInt n) n := ⟨rfl, toInt_ofInt⟩

lemma counts_toInt (a : Credits) : Counts a a.toInt := ⟨a.ofInt_toInt.symm, fun _ => rfl⟩

namespace Counts

variable {a b : Credits} {m n : Int}

lemma of_eq (h : a = .ofInt n) : Counts a n := h ▸ counts_ofInt n

lemma add (ha : Counts a m) (hb : Counts b n) : Counts (a + b) (m + n) :=
  .of_eq (by rw [ha.eq_ofInt, hb.eq_ofInt, Int64.ofInt_add])

lemma sub (ha : Counts a m) (hb : Counts b n) : Counts (a - b) (m - n) :=
  .of_eq (by rw [ha.eq_ofInt, hb.eq_ofInt, Int64.ofInt_sub])

lemma mul (ha : Counts a m) (hb : Counts b n) : Counts (a * b) (m * n) :=
  .of_eq (by rw [ha.eq_ofInt, hb.eq_ofInt, Int64.ofInt_mul])

end Counts

lemma counts_ofNat (n : Nat) : Counts (.ofNat n) n := .of_eq Int64.ofInt_eq_ofNat.symm

/-- A sum of amounts counts the sum of what they count. -/
lemma counts_sum {α : Type} {amount : α → Credits} {number : α → Int} (as : List α)
    (h : ∀ a, Counts (amount a) (number a)) : Counts (as.map amount).sum (as.map number).sum := by
  induction as with
  | nil => exact counts_ofInt 0
  | cons a as ih => simpa using (h a).add ih

variable {a b : Credits} {quantity : Nat}

lemma mul_toInt_nonneg (quantity : Nat) (h : 0 < a) : 0 ≤ quantity * a.toInt :=
  mul_nonneg (Int.natCast_nonneg _) (Int64.lt_iff_toInt_lt.1 h).le

/-- Units added to an amount, where the sum fits. -/
lemma toInt_add_mul (h : Fits (a.toInt + quantity * b.toInt)) :
    (a + .ofNat quantity * b).toInt = a.toInt + quantity * b.toInt :=
  ((counts_toInt a).add ((counts_ofNat quantity).mul (counts_toInt b))).toInt_eq h

/-- Units paid out of an amount, where what is left fits. -/
lemma toInt_sub_mul (h : Fits (a.toInt - quantity * b.toInt)) :
    (a - .ofNat quantity * b).toInt = a.toInt - quantity * b.toInt :=
  ((counts_toInt a).sub ((counts_ofNat quantity).mul (counts_toInt b))).toInt_eq h

/-- A difference that fits. -/
lemma toInt_sub_of_fits (h : Fits (a.toInt - b.toInt)) : (a - b).toInt = a.toInt - b.toInt :=
  ((counts_toInt a).sub (counts_toInt b)).toInt_eq h

lemma one_le_iff : 1 ≤ a ↔ 0 < a := by
  rw [Int64.le_iff_toInt_le, Int64.lt_iff_toInt_lt, Int64.toInt_one, Int64.toInt_zero]
  exact Iff.rfl

/-- What is left of an amount after a positive one is positive if it is the greater one, but also if
the difference is too far below zero for an amount. -/
lemma sub_pos_iff (hb : 0 < b) : 0 < a - b ↔ b < a ∨ a.toInt - b.toInt < -2 ^ 63 := by
  have hb' : 0 < b.toInt := Int64.lt_iff_toInt_lt.1 hb
  have ha := a.toInt_lt
  rw [Int64.lt_iff_toInt_lt, Int64.lt_iff_toInt_lt, Int64.toInt_zero]
  by_cases hfits : -2 ^ 63 ≤ a.toInt - b.toInt
  · rw [toInt_sub_of_fits ⟨hfits, by omega⟩]
    omega
  · have hsum : (a - b).toInt = a.toInt - b.toInt + 2 ^ 64 := by
      have hmin := a.le_toInt
      have hmax := b.toInt_lt
      rw [Int64.toInt_sub, Int.bmod_eq_emod]
      split_ifs <;> omega
    have hmin := a.le_toInt
    have hmax := b.toInt_lt
    rw [hsum]
    omega

/-- Amounts compare as whole numbers. -/
lemma compare_eq (a b : Credits) : compare a b = compare a.toInt b.toInt := by
  rcases lt_trichotomy a.toInt b.toInt with h | h | h
  · rw [compare_lt_iff_lt.2 h, Std.compare_eq_lt.2 (Int64.lt_iff_toInt_lt.2 h)]
  · rw [Int64.toInt_inj.1 h, Std.compare_self, Std.compare_self]
  · rw [compare_gt_iff_gt.2 h, Std.compare_eq_gt.2 (Int64.lt_iff_toInt_lt.2 h)]

/-- The greater one of two amounts is one of them, and both are at most what it is at most. -/
instance : Std.LawfulOrderMax Credits where
  max_eq_or a b := by
    change (if a ≤ b then b else a) = a ∨ (if a ≤ b then b else a) = b
    split <;> simp
  max_le_iff a b c := by
    change (if a ≤ b then b else a) ≤ c ↔ _
    have htotal := Int64.le_total a b
    split <;> grind

/-- The whole number below a double, held to 64 bits, is an amount. -/
lemma fits_floorInt (x : Float) : Fits (Binary.floorInt x) := by
  rw [Binary.floorInt]
  split
  case h_5 s m e _ _ =>
    exact ⟨le_max_left _ _, max_lt (by decide) ((min_le_left _ _).trans_lt (by decide))⟩
  all_goals decide

end Credits

/-- The gain that is counted on is the whole number below the share of the gain that is left. -/
lemma toInt_reducedGain (margin : Float) (gain : Credits) :
    (reducedGain margin gain).toInt =
      Binary.floorInt (Float.ofInt gain.toInt * (1.0 - margin)) :=
  Credits.toInt_ofInt (Credits.fits_floorInt _)

/-! ### Sums over trades -/

namespace Trade

open Credits (Counts)

/-- The gain on all units as a whole number. -/
def wholeGain (t : Trade) : Int := t.quantity * t.gain.toInt

/-- The price of all units as a whole number. -/
def wholeCost (t : Trade) : Int := t.quantity * t.cost.toInt

lemma counts_totalGain (t : Trade) : Counts t.totalGain t.wholeGain := by
  rw [totalGain, Int64.mul_comm]
  exact (Credits.counts_ofNat _).mul (Credits.counts_toInt _)

/-- The gain of a list of trades counts the sum of their gains. -/
lemma counts_gainOf (trades : List Trade) : Counts (gainOf trades) (trades.map wholeGain).sum :=
  Credits.counts_sum trades counts_totalGain

lemma unitsOf_eq_sum (trades : List Trade) : unitsOf trades = (trades.map quantity).sum := rfl

end Trade

/-! ### What money buys -/

namespace Cargo

variable {money price : Credits} {quantity : Nat}

/-- The units that some money buys are those that can be paid for. -/
lemma le_affordable_iff (hmoney : 0 ≤ money) (hprice : 0 < price) :
    quantity ≤ affordable money price ↔ quantity * price.toInt ≤ money.toInt := by
  have hmoney' : 0 ≤ money.toInt := Int64.le_iff_toInt_le.1 hmoney
  have hprice' : 0 < price.toInt := Int64.lt_iff_toInt_lt.1 hprice
  have hdiv : (money / price).toInt = money.toInt / price.toInt := by
    rw [Int64.toInt_div_of_ne_right _ _ (by rintro rfl; exact absurd hprice (by decide)),
      Int.tdiv_eq_ediv_of_nonneg hmoney']
  rw [affordable, ← Int64.toNat_toInt, hdiv, Int.le_toNat (Int.ediv_nonneg hmoney' hprice'.le),
    Int.le_ediv_iff_mul_le hprice']

/-- Money buys a unit just when it reaches the price. -/
lemma affordable_pos_iff (hprice : 0 < price) : 0 < affordable money price ↔ price ≤ money := by
  have hprice' : 0 < price.toInt := Int64.lt_iff_toInt_lt.1 hprice
  by_cases hmoney : 0 ≤ money
  · have hone : 1 ≤ affordable money price ↔ _ := le_affordable_iff hmoney hprice
    rwa [Nat.cast_one, one_mul, ← Int64.le_iff_toInt_le] at hone
  · -- debts buy nothing: the quotient is not positive
    have hdebt : money.toInt < 0 := Int64.lt_iff_toInt_lt.1 (Int64.not_le.1 hmoney)
    have hnone : affordable money price = 0 := by
      rw [affordable, ← Int64.toNat_toInt, Int.toNat_eq_zero,
        Int64.toInt_div_of_ne_right _ _ (by rintro rfl; exact absurd hprice (by decide)),
        ← neg_neg money.toInt, Int.neg_tdiv, Int.tdiv_eq_ediv_of_nonneg (by omega),
        neg_nonpos]
      exact Int.ediv_nonneg (by omega) hprice'.le
    rw [hnone, Int64.le_iff_toInt_le]
    omega

/-- What some money buys can be paid for, also if it costs nothing. -/
lemma mul_le_of_le_affordable (hmoney : 0 ≤ money) (h : quantity ≤ affordable money price) :
    quantity * price.toInt ≤ money.toInt := by
  by_cases hprice : 0 < price
  · exact (le_affordable_iff hmoney hprice).1 h
  · have hfree : price.toInt ≤ 0 := not_lt.1 fun hpos => hprice (Int64.lt_iff_toInt_lt.2 hpos)
    exact (mul_nonpos_of_nonneg_of_nonpos (Int.natCast_nonneg _) hfree).trans
      (Int64.le_iff_toInt_le.1 hmoney)

end Cargo

end TradeRun
