import Mathlib.Tactic
import TradeRun.Decimal.Reading
import TradeRun.Report.Credits

/-!
Amounts of money that are read back.

* `Decimal.natOfDigits?_digitsOf`, `Decimal.eq_zero_of_head?_digitsOf`: the digits of a number read
  back as the number, and a zero leads them only if the number is zero;
* `exists_groups`: digits with commas are groups of three, but for the first group, which is what is
  left over;
* `Credits.InGroups`: what stands between the commas of an amount;
* `Credits.read?`: the number that a text without commas stands for;
* `Credits.text_faithful`: **an amount can be told from either of its texts**, and they differ in
  the commas only.
-/

namespace TradeRun

/-! ### Digits -/

namespace Decimal

lemma digitsOf_ne_nil (n : Nat) : digitsOf n ≠ [] := Nat.toDigits_ne_nil

lemma isDigit_of_mem_digitsOf {n : Nat} {c : Char} (h : c ∈ digitsOf n) : c.isDigit :=
  Nat.isDigit_of_mem_toDigits (by decide) (by decide) h

/-- No sign, no comma and no letter is a digit. -/
lemma not_mem_digitsOf {c : Char} (hc : c.isDigit = false) (n : Nat) : c ∉ digitsOf n :=
  fun h => Bool.eq_false_iff.1 hc (isDigit_of_mem_digitsOf h)

/-- **The digits of a number read back as the number.** -/
lemma natOfDigits?_digitsOf (n : Nat) : natOfDigits? (digitsOf n) = some n := by
  have hdigits : (digitsOf n).all Char.isDigit :=
    List.all_eq_true.2 fun _ => isDigit_of_mem_digitsOf
  rw [natOfDigits?, hdigits, List.isEmpty_eq_false_iff.2 (digitsOf_ne_nil n), digitsOf,
    ← Nat.ofDigitChars_eq_foldl, Nat.ofDigitChars_ten_toDigits]
  rfl

/-- A zero leads the digits of zero only. -/
lemma eq_zero_of_head?_digitsOf {n : Nat} (h : (digitsOf n).head? = some '0') : n = 0 := by
  induction n using Nat.strong_induction_on with
  | _ n ih =>
      rw [digitsOf, Nat.toDigits_eq_if (by decide)] at h
      split_ifs at h with hn
      · interval_cases n <;> simp_all [Nat.digitChar]
      · -- the digits of a tenth of the number come first
        rw [List.head?_append_of_ne_nil _ Nat.toDigits_ne_nil] at h
        have htenth := ih (n / 10) (by omega) h
        omega

lemma splitSign_digitsOf (n : Nat) : splitSign (digitsOf n) = (false, digitsOf n) := by
  have hminus := not_mem_digitsOf (c := '-') (by decide) n
  have hplus := not_mem_digitsOf (c := '+') (by decide) n
  unfold splitSign
  split <;> simp_all

/-- A whole number is read back from its digits, with a sign before those of a negative one. -/
lemma readInt?_digitsOf (a : Int) :
    readInt? (String.ofList ((if a < 0 then ['-'] else []) ++ digitsOf a.natAbs)) = some a := by
  rw [readInt?, String.toList_ofList]
  split_ifs with h
  · simp only [List.singleton_append, splitSign, natOfDigits?_digitsOf]
    exact congrArg some (by omega : -(a.natAbs : Int) = a)
  · simp only [List.nil_append, splitSign_digitsOf, natOfDigits?_digitsOf]
    exact congrArg some (by omega : (a.natAbs : Int) = a)

end Decimal

/-! ### Groups -/

/-- **Digits with commas are groups of three**, but for the first group, which is what is left over:
one to three digits. -/
lemma exists_groups {cs : List Char} (h : cs ≠ []) :
    ∃ first rest, groupDigits cs = [','].intercalate (first :: rest) ∧
      (first :: rest).flatten = cs ∧ first.length = (cs.length - 1) % 3 + 1 ∧
      ∀ group ∈ rest, group.length = 3 := by
  induction cs with
  | nil => exact absurd rfl h
  | cons c cs ih =>
      by_cases hnil : cs = []
      · exact ⟨[c], [], by simp [hnil, groupDigits], by simp [hnil], by simp [hnil], by simp⟩
      obtain ⟨first, rest, hgrouped, hflat, hfirst, hrest⟩ := ih hnil
      have hpos := List.length_pos_of_ne_nil hnil
      by_cases hfull : cs.length % 3 = 0
      · -- the first group is full, so that the digit begins a new one
        refine ⟨[c], first :: rest, ?_, by simp [← hflat], by simp [hfull], ?_⟩
        · simp [groupDigits, hnil, hfull, hgrouped, List.intercalate]
        · intro group hgroup
          rcases List.mem_cons.1 hgroup with rfl | hgroup
          · omega
          · exact hrest group hgroup
      · refine ⟨c :: first, rest, ?_, by simp [← hflat], ?_, hrest⟩
        · cases rest <;> simp [groupDigits, hfull, hgrouped, List.intercalate]
        · simp only [List.length_cons, hfirst]
          omega

namespace Credits

/-- What stands between the commas of an amount: groups of three digits after a first one of one to
three digits. A zero leads the first group only if the amount is zero. -/
structure InGroups (amount : Credits) (first : List Char) (rest : List (List Char)) : Prop where
  text_eq : (amount.text .grouped).toList
    = (if amount < 0 then ['-'] else []) ++ [','].intercalate (first :: rest) ++ ['c', 'r']
  isDigit : ∀ group ∈ first :: rest, ∀ c ∈ group, c.isDigit
  length_first : 1 ≤ first.length ∧ first.length ≤ 3
  length_rest : ∀ group ∈ rest, group.length = 3
  leading_zero : first.head? = some '0' → amount = 0

/-- The number that a text without commas stands for: an optional sign, digits and `cr`. -/
def read? (s : String) : Option Int :=
  match s.toList.reverse with
  | 'r' :: 'c' :: cs => Decimal.readInt? (String.ofList cs.reverse)
  | _ => none

variable (amount : Credits)

lemma toList_text (style : CreditStyle) : (amount.text style).toList
    = (if amount < 0 then ['-'] else []) ++ style.digits amount.toInt.natAbs ++ ['c', 'r'] := by
  rw [text, String.toList_append, String.toList_ofList]
  rfl

/-- The two texts of an amount differ in the commas only. -/
lemma filter_text_grouped :
    (amount.text .grouped).toList.filter (· != ',') = (amount.text .plain).toList := by
  have hcomma := Decimal.not_mem_digitsOf (c := ',') (by decide) amount.toInt.natAbs
  rw [toList_text, toList_text, List.filter_append, List.filter_append, CreditStyle.digits,
    filter_groupDigits hcomma]
  split_ifs <;> rfl

lemma exists_inGroups : ∃ first rest, amount.InGroups first rest := by
  obtain ⟨first, rest, hgrouped, hflat, hfirst, hrest⟩ :=
    exists_groups (Decimal.digitsOf_ne_nil amount.toInt.natAbs)
  have hne : first ≠ [] := List.ne_nil_of_length_pos (by omega)
  refine ⟨first, rest, ?_, fun group hgroup c hc => ?_, by omega, hrest, fun hzero => ?_⟩
  · rw [toList_text, CreditStyle.digits, hgrouped]
  · exact Decimal.isDigit_of_mem_digitsOf (hflat ▸ List.mem_flatten_of_mem hgroup hc)
  · rw [← List.head?_append_of_ne_nil _ hne, ← List.flatten_cons, hflat] at hzero
    exact Int64.toInt_inj.1 (Int.natAbs_eq_zero.1 (Decimal.eq_zero_of_head?_digitsOf hzero))

/-- **A text without commas reads back as its amount.** -/
lemma read?_text_plain : read? (amount.text .plain) = some amount.toInt := by
  have hsign : amount < 0 ↔ amount.toInt < 0 := by rw [Int64.lt_iff_toInt_lt, Int64.toInt_zero]
  have htext : (amount.text .plain).toList.reverse = 'r' :: 'c' :: ((if amount.toInt < 0
      then ['-'] else []) ++ Decimal.digitsOf amount.toInt.natAbs).reverse := by
    simp only [toList_text, hsign, List.reverse_append, CreditStyle.digits]
    rfl
  simp only [read?, htext, List.reverse_reverse]
  exact Decimal.readInt?_digitsOf amount.toInt

lemma text_injective (style : CreditStyle) :
    Function.Injective fun amount => text amount style := by
  have hplain : Function.Injective fun amount => text amount .plain := by
    intro a b (h : text a .plain = text b .plain)
    have hread := read?_text_plain a
    rw [h, read?_text_plain] at hread
    exact (Int64.toInt_inj.1 (Option.some.inj hread)).symm
  cases style with
  | plain => exact hplain
  | grouped =>
      intro a b (h : text a .grouped = text b .grouped)
      refine hplain (String.toList_inj.1 ?_)
      rw [← filter_text_grouped, ← filter_text_grouped, h]

/-- **An amount can be told from either of its texts.** Without its commas the text in groups is the
one without groups; between the commas there are groups of three digits, but for the first, which
has one to three and does not begin with a zero unless the amount is zero; the text without groups
reads back as the amount; and no two amounts have the same text in one style. All amounts are meant,
the least one included. -/
theorem text_faithful :
    (∀ amount : Credits,
      (amount.text .grouped).toList.filter (· != ',') = (amount.text .plain).toList) ∧
    (∀ amount : Credits, ∃ first rest, amount.InGroups first rest) ∧
    (∀ amount : Credits, read? (amount.text .plain) = some amount.toInt) ∧
    ∀ style, Function.Injective fun amount => text amount style :=
  ⟨filter_text_grouped, exists_inGroups, read?_text_plain, text_injective⟩

example : text (-9223372036854775808) .grouped = "-9,223,372,036,854,775,808cr" := by decide +kernel

end Credits

end TradeRun
