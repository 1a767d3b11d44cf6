import TradeRun.Decimal.Text
import TradeRun.Galaxy.Basic

/-!
Amounts of money as text.

* `Credits.text`: an amount with the ending `cr`, its digits plain or in groups of three;
* `groupDigits`: puts a comma before every group of three digits but the first group.
-/

namespace TradeRun

/-- How the digits of an amount are written. -/
inductive CreditStyle
  /-- In groups, as in `12,345cr`. -/
  | grouped
  /-- Without separators, as in `12345cr`. -/
  | plain
deriving DecidableEq, Repr

/-- Digits with a comma wherever a positive multiple of three digits follows
(`format_with_separators`). -/
def groupDigits : List Char → List Char
  | [] => []
  | c :: cs =>
    if cs ≠ [] ∧ cs.length % 3 = 0 then c :: ',' :: groupDigits cs else c :: groupDigits cs

/-- The digits of an amount. -/
def CreditStyle.digits (style : CreditStyle) (amount : Nat) : List Char :=
  match style with
  | grouped => groupDigits (Decimal.digitsOf amount)
  | plain => Decimal.digitsOf amount

/-- An amount with its sign and the ending `cr` (`format_credits`). -/
def Credits.text (amount : Credits) (style : CreditStyle) : String :=
  String.ofList ((if amount < 0 then ['-'] else []) ++ style.digits amount.toInt.natAbs) ++ "cr"

/-- Leaving out the commas of grouped digits gives the digits back. -/
theorem filter_groupDigits {cs : List Char} (h : ',' ∉ cs) :
    (groupDigits cs).filter (· != ',') = cs := by
  induction cs with
  | nil => rfl
  | cons c cs ih =>
    rw [List.mem_cons, not_or] at h
    have hc : c ≠ ',' := Ne.symm h.1
    unfold groupDigits
    split <;> simp [hc, ih h.2]

end TradeRun
