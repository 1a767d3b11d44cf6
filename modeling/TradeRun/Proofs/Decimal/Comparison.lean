import Mathlib
import TradeRun.Decimal.Binary

/-!
Comparison of doubles.

* `Binary.place`: the place of a double among the others, by its sign, its exponent and its
  mantissa. The zeros share one place;
* `Binary.compare_eq_compare_place`: numbers compare as their places do;
* `Binary.le_iff_place_le`, `Binary.lt_iff_place_lt`: so that **the numbers among the doubles are in
  one line**, with the laws of such an order;
* `Binary.not_isNaN_of_lt`, `Binary.not_isNaN_of_le`: what is no number compares with nothing.
-/

namespace TradeRun.Binary

open Float.Model (UnpackedFloat)

/-- The place of an unpacked double among the others. -/
def placeOf : UnpackedFloat → ℤ ×ₗ ℤ ×ₗ ℤ
  | .infinity .negative => toLex (-2, toLex (0, 0))
  | .finite .negative mantissa exponent _ => toLex (-1, toLex (-exponent, -mantissa))
  | .finite .positive mantissa exponent _ => toLex (1, toLex (exponent, mantissa))
  | .infinity .positive => toLex (2, toLex (0, 0))
  | .zero _ | .notANumber => toLex (0, toLex (0, 0))

lemma compare_natCast (m n : ℕ) : compare (m : ℤ) n = compare m n := by
  rw [← cmp_eq_compare, ← cmp_eq_compare, Nat.strictMono_cast.cmp_map_eq]

lemma compare_neg (m n : ℤ) : compare (-m) (-n) = (compare m n).swap := by
  rw [← cmp_eq_compare, ← cmp_eq_compare, cmp_swap]
  exact (strictMono_id.neg : StrictAnti fun k : ℤ => -k).cmp_map_eq m n

/-- Finite numbers of one sign compare by their exponents, then by their mantissas, negative ones
the other way round. -/
lemma compare_finite {s s' : UnpackedFloat.Sign} {m m' : ℕ} {e e' : ℤ} (hm : 0 < m) (hm' : 0 < m') :
    (UnpackedFloat.finite s m e hm).compare (.finite s' m' e' hm')
      = some (compare (placeOf (.finite s m e hm)) (placeOf (.finite s' m' e' hm'))) := by
  cases s with
  | negative =>
      cases s' with
      | negative =>
          change _ = some ((compare (-e) (-e')).then (compare (-(m : ℤ)) (-m')))
          rw [compare_neg, compare_neg, compare_natCast, ← Ordering.swap_then]
          rfl
      | positive => rfl
  | positive =>
      cases s' with
      | negative => rfl
      | positive =>
          change _ = some ((compare e e').then (compare (m : ℤ) m'))
          rw [compare_natCast]
          rfl

/-- Numbers compare as their places do. -/
lemma compare_eq_compare_placeOf {a b : UnpackedFloat} (ha : ¬ a.isNaN) (hb : ¬ b.isNaN) :
    a.compare b = some (compare (placeOf a) (placeOf b)) := by
  cases a with
  | notANumber => exact absurd rfl ha
  | infinity s =>
      cases b with
      | notANumber => exact absurd rfl hb
      | infinity s' => cases s <;> cases s' <;> rfl
      | zero s' => cases s <;> rfl
      | finite s' m' e' hm' => cases s <;> cases s' <;> rfl
  | zero s =>
      cases b with
      | notANumber => exact absurd rfl hb
      | infinity s' => cases s' <;> rfl
      | zero s' => rfl
      | finite s' m' e' hm' => cases s' <;> rfl
  | finite s m e hm =>
      cases b with
      | notANumber => exact absurd rfl hb
      | infinity s' => cases s <;> cases s' <;> rfl
      | zero s' => cases s <;> rfl
      | finite s' m' e' hm' => exact compare_finite hm hm'

/-- The place of a double among the others. -/
def place (x : Float) : ℤ ×ₗ ℤ ×ₗ ℤ := placeOf x.toModel.unpack

section Order

variable {x y z : Float}

lemma compare_eq_compare_place (hx : ¬ x.isNaN) (hy : ¬ y.isNaN) :
    x.toModel.unpack.compare y.toModel.unpack = some (compare (place x) (place y)) :=
  compare_eq_compare_placeOf hx hy

/-- **Numbers are in one line.** -/
lemma le_iff_place_le (hx : ¬ x.isNaN) (hy : ¬ y.isNaN) : x ≤ y ↔ place x ≤ place y := by
  change decide ((x.toModel.unpack.compare y.toModel.unpack).any (·.isLE)) = true ↔ _
  rw [compare_eq_compare_place hx hy, decide_eq_true_iff, Option.any_some]
  exact Ordering.ne_gt_iff_isLE.symm.trans compare_le_iff_le

lemma lt_iff_place_lt (hx : ¬ x.isNaN) (hy : ¬ y.isNaN) : x < y ↔ place x < place y := by
  change decide (x.toModel.unpack.compare y.toModel.unpack == some .lt) = true ↔ _
  rw [compare_eq_compare_place hx hy, decide_eq_true_iff, beq_iff_eq, Option.some.injEq]
  exact compare_lt_iff_lt

/-- What is no number compares with nothing. -/
lemma not_isNaN_of_lt (h : x < y) : ¬ x.isNaN ∧ ¬ y.isNaN := by
  change decide (x.toModel.unpack.compare y.toModel.unpack == some .lt) = true at h
  change ¬ x.toModel.unpack.isNaN ∧ ¬ y.toModel.unpack.isNaN
  generalize x.toModel.unpack = a at h ⊢
  generalize y.toModel.unpack = b at h ⊢
  cases a <;> cases b <;> simp_all [UnpackedFloat.compare, UnpackedFloat.isNaN]

lemma not_isNaN_of_le (h : x ≤ y) : ¬ x.isNaN ∧ ¬ y.isNaN := by
  change decide ((x.toModel.unpack.compare y.toModel.unpack).any (·.isLE)) = true at h
  change ¬ x.toModel.unpack.isNaN ∧ ¬ y.toModel.unpack.isNaN
  generalize x.toModel.unpack = a at h ⊢
  generalize y.toModel.unpack = b at h ⊢
  cases a <;> cases b <;> simp_all [UnpackedFloat.compare, UnpackedFloat.isNaN]

protected lemma le_refl (hx : ¬ x.isNaN) : x ≤ x := (le_iff_place_le hx hx).2 le_rfl

protected lemma lt_irrefl (hx : ¬ x.isNaN) : ¬ x < x := (lt_iff_place_lt hx hx).not.2 (lt_irrefl _)

protected lemma not_le (hx : ¬ x.isNaN) (hy : ¬ y.isNaN) : ¬ x ≤ y ↔ y < x := by
  rw [le_iff_place_le hx hy, lt_iff_place_lt hy hx, not_le]

protected lemma le_of_lt (hx : ¬ x.isNaN) (hy : ¬ y.isNaN) (h : x < y) : x ≤ y :=
  (le_iff_place_le hx hy).2 ((lt_iff_place_lt hx hy).1 h).le

protected lemma lt_of_le_of_lt (hx : ¬ x.isNaN) (hy : ¬ y.isNaN) (hz : ¬ z.isNaN) (hxy : x ≤ y)
    (hyz : y < z) : x < z :=
  (lt_iff_place_lt hx hz).2
    (((le_iff_place_le hx hy).1 hxy).trans_lt ((lt_iff_place_lt hy hz).1 hyz))

protected lemma lt_of_lt_of_le (hxy : x < y) (hyz : y ≤ z) : x < z := by
  obtain ⟨hx, hy⟩ := not_isNaN_of_lt hxy
  have hz := (not_isNaN_of_le hyz).2
  exact (lt_iff_place_lt hx hz).2
    (((lt_iff_place_lt hx hy).1 hxy).trans_le ((le_iff_place_le hy hz).1 hyz))

end Order

end TradeRun.Binary
