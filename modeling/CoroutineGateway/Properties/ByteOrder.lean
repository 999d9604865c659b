import CoroutineGateway.Construction.Address
import Mathlib.Tactic.IntervalCases

/-!
# Byte order

What the conversions between the byte order of the machine and that of the network do, bit by bit
(`getLsbD_byteswap32`) and as arithmetic (`toNat_byteswap16`).
-/

namespace CoroutineGateway

/-! ## Four bytes -/

/-- The bytes change their places, and the bits of a byte do not. -/
lemma getLsbD_byteswap32 (v : UInt32) {i : ℕ} (hi : i < 32) :
    (byteswap32 v).toBitVec.getLsbD i = v.toBitVec.getLsbD (24 - 8 * (i / 8) + i % 8) := by
  simp only [byteswap32, UInt32.toBitVec_or, UInt32.toBitVec_and, UInt32.toBitVec_shiftLeft,
    UInt32.toBitVec_shiftRight, BitVec.getLsbD_or, BitVec.getLsbD_and]
  interval_cases i <;> simp

/-- Two numbers with the same bits. -/
lemma eq_of_getLsbD {v w : UInt32}
    (h : ∀ i < 32, v.toBitVec.getLsbD i = w.toBitVec.getLsbD i) : v = w :=
  UInt32.toBitVec_inj.mp (BitVec.eq_of_getLsbD_eq h)

@[simp] lemma byteswap32_byteswap32 (v : UInt32) : byteswap32 (byteswap32 v) = v := by
  refine eq_of_getLsbD fun i hi => ?_
  have hback : 24 - 8 * ((24 - 8 * (i / 8) + i % 8) / 8) + (24 - 8 * (i / 8) + i % 8) % 8 = i := by
    omega
  rw [getLsbD_byteswap32 _ hi, getLsbD_byteswap32 _ (by omega), hback]

lemma byteswap32_and (v w : UInt32) :
    byteswap32 (v &&& w) = byteswap32 v &&& byteswap32 w := by
  refine eq_of_getLsbD fun i hi => ?_
  rw [getLsbD_byteswap32 _ hi, UInt32.toBitVec_and, UInt32.toBitVec_and, BitVec.getLsbD_and,
    BitVec.getLsbD_and, getLsbD_byteswap32 _ hi, getLsbD_byteswap32 _ hi]

lemma byteswap32_or (v w : UInt32) :
    byteswap32 (v ||| w) = byteswap32 v ||| byteswap32 w := by
  refine eq_of_getLsbD fun i hi => ?_
  rw [getLsbD_byteswap32 _ hi, UInt32.toBitVec_or, UInt32.toBitVec_or, BitVec.getLsbD_or,
    BitVec.getLsbD_or, getLsbD_byteswap32 _ hi, getLsbD_byteswap32 _ hi]

lemma byteswap32_not (v : UInt32) : byteswap32 (~~~v) = ~~~byteswap32 v := by
  refine eq_of_getLsbD fun i hi => ?_
  have hj : 24 - 8 * (i / 8) + i % 8 < 32 := by omega
  rw [getLsbD_byteswap32 _ hi, UInt32.toBitVec_not, UInt32.toBitVec_not, BitVec.getLsbD_not,
    BitVec.getLsbD_not, getLsbD_byteswap32 _ hi, decide_eq_true hj, decide_eq_true hi]

/-- The last byte of a number. -/
lemma toNat_octet (v : UInt32) : (v &&& 0xff).toNat = v.toNat % 256 := by
  rw [UInt32.toNat_and]
  exact Nat.and_two_pow_sub_one_eq_mod v.toNat 8

/-- The bits of a byte of a number. -/
lemma getLsbD_octet (v : UInt32) {k : UInt32} (hk : k.toNat < 32) (i : ℕ) :
    ((v >>> k) &&& 0xff).toBitVec.getLsbD i =
      (v.toBitVec.getLsbD (k.toNat + i) && decide (i < 8)) := by
  have hff : (0xff : UInt32).toBitVec.getLsbD i = decide (i < 8) :=
    Nat.testBit_two_pow_sub_one 8 i
  have hshift : (k.toBitVec % 32).toNat = k.toNat := Nat.mod_eq_of_lt hk
  rw [UInt32.toBitVec_and, BitVec.getLsbD_and, hff, UInt32.toBitVec_shiftRight,
    BitVec.ushiftRight_eq', BitVec.getLsbD_ushiftRight, hshift]

/-- A byte of a swapped number is the one at the opposite place. -/
lemma octet_byteswap32 (v : UInt32) {j k : UInt32} (h : j.toNat + k.toNat = 24)
    (hk : k.toNat % 8 = 0) :
    (byteswap32 v >>> j) &&& 0xff = (v >>> k) &&& 0xff := by
  refine eq_of_getLsbD fun i _ => ?_
  rw [getLsbD_octet _ (by omega), getLsbD_octet _ (by omega)]
  by_cases hi : i < 8
  · have hplace : 24 - 8 * ((j.toNat + i) / 8) + (j.toNat + i) % 8 = k.toNat + i := by omega
    rw [getLsbD_byteswap32 _ (by omega), hplace]
  · rw [decide_eq_false hi, Bool.and_false, Bool.and_false]

/-- The bytes of a swapped number are those of the number, the last one first. -/
lemma octets_byteswap32 (v : UInt32) :
    (byteswap32 v >>> (24 : UInt32)) &&& 0xff = v &&& 0xff ∧
    (byteswap32 v >>> (16 : UInt32)) &&& 0xff = (v >>> (8 : UInt32)) &&& 0xff ∧
    (byteswap32 v >>> (8 : UInt32)) &&& 0xff = (v >>> (16 : UInt32)) &&& 0xff ∧
    byteswap32 v &&& 0xff = (v >>> (24 : UInt32)) &&& 0xff := by
  have hlast : v &&& 0xff = (v >>> (0 : UInt32)) &&& 0xff := by rw [UInt32.shiftRight_zero]
  have hfirst : byteswap32 v &&& 0xff = (byteswap32 v >>> (0 : UInt32)) &&& 0xff := by
    rw [UInt32.shiftRight_zero]
  rw [hlast, hfirst]
  exact ⟨octet_byteswap32 v rfl rfl, octet_byteswap32 v rfl rfl, octet_byteswap32 v rfl rfl,
    octet_byteswap32 v rfl rfl⟩

/-! ## Two bytes -/

lemma toNat_byteswap16 (v : UInt16) :
    (byteswap16 v).toNat = v.toNat % 256 * 256 + v.toNat / 256 := by
  have hlt := v.toNat_lt
  have hhigh : (v <<< 8).toNat = 2 ^ 8 * (v.toNat % 256) := by
    rw [UInt16.toNat_shiftLeft]
    have h : v.toNat <<< ((8 : UInt16).toNat % 16) = v.toNat * 256 := Nat.shiftLeft_eq v.toNat 8
    rw [h]
    omega
  have hlow : (v >>> 8).toNat = v.toNat / 256 := by
    rw [UInt16.toNat_shiftRight]
    exact Nat.shiftRight_eq_div_pow v.toNat 8
  rw [byteswap16, UInt16.toNat_or, hhigh, hlow, ← Nat.two_pow_add_eq_or_of_lt (by omega)]
  omega

@[simp] lemma byteswap16_byteswap16 (v : UInt16) : byteswap16 (byteswap16 v) = v := by
  have hlt := v.toNat_lt
  refine UInt16.toNat_inj.mp ?_
  rw [toNat_byteswap16, toNat_byteswap16]
  omega

end CoroutineGateway
