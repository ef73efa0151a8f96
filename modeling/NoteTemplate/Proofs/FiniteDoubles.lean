import NoteTemplate.Number.Binary64
import NoteTemplate.Proofs.WholeDoubles

/-!
# Finite doubles

The field of the exponent tells whether a double is finite (`isFinite_unpack`). So the opposite of a
finite double is finite (`isFinite_neg`), and so is its content (`isFinite_ofFloat`). The double of
an integer of sixty-four bits is always finite (`isFinite_ofInt`).
-/

namespace NoteTemplate.Number

open Float.Model (Format UnpackedFloat)
open Float.Model.UnpackedFloat

/-- A double that is a whole number is finite. -/
theorem IsWholeDouble.isFinite {double : Float} {number : Int}
    (whole : IsWholeDouble double number) : double.isFinite = true := by
  change double.toModel.unpack.isFinite = true
  unfold IsWholeDouble at whole
  generalize double.toModel.unpack = value at whole ⊢
  cases whole <;> rfl

/-- The double of an integer of sixty-four bits, signed or unsigned, is finite. -/
theorem isFinite_ofInt {number : Int} (range : number.natAbs < twoTo 64) :
    (ofInt number).isFinite = true :=
  (isWholeDouble_ofInt range).isFinite

/-- The field of the exponent tells whether a double is finite. -/
theorem isFinite_unpack {format : Format} (bits : BitVec format.numBits) :
    (unpack format bits).isFinite =
      decide (unpackExponent bits ≠ -BitVec.ofNat format.exponentBits 1) := by
  unfold UnpackedFloat.unpack
  dsimp only
  split
  · rename_i ones
    rw [ones]
    split <;> simp [UnpackedFloat.isFinite]
  · rename_i other
    rw [decide_eq_true other]
    split
    · split <;> rfl
    · rfl

/-- The opposite of a double has its exponent. -/
theorem unpackExponent_pack_neg (format : Format) (value : UnpackedFloat) :
    unpackExponent (pack format value.neg) = unpackExponent (pack format value) := by
  cases value with
  | notANumber => rfl
  | infinity sign =>
    rw [neg, pack, pack, packedInfinity, packedInfinity, unpackExponent_packComponents,
      unpackExponent_packComponents]
  | zero sign =>
    rw [neg, pack, pack, packedZero, packedZero, unpackExponent_packComponents,
      unpackExponent_packComponents]
  | finite sign mantissa exponent pos =>
    rw [neg, pack, pack]
    split
    · rw [packedInfinity, packedInfinity, unpackExponent_packComponents,
        unpackExponent_packComponents]
    · split <;> rw [unpackExponent_packComponents, unpackExponent_packComponents]

/-- The opposite of a double is finite if the double is. -/
theorem isFinite_neg (double : Float) : (-double).isFinite = double.isFinite := by
  change (unpack Format.binary64 (pack Format.binary64 double.toModel.unpack.neg)).isFinite =
    (unpack Format.binary64 double.toModel.toBits.toBitVec).isFinite
  rw [isFinite_unpack, isFinite_unpack, unpackExponent_pack_neg, Float.Model.unpack,
    pack_unpack_of_valid double.toModel.valid]

/-- The exponent of a double is read off its bits. -/
theorem toNat_unpackExponent (bits : BitVec Format.binary64.numBits) :
    (unpackExponent bits).toNat = bits.toNat / twoTo 52 % twoTo 11 := by
  change (bits.toNat >>> 52) % 2 ^ 11 = bits.toNat / 2 ^ 52 % 2 ^ 11
  rw [Nat.shiftRight_eq_div_pow]

/-- The content of a finite double is finite. -/
theorem isFinite_ofFloat {value : Float} (finite : value.isFinite = true) :
    (Binary64.ofFloat value).isFinite = true := by
  change (unpack .binary64 value.toModel.toBits.toBitVec).isFinite = true at finite
  rw [isFinite_unpack, decide_eq_true_eq] at finite
  have inside : value.toBits.toNat / twoTo 52 % twoTo 11 ≠ 2047 := by
    intro last
    apply finite
    apply BitVec.eq_of_toNat_eq
    rw [toNat_unpackExponent]
    exact last
  rw [Binary64.ofFloat, Binary64.ofBits, if_neg inside]
  split <;> rfl

end NoteTemplate.Number
