import Mathlib
import NoteTemplate.Number.Binary64
import NoteTemplate.Number.Decimal

/-!
# Doubles of whole numbers

A double has room for fifty-three binary digits. A longer whole number is rounded to the nearest
multiple of the unit that it has digits left for, a half to the even one (`roundedNat_near`). The
double of an integer of up to sixty-four bits is its rounded number (`isWholeDouble_ofInt`), and
doubles that are whole numbers are ordered as these are (`IsWhole.compare_eq`). Rounding keeps the
order of integers (`roundedInt_mono`) and changes none that has at most fifty-three digits
(`roundedInt_eq_self`).
-/

namespace NoteTemplate.Number

open Float.Model (Format UnpackedFloat totalExponent)
open Float.Model.UnpackedFloat

/-! ## Rounding whole numbers -/

/-- How many of its last binary digits a number has no room for in a double. -/
def surplus (number : Nat) : Nat := number.log2 - 52

/-- A number rounded to fifty-three binary digits. -/
def roundedNat (number : Nat) : Nat :=
  roundedQuotient number (2 ^ surplus number) * 2 ^ surplus number

/-- An integer rounded to fifty-three binary digits. -/
def roundedInt (number : Int) : Int := number.sign * roundedNat number.natAbs

/-- A rounded quotient is the quotient, and one more if more than half is left, or if half is left
and the quotient is odd. -/
theorem roundedQuotient_eq (numerator denominator : Nat) :
    roundedQuotient numerator denominator = numerator / denominator +
      if 2 * (numerator % denominator) < denominator then 0
      else if 2 * (numerator % denominator) = denominator then numerator / denominator % 2
      else 1 := by
  unfold roundedQuotient
  dsimp only
  rcases Nat.lt_trichotomy (2 * (numerator % denominator)) denominator with below | half | above
  · rw [Nat.compare_eq_lt.2 below, if_pos below]
    rfl
  · rw [Nat.compare_eq_eq.2 half, if_neg (Nat.not_lt.2 (Nat.le_of_eq half.symm)), if_pos half]
    dsimp only
    split <;> omega
  · rw [Nat.compare_eq_gt.2 above, if_neg (Nat.lt_asymm above), if_neg (Nat.ne_of_gt above)]

/-- A rounded quotient is the quotient or one more. -/
theorem roundedQuotient_bounds (numerator denominator : Nat) :
    numerator / denominator ≤ roundedQuotient numerator denominator ∧
      roundedQuotient numerator denominator ≤ numerator / denominator + 1 := by
  rw [roundedQuotient_eq]
  split
  · omega
  · split <;> omega

/-- A rounded quotient misses the numerator by half a denominator at most. -/
theorem roundedQuotient_near (numerator : Nat) {denominator : Nat} (pos : 0 < denominator) :
    2 * ((roundedQuotient numerator denominator * denominator : Nat) - (numerator : Int)).natAbs ≤
      denominator := by
  have whole := Nat.div_add_mod numerator denominator
  have rest := Nat.mod_lt numerator pos
  rw [Nat.mul_comm] at whole
  rw [roundedQuotient_eq, Nat.add_mul]
  split
  · omega
  · split
    · have digit : numerator / denominator % 2 = 0 ∨ numerator / denominator % 2 = 1 := by omega
      rcases digit with even | odd
      · rw [even, Nat.zero_mul]
        omega
      · rw [odd, Nat.one_mul]
        omega
    · omega

/-- A quotient that leaves nothing is not rounded. -/
theorem roundedQuotient_mul (whole : Nat) {denominator : Nat} (pos : 0 < denominator) :
    roundedQuotient (whole * denominator) denominator = whole := by
  rw [roundedQuotient_eq, Nat.mul_mod_left, Nat.mul_zero, if_pos pos, Nat.mul_div_cancel _ pos,
    Nat.add_zero]

/-- A common factor does not matter to a rounded quotient. -/
theorem roundedQuotient_mul_mul (numerator denominator : Nat) {factor : Nat} (pos : 0 < factor) :
    roundedQuotient (numerator * factor) (denominator * factor) =
      roundedQuotient numerator denominator := by
  have twice : 2 * (numerator % denominator * factor) = 2 * (numerator % denominator) * factor :=
    (Nat.mul_assoc _ _ _).symm
  simp only [roundedQuotient_eq, Nat.mul_mod_mul_right, Nat.mul_div_mul_right _ _ pos, twice,
    Nat.mul_lt_mul_right pos, Nat.mul_left_inj (Nat.ne_of_gt pos)]

/-- Rounded quotients are in the order of the numerators. -/
theorem roundedQuotient_mono {numerator larger : Nat} (denominator : Nat)
    (ordered : numerator ≤ larger) :
    roundedQuotient numerator denominator ≤ roundedQuotient larger denominator := by
  have quotients : numerator / denominator ≤ larger / denominator :=
    Nat.div_le_div_right ordered
  rcases Nat.lt_or_eq_of_le quotients with apart | same
  · have upper := (roundedQuotient_bounds numerator denominator).2
    have lower := (roundedQuotient_bounds larger denominator).1
    omega
  · have remainders : numerator % denominator ≤ larger % denominator := by
      have one := Nat.div_add_mod numerator denominator
      have two := Nat.div_add_mod larger denominator
      rw [same] at one
      omega
    rw [roundedQuotient_eq, roundedQuotient_eq, same]
    split
    · omega
    · split
      · split
        · omega
        · split <;> omega
      · apply Nat.le_of_eq
        rw [if_neg (by omega), if_neg (by omega)]

/-- The digits of a number that is multiplied by a power of two. -/
theorem log2_mul_two_pow {number : Nat} (pos : 0 < number) (shift : Nat) :
    (number * 2 ^ shift).log2 = number.log2 + shift := by
  have scaled : 0 < number * 2 ^ shift := Nat.mul_pos pos (Nat.two_pow_pos shift)
  rw [Nat.log2_eq_iff (by omega)]
  have lower : 2 ^ number.log2 ≤ number := Nat.log2_self_le (by omega)
  have upper : number < 2 ^ (number.log2 + 1) := Nat.lt_log2_self
  constructor
  · rw [Nat.pow_add]
    exact Nat.mul_le_mul_right _ lower
  · rw [Nat.add_right_comm, Nat.pow_add _ (number.log2 + 1)]
    exact Nat.mul_lt_mul_of_pos_right upper (Nat.two_pow_pos shift)

/-- A number whose unit divides it is not rounded. -/
theorem roundedNat_of_eq_mul {number whole : Nat} (same : number = whole * 2 ^ surplus number) :
    roundedNat number = number := by
  have exact : roundedQuotient number (2 ^ surplus number) = whole := by
    have quotient := roundedQuotient_mul whole (Nat.two_pow_pos (surplus number))
    rw [← same] at quotient
    exact quotient
  rw [roundedNat, exact]
  exact same.symm

/-- No multiple of its unit is nearer to a number than the rounded number is. -/
theorem roundedNat_near (number multiple : Nat) :
    ((roundedNat number : Int) - number).natAbs ≤
      (((multiple * 2 ^ surplus number : Nat) : Int) - number).natAbs := by
  have unit := Nat.two_pow_pos (surplus number)
  have near := roundedQuotient_near number unit
  rcases Nat.lt_trichotomy multiple (roundedQuotient number (2 ^ surplus number)) with
    less | same | more
  · have apart := Nat.mul_le_mul_right (2 ^ surplus number) less
    rw [Nat.succ_mul] at apart
    unfold roundedNat
    omega
  · exact Nat.le_of_eq (by rw [roundedNat, same])
  · have apart := Nat.mul_le_mul_right (2 ^ surplus number) more
    rw [Nat.succ_mul] at apart
    unfold roundedNat
    omega

/-- A number of at most fifty-three binary digits is not rounded. -/
theorem roundedNat_of_lt {number : Nat} (short : number < 2 ^ 53) : roundedNat number = number := by
  have none : surplus number = 0 := by
    rcases Nat.eq_zero_or_pos number with rfl | pos
    · rfl
    · have digits : number.log2 < 53 := (Nat.log2_lt (by omega)).2 short
      unfold surplus
      omega
  have same : number = number * 2 ^ surplus number := by rw [none, Nat.pow_zero, Nat.mul_one]
  exact roundedNat_of_eq_mul same

/-- Zeros behind a number are left alone when it is rounded. -/
theorem roundedNat_mul_two_pow {number : Nat} (pos : 0 < number) (shift : Nat) :
    roundedNat (number * 2 ^ shift) = roundedNat number * 2 ^ shift := by
  have digits := log2_mul_two_pow pos shift
  rcases Nat.lt_or_ge number.log2 52 with short | long
  · have plain : roundedNat number = number :=
      roundedNat_of_lt (Nat.lt_trans Nat.lt_log2_self (Nat.pow_lt_pow_right (by decide) (by omega)))
    rw [plain]
    have fits : surplus (number * 2 ^ shift) ≤ shift := by
      unfold surplus
      omega
    have same : number * 2 ^ shift = number * 2 ^ (shift - surplus (number * 2 ^ shift)) *
        2 ^ surplus (number * 2 ^ shift) := by
      rw [Nat.mul_assoc, ← Nat.pow_add, Nat.sub_add_cancel fits]
    exact roundedNat_of_eq_mul same
  · have longer : surplus (number * 2 ^ shift) = surplus number + shift := by
      unfold surplus
      omega
    rw [roundedNat, longer, Nat.pow_add, roundedQuotient_mul_mul _ _ (Nat.two_pow_pos shift),
      roundedNat, Nat.mul_assoc]

/-- The quotient that rounds a number of at least fifty-three binary digits has that many, or is the
least number of one more. -/
theorem roundedQuotient_digits {number : Nat} (long : 52 ≤ number.log2) :
    2 ^ 52 ≤ roundedQuotient number (2 ^ surplus number) ∧
      roundedQuotient number (2 ^ surplus number) ≤ 2 ^ 53 := by
  have bounds := roundedQuotient_bounds number (2 ^ surplus number)
  have lower : 2 ^ number.log2 ≤ number := by
    apply Nat.log2_self_le
    rintro rfl
    rw [Nat.log2_zero] at long
    omega
  have upper : number < 2 ^ (number.log2 + 1) := Nat.lt_log2_self
  have unit : number.log2 = 52 + surplus number := by
    unfold surplus
    omega
  have least : 2 ^ 52 ≤ number / 2 ^ surplus number := by
    rw [Nat.le_div_iff_mul_le (Nat.two_pow_pos _), ← Nat.pow_add, ← unit]
    exact lower
  have greatest : number / 2 ^ surplus number < 2 ^ 53 := by
    have next : number.log2 + 1 = 53 + surplus number := by omega
    rw [Nat.div_lt_iff_lt_mul (Nat.two_pow_pos _), ← Nat.pow_add, ← next]
    exact upper
  omega

/-- A rounded number is at least the greatest power of two below the number and at most the next. -/
theorem roundedNat_bounds {number : Nat} (pos : 0 < number) :
    2 ^ number.log2 ≤ roundedNat number ∧ roundedNat number ≤ 2 ^ (number.log2 + 1) := by
  rcases Nat.lt_or_ge number.log2 52 with short | long
  · have plain : roundedNat number = number :=
      roundedNat_of_lt (Nat.lt_trans Nat.lt_log2_self (Nat.pow_lt_pow_right (by decide) (by omega)))
    rw [plain]
    exact ⟨Nat.log2_self_le (by omega), Nat.le_of_lt Nat.lt_log2_self⟩
  · obtain ⟨least, greatest⟩ := roundedQuotient_digits long
    have unit : number.log2 = 52 + surplus number := by
      unfold surplus
      omega
    have next : number.log2 + 1 = 53 + surplus number := by omega
    rw [next, unit, Nat.pow_add, Nat.pow_add]
    exact ⟨Nat.mul_le_mul_right _ least, Nat.mul_le_mul_right _ greatest⟩

/-- Rounding keeps the order of numbers. -/
theorem roundedNat_mono {number larger : Nat} (ordered : number ≤ larger) :
    roundedNat number ≤ roundedNat larger := by
  rcases Nat.eq_zero_or_pos number with rfl | pos
  · rw [roundedNat_of_lt (by decide)]
    exact Nat.zero_le _
  · have larger_pos : 0 < larger := Nat.lt_of_lt_of_le pos ordered
    have digits : number.log2 ≤ larger.log2 := by
      rw [Nat.le_log2 (by omega)]
      exact Nat.le_trans (Nat.log2_self_le (by omega)) ordered
    rcases Nat.lt_or_eq_of_le digits with fewer | same
    · calc
        roundedNat number ≤ 2 ^ (number.log2 + 1) := (roundedNat_bounds pos).2
        _ ≤ 2 ^ larger.log2 := Nat.pow_le_pow_right (by decide) fewer
        _ ≤ roundedNat larger := (roundedNat_bounds larger_pos).1
    · have unit : surplus number = surplus larger := by
        unfold surplus
        rw [same]
      unfold roundedNat
      rw [unit]
      exact Nat.mul_le_mul_right _ (roundedQuotient_mono _ ordered)

/-- An integer of at most fifty-three binary digits, or the next power of two, is not rounded. -/
theorem roundedInt_eq_self {number : Int} (short : number.natAbs ≤ 2 ^ 53) :
    roundedInt number = number := by
  have plain : roundedNat number.natAbs = number.natAbs := by
    rcases Nat.lt_or_eq_of_le short with less | power
    · exact roundedNat_of_lt less
    · rw [power]
      decide +kernel
  rw [roundedInt, plain]
  exact Int.sign_mul_natAbs number

/-- Rounding keeps the order of integers. -/
theorem roundedInt_mono {number larger : Int} (ordered : number ≤ larger) :
    roundedInt number ≤ roundedInt larger := by
  unfold roundedInt
  rcases Int.lt_trichotomy number 0 with negative | rfl | positive
  · rw [Int.sign_eq_neg_one_of_neg negative]
    rcases Int.lt_trichotomy larger 0 with below | rfl | above
    · rw [Int.sign_eq_neg_one_of_neg below]
      have sizes : larger.natAbs ≤ number.natAbs := by omega
      have rounded := roundedNat_mono sizes
      omega
    · simp only [Int.sign_zero]
      omega
    · rw [Int.sign_eq_one_of_pos above]
      omega
  · rcases Int.lt_or_eq_of_le ordered with above | rfl
    · rw [Int.sign_eq_one_of_pos above, Int.sign_zero]
      omega
    · exact Int.le_refl _
  · rw [Int.sign_eq_one_of_pos positive, Int.sign_eq_one_of_pos (by omega)]
    have sizes : number.natAbs ≤ larger.natAbs := by omega
    have rounded := roundedNat_mono sizes
    omega

/-! ## The mantissa of a double -/

/-- A mantissa that was shifted to the right, and what its two residual bits say about the digits
that were lost: whether they make up half a unit or more, and whether they are neither nothing nor
exactly half. -/
structure Shifted (extended : ExtendedMantissa) (number shift : Nat) : Prop where
  /-- The digits that are left. -/
  kept : extended.mantissa = number / 2 ^ shift
  /-- The digits that were lost make up half a unit. -/
  half : extended.roundBit = decide (2 ^ shift ≤ 2 * (number % 2 ^ shift))
  /-- They are neither nothing nor exactly half. -/
  uneven : extended.stickyBit =
    decide (number % 2 ^ shift ≠ 0 ∧ 2 * (number % 2 ^ shift) ≠ 2 ^ shift)

/-- A shift by one more place. -/
theorem Shifted.one {extended : ExtendedMantissa} {number shift : Nat}
    (shifted : Shifted extended number shift) :
    Shifted extended.shiftRightOne number (shift + 1) := by
  have unit : 0 < 2 ^ shift := Nat.two_pow_pos shift
  have double : 2 ^ (shift + 1) = 2 ^ shift * 2 := Nat.pow_succ 2 shift
  have lost : number % 2 ^ (shift + 1) =
      number % 2 ^ shift + 2 ^ shift * (number / 2 ^ shift % 2) := by
    rw [double]
    exact Nat.mod_mul
  have rest : number % 2 ^ shift < 2 ^ shift := Nat.mod_lt _ unit
  have digit : number / 2 ^ shift % 2 = 0 ∨ number / 2 ^ shift % 2 = 1 := by omega
  constructor
  · change extended.mantissa / 2 = _
    rw [shifted.kept, Nat.div_div_eq_div_mul, double]
  · change (extended.mantissa % 2 != 0) = _
    rw [shifted.kept, lost, double, Bool.eq_iff_iff, bne_iff_ne, decide_eq_true_eq]
    rcases digit with zero | one
    · rw [zero]
      omega
    · rw [one]
      omega
  · change (extended.roundBit || extended.stickyBit) = _
    rw [shifted.half, shifted.uneven, lost, double, Bool.eq_iff_iff, Bool.or_eq_true,
      decide_eq_true_eq, decide_eq_true_eq, decide_eq_true_eq]
    rcases digit with zero | one
    · rw [zero]
      omega
    · rw [one]
      omega

/-- A number that is shifted by some places. -/
theorem shifted_exact (number shift : Nat) :
    Shifted (ExtendedMantissa.ofMantissaAndAccuracy number .exact >>> shift) number shift := by
  induction shift with
  | zero => constructor <;> simp [HShiftRight.hShiftRight, Nat.repeat, Nat.mod_one,
      ExtendedMantissa.ofMantissaAndAccuracy]
  | succ shift ih => exact ih.one

/-- A number that was shifted is rounded to the quotient. -/
theorem Shifted.rounded {extended : ExtendedMantissa} {number shift : Nat}
    (shifted : Shifted extended number shift) :
    extended.roundedMantissa = roundedQuotient number (2 ^ shift) := by
  have unit : 0 < 2 ^ shift := Nat.two_pow_pos shift
  obtain ⟨kept, half, uneven⟩ := shifted
  obtain ⟨mantissa, roundBit, stickyBit⟩ := extended
  dsimp only at kept half uneven
  rw [roundedQuotient_eq, ← kept]
  cases roundBit with
  | false =>
    have below : 2 * (number % 2 ^ shift) < 2 ^ shift :=
      Nat.lt_of_not_le (of_decide_eq_false half.symm)
    rw [if_pos below]
    cases stickyBit with
    | false => rfl
    | true => rfl
  | true =>
    have atLeast : 2 ^ shift ≤ 2 * (number % 2 ^ shift) := of_decide_eq_true half.symm
    rw [if_neg (Nat.not_lt.2 atLeast)]
    cases stickyBit with
    | false =>
      have even := of_decide_eq_false uneven.symm
      rw [if_pos (by omega)]
      rfl
    | true =>
      have more := of_decide_eq_true uneven.symm
      rw [if_neg more.2]
      rfl

/-- A mantissa of fifty-three binary digits is normal. -/
theorem log2_of_normal {mantissa : Nat} (lower : 2 ^ 52 ≤ mantissa) (upper : mantissa < 2 ^ 53) :
    mantissa.log2 = 52 :=
  (Nat.log2_eq_iff (by omega)).2 ⟨lower, upper⟩

/-- The exponent that a number is given in a double, if that is not too small. -/
theorem targetExponent_eq {number : Nat} {exponent : Int}
    (range : -1074 ≤ exponent + ((number.log2 : Int) - 52)) :
    Format.binary64.targetExponent (totalExponent number exponent) =
      exponent + ((number.log2 : Int) - 52) := by
  simp only [Format.targetExponent, totalExponent, Format.mantissaBits, Format.minExponent]
  omega

/-- A shift to a larger exponent. -/
theorem shiftToTargetExponent_eq {number shift : Nat} {exponent : Int}
    (target : Format.binary64.targetExponent (totalExponent number exponent) = exponent + shift) :
    shiftToTargetExponent Format.binary64 number exponent .exact =
      (ExtendedMantissa.ofMantissaAndAccuracy number .exact >>> shift, exponent + shift) := by
  have amount : (exponent + (shift : Int) - exponent).toNat = shift := by omega
  simp only [shiftToTargetExponent, shiftToExponent, target, amount]

/-- Rounding shifts a number, rounds what is left of it, and shifts once more if that got longer. -/
theorem roundWithAccuracy_of_shifts (sign : Sign) {number shift carry mantissa : Nat}
    {exponent : Int} (pos : 0 < mantissa)
    (first : Format.binary64.targetExponent (totalExponent number exponent) = exponent + shift)
    (second : Format.binary64.targetExponent
      (totalExponent (roundedQuotient number (2 ^ shift)) (exponent + shift)) =
        exponent + shift + carry)
    (kept : roundedQuotient number (2 ^ shift) = mantissa * 2 ^ carry) :
    roundWithAccuracy Format.binary64 sign number exponent .exact =
      .finite sign mantissa (exponent + shift + carry) pos := by
  have rounded := (shifted_exact number shift).rounded
  have left : (ExtendedMantissa.ofMantissaAndAccuracy (roundedQuotient number (2 ^ shift))
      .exact >>> carry).mantissa = mantissa := by
    rw [(shifted_exact _ carry).kept, kept, Nat.mul_div_cancel _ (Nat.two_pow_pos carry)]
  have filled : mantissa ≠ 0 := Nat.ne_of_gt pos
  simp only [roundWithAccuracy, shiftToTargetExponent_eq first, rounded,
    shiftToTargetExponent_eq second, left, dif_neg filled]

/-- A number of at least fifty-three binary digits is rounded to as many, and the exponent makes up
for those that were lost. -/
theorem roundWithAccuracy_eq (sign : Sign) {number : Nat} {exponent : Int}
    (long : 52 ≤ number.log2) (range : -1074 ≤ exponent) :
    ∃ (mantissa carry : Nat) (pos : 0 < mantissa),
      roundWithAccuracy Format.binary64 sign number exponent .exact =
        .finite sign mantissa (exponent + surplus number + carry) pos ∧
      (2 ^ 52 ≤ mantissa ∧ mantissa < 2 ^ 53) ∧ carry ≤ 1 ∧
      mantissa * 2 ^ (surplus number + carry) = roundedNat number := by
  have unit : (number.log2 : Int) = 52 + surplus number := by
    unfold surplus
    omega
  have first : Format.binary64.targetExponent (totalExponent number exponent) =
      exponent + surplus number := by
    rw [targetExponent_eq (by omega)]
    omega
  obtain ⟨least, greatest⟩ := roundedQuotient_digits long
  -- Rounding up can carry into one more digit, and only then is there a second shift.
  rcases Nat.lt_or_eq_of_le greatest with normal | carried
  · have digits := log2_of_normal least normal
    have stays : Format.binary64.targetExponent (totalExponent
        (roundedQuotient number (2 ^ surplus number)) (exponent + surplus number)) =
        exponent + surplus number + (0 : Nat) := by
      rw [targetExponent_eq (by omega)]
      omega
    exact ⟨_, 0, Nat.lt_of_lt_of_le (by decide) least,
      roundWithAccuracy_of_shifts sign _ first stays (Nat.mul_one _).symm, ⟨least, normal⟩,
      by decide, rfl⟩
  · have digits : (roundedQuotient number (2 ^ surplus number)).log2 = 53 := by
      rw [carried, Nat.log2_two_pow]
    have moves : Format.binary64.targetExponent (totalExponent
        (roundedQuotient number (2 ^ surplus number)) (exponent + surplus number)) =
        exponent + surplus number + (1 : Nat) := by
      rw [targetExponent_eq (by omega)]
      omega
    refine ⟨2 ^ 52, 1, by decide, roundWithAccuracy_of_shifts sign _ first moves carried,
      ⟨by decide, by decide⟩, by decide, ?_⟩
    calc
      2 ^ 52 * 2 ^ (surplus number + 1) = 2 ^ 53 * 2 ^ surplus number := by
        rw [← Nat.pow_add, ← Nat.pow_add, Nat.add_left_comm, Nat.add_comm (surplus number)]
      _ = roundedNat number := by rw [roundedNat, carried]

/-! ## Doubles that are whole numbers -/

/-- A whole number in the form that doubles have: a zero of either sign, or a mantissa of
fifty-three binary digits with an exponent that leaves no digit below the fifty-second place behind
the point. -/
inductive IsWhole : UnpackedFloat → Int → Prop where
  /-- Either zero. -/
  | zero (sign : Sign) : IsWhole (.zero sign) 0
  /-- A mantissa and an exponent. -/
  | normal (sign : Sign) {mantissa number : Nat} {exponent : Int} (pos : 0 < mantissa)
      (digits : 2 ^ 52 ≤ mantissa ∧ mantissa < 2 ^ 53)
      (range : -52 ≤ exponent ∧ exponent ≤ 971)
      (same : mantissa * 2 ^ (exponent + 52).toNat = number * 2 ^ 52) :
      IsWhole (.finite sign mantissa exponent pos) (sign.apply number)

/-- A number with zeros behind it that the exponent takes back is rounded as the number is. -/
theorem isWhole_round (sign : Sign) {number shift : Nat} (pos : 0 < number)
    (long : 52 ≤ number.log2 + shift) (short : number.log2 ≤ 900) (range : shift ≤ 900) :
    IsWhole (roundWithAccuracy Format.binary64 sign (number * 2 ^ shift) (-(shift : Int)) .exact)
      (sign.apply (roundedNat number)) := by
  have digits := log2_mul_two_pow pos shift
  have many : 52 ≤ (number * 2 ^ shift).log2 := by omega
  have least : -1074 ≤ -(shift : Int) := by omega
  obtain ⟨mantissa, carry, filled, rounds, normal, small, value⟩ :=
    roundWithAccuracy_eq sign many least
  have unit : surplus (number * 2 ^ shift) = number.log2 + shift - 52 := by
    unfold surplus
    omega
  rw [rounds]
  refine .normal sign filled normal (by omega) ?_
  have place : (-(shift : Int) + surplus (number * 2 ^ shift) + carry + 52).toNat + shift =
      surplus (number * 2 ^ shift) + carry + 52 := by omega
  apply Nat.mul_right_cancel (Nat.two_pow_pos shift)
  calc
    mantissa * 2 ^ (-(shift : Int) + surplus (number * 2 ^ shift) + carry + 52).toNat * 2 ^ shift
        = mantissa * 2 ^ (surplus (number * 2 ^ shift) + carry) * 2 ^ 52 := by
          rw [Nat.mul_assoc, ← Nat.pow_add, place, Nat.pow_add _ _ 52, ← Nat.mul_assoc]
    _ = roundedNat number * 2 ^ shift * 2 ^ 52 := by rw [value, roundedNat_mul_two_pow pos]
    _ = roundedNat number * 2 ^ 52 * 2 ^ shift := Nat.mul_right_comm _ _ _

/-- The sign of a double is the one that it was packed with. -/
theorem ofBitVec_unpackSign (sign : Sign) (exponent : BitVec 11) (mantissa : BitVec 52) :
    Sign.ofBitVec (unpackSign (packComponents Format.binary64 sign exponent mantissa)) = sign := by
  change Sign.ofBitVec ((sign.toBitVec ++ exponent ++ mantissa).extractLsb' 63 1) = sign
  rw [BitVec.extractLsb'_append_eq_of_le (by decide),
    BitVec.extractLsb'_append_eq_of_le (by decide)]
  cases sign <;> rfl

/-- A normal mantissa is found again behind the bit in front of it, which is not stored. -/
theorem toNat_one_append {mantissa : Nat} (digits : 2 ^ 52 ≤ mantissa ∧ mantissa < 2 ^ 53) :
    (1#1 ++ BitVec.ofNat 52 mantissa).toNat = mantissa := by
  rw [BitVec.toNat_append, ← Nat.shiftLeft_add_eq_or_of_lt (BitVec.isLt _), BitVec.toNat_ofNat,
    Nat.shiftLeft_eq]
  change 1 * 2 ^ 52 + mantissa % 2 ^ 52 = mantissa
  omega

/-- An exponent that is none of those with a meaning of their own is found again in its field. -/
theorem exponent_field {exponent : Nat} (first : 0 < exponent) (last : exponent < 2047) :
    (BitVec.ofNat 11 exponent).toNat = exponent ∧ BitVec.ofNat 11 exponent ≠ 0#11 ∧
      BitVec.ofNat 11 exponent ≠ -1#11 := by
  have field : (BitVec.ofNat 11 exponent).toNat = exponent := by
    rw [BitVec.toNat_ofNat, Nat.mod_eq_of_lt (by omega)]
  refine ⟨field, ?_, ?_⟩
  · intro zero
    have value := congrArg BitVec.toNat zero
    rw [field] at value
    exact Nat.ne_of_gt first value
  · intro ones
    have value := congrArg BitVec.toNat ones
    rw [field] at value
    exact Nat.ne_of_lt last value

/-- A normal number survives being packed into the bits of a double. -/
theorem unpack_pack_normal (sign : Sign) {mantissa : Nat} {exponent : Int} (pos : 0 < mantissa)
    (digits : 2 ^ 52 ≤ mantissa ∧ mantissa < 2 ^ 53) (range : -52 ≤ exponent ∧ exponent ≤ 971) :
    unpack Format.binary64 (pack Format.binary64 (.finite sign mantissa exponent pos)) =
      .finite sign mantissa exponent pos := by
  have log2 := log2_of_normal digits.1 digits.2
  have biased : (exponent + Format.binary64.exponentBias +
      Format.binary64.mantissaBitsWithoutImplicit).toNat = (exponent + 1075).toNat := by
    change (exponent + (1023 : Nat) + (52 : Nat)).toNat = _
    omega
  have fits : ¬ 2 ^ Format.binary64.exponentBits ≤ (exponent + 1075).toNat + 1 := by
    change ¬ 2048 ≤ _
    omega
  obtain ⟨field, notFirst, notLast⟩ :=
    exponent_field (show 0 < (exponent + 1075).toNat by omega) (by omega)
  have scale : ((exponent + 1075).toNat : Int) -
      ((Format.binary64.exponentBias : Int) + (52 : Nat)) = exponent := by
    change ((exponent + 1075).toNat : Int) - ((1023 : Nat) + (52 : Nat)) = exponent
    omega
  rw [UnpackedFloat.pack]
  simp only [log2, biased]
  rw [if_neg fits, if_pos (show 52 + 1 = Format.binary64.mantissaBits from rfl),
    UnpackedFloat.unpack]
  simp only [unpackMantissa_packComponents, unpackExponent_packComponents, ofBitVec_unpackSign]
  rw [if_neg notLast, if_neg notFirst]
  simp only [toNat_one_append digits, field, scale]

/-- A whole number survives being packed into the bits of a double. -/
theorem IsWhole.unpack_pack {value : UnpackedFloat} {number : Int} (whole : IsWhole value number) :
    unpack Format.binary64 (pack Format.binary64 value) = value := by
  cases whole with
  | zero sign => cases sign <;> rfl
  | normal sign pos digits range _ => exact unpack_pack_normal sign pos digits range

/-- The opposite of a whole number. -/
theorem IsWhole.neg {value : UnpackedFloat} {number : Int} (whole : IsWhole value number) :
    IsWhole value.neg (-number) := by
  cases whole with
  | zero sign => exact .zero _
  | @normal sign mantissa size exponent pos digits range same =>
    have opposite : -(sign.apply size) = (-sign).apply size := by
      cases sign with
      | negative => exact Int.neg_neg _
      | positive => rfl
    rw [opposite]
    exact .normal (-sign) pos digits range same

/-- One times a whole number is the number. -/
theorem IsWhole.mul_one {value : UnpackedFloat} {number : Int} (whole : IsWhole value number) :
    mul Format.binary64 value (.finite .positive (2 ^ 52) (-52) (by decide)) = value := by
  cases whole with
  | zero sign => cases sign <;> rfl
  | @normal sign mantissa size exponent pos digits range same =>
    have log2 := log2_of_normal digits.1 digits.2
    have longer := log2_mul_two_pow pos 52
    have exact := roundedQuotient_mul mantissa (Nat.two_pow_pos 52)
    have first : Format.binary64.targetExponent
        (totalExponent (mantissa * 2 ^ 52) (exponent + -52)) = exponent + -52 + (52 : Nat) := by
      rw [targetExponent_eq (by omega)]
      omega
    have second : Format.binary64.targetExponent
        (totalExponent (roundedQuotient (mantissa * 2 ^ 52) (2 ^ 52))
          (exponent + -52 + (52 : Nat))) = exponent + -52 + (52 : Nat) + (0 : Nat) := by
      rw [exact, targetExponent_eq (by omega)]
      omega
    have rounds := roundWithAccuracy_of_shifts sign pos first second
      (exact.trans (Nat.mul_one _).symm)
    have unsigned : sign * .positive = sign := by cases sign <;> rfl
    have scale : exponent + -52 + (52 : Nat) + (0 : Nat) = exponent := by omega
    simp only [scale] at rounds
    rw [UnpackedFloat.mul, unsigned]
    exact rounds

/-- A double that is a whole number. -/
def IsWholeDouble (double : Float) (number : Int) : Prop := IsWhole double.toModel.unpack number

/-- A whole number that is packed is a double. -/
theorem IsWhole.packed {value : UnpackedFloat} {number : Int} (whole : IsWhole value number) :
    IsWholeDouble (.ofModel (.pack value)) number := by
  change IsWhole (unpack Format.binary64 (pack Format.binary64 value)) number
  rw [whole.unpack_pack]
  exact whole

/-- The opposite of a whole double. -/
theorem IsWholeDouble.neg {double : Float} {number : Int} (whole : IsWholeDouble double number) :
    IsWholeDouble double.neg (-number) :=
  (IsWhole.neg whole).packed

/-- One times a whole double is that double. -/
theorem IsWholeDouble.mul_one {double : Float} {number : Int}
    (whole : IsWholeDouble double number) :
    IsWholeDouble (double * Float.ofBits 0x3FF0000000000000) number := by
  have one : (Float.ofBits 0x3FF0000000000000).toModel.unpack =
      .finite .positive (2 ^ 52) (-52) (by decide) := rfl
  have product : double * Float.ofBits 0x3FF0000000000000 =
      .ofModel (.pack (mul Format.binary64 double.toModel.unpack
        (Float.ofBits 0x3FF0000000000000).toModel.unpack)) := rfl
  rw [product, one, IsWhole.mul_one whole]
  exact IsWhole.packed whole

/-- A word of few enough digits is a double as it is. -/
theorem isWholeDouble_toFloat {word : UInt64} (short : word.toNat < 2 ^ 53) :
    IsWholeDouble word.toFloat word.toNat := by
  have unfolded : word.toFloat = .ofModel (.pack (ofNat Format.binary64 word.toNat)) := rfl
  rw [unfolded]
  apply IsWhole.packed
  rcases Nat.eq_zero_or_pos word.toNat with zero | pos
  · rw [zero]
    exact .zero .positive
  · have digits : word.toNat.log2 < 53 := (Nat.log2_lt (by omega)).2 short
    have sign : compare (word.toNat : Int) 0 = .gt := Int.compare_eq_gt.2 (by omega)
    have target : Format.binary64.targetExponent (totalExponent word.toNat 0) =
        (word.toNat.log2 : Int) - 52 := by
      rw [targetExponent_eq (by omega)]
      omega
    have shift : (-((word.toNat.log2 : Int) - 52)).toNat = 52 - word.toNat.log2 := by omega
    have rounds : ofNat Format.binary64 word.toNat =
        roundWithAccuracy Format.binary64 .positive (word.toNat * 2 ^ (52 - word.toNat.log2))
          (-((52 - word.toNat.log2 : Nat) : Int)) .exact := by
      simp only [ofNat, UnpackedFloat.ofInt, UnpackedFloat.normalize, sign, Int.toNat_natCast,
        UnpackedFloat.round, target, decreaseExponent, shift, Nat.shiftLeft_eq, Int.zero_sub]
    rw [rounds]
    have enough : 52 ≤ word.toNat.log2 + (52 - word.toNat.log2) := by omega
    have whole := isWhole_round .positive pos enough (by omega) (by omega)
    rw [roundedNat_of_lt short] at whole
    exact whole

/-- A whole number without an exponent is rounded. -/
theorem ofScientific_whole {number : Nat} (pos : 0 < number) :
    UnpackedFloat.ofScientific Format.binary64 number 0 =
      roundWithAccuracy Format.binary64 .positive (number * 2 ^ 53) (-((53 : Nat) : Int))
        .exact := by
  unfold UnpackedFloat.ofScientific
  split
  · rename_i zero
    omega
  · split
    · rename_i large
      exact absurd large (by decide)
    · split
      · rename_i small
        have bound : (0 : Int) < -((2048 : Int) + number.log2) := small
        omega
      · split
        · simp only [UnpackedFloat.mul, Int.toNat_zero, Nat.pow_zero, Nat.mul_one, Int.add_zero,
            Nat.shiftLeft_eq]
          rfl
        · rename_i negative
          exact absurd (Int.le_refl 0) negative

/-- A natural number of few digits is converted as a word, times one. -/
theorem ofNat_short {number : Nat} (short : number < 2 ^ 53) :
    IsWholeDouble (Float.ofNat number) (roundedNat number) := by
  have word : number.toUInt64.toNat = number := by
    change number % 2 ^ 64 = number
    omega
  have quick : Float.ofNat number = number.toUInt64.toFloat * Float.ofBits 0x3FF0000000000000 := by
    change Float.ofScientific number false 0 = _
    rw [Float.ofScientific, dif_pos ⟨short, by decide⟩]
    rfl
  rw [quick, roundedNat_of_lt short]
  apply IsWholeDouble.mul_one
  have whole : IsWholeDouble number.toUInt64.toFloat number.toUInt64.toNat :=
    isWholeDouble_toFloat (by omega)
  rw [word] at whole
  exact whole

/-- A natural number of many digits is rounded. -/
theorem ofNat_long {number : Nat} (long : 2 ^ 53 ≤ number) (range : number.log2 ≤ 900) :
    IsWholeDouble (Float.ofNat number) (roundedNat number) := by
  have slow : Float.ofNat number =
      .ofModel (.pack (UnpackedFloat.ofScientific Format.binary64 number 0)) := by
    change Float.ofScientific number false 0 = _
    rw [Float.ofScientific, dif_neg (by omega)]
    rfl
  rw [slow, ofScientific_whole (by omega)]
  exact (isWhole_round .positive (by omega) (by omega) range (by decide)).packed

/-- An integer is rounded. -/
theorem isWholeDouble_ofInt {number : Int} (range : number.natAbs < 2 ^ 64) :
    IsWholeDouble (ofInt number) (roundedInt number) := by
  have natural : ∀ size : Nat, size < 2 ^ 64 →
      IsWholeDouble (Float.ofNat size) (roundedNat size) := by
    intro size bound
    -- Numbers that fit are converted as words; only longer ones go through rounding.
    rcases Nat.lt_or_ge size (2 ^ 53) with short | long
    · exact ofNat_short short
    · have digits : size.log2 < 64 := (Nat.log2_lt (by omega)).2 bound
      exact ofNat_long long (by omega)
  cases number with
  | ofNat size =>
    have same : roundedInt (.ofNat size) = roundedNat size := by
      cases size with
      | zero => decide +kernel
      | succ size => exact Int.one_mul _
    rw [same]
    exact natural size range
  | negSucc size =>
    have same : roundedInt (.negSucc size) = -(roundedNat (size + 1) : Int) := by
      change -1 * (roundedNat (size + 1) : Int) = _
      omega
    rw [same]
    exact (natural (size + 1) range).neg

/-! ## The order of doubles -/

/-- Pairs that are less and greater alike are in the same order. -/
theorem compare_congr {α β : Type} [Ord α] [LT α] [LE α] [Std.LawfulOrderOrd α]
    [Std.LawfulOrderLT α] [Ord β] [LT β] [LE β] [Std.LawfulOrderOrd β] [Std.LawfulOrderLT β]
    {first second : α} {third fourth : β} (less : first < second ↔ third < fourth)
    (greater : second < first ↔ fourth < third) : compare first second = compare third fourth := by
  have below : compare first second = .lt ↔ compare third fourth = .lt := by
    rw [Std.compare_eq_lt, Std.compare_eq_lt, less]
  have above : compare first second = .gt ↔ compare third fourth = .gt := by
    rw [Std.compare_eq_gt, Std.compare_eq_gt, greater]
  cases one : compare first second with
  | lt => exact (below.1 one).symm
  | gt => exact (above.1 one).symm
  | eq =>
    cases other : compare third fourth with
    | lt => exact one.symm.trans (below.2 other)
    | gt => exact one.symm.trans (above.2 other)
    | eq => rfl

/-- Zeros behind two numbers do not matter to their order. -/
theorem compare_mul_two_pow (number other shift : Nat) :
    compare (number * 2 ^ shift) (other * 2 ^ shift) = compare number other :=
  have unit : 0 < 2 ^ shift := Nat.two_pow_pos shift
  compare_congr (Nat.mul_lt_mul_right unit) (Nat.mul_lt_mul_right unit)

/-- Scaled mantissas are ordered by how far they are scaled, and then as they are. -/
theorem compare_scaled {mantissa other shift further : Nat}
    (digits : 2 ^ 52 ≤ mantissa ∧ mantissa < 2 ^ 53) (others : 2 ^ 52 ≤ other ∧ other < 2 ^ 53) :
    compare (mantissa * 2 ^ shift) (other * 2 ^ further) =
      (compare shift further).then (compare mantissa other) := by
  -- One more place outweighs all digits of a mantissa.
  have outweighed : ∀ {few many low high : Nat}, few < 2 ^ 53 → 2 ^ 52 ≤ many → low < high →
      few * 2 ^ low < many * 2 ^ high := by
    intro few many low high short long less
    calc
      few * 2 ^ low < 2 ^ 53 * 2 ^ low := Nat.mul_lt_mul_of_pos_right short (Nat.two_pow_pos low)
      _ = 2 ^ 52 * 2 ^ (low + 1) := by rw [← Nat.pow_add, ← Nat.pow_add]; congr 1; omega
      _ ≤ many * 2 ^ high := Nat.mul_le_mul long (Nat.pow_le_pow_right (by decide) less)
  rcases Nat.lt_trichotomy shift further with less | rfl | more
  · rw [Nat.compare_eq_lt.2 less, Nat.compare_eq_lt.2 (outweighed digits.2 others.1 less)]
    rfl
  · rw [Nat.compare_eq_eq.2 rfl]
    exact compare_mul_two_pow mantissa other shift
  · rw [Nat.compare_eq_gt.2 more, Nat.compare_eq_gt.2 (outweighed others.2 digits.1 more)]
    rfl

/-- The whole number that a positive mantissa stands for is positive. -/
theorem size_pos {mantissa size shift : Nat} (pos : 0 < mantissa)
    (same : mantissa * 2 ^ shift = size * 2 ^ 52) : 0 < size := by
  have scaled : 0 < mantissa * 2 ^ shift := Nat.mul_pos pos (Nat.two_pow_pos shift)
  omega

/-- Two whole numbers of one sign are ordered by their exponents and then by their mantissas. -/
theorem compare_exponents {mantissa other size large : Nat} {exponent higher : Int}
    (digits : 2 ^ 52 ≤ mantissa ∧ mantissa < 2 ^ 53) (others : 2 ^ 52 ≤ other ∧ other < 2 ^ 53)
    (range : -52 ≤ exponent) (ranges : -52 ≤ higher)
    (same : mantissa * 2 ^ (exponent + 52).toNat = size * 2 ^ 52)
    (sames : other * 2 ^ (higher + 52).toNat = large * 2 ^ 52) :
    (compare exponent higher).then (compare mantissa other) = compare size large := by
  have places : compare exponent higher = compare (exponent + 52).toNat (higher + 52).toNat :=
    compare_congr (by omega) (by omega)
  rw [places, ← compare_scaled digits others, same, sames, compare_mul_two_pow]

/-- Numbers of one sign are ordered as their sizes are, or the other way round. -/
theorem compare_apply (sign : Sign) (size large : Nat) :
    compare (sign.apply size) (sign.apply large) =
      match sign with
      | .positive => compare size large
      | .negative => (compare size large).swap := by
  cases sign with
  | positive =>
    change compare (size : Int) large = compare size large
    exact compare_congr (by omega) (by omega)
  | negative =>
    change compare (-(size : Int)) (-large) = (compare size large).swap
    rw [Nat.compare_swap]
    exact compare_congr (by omega) (by omega)

/-- Doubles that are whole numbers are ordered as these. -/
theorem IsWhole.compare_eq {left right : UnpackedFloat} {number other : Int}
    (whole : IsWhole left number) (wholes : IsWhole right other) :
    UnpackedFloat.compare left right = some (compare number other) := by
  have above : ∀ {size : Nat}, 0 < size → 0 < Sign.positive.apply size := fun pos => by
    change 0 < ((_ : Nat) : Int)
    omega
  have below : ∀ {size : Nat}, 0 < size → Sign.negative.apply size < 0 := fun pos => by
    change -((_ : Nat) : Int) < 0
    omega
  cases whole with
  | zero =>
    cases wholes with
    | zero => rfl
    | normal sign pos _ _ same =>
      have filled := size_pos pos same
      cases sign with
      | positive => exact congrArg some (Int.compare_eq_lt.2 (above filled)).symm
      | negative => exact congrArg some (Int.compare_eq_gt.2 (below filled)).symm
  | normal sign pos digits range same =>
    have filled := size_pos pos same
    cases wholes with
    | zero =>
      cases sign with
      | positive => exact congrArg some (Int.compare_eq_gt.2 (above filled)).symm
      | negative => exact congrArg some (Int.compare_eq_lt.2 (below filled)).symm
    | normal other_sign pos_other others ranges sames =>
      have also_filled := size_pos pos_other sames
      have sizes := compare_exponents digits others range.1 ranges.1 same sames
      cases sign with
      | positive =>
        cases other_sign with
        | positive => rw [compare_apply, ← sizes]; rfl
        | negative =>
          have less := Int.lt_trans (below also_filled) (above filled)
          exact congrArg some (Int.compare_eq_gt.2 less).symm
      | negative =>
        cases other_sign with
        | positive =>
          have less := Int.lt_trans (below filled) (above also_filled)
          exact congrArg some (Int.compare_eq_lt.2 less).symm
        | negative => rw [compare_apply, ← sizes]; rfl

/-- Whether a double is less than another, both whole numbers. -/
theorem IsWholeDouble.lt_iff {left right : Float} {number other : Int}
    (whole : IsWholeDouble left number) (wholes : IsWholeDouble right other) :
    left < right ↔ number < other := by
  have unfolded : left < right ↔
      (UnpackedFloat.compare left.toModel.unpack right.toModel.unpack == some .lt) = true := by
    change decide (_ = true) = true ↔ _
    rw [decide_eq_true_eq]
    exact Iff.rfl
  rw [unfolded, IsWhole.compare_eq whole wholes, ← Int.compare_eq_lt]
  cases compare number other <;> decide

/-- Whether a double equals another, both whole numbers. -/
theorem IsWholeDouble.beq_eq {left right : Float} {number other : Int}
    (whole : IsWholeDouble left number) (wholes : IsWholeDouble right other) :
    (left == right) = (number == other) := by
  have unfolded : (left == right) =
      (UnpackedFloat.compare left.toModel.unpack right.toModel.unpack == some .eq) := rfl
  rw [unfolded, IsWhole.compare_eq whole wholes, Bool.eq_iff_iff, beq_iff_eq, beq_iff_eq,
    ← Int.compare_eq_eq]
  cases compare number other <;> decide

end NoteTemplate.Number
