import NoteTemplate.Number.Power

/-!
# Exact content of a double

A double is not a number, an infinity, or a sign with a whole mantissa scaled by
a power of two. Every text written for a double is computed from this content in
exact natural arithmetic, so no rounding happens on the way.
-/

namespace NoteTemplate.Number

/-- What the sixty-four bits of a double stand for. -/
inductive Binary64 where
  /-- The bits encode no number. -/
  | nan
  /-- The bits encode an infinity of the given sign. -/
  | infinite (negative : Bool)
  /-- The bits encode plus or minus `mantissa * 2 ^ exponent`. -/
  | finite (negative : Bool) (mantissa : Nat) (exponent : Int)
deriving Repr, DecidableEq

/-- Splits a word into its sign, its biased exponent and its fraction. -/
def Binary64.ofBits (bits : Nat) : Binary64 :=
  let negative := decide (bits / twoTo 63 % 2 = 1)
  let biased : Nat := bits / twoTo 52 % twoTo 11
  let fraction : Nat := bits % twoTo 52
  if biased = 2047 then
    if fraction = 0 then .infinite negative else .nan
  else if biased = 0 then .finite negative fraction (-1074)
  else .finite negative (twoTo 52 + fraction) ((biased : Int) - 1075)

/-- The exact content of a double. -/
def Binary64.ofFloat (number : Float) : Binary64 := ofBits number.toBits.toNat

/-- The whole number that `mantissa * 2 ^ exponent` equals, when it is whole. -/
def wholePart? (mantissa : Nat) (exponent : Int) : Option Nat :=
  if 0 ≤ exponent then some (mantissa * twoTo exponent.toNat)
  else
    let unit := twoTo (-exponent).toNat
    if mantissa % unit = 0 then some (mantissa / unit) else none

/-- The integer that a finite double equals exactly; no other double has one. -/
def Binary64.integer? : Binary64 → Option Int
  | .finite negative mantissa exponent =>
    (wholePart? mantissa exponent).map fun whole =>
      if negative then -(whole : Int) else (whole : Int)
  | _ => none

/-- A double with a finite value. -/
def Binary64.isFinite : Binary64 → Bool
  | .finite .. => true
  | _ => false

/-- The double nearest to an integer, a tie going to the even mantissa. -/
def ofInt (whole : Int) : Float := Float.ofInt whole

end NoteTemplate.Number
