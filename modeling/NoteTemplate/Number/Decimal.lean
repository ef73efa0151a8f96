import NoteTemplate.Number.Binary64

/-!
# Decimal text of exact binary values

`Decimal.shortest` chooses the fewest digits that still identify a double, and of
several such decimals the one nearest to it. `fixedPlaces` rounds the exact value
to a number of places, a half going to the even neighbour. Both work on the
mantissa and the exponent alone.
-/

namespace NoteTemplate.Number

/-- The decimal digits of a natural number, most significant first. -/
def digits (value : Nat) : List Char := Nat.toDigits 10 value

/-- The decimal text of an integer. -/
def integerText (value : Int) : List Char :=
  if value < 0 then '-' :: digits value.natAbs else digits value.natAbs

/-- A decimal `0.d₁d₂… * 10 ^ point` given by its digits. -/
structure Decimal where
  /-- Significant digits without trailing zeros. -/
  significant : List Char
  /-- How many digits stand before the decimal point. -/
  point : Int
deriving Repr, DecidableEq

/-- Which of two equally near decimals represents a value. -/
inductive Tie where
  /-- The decimal with the even last digit. -/
  | even
  /-- The decimal of the larger magnitude. -/
  | up
deriving Repr, DecidableEq

/-- A positive binary value with the bounds of the reals that round to it, all
over one common denominator. -/
structure Neighbourhood where
  /-- Halfway to the double below. -/
  low : Nat
  /-- The value itself. -/
  centre : Nat
  /-- Halfway to the double above. -/
  high : Nat
  /-- The common denominator. -/
  unit : Nat
  /-- The two bounds themselves round to the value. -/
  inclusive : Bool

/-- The neighbourhood of `mantissa * 2 ^ exponent`. Below a power of two the
doubles are twice as dense, so the lower bound is nearer. -/
def Neighbourhood.of (mantissa : Nat) (exponent : Int) : Neighbourhood :=
  let below := if mantissa = twoTo 52 ∧ -1074 < exponent then 1 else 2
  let scale := twoTo (exponent - 2).toNat
  { low := (4 * mantissa - below) * scale
    centre := 4 * mantissa * scale
    high := (4 * mantissa + 2) * scale
    unit := twoTo (2 - exponent).toNat
    inclusive := mantissa % 2 = 0 }

/-- Whether `count * 10 ^ grid` rounds to the value of the neighbourhood. -/
def Neighbourhood.contains (near : Neighbourhood) (count : Nat) (grid : Int) : Bool :=
  let point := count * tenTo grid.toNat * near.unit
  let low := near.low * tenTo (-grid).toNat
  let high := near.high * tenTo (-grid).toNat
  if near.inclusive then low ≤ point && point ≤ high else low < point && point < high

/-- The multiple of `10 ^ grid` that stands for the value, if the one just below
or the one just above lies in the neighbourhood. -/
def Neighbourhood.onGrid? (near : Neighbourhood) (tie : Tie) (grid : Int) : Option Nat :=
  let centre := near.centre * tenTo (-grid).toNat
  let step := near.unit * tenTo grid.toNat
  let lower := centre / step
  let upper := lower + 1
  match near.contains lower grid, near.contains upper grid with
  | false, false => none
  | true, false => some lower
  | false, true => some upper
  | true, true =>
    match compare (2 * centre) ((lower + upper) * step) with
    | .lt => some lower
    | .gt => some upper
    | .eq =>
      match tie with
      | .up => some upper
      | .even => some (if lower % 2 = 0 then lower else upper)

/-- How many digits the value has before its decimal point; for a value below
one, minus the number of zeros that follow the point. -/
def Neighbourhood.point (near : Neighbourhood) : Int :=
  ((digits (near.centre * tenTo 330 / near.unit)).length : Int) - 330

/-- Drops the zeros at the end of a list of digits. -/
def dropTrailingZeros (text : List Char) : List Char :=
  (text.reverse.dropWhile (· = '0')).reverse

/-- The decimal `count * 10 ^ grid`. -/
def Decimal.ofGrid (count : Nat) (grid : Int) : Decimal :=
  let text := digits count
  { significant := dropTrailingZeros text, point := (text.length : Int) + grid }

/-- The decimal of fewest digits that identifies `mantissa * 2 ^ exponent`, for a
positive mantissa. Seventeen digits always suffice. -/
def Decimal.shortest (tie : Tie) (mantissa : Nat) (exponent : Int) : Decimal :=
  let near := Neighbourhood.of mantissa exponent
  let point := near.point
  let found := (List.range 17).findSome? fun count =>
    let grid := point - (count + 1 : Nat)
    (near.onGrid? tie grid).map fun multiple => Decimal.ofGrid multiple grid
  found.getD (Decimal.ofGrid (near.centre * tenTo 330 / near.unit) (-330))

/-- The decisions of one written form of doubles. -/
structure Style where
  /-- Which of two equally near decimals is written. -/
  tie : Tie
  /-- What follows the digits of a whole number. -/
  wholeEnding : List Char
  /-- The values of `Decimal.point` that are written without an exponent, first
  and last; with none, every value is. -/
  positional : Option (Int × Int)
  /-- What stands between the exponent mark and a positive exponent. -/
  positiveExponent : List Char

/-- A run of zeros. -/
def zeros (count : Nat) : List Char := List.replicate count '0'

/-- Writes a decimal without an exponent. -/
def Decimal.positional (decimal : Decimal) (wholeEnding : List Char) : List Char :=
  let count : Int := decimal.significant.length
  if decimal.point ≤ 0 then
    '0' :: '.' :: zeros (-decimal.point).toNat ++ decimal.significant
  else if count ≤ decimal.point then
    decimal.significant ++ zeros (decimal.point - count).toNat ++ wholeEnding
  else
    decimal.significant.take decimal.point.toNat ++
      '.' :: decimal.significant.drop decimal.point.toNat

/-- Writes a decimal with one digit before the point and an exponent. -/
def Decimal.scientific (decimal : Decimal) (positiveExponent : List Char) : List Char :=
  let exponent := decimal.point - 1
  let fraction := decimal.significant.drop 1
  decimal.significant.take 1 ++ (if fraction.isEmpty then [] else '.' :: fraction) ++
    'e' :: (if exponent < 0 then integerText exponent else positiveExponent ++ integerText exponent)

/-- Writes a decimal in a style. -/
def Style.write (style : Style) (decimal : Decimal) : List Char :=
  match style.positional with
  | none => decimal.positional style.wholeEnding
  | some (first, last) =>
    if first ≤ decimal.point ∧ decimal.point ≤ last then decimal.positional style.wholeEnding
    else decimal.scientific style.positiveExponent

/-- Writes a finite double in a style. -/
def Style.finite (style : Style) (negative : Bool) (mantissa : Nat) (exponent : Int) :
    List Char :=
  let sign := if negative then ['-'] else []
  if mantissa = 0 then sign ++ '0' :: style.wholeEnding
  else sign ++ style.write (Decimal.shortest style.tie mantissa exponent)

/-- The quotient of two naturals rounded to the nearest integer, a half to the
even one. -/
def roundedQuotient (numerator denominator : Nat) : Nat :=
  let whole := numerator / denominator
  match compare (2 * (numerator % denominator)) denominator with
  | .lt => whole
  | .gt => whole + 1
  | .eq => if whole % 2 = 0 then whole else whole + 1

/-- Writes `count / 10 ^ places` with exactly that many places. -/
def placed (count places : Nat) : List Char :=
  let text := digits count
  let padded := zeros (places + 1 - text.length) ++ text
  if places = 0 then padded
  else padded.take (padded.length - places) ++ '.' :: padded.drop (padded.length - places)

/-- Writes a finite double with a fixed number of places. -/
def fixedPlaces (places : Nat) (negative : Bool) (mantissa : Nat) (exponent : Int) : List Char :=
  let count :=
    roundedQuotient (mantissa * twoTo exponent.toNat * tenTo places) (twoTo (-exponent).toNat)
  (if negative then ['-'] else []) ++ placed count places

end NoteTemplate.Number
