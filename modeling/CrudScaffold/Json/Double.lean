import CrudScaffold.Json.Basic

/-!
# Double-precision numbers

A decimal number stands for the double-precision number next to it: a significand of at most 53 bits
times a power of two that is not below the one of `-1074`. Of two that are equally near, the one
with an even significand counts. A number is shown by the fewest digits that lead back to it, and of
texts of that many digits by the nearest one. All of this is arithmetic on natural numbers, so
nothing is rounded twice.
-/

namespace CrudScaffold

/-- The magnitude of a finite double-precision number: a significand times a power of two. -/
structure Double where
  /-- The significand, below two to the power of 53. -/
  significand : Nat
  /-- The power of two that it is multiplied with. -/
  exponent : Int
deriving DecidableEq, Repr, Inhabited

namespace Double

/-- The least power of two. -/
def leastExponent : Int := -1074

/-- The greatest power of two. -/
def greatestExponent : Int := 971

/-- The bound of all significands. -/
def significandBound : Nat := Nat.pow 2 53

/-- A fraction rounded to a whole number; of two that are equally near the even one. -/
def roundHalfEven (numerator denominator : Nat) : Nat :=
  let quotient := numerator / denominator
  let rest := 2 * (numerator % denominator)
  if denominator < rest || (rest == denominator && quotient % 2 == 1) then quotient + 1
  else quotient

/-- The power of two at which a fraction that is not zero is rounded: the significand gets all of
its bits, unless the least power is reached first. -/
def exponentFor (numerator denominator : Nat) : Int :=
  let guess : Int := (Nat.log2 numerator : Int) - Nat.log2 denominator - 53
  let scaled :=
    numerator * Nat.pow 2 (-guess).toNat / (denominator * Nat.pow 2 guess.toNat)
  max leastExponent (if scaled < significandBound then guess else guess + 1)

/-- The number next to a fraction. -/
def ofFraction (numerator denominator : Nat) : Double :=
  if numerator = 0 then ⟨0, leastExponent⟩
  else
    let exponent := exponentFor numerator denominator
    let significand :=
      roundHalfEven (numerator * Nat.pow 2 (-exponent).toNat)
        (denominator * Nat.pow 2 exponent.toNat)
    if significand = significandBound then ⟨significandBound / 2, exponent + 1⟩
    else ⟨significand, exponent⟩

/-- The fraction that a number is. -/
def fraction (value : Double) : Nat × Nat :=
  (value.significand * Nat.pow 2 value.exponent.toNat, Nat.pow 2 (-value.exponent).toNat)

/-- A number that is whole, as a natural number. -/
def whole? (value : Double) : Option Nat :=
  let (numerator, denominator) := value.fraction
  if numerator % denominator = 0 then some (numerator / denominator) else none

/-- The number of digits before the point of a fraction that is not zero; below a tenth it is the
number of zeros behind the point, counted down from zero. -/
def pointPlace (numerator denominator : Nat) : Int :=
  if denominator ≤ numerator then (Nat.repr (numerator / denominator)).length
  else
    let length : Int := (Nat.repr (denominator / numerator)).length
    if numerator * Nat.pow 10 (length - 1).toNat = denominator then 2 - length else 1 - length

/-- The number next to digits times a power of ten. -/
def ofDigits (digits : Nat) (power : Int) : Double :=
  ofFraction (digits * Nat.pow 10 power.toNat) (Nat.pow 10 (-power).toNat)

/-- A text of digits times a power of ten, if it leads back to a number: the nearer of the two of so
many digits, or else the other one. -/
def digitsOfLength? (value : Double) (length : Nat) : Option (Nat × Int) :=
  let (numerator, denominator) := value.fraction
  let power := pointPlace numerator denominator - length
  let numerator := numerator * Nat.pow 10 (-power).toNat
  let denominator := denominator * Nat.pow 10 power.toNat
  let nearer := roundHalfEven numerator denominator
  let below := numerator / denominator
  let farther := if nearer = below then below + 1 else below
  ([nearer, farther].find? fun digits => ofDigits digits power == value).map
    fun digits => (digits, power)

/-- The fewest digits that lead back to a number, and the power of ten that they are multiplied
with. Seventeen digits always lead back. -/
def shortest (value : Double) : Nat × Int :=
  ((List.range 17).findSome? fun length => value.digitsOfLength? (length + 1)).getD (0, 0)

/-- A number in positional form, with a digit on both sides of the point. -/
def positional (digits : List Char) (place : Int) : List Char :=
  if place ≤ 0 then '0' :: '.' :: List.replicate (-place).toNat '0' ++ digits
  else
    let before := digits.take place.toNat
    let behind := digits.drop place.toNat
    before ++ List.replicate (place.toNat - digits.length) '0' ++ '.' ::
      (if behind.isEmpty then ['0'] else behind)

/-- A number with one digit before the point and a power of ten of two digits at least. -/
def scientific (digits : List Char) (place : Int) : List Char :=
  let power := (Nat.repr (place - 1).natAbs).toList
  let behind := digits.drop 1
  digits.take 1 ++ (if behind.isEmpty then [] else '.' :: behind) ++
    'e' :: (if place ≤ 0 then '-' else '+') :: List.replicate (2 - power.length) '0' ++ power

/-- A number by its shortest digits, in positional form unless it is very large or very small. -/
def shown (value : Double) : List Char :=
  if value.significand = 0 then ['0', '.', '0']
  else
    let (number, power) := value.shortest
    let all := (Nat.repr number).toList
    let place := all.length + power
    let digits := (all.reverse.dropWhile (· == '0')).reverse
    if -4 < place && place ≤ 16 then positional digits place else scientific digits place

end Double

/-- The number of decimal digits of a number, without a power of ten being formed. -/
def Decimal.width (value : Decimal) : Nat := (Nat.repr value.digits).length

/-- The magnitude of the double-precision number next to a decimal number, unless it is too large.
The first tests settle huge exponents. -/
def Decimal.nearest? (value : Decimal) : Option Double :=
  if value.digits = 0 || value.exponent + value.width < -400 then some (.ofFraction 0 1)
  else if 400 < value.exponent + value.width then none
  else
    let double := Double.ofDigits value.digits value.exponent
    if Double.greatestExponent < double.exponent then none else some double

/-- The integer that a decimal number stands for, if it stands for a whole one. -/
def Decimal.whole? (value : Decimal) : Option Int :=
  (value.nearest?.bind Double.whole?).map fun magnitude =>
    if value.negative then -(magnitude : Int) else magnitude

/-- Whether a decimal number stands for zero. -/
def Decimal.isZero (value : Decimal) : Bool := value.whole? == some 0

/-- The text of the number that a decimal number stands for, or of the mark that stands in for one
that is too large. -/
def Decimal.shown (infinite : List Char) (value : Decimal) : List Char :=
  (if value.negative then ['-'] else []) ++ (value.nearest?.map Double.shown).getD infinite

end CrudScaffold
