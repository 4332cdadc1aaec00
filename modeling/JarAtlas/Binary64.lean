import JarAtlas.Text.Basic

/-!
# Binary fractions of 64 bits

A finite number is a sign, a mantissa below `2 ^ 53` and a power of two. Numbers are read from
decimals by rounding to the nearest, ties to the even mantissa, all in exact arithmetic. Two texts
are written: the shortest decimal that reads back as the number, and the decimal of at most six
digits.
-/

namespace JarAtlas

/-- A number of the 64-bit binary format. -/
inductive Binary64
  | finite (negative : Bool) (mantissa : Nat) (exponent : Int)
  | infinite (negative : Bool)
  | undefined
deriving DecidableEq, Repr

namespace Binary64

/-- The quotient rounded to the nearest, a tie to the even neighbour. -/
def roundDiv (numerator denominator : Nat) : Nat :=
  let quotient := numerator / denominator
  let twice := 2 * (numerator % denominator)
  if denominator < twice ∨ (twice = denominator ∧ quotient % 2 = 1) then quotient + 1 else quotient

/-- `numerator / denominator` times `base ^ power`, as a fraction. -/
def scaled (base numerator denominator : Nat) (power : Int) : Nat × Nat :=
  if 0 ≤ power then (numerator * base.pow power.toNat, denominator)
  else (numerator, denominator * base.pow (-power).toNat)

/-- The least mantissa of 53 bits. -/
def leastFullMantissa : Nat := Nat.pow 2 52

/-- The nearest number to a positive fraction: the mantissa has 53 bits unless the exponent is the
least one, and a number too large for the greatest exponent is infinite. -/
def ofFraction (negative : Bool) (numerator denominator : Nat) : Binary64 :=
  let guess : Int := (numerator.log2 : Int) - (denominator.log2 : Int) - 52
  let fits (exponent : Int) : Bool :=
    let (above, below) := scaled 2 numerator denominator (-exponent)
    leastFullMantissa * below ≤ above
  let exponent := max (if fits guess then guess else guess - 1) (-1074)
  let (above, below) := scaled 2 numerator denominator (-exponent)
  let mantissa := roundDiv above below
  let (mantissa, exponent) :=
    if mantissa = 2 * leastFullMantissa then (leastFullMantissa, exponent + 1)
    else (mantissa, exponent)
  if 971 < exponent then infinite negative else finite negative mantissa exponent

/-- The number that `digits · 10 ^ power` reads as. Decimals beyond the format's range are told by
their length, without computing the power. -/
def ofDecimal (negative : Bool) (digits : Nat) (power : Int) : Binary64 :=
  let magnitude := power + (Nat.toDigits 10 digits).length
  if digits = 0 ∨ magnitude < -330 then finite negative 0 (-1074)
  else if 310 < magnitude then infinite negative
  else
    let (numerator, denominator) := scaled 10 digits 1 power
    ofFraction negative numerator denominator

/-- The number that an integer reads as. -/
def ofInt (number : Int) : Binary64 := ofDecimal (decide (number < 0)) number.natAbs 0

/-- The place of the decimal point of a positive fraction: the least power of ten above it. -/
def pointOf (numerator denominator : Nat) : Int :=
  if denominator ≤ numerator then (Nat.toDigits 10 (numerator / denominator)).length
  else
    match (List.range 400).find? fun zeros => denominator ≤ numerator * Nat.pow 10 (zeros + 1) with
    | some zeros => -(zeros : Int)
    | none => -400

/-- Decimal digits without leading zeros or trailing ones, and the place of the point in front of
them: `0.digits · 10 ^ point`. -/
structure Decimal where
  digits : Text
  point : Int
deriving DecidableEq, Repr

/-- The decimal of `digits` that has `count` digits behind `point`, less its trailing zeros. Digits
that need one place more have carried over. -/
def Decimal.ofGrid (digits count : Nat) (point : Int) : Decimal :=
  let text := Nat.toDigits 10 digits
  let point := if count < text.length then point + 1 else point
  ⟨(text.reverse.dropWhile (· = '0')).reverse, point⟩

/-- The decimal with the fewest digits that reads back as the finite number, the nearest of those;
of two equally near ones that with an even last digit. -/
def shortestDecimal (mantissa : Nat) (exponent : Int) : Decimal :=
  let (numerator, denominator) := scaled 2 (4 * mantissa) 1 (exponent - 2)
  let (half, _) := scaled 2 2 1 (exponent - 2)
  let point := pointOf numerator denominator
  let below := if mantissa = leastFullMantissa ∧ -1074 < exponent then half / 2 else half
  let even := mantissa % 2 = 0
  let readsBack (above unit : Nat) : Bool :=
    let (low, high, here) := ((numerator - below) * unit, (numerator + half) * unit, above)
    (low < here ∧ here < high) ∨ (even ∧ (low = here ∨ here = high))
  let attempt (count : Nat) : Option Decimal :=
    let (scale, unit) := scaled 10 denominator 1 (point - count)
    let lower := numerator * unit / scale
    let upper := lower + 1
    let distanceBelow := numerator * unit - lower * scale
    let distanceAbove := upper * scale - numerator * unit
    let upperFirst := distanceAbove < distanceBelow ∨
      (distanceAbove = distanceBelow ∧ upper % 2 = 0)
    let candidates := if upperFirst then [upper, lower] else [lower, upper]
    (candidates.find? fun digits => readsBack (digits * scale) unit).map fun digits =>
      Decimal.ofGrid digits count point
  ((List.range 17).findSome? fun count => attempt (count + 1)).getD ⟨"0", 1⟩

/-- The decimal of at most six digits nearest to the finite number. -/
def sixDigits (mantissa : Nat) (exponent : Int) : Decimal :=
  let (numerator, denominator) := scaled 2 mantissa 1 exponent
  let point := pointOf numerator denominator
  let (scale, unit) := scaled 10 denominator 1 (point - 6)
  Decimal.ofGrid (roundDiv (numerator * unit) scale) 6 point

/-- The digits with the point at its place, zeros filling up to it; a number without a fraction ends
in `wholeEnding`. -/
def Decimal.positional (decimal : Decimal) (wholeEnding : Text) : Text :=
  let count : Int := decimal.digits.length
  if decimal.point ≤ 0 then "0." ++ List.replicate (-decimal.point).toNat '0' ++ decimal.digits
  else if count ≤ decimal.point then
    decimal.digits ++ List.replicate (decimal.point - count).toNat '0' ++ wholeEnding
  else decimal.digits.take decimal.point.toNat ++ '.' :: decimal.digits.drop decimal.point.toNat

/-- One digit in front of the point, and a power of ten of at least two digits behind. -/
def Decimal.scientific (decimal : Decimal) : Text :=
  let power := decimal.point - 1
  let size := Text.ofNat power.natAbs
  let fraction := decimal.digits.drop 1
  decimal.digits.take 1 ++ (if fraction.isEmpty then [] else '.' :: fraction) ++
    'e' :: (if power < 0 then '-' else '+') :: (if size.length < 2 then '0' :: size else size)

/-- A number in the form that `write` gives its decimal. -/
def textWith (zero : Text) (write : Nat → Int → Text) : Binary64 → Text
  | undefined => "nan"
  | infinite negative => (if negative then ['-'] else []) ++ "inf"
  | finite negative mantissa exponent =>
    (if negative then ['-'] else []) ++ if mantissa = 0 then zero else write mantissa exponent

/-- The shortest text that reads back: positional from `10 ^ -4` up to `10 ^ 16`, always with a
point or a power. -/
def shortest : Binary64 → Text :=
  textWith "0.0" fun mantissa exponent =>
    let decimal := shortestDecimal mantissa exponent
    if -4 < decimal.point ∧ decimal.point ≤ 16 then decimal.positional ".0" else decimal.scientific

/-- The text of at most six digits: positional from `10 ^ -4` up to `10 ^ 6`, without a point when
nothing follows it. -/
def general : Binary64 → Text :=
  textWith "0" fun mantissa exponent =>
    let decimal := sixDigits mantissa exponent
    if -4 < decimal.point ∧ decimal.point ≤ 6 then decimal.positional [] else decimal.scientific

end Binary64

end JarAtlas
