/-
This file writes binary floating-point numbers with the fewest decimal digits.

A finite number is a significand times a power of two, and it stands for every real number
closer to it than to its neighbours. The shortest decimal is the coarsest one that falls into
that interval, and among the decimals of its length the one nearest to the number. All
comparisons are made in exact natural-number arithmetic, so no rounding enters the search.
-/

namespace MethodPatch.Text

/-! ### Reading the bits -/

/-- The widths of the two fields below the sign of a binary floating-point format. -/
structure BinaryFormat where
  fractionBits : Nat
  exponentBits : Nat

/-- The 32-bit format. -/
def BinaryFormat.single : BinaryFormat := ⟨23, 8⟩

/-- The 64-bit format. -/
def BinaryFormat.double : BinaryFormat := ⟨52, 11⟩

/-- The number `significand * 2 ^ exponent`. At a power of two the neighbour below can be half as
far as the neighbour above, which `narrowBelow` records. -/
structure Magnitude where
  significand : Nat
  exponent : Int
  narrowBelow : Bool

/-- What the bits of a binary floating-point number can stand for. -/
inductive BinaryNumber where
  | finite (negative : Bool) (magnitude : Magnitude)
  | infinite (negative : Bool)
  | notANumber

/-- Splits the bits into sign, exponent and fraction and reads the number off them. -/
def BinaryFormat.decode (format : BinaryFormat) (bits : Nat) : BinaryNumber :=
  let implicitBit := Nat.pow 2 format.fractionBits
  let binades := Nat.pow 2 format.exponentBits
  let fraction := bits % implicitBit
  let biased := bits / implicitBit % binades
  let negative := bits / implicitBit / binades % 2 == 1
  let bias := binades / 2 - 1
  if biased = binades - 1 then
    if fraction = 0 then .infinite negative else .notANumber
  else if biased = 0 then
    .finite negative ⟨fraction, Int.subNatNat 1 (bias + format.fractionBits), false⟩
  else
    .finite negative ⟨implicitBit + fraction,
      Int.subNatNat biased (bias + format.fractionBits), fraction == 0 && 1 < biased⟩

/-! ### The interval of a number -/

/-- One decimal grid and one number on a common scale: `step` is the distance of two neighbours
of the grid and `quarter` is a quarter of the last binary place of the number. -/
structure CommonScale where
  step : Nat
  quarter : Nat

/-- The grid of the multiples of `10 ^ power` beside the number. -/
def Magnitude.onGrid (number : Magnitude) (power : Int) : CommonScale where
  step := Nat.pow 10 power.toNat * Nat.pow 2 (2 - number.exponent).toNat
  quarter := Nat.pow 2 (number.exponent - 2).toNat * Nat.pow 10 (-power).toNat

/-- Whether the grid point lies among the reals that round to the number. An end of the interval
is half way to a neighbour, and half ways round to the even significand. -/
def Magnitude.covers (number : Magnitude) (scale : CommonScale) (point : Nat) : Bool :=
  let low := (4 * number.significand - if number.narrowBelow then 1 else 2) * scale.quarter
  let high := (4 * number.significand + 2) * scale.quarter
  let place := point * scale.step
  if number.significand % 2 = 0 then low ≤ place && place ≤ high
  else low < place && place < high

/-- The grid point nearest to the number among those that round to it. It is enough to look at
the two neighbours of the number on the grid. A point half way between them is passed upward. -/
def Magnitude.nearest? (number : Magnitude) (power : Int) : Option Nat :=
  let scale := number.onGrid power
  let exact := 4 * number.significand * scale.quarter
  let below := exact / scale.step
  let above := below + 1
  match number.covers scale below, number.covers scale above with
  | true, true =>
    if exact - below * scale.step < above * scale.step - exact then some below else some above
  | true, false => some below
  | false, true => some above
  | false, false => none

/-! ### The shortest decimal -/

/-- The number `digits * 10 ^ power`. -/
structure Decimal where
  digits : Nat
  power : Int

/-- How many decimal digits a natural number is written with. -/
def digitCount (number : Nat) : Nat := (Nat.toDigits 10 number).length

/-- The power of ten just above a positive number: `10 ^ (leading - 1) ≤ number < 10 ^ leading`.
Below one it is read off the reciprocal. -/
def Magnitude.leading (number : Magnitude) : Int :=
  let numerator := number.significand * Nat.pow 2 number.exponent.toNat
  let denominator := Nat.pow 2 (-number.exponent).toNat
  if denominator ≤ numerator then digitCount (numerator / denominator)
  else 1 - digitCount ((denominator - 1) / numerator)

/-- The number itself as a decimal: a negative power of two is a power of five in tenths. -/
def Magnitude.exactDecimal (number : Magnitude) : Decimal :=
  ⟨number.significand * Nat.pow 2 number.exponent.toNat * Nat.pow 5 (-number.exponent).toNat,
    min number.exponent 0⟩

/-- The decimal with the fewest digits that rounds to the number. Seventeen digits tell any two
64-bit numbers apart, so the search ends before its last resort. -/
def Magnitude.shortest (number : Magnitude) : Decimal :=
  if number.significand = 0 then ⟨0, 0⟩
  else
    let found := (List.range 17).findSome? fun (places : Nat) =>
      let power := number.leading - (places + 1)
      (number.nearest? power).map fun digits => (⟨digits, power⟩ : Decimal)
    found.getD number.exactDecimal

/-! ### Positional text -/

/-- Drops the zeros that end a row of digits. -/
def withoutTrailingZeros (digits : List Char) : List Char :=
  (digits.reverse.dropWhile (· == '0')).reverse

/-- All digits of the decimal in place, never with an exponent, and with a point only where a
fraction follows it. -/
def Decimal.positional (decimal : Decimal) : String :=
  let digits := Nat.toDigits 10 decimal.digits
  if 0 ≤ decimal.power then
    String.ofList (digits ++ List.replicate decimal.power.toNat '0')
  else
    let places := (-decimal.power).toNat
    let padded := List.replicate (places + 1 - digits.length) '0' ++ digits
    let whole := padded.take (padded.length - places)
    let fraction := withoutTrailingZeros (padded.drop (padded.length - places))
    String.ofList (if fraction.isEmpty then whole else whole ++ '.' :: fraction)

/-- The shortest positional text of a number given by its bits. Zero keeps its sign, and a value
that is no number has none. -/
def BinaryFormat.text (format : BinaryFormat) (bits : Nat) : String :=
  match format.decode bits with
  | .finite negative magnitude =>
    (if negative then "-" else "") ++ magnitude.shortest.positional
  | .infinite negative => if negative then "-inf" else "inf"
  | .notANumber => "NaN"

/-- A whole number has no point, however large it is. -/
example : BinaryFormat.double.text 0x444b1ae4d6e2ef50 = "1000000000000000000000" := by
  decide +kernel

/-- The number is 1125899906842624.25, half way between two decimals of the needed length. -/
example : BinaryFormat.double.text 0x4310000000000001 = "1125899906842624.3" := by
  decide +kernel

/-- A tenth of the 32-bit format needs fewer digits than its exact value has. -/
example : BinaryFormat.single.text 0x3dcccccd = "0.1" := by decide +kernel

example : BinaryFormat.single.text 0x80000000 = "-0" := by decide +kernel

end MethodPatch.Text
