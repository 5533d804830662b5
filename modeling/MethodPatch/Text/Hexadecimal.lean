/-
This file writes natural numbers in base sixteen.
-/

namespace MethodPatch.Text

/-- The number in base sixteen with lower-case digits and no leading zero. -/
def lowerHex (number : Nat) : String := String.ofList (Nat.toDigits 16 number)

/-- The number in base sixteen with at least so many lower-case digits. -/
def hexOfWidth (width number : Nat) : String :=
  let digits := Nat.toDigits 16 number
  String.ofList (List.replicate (width - digits.length) '0' ++ digits)

/-- A byte as two upper-case digits of base sixteen. -/
def byteHex (byte : UInt8) : String :=
  String.ofList ((hexOfWidth 2 byte.toNat).toList.map Char.toUpper)

end MethodPatch.Text
