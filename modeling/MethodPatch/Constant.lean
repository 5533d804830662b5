/-
This file describes the constants that an instruction can load.

Floating-point constants are kept as their bits. Two of them are equal when their bits are, so a
value that is no number equals itself and the two zeros differ.
-/

import MethodPatch.Member
import MethodPatch.Text.Decimal
import MethodPatch.Text.Quoted

namespace MethodPatch

/-- A value of the constant pool. -/
inductive Constant where
  | int (value : Int32)
  | long (value : Int64)
  | float (bits : UInt32)
  | double (bits : UInt64)
  | string (text : String)
  | type (name : String)
  deriving DecidableEq

namespace Constant

/-- The constant that stands for any constant in a search pattern. -/
def any : Constant := .string wildcard

/-- Whether the constant stands for any constant. -/
def isWildcard : Constant → Bool
  | .string text => text == wildcard
  | _ => false

/-- Whether the constant takes two slots. -/
def isWide : Constant → Bool
  | .long _ => true
  | .double _ => true
  | _ => false

/-- A constant as a reader sees it; a letter tells the number types apart. -/
def text : Constant → String
  | .int value => toString value.toInt
  | .long value => toString value.toInt ++ "L"
  | .float bits => Text.BinaryFormat.single.text bits.toNat ++ "F"
  | .double bits => Text.BinaryFormat.double.text bits.toNat ++ "D"
  | .string text => Text.quoted text
  | .type name => name ++ ".class"

end Constant

end MethodPatch
