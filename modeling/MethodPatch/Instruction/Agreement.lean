/-
This file says when an instruction of a pattern agrees with an instruction of a body.

A part of an operand can be left open by its sentinel: the slot or integer minus one, or the
text `~`. Agreement treats both sides alike, so a sentinel on either side agrees with anything.
Patterns are settled for a naming scheme before they are searched for; a mapped member that is
still open agrees by either of its names.
-/

import MethodPatch.Instruction

namespace MethodPatch

/-! ### Agreement -/

/-- Agreement of two values one of which may be left open. -/
def agreesUpTo {Value : Type} [DecidableEq Value] (sentinel first second : Value) : Bool :=
  first == sentinel || second == sentinel || first == second

/-- Agreement of names and descriptors. -/
def namesAgree (first second : String) : Bool := agreesUpTo wildcard first second

/-- Agreement of slots. -/
def slotsAgree (first second : Int32) : Bool := agreesUpTo anySlot first second

/-- Agreement of integers. -/
def intsAgree (first second : Int32) : Bool := agreesUpTo anyInt first second

/-- Two references agree part by part. -/
def Member.agrees (first second : Member) : Bool :=
  namesAgree first.owner second.owner && namesAgree first.name second.name &&
    namesAgree first.descriptor second.descriptor

/-- A mapped member agrees with a reference by either of its names. -/
def MappedMember.agrees (mapped : MappedMember) (member : Member) : Bool :=
  namesAgree mapped.declaringType.text member.owner &&
    namesAgree mapped.descriptor member.descriptor &&
    mapped.names.any (namesAgree · member.name)

/-- Two constants agree when they are equal or either is the wildcard. -/
def Constant.agrees (first second : Constant) : Bool :=
  agreesUpTo Constant.any first second

/-- Agreement of operands of one kind. What names no sentinel is compared exactly, except that
labels, raw bytes and missing operands are not compared at all. -/
def Operand.agrees : Operand → Operand → Bool
  | .slot first, .slot second => slotsAgree first second
  | .type first, .type second => namesAgree first second
  | .field first, .field second => first.agrees second
  | .method first, .method second => first.agrees second
  | .constant first, .constant second => first.agrees second
  | .increment index delta, .increment otherIndex otherDelta =>
    index == otherIndex && delta == otherDelta
  | .int first, .int second => intsAgree first second
  | .mapped symbol, .field member => symbol.agrees member
  | .mapped symbol, .method member => symbol.agrees member
  | .field member, .mapped symbol => symbol.agrees member
  | .method member, .mapped symbol => symbol.agrees member
  | .mapped first, .mapped second => first == second
  | _, _ => true

/-- Two instructions agree when operation and operand kind are the same and the operands agree. -/
def Instruction.agrees (first second : Instruction) : Bool :=
  first.opcode == second.opcode && first.kind == second.kind &&
    first.operand.agrees second.operand

end MethodPatch
