/-
This file describes single instructions.

An instruction is an operation and an operand. Branches go to labels and not to positions: a
label is anchored by an instruction of its own, which travels with the code around it, so code
can be put in and taken out without touching any branch. A reference to a mapped member stays
open until the naming scheme is known, and `Instruction.resolve` settles it.
-/

import MethodPatch.Constant
import MethodPatch.PatchError

namespace MethodPatch

/-! ### Labels -/

/-- A place in a body, known by its name. -/
structure Label where
  name : String
  deriving DecidableEq

/-- Labels are ordered by the code points of their names. -/
instance : LT Label := ⟨fun first second => first.name < second.name⟩

instance : DecidableLT Label :=
  fun first second => inferInstanceAs (Decidable (first.name < second.name))

/-! ### Operands -/

/-- What stands behind the mnemonic of an instruction. Nothing ties an operand to an operation;
whether they fit is a question of its own, see `Instruction.check`. -/
inductive Operand where
  | none
  | slot (index : Int32)
  | type (name : String)
  | field (member : Member)
  | method (member : Member)
  | mapped (member : MappedMember)
  | constant (value : Constant)
  | int (value : Int32)
  | increment (slot : UInt16) (delta : Int16)
  | jump (target : Label)
  | label (label : Label)
  | raw (bytes : List UInt8)
  deriving DecidableEq

/-- The slot that stands for any slot in a search pattern. -/
def anySlot : Int32 := -1

/-- The integer that stands for any integer in a search pattern. -/
def anyInt : Int32 := -1

namespace Operand

/-- The kind of an operand. A mapped member is of the kind that it is resolved to. -/
def kind : Operand → OperandKind
  | none => .none
  | slot _ => .slot
  | type _ => .type
  | field _ => .field
  | method _ => .method
  | mapped member => match member.kind with
    | .method => .method
    | .field => .field
  | constant _ => .constant
  | int _ => .int
  | increment _ _ => .increment
  | jump _ => .jump
  | label _ => .label
  | raw _ => .raw

/-- The operand with a mapped member replaced by its reference in the naming scheme. -/
def resolve (naming : Naming) : Operand → Operand
  | mapped member => match member.kind with
    | .method => method (member.reference naming)
    | .field => field (member.reference naming)
  | operand => operand

/-- Settling a mapped member keeps the kind of the operand. -/
@[simp] theorem kind_resolve (naming : Naming) (operand : Operand) :
    (operand.resolve naming).kind = operand.kind := by
  cases operand with
  | mapped member => cases member with | mk kind => cases kind <;> rfl
  | _ => rfl

theorem resolve_ne_mapped (naming : Naming) (operand : Operand) (member : MappedMember) :
    operand.resolve naming ≠ .mapped member := by
  cases operand with
  | mapped symbol =>
    cases kind : symbol.kind <;> simp [resolve, kind]
  | _ => exact nofun

end Operand

/-! ### Instructions -/

/-- An operation with its operand. -/
structure Instruction where
  opcode : Opcode
  operand : Operand
  deriving DecidableEq

namespace Instruction

/-- An anchor of the label. -/
def anchor (label : Label) : Instruction := ⟨.anchor, .label label⟩

/-- Loads a constant with the operation for its width. -/
def load (constant : Constant) : Instruction :=
  ⟨if constant.isWide then .loadWideConstant else .loadConstant, .constant constant⟩

/-- Adds a constant to a local variable. -/
def increment (slot : UInt16) (delta : Int16) : Instruction :=
  ⟨.incrementLocal, .increment slot delta⟩

/-- The kind of the operand. -/
def kind (instruction : Instruction) : OperandKind := instruction.operand.kind

/-- The mnemonic of the operation. -/
def mnemonic (instruction : Instruction) : String := instruction.opcode.mnemonic

/-- The label anchored here, if the instruction is an anchor. -/
def anchored? (instruction : Instruction) : Option Label :=
  match instruction.operand with
  | .label label => some label
  | _ => none

/-- The label branched to, if the instruction is a branch. -/
def target? (instruction : Instruction) : Option Label :=
  match instruction.operand with
  | .jump label => some label
  | _ => none

/-- The mapped member referred to, if there is one. -/
def mapped? (instruction : Instruction) : Option MappedMember :=
  match instruction.operand with
  | .mapped member => some member
  | _ => none

theorem mapped?_eq_some {instruction : Instruction} {member : MappedMember} :
    instruction.mapped? = some member ↔ instruction.operand = .mapped member := by
  rw [mapped?]
  cases instruction.operand <;> simp

/-- Whether the instruction is a label anchor, which does nothing when it is reached. -/
def isAnchor (instruction : Instruction) : Bool := instruction.anchored?.isSome

/-- The instruction with a mapped member settled for the naming scheme. -/
def resolve (naming : Naming) (instruction : Instruction) : Instruction :=
  { instruction with operand := instruction.operand.resolve naming }

/-! ### Text -/

/-- An operand that a pattern can leave open. -/
def starred (value sentinel : Int32) : String :=
  if value = sentinel then "*" else toString value.toInt

/-- An instruction as a reader sees it. -/
def text (instruction : Instruction) : String :=
  let named (operand : String) := instruction.mnemonic ++ " " ++ operand
  match instruction.operand with
  | .none => instruction.mnemonic
  | .slot index => named (starred index anySlot)
  | .type name => named name
  | .field member => named member.text
  | .method member => named member.text
  | .mapped member => named member.text
  | .constant value => named value.text
  | .int value => named (starred value anyInt)
  | .increment slot delta => named s!"{slot.toNat} {delta.toInt}"
  | .jump target => named target.name
  | .label label => label.name ++ ":"
  | .raw bytes => named s!"<{bytes.length} bytes>"

/-! ### Fitting operands -/

/-- Whether the operation loads a constant of this width. The wildcard has no width. -/
def fitsWidth (opcode : Opcode) (constant : Constant) : Bool :=
  constant.isWildcard || constant.isWide == (opcode == .loadWideConstant)

/-- Accepts the instruction when its operation exists, takes an operand of its kind, and loads a
constant of its width. -/
def check (instruction : Instruction) : Except PatchError Unit :=
  match instruction.opcode.operation? with
  | none => .error (.unknownOpcode instruction.opcode)
  | some operation =>
    if operation.operand = instruction.kind then
      match instruction.operand with
      | .constant constant =>
        if fitsWidth instruction.opcode constant then .ok ()
        else
          let expected :=
            if instruction.opcode = .loadWideConstant then "long or double constant"
            else "single-slot constant"
          .error (.operandMismatch operation.mnemonic expected constant.text)
      | _ => .ok ()
    else
      .error (.operandMismatch operation.mnemonic operation.operand.name instruction.kind.name)

end Instruction

end MethodPatch
