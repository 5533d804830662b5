/-
This file holds the instruction set of the Java virtual machine.

Every operation has a number, a mnemonic and one kind of operand. The numbers are given out
without a gap from zero, so the table lists the mnemonics in their order, grouped into runs of
operations with the same kind of operand. The last number of all is kept for label anchors,
which mark a place in a body and are no operation.
-/

namespace MethodPatch

/-! ### Kinds of operands -/

/-- What stands behind the mnemonic of an instruction. -/
inductive OperandKind where
  | none
  | slot
  | type
  | field
  | method
  | constant
  | int
  | increment
  | jump
  | label
  | raw
  deriving DecidableEq

/-- Every kind of operand. -/
def OperandKind.all : List OperandKind :=
  [.none, .slot, .type, .field, .method, .constant, .int, .increment, .jump, .label, .raw]

/-- The word for a kind of operand. -/
def OperandKind.name : OperandKind → String
  | .none => "none"
  | .slot => "local"
  | .type => "type"
  | .field => "field"
  | .method => "method"
  | .constant => "constant"
  | .int => "int"
  | .increment => "increment"
  | .jump => "jump"
  | .label => "label"
  | .raw => "raw"

/-! ### The table of operations -/

/-- The number of an operation. -/
abbrev Opcode := UInt8

/-- What the instruction set says of an operation. -/
structure Operation where
  mnemonic : String
  operand : OperandKind

namespace Opcode

/-- The mnemonics in the order of their numbers, in runs of one operand kind. -/
def runs : List (OperandKind × List String) := [
  (.none, ["nop", "aconst_null", "iconst_m1", "iconst_0", "iconst_1", "iconst_2", "iconst_3",
    "iconst_4", "iconst_5", "lconst_0", "lconst_1", "fconst_0", "fconst_1", "fconst_2",
    "dconst_0", "dconst_1"]),
  (.int, ["bipush", "sipush"]),
  (.constant, ["ldc", "ldc_w", "ldc2_w"]),
  (.slot, ["iload", "lload", "fload", "dload", "aload"]),
  (.none, ["iload_0", "iload_1", "iload_2", "iload_3", "lload_0", "lload_1", "lload_2", "lload_3",
    "fload_0", "fload_1", "fload_2", "fload_3", "dload_0", "dload_1", "dload_2", "dload_3",
    "aload_0", "aload_1", "aload_2", "aload_3", "iaload", "laload", "faload", "daload", "aaload",
    "baload", "caload", "saload"]),
  (.slot, ["istore", "lstore", "fstore", "dstore", "astore"]),
  (.none, ["istore_0", "istore_1", "istore_2", "istore_3", "lstore_0", "lstore_1", "lstore_2",
    "lstore_3", "fstore_0", "fstore_1", "fstore_2", "fstore_3", "dstore_0", "dstore_1",
    "dstore_2", "dstore_3", "astore_0", "astore_1", "astore_2", "astore_3", "iastore", "lastore",
    "fastore", "dastore", "aastore", "bastore", "castore", "sastore", "pop", "pop2", "dup",
    "dup_x1", "dup_x2", "dup2", "dup2_x1", "dup2_x2", "swap", "iadd", "ladd", "fadd", "dadd",
    "isub", "lsub", "fsub", "dsub", "imul", "lmul", "fmul", "dmul", "idiv", "ldiv", "fdiv",
    "ddiv", "irem", "lrem", "frem", "drem", "ineg", "lneg", "fneg", "dneg", "ishl", "lshl",
    "ishr", "lshr", "iushr", "lushr", "iand", "land", "ior", "lor", "ixor", "lxor"]),
  (.increment, ["iinc"]),
  (.none, ["i2l", "i2f", "i2d", "l2i", "l2f", "l2d", "f2i", "f2l", "f2d", "d2i", "d2l", "d2f",
    "i2b", "i2c", "i2s", "lcmp", "fcmpl", "fcmpg", "dcmpl", "dcmpg"]),
  (.jump, ["ifeq", "ifne", "iflt", "ifge", "ifgt", "ifle", "if_icmpeq", "if_icmpne", "if_icmplt",
    "if_icmpge", "if_icmpgt", "if_icmple", "if_acmpeq", "if_acmpne", "goto", "jsr"]),
  (.slot, ["ret"]),
  (.raw, ["tableswitch", "lookupswitch"]),
  (.none, ["ireturn", "lreturn", "freturn", "dreturn", "areturn", "return"]),
  (.field, ["getstatic", "putstatic", "getfield", "putfield"]),
  (.method, ["invokevirtual", "invokespecial", "invokestatic", "invokeinterface"]),
  (.raw, ["invokedynamic"]),
  (.type, ["new"]),
  (.int, ["newarray"]),
  (.type, ["anewarray"]),
  (.none, ["arraylength", "athrow"]),
  (.type, ["checkcast", "instanceof"]),
  (.none, ["monitorenter", "monitorexit"]),
  (.raw, ["wide", "multianewarray"]),
  (.jump, ["ifnull", "ifnonnull", "goto_w", "jsr_w"])]

/-- The operations in the order of their numbers. -/
def table : Array Operation :=
  (runs.flatMap fun run => run.2.map fun mnemonic => ⟨mnemonic, run.1⟩).toArray

/-- The number of a label anchor. -/
def anchor : Opcode := 0xff

/-- Loads a constant that takes one slot. -/
def loadConstant : Opcode := 0x12

/-- Loads a constant that takes two slots. -/
def loadWideConstant : Opcode := 0x14

/-- Adds a constant to a local variable. -/
def incrementLocal : Opcode := 0x84

/-- The operation with a number, if the instruction set gives the number out. -/
def operation? (opcode : Opcode) : Option Operation :=
  if opcode = anchor then some ⟨"label", .label⟩ else table[opcode.toNat]?

/-- The mnemonic of an operation. -/
def mnemonic (opcode : Opcode) : String :=
  match operation? opcode with
  | some operation => operation.mnemonic
  | none => "<unknown>"

/-- Whether control never reaches the next instruction because the method ends here. -/
def endsMethod (opcode : Opcode) : Bool :=
  0xac ≤ opcode && opcode ≤ 0xb1 || opcode == 0xbf

/-- How many numbers the instruction set gives out. -/
def assignedCount : Nat :=
  ((List.range 256).filter fun number => (operation? (UInt8.ofNat number)).isSome).length

example : assignedCount = 203 := by decide +kernel

example : (loadWideConstant.mnemonic, incrementLocal.mnemonic) = ("ldc2_w", "iinc") := by
  decide +kernel

end Opcode

end MethodPatch
