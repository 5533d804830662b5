/-
This file says what agreement means when both sides may leave parts open.

Two instructions agree when they can stand for one and the same instruction, that is when both of
them cover it. So agreement is reflexive and symmetric, but it is passed on only by an instruction
that leaves nothing open: the integers five and six agree with the wildcard and not with each other.
Mapped members that are not settled are left aside where it matters which instruction is covered, as
they agree by either of two names.
-/

import MethodPatch.Proofs.Covering

namespace MethodPatch

/-! ### Single parts -/

section Parts

variable {Value : Type} [DecidableEq Value] {sentinel first second : Value}

/-- Two values agree when there is a value that each of them is or leaves open. -/
theorem agreesUpTo_iff_exists : agreesUpTo sentinel first second = true ↔
    ∃ common, (first = sentinel ∨ first = common) ∧ (second = sentinel ∨ second = common) := by
  simp only [agreesUpTo, Bool.or_eq_true, beq_iff_eq]
  constructor
  · rintro ((openFirst | openSecond) | rfl)
    · exact ⟨second, Or.inl openFirst, Or.inr rfl⟩
    · exact ⟨first, Or.inr rfl, Or.inl openSecond⟩
    · exact ⟨first, Or.inr rfl, Or.inr rfl⟩
  · rintro ⟨common, openFirst | rfl, openSecond | rfl⟩
    · exact Or.inl (Or.inl openFirst)
    · exact Or.inl (Or.inl openFirst)
    · exact Or.inl (Or.inr openSecond)
    · exact Or.inr rfl

theorem agreesUpTo_self (sentinel value : Value) : agreesUpTo sentinel value value = true :=
  agreesUpTo_iff_exists.mpr ⟨value, Or.inr rfl, Or.inr rfl⟩

theorem agreesUpTo_comm (sentinel first second : Value) :
    agreesUpTo sentinel first second = agreesUpTo sentinel second first := by
  rw [Bool.eq_iff_iff, agreesUpTo_iff_exists, agreesUpTo_iff_exists]
  exact exists_congr fun common => and_comm

end Parts

namespace Member

theorem agrees_iff_exists {first second : Member} :
    first.agrees second = true ↔ ∃ common, first.Covers common ∧ second.Covers common := by
  simp only [agrees, namesAgree, Bool.and_eq_true, agreesUpTo_iff_exists]
  constructor
  · rintro ⟨⟨⟨owner, coversOwner⟩, name, coversName⟩, descriptor, coversDescriptor⟩
    exact ⟨⟨owner, name, descriptor⟩, ⟨coversOwner.1, coversName.1, coversDescriptor.1⟩,
      ⟨coversOwner.2, coversName.2, coversDescriptor.2⟩⟩
  · rintro ⟨common, coversFirst, coversSecond⟩
    exact ⟨⟨⟨common.owner, coversFirst.owner, coversSecond.owner⟩,
      common.name, coversFirst.name, coversSecond.name⟩,
      common.descriptor, coversFirst.descriptor, coversSecond.descriptor⟩

theorem covers_self (member : Member) : member.Covers member :=
  ⟨Or.inr rfl, Or.inr rfl, Or.inr rfl⟩

theorem agrees_self (member : Member) : member.agrees member = true :=
  agrees_iff_exists.mpr ⟨member, member.covers_self, member.covers_self⟩

theorem agrees_comm (first second : Member) : first.agrees second = second.agrees first := by
  rw [Bool.eq_iff_iff, agrees_iff_exists, agrees_iff_exists]
  exact exists_congr fun common => and_comm

end Member

/-! ### Operands -/

namespace Operand

variable {first second : Operand}

/-- Two operands of one kind agree when both of them cover some operand. -/
theorem agrees_iff_exists (sameKind : first.kind = second.kind)
    (settledFirst : ∀ member, first ≠ .mapped member)
    (settledSecond : ∀ member, second ≠ .mapped member) :
    first.agrees second = true ↔ ∃ common, first.Covers common ∧ second.Covers common := by
  cases writtenAlike_of_kind sameKind settledFirst settledSecond with
  | none => exact ⟨fun _ => ⟨.none, .none, .none⟩, fun _ => rfl⟩
  | slot index other =>
    rw [agrees, slotsAgree, agreesUpTo_iff_exists]
    constructor
    · rintro ⟨common, here, there⟩
      exact ⟨.slot common, .slot here, .slot there⟩
    · rintro ⟨_, coversFirst, coversSecond⟩
      cases coversFirst with
      | slot here =>
        cases coversSecond with
        | slot there => exact ⟨_, here, there⟩
  | type name other =>
    rw [agrees, namesAgree, agreesUpTo_iff_exists]
    constructor
    · rintro ⟨common, here, there⟩
      exact ⟨.type common, .type here, .type there⟩
    · rintro ⟨_, coversFirst, coversSecond⟩
      cases coversFirst with
      | type here =>
        cases coversSecond with
        | type there => exact ⟨_, here, there⟩
  | field member other =>
    rw [agrees, Member.agrees_iff_exists]
    constructor
    · rintro ⟨common, here, there⟩
      exact ⟨.field common, .field here, .field there⟩
    · rintro ⟨_, coversFirst, coversSecond⟩
      cases coversFirst with
      | field here =>
        cases coversSecond with
        | field there => exact ⟨_, here, there⟩
  | method member other =>
    rw [agrees, Member.agrees_iff_exists]
    constructor
    · rintro ⟨common, here, there⟩
      exact ⟨.method common, .method here, .method there⟩
    · rintro ⟨_, coversFirst, coversSecond⟩
      cases coversFirst with
      | method here =>
        cases coversSecond with
        | method there => exact ⟨_, here, there⟩
  | constant value other =>
    rw [agrees, Constant.agrees, agreesUpTo_iff_exists]
    constructor
    · rintro ⟨common, here, there⟩
      exact ⟨.constant common, .constant here, .constant there⟩
    · rintro ⟨_, coversFirst, coversSecond⟩
      cases coversFirst with
      | constant here =>
        cases coversSecond with
        | constant there => exact ⟨_, here, there⟩
  | int value other =>
    rw [agrees, intsAgree, agreesUpTo_iff_exists]
    constructor
    · rintro ⟨common, here, there⟩
      exact ⟨.int common, .int here, .int there⟩
    · rintro ⟨_, coversFirst, coversSecond⟩
      cases coversFirst with
      | int here =>
        cases coversSecond with
        | int there => exact ⟨_, here, there⟩
  | increment slot delta otherSlot otherDelta =>
    rw [agrees, Bool.and_eq_true, beq_iff_eq, beq_iff_eq]
    constructor
    · rintro ⟨rfl, rfl⟩
      exact ⟨.increment slot delta, .increment slot delta, .increment slot delta⟩
    · rintro ⟨common, ⟨⟩, ⟨⟩⟩
      exact ⟨rfl, rfl⟩
  | jump target other => exact ⟨fun _ => ⟨.jump other, .jump _ _, .jump _ _⟩, fun _ => rfl⟩
  | label label other => exact ⟨fun _ => ⟨.label other, .label _ _, .label _ _⟩, fun _ => rfl⟩
  | raw bytes other => exact ⟨fun _ => ⟨.raw other, .raw _ _, .raw _ _⟩, fun _ => rfl⟩

theorem agrees_self (operand : Operand) : operand.agrees operand = true := by
  cases operand with
  | slot | type | constant | int => exact agreesUpTo_self _ _
  | field member | method member => exact member.agrees_self
  | mapped member => exact beq_self_eq_true member
  | increment slot delta => rw [agrees, beq_self_eq_true, beq_self_eq_true, Bool.and_self]
  | none | jump | label | raw => rfl

theorem agrees_comm (first second : Operand) : first.agrees second = second.agrees first := by
  -- Operands of two forms are compared only where one of them is a mapped member.
  cases first <;> cases second <;>
    first
    | rfl
    | exact agreesUpTo_comm _ _ _
    | exact Member.agrees_comm _ _
    | simp only [agrees, BEq.comm]

end Operand

/-! ### Instructions -/

namespace Instruction

variable {first second : Instruction}

theorem agrees_iff_exists (settledFirst : first.mapped? = none)
    (settledSecond : second.mapped? = none) :
    first.agrees second = true ↔ ∃ common, first.Covers common ∧ second.Covers common := by
  rw [agrees, Bool.and_eq_true, Bool.and_eq_true, beq_iff_eq, beq_iff_eq]
  have operands (kind : first.kind = second.kind) := Operand.agrees_iff_exists kind
    (operand_ne_mapped settledFirst) (operand_ne_mapped settledSecond)
  constructor
  · rintro ⟨⟨opcode, kind⟩, operand⟩
    obtain ⟨common, coversFirst, coversSecond⟩ := (operands kind).mp operand
    exact ⟨⟨first.opcode, common⟩, ⟨rfl, coversFirst⟩, ⟨opcode.symm, coversSecond⟩⟩
  · rintro ⟨common, coversFirst, coversSecond⟩
    have kind := coversFirst.operand.kind_eq.trans coversSecond.operand.kind_eq.symm
    exact ⟨⟨coversFirst.opcode.trans coversSecond.opcode.symm, kind⟩,
      (operands kind).mpr ⟨common.operand, coversFirst.operand, coversSecond.operand⟩⟩

theorem agrees_self (instruction : Instruction) : instruction.agrees instruction = true := by
  rw [agrees, beq_self_eq_true, beq_self_eq_true, instruction.operand.agrees_self]
  rfl

theorem agrees_comm (first second : Instruction) : first.agrees second = second.agrees first := by
  rw [agrees, agrees, BEq.comm (a := first.opcode), BEq.comm (a := first.kind),
    first.operand.agrees_comm]

/-- What agrees with an instruction that leaves nothing open agrees with whatever else does. -/
theorem agrees_trans {middle last : Instruction} (settledFirst : first.mapped? = none)
    (settledMiddle : middle.mapped? = none) (settledLast : last.mapped? = none)
    (closed : middle.isOpen = false) (before : first.agrees middle = true)
    (behind : middle.agrees last = true) : first.agrees last = true := by
  rw [agrees_comm] at behind
  refine (agrees_iff_exists settledFirst settledLast).mpr ⟨middle, ?_, ?_⟩
  · exact (agrees_iff_covers closed settledMiddle).mp before
  · exact (agrees_iff_covers closed settledMiddle).mp behind

/-- Two instructions without a mapped member agree exactly when both of them cover one and the same
instruction. Any instruction agrees with itself, agreement goes both ways, and an instruction that
leaves nothing open passes it on. -/
theorem agrees_iff_unifiable :
    (∀ first second : Instruction, first.mapped? = none → second.mapped? = none →
      (first.agrees second = true ↔ ∃ common, first.Covers common ∧ second.Covers common)) ∧
    (∀ instruction : Instruction, instruction.agrees instruction = true) ∧
    (∀ first second : Instruction, first.agrees second = second.agrees first) ∧
    ∀ first middle last : Instruction, first.mapped? = none → middle.mapped? = none →
      last.mapped? = none → middle.isOpen = false → first.agrees middle = true →
        middle.agrees last = true → first.agrees last = true :=
  ⟨fun _ _ => agrees_iff_exists, agrees_self, agrees_comm, fun _ _ _ => agrees_trans⟩

/-- Two calls that leave different parts open stand for a third. The wildcard agrees with five and
with six, which stand for nothing in common, while branches agree whatever their targets are. -/
theorem agrees_iff_unifiable_two_calls :
    let call (owner name : String) : Instruction := ⟨0xb8, .method ⟨owner, name, "()V"⟩⟩
    let push (value : Int32) : Instruction := ⟨0x10, .int value⟩
    let branch (target : String) : Instruction := ⟨0xa7, .jump ⟨target⟩⟩
    let notANumber : Instruction := .load (.float 0x7fc00000)
    (call "~" "exit").mapped? = none ∧ (call "a/B" "~").mapped? = none ∧
      (∃ common, (call "~" "exit").Covers common ∧ (call "a/B" "~").Covers common) ∧
      ((push 5).agrees (push (-1)) = true ∧ (push (-1)).agrees (push 6) = true ∧
        ¬ ∃ common, (push 5).Covers common ∧ (push 6).Covers common) ∧
      notANumber.agrees notANumber = true ∧
      (branch "over").isOpen = false ∧ (branch "here").agrees (branch "there") = true := by
  intro call push branch notANumber
  obtain ⟨unifiable, reflexive, symmetric, transitive⟩ := agrees_iff_unifiable
  refine ⟨rfl, rfl, (unifiable _ _ rfl rfl).mp (by decide), ⟨?_, by decide, ?_⟩,
    reflexive notANumber, rfl, transitive _ (branch "over") _ rfl rfl rfl rfl rfl rfl⟩
  · rw [symmetric]
    decide
  · exact (unifiable (push 5) (push 6) rfl rfl).not.mp (by decide)

end Instruction

end MethodPatch
