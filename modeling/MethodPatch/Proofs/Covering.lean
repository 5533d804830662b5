/-
This file says what a search makes of the sentinels in a body.

Agreement treats both sides alike, so a part that a body leaves open agrees with whatever a pattern
asks for in its place. Covering is what agreement comes down to when only one side may be open: one
instruction covers another when each part of its operand is the part of the other or is left open.
A pattern that leaves nothing open is found only where the instructions of the body cover its own,
and those of them that leave nothing open either are the instructions of the pattern.
-/

import MethodPatch.Proofs.Search

namespace MethodPatch

/-! ### Parts left open -/

/-- Whether some part of the member is left open, under either name. -/
def MappedMember.isOpen (member : MappedMember) : Bool :=
  member.declaringType.text == wildcard || member.primary == wildcard ||
    member.alternate == wildcard || member.descriptor == wildcard

/-- Whether some part of the operand is left open. -/
def Operand.isOpen : Operand → Bool
  | .slot index => index == anySlot
  | .type name => name == wildcard
  | .field member => member.isOpen
  | .method member => member.isOpen
  | .mapped member => member.isOpen
  | .constant value => value.isWildcard
  | .int value => value == anyInt
  | _ => false

/-- Whether some part of the operand of the instruction is left open. -/
def Instruction.isOpen (instruction : Instruction) : Bool := instruction.operand.isOpen

/-- Whether operands of the kind are compared at all. -/
def OperandKind.isCompared : OperandKind → Bool
  | .jump => false
  | .label => false
  | .raw => false
  | _ => true

/-! ### Covering -/

/-- Each part of a reference is the part of another or is left open. -/
structure Member.Covers (member other : Member) : Prop where
  owner : member.owner = wildcard ∨ member.owner = other.owner
  name : member.name = wildcard ∨ member.name = other.name
  descriptor : member.descriptor = wildcard ∨ member.descriptor = other.descriptor

/-- Each part of an operand is the part of another or is left open. A mapped member that is not
settled covers what its reference in either naming scheme covers. -/
inductive Operand.Covers : Operand → Operand → Prop where
  | none : Covers .none .none
  | slot {index other : Int32} (covers : index = anySlot ∨ index = other) :
    Covers (.slot index) (.slot other)
  | type {name other : String} (covers : name = wildcard ∨ name = other) :
    Covers (.type name) (.type other)
  | field {member other : Member} (covers : member.Covers other) :
    Covers (.field member) (.field other)
  | method {member other : Member} (covers : member.Covers other) :
    Covers (.method member) (.method other)
  | mapped {member : MappedMember} (naming : Naming) {other : Operand}
    (covers : Covers ((Operand.mapped member).resolve naming) other) :
    Covers (.mapped member) other
  | constant {value other : Constant} (covers : value = .any ∨ value = other) :
    Covers (.constant value) (.constant other)
  | int {value other : Int32} (covers : value = anyInt ∨ value = other) :
    Covers (.int value) (.int other)
  | increment (slot : UInt16) (delta : Int16) :
    Covers (.increment slot delta) (.increment slot delta)
  | jump (target other : Label) : Covers (.jump target) (.jump other)
  | label (label other : Label) : Covers (.label label) (.label other)
  | raw (bytes other : List UInt8) : Covers (.raw bytes) (.raw other)

/-- An instruction covers another of the same operation when its operand covers the other's. -/
structure Instruction.Covers (instruction other : Instruction) : Prop where
  opcode : instruction.opcode = other.opcode
  operand : instruction.operand.Covers other.operand

/-! ### Agreement with what leaves nothing open -/

theorem agreesUpTo_iff {Value : Type} [DecidableEq Value] {sentinel found wanted : Value}
    (closed : wanted ≠ sentinel) :
    agreesUpTo sentinel found wanted = true ↔ found = sentinel ∨ found = wanted := by
  simp [agreesUpTo, closed]

theorem Member.agrees_iff_covers {found wanted : Member} (closed : wanted.isOpen = false) :
    found.agrees wanted = true ↔ found.Covers wanted := by
  simp only [isOpen, Bool.or_eq_false_iff, beq_eq_false_iff_ne] at closed
  obtain ⟨⟨owner, name⟩, descriptor⟩ := closed
  simp only [agrees, namesAgree, Bool.and_eq_true, agreesUpTo_iff owner, agreesUpTo_iff name,
    agreesUpTo_iff descriptor]
  constructor
  · rintro ⟨⟨owner, name⟩, descriptor⟩
    exact ⟨owner, name, descriptor⟩
  · rintro ⟨owner, name, descriptor⟩
    exact ⟨⟨owner, name⟩, descriptor⟩

/-- A reference that leaves nothing open covers no other. -/
theorem Member.Covers.eq_of_closed {found wanted : Member} (covers : found.Covers wanted)
    (closed : found.isOpen = false) : found = wanted := by
  simp only [isOpen, Bool.or_eq_false_iff, beq_eq_false_iff_ne] at closed
  obtain ⟨⟨owner, name⟩, descriptor⟩ := closed
  cases found
  cases wanted
  rw [Member.mk.injEq]
  exact ⟨covers.owner.resolve_left owner, covers.name.resolve_left name,
    covers.descriptor.resolve_left descriptor⟩

/-- A mapped member that is not settled agrees when its reference in either naming scheme does. -/
theorem MappedMember.agrees_iff_exists_reference {found : MappedMember} {wanted : Member} :
    found.agrees wanted = true ↔ ∃ naming, (found.reference naming).agrees wanted = true := by
  simp only [agrees, Member.agrees, names, reference, List.any_cons, List.any_nil, Bool.or_false,
    Bool.and_eq_true, Bool.or_eq_true]
  constructor
  · rintro ⟨⟨owner, descriptor⟩, primary | alternate⟩
    · exact ⟨.named, ⟨owner, primary⟩, descriptor⟩
    · exact ⟨.remapped, ⟨owner, alternate⟩, descriptor⟩
  · rintro ⟨naming, ⟨owner, name⟩, descriptor⟩
    cases naming with
    | named => exact ⟨⟨owner, descriptor⟩, Or.inl name⟩
    | remapped => exact ⟨⟨owner, descriptor⟩, Or.inr name⟩

namespace Operand

variable {found wanted : Operand}

/-- Two operands are of one form, and neither is a mapped member. -/
inductive WrittenAlike : Operand → Operand → Prop where
  | none : WrittenAlike .none .none
  | slot (index other : Int32) : WrittenAlike (.slot index) (.slot other)
  | type (name other : String) : WrittenAlike (.type name) (.type other)
  | field (member other : Member) : WrittenAlike (.field member) (.field other)
  | method (member other : Member) : WrittenAlike (.method member) (.method other)
  | constant (value other : Constant) : WrittenAlike (.constant value) (.constant other)
  | int (value other : Int32) : WrittenAlike (.int value) (.int other)
  | increment (slot : UInt16) (delta : Int16) (otherSlot : UInt16) (otherDelta : Int16) :
    WrittenAlike (.increment slot delta) (.increment otherSlot otherDelta)
  | jump (target other : Label) : WrittenAlike (.jump target) (.jump other)
  | label (label other : Label) : WrittenAlike (.label label) (.label other)
  | raw (bytes other : List UInt8) : WrittenAlike (.raw bytes) (.raw other)

theorem writtenAlike_of_kind (sameKind : found.kind = wanted.kind)
    (settledFound : ∀ member, found ≠ .mapped member)
    (settledWanted : ∀ member, wanted ≠ .mapped member) : found.WrittenAlike wanted := by
  -- The kind tells the forms apart, but for mapped members, which have the kind of their reference.
  cases found <;> cases wanted <;>
    first
    | exact absurd rfl (settledFound _)
    | exact absurd rfl (settledWanted _)
    | constructor
    | cases sameKind

/-- A mapped member that is not settled agrees when it does once it is settled for either naming
scheme. -/
theorem mapped_agrees_iff_exists_resolve {member : MappedMember}
    (sameKind : (mapped member).kind = wanted.kind) (settled : ∀ other, wanted ≠ .mapped other) :
    (mapped member).agrees wanted = true ↔
      ∃ naming, ((mapped member).resolve naming).agrees wanted = true := by
  cases kind : member.kind with
  | field =>
    simp only [Operand.kind, kind] at sameKind
    simp only [resolve, kind]
    cases wanted with
    | field other => exact MappedMember.agrees_iff_exists_reference
    | mapped other => exact absurd rfl (settled other)
    | _ => cases sameKind
  | method =>
    simp only [Operand.kind, kind] at sameKind
    simp only [resolve, kind]
    cases wanted with
    | method other => exact MappedMember.agrees_iff_exists_reference
    | mapped other => exact absurd rfl (settled other)
    | _ => cases sameKind

theorem agrees_iff_covers_of_settled (sameKind : found.kind = wanted.kind)
    (closed : wanted.isOpen = false) (settledFound : ∀ member, found ≠ .mapped member)
    (settledWanted : ∀ member, wanted ≠ .mapped member) :
    found.agrees wanted = true ↔ found.Covers wanted := by
  cases writtenAlike_of_kind sameKind settledFound settledWanted with
  | none => exact ⟨fun _ => .none, fun _ => rfl⟩
  | slot index other =>
    rw [agrees, slotsAgree, agreesUpTo_iff (by simpa [isOpen] using closed)]
    exact ⟨.slot, fun (.slot covers) => covers⟩
  | type name other =>
    rw [agrees, namesAgree, agreesUpTo_iff (by simpa [isOpen] using closed)]
    exact ⟨.type, fun (.type covers) => covers⟩
  | field member other =>
    rw [agrees, Member.agrees_iff_covers closed]
    exact ⟨.field, fun (.field covers) => covers⟩
  | method member other =>
    rw [agrees, Member.agrees_iff_covers closed]
    exact ⟨.method, fun (.method covers) => covers⟩
  | constant value other =>
    have known : other ≠ .any := by
      rintro rfl
      cases closed
    rw [agrees, Constant.agrees, agreesUpTo_iff known]
    exact ⟨.constant, fun (.constant covers) => covers⟩
  | int value other =>
    rw [agrees, intsAgree, agreesUpTo_iff (by simpa [isOpen] using closed)]
    exact ⟨.int, fun (.int covers) => covers⟩
  | increment slot delta otherSlot otherDelta =>
    rw [agrees, Bool.and_eq_true, beq_iff_eq, beq_iff_eq]
    constructor
    · rintro ⟨rfl, rfl⟩
      exact .increment slot delta
    · rintro ⟨⟩
      exact ⟨rfl, rfl⟩
  | jump target other => exact ⟨fun _ => .jump target other, fun _ => rfl⟩
  | label label other => exact ⟨fun _ => .label label other, fun _ => rfl⟩
  | raw bytes other => exact ⟨fun _ => .raw bytes other, fun _ => rfl⟩

/-- An operand agrees with one of its kind that leaves nothing open when it covers it. -/
theorem agrees_iff_covers (sameKind : found.kind = wanted.kind) (closed : wanted.isOpen = false)
    (settled : ∀ other, wanted ≠ .mapped other) :
    found.agrees wanted = true ↔ found.Covers wanted := by
  by_cases symbolic : ∃ member, found = .mapped member
  · obtain ⟨member, rfl⟩ := symbolic
    have onceSettled (naming : Naming) : ((mapped member).resolve naming).agrees wanted = true ↔
        ((mapped member).resolve naming).Covers wanted :=
      agrees_iff_covers_of_settled ((kind_resolve naming _).trans sameKind) closed
        (resolve_ne_mapped naming _) settled
    rw [mapped_agrees_iff_exists_resolve sameKind settled, exists_congr onceSettled]
    exact ⟨fun ⟨naming, covers⟩ => .mapped naming covers,
      fun (.mapped naming covers) => ⟨naming, covers⟩⟩
  · exact agrees_iff_covers_of_settled sameKind closed (fun member same => symbolic ⟨member, same⟩)
      settled

theorem Covers.kind_eq (covers : found.Covers wanted) : found.kind = wanted.kind := by
  induction covers with
  | mapped naming covers inductionHypothesis => rw [← inductionHypothesis, kind_resolve]
  | _ => rfl

/-- What leaves nothing open covers nothing but itself. -/
theorem Covers.eq_of_closed (covers : found.Covers wanted) (closed : found.isOpen = false)
    (settled : ∀ member, found ≠ .mapped member) (compared : found.kind.isCompared = true) :
    found = wanted := by
  cases covers with
  | none | increment => rfl
  | slot covers => rw [covers.resolve_left (by simpa [isOpen] using closed)]
  | type covers => rw [covers.resolve_left (by simpa [isOpen] using closed)]
  | field covers => rw [covers.eq_of_closed closed]
  | method covers => rw [covers.eq_of_closed closed]
  | mapped => exact absurd rfl (settled _)
  | constant covers =>
    rw [covers.resolve_left]
    rintro rfl
    cases closed
  | int covers => rw [covers.resolve_left (by simpa [isOpen] using closed)]
  | jump | label | raw => cases compared

end Operand

namespace Instruction

variable {found wanted : Instruction}

theorem operand_ne_mapped (settled : found.mapped? = none) (member : MappedMember) :
    found.operand ≠ .mapped member := by
  intro same
  cases settled.symm.trans (mapped?_eq_some.mpr same)

/-- An instruction agrees with one that leaves nothing open when it covers it. -/
theorem agrees_iff_covers (closed : wanted.isOpen = false) (settled : wanted.mapped? = none) :
    found.agrees wanted = true ↔ found.Covers wanted := by
  rw [agrees, Bool.and_eq_true, Bool.and_eq_true, beq_iff_eq, beq_iff_eq]
  constructor
  · rintro ⟨⟨opcode, kind⟩, operand⟩
    exact ⟨opcode, (Operand.agrees_iff_covers kind closed (operand_ne_mapped settled)).mp operand⟩
  · rintro ⟨opcode, operand⟩
    have kind := operand.kind_eq
    exact ⟨⟨opcode, kind⟩,
      (Operand.agrees_iff_covers kind closed (operand_ne_mapped settled)).mpr operand⟩

/-- An instruction that leaves nothing open covers no other, as far as operands are compared. -/
theorem Covers.eq_of_closed (covers : found.Covers wanted) (closed : found.isOpen = false)
    (settled : found.mapped? = none) (compared : found.kind.isCompared = true) :
    found = wanted := by
  cases found
  cases wanted
  rw [Instruction.mk.injEq]
  exact ⟨covers.opcode,
    covers.operand.eq_of_closed closed (operand_ne_mapped settled) compared⟩

end Instruction

/-! ### The place of a pattern that leaves nothing open -/

namespace Pattern

variable {pattern : Pattern} {body : Body} {start position : Nat}

/-- A pattern that leaves nothing open is at a place when the instructions there cover its own. -/
theorem isAt_iff_covers (closed : ∀ wanted ∈ pattern.instructions, wanted.isOpen = false)
    (settled : ∀ wanted ∈ pattern.instructions, wanted.mapped? = none) :
    pattern.isAt body position = true ↔
      List.Forall₂ Instruction.Covers ((body.drop position).take pattern.length)
        pattern.instructions := by
  rw [isAt, Body.opensWith_iff_forall₂, List.forall₂_iff_zip, List.forall₂_iff_zip]
  refine and_congr_right fun _ => forall₂_congr fun inside wanted => forall_congr' fun paired => ?_
  have sought : wanted ∈ pattern.instructions := (List.of_mem_zip paired).2
  exact Instruction.agrees_iff_covers (closed wanted sought) (settled wanted sought)

/-- Where a pattern is found that leaves nothing open, each instruction of the body covers the one
of the pattern in its place. If it leaves nothing open either, it is that instruction, unless its
operand is of a kind that is not compared. -/
theorem covers_of_find? (closed : ∀ wanted ∈ pattern.instructions, wanted.isOpen = false)
    (settled : ∀ wanted ∈ pattern.instructions, wanted.mapped? = none)
    (found : pattern.find? body start = some position) :
    List.Forall₂
      (fun inside wanted => inside.Covers wanted ∧
        (inside.isOpen = false → inside.mapped? = none → inside.kind.isCompared = true →
          inside = wanted))
      ((body.drop position).take pattern.length) pattern.instructions := by
  obtain ⟨_, place, _⟩ := (find?_eq_some _ _ _ _).mp found
  refine ((isAt_iff_covers closed settled).mp place).imp fun inside wanted covers => ?_
  exact ⟨covers, covers.eq_of_closed⟩

/-- A pattern of three instructions that is found where the body leaves the integer of one open and
the owner of another. -/
theorem covers_of_find?_two_of_three_open :
    let push (value : Int32) : Instruction := ⟨0x10, .int value⟩
    let call (owner : String) : Instruction := ⟨0xb8, .method ⟨owner, "exit", "(I)V"⟩⟩
    let pattern : Pattern := ⟨[push 5, .increment 2 1, call "a/B"], by decide⟩
    let body : Body := [push 5, push (-1), .increment 2 1, call "~", ⟨0xb1, .none⟩]
    (∀ wanted ∈ pattern.instructions, wanted.isOpen = false) ∧
      (∀ wanted ∈ pattern.instructions, wanted.mapped? = none) ∧
      pattern.find? body 0 = some 1 ∧ (push (-1)).Covers (push 5) ∧
      (Instruction.increment 2 1).isOpen = false ∧ (call "~").Covers (call "a/B") := by
  intro push call pattern body
  have closed : ∀ wanted ∈ pattern.instructions, wanted.isOpen = false := by decide
  have settled : ∀ wanted ∈ pattern.instructions, wanted.mapped? = none := by decide
  have found : pattern.find? body 0 = some 1 := by decide
  cases covers_of_find? closed settled found with
  | cons first later =>
    cases later with
    | cons second later =>
      cases later with
      | cons third later =>
        exact ⟨closed, settled, found, first.1, rfl, third.1⟩

/-- A body that every check accepts, and a pattern that leaves nothing open and is found in it
although no operand is that of the pattern. -/
theorem find?_at_other_operands :
    let push (value : Int32) : Instruction := ⟨0x10, .int value⟩
    let call (owner : String) : Instruction := ⟨0xb8, .method ⟨owner, "exit", "(I)V"⟩⟩
    let body : Body := [push (-1), .load (.string "~"), call "~"]
    let pattern : Pattern := ⟨[push 5, .load (.string "bye"), call "a/B"], by decide⟩
    (∀ inside ∈ body, inside.check.isOk = true) ∧
      (∀ wanted ∈ pattern.instructions, wanted.isOpen = false ∧ wanted.mapped? = none) ∧
      pattern.find? body 0 = some 0 ∧
      ∀ pair ∈ body.zip pattern.instructions, pair.1.operand ≠ pair.2.operand := by
  decide +kernel

end Pattern

end MethodPatch
