/-
This file proves that hooks keep the instructions of a body well formed.

An instruction of a body is well formed when its operand fits its operation and leaves no mapped
member to settle. Code gets into a body in four ways: a branch and an anchor get the names that
their labels go by there, any other instruction has its mapped member settled, and a marked label
gets an anchor of its own. None of these changes the kind of an operand or the width of a constant.
So each edit of an accepted hook keeps a body well formed, and with it every chain of such edits,
wherever the chain ends.
-/

import MethodPatch.Proofs.Acceptance
import MethodPatch.Proofs.Conservation

namespace MethodPatch

/-! ### Single instructions -/

namespace Instruction

/-- The operand fits the operation and is no mapped member. -/
structure WellFormed (instruction : Instruction) : Prop where
  fits : instruction.check = .ok ()
  settled : instruction.mapped? = none

variable (naming : Naming) (instruction : Instruction)

theorem kind_resolve : (instruction.resolve naming).kind = instruction.kind :=
  instruction.operand.kind_resolve naming

/-- Settling a mapped member changes nothing about what a check says. -/
theorem check_resolve : (instruction.resolve naming).check = instruction.check := by
  obtain ⟨opcode, operand⟩ := instruction
  cases operand with
  | mapped member =>
    obtain ⟨kind⟩ := member
    cases kind <;> rfl
  | _ => rfl

theorem mapped?_resolve : (instruction.resolve naming).mapped? = none :=
  Option.eq_none_iff_forall_ne_some.mpr fun member found =>
    instruction.operand.resolve_ne_mapped naming member (mapped?_eq_some.mp found)

theorem wellFormed_anchor (label : Label) : (anchor label).WellFormed := ⟨rfl, rfl⟩

end Instruction

/-! ### Edits -/

namespace Scope

variable {scope : Scope} {workspace next : Workspace} {edit : Edit} {edits : List Edit}
  {instruction : Instruction}

/-- An instruction whose operand fits is well formed once it is put into a body. -/
theorem wellFormed_instruction (fits : instruction.check = .ok ()) :
    (scope.instruction instruction).WellFormed := by
  obtain ⟨opcode, operand⟩ := instruction
  cases operand with
  | jump target => exact ⟨fits, rfl⟩
  | label label => exact Instruction.wellFormed_anchor _
  | _ => exact ⟨(Instruction.check_resolve _ _).trans fits, Instruction.mapped?_resolve _ _⟩

theorem wellFormed_brought (sound : edit.check = .ok ()) :
    ∀ inside ∈ scope.brought edit, inside.WellFormed := by
  intro inside brought
  obtain ⟨instruction, written, rfl⟩ | ⟨label, rfl, rfl⟩ := mem_brought.mp brought
  · exact wellFormed_instruction
      ((Edit.check_eq_ok edit).mp sound instruction (List.mem_append_right _ written))
  · exact Instruction.wellFormed_anchor _

/-- A sound edit keeps a body well formed. -/
theorem Makes.wellFormed (makes : scope.Makes workspace edit next) (sound : edit.check = .ok ())
    (before : ∀ inside ∈ workspace.body, inside.WellFormed) :
    ∀ inside ∈ next.body, inside.WellFormed := by
  obtain ⟨window, exchanges⟩ := makes.exchanges
  intro inside member
  have origin := exchanges.perm.mem_iff.mp (List.mem_append_left window member)
  exact (List.mem_append.mp origin).elim (before inside) (wellFormed_brought sound inside)

/-- Sound edits keep a body well formed one after another. -/
theorem MakesAll.wellFormed (makes : scope.MakesAll workspace edits next)
    (sound : ∀ edit ∈ edits, edit.check = .ok ())
    (before : ∀ inside ∈ workspace.body, inside.WellFormed) :
    ∀ inside ∈ next.body, inside.WellFormed := by
  induction makes with
  | nil workspace => exact before
  | cons first later inductionHypothesis =>
    obtain ⟨soundFirst, soundLater⟩ := List.forall_mem_cons.mp sound
    exact inductionHypothesis soundLater (first.wellFormed soundFirst before)

/-- Wherever a chain of sound edits ends, the body is as well formed as it was. -/
theorem wellFormed_run {body : Body} (index : Nat) (sound : ∀ edit ∈ edits, edit.check = .ok ())
    (before : ∀ inside ∈ body, inside.WellFormed) :
    ∀ inside ∈ (scope.run index edits (.start body)).workspace.body, inside.WellFormed := by
  obtain ⟨made, left, rfl, makes, _⟩ := scope.makesAll_run index edits (.start body)
  exact makes.wellFormed (fun edit member => sound edit (List.mem_append_left left member)) before

end Scope

/-! ### Hooks -/

namespace Hook

/-- An accepted hook keeps a well-formed body well formed after any number of its edits, and also
where it misses a pattern. Settling a mapped member keeps the kind of an instruction and what the
check says about it. -/
theorem wellFormed_workspaceAfter (hook : Hook) (naming : Naming) :
    (∀ instruction : Instruction, (instruction.resolve naming).kind = instruction.kind ∧
      (instruction.resolve naming).check = instruction.check) ∧
    (hook.check = .ok () → ∀ body : Body, (∀ inside ∈ body, inside.WellFormed) →
      (∀ count, ∀ inside ∈ (hook.workspaceAfter naming body count).body, inside.WellFormed) ∧
      ∀ inside ∈ (hook.run naming body).workspace.body, inside.WellFormed) := by
  refine ⟨fun instruction => ?_, fun accepted body before => ⟨fun count => ?_, ?_⟩⟩
  · exact ⟨instruction.kind_resolve naming, instruction.check_resolve naming⟩
  · have sound := ((check_eq_ok hook).mp accepted).2.1
    exact Scope.wellFormed_run 0 (fun edit made => sound edit (List.mem_of_mem_take made)) before
  · exact Scope.wellFormed_run 0 ((check_eq_ok hook).mp accepted).2.1 before

/-- A hook that puts in a branch, an anchor and a mapped member, marks a label, replaces a constant
by one of double width, and then misses its last pattern. -/
theorem wellFormed_workspaceAfter_five_of_six :
    let done : Instruction := ⟨0xb1, .none⟩
    let exit : MappedMember := .of .method (.of "a.B") "exit" "m_1" "()V"
    let hook : Hook := {
      name := "leave", target := .unmapped (.of "a.B") "run" "()V"
      edits := [.insert [⟨0x99, .jump ⟨"end"⟩⟩, ⟨0xb8, .mapped exit⟩], .markLabel ⟨"end"⟩,
        .replace (.single (.load (.int 1))) [.load (.long 2), .anchor ⟨"behind"⟩],
        .seekToStart, .seekPast (.single ⟨0xb8, .mapped exit⟩), .seekTo (.single ⟨0x57, .none⟩)] }
    let body : Body := [.load (.int 1), done]
    hook.check = .ok () ∧ (∀ inside ∈ body, inside.WellFormed) ∧
      (hook.run .remapped body).miss.isSome = true ∧ hook.madeCount .remapped body = 5 ∧
      (hook.run .remapped body).workspace.body = [⟨0x99, .jump ⟨"leave:end"⟩⟩,
        ⟨0xb8, .method ⟨"a/B", "m_1", "()V"⟩⟩, .anchor ⟨"leave:end"⟩, .load (.long 2),
        .anchor ⟨"leave:behind"⟩, done] ∧
      ∀ inside ∈ (hook.run .remapped body).workspace.body, inside.WellFormed := by
  intro done exit hook body
  have accepted : hook.check = .ok () := eq_ok_of_isOk (by decide +kernel)
  have before : ∀ inside ∈ body, inside.WellFormed := by
    have fits : ∀ inside ∈ body, inside.check.isOk = true := by decide +kernel
    have settled : ∀ inside ∈ body, inside.mapped? = none := by decide +kernel
    exact fun inside member => ⟨eq_ok_of_isOk (fits inside member), settled inside member⟩
  obtain ⟨_, keeps⟩ := hook.wellFormed_workspaceAfter .remapped
  exact ⟨accepted, before, by decide +kernel, by decide +kernel, by decide +kernel,
    (keeps accepted body before).2⟩

end Hook

end MethodPatch
