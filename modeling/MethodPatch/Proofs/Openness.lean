/-
This file says where the open parts of a patched body come from.

Registration asks whether operands fit their operations, and a sentinel fits as any other value
does. So a hook may bring code along that leaves parts open, and searches in the patched body then
take them for wildcards. Nothing else leaves anything open: an instruction with an open part either
was in the body before or was brought along by one of the edits that were made.
-/

import MethodPatch.Catalogue
import MethodPatch.Proofs.Conservation
import MethodPatch.Proofs.Covering

namespace MethodPatch

/-! ### Code that is brought along -/

theorem MappedMember.isOpen_reference_of_closed {member : MappedMember} (naming : Naming)
    (closed : member.isOpen = false) : (member.reference naming).isOpen = false := by
  simp only [isOpen, Bool.or_eq_false_iff] at closed
  obtain ⟨⟨⟨owner, primary⟩, alternate⟩, descriptor⟩ := closed
  simp only [Member.isOpen, reference, Bool.or_eq_false_iff]
  cases naming with
  | named => exact ⟨⟨owner, primary⟩, descriptor⟩
  | remapped => exact ⟨⟨owner, alternate⟩, descriptor⟩

/-- Settling a mapped member leaves nothing open that was not open under one of its names. -/
theorem Instruction.isOpen_resolve_of_closed {instruction : Instruction} (naming : Naming)
    (closed : instruction.isOpen = false) : (instruction.resolve naming).isOpen = false := by
  obtain ⟨opcode, operand⟩ := instruction
  cases operand with
  | mapped member =>
    have reference := MappedMember.isOpen_reference_of_closed naming closed
    obtain ⟨kind⟩ := member
    cases kind <;> exact reference
  | _ => exact closed

namespace Scope

variable {scope : Scope} {edit : Edit} {instruction : Instruction}

/-- Giving a label its name in the body leaves nothing open. -/
theorem isOpen_instruction (scope : Scope) (instruction : Instruction) :
    (scope.instruction instruction).isOpen = (instruction.resolve scope.naming).isOpen := by
  obtain ⟨opcode, operand⟩ := instruction
  cases operand <;> rfl

theorem mem_brought_of_mem_code (member : instruction ∈ edit.code) :
    scope.instruction instruction ∈ scope.brought edit :=
  mem_brought.mpr (Or.inl ⟨instruction, member, rfl⟩)

/-- Only the code that an edit is written with leaves parts open, not the anchor of a label. -/
theorem exists_of_open_brought {inside : Instruction} (brought : inside ∈ scope.brought edit)
    (isOpen : inside.isOpen = true) :
    ∃ instruction ∈ edit.code, scope.instruction instruction = inside ∧
      (instruction.resolve scope.naming).isOpen = true := by
  obtain ⟨instruction, written, rfl⟩ | ⟨label, rfl, rfl⟩ := mem_brought.mp brought
  · exact ⟨instruction, written, rfl, (scope.isOpen_instruction instruction).symm.trans isOpen⟩
  · cases isOpen

end Scope

/-! ### Bodies that leave nothing open -/

namespace Hook

variable {hook : Hook} {naming : Naming} {body : Body}

/-- What a run leaves in the body was there before or was brought along by an edit it made. -/
theorem mem_run {inside : Instruction} (member : inside ∈ (hook.run naming body).workspace.body) :
    inside ∈ body ∨ ∃ edit ∈ hook.edits.take (hook.madeCount naming body),
      inside ∈ (hook.scope naming).brought edit := by
  obtain ⟨windows, _, balance, _⟩ := exists_windows (Nat.le_refl (hook.madeCount naming body))
  rw [workspaceAfter_madeCount] at balance
  have before := balance.mem_iff.mp (List.mem_append_left windows.flatten member)
  exact (List.mem_append.mp before).imp_right List.mem_flatMap.mp

/-- In a body that left nothing open, whatever is open after a hook was brought along by an edit
that was made, whether or not the hook was completed. So a hook whose code is written without an
open part leaves nothing open in the body. As long as nothing is replaced, there is an open part in
the body exactly when an edit that was made brought one along. -/
theorem open_of_run (hook : Hook) (naming : Naming) (body : Body)
    (closed : ∀ inside ∈ body, inside.isOpen = false) :
    let left := (hook.run naming body).workspace.body
    let made := hook.edits.take (hook.madeCount naming body)
    (∀ inside ∈ left, inside.isOpen = true →
      ∃ edit ∈ made, ∃ instruction ∈ edit.code,
        (hook.scope naming).instruction instruction = inside ∧
          (instruction.resolve naming).isOpen = true) ∧
    ((∀ edit ∈ hook.edits, ∀ instruction ∈ edit.code, instruction.isOpen = false) →
      ∀ inside ∈ left, inside.isOpen = false) ∧
    ((∀ pattern code, .replace pattern code ∉ made) →
      ((∃ inside ∈ left, inside.isOpen = true) ↔
        ∃ edit ∈ made, ∃ instruction ∈ edit.code, (instruction.resolve naming).isOpen = true)) := by
  intro left made
  have origin : ∀ inside ∈ left, inside.isOpen = true →
      ∃ edit ∈ made, ∃ instruction ∈ edit.code,
        (hook.scope naming).instruction instruction = inside ∧
          (instruction.resolve naming).isOpen = true := by
    intro inside member isOpen
    rcases mem_run member with before | ⟨edit, executed, brought⟩
    · cases isOpen.symm.trans (closed inside before)
    · exact ⟨edit, executed, Scope.exists_of_open_brought brought isOpen⟩
  refine ⟨origin, fun closedCode inside member => ?_, fun keeps => ⟨?_, ?_⟩⟩
  · refine Bool.eq_false_iff.mpr fun isOpen => ?_
    obtain ⟨edit, executed, instruction, written, _, openCode⟩ := origin inside member isOpen
    have closedHere := closedCode edit (List.mem_of_mem_take executed) instruction written
    cases openCode.symm.trans (Instruction.isOpen_resolve_of_closed naming closedHere)
  · rintro ⟨inside, member, isOpen⟩
    obtain ⟨edit, executed, instruction, written, _, openCode⟩ := origin inside member isOpen
    exact ⟨edit, executed, instruction, written, openCode⟩
  · rintro ⟨edit, executed, instruction, written, openCode⟩
    have perm := workspaceAfter_perm (Nat.le_refl (hook.madeCount naming body)) keeps
    rw [workspaceAfter_madeCount] at perm
    refine ⟨(hook.scope naming).instruction instruction, perm.mem_iff.mpr ?_, ?_⟩
    · exact List.mem_append_right _
        (List.mem_flatMap.mpr ⟨edit, executed, Scope.mem_brought_of_mem_code written⟩)
    · rw [Scope.isOpen_instruction]
      exact openCode

/-- Three hooks that miss their last pattern. The first leaves nothing open, the second the name of
a member, which is `~` in the naming scheme of the body, and the third the integer of an
instruction. -/
theorem open_of_run_two_of_three :
    let hook (value : Int32) (alternate : String) : Hook := {
      name := "push", target := .unmapped (.of "a.B") "run" "()V"
      edits := [.seekPast (.single ⟨0x10, .int (-1)⟩), .insert [⟨0x10, .int value⟩],
        .markLabel ⟨"mid"⟩,
        .insert [⟨0xb8, .mapped (.of .method (.of "a.B") "exit" alternate "()V")⟩],
        .seekTo (.single ⟨0x00, .none⟩)] }
    let body : Body := [⟨0x10, .int 5⟩, ⟨0xb1, .none⟩]
    (∀ inside ∈ body, inside.isOpen = false) ∧
      ((hook 7 "a").run .remapped body).miss.isSome = true ∧
      (∀ inside ∈ ((hook 7 "a").run .remapped body).workspace.body, inside.isOpen = false) ∧
      (∃ inside ∈ ((hook 7 "~").run .remapped body).workspace.body, inside.isOpen = true) ∧
      ∃ inside ∈ ((hook (-1) "a").run .named body).workspace.body, inside.isOpen = true := by
  intro hook body
  have closed : ∀ inside ∈ body, inside.isOpen = false := by decide
  have keeps (value : Int32) (alternate : String) (pattern : Pattern) (code : Body) (count : Nat) :
      .replace pattern code ∉ (hook value alternate).edits.take count := by
    intro executed
    simpa [hook] using List.mem_of_mem_take executed
  refine ⟨closed, by decide +kernel, ?_, ?_, ?_⟩
  · exact ((hook 7 "a").open_of_run .remapped body closed).2.1 (by decide +kernel)
  · refine (((hook 7 "~").open_of_run .remapped body closed).2.2 ?_).mpr (by decide +kernel)
    exact fun pattern code => keeps 7 "~" pattern code _
  · refine (((hook (-1) "a").open_of_run .named body closed).2.2 ?_).mpr (by decide +kernel)
    exact fun pattern code => keeps (-1) "a" pattern code _

end Hook

namespace Catalogue

/-- A hook that is accepted although its code leaves an integer, a text and an owner open, and
that leaves them open in a body where nothing was. -/
theorem register_of_open_code :
    let code : Body := [
      ⟨0x10, .int (-1)⟩, .load (.string "~"), ⟨0xb8, .method ⟨"~", "exit", "(I)V"⟩⟩]
    let hook : Hook := {
      name := "push", target := .unmapped (.of "a.B") "run" "()V", edits := [.insert code] }
    let body : Body := [⟨0xb1, .none⟩]
    ((Catalogue.empty .production none).register hook).value.isOk = true ∧
      (∀ inside ∈ body, inside.isOpen = false) ∧
      (hook.run .remapped body).workspace.body = code ++ body ∧
      ∀ inside ∈ code, inside.isOpen = true := by
  decide +kernel

end Catalogue

end MethodPatch
