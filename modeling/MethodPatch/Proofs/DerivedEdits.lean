/-
This file proves that two of the edits can be written with the others.

Marking a label is putting in its anchor, and replacing code is taking it out and putting the new
code in its place. A label counts as anchored by a hook in either spelling, so writing a mark
differently leaves the scope of the whole chain as it is, and every other edit is read as before. An
instruction of the hook and the anchor of a mark get their names in two ways, and both come to the
same anchor.
-/

import MethodPatch.Proofs.Chain
import MethodPatch.Proofs.Progress
import MethodPatch.Proofs.Splices
import Mathlib.Data.List.Forall2

namespace MethodPatch

/-! ### Marked labels -/

namespace Edit

/-- An edit and the way it is written instead: as it is, or a mark as the insertion of an anchor. -/
inductive Respelled : Edit → Edit → Prop where
  | same (edit : Edit) : Respelled edit edit
  | mark (label : Label) : Respelled (.markLabel label) (.insert [.anchor label])

variable {edit other : Edit} {edits others : List Edit} {label : Label} {place : Nat}

/-- Any one mark of a chain can be written differently. -/
theorem Respelled.set (there : edits[place]? = some (.markLabel label)) :
    List.Forall₂ Respelled edits (edits.set place (.insert [.anchor label])) := by
  induction edits generalizing place with
  | nil => cases there
  | cons first rest inductionHypothesis =>
    cases place with
    | zero =>
      obtain rfl : first = .markLabel label := Option.some.inj there
      exact .cons (.mark label) (List.forall₂_same.mpr fun edit _ => .same edit)
    | succ place => exact .cons (.same first) (inductionHypothesis there)

theorem Respelled.check_eq (respelled : Respelled edit other) : other.check = edit.check := by
  cases respelled <;> rfl

theorem Respelled.anchors_eq (respelled : Respelled edit other) :
    other.anchors = edit.anchors := by
  cases respelled <;> rfl

theorem flatMap_anchors_respelled (respelled : List.Forall₂ Respelled edits others) :
    others.flatMap anchors = edits.flatMap anchors := by
  induction respelled with
  | nil => rfl
  | cons first _ inductionHypothesis =>
    rw [List.flatMap_cons, List.flatMap_cons, first.anchors_eq, inductionHypothesis]

end Edit

namespace Scope

variable {edit other : Edit} {edits others : List Edit}

theorem step_respelled (scope : Scope) (respelled : Edit.Respelled edit other) (index : Nat)
    (workspace : Workspace) :
    scope.step index other workspace = scope.step index edit workspace := by
  cases respelled <;> rfl

/-- A chain written differently misses the same pattern and ends in the same workspace. -/
theorem run_respelled (scope : Scope) (respelled : List.Forall₂ Edit.Respelled edits others)
    (index : Nat) (workspace : Workspace) :
    (scope.run index others workspace).miss = (scope.run index edits workspace).miss ∧
      (scope.run index others workspace).workspace =
        (scope.run index edits workspace).workspace := by
  induction respelled generalizing index workspace with
  | nil => exact ⟨rfl, rfl⟩
  | @cons edit other rest others first _ inductionHypothesis =>
    have same := scope.step_respelled first index workspace
    cases step : scope.step index edit workspace with
    | error miss =>
      rw [step] at same
      rw [scope.miss_run_of_error _ _ same, scope.miss_run_of_error _ _ step,
        scope.workspace_run_of_error same, scope.workspace_run_of_error step]
      exact ⟨rfl, rfl⟩
    | ok next =>
      rw [step] at same
      rw [scope.miss_run_of_ok _ _ same, scope.miss_run_of_ok _ _ step,
        scope.workspace_run_of_ok same, scope.workspace_run_of_ok step]
      exact inductionHypothesis (index + 1) next

/-! ### Replaced code -/

variable (scope : Scope) (index : Nat) (pattern : Pattern) (code : Body) (workspace : Workspace)

theorem step_replace_of_found {position : Nat}
    (found : (pattern.resolve scope.naming).find? workspace.body workspace.cursor =
      some position) :
    scope.step index (.replace pattern code) workspace = .ok (workspace.change
      (workspace.body.replace position (position + pattern.length) (scope.code code))) := by
  rw [step, scope.locate_of_found index workspace found]
  rfl

/-- Replacing code misses the pattern when taking it out does, whatever the new code is. -/
theorem step_replace_eq_error_iff (other : Body) {miss : Miss} :
    scope.step index (.replace pattern code) workspace = .error miss ↔
      scope.step index (.replace pattern other) workspace = .error miss := by
  rw [step_eq_error_iff, step_eq_error_iff]
  rfl

/-- Where code is replaced it can be taken out, and the new code put in at the cursor then. This
counts one change more. -/
theorem exists_step_remove {next : Workspace}
    (succeeded : scope.step index (.replace pattern code) workspace = .ok next) (later : Nat) :
    ∃ between, scope.step index (.remove pattern) workspace = .ok between ∧
      scope.step later (.insert code) between =
        .ok { next with changes := next.changes + 1 } := by
  cases makes_of_step succeeded with
  | replace _ _ position found =>
    have spliced :=
      workspace.body.insert_replace_nil position (position + pattern.length) (scope.code code)
    refine ⟨_, scope.step_replace_of_found index pattern [] workspace found, congrArg Except.ok ?_⟩
    exact congrArg (fun last : Spliced => (⟨last.body, last.next, _⟩ : Workspace)) spliced

end Scope

/-! ### Chains and hooks -/

namespace Hook

variable {hook : Hook} {edits : List Edit}

theorem checkEdits_respelled (name : String) (earlier : List Label) {edits others : List Edit}
    (respelled : List.Forall₂ Edit.Respelled edits others) :
    checkEdits name earlier others = checkEdits name earlier edits := by
  induction respelled generalizing earlier with
  | nil => rfl
  | cons first _ inductionHypothesis =>
    rw [checkEdits, checkEdits, first.check_eq, first.anchors_eq, inductionHypothesis]

theorem check_respelled (respelled : List.Forall₂ Edit.Respelled hook.edits edits) :
    ({ hook with edits } : Hook).check = hook.check := by
  rw [check, check]
  dsimp only
  rw [checkEdits_respelled hook.name [] respelled]

/-- The labels of a hook do not depend on how its marks are written, and so its scope does not. -/
theorem scope_respelled (respelled : List.Forall₂ Edit.Respelled hook.edits edits)
    (naming : Naming) : ({ hook with edits } : Hook).scope naming = hook.scope naming :=
  congrArg (fun labels => Scope.mk hook.name labels naming)
    (Edit.flatMap_anchors_respelled respelled)

theorem miss_and_workspace_respelled (respelled : List.Forall₂ Edit.Respelled hook.edits edits)
    (naming : Naming) (body : Body) :
    (({ hook with edits } : Hook).run naming body).miss = (hook.run naming body).miss ∧
      (({ hook with edits } : Hook).run naming body).workspace =
        (hook.run naming body).workspace := by
  rw [run, run, scope_respelled respelled naming]
  exact (hook.scope naming).run_respelled respelled 0 (.start body)

/-- A hook whose marks are written as insertions of their anchors, all of them or some, is checked
with the same result, misses the same pattern under the same number, and otherwise makes as many
changes; either way it leaves the same body. In any workspace, replacing code misses its pattern
when taking it out does, and otherwise it ends with the body and the cursor that taking it out and
putting the new code in end with. -/
theorem derived_edits_agree (hook : Hook) :
    (∀ edits, List.Forall₂ Edit.Respelled hook.edits edits →
      let other : Hook := { hook with edits }
      other.check = hook.check ∧
      ∀ naming body, (other.run naming body).miss = (hook.run naming body).miss ∧
        (other.run naming body).workspace = (hook.run naming body).workspace) ∧
    ∀ naming index pattern code workspace,
      let scope := hook.scope naming
      (∀ miss, scope.step index (.replace pattern code) workspace = .error miss ↔
        scope.step index (.replace pattern []) workspace = .error miss) ∧
      ∀ next later, scope.step index (.replace pattern code) workspace = .ok next →
        ∃ between, scope.step index (.replace pattern []) workspace = .ok between ∧
          scope.step later (.insert code) between =
            .ok { next with changes := next.changes + 1 } := by
  refine ⟨fun edits respelled => ⟨check_respelled respelled, ?_⟩, ?_⟩
  · exact miss_and_workspace_respelled respelled
  · intro naming index pattern code workspace scope
    refine ⟨fun miss => scope.step_replace_eq_error_iff index pattern code workspace [], ?_⟩
    exact fun next later succeeded =>
      scope.exists_step_remove index pattern code workspace succeeded later

/-- A hook with two marks and branches to both, the second of which is written differently, and a
replacement in the workspace that the hook leaves. -/
theorem derived_edits_agree_second_of_two_marks :
    let load : Instruction := ⟨0x2a, .none⟩
    let done : Instruction := ⟨0xb1, .none⟩
    let branch (label : String) : Instruction := ⟨0xa7, .jump ⟨label⟩⟩
    let hook : Hook := {
      name := "loop", target := .unmapped (.of "a.B") "run" "()V"
      edits := [.markLabel ⟨"top"⟩, .seekTo (.single done), .insert [branch "end", branch "top"],
        .markLabel ⟨"end"⟩, .seekPast (.single load)] }
    let edits := hook.edits.set 3 (.insert [.anchor ⟨"end"⟩])
    let other : Hook := { hook with edits }
    let body : Body := [load, done]
    let scope := hook.scope .named
    let workspace : Workspace := ⟨[.anchor ⟨"loop:top"⟩, load, branch "loop:end",
      branch "loop:top", .anchor ⟨"loop:end"⟩, done], 5, 3⟩
    let next : Workspace := ⟨workspace.body.take 5 ++ [load, branch "loop:top"], 7, 4⟩
    List.Forall₂ Edit.Respelled hook.edits edits ∧ edits ≠ hook.edits ∧
      (hook.run .named body).workspace = workspace ∧
      (hook.run .named body).miss = some ⟨"loop", 4, "[aload_0]"⟩ ∧
      (other.check = hook.check ∧ (other.run .named body).workspace = workspace ∧
        (other.run .named body).miss = some ⟨"loop", 4, "[aload_0]"⟩) ∧
      scope.step 5 (.replace (.single done) [load, branch "top"]) workspace = .ok next ∧
      ∃ between, scope.step 5 (.replace (.single done) []) workspace = .ok between ∧
        scope.step 6 (.insert [load, branch "top"]) between = .ok ⟨next.body, 7, 5⟩ := by
  intro load done branch hook edits other body scope workspace next
  have respelled : List.Forall₂ Edit.Respelled hook.edits edits := Edit.Respelled.set rfl
  have reached : (hook.run .named body).workspace = workspace := by decide +kernel
  have missed : (hook.run .named body).miss = some ⟨"loop", 4, "[aload_0]"⟩ := by decide +kernel
  have succeeded : scope.step 5 (.replace (.single done) [load, branch "top"]) workspace =
      .ok next := by decide +kernel
  obtain ⟨marks, replacements⟩ := hook.derived_edits_agree
  obtain ⟨checked, ran⟩ := marks edits respelled
  obtain ⟨sameMiss, sameWorkspace⟩ := ran .named body
  obtain ⟨_, between⟩ := replacements .named 5 (.single done) [load, branch "top"] workspace
  exact ⟨respelled, by decide +kernel, reached, missed,
    ⟨checked, sameWorkspace.trans reached, sameMiss.trans missed⟩, succeeded,
    between next 6 succeeded⟩

end Hook

end MethodPatch
