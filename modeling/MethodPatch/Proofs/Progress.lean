/-
This file follows a chain of edits from one edit to the next.

The workspace after some edits is where a run of those edits alone ends. As long as no pattern has
been missed, each of these workspaces comes from the one before it by one step, and the last of
them is where the run of the whole chain ends, whether it misses a pattern there or is complete.
-/

import MethodPatch.Proofs.Cursor

namespace MethodPatch

namespace Scope

variable (scope : Scope) {index count : Nat} {edit : Edit} {edits rest : List Edit}
  {workspace next : Workspace}

/-! ### How far a chain comes -/

/-- How many edits of a chain are made when the first of them has the given number. -/
def madeCount (index : Nat) (edits : List Edit) (workspace : Workspace) : Nat :=
  match (scope.run index edits workspace).miss with
  | some miss => miss.index - index
  | none => edits.length

theorem index_of_step_error {miss : Miss}
    (failed : scope.step index edit workspace = .error miss) : miss.index = index := by
  obtain ⟨pattern, _, _, rfl⟩ := (scope.step_eq_error_iff index workspace).mp failed
  rfl

theorem workspace_run_of_ok (succeeded : scope.step index edit workspace = .ok next) :
    (scope.run index (edit :: rest) workspace).workspace =
      (scope.run (index + 1) rest next).workspace := by
  simp only [run, attempt, succeeded]

theorem workspace_run_of_error {miss : Miss}
    (failed : scope.step index edit workspace = .error miss) :
    (scope.run index (edit :: rest) workspace).workspace = workspace := by
  simp only [run, attempt, failed]

theorem le_index_of_miss_run {miss : Miss}
    (missed : (scope.run index edits workspace).miss = some miss) : index ≤ miss.index := by
  induction edits generalizing index workspace with
  | nil => cases missed
  | cons edit rest inductionHypothesis =>
    cases step : scope.step index edit workspace with
    | error here =>
      rw [scope.miss_run_of_error _ _ step] at missed
      cases missed
      exact Nat.le_of_eq (scope.index_of_step_error step).symm
    | ok next =>
      rw [scope.miss_run_of_ok _ _ step] at missed
      exact Nat.le_of_succ_le (inductionHypothesis missed)

theorem madeCount_of_ok (succeeded : scope.step index edit workspace = .ok next) :
    scope.madeCount index (edit :: rest) workspace =
      scope.madeCount (index + 1) rest next + 1 := by
  rw [madeCount, madeCount, scope.miss_run_of_ok _ _ succeeded]
  cases missed : (scope.run (index + 1) rest next).miss with
  | none => rfl
  | some miss =>
    have later := scope.le_index_of_miss_run missed
    dsimp only
    omega

theorem madeCount_of_error {miss : Miss}
    (failed : scope.step index edit workspace = .error miss) :
    scope.madeCount index (edit :: rest) workspace = 0 := by
  rw [madeCount, scope.miss_run_of_error _ _ failed, ← scope.index_of_step_error failed]
  exact Nat.sub_self miss.index

/-! ### From one edit to the next -/

/-- Before the first pattern is missed, the run of one edit more goes one step further. -/
theorem step_run_take (index : Nat) (inside : count < scope.madeCount index edits workspace) :
    ∃ edit, edits[count]? = some edit ∧
      scope.step (index + count) edit (scope.run index (edits.take count) workspace).workspace =
        .ok (scope.run index (edits.take (count + 1)) workspace).workspace := by
  induction edits generalizing index count workspace with
  | nil => exact absurd inside (Nat.not_lt_zero count)
  | cons edit rest inductionHypothesis =>
    cases step : scope.step index edit workspace with
    | error miss =>
      rw [scope.madeCount_of_error step] at inside
      exact absurd inside (Nat.not_lt_zero count)
    | ok next =>
      rw [scope.madeCount_of_ok step] at inside
      cases count with
      | zero =>
        refine ⟨edit, rfl, ?_⟩
        rw [List.take_succ_cons, scope.workspace_run_of_ok step]
        exact step
      | succ count =>
        obtain ⟨other, there, further⟩ :=
          inductionHypothesis (index + 1) (Nat.lt_of_succ_lt_succ inside)
        refine ⟨other, there, ?_⟩
        rw [List.take_succ_cons, List.take_succ_cons, scope.workspace_run_of_ok step,
          scope.workspace_run_of_ok step, ← Nat.add_assoc, Nat.add_right_comm]
        exact further

/-- The edit behind those that are made misses its pattern. -/
theorem exists_miss_of_getElem?_madeCount (index : Nat)
    (there : edits[scope.madeCount index edits workspace]? = some edit) :
    ∃ miss, scope.step (index + scope.madeCount index edits workspace) edit
      (scope.run index (edits.take (scope.madeCount index edits workspace)) workspace).workspace =
        .error miss := by
  induction edits generalizing index workspace with
  | nil => cases there
  | cons first rest inductionHypothesis =>
    cases step : scope.step index first workspace with
    | error miss =>
      rw [scope.madeCount_of_error step] at there ⊢
      obtain rfl : first = edit := Option.some.inj there
      exact ⟨miss, step⟩
    | ok next =>
      rw [scope.madeCount_of_ok step] at there ⊢
      obtain ⟨miss, failed⟩ := inductionHypothesis (index + 1) there
      rw [List.take_succ_cons, scope.workspace_run_of_ok step, ← Nat.add_assoc,
        Nat.add_right_comm]
      exact ⟨miss, failed⟩

/-- A chain ends where the run of the edits that are made ends. -/
theorem workspace_run_take_madeCount (index : Nat) (edits : List Edit) (workspace : Workspace) :
    (scope.run index (edits.take (scope.madeCount index edits workspace)) workspace).workspace =
      (scope.run index edits workspace).workspace := by
  induction edits generalizing index workspace with
  | nil => rfl
  | cons edit rest inductionHypothesis =>
    cases step : scope.step index edit workspace with
    | error miss =>
      rw [scope.madeCount_of_error step, scope.workspace_run_of_error step]
      rfl
    | ok next =>
      rw [scope.madeCount_of_ok step, List.take_succ_cons, scope.workspace_run_of_ok step,
        scope.workspace_run_of_ok step, inductionHypothesis]

end Scope

/-! ### The edits of a hook -/

namespace Hook

variable {hook : Hook} {naming : Naming} {body : Body} {count : Nat}

/-- The workspace in which the first edits of a hook end. -/
def workspaceAfter (hook : Hook) (naming : Naming) (body : Body) (count : Nat) : Workspace :=
  ((hook.scope naming).run 0 (hook.edits.take count) (.start body)).workspace

/-- How many edits of a hook are made: those before the one that misses its pattern, or all. -/
def madeCount (hook : Hook) (naming : Naming) (body : Body) : Nat :=
  match (hook.run naming body).miss with
  | some miss => miss.index
  | none => hook.edits.length

theorem step_workspaceAfter (inside : count < hook.madeCount naming body) :
    ∃ edit, hook.edits[count]? = some edit ∧
      (hook.scope naming).step count edit (hook.workspaceAfter naming body count) =
        .ok (hook.workspaceAfter naming body (count + 1)) := by
  have further := (hook.scope naming).step_run_take 0 inside
  rwa [Nat.zero_add] at further

theorem exists_miss_of_getElem?_madeCount {edit : Edit}
    (there : hook.edits[hook.madeCount naming body]? = some edit) :
    ∃ miss, (hook.scope naming).step (hook.madeCount naming body) edit
      (hook.workspaceAfter naming body (hook.madeCount naming body)) = .error miss := by
  have failed := (hook.scope naming).exists_miss_of_getElem?_madeCount 0 there
  rwa [Nat.zero_add] at failed

theorem madeCount_le_length (hook : Hook) (naming : Naming) (body : Body) :
    hook.madeCount naming body ≤ hook.edits.length := by
  refine Nat.le_of_not_lt fun beyond => ?_
  obtain ⟨edit, there, _⟩ := step_workspaceAfter beyond
  rw [List.getElem?_eq_none (Nat.le_refl _)] at there
  cases there

theorem workspaceAfter_madeCount (hook : Hook) (naming : Naming) (body : Body) :
    hook.workspaceAfter naming body (hook.madeCount naming body) =
      (hook.run naming body).workspace :=
  (hook.scope naming).workspace_run_take_madeCount 0 hook.edits (.start body)

end Hook

end MethodPatch
