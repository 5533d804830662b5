/-
This file says when a chain of edits breaks off and what is known about it then.

A chain is followed edit by edit as long as the steps succeed. It breaks off at the first edit whose
pattern is nowhere from the cursor on. What is left is then the workspace that the edits before it
have made, with as many changes counted as there are changes among them, and the report names the
edit and the pattern in the form in which it was searched for. There is no other way to fail.
-/

import MethodPatch.Proofs.Chain
import MethodPatch.Proofs.Progress
import MethodPatch.Proofs.Search

namespace MethodPatch

namespace Scope

variable {scope : Scope} {index : Nat} {workspace reached : Workspace} {made rest : List Edit}

/-! ### Steps in a row -/

/-- Edits succeed one after another in one workspace, the first of them under the given number. -/
inductive Advances (scope : Scope) : Nat → Workspace → List Edit → Workspace → Prop where
  | nil (index : Nat) (workspace : Workspace) : Advances scope index workspace [] workspace
  | cons {index : Nat} {workspace next last : Workspace} {edit : Edit} {rest : List Edit}
      (first : scope.step index edit workspace = .ok next)
      (later : Advances scope (index + 1) next rest last) :
    Advances scope index workspace (edit :: rest) last

theorem Advances.makesAll (advances : scope.Advances index workspace made reached) :
    scope.MakesAll workspace made reached := by
  induction advances with
  | nil index workspace => exact .nil workspace
  | cons first later inductionHypothesis => exact .cons (makes_of_step first) inductionHypothesis

/-- Behind edits that succeed a run goes on from the workspace they have reached. -/
theorem Advances.run_append (advances : scope.Advances index workspace made reached)
    (rest : List Edit) :
    (scope.run index (made ++ rest) workspace).miss =
        (scope.run (index + made.length) rest reached).miss ∧
      (scope.run index (made ++ rest) workspace).workspace =
        (scope.run (index + made.length) rest reached).workspace := by
  induction advances with
  | nil index workspace => exact ⟨rfl, rfl⟩
  | @cons index workspace next last edit others first later inductionHypothesis =>
    obtain ⟨miss, workspace⟩ := inductionHypothesis
    rw [List.cons_append, scope.miss_run_of_ok _ _ first, scope.workspace_run_of_ok first, miss,
      workspace, List.length_cons, Nat.add_right_comm, Nat.add_assoc]
    exact ⟨rfl, rfl⟩

/-- A run succeeds step by step to its end, or up to an edit that fails. -/
theorem exists_advances (scope : Scope) (index : Nat) (edits : List Edit) (workspace : Workspace) :
    ∃ made rest reached, edits = made ++ rest ∧ scope.Advances index workspace made reached ∧
      (rest = [] ∨ ∃ edit later miss, rest = edit :: later ∧
        scope.step (index + made.length) edit reached = .error miss) := by
  induction edits generalizing index workspace with
  | nil => exact ⟨[], [], workspace, rfl, .nil index workspace, Or.inl rfl⟩
  | cons edit rest inductionHypothesis =>
    cases step : scope.step index edit workspace with
    | error miss =>
      exact ⟨[], edit :: rest, workspace, rfl, .nil index workspace,
        Or.inr ⟨edit, rest, miss, rfl, step⟩⟩
    | ok next =>
      obtain ⟨made, left, reached, rfl, advances, ending⟩ := inductionHypothesis (index + 1) next
      refine ⟨edit :: made, left, reached, rfl, .cons step advances, ?_⟩
      rwa [List.length_cons, ← Nat.add_assoc, Nat.add_right_comm]

/-- A step succeeds, or it leaves the workspace as it is. -/
theorem attempt_cases (scope : Scope) (index : Nat) (edit : Edit) (workspace : Workspace) :
    (scope.attempt index edit workspace).miss = none ∧
        scope.step index edit workspace = .ok (scope.attempt index edit workspace).workspace ∨
      (scope.attempt index edit workspace).miss.isSome = true ∧
        (scope.attempt index edit workspace).workspace = workspace := by
  unfold attempt
  cases scope.step index edit workspace with
  | ok next => exact Or.inl ⟨rfl, rfl⟩
  | error miss => exact Or.inr ⟨rfl, rfl⟩

end Scope

/-! ### The edits of a hook -/

namespace Hook

variable {hook : Hook} {naming : Naming} {body : Body} {count : Nat} {pattern : Pattern}
  {reached : Workspace}

/-- The edits before one of a hook succeed, and the pattern of that edit is nowhere from the cursor
on that they have reached. -/
structure BreaksOff (hook : Hook) (naming : Naming) (body : Body) (count : Nat) (pattern : Pattern)
    (reached : Workspace) : Prop where
  advances : (hook.scope naming).Advances 0 (.start body) (hook.edits.take count) reached
  looksFor : (hook.edits[count]?).bind Edit.pattern? = some pattern
  nowhere : ∀ position, reached.cursor ≤ position →
    (pattern.resolve naming).isAt reached.body position = false

theorem run_of_breaksOff (breaksOff : hook.BreaksOff naming body count pattern reached) :
    (hook.run naming body).miss = some ⟨hook.name, count, (pattern.resolve naming).text⟩ ∧
      (hook.run naming body).workspace = reached := by
  obtain ⟨edit, there, looksFor⟩ := Option.bind_eq_some_iff.mp breaksOff.looksFor
  obtain ⟨inside, rfl⟩ := List.getElem?_eq_some_iff.mp there
  have split : hook.edits.take count ++ hook.edits[count] :: hook.edits.drop (count + 1) =
      hook.edits := by
    rw [← List.drop_eq_getElem_cons inside, List.take_append_drop]
  have missed : (hook.scope naming).step count hook.edits[count] reached =
      .error ⟨hook.name, count, (pattern.resolve naming).text⟩ :=
    (Scope.step_eq_error_iff _ _ _).mpr
      ⟨pattern, looksFor, (Pattern.find?_eq_none _ _ _).mpr breaksOff.nowhere, rfl⟩
  obtain ⟨miss, workspace⟩ :=
    breaksOff.advances.run_append (hook.edits[count] :: hook.edits.drop (count + 1))
  rw [split, List.length_take_of_le (Nat.le_of_lt inside), Nat.zero_add] at miss workspace
  rw [Scope.miss_run_of_error _ _ _ missed] at miss
  rw [Scope.workspace_run_of_error _ missed] at workspace
  exact ⟨miss, workspace⟩

theorem run_of_advances
    (advances : (hook.scope naming).Advances 0 (.start body) hook.edits reached) :
    (hook.run naming body).miss = none ∧ (hook.run naming body).workspace = reached := by
  have ending := advances.run_append []
  rwa [List.append_nil] at ending

/-- The edits of a hook all succeed, or they break off at one of them. -/
theorem advances_or_breaksOff (hook : Hook) (naming : Naming) (body : Body) :
    (∃ reached, (hook.scope naming).Advances 0 (.start body) hook.edits reached) ∨
      ∃ count pattern reached, hook.BreaksOff naming body count pattern reached := by
  obtain ⟨made, rest, reached, split, advances, rfl | ⟨edit, later, miss, rfl, failed⟩⟩ :=
    (hook.scope naming).exists_advances 0 hook.edits (.start body)
  · rw [List.append_nil] at split
    exact Or.inl ⟨reached, split ▸ advances⟩
  · obtain ⟨pattern, looksFor, missed, _⟩ := (Scope.step_eq_error_iff _ _ _).mp failed
    refine Or.inr ⟨made.length, pattern, reached, ?_, ?_, (Pattern.find?_eq_none _ _ _).mp missed⟩
    · rwa [split, List.take_left]
    · rw [split, List.getElem?_append_right (Nat.le_refl _), Nat.sub_self]
      exact looksFor

/-- A step succeeds or leaves the workspace as it is. A hook breaks off at an edit exactly when the
edits before it succeed one after another and its pattern is nowhere from the cursor on. Then the
miss names the hook, the edit and the settled pattern, the workspace is the one that the edits
before it have reached, and as many changes are counted as there are among them. Otherwise all
edits succeed, and all changes among them are counted. -/
theorem run_miss_iff_breaksOff (hook : Hook) (naming : Naming) (body : Body) :
    let scope := hook.scope naming
    let run := hook.run naming body
    (∀ index edit workspace,
      let attempt := scope.attempt index edit workspace
      attempt.miss = none ∧ scope.step index edit workspace = .ok attempt.workspace ∨
        attempt.miss.isSome = true ∧ attempt.workspace = workspace) ∧
    (∀ count, (∃ miss, run.miss = some miss ∧ miss.index = count) ↔
      ∃ pattern reached, hook.BreaksOff naming body count pattern reached) ∧
    (∀ count pattern reached, hook.BreaksOff naming body count pattern reached →
      run.miss = some ⟨hook.name, count, (pattern.resolve naming).text⟩ ∧
        run.workspace = reached ∧
        reached.changes = (hook.edits.take count).countP Edit.isChange) ∧
    (run.miss = none ↔ ∃ reached, scope.Advances 0 (.start body) hook.edits reached) ∧
    ∀ reached, scope.Advances 0 (.start body) hook.edits reached →
      run.workspace = reached ∧ reached.changes = hook.edits.countP Edit.isChange := by
  intro scope run
  have counted {made : List Edit} {reached : Workspace}
      (advances : scope.Advances 0 (.start body) made reached) :
      reached.changes = made.countP Edit.isChange :=
    advances.makesAll.changes.trans (Nat.zero_add _)
  refine ⟨scope.attempt_cases, fun count => ⟨?_, ?_⟩, ?_, ⟨fun completed => ?_, ?_⟩, ?_⟩
  · rintro ⟨miss, missed, rfl⟩
    rcases hook.advances_or_breaksOff naming body with ⟨reached, advances⟩ | ⟨count, pattern,
      reached, breaksOff⟩
    · cases missed.symm.trans (run_of_advances advances).1
    · obtain rfl := Option.some.inj (missed.symm.trans (run_of_breaksOff breaksOff).1)
      exact ⟨pattern, reached, breaksOff⟩
  · rintro ⟨pattern, reached, breaksOff⟩
    exact ⟨_, (run_of_breaksOff breaksOff).1, rfl⟩
  · intro count pattern reached breaksOff
    obtain ⟨missed, workspace⟩ := run_of_breaksOff breaksOff
    exact ⟨missed, workspace, counted breaksOff.advances⟩
  · rcases hook.advances_or_breaksOff naming body with advances | ⟨count, pattern, reached,
      breaksOff⟩
    · exact advances
    · cases completed.symm.trans (run_of_breaksOff breaksOff).1
  · rintro ⟨reached, advances⟩
    exact (run_of_advances advances).1
  · exact fun reached advances => ⟨(run_of_advances advances).2, counted advances⟩

/-- A hook that breaks off at its last edit after three changes where the call it looks for comes
once, and that is completed with as many where the call comes twice. -/
theorem run_miss_iff_breaksOff_one_call :
    let call : Instruction := ⟨0xb8, .mapped (.of .method (.of "a.B") "exit" "func_1" "()V")⟩
    let hook : Hook := {
      name := "calm", target := .unmapped (.of "a.B") "run" "()V"
      edits := [.seekTo (.single ⟨0x10, .int (-1)⟩), .insert [⟨0x00, .none⟩], .seekToStart,
        .replace (.single call) [], .markLabel ⟨"end"⟩, .seekPast (.single call)] }
    let calls (count : Nat) : Body :=
      [⟨0x10, .int 5⟩] ++ List.replicate count (call.resolve .remapped) ++ [⟨0xb1, .none⟩]
    (∃ pattern reached, hook.BreaksOff .remapped (calls 1) 5 pattern reached ∧
        (hook.run .remapped (calls 1)).miss = some ⟨"calm", 5, "[invokestatic a/B.func_1 ()V]"⟩ ∧
        (hook.run .remapped (calls 1)).workspace = reached ∧ reached.changes = 3) ∧
      ∃ reached, (hook.scope .remapped).Advances 0 (.start (calls 2)) hook.edits reached ∧
        (hook.run .remapped (calls 2)).workspace = reached ∧ reached.changes = 3 := by
  intro call hook calls
  constructor
  · have missed : (hook.run .remapped (calls 1)).miss =
        some ⟨"calm", 5, "[invokestatic a/B.func_1 ()V]"⟩ := by decide +kernel
    obtain ⟨_, breaks, reported, _⟩ := hook.run_miss_iff_breaksOff .remapped (calls 1)
    obtain ⟨pattern, reached, breaksOff⟩ := (breaks 5).mp ⟨_, missed, rfl⟩
    obtain ⟨_, workspace, changes⟩ := reported 5 pattern reached breaksOff
    exact ⟨pattern, reached, breaksOff, missed, workspace, changes⟩
  · have completed : (hook.run .remapped (calls 2)).miss = none := by decide +kernel
    obtain ⟨_, _, _, completes, counted⟩ := hook.run_miss_iff_breaksOff .remapped (calls 2)
    obtain ⟨reached, advances⟩ := completes.mp completed
    obtain ⟨workspace, changes⟩ := counted reached advances
    exact ⟨reached, advances, workspace, changes⟩

end Hook

end MethodPatch
