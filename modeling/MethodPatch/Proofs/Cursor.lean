/-
This file says what the edits of a chain leave ahead of the cursor.

Code that is put in always ends up behind the cursor, and code that is replaced is taken away
together with all that precedes it. So what is ahead of the cursor after an edit was ahead of it
before, less some instructions at its start. Later edits that do not go back to the start of the
body cannot tell that earlier ones changed anything.
-/

import MethodPatch.Workspace

namespace MethodPatch

/-! ### Splices -/

namespace Body

/-- Behind the code that is put in comes what came at the position before. -/
theorem drop_next_insert (body : Body) (position : Nat) (code : Body) :
    (body.insert position code).body.drop (body.insert position code).next =
      body.drop position := by
  have front : (body.take (min position body.length) ++ code).length =
      min position body.length + code.length := by simp
  rw [insert]
  dsimp only
  rw [List.drop_left' front, ← List.drop_eq_drop_min]

theorem drop_next_replace (body : Body) (start stop : Nat) (code : Body) :
    (body.replace start stop code).body.drop (body.replace start stop code).next =
      body.drop stop := by
  have front : (body.take (body.windowStart start stop) ++ code).length =
      body.windowStart start stop + code.length := by simp [windowStart, windowEnd]
  rw [replace]
  dsimp only
  rw [List.drop_left' front, windowEnd, ← List.drop_eq_drop_min]

end Body

/-! ### Ahead of the cursor -/

/-- The code from the cursor on. -/
def Workspace.ahead (workspace : Workspace) : Body := workspace.body.drop workspace.cursor

/-- How many instructions of the place of its pattern an edit leaves behind. -/
def Edit.reach : Edit → Nat
  | .seekPast pattern => pattern.length
  | .replace pattern _ => pattern.length
  | _ => 0

namespace Scope

variable (scope : Scope) (index : Nat) (workspace : Workspace)

theorem locate_of_found {pattern : Pattern} {position : Nat}
    (found : (pattern.resolve scope.naming).find? workspace.body workspace.cursor =
      some position) :
    scope.locate index pattern workspace = .ok position := by
  simp only [locate, found]

/-- An edit without a pattern succeeds, and unless it goes back to the start it leaves ahead what
was ahead. -/
theorem step_of_no_pattern {edit : Edit} (plain : edit.pattern? = none)
    (onward : edit ≠ .seekToStart) :
    ∃ next, scope.step index edit workspace = .ok next ∧ next.ahead = workspace.ahead := by
  cases edit with
  | seekToStart => exact absurd rfl onward
  | seekTo pattern => cases plain
  | seekPast pattern => cases plain
  | insert code =>
    exact ⟨_, rfl, Body.drop_next_insert workspace.body workspace.cursor (scope.code code)⟩
  | markLabel label =>
    exact ⟨_, rfl, Body.drop_next_insert workspace.body workspace.cursor _⟩
  | replace pattern code => cases plain

/-- An edit whose pattern is found leaves ahead what comes behind the place, or the place itself
if it goes no further. -/
theorem step_of_found {edit : Edit} {pattern : Pattern} {position : Nat}
    (looksFor : edit.pattern? = some pattern)
    (found : (pattern.resolve scope.naming).find? workspace.body workspace.cursor =
      some position) :
    ∃ next, scope.step index edit workspace = .ok next ∧
      next.ahead = workspace.body.drop (position + edit.reach) := by
  have located := scope.locate_of_found index workspace found
  cases edit with
  | seekToStart => cases looksFor
  | seekTo sought =>
    obtain rfl : sought = pattern := Option.some.inj looksFor
    exact ⟨_, by rw [step, located]; rfl, rfl⟩
  | seekPast sought =>
    obtain rfl : sought = pattern := Option.some.inj looksFor
    exact ⟨_, by rw [step, located]; rfl, rfl⟩
  | insert code => cases looksFor
  | markLabel label => cases looksFor
  | replace sought code =>
    obtain rfl : sought = pattern := Option.some.inj looksFor
    refine ⟨_, by rw [step, located]; rfl, ?_⟩
    exact Body.drop_next_replace workspace.body position _ (scope.code code)

/-- An edit whose pattern is not found fails and names itself and the pattern. -/
theorem step_of_missed {edit : Edit} {pattern : Pattern}
    (looksFor : edit.pattern? = some pattern)
    (missed : (pattern.resolve scope.naming).find? workspace.body workspace.cursor = none) :
    scope.step index edit workspace =
      .error ⟨scope.hook, index, (pattern.resolve scope.naming).text⟩ := by
  have lost : scope.locate index pattern workspace =
      .error ⟨scope.hook, index, (pattern.resolve scope.naming).text⟩ := by
    simp only [locate, missed]
  cases edit with
  | seekToStart | insert | markLabel => cases looksFor
  | seekTo sought | seekPast sought | replace sought =>
    obtain rfl : sought = pattern := Option.some.inj looksFor
    rw [step, lost]
    rfl

/-- An edit fails exactly when it has a pattern and that is not found. It then names itself and the
pattern as it was searched for. -/
theorem step_eq_error_iff {edit : Edit} {miss : Miss} :
    scope.step index edit workspace = .error miss ↔
      ∃ pattern, edit.pattern? = some pattern ∧
        (pattern.resolve scope.naming).find? workspace.body workspace.cursor = none ∧
        miss = ⟨scope.hook, index, (pattern.resolve scope.naming).text⟩ := by
  constructor
  · intro failed
    cases looksFor : edit.pattern? with
    | none =>
      by_cases back : edit = .seekToStart
      · subst back
        cases failed
      · obtain ⟨next, succeeded, _⟩ := scope.step_of_no_pattern index workspace looksFor back
        cases succeeded.symm.trans failed
    | some pattern =>
      cases found : (pattern.resolve scope.naming).find? workspace.body workspace.cursor with
      | some position =>
        obtain ⟨next, succeeded, _⟩ := scope.step_of_found index workspace looksFor found
        cases succeeded.symm.trans failed
      | none =>
        have missed := scope.step_of_missed index workspace looksFor found
        exact ⟨pattern, rfl, found, (Except.error.inj (missed.symm.trans failed)).symm⟩
  · rintro ⟨pattern, looksFor, missed, rfl⟩
    exact scope.step_of_missed index workspace looksFor missed

/-! ### Chains -/

theorem miss_run_of_ok {edit : Edit} {rest : List Edit} {next : Workspace}
    (succeeded : scope.step index edit workspace = .ok next) :
    (scope.run index (edit :: rest) workspace).miss = (scope.run (index + 1) rest next).miss := by
  simp only [run, attempt, succeeded]

theorem miss_run_of_error {edit : Edit} {rest : List Edit} {miss : Miss}
    (failed : scope.step index edit workspace = .error miss) :
    (scope.run index (edit :: rest) workspace).miss = some miss := by
  simp only [run, attempt, failed]

end Scope

end MethodPatch
