/-
This file says what a chain of edits does, one edit at a time.

`Scope.Makes` has one case for each kind of edit, with the place of its pattern where it has one,
and every step that succeeds is one of them. The run of a chain makes the edits at its start, all
of them if none misses its pattern (`Scope.makesAll_run`). Whatever holds of a workspace and is
kept by each kind of edit therefore holds wherever a run ends.
-/

import MethodPatch.Workspace

namespace MethodPatch.Scope

variable {scope : Scope} {workspace next : Workspace} {edit : Edit} {edits : List Edit}

/-! ### One edit -/

/-- What a workspace becomes when an edit is made. -/
inductive Makes (scope : Scope) (workspace : Workspace) : Edit → Workspace → Prop where
  | seekToStart : Makes scope workspace .seekToStart { workspace with cursor := 0 }
  | seekTo (pattern : Pattern) (position : Nat)
      (found : (pattern.resolve scope.naming).find? workspace.body workspace.cursor =
        some position) :
    Makes scope workspace (.seekTo pattern) { workspace with cursor := position }
  | seekPast (pattern : Pattern) (position : Nat)
      (found : (pattern.resolve scope.naming).find? workspace.body workspace.cursor =
        some position) :
    Makes scope workspace (.seekPast pattern)
      { workspace with cursor := position + pattern.length }
  | insert (code : Body) :
    Makes scope workspace (.insert code)
      (workspace.change (workspace.body.insert workspace.cursor (scope.code code)))
  | markLabel (label : Label) :
    Makes scope workspace (.markLabel label)
      (workspace.change (workspace.body.insert workspace.cursor [.anchor (scope.label label)]))
  | replace (pattern : Pattern) (code : Body) (position : Nat)
      (found : (pattern.resolve scope.naming).find? workspace.body workspace.cursor =
        some position) :
    Makes scope workspace (.replace pattern code)
      (workspace.change
        (workspace.body.replace position (position + pattern.length) (scope.code code)))

theorem exists_of_map_locate {index : Nat} {pattern : Pattern} {move : Nat → Workspace}
    (succeeded : (scope.locate index pattern workspace).map move = .ok next) :
    ∃ position, (pattern.resolve scope.naming).find? workspace.body workspace.cursor =
      some position ∧ move position = next := by
  unfold locate at succeeded
  dsimp only at succeeded
  split at succeeded
  · next position found => exact ⟨position, found, Except.ok.inj succeeded⟩
  · cases succeeded

theorem makes_of_step {index : Nat} (succeeded : scope.step index edit workspace = .ok next) :
    scope.Makes workspace edit next := by
  cases edit with
  | seekToStart =>
    cases succeeded
    exact .seekToStart
  | seekTo pattern =>
    obtain ⟨position, found, rfl⟩ := exists_of_map_locate succeeded
    exact .seekTo pattern position found
  | seekPast pattern =>
    obtain ⟨position, found, rfl⟩ := exists_of_map_locate succeeded
    exact .seekPast pattern position found
  | insert code =>
    cases succeeded
    exact .insert code
  | markLabel label =>
    cases succeeded
    exact .markLabel label
  | replace pattern code =>
    obtain ⟨position, found, rfl⟩ := exists_of_map_locate succeeded
    exact .replace pattern code position found

/-! ### Several edits -/

/-- What a workspace becomes when edits are made one after another. -/
inductive MakesAll (scope : Scope) : Workspace → List Edit → Workspace → Prop where
  | nil (workspace : Workspace) : MakesAll scope workspace [] workspace
  | cons {workspace next last : Workspace} {edit : Edit} {rest : List Edit}
      (first : scope.Makes workspace edit next) (later : MakesAll scope next rest last) :
    MakesAll scope workspace (edit :: rest) last

/-- A run makes the edits at the start of the chain, and all of them when it misses no pattern. -/
theorem makesAll_run (scope : Scope) (index : Nat) (edits : List Edit) (workspace : Workspace) :
    ∃ made left, edits = made ++ left ∧
      scope.MakesAll workspace made (scope.run index edits workspace).workspace ∧
        ((scope.run index edits workspace).miss = none → left = []) := by
  induction edits generalizing index workspace with
  | nil => exact ⟨[], [], rfl, .nil workspace, fun _ => rfl⟩
  | cons edit rest inductionHypothesis =>
    rw [run]
    unfold attempt
    cases succeeded : scope.step index edit workspace with
    | error miss =>
      exact ⟨[], edit :: rest, rfl, .nil workspace, fun impossible => nomatch impossible⟩
    | ok next =>
      obtain ⟨made, left, rfl, makes, complete⟩ := inductionHypothesis (index + 1) next
      exact ⟨edit :: made, left, rfl, .cons (makes_of_step succeeded) makes, complete⟩

/-! ### The number of changes -/

theorem Makes.changes (makes : scope.Makes workspace edit next) :
    next.changes = workspace.changes + if edit.isChange then 1 else 0 := by
  cases makes <;> rfl

/-- Only a change touches the body. -/
theorem Makes.body_of_not_isChange (makes : scope.Makes workspace edit next)
    (still : edit.isChange = false) : next.body = workspace.body := by
  cases makes with
  | seekToStart | seekTo | seekPast => rfl
  | insert | markLabel | replace => cases still

theorem MakesAll.changes (makes : scope.MakesAll workspace edits next) :
    next.changes = workspace.changes + edits.countP Edit.isChange := by
  induction makes with
  | nil workspace => rfl
  | cons first later inductionHypothesis =>
    rw [inductionHypothesis, first.changes, List.countP_cons, Nat.add_assoc, Nat.add_comm (ite ..)]

theorem MakesAll.body_of_not_isChange (makes : scope.MakesAll workspace edits next)
    (still : ∀ edit ∈ edits, edit.isChange = false) : next.body = workspace.body := by
  induction makes with
  | nil workspace => rfl
  | cons first later inductionHypothesis =>
    obtain ⟨here, beyond⟩ := List.forall_mem_cons.mp still
    rw [inductionHypothesis beyond, first.body_of_not_isChange here]

/-- A run that has made no change leaves the body as it was. -/
theorem body_run_of_changes_eq_zero (scope : Scope) (index : Nat) (edits : List Edit) (body : Body)
    (none : (scope.run index edits (.start body)).workspace.changes = 0) :
    (scope.run index edits (.start body)).workspace.body = body := by
  obtain ⟨made, left, _, makes, _⟩ := scope.makesAll_run index edits (.start body)
  have count : made.countP Edit.isChange = 0 := by
    have total := makes.changes
    rw [none] at total
    exact (Nat.add_eq_zero_iff.mp total.symm).2
  exact makes.body_of_not_isChange fun edit member => by
    simpa using List.countP_eq_zero.mp count edit member

end MethodPatch.Scope
