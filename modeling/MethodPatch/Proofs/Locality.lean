/-
This file proves that the cursor stays inside the body and that steps are local to what is ahead.

A step may come with any edit and under any number, and steps go on behind one that has missed its
pattern. The invariant is that the cursor is not behind the end of the body. Under it every cut
falls inside the body: code is put in at the cursor itself, and a pattern is found no earlier than
that and ends inside the body. So no bound of a splice is ever clamped, what is in front of the
cursor stays, and the cursor ends up behind the new code with some end of what was ahead still in
front of it.
-/

import MethodPatch.Proofs.Conservation

namespace MethodPatch

namespace Scope

variable {scope : Scope} {workspace next : Workspace} {edit : Edit}

/-! ### Where an edit cuts -/

/-- The bounds between which an edit replaces the body by what it brings along: the cursor twice
where it only puts code in, and the place of the pattern where it replaces one. -/
inductive Cuts (scope : Scope) (workspace : Workspace) : Edit → Nat → Nat → Prop where
  | insert (code : Body) : Cuts scope workspace (.insert code) workspace.cursor workspace.cursor
  | markLabel (label : Label) :
    Cuts scope workspace (.markLabel label) workspace.cursor workspace.cursor
  | replace (pattern : Pattern) (code : Body) (position : Nat)
      (found : (pattern.resolve scope.naming).find? workspace.body workspace.cursor =
        some position) :
    Cuts scope workspace (.replace pattern code) position (position + pattern.length)

/-- The place of a pattern is between the cursor and the end of the body. -/
theorem place_of_found {pattern : Pattern} {position : Nat}
    (found : (pattern.resolve scope.naming).find? workspace.body workspace.cursor =
      some position) :
    workspace.cursor ≤ position ∧ position + pattern.length ≤ workspace.body.length := by
  obtain ⟨behind, here, _⟩ := (Pattern.find?_eq_some _ _ _ _).mp found
  exact ⟨behind, Pattern.add_length_le_of_isAt_resolve here⟩

/-- A change cuts between bounds that are in order, not in front of the cursor and inside the
body. -/
theorem Makes.cuts (makes : scope.Makes workspace edit next)
    (inside : workspace.cursor ≤ workspace.body.length) (change : edit.isChange = true) :
    ∃ first last, scope.Cuts workspace edit first last ∧
      workspace.cursor ≤ first ∧ first ≤ last ∧ last ≤ workspace.body.length ∧
      next.body = workspace.body.take first ++ scope.brought edit ++ workspace.body.drop last ∧
      next.cursor = first + (scope.brought edit).length := by
  cases makes with
  | seekToStart | seekTo | seekPast => cases change
  | insert code =>
    refine ⟨_, _, .insert code, Nat.le_refl _, Nat.le_refl _, inside, ?_⟩
    rw [Workspace.change, Body.insert_of_inside inside]
    exact ⟨rfl, rfl⟩
  | markLabel label =>
    refine ⟨_, _, .markLabel label, Nat.le_refl _, Nat.le_refl _, inside, ?_⟩
    rw [Workspace.change, Body.insert_of_inside inside]
    exact ⟨rfl, rfl⟩
  | replace pattern code position found =>
    obtain ⟨behind, within⟩ := place_of_found found
    have ordered := Nat.le_add_right position pattern.length
    refine ⟨_, _, .replace pattern code position found, behind, ordered, within, ?_⟩
    rw [Workspace.change, Body.replace_of_inside ordered within]
    exact ⟨rfl, rfl⟩

/-! ### One step -/

/-- A step keeps the cursor inside the body. -/
theorem Makes.cursor_le (makes : scope.Makes workspace edit next)
    (inside : workspace.cursor ≤ workspace.body.length) : next.cursor ≤ next.body.length := by
  cases change : edit.isChange with
  | true =>
    obtain ⟨first, last, _, _, ordered, within, body, cursor⟩ := makes.cuts inside change
    rw [body, cursor, List.length_append, List.length_append,
      List.length_take_of_le (Nat.le_trans ordered within)]
    exact Nat.le_add_right _ _
  | false =>
    cases makes with
    | seekToStart => exact Nat.zero_le _
    | seekTo pattern position found =>
      exact Nat.le_trans (Nat.le_add_right _ _) (place_of_found found).2
    | seekPast pattern position found => exact (place_of_found found).2
    | insert | markLabel | replace => cases change

/-- Unless a step goes back to the start it keeps the code in front of the cursor, does not move the
cursor back, and leaves ahead an end of what was ahead. -/
theorem Makes.onward (makes : scope.Makes workspace edit next)
    (inside : workspace.cursor ≤ workspace.body.length) (onward : edit ≠ .seekToStart) :
    next.body.take workspace.cursor = workspace.body.take workspace.cursor ∧
      workspace.cursor ≤ next.cursor ∧ next.ahead <:+ workspace.ahead := by
  have suffix {position : Nat} (behind : workspace.cursor ≤ position) :
      workspace.body.drop position <:+ workspace.ahead := by
    rw [← Nat.add_sub_cancel' behind, ← List.drop_drop]
    exact List.drop_suffix _ _
  cases change : edit.isChange with
  | true =>
    obtain ⟨first, last, _, behind, ordered, within, body, cursor⟩ := makes.cuts inside change
    have front : (workspace.body.take first).length = first :=
      List.length_take_of_le (Nat.le_trans ordered within)
    have new : (workspace.body.take first ++ scope.brought edit).length =
        first + (scope.brought edit).length := by
      rw [List.length_append, front]
    refine ⟨?_, ?_, ?_⟩
    · rw [body, List.append_assoc, List.take_append_of_le_length (by rwa [front]), List.take_take,
        Nat.min_eq_left behind]
    · rw [cursor]
      exact Nat.le_trans behind (Nat.le_add_right _ _)
    · rw [Workspace.ahead, body, cursor, List.drop_left' new]
      exact suffix (Nat.le_trans behind ordered)
  | false =>
    cases makes with
    | seekToStart => exact absurd rfl onward
    | seekTo pattern position found =>
      exact ⟨rfl, (place_of_found found).1, suffix (place_of_found found).1⟩
    | seekPast pattern position found =>
      have behind := Nat.le_trans (place_of_found found).1 (Nat.le_add_right _ pattern.length)
      exact ⟨rfl, behind, suffix behind⟩
    | insert | markLabel | replace => cases change

/-! ### Steps of all sorts -/

/-- The workspace behind some steps, each an edit under a number. Steps go on behind one that
misses its pattern. -/
def attemptAll (scope : Scope) (steps : List (Nat × Edit)) (workspace : Workspace) : Workspace :=
  steps.foldl (fun reached step => (scope.attempt step.1 step.2 reached).workspace) workspace

theorem attempt_cursor_le (scope : Scope) (index : Nat) (edit : Edit) {workspace : Workspace}
    (inside : workspace.cursor ≤ workspace.body.length) :
    (scope.attempt index edit workspace).workspace.cursor ≤
      (scope.attempt index edit workspace).workspace.body.length := by
  unfold attempt
  cases step : scope.step index edit workspace with
  | ok next => exact (makes_of_step step).cursor_le inside
  | error miss => exact inside

theorem attemptAll_cursor_le (scope : Scope) (steps : List (Nat × Edit)) {workspace : Workspace}
    (inside : workspace.cursor ≤ workspace.body.length) :
    (scope.attemptAll steps workspace).cursor ≤
      (scope.attemptAll steps workspace).body.length := by
  induction steps generalizing workspace with
  | nil => exact inside
  | cons step rest inductionHypothesis =>
    exact inductionHypothesis (scope.attempt_cursor_le step.1 step.2 inside)

end Scope

namespace Hook

/-- Behind any steps the cursor is not behind the end of the body. A change made there cuts the body
between bounds that are in order, not in front of the cursor and inside the body, puts in what the
edit brings along, and leaves the cursor behind it. A step that does not go back to the start keeps
the code in front of the cursor, does not move the cursor back, and leaves ahead an end of what was
ahead. -/
theorem cursor_stays_inside (hook : Hook) (naming : Naming) (body : Body)
    (steps : List (Nat × Edit)) :
    let scope := hook.scope naming
    let workspace := scope.attemptAll steps (.start body)
    workspace.cursor ≤ workspace.body.length ∧
      ∀ index edit next, scope.step index edit workspace = .ok next →
        (edit.isChange = true → ∃ first last, scope.Cuts workspace edit first last ∧
          workspace.cursor ≤ first ∧ first ≤ last ∧ last ≤ workspace.body.length ∧
          next.body =
            workspace.body.take first ++ scope.brought edit ++ workspace.body.drop last ∧
          next.cursor = first + (scope.brought edit).length) ∧
        (edit ≠ .seekToStart →
          next.body.take workspace.cursor = workspace.body.take workspace.cursor ∧
          workspace.cursor ≤ next.cursor ∧ next.ahead <:+ workspace.ahead) := by
  intro scope workspace
  have inside : workspace.cursor ≤ workspace.body.length :=
    scope.attemptAll_cursor_le steps (Nat.zero_le _)
  refine ⟨inside, fun index edit next succeeded => ?_⟩
  have makes := Scope.makes_of_step succeeded
  exact ⟨makes.cuts inside, makes.onward inside⟩

/-- Four steps of which the third misses its pattern behind the only call, and then a change at the
very end of the body. -/
theorem cursor_stays_inside_behind_miss :
    let call : Instruction := ⟨0xb8, .mapped (.of .method (.of "a.B") "exit" "func_1" "()V")⟩
    let done : Instruction := ⟨0xb1, .none⟩
    let hook : Hook := {
      name := "calm", target := .unmapped (.of "a.B") "run" "()V", edits := [.markLabel ⟨"end"⟩] }
    let scope := hook.scope .remapped
    let body : Body := [⟨0x10, .int 5⟩, call.resolve .remapped, done]
    let steps : List (Nat × Edit) := [(0, .insert [done]), (1, .seekPast (.single call)),
      (7, .seekTo (.single call)), (0, .markLabel ⟨"end"⟩)]
    let workspace := scope.attemptAll steps (.start body)
    let change : Edit := .replace (.single done) [done, ⟨0xa7, .jump ⟨"end"⟩⟩]
    let next : Workspace := ⟨workspace.body.take 4 ++ scope.brought change, 6, 3⟩
    (scope.attempt 7 (.seekTo (.single call))
        (scope.attemptAll (steps.take 2) (.start body))).miss.isSome = true ∧
      workspace.cursor = 4 ∧ workspace.body.length = 5 ∧
      scope.step 2 change workspace = .ok next ∧
      (∃ first last, scope.Cuts workspace change first last ∧ workspace.cursor ≤ first ∧
        first ≤ last ∧ last ≤ workspace.body.length) ∧
      next.body.take workspace.cursor = workspace.body.take workspace.cursor ∧
      next.ahead <:+ workspace.ahead ∧ next.cursor ≤ next.body.length := by
  intro call done hook scope body steps workspace change next
  have succeeded : scope.step 2 change workspace = .ok next := by decide +kernel
  obtain ⟨_, steps_local⟩ := hook.cursor_stays_inside .remapped body steps
  obtain ⟨cuts, onward⟩ := steps_local 2 change next succeeded
  obtain ⟨first, last, between, behind, ordered, within, _⟩ := cuts rfl
  obtain ⟨kept, _, ahead⟩ := onward nofun
  exact ⟨by decide +kernel, by decide +kernel, by decide +kernel, succeeded,
    ⟨first, last, between, behind, ordered, within⟩, kept, ahead, by decide +kernel⟩

end Hook

end MethodPatch
