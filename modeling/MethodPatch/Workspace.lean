/-
This file runs the edits of a hook on a body.

A workspace holds the body, a cursor into it and the number of changes made so far. Every edit is
one step from a workspace to the next. A step that does not find its pattern changes nothing, and
a chain of edits ends at the first such step with all that was done before it.
-/

import MethodPatch.Event

namespace MethodPatch

/-! ### The scope of a hook -/

/-- What the edits of a hook are read against: the naming scheme, and the labels that belong to
the hook. -/
structure Scope where
  hook : String
  labels : List Label
  naming : Naming

/-- The scope of a hook under a naming scheme. -/
def Hook.scope (hook : Hook) (naming : Naming) : Scope := ⟨hook.name, hook.anchors, naming⟩

namespace Scope

/-- The name that a label goes by in a body. A label of the hook carries the name of the hook, so
that it is told apart from the labels of the body and of other hooks. -/
def label (scope : Scope) (label : Label) : Label :=
  if label ∈ scope.labels then ⟨scope.hook ++ ":" ++ label.name⟩ else label

/-- An instruction as it is put into a body. -/
def instruction (scope : Scope) (instruction : Instruction) : Instruction :=
  match instruction.operand with
  | .jump target => { instruction with operand := .jump (scope.label target) }
  | .label label => .anchor (scope.label label)
  | _ => instruction.resolve scope.naming

/-- Code as it is put into a body. -/
def code (scope : Scope) (code : Body) : Body := code.map scope.instruction

end Scope

/-! ### Steps -/

/-- A body under way, the position of the cursor in it, and the number of changes made. -/
structure Workspace where
  body : Body
  cursor : Nat
  changes : Nat
  deriving DecidableEq

/-- The workspace before the first edit. -/
def Workspace.start (body : Body) : Workspace := ⟨body, 0, 0⟩

/-- The workspace after a change that leaves the cursor just behind the new code. -/
def Workspace.change (workspace : Workspace) (spliced : Spliced) : Workspace :=
  ⟨spliced.body, spliced.next, workspace.changes + 1⟩

/-- An edit did not find its pattern. The pattern is given as it was searched for. -/
structure Miss where
  hook : String
  index : Nat
  pattern : String
  deriving DecidableEq

/-- The error that reports the miss. -/
def Miss.error (miss : Miss) : PatchError := .patternNotFound miss.hook miss.index miss.pattern

namespace Scope

/-- The next place of a pattern at or behind the cursor. -/
def locate (scope : Scope) (index : Nat) (pattern : Pattern) (workspace : Workspace) :
    Except Miss Nat :=
  let wanted := pattern.resolve scope.naming
  match wanted.find? workspace.body workspace.cursor with
  | some position => .ok position
  | none => .error ⟨scope.hook, index, wanted.text⟩

/-- Makes one edit. -/
def step (scope : Scope) (index : Nat) (edit : Edit) (workspace : Workspace) :
    Except Miss Workspace :=
  match edit with
  | .seekToStart => .ok { workspace with cursor := 0 }
  | .seekTo pattern =>
    (scope.locate index pattern workspace).map fun position =>
      { workspace with cursor := position }
  | .seekPast pattern =>
    (scope.locate index pattern workspace).map fun position =>
      { workspace with cursor := position + pattern.length }
  | .insert code =>
    .ok (workspace.change (workspace.body.insert workspace.cursor (scope.code code)))
  | .markLabel label =>
    .ok (workspace.change (workspace.body.insert workspace.cursor [.anchor (scope.label label)]))
  | .replace pattern code =>
    (scope.locate index pattern workspace).map fun position =>
      workspace.change
        (workspace.body.replace position (position + pattern.length) (scope.code code))

end Scope

/-! ### Chains of steps -/

/-- How far a chain of edits came. -/
structure Run where
  workspace : Workspace
  miss : Option Miss
  events : List Event

namespace Scope

/-- Makes one edit and reports it. A miss leaves the workspace as it is. -/
def attempt (scope : Scope) (index : Nat) (edit : Edit) (workspace : Workspace) : Run :=
  match scope.step index edit workspace with
  | .ok next => ⟨next, none, [.stepped scope.hook index edit next.cursor]⟩
  | .error miss => ⟨workspace, some miss, []⟩

/-- Makes the edits of a chain, numbered from an index on, up to the first miss. -/
def run (scope : Scope) : Nat → List Edit → Workspace → Run
  | _, [], workspace => ⟨workspace, none, []⟩
  | index, edit :: rest, workspace =>
    let first := scope.attempt index edit workspace
    match first.miss with
    | some _ => first
    | none =>
      let later := scope.run (index + 1) rest first.workspace
      { later with events := first.events ++ later.events }

end Scope

/-- Runs the edits of a hook on a body. -/
def Hook.run (hook : Hook) (naming : Naming) (body : Body) : Run :=
  (hook.scope naming).run 0 hook.edits (.start body)

end MethodPatch
