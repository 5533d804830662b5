/-
This file describes hooks: named chains of edits for the body of one method.

A hook looks for places in the body by patterns and puts code in or replaces code there. It is
written once for both naming schemes. The labels it anchors are its own, so two hooks can use the
same label names in one body. `Hook.check` accepts a hook whose edits are sound in themselves.
-/

import MethodPatch.Body.Labels
import MethodPatch.Pattern

namespace MethodPatch

/-! ### Edits -/

/-- One link of a chain of edits. Every edit starts from the cursor that the one before it left,
and seeking never looks before the cursor. -/
inductive Edit where
  /-- Moves the cursor to the start of the body. -/
  | seekToStart
  /-- Moves the cursor to the next place of the pattern. -/
  | seekTo (pattern : Pattern)
  /-- Moves the cursor just behind the next place of the pattern. -/
  | seekPast (pattern : Pattern)
  /-- Puts code in at the cursor and moves the cursor behind it. -/
  | insert (code : Body)
  /-- Anchors a label at the cursor and moves the cursor behind the anchor. -/
  | markLabel (label : Label)
  /-- Puts code in the next place of the pattern and moves the cursor behind it. -/
  | replace (pattern : Pattern) (code : Body)
  deriving DecidableEq

namespace Edit

/-- Takes out the code at the next place of the pattern. -/
def remove (pattern : Pattern) : Edit := replace pattern []

/-- The pattern that the edit looks for. -/
def pattern? : Edit → Option Pattern
  | seekTo pattern => some pattern
  | seekPast pattern => some pattern
  | replace pattern _ => some pattern
  | _ => none

/-- The code that the edit brings along. The anchor of a marked label does not count as such. -/
def code : Edit → Body
  | insert code => code
  | replace _ code => code
  | _ => []

/-- The labels that the edit anchors, in order and as often as it anchors them. -/
def anchors : Edit → List Label
  | markLabel label => [label]
  | edit => edit.code.anchors

/-- Whether the edit changes the body and does not only move the cursor. -/
def isChange : Edit → Bool
  | insert _ => true
  | markLabel _ => true
  | replace _ _ => true
  | _ => false

/-- All instructions that the edit is written with, those of its pattern first. -/
def instructions (edit : Edit) : Body :=
  (edit.pattern?.map Pattern.instructions).getD [] ++ edit.code

/-- The mapped members that the edit mentions, in order. -/
def mapped (edit : Edit) : List MappedMember := edit.instructions.filterMap Instruction.mapped?

/-- The edit as a reader sees it. -/
def text : Edit → String
  | seekToStart => "seek to start"
  | seekTo pattern => s!"seek to {pattern.text}"
  | seekPast pattern => s!"seek past {pattern.text}"
  | insert code => s!"insert {code.length} instruction(s)"
  | markLabel label => s!"mark label {label.name}"
  | replace pattern code => s!"replace {pattern.text} with {code.length} instruction(s)"

/-- Accepts the edit when every instruction that it is written with has an operand that fits. -/
def check (edit : Edit) : Except PatchError Unit := edit.instructions.forM Instruction.check

end Edit

/-! ### Hooks -/

/-- How early a hook is applied among the hooks of its class; the higher comes first. -/
abbrev Priority := Int32

namespace Priority

def highest : Priority := 1000
def high : Priority := 500
def normal : Priority := 0
def low : Priority := -500
def lowest : Priority := -1000

/-- The named priorities in the order of application. -/
def levels : List Priority := [highest, high, normal, low, lowest]

end Priority

/-- A named chain of edits for the body of its target. -/
structure Hook where
  name : String
  target : MappedMember
  priority : Priority := .normal
  edits : List Edit
  deriving DecidableEq

namespace Hook

/-- The class whose method the hook is for. -/
def targetClass (hook : Hook) : ClassName := hook.target.declaringType

/-- The labels that the hook anchors, in order and as often as it anchors them. -/
def anchors (hook : Hook) : List Label := hook.edits.flatMap Edit.anchors

/-- The labels that belong to the hook, in ascending order. -/
def ownLabels (hook : Hook) : List Label := Ascending.ofList hook.anchors

/-- The mapped members that the edits mention, in order. The target is not one of them. -/
def mapped (hook : Hook) : List MappedMember := hook.edits.flatMap Edit.mapped

/-- Accepts the edits one by one. Each has to be sound in itself, and none may anchor a label
that was anchored before. -/
def checkEdits (name : String) : List Label → List Edit → Except PatchError Unit
  | _, [] => .ok ()
  | earlier, edit :: rest => do
    edit.check
    match Body.firstRepeat? earlier edit.anchors with
    | some label => .error (.duplicateLabel s!"{label.name} in hook '{name}'")
    | none => checkEdits name (edit.anchors ++ earlier) rest

/-- Accepts a hook that is for a method and whose edits are accepted. -/
def check (hook : Hook) : Except PatchError Unit :=
  match hook.target.kind with
  | .field => .error (.configuration none (.targetsField hook.name hook.target.text))
  | .method => checkEdits hook.name [] hook.edits

end Hook

end MethodPatch
