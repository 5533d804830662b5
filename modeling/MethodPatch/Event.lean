/-
This file words what is reported while hooks are registered and applied.

Each event carries what happened; its level and its line of text are read off it. Whoever watches
a run can so tell from the events alone what became of every hook.
-/

import MethodPatch.ClassFile
import MethodPatch.Hook
import MethodPatch.Outcome

namespace MethodPatch

/-- How much attention an event asks for. -/
inductive Level where
  | debug
  | info
  | warn
  | error
  deriving DecidableEq

/-- The word for a level. -/
def Level.name : Level → String
  | .debug => "DEBUG"
  | .info => "INFO"
  | .warn => "WARN"
  | .error => "ERROR"

/-- Something worth reporting. -/
inductive Event where
  /-- An edit was made and left the cursor at a position. -/
  | stepped (hook : String) (index : Nat) (edit : Edit) (cursor : Nat)
  /-- A hook was met a second time in one list. -/
  | listedTwice (hook : String) (className : ClassName)
  /-- The target does not exist. -/
  | methodMissing (hook : String) (target : Member)
  /-- The target has no body of its own. -/
  | withoutBody (hook : String) (target : Member) (access : AccessFlags)
  /-- The body had label faults before the hook touched it. -/
  | faultyBefore (hook : String) (target : Member) (count : Nat)
  /-- A hook was applied. -/
  | applied (hook : String) (target : Member) (changes : Nat)
  /-- A hook was run and not applied. -/
  | failed (hook : String) (target : Member) (outcome : Outcome)
  /-- The body was put back as it was. -/
  | restored (hook : String) (target : Member)
  /-- A chain broke off and its changes were kept. -/
  | leftPartial (hook : String) (target : Member)
  /-- There are no declarations to check a hook against. -/
  | unchecked (hook : String)
  /-- A hook was registered. -/
  | registered (hook : String) (target : MappedMember) (edits : Nat)
  /-- No further hooks are taken. -/
  | closed (hooks : Nat)
  /-- The hooks of a class are about to be applied. -/
  | transforming (className : ClassName) (hooks : Nat)
  /-- A class came back after its hooks had been applied. -/
  | repeated (className : ClassName) (hooks : Nat)

namespace Event

/-- How much attention the event asks for. -/
def level : Event → Level
  | applied .. => .info
  | listedTwice .. | withoutBody .. | leftPartial .. | repeated .. => .warn
  | methodMissing .. | failed .. => .error
  | stepped .. | faultyBefore .. | restored .. | unchecked .. | registered .. | closed ..
  | transforming .. => .debug

/-- The line that reports the event. -/
def text : Event → String
  | stepped hook index edit cursor => s!"{hook}: op #{index} {edit.text} -> cursor {cursor}"
  | listedTwice hook className => s!"hook '{hook}' listed twice for {className.text}"
  | methodMissing hook target =>
    s!"hook '{hook}': no method {target.name}{target.descriptor} in {target.owner}"
  | withoutBody hook target access =>
    s!"hook '{hook}': {target.name}{target.descriptor} in {target.owner} has no body " ++
      s!"({access.text})"
  | faultyBefore hook target count =>
    s!"hook '{hook}': {target.name}{target.descriptor} had {count} label fault(s) before it ran"
  | applied hook target changes => s!"hook '{hook}' applied to {target.text} ({changes} edit(s))"
  | failed hook target outcome => s!"hook '{hook}' failed on {target.text}: {outcome.text}"
  | restored hook target => s!"hook '{hook}': restored {target.name}{target.descriptor}"
  | leftPartial hook target =>
    s!"hook '{hook}' left {target.name}{target.descriptor} partially patched"
  | unchecked hook => s!"no symbol table, member validation skipped for '{hook}'"
  | registered hook target edits =>
    s!"registered hook '{hook}' for {target.text} ({edits} op(s))"
  | closed hooks => s!"hook registration closed with {hooks} hook(s)"
  | transforming className hooks => s!"transforming {className.text} with {hooks} hook(s)"
  | repeated className hooks =>
    s!"{className.text} was already transformed, {hooks} hook(s) not applied again"

end Event

end MethodPatch
