/-
This file applies hooks to the methods of a class.

The hooks of a list are taken in order, each on the methods that the ones before it left. Every
hook gets one verdict, whatever becomes of it, and the pass goes on after a failure. Under
rollback a failing hook leaves the body as it found it.
-/

import MethodPatch.Settings
import MethodPatch.Workspace

namespace MethodPatch

/-! ### One hook and one body -/

/-- What became of a body: the verdict on the hook, the body that stays, and the events. -/
structure Patched where
  verdict : Verdict
  body : Body
  events : List Event

namespace Settings

/-- The outcome of a run that started from the baseline. Only faults that the baseline does not
have are held against the hook, the least of them first. -/
def outcomeOf (settings : Settings) (baseline : Body) (run : Run) : Outcome :=
  match run.miss with
  | some miss => .patternNotFound miss.index miss.pattern run.workspace.changes
  | none =>
    if settings.verifyLabels then
      match run.workspace.body.faultsBeyond baseline with
      | fault :: _ => .invalidLabels fault
      | [] => .applied run.workspace.changes
    else .applied run.workspace.changes

/-- What is reported of the faults that a completed run found in the body. -/
def baselineEvents (settings : Settings) (hook : String) (target : Member) (baseline : Body)
    (run : Run) : List Event :=
  if run.miss.isNone && settings.verifyLabels && !baseline.faults.isEmpty then
    [.faultyBefore hook target baseline.faults.length]
  else []

end Settings

/-- What is reported of the outcome of a run. -/
def outcomeEvents (hook : String) (target : Member) (outcome : Outcome) (rolledBack : Bool) :
    List Event :=
  match outcome with
  | .applied changes => [.applied hook target changes]
  | outcome =>
    .failed hook target outcome ::
      if rolledBack then [.restored hook target]
      else if outcome.brokeOffChanged then [.leftPartial hook target]
      else []

/-- Applies a hook to the body of its target. -/
def Hook.patch (settings : Settings) (hook : Hook) (body : Body) : Patched :=
  let target := hook.target.reference settings.naming
  let run := hook.run settings.naming body
  let outcome := settings.outcomeOf body run
  let rolledBack := settings.rollback && outcome.isFailure
  { verdict := ⟨hook.name, target, outcome, rolledBack⟩
    body := if rolledBack then body else run.workspace.body
    events := run.events ++ settings.baselineEvents hook.name target body run ++
      outcomeEvents hook.name target outcome rolledBack }

/-! ### One hook and the methods of its class -/

/-- What one hook comes to: the verdict, the events, and the methods afterwards. -/
structure Visit where
  verdict : Verdict
  events : List Event
  methods : MethodTable

/-- Applies a hook to its target among the methods. -/
def Hook.visit (settings : Settings) (hook : Hook) (methods : MethodTable) : Visit :=
  let target := hook.target.reference settings.naming
  let missing := { hook := hook.name, target, outcome := .targetNotFound : Verdict }
  match methods.lookup? target.name target.descriptor with
  | none => ⟨missing, [.methodMissing hook.name target], methods⟩
  | some method =>
    if method.hasBody then
      let patched := hook.patch settings method.body
      ⟨patched.verdict, patched.events,
        methods.setBody target.name target.descriptor patched.body⟩
    else ⟨missing, [.withoutBody hook.name target method.access], methods⟩

/-- Applies a hook to a class, provided the hook is for that class and no hook of its name has
been met there before. -/
def Hook.visitClass (settings : Settings) (className : ClassName) (met : List String)
    (hook : Hook) (methods : MethodTable) : Visit :=
  let target := hook.target.reference settings.naming
  if hook.targetClass ≠ className then
    ⟨{ hook := hook.name, target, outcome := .skipped }, [], methods⟩
  else if hook.name ∈ met then
    ⟨{ hook := hook.name, target, outcome := .alreadyApplied },
      [.listedTwice hook.name className], methods⟩
  else hook.visit settings methods

/-! ### A pass over a list of hooks -/

/-- What a list of hooks comes to: the verdict on each with its events, and the methods
afterwards. -/
structure Pass where
  visits : List (Verdict × List Event)
  methods : MethodTable

namespace Pass

/-- The verdicts in the order of the hooks. -/
def verdicts (pass : Pass) : List Verdict := pass.visits.map Prod.fst

/-- All events in order. -/
def events (pass : Pass) : List Event := pass.visits.flatMap Prod.snd

end Pass

namespace Settings

/-- The names met once a hook has been taken. A hook for another class is not met. -/
def metAfter (className : ClassName) (met : List String) (hook : Hook) : List String :=
  if hook.targetClass = className then hook.name :: met else met

/-- Takes the hooks of a list in order, when some hooks have been met before. -/
def passFrom (settings : Settings) (className : ClassName) :
    List String → List Hook → MethodTable → Pass
  | _, [], methods => ⟨[], methods⟩
  | met, hook :: rest, methods =>
    let visit := hook.visitClass settings className met methods
    let later := settings.passFrom className (metAfter className met hook) rest visit.methods
    ⟨(visit.verdict, visit.events) :: later.visits, later.methods⟩

/-- Applies the hooks of a list to the methods of a class. -/
def dispatch (settings : Settings) (className : ClassName) (methods : MethodTable)
    (hooks : List Hook) : Pass :=
  settings.passFrom className [] hooks methods

end Settings

end MethodPatch
