/-
This file says how the application of a hook can end.

An outcome is what happened to one hook at one method. A verdict puts the outcome beside the hook
and its target, and says whether the body was put back as it was.
-/

import MethodPatch.Body.Labels

namespace MethodPatch

/-! ### Outcomes -/

/-- How the application of a hook ended. -/
inductive Outcome where
  /-- All edits were made; the count is of those that changed the body. -/
  | applied (changes : Nat)
  /-- The hook is for another class. -/
  | skipped
  /-- The hook was met before. -/
  | alreadyApplied
  /-- There is no such method, or it has no body. -/
  | targetNotFound
  /-- An edit did not find its pattern after some changes had been made. -/
  | patternNotFound (index : Nat) (pattern : String) (changes : Nat)
  /-- All edits were made and left a label fault that was not there before. -/
  | invalidLabels (fault : LabelFault)
  deriving DecidableEq

namespace Outcome

/-- Whether all edits were made for good. -/
def isApplied : Outcome → Bool
  | applied _ => true
  | _ => false

/-- Whether the hook should have been applied and was not. -/
def isFailure : Outcome → Bool
  | targetNotFound => true
  | patternNotFound _ _ _ => true
  | invalidLabels _ => true
  | _ => false

/-- Whether the chain broke off after it had changed the body. -/
def brokeOffChanged : Outcome → Bool
  | patternNotFound _ _ changes => 0 < changes
  | _ => false

/-- The outcome as a reader sees it. -/
def text : Outcome → String
  | applied changes => s!"applied ({changes} edit(s))"
  | skipped => "skipped"
  | alreadyApplied => "already applied"
  | targetNotFound => "target not found"
  | patternNotFound index pattern changes =>
    s!"pattern not found by operation #{index} {pattern} after {changes} edit(s)"
  | invalidLabels fault => s!"invalid labels: {fault.text}"

end Outcome

/-! ### Verdicts -/

/-- The outcome of one hook at its target. -/
structure Verdict where
  hook : String
  target : Member
  outcome : Outcome
  rolledBack : Bool := false
  deriving DecidableEq

namespace Verdict

/-- The verdict as a reader sees it. -/
def text (verdict : Verdict) : String :=
  s!"{verdict.hook} on {verdict.target.text}: {verdict.outcome.text}" ++
    if verdict.rolledBack then " (rolled back)" else ""

/-- The error that reports a failure. A verdict that is no failure reports none. -/
def error? (className : String) (verdict : Verdict) : Option PatchError :=
  match verdict.outcome with
  | .targetNotFound =>
    some (.targetNotFound verdict.hook className verdict.target.name verdict.target.descriptor)
  | .patternNotFound index pattern _ => some (.patternNotFound verdict.hook index pattern)
  | .invalidLabels fault => some fault.error
  | .applied _ | .skipped | .alreadyApplied => none

end Verdict

end MethodPatch
