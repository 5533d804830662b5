/-
This file sums up what a list of hooks did to a class.
-/

import MethodPatch.Outcome

namespace MethodPatch

/-- The verdicts on the hooks of a class, in the order of application. -/
structure Report where
  className : String
  verdicts : List Verdict
  deriving DecidableEq

namespace Report

/-- The verdicts on hooks that were applied. -/
def applied (report : Report) : List Verdict :=
  report.verdicts.filter (·.outcome.isApplied)

/-- The verdicts on hooks that failed. -/
def failed (report : Report) : List Verdict :=
  report.verdicts.filter (·.outcome.isFailure)

/-- Whether no hook failed. -/
def isClean (report : Report) : Bool := !report.verdicts.any (·.outcome.isFailure)

/-- Whether some hook was applied. -/
def isModified (report : Report) : Bool := report.verdicts.any (·.outcome.isApplied)

/-- The first verdict on a hook of the name. -/
def verdict? (report : Report) (hook : String) : Option Verdict :=
  report.verdicts.find? (·.hook == hook)

/-- The outcome of the first hook of the name. -/
def outcome? (report : Report) (hook : String) : Option Outcome :=
  (report.verdict? hook).map Verdict.outcome

/-- The errors of the hooks that failed, in order. -/
def errors (report : Report) : List PatchError :=
  report.verdicts.filterMap (·.error? report.className)

/-- Turns the failures of a report into one error. -/
def check (report : Report) : Except PatchError Unit :=
  match report.errors with
  | [] => .ok ()
  | failures => .error (.hookFailed report.className failures)

/-- The report as a reader sees it: a summary, and a line for each hook. -/
def text (report : Report) : String :=
  s!"{report.className}: {report.verdicts.length} hook(s), {report.applied.length} applied, " ++
    s!"{report.failed.length} failed\n" ++
    String.join (report.verdicts.map fun verdict => "  " ++ verdict.text ++ "\n")

end Report

end MethodPatch
