/-
This file checks the labels of a body while its instructions are read one after another.

Labels are remembered as they are met, with their offsets where these are asked for, and a label met
again is at fault. One reading gathers every fault in a set. The other stops at the first fault and
otherwise ends with the offset of every label. Both read all anchors before the first branch, since
a branch may lead forward.
-/

import MethodPatch.Body.Labels

namespace MethodPatch

/-! ### Gathering faults -/

/-- The labels met so far and the faults found so far. -/
structure LabelSurvey where
  met : List Label
  faults : List LabelFault

namespace LabelSurvey

/-- Before anything is read. -/
def start : LabelSurvey := ⟨[], []⟩

/-- Meets an anchor, which is at fault when its label has been met before. -/
def meetAnchor (survey : LabelSurvey) (label : Label) : LabelSurvey :=
  if label ∈ survey.met then
    { survey with faults := Ascending.insert (.duplicate label) survey.faults }
  else { survey with met := label :: survey.met }

/-- Meets a branch, which is at fault when its target has not been met. -/
def meetBranch (survey : LabelSurvey) (target : Label) : LabelSurvey :=
  if target ∈ survey.met then survey
  else { survey with faults := Ascending.insert (.undefined target) survey.faults }

end LabelSurvey

namespace Body

/-- Everything that a reading of the whole body finds wrong with its labels. -/
def surveyFaults (body : Body) : List LabelFault :=
  let anchored := body.anchors.foldl LabelSurvey.meetAnchor LabelSurvey.start
  (body.targets.foldl LabelSurvey.meetBranch anchored).faults

/-! ### Noting offsets -/

/-- Notes the offset of every anchor, up to one whose label is noted already. -/
def noteAnchors : Nat → Offsets → Body → Except PatchError Offsets
  | _, noted, [] => .ok noted
  | position, noted, instruction :: rest =>
    match instruction.anchored? with
    | some label =>
      if (noted.lookup label).isSome then .error (.duplicateLabel label.name)
      else noteAnchors position (noted ++ [(label, position)]) rest
    | none => noteAnchors (position + 1) noted rest

/-- Notes the offset of every label and then looks for a branch whose target is not noted. -/
def surveyOffsets (body : Body) : Except PatchError Offsets := do
  let noted ← noteAnchors 0 [] body
  match body.targets.find? fun target => (noted.lookup target).isNone with
  | some missing => .error (.undefinedLabel missing.name)
  | none => return noted

end Body

end MethodPatch
