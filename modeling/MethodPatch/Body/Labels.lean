/-
This file checks the labels of a body and works out where they point.

Every label branched to has to be anchored, and no label may be anchored twice. `Body.faults`
gathers all that is wrong in one set, so that the faults of a body can be compared before and
after an edit. `Body.offsets` stops at the first fault it meets and otherwise maps each label to
the number of real instructions before its anchor.
-/

import MethodPatch.Ascending
import MethodPatch.Body

namespace MethodPatch

/-! ### Faults -/

/-- What can be wrong with a label. -/
inductive LabelFault where
  /-- The label is anchored more than once. -/
  | duplicate (label : Label)
  /-- The label is branched to and not anchored. -/
  | undefined (label : Label)
  deriving DecidableEq

namespace LabelFault

/-- Duplicate labels come before undefined ones, and faults of one kind follow their labels. -/
def precedes : LabelFault → LabelFault → Bool
  | duplicate first, duplicate second => first < second
  | duplicate _, undefined _ => true
  | undefined _, duplicate _ => false
  | undefined first, undefined second => first < second

instance : LT LabelFault := ⟨fun first second => first.precedes second⟩

instance : DecidableLT LabelFault :=
  fun first second => inferInstanceAs (Decidable (first.precedes second = true))

/-- The fault as a reader sees it. -/
def text : LabelFault → String
  | duplicate label => s!"duplicate label {label.name}"
  | undefined label => s!"undefined label {label.name}"

/-- The error that reports the fault. -/
def error : LabelFault → PatchError
  | duplicate label => .duplicateLabel label.name
  | undefined label => .undefinedLabel label.name

end LabelFault

namespace Body

/-- The labels anchored in a body, in order and as often as they are anchored. -/
def anchors (body : Body) : List Label := body.filterMap Instruction.anchored?

/-- The labels branched to in a body, in order and as often as they are branched to. -/
def targets (body : Body) : List Label := body.filterMap Instruction.target?

/-- The instructions of a body that do something. -/
def real (body : Body) : Body := body.filter fun instruction => !instruction.isAnchor

/-- Everything that is wrong with the labels of a body. -/
def faults (body : Body) : List LabelFault :=
  let repeated := body.anchors.filter fun label => 1 < body.anchors.count label
  let missing := body.targets.filter fun label => label ∉ body.anchors
  Ascending.ofList (repeated.map .duplicate ++ missing.map .undefined)

/-- The faults of a body that another body does not have. -/
def faultsBeyond (body baseline : Body) : List LabelFault :=
  body.faults.filter fun fault => fault ∉ baseline.faults

/-! ### Offsets -/

/-- The offset of every label, in the order of the anchors. -/
abbrev Offsets := List (Label × Nat)

/-- The offsets of the labels when some real instructions precede the code. -/
def offsetsFrom : Nat → Body → Offsets
  | _, [] => []
  | position, instruction :: rest =>
    match instruction.anchored? with
    | some label => (label, position) :: offsetsFrom position rest
    | none => offsetsFrom (position + 1) rest

/-- The first label of a list that repeats an earlier one. -/
def firstRepeat? : List Label → List Label → Option Label
  | _, [] => none
  | seen, label :: rest =>
    if label ∈ seen then some label else firstRepeat? (label :: seen) rest

/-- Maps every label to the number of real instructions before its anchor. A label anchored
twice is reported before one that is not anchored at all. -/
def offsets (body : Body) : Except LabelFault Offsets :=
  match firstRepeat? [] body.anchors with
  | some label => .error (.duplicate label)
  | none =>
    match body.targets.find? fun label => label ∉ body.anchors with
    | some label => .error (.undefined label)
    | none => .ok (offsetsFrom 0 body)

/-- The offsets in the order of the labels. -/
def Offsets.byLabel (offsets : Offsets) : Offsets :=
  (Ascending.ofList (offsets.map Prod.fst)).filterMap fun label =>
    (offsets.lookup label).map fun offset => (label, offset)

end Body

end MethodPatch
