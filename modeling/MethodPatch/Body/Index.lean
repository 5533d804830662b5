/-
This file cuts and joins bodies by indices that are machine words.

A body is only cut between two indices that are in order and not behind its end. Taking a window
out and replacing it accept any words and first move them to such a place: the end of the window
back to the end of the body, and then its start back to its end. Code is only put in at an index
that is not behind the end.
-/

import MethodPatch.Body

namespace MethodPatch

/-! ### Words -/

/-- A position as a machine word. -/
abbrev Index := UInt64

namespace Index

/-- The index that no other exceeds. -/
def greatest : Index := .ofNat (UInt64.size - 1)

/-- The index so many places further on, or the greatest one where the sum wraps around. -/
def advance (index count : Index) : Index :=
  if index + count < index then greatest else index + count

/-- The index so many places before, if there are as many. -/
def retreat? (index count : Index) : Option Index :=
  if count ≤ index then some (index - count) else none

/-- The indices from a first to a last one, both included. -/
def upTo (first last : Index) : List Index :=
  (List.range' first.toNat (last.toNat + 1 - first.toNat)).map .ofNat

end Index

namespace Body

/-! ### Windows -/

/-- The number of instructions as a machine word. -/
def size (body : Body) : Index := .ofNat body.length

/-- The code between two indices, if they are in order and the body reaches that far. -/
def slice? (body : Body) (start stop : Index) : Option Body :=
  if start ≤ stop ∧ stop ≤ body.size then some ((body.take stop.toNat).drop start.toNat) else none

/-! ### Splices -/

/-- Takes out the code between two indices, if they are in order and the body reaches that far, and
puts other code in its place. -/
def exchange? (body : Body) (start stop : Index) (code : Body) : Option Extracted :=
  (body.slice? start stop).map fun window =>
    ⟨body.take start.toNat ++ code ++ body.drop stop.toNat, window⟩

/-- Where the window between two indices ends in the body. -/
def windowEndIndex (body : Body) (stop : Index) : Index := min stop body.size

/-- Where the window between two indices starts in the body. -/
def windowStartIndex (body : Body) (start stop : Index) : Index :=
  min start (body.windowEndIndex stop)

/-- Puts code in at an index that is not behind the end of the body. -/
def insertIndex? (body : Body) (position : Index) (code : Body) : Option Spliced :=
  if position ≤ body.size then
    (body.exchange? position position code).map fun joined =>
      ⟨joined.body, (position + code.size).toNat⟩
  else none

/-- Takes the window between two indices out of the body. -/
def removeIndex? (body : Body) (start stop : Index) : Option Extracted :=
  body.exchange? (body.windowStartIndex start stop) (body.windowEndIndex stop) []

/-- Puts code in the place of the window between two indices. -/
def replaceIndex? (body : Body) (start stop : Index) (code : Body) : Option Spliced :=
  let first := body.windowStartIndex start stop
  (body.exchange? first (body.windowEndIndex stop) code).map fun joined =>
    ⟨joined.body, (first + code.size).toNat⟩

end Body

end MethodPatch
