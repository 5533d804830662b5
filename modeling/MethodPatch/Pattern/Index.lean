/-
This file looks for a pattern by indices that are machine words.

A caller may start from any word. The end of a window that lies beyond all words is taken to be the
greatest word, so that no index wraps around, and a pattern longer than the body leaves no index to
search up to.
-/

import MethodPatch.Body.Index
import MethodPatch.Pattern

namespace MethodPatch

namespace Pattern

/-- Whether the pattern is found at an index. -/
def isAtIndex (pattern : Pattern) (body : Body) (start : Index) : Bool :=
  match body.slice? start (start.advance pattern.instructions.size) with
  | some window =>
    (window.zip pattern.instructions).all fun (found, wanted) => found.agrees wanted
  | none => false

/-- The first index from the start on at which the pattern is found. -/
def findIndex? (pattern : Pattern) (body : Body) (start : Index) : Option Index := do
  let last ← body.size.retreat? pattern.instructions.size
  (start.upTo last).find? (pattern.isAtIndex body)

end Pattern

end MethodPatch
