/-
This file treats the instructions of a method as one piece of text that is cut and joined.

A body is a list of instructions, label anchors included. Positions count the instructions
before a place. Code is put in at a position, and a window between two positions is taken out or
replaced; a window that reaches beyond the body ends with the body, and a window that ends before
it starts is empty.
-/

import MethodPatch.Instruction

namespace MethodPatch

/-- The instructions of one method. -/
abbrev Body := List Instruction

/-- A body into which code has been put, and the position just behind that code. -/
structure Spliced where
  body : Body
  next : Nat

/-- A body from which a window has been taken, and the window. -/
structure Extracted where
  body : Body
  window : Body

namespace Body

/-! ### Cutting and joining -/

/-- Puts code in at a position, or at the end of a shorter body. -/
def insert (body : Body) (position : Nat) (code : Body) : Spliced :=
  let start := min position body.length
  ⟨body.take start ++ code ++ body.drop start, start + code.length⟩

/-- Where the window between two positions ends in the body. -/
def windowEnd (body : Body) (stop : Nat) : Nat := min stop body.length

/-- Where the window between two positions starts in the body. -/
def windowStart (body : Body) (start stop : Nat) : Nat := min start (body.windowEnd stop)

/-- Takes the window between two positions out of the body. -/
def remove (body : Body) (start stop : Nat) : Extracted :=
  let first := body.windowStart start stop
  let last := body.windowEnd stop
  ⟨body.take first ++ body.drop last, (body.take last).drop first⟩

/-- Puts code in the place of the window between two positions. -/
def replace (body : Body) (start stop : Nat) (code : Body) : Spliced :=
  let first := body.windowStart start stop
  ⟨body.take first ++ code ++ body.drop (body.windowEnd stop), first + code.length⟩

/-! ### Text -/

/-- A number moved to the right edge of a column of four. -/
def inColumn (number : Nat) : String :=
  let digits := toString number
  String.ofList (List.replicate (4 - digits.length) ' ') ++ digits

/-- One line of a listing. Label anchors stand at the margin, and other instructions are
numbered by their positions. -/
def lineAt (position : Nat) (instruction : Instruction) : String :=
  if instruction.isAnchor then instruction.text ++ "\n"
  else "  " ++ inColumn position ++ ": " ++ instruction.text ++ "\n"

/-- The lines of a listing whose first instruction has the given position. -/
def linesFrom : Nat → Body → List String
  | _, [] => []
  | position, instruction :: rest =>
    lineAt position instruction :: linesFrom (position + 1) rest

/-- The body as a listing, one instruction a line. -/
def listing (body : Body) : String := String.join (linesFrom 0 body)

/-- The body on one line. -/
def line (body : Body) : String :=
  "[" ++ String.intercalate ", " (body.map Instruction.text) ++ "]"

end Body

end MethodPatch
