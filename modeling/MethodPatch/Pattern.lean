/-
This file finds a row of instructions in a body.

A pattern is a row of at least one instruction, some parts of which may be left open. It is found
at a position when the instructions from there on agree with it one by one, and `Pattern.find?`
gives the leftmost such position that is not before a given one.
-/

import MethodPatch.Body
import MethodPatch.Instruction.Agreement

namespace MethodPatch

/-- A row of instructions to look for. An empty row would be found everywhere, so there is
none. -/
structure Pattern where
  instructions : Body
  nonempty : instructions ≠ []
  deriving DecidableEq

/-- Whether a body starts with instructions that agree with the given ones. -/
def Body.opensWith : (wanted : Body) → (body : Body) → Bool
  | [], _ => true
  | _ :: _, [] => false
  | instruction :: wanted, found :: body => found.agrees instruction && opensWith wanted body

/-- How many instructions precede the leftmost place where the wanted row is found. -/
def Body.distanceTo? (wanted : Body) : Body → Option Nat
  | [] => none
  | found :: body =>
    if Body.opensWith wanted (found :: body) then some 0
    else (distanceTo? wanted body).map (· + 1)

namespace Pattern

/-- The pattern for a row of instructions. -/
def ofList (instructions : List Instruction) : Except PatchError Pattern :=
  if present : instructions = [] then .error .emptyPattern else .ok ⟨instructions, present⟩

/-- The pattern for a single instruction. -/
def single (instruction : Instruction) : Pattern := ⟨[instruction], List.cons_ne_nil _ _⟩

/-- How many instructions the pattern spans. -/
def length (pattern : Pattern) : Nat := pattern.instructions.length

/-- The pattern as a reader sees it. -/
def text (pattern : Pattern) : String :=
  "[" ++ String.intercalate "; " (pattern.instructions.map Instruction.text) ++ "]"

/-- The pattern with its mapped members settled for the naming scheme. -/
def resolve (naming : Naming) (pattern : Pattern) : Pattern where
  instructions := pattern.instructions.map (·.resolve naming)
  nonempty := by simpa using pattern.nonempty

/-- Settling names keeps the length of a pattern. -/
@[simp] theorem length_resolve (naming : Naming) (pattern : Pattern) :
    (pattern.resolve naming).length = pattern.length := by
  simp [resolve, length]

/-- The mapped members that the pattern mentions, in order. -/
def mapped (pattern : Pattern) : List MappedMember :=
  pattern.instructions.filterMap Instruction.mapped?

/-- Accepts the pattern when every instruction of it has an operand that fits. -/
def check (pattern : Pattern) : Except PatchError Unit :=
  pattern.instructions.forM Instruction.check

/-- Whether the pattern is found at a position. -/
def isAt (pattern : Pattern) (body : Body) (position : Nat) : Bool :=
  Body.opensWith pattern.instructions (body.drop position)

/-- The leftmost position of the pattern that is not before the start. -/
def find? (pattern : Pattern) (body : Body) (start : Nat) : Option Nat :=
  (Body.distanceTo? pattern.instructions (body.drop start)).map (start + ·)

end Pattern

end MethodPatch
