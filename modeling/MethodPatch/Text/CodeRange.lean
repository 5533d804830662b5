/-
This file looks characters up in a table of code point ranges.
-/

namespace MethodPatch.Text

/-- Ranges of code points, each given by its first and its last member. -/
abbrev CodeRanges := List (Nat × Nat)

/-- Whether some range of the table holds the character. -/
def CodeRanges.holds (ranges : CodeRanges) (character : Char) : Bool :=
  ranges.any fun range => range.1 ≤ character.toNat && character.toNat ≤ range.2

end MethodPatch.Text
