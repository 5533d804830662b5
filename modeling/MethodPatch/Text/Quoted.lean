/-
This file writes text between quotation marks on one line of visible characters.

A character that would end the text, break the line or stay unseen is written as an escape. An
apostrophe ends nothing between quotation marks, so it stands for itself.
-/

import MethodPatch.Text.DefaultIgnorable
import MethodPatch.Text.GraphemeExtend
import MethodPatch.Text.Hexadecimal
import MethodPatch.Text.Unprintable

namespace MethodPatch.Text

/-- Whether a character is shown as it is. Between the space and the tilde all characters are
visible, so the tables are asked only outside that range. -/
def showsItself (character : Char) : Bool :=
  if 0x20 ≤ character.toNat && character.toNat ≤ 0x7e then true
  else
    !graphemeExtend.holds character && !unprintable.holds character &&
      !defaultIgnorable.holds character

/-- One character inside quotation marks. -/
def quotedCharacter (character : Char) : String :=
  if character = '\x00' then "\\0"
  else if character = '\t' then "\\t"
  else if character = '\r' then "\\r"
  else if character = '\n' then "\\n"
  else if character = '\x22' then "\\\x22"
  else if character = '\\' then "\\\\"
  else if showsItself character then String.singleton character
  else "\\u\x7b" ++ lowerHex character.toNat ++ "\x7d"

/-- The text between quotation marks. -/
def quoted (text : String) : String :=
  "\x22" ++ String.join (text.toList.map quotedCharacter) ++ "\x22"

example : quoted "it's\n" = "\x22it's\\n\x22" := by decide +kernel

/-- An accent would be drawn on top of the quotation mark before it. -/
example : quoted "\u0301" = "\x22\\u\x7b301\x7d\x22" := by decide +kernel

/-- A filler is a letter that nobody sees. -/
example : quoted "\u3164" = "\x22\\u\x7b3164\x7d\x22" := by decide +kernel

end MethodPatch.Text
