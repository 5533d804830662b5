/-
This file names the ways in which patching can go wrong and words each of them.

An error records its cause; the wording is written in one place, `PatchError.message`. An error
of a whole pass carries the errors of its hooks.
-/

import MethodPatch.Opcode
import MethodPatch.Text.Hexadecimal

namespace MethodPatch

/-- A place in a source file. -/
structure SourcePlace where
  file : String
  line : Nat

/-- Why a hook cannot be used in the present setup. -/
inductive SetupFault where
  | targetsField (hook target : String)
  | nameTaken (hook : String)
  | undeclared (kind member declaringType : String)
  | other (message : String)

def SetupFault.message : SetupFault → String
  | .targetsField hook target => s!"hook '{hook}' targets field {target}, hooks patch method bodies"
  | .nameTaken hook => s!"hook '{hook}' is already registered"
  | .undeclared kind member declaringType =>
    s!"{kind} {member} is not declared by {declaringType} under either name"
  | .other message => message

/-- What can go wrong. -/
inductive PatchError where
  /-- The setup is at fault. The place it was found in need not be known. -/
  | configuration (place : Option SourcePlace) (fault : SetupFault)
  | emptyPattern
  | operandMismatch (mnemonic expected found : String)
  | unknownOpcode (opcode : Opcode)
  | duplicateLabel (label : String)
  | undefinedLabel (label : String)
  | registrationClosed
  | targetNotFound (hook className name descriptor : String)
  | patternNotFound (hook : String) (index : Nat) (pattern : String)
  | hookFailed (className : String) (failures : List PatchError)

/-- A place as a reader sees it. Without a place the words for its parts stand in for it. -/
def SourcePlace.text : Option SourcePlace → String
  | some place => s!"{place.file}:{place.line}"
  | none => "FILE:LINE"

namespace PatchError

/-- The word for a kind of error. -/
def kind : PatchError → String
  | .configuration .. => "Configuration"
  | .emptyPattern => "EmptyPattern"
  | .operandMismatch .. => "OperandMismatch"
  | .unknownOpcode .. => "UnknownOpcode"
  | .duplicateLabel .. => "DuplicateLabel"
  | .undefinedLabel .. => "UndefinedLabel"
  | .registrationClosed => "RegistrationClosed"
  | .targetNotFound .. => "TargetNotFound"
  | .patternNotFound .. => "PatternNotFound"
  | .hookFailed .. => "HookFailed"

mutual

/-- The wording of an error. -/
def message : PatchError → String
  | .configuration place fault => s!"Configuration - {SourcePlace.text place}: {fault.message}"
  | .emptyPattern => "A pattern must contain at least one instruction"
  | .operandMismatch mnemonic expected found =>
    s!"Operand mismatch for '{mnemonic}': expected {expected}, found {found}"
  | .unknownOpcode opcode => s!"Unknown opcode - 0x{Text.byteHex opcode}"
  | .duplicateLabel label => s!"Duplicate label - {label}"
  | .undefinedLabel label => s!"Undefined label - {label}"
  | .registrationClosed => "Hook registration is closed, dispatch has already begun"
  | .targetNotFound hook className name descriptor =>
    s!"Hook '{hook}': no method {name}{descriptor} in {className}"
  | .patternNotFound hook index pattern =>
    s!"Hook '{hook}': pattern not found by operation #{index} ({pattern})"
  | .hookFailed className failures =>
    s!"{failures.length} hook(s) failed while transforming {className}: " ++
      String.intercalate "; " (messages failures)

/-- The wordings of several errors. -/
def messages : List PatchError → List String
  | [] => []
  | error :: rest => error.message :: messages rest

end

end PatchError

end MethodPatch
