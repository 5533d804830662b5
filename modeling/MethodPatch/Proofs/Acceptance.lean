/-
This file says which hooks are accepted in themselves.

The edits of a hook are checked one after the other, and the labels anchored so far are carried
along. All of it comes down to two conditions on the hook as a whole: each of its edits is sound,
and no label is anchored twice (`Hook.check_eq_ok`).
-/

import MethodPatch.Hook
import MethodPatch.Proofs.Faults

namespace MethodPatch

/-- What follows a check is reached when the check is passed. -/
theorem check_bind_eq_ok {Result : Type} {check : Except PatchError Unit}
    {next : Except PatchError Result} {result : Result} :
    (check >>= fun _ => next) = .ok result ↔ check = .ok () ∧ next = .ok result := by
  cases check with
  | error error => exact ⟨nofun, nofun⟩
  | ok => exact (and_iff_right rfl).symm

theorem eq_ok_of_isOk {checked : Except PatchError Unit} (accepted : checked.isOk = true) :
    checked = .ok () := by
  cases checked with
  | error error => cases accepted
  | ok => rfl

theorem forM_eq_ok {Value : Type} {values : List Value} {check : Value → Except PatchError Unit} :
    values.forM check = .ok () ↔ ∀ value ∈ values, check value = .ok () := by
  induction values with
  | nil => exact ⟨fun _ _ member => absurd member List.not_mem_nil, fun _ => rfl⟩
  | cons value rest inductionHypothesis =>
    rw [List.forall_mem_cons, ← inductionHypothesis]
    exact check_bind_eq_ok

/-- An edit is sound when every instruction that it is written with has an operand that fits. -/
theorem Edit.check_eq_ok (edit : Edit) :
    edit.check = .ok () ↔ ∀ instruction ∈ edit.instructions, instruction.check = .ok () :=
  forM_eq_ok

namespace Hook

theorem checkEdits_cons (name : String) (earlier : List Label) (edit : Edit) (rest : List Edit) :
    checkEdits name earlier (edit :: rest) = .ok () ↔
      edit.check = .ok () ∧ Body.firstRepeat? earlier edit.anchors = none ∧
        checkEdits name (edit.anchors ++ earlier) rest = .ok () := by
  rw [checkEdits, check_bind_eq_ok]
  cases Body.firstRepeat? earlier edit.anchors with
  | some label => simp
  | none => simp

/-- Edits are accepted when each is sound and no label is anchored twice or was anchored before. -/
theorem checkEdits_eq_ok (name : String) (earlier : List Label) (edits : List Edit) :
    checkEdits name earlier edits = .ok () ↔
      (∀ edit ∈ edits, edit.check = .ok ()) ∧ (edits.flatMap Edit.anchors).Nodup ∧
        ∀ label ∈ edits.flatMap Edit.anchors, label ∉ earlier := by
  induction edits generalizing earlier with
  | nil => simp [checkEdits]
  | cons edit rest inductionHypothesis =>
    rw [checkEdits_cons, Body.firstRepeat?_eq_none, inductionHypothesis, List.forall_mem_cons,
      List.flatMap_cons, List.nodup_append']
    simp only [List.mem_append, List.Disjoint]
    constructor
    · rintro ⟨sound, ⟨distinct, fresh⟩, soundRest, distinctRest, freshRest⟩
      refine ⟨⟨sound, soundRest⟩, ⟨distinct, distinctRest, ?_⟩, ?_⟩
      · exact fun label here later => freshRest label later (Or.inl here)
      · rintro label (here | later)
        · exact fresh label here
        · exact fun before => freshRest label later (Or.inr before)
    · rintro ⟨⟨sound, soundRest⟩, ⟨distinct, distinctRest, apart⟩, fresh⟩
      refine ⟨sound, ⟨distinct, fun label here => fresh label (Or.inl here)⟩, soundRest,
        distinctRest, ?_⟩
      rintro label later (here | before)
      · exact apart here later
      · exact fresh label (Or.inr later) before

/-- A hook is accepted when it is for a method, its edits are sound, and it anchors no label
twice. -/
theorem check_eq_ok (hook : Hook) :
    hook.check = .ok () ↔ hook.target.kind = .method ∧
      (∀ edit ∈ hook.edits, edit.check = .ok ()) ∧ hook.anchors.Nodup := by
  rw [check]
  cases hook.target.kind with
  | field => simp
  | method => simp [checkEdits_eq_ok, anchors]

end Hook

end MethodPatch
