/-
This file says what a report that shows no applied hook tells about the class.

A report counts a class as modified when some hook was applied to it. A hook that failed can have
changed the class as well, if its changes were kept: a chain that broke off after some changes, or
a completed one whose labels were at fault (`Verdict.keepsFailure`). Where there is neither, the
class is as it was. Under rollback nothing of a failed hook is kept, so there the report alone
settles it.
-/

import MethodPatch.Proofs.Chain
import MethodPatch.Proofs.OncePerClass
import MethodPatch.Proofs.Visit

namespace MethodPatch

/-! ### Kept changes of failed hooks -/

/-- Whether a hook failed after it had changed the body, and the changes were kept. -/
def Verdict.keepsFailure (verdict : Verdict) : Bool :=
  !verdict.rolledBack && match verdict.outcome with
    | .patternNotFound _ _ changes => 0 < changes
    | .invalidLabels _ => true
    | _ => false

variable {settings : Settings}

namespace Hook

variable {hook : Hook} {className : ClassName} {met : List String} {methods : MethodTable}

theorem patch_body_of_not_keepsFailure {body : Body}
    (unapplied : (hook.patch settings body).verdict.outcome.isApplied = false)
    (undone : (hook.patch settings body).verdict.keepsFailure = false) :
    (hook.patch settings body).body = body := by
  cases rollback : settings.rollback with
  | true => exact patch_body_of_rollback rollback unapplied
  | false =>
    have kept : (hook.patch settings body).body =
        (hook.run settings.naming body).workspace.body := by simp [patch, rollback]
    rw [kept]
    have ending := settings.ending_outcomeOf body (hook.run settings.naming body)
    simp only [Verdict.keepsFailure, patch, rollback] at unapplied undone
    generalize settings.outcomeOf body (hook.run settings.naming body) = outcome
      at ending unapplied undone
    cases ending with
    | missed miss missed =>
      have none : (hook.run settings.naming body).workspace.changes = 0 := by simpa using undone
      exact (hook.scope settings.naming).body_run_of_changes_eq_zero 0 hook.edits body none
    | faulty => cases undone
    | applied => cases unapplied

/-- A visit that applies nothing and keeps nothing of a failure leaves the methods as they were. -/
theorem visitClass_methods_of_not_keepsFailure
    (unapplied : (hook.visitClass settings className met methods).verdict.outcome.isApplied = false)
    (undone : (hook.visitClass settings className met methods).verdict.keepsFailure = false) :
    (hook.visitClass settings className met methods).methods = methods := by
  have encounter := encounter_visitClass settings className met hook methods
  generalize hook.visitClass settings className met methods = visit
    at encounter unapplied undone ⊢
  cases encounter with
  | elsewhere | repeated | missing | bodiless => rfl
  | patched here fresh method found within =>
    simp only [patch_body_of_not_keepsFailure unapplied undone]
    exact MethodTable.setBody_body found

/-- Under rollback nothing of a failed hook is kept. -/
theorem keepsFailure_visitClass_of_rollback (rollback : settings.rollback = true) :
    (hook.visitClass settings className met methods).verdict.keepsFailure = false := by
  have encounter := encounter_visitClass settings className met hook methods
  generalize hook.visitClass settings className met methods = visit at encounter ⊢
  cases encounter with
  | elsewhere | repeated | missing | bodiless => rfl
  | patched here fresh method found within =>
    have ending := settings.ending_outcomeOf method.body (hook.run settings.naming method.body)
    simp only [Verdict.keepsFailure, patch, rollback, Bool.true_and]
    generalize settings.outcomeOf method.body (hook.run settings.naming method.body) = outcome
      at ending ⊢
    cases ending <;> rfl

end Hook

/-! ### Passes -/

namespace Settings

theorem passFrom_methods_of_not_keepsFailure (settings : Settings) (className : ClassName)
    (met : List String) (hooks : List Hook) (methods : MethodTable)
    (unapplied : ∀ verdict ∈ (settings.passFrom className met hooks methods).verdicts,
      verdict.outcome.isApplied = false)
    (undone : ∀ verdict ∈ (settings.passFrom className met hooks methods).verdicts,
      verdict.keepsFailure = false) :
    (settings.passFrom className met hooks methods).methods = methods := by
  induction hooks generalizing met methods with
  | nil => rfl
  | cons hook rest inductionHypothesis =>
    obtain ⟨unappliedHere, unappliedLater⟩ := List.forall_mem_cons.mp unapplied
    obtain ⟨undoneHere, undoneLater⟩ := List.forall_mem_cons.mp undone
    exact (inductionHypothesis _ _ unappliedLater undoneLater).trans
      (Hook.visitClass_methods_of_not_keepsFailure unappliedHere undoneHere)

theorem keepsFailure_passFrom_of_rollback (settings : Settings) (className : ClassName)
    (rollback : settings.rollback = true) (met : List String) (hooks : List Hook)
    (methods : MethodTable) :
    ∀ verdict ∈ (settings.passFrom className met hooks methods).verdicts,
      verdict.keepsFailure = false := by
  induction hooks generalizing met methods with
  | nil => exact fun _ member => absurd member List.not_mem_nil
  | cons hook rest inductionHypothesis =>
    exact List.forall_mem_cons.mpr
      ⟨Hook.keepsFailure_visitClass_of_rollback rollback, inductionHypothesis _ _⟩

end Settings

/-! ### Loading a class -/

namespace Loader

/-- A class whose report shows no applied hook is as it was, unless a failed hook kept what it had
done. Under rollback none does. -/
theorem file_transform_of_unmodified (loader : Loader) (file : ClassFile)
    (unmodified : (loader.transform file).value.report.isModified = false)
    (undone : loader.catalogue.settings.rollback = true ∨
      ∀ verdict ∈ (loader.transform file).value.report.verdicts, verdict.keepsFailure = false) :
    (loader.transform file).value.file = file := by
  by_cases hooked : loader.catalogue.hooksFor file.className = []
  · rw [(transform_of_unhooked hooked).2]
  · by_cases again : file.className ∈ loader.transformed
    · rw [(transform_of_transformed hooked again).2]
    · rw [(transform_of_fresh hooked again).2] at unmodified undone ⊢
      have unapplied := List.any_eq_false.mp unmodified
      have kept (verdict : Verdict) (member : verdict ∈ (loader.catalogue.settings.dispatch
          file.className file.methods (loader.catalogue.hooksFor file.className)).verdicts) :
          verdict.keepsFailure = false := by
        rcases undone with rollback | undone
        · exact Settings.keepsFailure_passFrom_of_rollback _ _ rollback _ _ _ verdict member
        · exact undone verdict member
      have methods : (loader.catalogue.settings.dispatch file.className file.methods
          (loader.catalogue.hooksFor file.className)).methods = file.methods :=
        Settings.passFrom_methods_of_not_keepsFailure _ _ _ _ _
          (fun verdict member => by simpa using unapplied verdict member) kept
      show { file with methods := _ } = file
      rw [methods]

/-- Without rollback: one hook misses its pattern before it has changed anything, and the target of
the other does not exist. -/
theorem file_transform_of_unmodified_two_failures :
    let hook (name method : String) (edits : List Edit) : Hook := {
      name, edits, target := .unmapped (.of "a.B") method "()V" }
    let loader := (start (.empty .production none)).after [
      .register (hook "miss" "run" [.seekTo (.single ⟨0x03, .none⟩), .insert [⟨0x00, .none⟩]]),
      .register (hook "gone" "stop" [.insert [⟨0x00, .none⟩]])]
    let file : ClassFile := ⟨"a.B", [], [⟨"run", "()V", ⟨1⟩, [⟨0xb1, .none⟩]⟩]⟩
    (loader.transform file).value.report.verdicts.map Verdict.outcome =
        [.patternNotFound 0 "[iconst_0]" 0, .targetNotFound] ∧
      (loader.transform file).value.file = file := by
  intro hook loader file
  have unmodified : (loader.transform file).value.report.isModified = false := by decide +kernel
  have undone : ∀ verdict ∈ (loader.transform file).value.report.verdicts,
      verdict.keepsFailure = false := by decide +kernel
  exact ⟨by decide +kernel, file_transform_of_unmodified loader file unmodified (.inr undone)⟩

/-- A failed hook whose change is kept: the code is put in, the pattern behind it is missed, and the
report shows no applied hook. -/
theorem isModified_transform_of_broken_chain :
    let hook : Hook := {
      name := "fix", target := .unmapped (.of "a.B") "run" "()V"
      edits := [.insert [⟨0x00, .none⟩], .seekTo (.single ⟨0x03, .none⟩)] }
    let loader := (start (.empty .production none)).after [.register hook]
    let file : ClassFile := ⟨"a.B", [], [⟨"run", "()V", ⟨1⟩, [⟨0xb1, .none⟩]⟩]⟩
    (loader.transform file).value.report.isModified = false ∧
      (loader.transform file).value.file =
        ⟨"a.B", [], [⟨"run", "()V", ⟨1⟩, [⟨0x00, .none⟩, ⟨0xb1, .none⟩]⟩]⟩ := by
  decide +kernel

end Loader

end MethodPatch
