/-
This file proves that no registered hook is lost on the way to the report.

A pass gives each hook of a list a verdict of its own, but it passes over hooks for other classes
and hooks whose names it has met. Neither happens to the hooks that a catalogue keeps for a class:
each of them is for the class, and their names are distinct. So all of them are applied or fail. A
report tells the two apart twice, by the outcome and by the error of a verdict, and both ways agree,
so the error of a report carries the error of every hook that was not applied.
-/

import MethodPatch.Proofs.RegisteredHooks
import MethodPatch.Proofs.Visit

namespace MethodPatch

/-! ### Applied or failed -/

/-- An outcome is of a hook that was applied or failed unless the hook was passed over. -/
theorem Outcome.isFailure_eq_not_isApplied {outcome : Outcome} :
    outcome.isFailure = !outcome.isApplied ↔
      outcome ≠ .skipped ∧ outcome ≠ .alreadyApplied := by
  cases outcome <;> simp [isFailure, isApplied]

/-- The verdicts with an error are those on hooks that failed. -/
theorem Verdict.isSome_error? (className : String) (verdict : Verdict) :
    (verdict.error? className).isSome = verdict.outcome.isFailure := by
  unfold error?
  cases verdict.outcome <;> rfl

/-! ### The error of a report -/

namespace Report

variable {report : Report}

theorem map_some_errors (report : Report) :
    report.errors.map some = report.failed.map (·.error? report.className) := by
  rw [errors, failed, List.map_filterMap_some_eq_filter_map_isSome, List.filter_map]
  exact congrArg _ (List.filter_congr fun verdict _ => verdict.isSome_error? report.className)

theorem errors_eq_nil : report.errors = [] ↔
    ∀ verdict ∈ report.verdicts, verdict.outcome.isFailure = false := by
  rw [← List.map_eq_nil_iff, map_some_errors, List.map_eq_nil_iff, failed, List.filter_eq_nil_iff]
  simp only [Bool.not_eq_true]

theorem check_of_errors (failed : report.errors ≠ []) :
    report.check = .error (.hookFailed report.className report.errors) := by
  unfold check
  split
  · next none => exact absurd none failed
  · rfl

theorem check_eq_ok : report.check = .ok () ↔
    ∀ verdict ∈ report.verdicts, verdict.outcome.isFailure = false := by
  rw [← errors_eq_nil]
  constructor
  · intro accepted
    by_contra failed
    exact nomatch (check_of_errors failed).symm.trans accepted
  · intro none
    rw [check, none]

end Report

/-! ### A verdict for each hook -/

namespace Settings

variable {settings : Settings} {className : ClassName}

theorem map_subject_passFrom (settings : Settings) (className : ClassName) (met : List String)
    (hooks : List Hook) (methods : MethodTable) :
    (settings.passFrom className met hooks methods).verdicts.map
        (fun verdict => (verdict.hook, verdict.target)) =
      hooks.map fun hook => (hook.name, hook.target.reference settings.naming) := by
  induction hooks generalizing met methods with
  | nil => rfl
  | cons hook rest inductionHypothesis =>
    obtain ⟨name, target⟩ := hook.verdict_visitClass settings className met methods
    exact congrArg₂ List.cons (Prod.ext name target) (inductionHypothesis _ _)

/-- Hooks for the class under distinct names that have not been met are applied or fail. -/
theorem isFailure_passFrom {hooks : List Hook} (here : ∀ hook ∈ hooks, hook.targetClass = className)
    (distinct : (hooks.map Hook.name).Nodup) {met : List String}
    (fresh : ∀ hook ∈ hooks, hook.name ∉ met) (methods : MethodTable) :
    ∀ verdict ∈ (settings.passFrom className met hooks methods).verdicts,
      verdict.outcome.isFailure = !verdict.outcome.isApplied := by
  induction hooks generalizing met methods with
  | nil => exact fun _ member => absurd member List.not_mem_nil
  | cons hook rest inductionHypothesis =>
    obtain ⟨unrepeated, distinctRest⟩ := List.nodup_cons.mp distinct
    obtain ⟨hereFirst, hereRest⟩ := List.forall_mem_cons.mp here
    obtain ⟨freshFirst, freshRest⟩ := List.forall_mem_cons.mp fresh
    have freshLater : ∀ other ∈ rest, other.name ∉ metAfter className met hook := by
      intro other member met
      rw [metAfter, if_pos hereFirst, List.mem_cons] at met
      rcases met with same | met
      · exact unrepeated (same ▸ List.mem_map_of_mem member)
      · exact freshRest other member met
    exact List.forall_mem_cons.mpr ⟨Hook.isFailure_visitClass hereFirst freshFirst,
      inductionHypothesis hereRest distinctRest freshLater _⟩

end Settings

/-! ### Loading a class for the first time -/

namespace Loader

/-- When a class is loaded for the first time, its report has one verdict for each hook that the
catalogue keeps for it, in the order of application, and none of the hooks is passed over. The
report is accepted exactly when all of them were applied; otherwise it comes to one error that
carries, in order, the errors of the hooks that were not. -/
theorem report_covers_hooks (settings : Settings) (declarations : Option Declarations)
    (commands : List Command) (file : ClassFile)
    (fresh : ((start (.empty settings declarations)).after commands).isTransformed file.className =
      false) :
    let loader := (start (.empty settings declarations)).after commands
    let report := (loader.transform file).value.report
    (report.verdicts.map (fun verdict => (verdict.hook, verdict.target)) =
        (loader.catalogue.hooksFor file.className).map fun hook =>
          (hook.name, hook.target.reference loader.catalogue.settings.naming)) ∧
      (∀ verdict ∈ report.verdicts,
        verdict.outcome ≠ .skipped ∧ verdict.outcome ≠ .alreadyApplied) ∧
      (report.check = .ok () ↔ ∀ verdict ∈ report.verdicts, verdict.outcome.isApplied = true) ∧
      (report.check ≠ .ok () → ∃ failures,
        report.check = .error (.hookFailed file.className.text failures) ∧
          failures.map some =
            (report.verdicts.filter fun verdict => !verdict.outcome.isApplied).map
              (·.error? file.className.text)) := by
  intro loader report
  have holds := holds_after (start (.empty settings declarations))
    (.empty settings declarations) commands
  have unloaded : file.className ∉ loader.transformed := by simpa [isTransformed] using fresh
  have known : report = ⟨file.className.text, _⟩ :=
    congrArg Transformed.report (value_transform_of_fresh unloaded)
  have decided : ∀ verdict ∈ report.verdicts,
      verdict.outcome.isFailure = !verdict.outcome.isApplied := by
    rw [known]
    exact Settings.isFailure_passFrom (fun _ => holds.targetClass_of_mem_hooksFor)
      (holds.nodup_names_hooksFor file.className) (fun _ _ => List.not_mem_nil) file.methods
  have accepted : report.check = .ok () ↔
      ∀ verdict ∈ report.verdicts, verdict.outcome.isApplied = true := by
    rw [Report.check_eq_ok]
    refine forall₂_congr fun verdict member => ?_
    rw [decided verdict member, Bool.not_eq_false']
  refine ⟨?_, fun verdict member => Outcome.isFailure_eq_not_isApplied.mp (decided verdict member),
    accepted, fun refused => ?_⟩
  · rw [known]
    exact Settings.map_subject_passFrom _ _ _ _ _
  · have failed : report.errors ≠ [] := fun none =>
      refused (Report.check_eq_ok.mpr (Report.errors_eq_nil.mp none))
    have name : report.className = file.className.text := by rw [known]
    refine ⟨report.errors, name ▸ Report.check_of_errors failed, ?_⟩
    rw [Report.map_some_errors, name, Report.failed]
    exact congrArg _ (List.filter_congr decided)

/-- Four hooks for a class, registered in another order than they are applied in, and one for another
class: one hook leaves a branch to nowhere, one misses its pattern, one is for an abstract method,
and the last is applied. -/
theorem report_covers_hooks_one_of_four_applied :
    let mark : Edit := .insert [⟨0x00, .none⟩]
    let hook (name className method : String) (priority : Priority) (edits : List Edit) : Hook := {
      name, priority, edits, target := .unmapped (.of className) method "()V" }
    let commands : List Command := [
      .register (hook "count" "a.B" "run" .low [mark]),
      .register (hook "foreign" "c.D" "run" .normal [mark]),
      .register (hook "leap" "a/B" "run" .high [.insert [⟨0xa7, .jump ⟨"gone"⟩⟩]]),
      .register (hook "stale" "a/B" "run" .normal [mark, .seekTo (.single ⟨0xbf, .none⟩)]),
      .register (hook "bare" "a.B" "stop" .normal [mark])]
    let file : ClassFile := ⟨"a.B", [],
      [⟨"run", "()V", ⟨1⟩, [⟨0xb1, .none⟩]⟩, ⟨"stop", "()V", ⟨0x0401⟩, []⟩]⟩
    let loader := (start (.empty .production none)).after commands
    let report := (loader.transform file).value.report
    loader.isTransformed file.className = false ∧
      report.verdicts.map (fun verdict => (verdict.hook, verdict.outcome)) =
        [("leap", .invalidLabels (.undefined ⟨"gone"⟩)),
          ("stale", .patternNotFound 1 "[athrow]" 1), ("bare", .targetNotFound),
          ("count", .applied 1)] ∧
      (loader.catalogue.hooksFor file.className).map Hook.name =
        ["leap", "stale", "bare", "count"] ∧
      report.check ≠ .ok () ∧
      ∃ failures, report.check = .error (.hookFailed file.className.text failures) ∧
        failures.map some =
          (report.verdicts.filter fun verdict => !verdict.outcome.isApplied).map
            (·.error? file.className.text) := by
  intro mark hook commands file loader report
  subst report loader
  have fresh : ((start (.empty .production none)).after commands).isTransformed file.className =
      false := by decide +kernel
  obtain ⟨_, _, accepted, refused⟩ := report_covers_hooks .production none commands file fresh
  have rejected := mt accepted.mp (by decide +kernel)
  exact ⟨fresh, by decide +kernel, by decide +kernel, rejected, refused rejected⟩

end Loader

end MethodPatch
