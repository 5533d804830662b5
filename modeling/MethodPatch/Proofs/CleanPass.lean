/-
This file proves that the optional checks only look on while no hook fails.

Rollback undoes what a failing hook did, and verifying the labels can turn a completed run into a
failure; both read the settings only to decide what becomes of a failure. A pass that verifies
labels and reports none has found every run complete and without new faults, so under any other
choice of the two every hook gets the same verdict and leaves the same body. The names that members
go by have to be the same, since hooks are run under them.
-/

import MethodPatch.Proofs.Visit

namespace MethodPatch

variable {settings other : Settings}

/-- A complete run without new faults counts as applied, whatever is checked. -/
theorem Settings.outcomeOf_of_completed {baseline : Body} {run : Run} (completed : run.miss = none)
    (sound : run.workspace.body.faultsBeyond baseline = []) :
    settings.outcomeOf baseline run = .applied run.workspace.changes := by
  simp [Settings.outcomeOf, completed, sound]

namespace Hook

variable {hook : Hook} {className : ClassName} {met : List String} {methods : MethodTable}
  {body : Body}

/-- Without a failure a hook makes the same of a body and gets the same verdict, whatever is
checked. -/
theorem patch_of_clean (verify : settings.verifyLabels = true)
    (naming : other.naming = settings.naming)
    (clean : (hook.patch settings body).verdict.outcome.isFailure = false) :
    (hook.patch other body).verdict = (hook.patch settings body).verdict ∧
      (hook.patch other body).body = (hook.patch settings body).body := by
  have unfailed : (settings.outcomeOf body (hook.run settings.naming body)).isFailure = false :=
    clean
  have applied : (settings.outcomeOf body (hook.run settings.naming body)).isApplied = true := by
    rwa [Settings.isFailure_outcomeOf, Bool.not_eq_false'] at unfailed
  obtain ⟨completed, sound⟩ := (settings.isApplied_outcomeOf body _).mp applied
  have outcome : ∀ choice : Settings, choice.outcomeOf body (hook.run settings.naming body) =
      .applied (hook.run settings.naming body).workspace.changes :=
    fun choice => choice.outcomeOf_of_completed completed (sound verify)
  simp [patch, naming, outcome, Outcome.isFailure]

theorem visit_of_clean (verify : settings.verifyLabels = true)
    (naming : other.naming = settings.naming)
    (clean : (hook.visit settings methods).verdict.outcome.isFailure = false) :
    (hook.visit other methods).verdict = (hook.visit settings methods).verdict ∧
      (hook.visit other methods).methods = (hook.visit settings methods).methods := by
  unfold visit at clean ⊢
  rw [naming]
  cases found : methods.lookup? (hook.target.reference settings.naming).name
      (hook.target.reference settings.naming).descriptor with
  | none => simp only [found, and_self]
  | some method =>
    simp only [found] at clean ⊢
    cases within : method.hasBody with
    | false => simp only [Bool.false_eq_true, if_false, and_self]
    | true =>
      simp only [within, if_true] at clean ⊢
      obtain ⟨verdict, body⟩ := patch_of_clean verify naming clean
      exact ⟨verdict, by rw [body]⟩

theorem visitClass_of_clean (verify : settings.verifyLabels = true)
    (naming : other.naming = settings.naming)
    (clean : (hook.visitClass settings className met methods).verdict.outcome.isFailure = false) :
    (hook.visitClass other className met methods).verdict =
        (hook.visitClass settings className met methods).verdict ∧
      (hook.visitClass other className met methods).methods =
        (hook.visitClass settings className met methods).methods := by
  unfold visitClass at clean ⊢
  rw [naming]
  by_cases elsewhere : hook.targetClass ≠ className
  · simp only [if_pos elsewhere, and_self]
  · by_cases again : hook.name ∈ met
    · simp only [if_neg elsewhere, if_pos again, and_self]
    · simp only [if_neg elsewhere, if_neg again] at clean ⊢
      exact visit_of_clean verify naming clean

end Hook

namespace Settings

/-- The visits of a pass without failures are the same, whatever is checked. -/
theorem passFrom_of_clean (className : ClassName) (verify : settings.verifyLabels = true)
    (naming : other.naming = settings.naming) (met : List String) (hooks : List Hook)
    (methods : MethodTable)
    (clean : ∀ verdict ∈ (settings.passFrom className met hooks methods).verdicts,
      verdict.outcome.isFailure = false) :
    (other.passFrom className met hooks methods).verdicts =
        (settings.passFrom className met hooks methods).verdicts ∧
      (other.passFrom className met hooks methods).methods =
        (settings.passFrom className met hooks methods).methods := by
  induction hooks generalizing met methods with
  | nil => exact ⟨rfl, rfl⟩
  | cons hook rest inductionHypothesis =>
    obtain ⟨cleanHere, cleanLater⟩ := List.forall_mem_cons.mp clean
    obtain ⟨verdict, visited⟩ := Hook.visitClass_of_clean verify naming cleanHere
    obtain ⟨verdicts, left⟩ := inductionHypothesis _ _ cleanLater
    rw [passFrom, passFrom, visited]
    exact ⟨congrArg₂ List.cons verdict verdicts, left⟩

/-- A pass that verifies labels and in which no hook fails comes to the same under every choice of
rollback and label verification: the same verdicts and the same methods. -/
theorem dispatch_of_clean (settings other : Settings) (className : ClassName)
    (methods : MethodTable) (hooks : List Hook) (verify : settings.verifyLabels = true)
    (naming : other.naming = settings.naming)
    (clean : ∀ verdict ∈ (settings.dispatch className methods hooks).verdicts,
      verdict.outcome.isFailure = false) :
    (other.dispatch className methods hooks).verdicts =
        (settings.dispatch className methods hooks).verdicts ∧
      (other.dispatch className methods hooks).methods =
        (settings.dispatch className methods hooks).methods :=
  passFrom_of_clean className verify naming [] hooks methods clean

/-- Five hooks without a failure: two for a body that branches to nowhere from the start, one of
them listed again, one that leaves a body without its only anchor, and one for another class. -/
theorem dispatch_of_clean_five_hooks :
    let run := MappedMember.unmapped (.of "a.B") "run" "()V"
    let guard : Hook := {
      name := "guard", target := run
      edits := [.insert [⟨0x99, .jump ⟨"skip"⟩⟩, ⟨0xb1, .none⟩], .markLabel ⟨"skip"⟩] }
    let leap : Hook := {
      name := "leap", target := run
      edits := [.seekTo (.single ⟨0xb1, .none⟩), .insert [⟨0xa7, .jump ⟨"guard:skip"⟩⟩]] }
    let sweep : Hook := {
      name := "sweep", target := .unmapped (.of "a.B") "tick" "()V"
      edits := [.remove (.single (.anchor ⟨"old"⟩))] }
    let foreign : Hook := {
      name := "foreign", target := .unmapped (.of "a.C") "run" "()V"
      edits := [.insert [⟨0x00, .none⟩]] }
    let methods : MethodTable := [⟨"run", "()V", ⟨1⟩, [⟨0xa7, .jump ⟨"gone"⟩⟩, ⟨0xb1, .none⟩]⟩,
      ⟨"tick", "()V", ⟨1⟩, [.anchor ⟨"old"⟩, ⟨0xb1, .none⟩]⟩]
    let hooks := [guard, leap, guard, sweep, foreign]
    let pass := Settings.development.dispatch (.of "a/B") methods hooks
    Settings.development.verifyLabels = true ∧
      (∀ verdict ∈ pass.verdicts, verdict.outcome.isFailure = false) ∧
      pass.verdicts.map (fun verdict => verdict.outcome.isApplied) =
        [true, true, false, true, false] ∧
      ∀ rollback verifyLabels,
        let other : Settings := { Settings.development with rollback, verifyLabels }
        (other.dispatch (.of "a/B") methods hooks).verdicts = pass.verdicts ∧
          (other.dispatch (.of "a/B") methods hooks).methods = pass.methods := by
  intro run guard leap sweep foreign methods hooks pass
  have clean : ∀ verdict ∈ pass.verdicts, verdict.outcome.isFailure = false := by decide +kernel
  refine ⟨rfl, clean, by decide +kernel, fun rollback verifyLabels => ?_⟩
  exact dispatch_of_clean .development _ _ methods hooks rfl rfl clean

end Settings

end MethodPatch
