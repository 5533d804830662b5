/-
This file lists the ways in which a hook can fare at a class.

`Hook.Encounter` has one case for each way, with all that has to hold for it, and every visit is
one of them (`Hook.encounter_visitClass`). A visit changes the methods in the last case only,
where the edits of the hook are run on the body of its target. What stays of that run depends on
its outcome: a hook that is applied keeps what it did, and under rollback a hook that fails does
not.
-/

import MethodPatch.Dispatch
import MethodPatch.Proofs.MethodTable

namespace MethodPatch

/-! ### The outcome of a run -/

/-- How a run that started from the baseline can end, and the outcome that this comes to. -/
inductive Settings.Ending (settings : Settings) (baseline : Body) (run : Run) : Outcome → Prop where
  /-- An edit missed its pattern. -/
  | missed (miss : Miss) (missed : run.miss = some miss) :
    Ending settings baseline run
      (.patternNotFound miss.index miss.pattern run.workspace.changes)
  /-- All edits were made, and they brought a fault. -/
  | faulty (completed : run.miss = none) (verify : settings.verifyLabels = true)
      (fault : LabelFault) (others : List LabelFault)
      (found : run.workspace.body.faultsBeyond baseline = fault :: others) :
    Ending settings baseline run (.invalidLabels fault)
  /-- All edits were made, and no fault is held against them. -/
  | applied (completed : run.miss = none)
      (verified : settings.verifyLabels = true → run.workspace.body.faultsBeyond baseline = []) :
    Ending settings baseline run (.applied run.workspace.changes)

theorem Settings.ending_outcomeOf (settings : Settings) (baseline : Body) (run : Run) :
    settings.Ending baseline run (settings.outcomeOf baseline run) := by
  unfold Settings.outcomeOf
  split
  · next miss missed => exact .missed miss missed
  · next completed =>
    split
    · next verify =>
      split
      · next fault others found => exact .faulty completed verify fault others found
      · next clean => exact .applied completed fun _ => clean
    · next unverified => exact .applied completed fun verify => absurd verify unverified

/-- The way a run ends settles its outcome. -/
theorem Settings.Ending.outcomeOf_eq {settings : Settings} {baseline : Body} {run : Run}
    {outcome : Outcome} (ending : settings.Ending baseline run outcome) :
    settings.outcomeOf baseline run = outcome := by
  cases ending with
  | missed miss missed => simp only [Settings.outcomeOf, missed]
  | faulty completed verify fault others found =>
    simp only [Settings.outcomeOf, completed, verify, found, if_true]
  | applied completed verified =>
    by_cases verify : settings.verifyLabels = true
    · simp only [Settings.outcomeOf, completed, verify, verified verify, if_true]
    · simp only [Settings.outcomeOf, completed, verify, Bool.false_eq_true, if_false]

/-- A run counts as applied when no edit missed its pattern and, where labels are verified, it
brought no new fault. -/
theorem Settings.isApplied_outcomeOf (settings : Settings) (baseline : Body) (run : Run) :
    (settings.outcomeOf baseline run).isApplied = true ↔
      run.miss = none ∧
        (settings.verifyLabels = true → run.workspace.body.faultsBeyond baseline = []) := by
  unfold Settings.outcomeOf
  cases missed : run.miss with
  | some miss => simp [Outcome.isApplied]
  | none =>
    by_cases verify : settings.verifyLabels = true
    · rw [if_pos verify]
      cases run.workspace.body.faultsBeyond baseline with
      | nil => simp [Outcome.isApplied]
      | cons fault rest => simp [Outcome.isApplied, verify]
    · simp [verify, Outcome.isApplied]

theorem Settings.isFailure_outcomeOf (settings : Settings) (baseline : Body) (run : Run) :
    (settings.outcomeOf baseline run).isFailure =
      !(settings.outcomeOf baseline run).isApplied := by
  unfold Settings.outcomeOf
  split
  · rfl
  · split
    · split <;> rfl
    · rfl

namespace Hook

variable {settings : Settings} {className : ClassName} {met : List String} {hook : Hook}
  {methods : MethodTable} {body : Body}

/-! ### What stays of a run -/

theorem patch_body_of_applied
    (applied : (hook.patch settings body).verdict.outcome.isApplied = true) :
    (hook.patch settings body).body = (hook.run settings.naming body).workspace.body := by
  have kept : (settings.outcomeOf body (hook.run settings.naming body)).isFailure = false := by
    rw [Settings.isFailure_outcomeOf]
    exact congrArg not applied
  simp [patch, kept]

/-- Under rollback the body stays as it was when the hook fails. -/
theorem patch_body_of_rollback (rollback : settings.rollback = true)
    (failed : (hook.patch settings body).verdict.outcome.isApplied = false) :
    (hook.patch settings body).body = body := by
  have undone : (settings.outcomeOf body (hook.run settings.naming body)).isFailure = true := by
    rw [Settings.isFailure_outcomeOf]
    exact congrArg not failed
  simp [patch, undone, rollback]

/-! ### The ways to fare at a class -/

/-- How a hook fares at a class when hooks of some names have been met there, and the visit that
this comes to. -/
inductive Encounter (settings : Settings) (className : ClassName) (met : List String)
    (hook : Hook) (methods : MethodTable) : Visit → Prop where
  /-- The hook is for another class. -/
  | elsewhere (other : hook.targetClass ≠ className) :
    Encounter settings className met hook methods
      ⟨⟨hook.name, hook.target.reference settings.naming, .skipped, false⟩, [], methods⟩
  /-- A hook of the same name has been met. -/
  | repeated (here : hook.targetClass = className) (again : hook.name ∈ met) :
    Encounter settings className met hook methods
      ⟨⟨hook.name, hook.target.reference settings.naming, .alreadyApplied, false⟩,
        [.listedTwice hook.name className], methods⟩
  /-- The class has no such method. -/
  | missing (here : hook.targetClass = className) (fresh : hook.name ∉ met)
      (absent : methods.lookup? (hook.target.reference settings.naming).name
        (hook.target.reference settings.naming).descriptor = none) :
    Encounter settings className met hook methods
      ⟨⟨hook.name, hook.target.reference settings.naming, .targetNotFound, false⟩,
        [.methodMissing hook.name (hook.target.reference settings.naming)], methods⟩
  /-- The method has no body of its own. -/
  | bodiless (here : hook.targetClass = className) (fresh : hook.name ∉ met) (method : Method)
      (found : methods.lookup? (hook.target.reference settings.naming).name
        (hook.target.reference settings.naming).descriptor = some method)
      (without : method.hasBody = false) :
    Encounter settings className met hook methods
      ⟨⟨hook.name, hook.target.reference settings.naming, .targetNotFound, false⟩,
        [.withoutBody hook.name (hook.target.reference settings.naming) method.access], methods⟩
  /-- The edits of the hook are run on the body of the method. -/
  | patched (here : hook.targetClass = className) (fresh : hook.name ∉ met) (method : Method)
      (found : methods.lookup? (hook.target.reference settings.naming).name
        (hook.target.reference settings.naming).descriptor = some method)
      (within : method.hasBody = true) :
    Encounter settings className met hook methods
      ⟨(hook.patch settings method.body).verdict, (hook.patch settings method.body).events,
        methods.setBody (hook.target.reference settings.naming).name
          (hook.target.reference settings.naming).descriptor
          (hook.patch settings method.body).body⟩

/-- There is no other way to fare at a class. -/
theorem encounter_visitClass (settings : Settings) (className : ClassName) (met : List String)
    (hook : Hook) (methods : MethodTable) :
    Encounter settings className met hook methods
      (hook.visitClass settings className met methods) := by
  unfold visitClass
  split
  · next other => exact .elsewhere other
  · next here =>
    have here : hook.targetClass = className := not_not.mp here
    split
    · next again => exact .repeated here again
    · next fresh =>
      unfold visit
      dsimp only
      split
      · next absent => exact .missing here fresh absent
      · next method found =>
        split
        · next within => exact .patched here fresh method found within
        · next without => exact .bodiless here fresh method found (by simpa using without)

/-! ### Applied or not -/

/-- Under rollback a hook that is not applied leaves the methods as they are. -/
theorem visitClass_methods_of_rollback (rollback : settings.rollback = true)
    (failed : (hook.visitClass settings className met methods).verdict.outcome.isApplied = false) :
    (hook.visitClass settings className met methods).methods = methods := by
  have encounter := encounter_visitClass settings className met hook methods
  generalize hook.visitClass settings className met methods = visit at encounter failed ⊢
  cases encounter with
  | elsewhere | repeated | missing | bodiless => rfl
  | patched here fresh method found within =>
    simp only [patch_body_of_rollback rollback failed]
    exact MethodTable.setBody_body found

theorem fresh_of_visitClass_applied
    (applied : (hook.visitClass settings className met methods).verdict.outcome.isApplied = true) :
    hook.targetClass = className ∧ hook.name ∉ met := by
  have encounter := encounter_visitClass settings className met hook methods
  generalize hook.visitClass settings className met methods = visit at encounter applied
  cases encounter with
  | elsewhere | repeated | missing | bodiless => simp [Outcome.isApplied] at applied
  | patched here fresh => exact ⟨here, fresh⟩

/-- Of the hooks met before, a visit reads no more than whether one of them has the name of the
hook. -/
theorem visitClass_eq_visit (here : hook.targetClass = className) (fresh : hook.name ∉ met) :
    hook.visitClass settings className met methods = hook.visit settings methods := by
  simp [visitClass, here, fresh]

/-- The way a hook fares settles its visit. -/
theorem Encounter.visitClass_eq {visit : Visit}
    (encounter : Encounter settings className met hook methods visit) :
    hook.visitClass settings className met methods = visit := by
  cases encounter with
  | elsewhere other => rw [visitClass, if_pos other]
  | repeated here again => rw [visitClass, if_neg (not_not.mpr here), if_pos again]
  | missing here fresh absent =>
    rw [visitClass_eq_visit here fresh]
    simp only [visit, absent]
  | bodiless here fresh method found without =>
    rw [visitClass_eq_visit here fresh]
    simp only [visit, found, without, Bool.false_eq_true, if_false]
  | patched here fresh method found within =>
    rw [visitClass_eq_visit here fresh]
    simp only [visit, found, within, if_true]

/-- However a hook fares, the verdict is on that hook and on its target. -/
theorem verdict_visitClass (settings : Settings) (className : ClassName) (met : List String)
    (hook : Hook) (methods : MethodTable) :
    (hook.visitClass settings className met methods).verdict.hook = hook.name ∧
      (hook.visitClass settings className met methods).verdict.target =
        hook.target.reference settings.naming := by
  have encounter := encounter_visitClass settings className met hook methods
  generalize hook.visitClass settings className met methods = visit at encounter
  cases encounter with
  | elsewhere | repeated | missing | bodiless | patched => exact ⟨rfl, rfl⟩

/-- A hook for the class whose name has not been met is applied or fails. -/
theorem isFailure_visitClass (here : hook.targetClass = className) (fresh : hook.name ∉ met) :
    (hook.visitClass settings className met methods).verdict.outcome.isFailure =
      !(hook.visitClass settings className met methods).verdict.outcome.isApplied := by
  have encounter := encounter_visitClass settings className met hook methods
  generalize hook.visitClass settings className met methods = visit at encounter
  cases encounter with
  | elsewhere other => exact absurd here other
  | repeated _ again => exact absurd again fresh
  | missing | bodiless => rfl
  | patched _ _ method _ _ => exact settings.isFailure_outcomeOf method.body _

/-! ### What every patch keeps -/

/-- A relation between a method and itself with the body that a hook leaves of it holds between
the methods before and after a visit of the hook. -/
theorem forall₂_visitClass {Related : Method → Method → Prop}
    (unchanged : ∀ method, Related method method)
    (patched : ∀ method, Related method
      { method with body := (hook.patch settings method.body).body }) :
    List.Forall₂ Related methods (hook.visitClass settings className met methods).methods := by
  have encounter := encounter_visitClass settings className met hook methods
  generalize hook.visitClass settings className met methods = visit at encounter
  cases encounter with
  | elsewhere | repeated | missing | bodiless =>
    exact List.forall₂_same.mpr fun method _ => unchanged method
  | patched here fresh method found within =>
    exact MethodTable.forall₂_setBody unchanged found _ (patched method)

end Hook

/-- What every patch keeps is kept by a whole pass. -/
theorem Settings.forall₂_passFrom (settings : Settings) (className : ClassName)
    {Related : Method → Method → Prop} (unchanged : ∀ method, Related method method)
    (through : ∀ first second third, Related first second → Related second third →
      Related first third)
    (patched : ∀ (hook : Hook) (method : Method), Related method
      { method with body := (hook.patch settings method.body).body })
    (met : List String) (hooks : List Hook) (methods : MethodTable) :
    List.Forall₂ Related methods (settings.passFrom className met hooks methods).methods := by
  induction hooks generalizing met methods with
  | nil => exact List.forall₂_same.mpr fun method _ => unchanged method
  | cons hook rest inductionHypothesis =>
    have visited : List.Forall₂ Related methods
        (hook.visitClass settings className met methods).methods :=
      Hook.forall₂_visitClass unchanged (patched hook)
    exact MethodTable.forall₂_trans through visited (inductionHypothesis _ _)

end MethodPatch
