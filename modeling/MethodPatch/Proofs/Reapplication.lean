/-
This file proves that a hook with labels of its own is not applied twice unnoticed.

A hook that replaces nothing adds its anchors to those of the body. So where labels are verified, an
application leaves a label of the hook anchored once if the body did not anchor it before. The next
run of the hook misses a pattern or anchors the label again. The body in front of that run anchors
it only once, so the fault is a new one and the hook is refused. No other fault than such a repeated
label comes up then: the second run branches only to where the first one has branched.
-/

import MethodPatch.Proofs.LabelEffect

namespace MethodPatch

/-! ### Two runs on one body -/

namespace Hook

variable {settings : Settings} {naming : Naming} {hook : Hook} {body : Body} {own : Label}

theorem count_anchors_pos (belongs : own ∈ hook.ownLabels) : 0 < hook.anchors.count own :=
  List.count_pos_iff.mpr (mem_ownLabels.mp belongs)

/-- A completed run anchors a label of the hook as often as the hook does. -/
theorem count_qualified_run (keeps : ∀ pattern code, .replace pattern code ∉ hook.edits)
    (completed : (hook.run naming body).miss = none) (own : Label) :
    (hook.run naming body).workspace.body.anchors.count (hook.qualified own) =
      body.anchors.count (hook.qualified own) + hook.anchors.count own := by
  rw [(anchors_run_perm keeps completed).count_eq, List.count_append,
    List.count_map_of_injective _ _ hook.qualified_injective]

/-- An application leaves a label of the hook anchored once that the body did not anchor. -/
theorem count_qualified_of_applied (verify : settings.verifyLabels = true)
    (keeps : ∀ pattern code, .replace pattern code ∉ hook.edits) (belongs : own ∈ hook.ownLabels)
    (fresh : hook.qualified own ∉ body.anchors)
    (applied : (hook.patch settings body).verdict.outcome.isApplied = true) :
    (hook.patch settings body).body.anchors.count (hook.qualified own) = 1 := by
  obtain ⟨completed, verified⟩ := (settings.isApplied_outcomeOf body _).mp applied
  have absent : body.anchors.count (hook.qualified own) = 0 := List.count_eq_zero.mpr fresh
  have brought := count_anchors_pos belongs
  have total := count_qualified_run keeps completed own
  have single : ¬ 1 < (hook.run settings.naming body).workspace.body.anchors.count
      (hook.qualified own) := by
    intro repeated
    have before := Body.faultsBeyond_eq_nil.mp (verified verify)
      (Body.duplicate_mem_faults.mpr repeated)
    rw [Body.duplicate_mem_faults, absent] at before
    exact absurd before (Nat.not_lt.mpr (Nat.zero_le 1))
  rw [patch_body_of_applied applied]
  omega

/-- A body that anchors a label of the hook once has no place for another run of the hook. -/
theorem duplicate_mem_faultsBeyond_of_once
    (keeps : ∀ pattern code, .replace pattern code ∉ hook.edits) (belongs : own ∈ hook.ownLabels)
    (once : body.anchors.count (hook.qualified own) = 1)
    (completed : (hook.run naming body).miss = none) :
    .duplicate (hook.qualified own) ∈ (hook.run naming body).workspace.body.faultsBeyond body := by
  have brought := count_anchors_pos belongs
  rw [Body.mem_faultsBeyond, Body.duplicate_mem_faults, Body.duplicate_mem_faults,
    count_qualified_run keeps completed, once]
  omega

/-- What a second run adds to the faults is that labels of the hook are anchored more than once. -/
theorem exists_own_of_faultsBeyond_again {left : Body} {fault : LabelFault}
    (keeps : ∀ pattern code, .replace pattern code ∉ hook.edits)
    (completed : (hook.run naming body).miss = none)
    (leaves : (hook.run naming body).workspace.body = left)
    (again : (hook.run naming left).miss = none)
    (new : fault ∈ (hook.run naming left).workspace.body.faultsBeyond left) :
    ∃ own ∈ hook.ownLabels, fault = .duplicate (hook.qualified own) := by
  obtain ⟨found, unknown⟩ := Body.mem_faultsBeyond.mp new
  cases fault with
  | duplicate label =>
    rw [Body.duplicate_mem_faults] at found unknown
    rw [(anchors_run_perm keeps again).count_eq, List.count_append] at found
    have brought : label ∈ hook.anchors.map hook.qualified := List.count_pos_iff.mp (by omega)
    obtain ⟨own, belongs, rfl⟩ := List.mem_map.mp brought
    exact ⟨own, mem_ownLabels.mpr belongs, rfl⟩
  | undefined label =>
    rw [Body.undefined_mem_faults, (targets_run_perm keeps again).mem_iff,
      (anchors_run_perm keeps again).mem_iff, List.mem_append, List.mem_append, not_or] at found
    obtain ⟨branched, unanchored, _⟩ := found
    refine absurd (Body.undefined_mem_faults.mpr ⟨branched.elim id fun brought => ?_, unanchored⟩)
      unknown
    rw [← leaves]
    exact (targets_run_perm keeps completed).mem_iff.mpr (List.mem_append_right _ brought)

/-! ### The outcome of the second run -/

/-- How a hook fares at a body that it has been applied to. -/
inductive Refused (hook : Hook) : Outcome → Prop where
  /-- An edit missed its pattern. -/
  | missed (index : Nat) (pattern : String) (changes : Nat) :
    Refused hook (.patternNotFound index pattern changes)
  /-- A label of the hook was anchored again. -/
  | repeated (own : Label) (belongs : own ∈ hook.ownLabels) :
    Refused hook (.invalidLabels (.duplicate (hook.qualified own)))

theorem Refused.isApplied {outcome : Outcome} (refused : hook.Refused outcome) :
    outcome.isApplied = false := by
  cases refused <;> rfl

theorem Refused.isFailure {outcome : Outcome} (refused : hook.Refused outcome) :
    outcome.isFailure = true := by
  cases refused <;> rfl

/-- Where a hook has been applied it is refused the next time. -/
theorem refused_patch_again (verify : settings.verifyLabels = true)
    (keeps : ∀ pattern code, .replace pattern code ∉ hook.edits) (belongs : own ∈ hook.ownLabels)
    (fresh : hook.qualified own ∉ body.anchors)
    (applied : (hook.patch settings body).verdict.outcome.isApplied = true) :
    hook.Refused
      (hook.patch settings (hook.patch settings body).body).verdict.outcome := by
  have completed := ((settings.isApplied_outcomeOf body _).mp applied).1
  have leaves := patch_body_of_applied applied
  have once := count_qualified_of_applied verify keeps belongs fresh applied
  generalize (hook.patch settings body).body = left at leaves once ⊢
  have ending : settings.Ending left (hook.run settings.naming left)
      (hook.patch settings left).verdict.outcome := settings.ending_outcomeOf left _
  generalize (hook.patch settings left).verdict.outcome = outcome at ending ⊢
  cases ending with
  | missed miss => exact .missed miss.index miss.pattern _
  | faulty again _ fault others found =>
    have new := found.symm ▸ List.mem_cons_self (a := fault) (l := others)
    obtain ⟨own, belongs, rfl⟩ :=
      exists_own_of_faultsBeyond_again keeps completed leaves.symm again new
    exact .repeated own belongs
  | applied again verified =>
    have new := duplicate_mem_faultsBeyond_of_once keeps belongs once again
    rw [verified verify] at new
    cases new

/-! ### Two passes over one class -/

variable {className : ClassName} {met : List String} {methods : MethodTable}

/-- A hook that has been applied at a class comes to the method that it left there. -/
theorem exists_visits_of_applied
    (applied : (hook.visitClass settings className met methods).verdict.outcome.isApplied = true) :
    ∃ method, methods.lookup? (hook.target.nameIn settings.naming) hook.target.descriptor =
        some method ∧
      (hook.patch settings method.body).verdict.outcome.isApplied = true ∧
      (hook.visitClass settings className met
          (hook.visitClass settings className met methods).methods).verdict =
        (hook.patch settings (hook.patch settings method.body).body).verdict := by
  have encounter := encounter_visitClass settings className met hook methods
  generalize hook.visitClass settings className met methods = visit at encounter applied ⊢
  cases encounter with
  | elsewhere | repeated | missing | bodiless => cases applied
  | patched here fresh method found within =>
    have foundAgain := MethodTable.lookup?_setBody found (hook.patch settings method.body).body
    exact ⟨method, found, applied,
      congrArg Visit.verdict (Encounter.patched here fresh _ foundAgain within).visitClass_eq⟩

end Hook

namespace Settings

/-- A hook that replaces nothing and has a label of its own that its target does not anchor is never
applied twice in a row where labels are verified: the second time it misses a pattern, or it is
refused because one of its labels would be anchored again. Under rollback the methods then stay as
the first application left them. -/
theorem dispatch_again (settings : Settings) (className : ClassName) (methods : MethodTable)
    (hook : Hook) (own : Label) (verify : settings.verifyLabels = true)
    (keeps : ∀ pattern code, .replace pattern code ∉ hook.edits) (belongs : own ∈ hook.ownLabels)
    (fresh : ∀ method,
      methods.lookup? (hook.target.nameIn settings.naming) hook.target.descriptor = some method →
        hook.qualified own ∉ method.body.anchors)
    (applied : ∃ verdict ∈ (settings.dispatch className methods [hook]).verdicts,
      verdict.outcome.isApplied = true) :
    let first := settings.dispatch className methods [hook]
    let second := settings.dispatch className first.methods [hook]
    (∃ verdict, second.verdicts = [verdict] ∧ verdict.outcome.isApplied = false ∧
      hook.Refused verdict.outcome ∧ verdict.rolledBack = settings.rollback) ∧
    (settings.rollback = true → second.methods = first.methods) := by
  intro first second
  obtain ⟨verdict, member, applied⟩ := applied
  obtain rfl := List.mem_singleton.mp member
  obtain ⟨method, found, patched, again⟩ := Hook.exists_visits_of_applied applied
  have refused := Hook.refused_patch_again verify keeps belongs (fresh method found) patched
  have rolledBack :
      (hook.patch settings (hook.patch settings method.body).body).verdict.rolledBack =
        settings.rollback := by
    have failed := refused.isFailure
    simp only [Hook.patch] at failed ⊢
    rw [failed, Bool.and_true]
  rw [← again] at refused rolledBack
  refine ⟨⟨_, rfl, refused.isApplied, refused, rolledBack⟩, fun rollback => ?_⟩
  exact Hook.visitClass_methods_of_rollback rollback refused.isApplied

/-- A hook that finds its pattern behind what it has put in, at the second of two methods. The label
of the same name in the body is another one. -/
theorem dispatch_again_label_behind_branch :
    let hook : Hook := {
      name := "guard", target := .unmapped (.of "a.B") "run" "()V"
      edits := [.seekTo (.single ⟨0xb1, .none⟩), .insert [⟨0x99, .jump ⟨"skip"⟩⟩],
        .markLabel ⟨"skip"⟩] }
    let methods : MethodTable := [⟨"stop", "()V", ⟨1⟩, [.anchor ⟨"guard:skip"⟩, ⟨0xb1, .none⟩]⟩,
      ⟨"run", "()V", ⟨1⟩, [.anchor ⟨"skip"⟩, ⟨0xb1, .none⟩]⟩]
    let first := development.dispatch (.of "a/B") methods [hook]
    let second := development.dispatch (.of "a/B") first.methods [hook]
    development.verifyLabels = true ∧ (∀ pattern code, .replace pattern code ∉ hook.edits) ∧
      ⟨"skip"⟩ ∈ hook.ownLabels ∧
      (∃ verdict ∈ first.verdicts, verdict.outcome.isApplied = true) ∧
      (∃ verdict, second.verdicts = [verdict] ∧ verdict.outcome.isApplied = false ∧
        hook.Refused verdict.outcome ∧ verdict.rolledBack = true) ∧
      first.methods ≠ methods ∧ second.methods = first.methods := by
  intro hook methods first second
  have keeps : ∀ pattern code, .replace pattern code ∉ hook.edits := by
    intro pattern code member
    simp [hook] at member
  have belongs : ⟨"skip"⟩ ∈ hook.ownLabels := by decide +kernel
  have fresh : ∀ method, methods.lookup? (hook.target.nameIn development.naming)
      hook.target.descriptor = some method →
        hook.qualified ⟨"skip"⟩ ∉ method.body.anchors := by
    intro method found
    obtain rfl := Option.some.inj ((rfl : methods.lookup? _ _ = _).symm.trans found)
    decide +kernel
  have applied : ∃ verdict ∈ first.verdicts, verdict.outcome.isApplied = true := by decide +kernel
  obtain ⟨refused, stays⟩ :=
    dispatch_again development (.of "a/B") methods hook ⟨"skip"⟩ rfl keeps belongs fresh applied
  exact ⟨rfl, keeps, belongs, applied, refused, by decide +kernel, stays rfl⟩

/-- Without rollback the refused run is left in the body, and the third one repeats a label that is
anchored twice already. -/
example :
    let hook : Hook := {
      name := "guard", target := .unmapped (.of "a.B") "run" "()V", edits := [.markLabel ⟨"skip"⟩] }
    let first := hook.patch .production [⟨0xb1, .none⟩]
    let second := hook.patch .production first.body
    let third := hook.patch .production second.body
    [first, second, third].map (fun patched => patched.verdict.outcome) =
      [.applied 1, .invalidLabels (.duplicate ⟨"guard:skip"⟩), .applied 1] := by
  decide +kernel

end Settings

end MethodPatch
