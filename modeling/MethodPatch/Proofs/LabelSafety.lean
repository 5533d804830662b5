/-
This file proves that a pass which verifies labels and rolls back failures adds no label fault.

A hook that is applied leaves a body without faults beyond those it found, since the faults were
compared, and a hook that fails leaves the body it found. So no hook adds a fault to any method,
and neither do all hooks of a list together, in whatever order they put in and take out anchors
and branches.
-/

import MethodPatch.Proofs.Faults
import MethodPatch.Proofs.Visit

namespace MethodPatch

/-- A method and what has become of it: it has the same name, descriptor and access flags, and no
label fault that it did not have before. -/
structure Method.NoNewFault (before after : Method) : Prop where
  name : after.name = before.name
  descriptor : after.descriptor = before.descriptor
  access : after.access = before.access
  faults : after.body.faults ⊆ before.body.faults

namespace Method.NoNewFault

theorem refl (method : Method) : NoNewFault method method :=
  ⟨rfl, rfl, rfl, List.Subset.refl _⟩

theorem trans {first second third : Method} (left : NoNewFault first second)
    (right : NoNewFault second third) : NoNewFault first third :=
  ⟨right.name.trans left.name, right.descriptor.trans left.descriptor,
    right.access.trans left.access, List.Subset.trans right.faults left.faults⟩

end Method.NoNewFault

variable {settings : Settings}

theorem Hook.faults_patch_subset (hook : Hook) (verify : settings.verifyLabels = true)
    (rollback : settings.rollback = true) (body : Body) :
    (hook.patch settings body).body.faults ⊆ body.faults := by
  cases applied : (hook.patch settings body).verdict.outcome.isApplied with
  | true =>
    obtain ⟨_, verified⟩ :=
      (settings.isApplied_outcomeOf body (hook.run settings.naming body)).mp applied
    rw [patch_body_of_applied applied]
    exact Body.faultsBeyond_eq_nil.mp (verified verify)
  | false =>
    rw [patch_body_of_rollback rollback applied]
    exact List.Subset.refl _

/-- No hook of a list adds a fault to any method. -/
theorem Settings.forall₂_noNewFault_passFrom (verify : settings.verifyLabels = true)
    (rollback : settings.rollback = true) (className : ClassName) (met : List String)
    (hooks : List Hook) (methods : MethodTable) :
    List.Forall₂ Method.NoNewFault methods
      (settings.passFrom className met hooks methods).methods :=
  settings.forall₂_passFrom className Method.NoNewFault.refl
    (fun _ _ _ => Method.NoNewFault.trans)
    (fun hook method => ⟨rfl, rfl, rfl, hook.faults_patch_subset verify rollback method.body⟩)
    met hooks methods

/-- Under rollback and verification a pass adds no label fault to any method, and if the labels
of every body had offsets before it, they have after it. -/
theorem Settings.dispatch_adds_no_fault (settings : Settings) (className : ClassName)
    (methods : MethodTable) (hooks : List Hook) (verify : settings.verifyLabels = true)
    (rollback : settings.rollback = true) :
    List.Forall₂ Method.NoNewFault methods (settings.dispatch className methods hooks).methods ∧
      ((∀ method ∈ methods, ∃ offsets, method.body.offsets = .ok offsets) →
        ∀ method ∈ (settings.dispatch className methods hooks).methods,
          ∃ offsets, method.body.offsets = .ok offsets) := by
  have kept := forall₂_noNewFault_passFrom verify rollback className [] hooks methods
  refine ⟨kept, fun sound method member => ?_⟩
  obtain ⟨before, beforeMember, noNewFault⟩ := MethodTable.exists_mem_of_forall₂ kept member
  have faultless := Body.exists_offsets_iff_faults.mp (sound before beforeMember)
  have nothing : method.body.faults ⊆ [] := faultless ▸ noNewFault.faults
  exact Body.exists_offsets_iff_faults.mpr (List.subset_nil.mp nothing)

/-- Two hooks for a method that branches to its own anchor: the first takes the anchor out and is
rolled back, the second brings a branch and an anchor of its own and is applied. -/
theorem Settings.dispatch_adds_no_fault_anchor_cut :
    let target := MappedMember.unmapped (.of "a.B") "run" "()V"
    let hooks : List Hook := [
      { name := "cut", target, edits := [.remove (.single (.anchor ⟨"end"⟩))] },
      { name := "leap", target, edits := [.insert [⟨0xa7, .jump ⟨"end"⟩⟩], .markLabel ⟨"end"⟩] }]
    let methods : MethodTable :=
      [⟨"run", "()V", ⟨1⟩, [⟨0xa7, .jump ⟨"end"⟩⟩, .anchor ⟨"end"⟩, ⟨0xb1, .none⟩]⟩]
    let pass := development.dispatch (.of "a/B") methods hooks
    development.verifyLabels = true ∧ development.rollback = true ∧
      pass.verdicts.map Verdict.outcome =
        [.invalidLabels (.undefined ⟨"end"⟩), .applied 2] ∧
      (∀ method ∈ methods, ∃ offsets, method.body.offsets = .ok offsets) ∧
      List.Forall₂ Method.NoNewFault methods pass.methods ∧
      ∀ method ∈ pass.methods, ∃ offsets, method.body.offsets = .ok offsets := by
  intro target hooks methods pass
  have sound : ∀ method ∈ methods, ∃ offsets, method.body.offsets = .ok offsets := by
    intro method member
    rw [List.mem_singleton.mp member]
    exact ⟨[(⟨"end"⟩, 1)], by decide +kernel⟩
  obtain ⟨noNewFault, resolvable⟩ :=
    dispatch_adds_no_fault development (.of "a/B") methods hooks rfl rfl
  exact ⟨rfl, rfl, by decide +kernel, sound, noNewFault, resolvable sound⟩

end MethodPatch
