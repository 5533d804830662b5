/-
This file says which label faults a hook adds to a body.

Only the labels a hook anchors are renamed, and its branches to them are renamed alike. So the
anchors of the body afterwards are those before and the renamed labels of the hook, and the same
goes for the branches. A hook without replacements takes no anchor away, so it can only make a
label anchored twice that the body anchors once under the renamed name, and it can only branch to
a label that is neither its own nor anchored in the body.
-/

import MethodPatch.Proofs.Acceptance
import MethodPatch.Proofs.Conservation
import MethodPatch.Proofs.Visit

namespace MethodPatch

/-! ### Renamed code -/

namespace Scope

variable (scope : Scope)

theorem anchored?_instruction (instruction : Instruction) :
    (scope.instruction instruction).anchored? = instruction.anchored?.map scope.label := by
  obtain ⟨opcode, operand⟩ := instruction
  cases operand with
  | mapped member =>
    obtain ⟨kind⟩ := member
    cases kind <;> rfl
  | _ => rfl

theorem target?_instruction (instruction : Instruction) :
    (scope.instruction instruction).target? = instruction.target?.map scope.label := by
  obtain ⟨opcode, operand⟩ := instruction
  cases operand with
  | mapped member =>
    obtain ⟨kind⟩ := member
    cases kind <;> rfl
  | _ => rfl

theorem anchors_code (code : Body) : (scope.code code).anchors = code.anchors.map scope.label := by
  rw [Scope.code, Body.anchors, List.filterMap_map, Body.anchors, List.map_filterMap]
  exact List.filterMap_congr fun instruction _ => scope.anchored?_instruction instruction

theorem targets_code (code : Body) : (scope.code code).targets = code.targets.map scope.label := by
  rw [Scope.code, Body.targets, List.filterMap_map, Body.targets, List.map_filterMap]
  exact List.filterMap_congr fun instruction _ => scope.target?_instruction instruction

theorem anchors_brought (edit : Edit) :
    (scope.brought edit).anchors = edit.anchors.map scope.label := by
  cases edit with
  | seekToStart | seekTo | seekPast | markLabel => rfl
  | insert code => exact scope.anchors_code code
  | replace pattern code => exact scope.anchors_code code

theorem targets_brought (edit : Edit) :
    (scope.brought edit).targets = edit.code.targets.map scope.label := by
  cases edit with
  | seekToStart | seekTo | seekPast | markLabel => rfl
  | insert code => exact scope.targets_code code
  | replace pattern code => exact scope.targets_code code

theorem anchors_flatMap_brought (edits : List Edit) :
    (Body.anchors (edits.flatMap scope.brought)) = (edits.flatMap Edit.anchors).map scope.label := by
  induction edits with
  | nil => rfl
  | cons edit rest inductionHypothesis =>
    rw [List.flatMap_cons, Body.anchors_append, inductionHypothesis, anchors_brought,
      List.flatMap_cons, List.map_append]

theorem targets_flatMap_brought (edits : List Edit) :
    (Body.targets (edits.flatMap scope.brought)) =
      (edits.flatMap fun edit => edit.code.targets).map scope.label := by
  induction edits with
  | nil => rfl
  | cons edit rest inductionHypothesis =>
    rw [List.flatMap_cons, Body.targets_append, inductionHypothesis, targets_brought,
      List.flatMap_cons, List.map_append]

end Scope

/-! ### The labels of a hook -/

namespace Hook

variable {hook : Hook} {naming : Naming} {body : Body} {label : Label}

/-- The labels that the code of a hook branches to, in order and as often as it does. -/
def targets (hook : Hook) : List Label := hook.edits.flatMap fun edit => edit.code.targets

/-- A label behind the name of a hook. -/
def qualified (hook : Hook) (label : Label) : Label := ⟨hook.name ++ ":" ++ label.name⟩

theorem toList_qualified (hook : Hook) (label : Label) :
    (hook.qualified label).name.toList = hook.name.toList ++ ':' :: label.name.toList := by
  rw [qualified, String.toList_append, String.toList_append, List.append_assoc]
  rfl

theorem qualified_injective (hook : Hook) : Function.Injective hook.qualified := by
  intro first second same
  have names := congrArg (fun label => label.name.toList) same
  simp only [toList_qualified] at names
  have texts := String.toList_inj.mp (List.cons.inj (List.append_cancel_left names)).2
  cases first
  exact congrArg Label.mk texts

theorem mem_ownLabels : label ∈ hook.ownLabels ↔ label ∈ hook.anchors := Ascending.mem_ofList

theorem label_scope_of_mem (own : label ∈ hook.anchors) :
    (hook.scope naming).label label = hook.qualified label := if_pos own

theorem label_scope_of_not_mem (naming : Naming) (foreign : label ∉ hook.anchors) :
    (hook.scope naming).label label = label := if_neg foreign

theorem map_label_anchors (hook : Hook) (naming : Naming) :
    hook.anchors.map (hook.scope naming).label = hook.anchors.map hook.qualified :=
  List.map_congr_left fun _ own => label_scope_of_mem own

theorem nodup_map_qualified (sound : hook.check = .ok ()) :
    (hook.anchors.map hook.qualified).Nodup :=
  ((check_eq_ok hook).mp sound).2.2.map hook.qualified_injective

/-- The anchors of a body after a completed run without replacements. -/
theorem anchors_run_perm (keeps : ∀ pattern code, .replace pattern code ∉ hook.edits)
    (completed : (hook.run naming body).miss = none) :
    (hook.run naming body).workspace.body.anchors.Perm
      (body.anchors ++ hook.anchors.map hook.qualified) := by
  have perm := (hook.run_perm naming body keeps completed).filterMap Instruction.anchored?
  rw [← Body.anchors, ← Body.anchors, Body.anchors_append, Scope.anchors_flatMap_brought] at perm
  rwa [← map_label_anchors hook naming]

theorem targets_run_perm (keeps : ∀ pattern code, .replace pattern code ∉ hook.edits)
    (completed : (hook.run naming body).miss = none) :
    (hook.run naming body).workspace.body.targets.Perm
      (body.targets ++ hook.targets.map (hook.scope naming).label) := by
  have perm := (hook.run_perm naming body keeps completed).filterMap Instruction.target?
  rwa [← Body.targets, ← Body.targets, Body.targets_append, Scope.targets_flatMap_brought] at perm

/-! ### Faults -/

/-- The faults that a hook adds to the labels of a body. -/
inductive AddsFault (hook : Hook) (body : Body) : LabelFault → Prop where
  /-- The body anchors a label of the hook once under the name that the hook gives it. -/
  | duplicate (own : Label) (belongs : own ∈ hook.ownLabels)
      (once : body.anchors.count (hook.qualified own) = 1) :
    AddsFault hook body (.duplicate (hook.qualified own))
  /-- The hook branches to a label that neither the hook nor the body anchors, and the body has no
  branch to it. -/
  | undefined (target : Label) (branched : target ∈ hook.targets)
      (foreign : target ∉ hook.ownLabels)
      (unqualified : ∀ own ∈ hook.ownLabels, target ≠ hook.qualified own)
      (unanchored : target ∉ body.anchors) (fresh : target ∉ body.targets) :
    AddsFault hook body (.undefined target)

/-- An own label is anchored once more than before, and any other as often as before. -/
theorem count_anchors_run (sound : hook.check = .ok ())
    (keeps : ∀ pattern code, .replace pattern code ∉ hook.edits)
    (completed : (hook.run naming body).miss = none) (label : Label) :
    (hook.run naming body).workspace.body.anchors.count label =
      body.anchors.count label + if label ∈ hook.anchors.map hook.qualified then 1 else 0 := by
  rw [(anchors_run_perm keeps completed).count_eq, List.count_append]
  congr 1
  exact (nodup_map_qualified sound).count

theorem duplicate_mem_faultsBeyond_run (sound : hook.check = .ok ())
    (keeps : ∀ pattern code, .replace pattern code ∉ hook.edits)
    (completed : (hook.run naming body).miss = none) (label : Label) :
    .duplicate label ∈ (hook.run naming body).workspace.body.faultsBeyond body ↔
      hook.AddsFault body (.duplicate label) := by
  rw [Body.faultsBeyond, List.mem_filter, Body.duplicate_mem_faults,
    count_anchors_run sound keeps completed, decide_eq_true_iff, Body.duplicate_mem_faults]
  constructor
  · rintro ⟨repeated, before⟩
    split at repeated
    · next member =>
      obtain ⟨own, belongs, rfl⟩ := List.mem_map.mp member
      exact .duplicate own (mem_ownLabels.mpr belongs) (by omega)
    · exact absurd repeated before
  · rintro ⟨own, belongs, once⟩
    have member := List.mem_map_of_mem (f := hook.qualified) (mem_ownLabels.mp belongs)
    rw [if_pos member, once]
    omega

theorem undefined_mem_faultsBeyond_run
    (keeps : ∀ pattern code, .replace pattern code ∉ hook.edits)
    (completed : (hook.run naming body).miss = none) (label : Label) :
    .undefined label ∈ (hook.run naming body).workspace.body.faultsBeyond body ↔
      hook.AddsFault body (.undefined label) := by
  rw [Body.faultsBeyond, List.mem_filter, Body.undefined_mem_faults, decide_eq_true_iff,
    Body.undefined_mem_faults, (anchors_run_perm keeps completed).mem_iff,
    (targets_run_perm keeps completed).mem_iff, List.mem_append, List.mem_append, not_or]
  constructor
  · rintro ⟨⟨branched, unanchored, unqualified⟩, before⟩
    have fresh : label ∉ body.targets := fun there => before ⟨there, unanchored⟩
    obtain ⟨target, member, renamed⟩ := List.mem_map.mp (branched.resolve_left fresh)
    -- A branch to an own label goes to its renamed anchor, so the target is not an own label.
    have foreign : target ∉ hook.anchors := fun own =>
      unqualified (List.mem_map.mpr ⟨target, own, (label_scope_of_mem own).symm.trans renamed⟩)
    obtain rfl : target = label := (label_scope_of_not_mem naming foreign).symm.trans renamed
    refine .undefined target member (mem_ownLabels.not.mpr foreign) ?_ unanchored fresh
    exact fun own belongs same =>
      unqualified (List.mem_map.mpr ⟨own, mem_ownLabels.mp belongs, same.symm⟩)
  · intro adds
    cases adds with
    | undefined _ branched foreign unqualified unanchored fresh =>
      have renamed := label_scope_of_not_mem naming (mem_ownLabels.not.mp foreign)
      refine ⟨⟨Or.inr (List.mem_map.mpr ⟨label, branched, renamed⟩), unanchored, ?_⟩,
        fun before => fresh before.1⟩
      intro member
      obtain ⟨own, belongs, same⟩ := List.mem_map.mp member
      exact unqualified own (mem_ownLabels.mpr belongs) same.symm

/-- The faults that a completed run of an accepted hook without replacements adds to a body are
known from the hook and the body alone, and where labels are verified the hook is applied exactly
when there are none. -/
theorem mem_faultsBeyond_run (settings : Settings) (hook : Hook) (body : Body)
    (sound : hook.check = .ok ()) (keeps : ∀ pattern code, .replace pattern code ∉ hook.edits)
    (completed : (hook.run settings.naming body).miss = none) :
    (∀ fault, fault ∈ (hook.run settings.naming body).workspace.body.faultsBeyond body ↔
      hook.AddsFault body fault) ∧
    (settings.verifyLabels = true →
      ((hook.patch settings body).verdict.outcome.isApplied = true ↔
        ∀ fault, ¬ hook.AddsFault body fault)) := by
  have added : ∀ fault,
      fault ∈ (hook.run settings.naming body).workspace.body.faultsBeyond body ↔
        hook.AddsFault body fault := by
    intro fault
    cases fault with
    | duplicate label => exact duplicate_mem_faultsBeyond_run sound keeps completed label
    | undefined label => exact undefined_mem_faultsBeyond_run keeps completed label
  refine ⟨added, fun verify => ?_⟩
  have applied : (hook.patch settings body).verdict.outcome.isApplied = true ↔ _ :=
    settings.isApplied_outcomeOf body (hook.run settings.naming body)
  rw [applied, and_iff_right completed, imp_iff_right verify, List.eq_nil_iff_forall_not_mem]
  exact forall_congr' fun fault => not_congr (added fault)

/-- A hook whose own label the body already anchors under its qualified name, and which branches
to a label that nothing anchors. -/
theorem mem_faultsBeyond_run_captured_label :
    let hook : Hook := {
      name := "guard", target := .unmapped (.of "a.B") "run" "()V"
      edits := [.seekTo (.single ⟨0xb1, .none⟩),
        .insert [⟨0x99, .jump ⟨"skip"⟩⟩, ⟨0xa7, .jump ⟨"out"⟩⟩, .anchor ⟨"skip"⟩],
        .markLabel ⟨"end"⟩] }
    let body : Body := [.anchor ⟨"guard:end"⟩, ⟨0xa7, .jump ⟨"guard:end"⟩⟩, ⟨0xb1, .none⟩]
    hook.check = .ok () ∧ (∀ pattern code, .replace pattern code ∉ hook.edits) ∧
      (hook.run Settings.development.naming body).miss = none ∧
      Settings.development.verifyLabels = true ∧
      hook.AddsFault body (.duplicate ⟨"guard:end"⟩) ∧
      hook.AddsFault body (.undefined ⟨"out"⟩) ∧
      ¬ hook.AddsFault body (.undefined ⟨"skip"⟩) ∧
      (hook.patch .development body).verdict.outcome.isApplied = false := by
  intro hook body
  have sound : hook.check = .ok () := by
    have accepted : hook.check.isOk = true := by decide +kernel
    cases checked : hook.check with
    | error error => rw [checked] at accepted; cases accepted
    | ok => rfl
  have keeps : ∀ pattern code, .replace pattern code ∉ hook.edits := by
    intro pattern code member
    simp [hook] at member
  have completed : (hook.run Settings.development.naming body).miss = none := by decide +kernel
  obtain ⟨added, applied⟩ := mem_faultsBeyond_run .development hook body sound keeps completed
  have undefined := (added (.undefined ⟨"out"⟩)).mp (by decide +kernel)
  refine ⟨sound, keeps, completed, rfl, (added _).mp (by decide +kernel), undefined,
    (added _).not.mp (by decide +kernel), ?_⟩
  exact Bool.eq_false_iff.mpr fun yes => (applied rfl).mp yes _ undefined

end Hook

end MethodPatch
