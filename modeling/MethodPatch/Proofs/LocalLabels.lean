/-
This file says how far the labels of two registered hooks are kept apart.

In a body a label of a hook goes by the name of the hook, a colon and its own name. Neither name is
restricted, so the text may fall into two such parts in more than one way: the label `b:c` of a hook
`a` and the label `c` of a hook `a:b` become one. That is the only way for the labels of two hooks
with different names to meet (`Hook.qualified_eq_qualified`). Where neither name goes on behind the
other and a colon, the two hooks can be applied to the same body in either order, and a label is
anchored twice afterwards only if the body had an anchor of that name before.
-/

import MethodPatch.Proofs.LabelEffect
import MethodPatch.Proofs.RegisteredHooks
import Mathlib.Data.List.Flatten

namespace MethodPatch

namespace Hook

variable {first second hook : Hook} {own other label : Label} {naming : Naming} {body : Body}

/-! ### Names that meet -/

/-- Whether the name of a hook goes on behind the name of another hook and a colon. -/
def Continues (hook other : Hook) : Prop := ∃ rest, hook.name = other.name ++ ":" ++ rest

/-- Whether a label of a hook captures a label of another: the name of the other hook goes on behind
that of the hook, and the label repeats what it goes on with. -/
def Captures (hook : Hook) (own : Label) (other : Hook) (label : Label) : Prop :=
  ∃ rest, other.name = hook.name ++ ":" ++ rest ∧ own.name = rest ++ ":" ++ label.name

theorem Captures.continues (captures : first.Captures own second other) :
    second.Continues first :=
  captures.imp fun _ => And.left

theorem Captures.qualified_eq (captures : first.Captures own second other) :
    first.qualified own = second.qualified other := by
  obtain ⟨rest, longer, repeated⟩ := captures
  rw [qualified, qualified, longer, repeated]
  simp only [String.append_assoc]

/-- The part of the longer name that the shorter one leaves open starts with the colon behind the
shorter name. -/
theorem captures_of_toList (different : first.name ≠ second.name) {gap : List Char}
    (longer : second.name.toList = first.name.toList ++ gap)
    (repeated : ':' :: own.name.toList = gap ++ ':' :: other.name.toList) :
    first.Captures own second other := by
  cases gap with
  | nil =>
    rw [List.append_nil] at longer
    exact absurd (String.toList_inj.mp longer.symm) different
  | cons colon rest =>
    obtain ⟨rfl, split⟩ := List.cons.inj repeated
    refine ⟨String.ofList rest, String.toList_inj.mp ?_, String.toList_inj.mp ?_⟩
    · simp [longer]
    · simp [split]

/-- Labels of two hooks with different names meet only when one captures the other. -/
theorem qualified_eq_qualified (different : first.name ≠ second.name) :
    first.qualified own = second.qualified other ↔
      first.Captures own second other ∨ second.Captures other first own := by
  constructor
  · intro same
    have texts := congrArg (fun label => label.name.toList) same
    simp only [toList_qualified] at texts
    rcases List.append_eq_append_iff.mp texts with ⟨gap, longer, repeated⟩ | ⟨gap, longer, repeated⟩
    · exact Or.inl (captures_of_toList different longer repeated)
    · exact Or.inr (captures_of_toList different.symm longer repeated)
  · rintro (captures | captures)
    · exact captures.qualified_eq
    · exact captures.qualified_eq.symm

/-! ### Anchors of one hook and of two -/

/-- Wherever the run of a hook ends, it has anchored each of its labels at most once. -/
theorem count_anchors_run_le (sound : hook.check = .ok ()) (label : Label) :
    (hook.run naming body).workspace.body.anchors.count label ≤
      body.anchors.count label + if label ∈ hook.anchors.map hook.qualified then 1 else 0 := by
  obtain ⟨windows, _, perm, _⟩ := exists_windows (Nat.le_refl (hook.madeCount naming body))
  have balance := (perm.filterMap Instruction.anchored?).count_eq label
  rw [workspaceAfter_madeCount, ← Body.anchors, ← Body.anchors, Body.anchors_append, Body.anchors_append,
    Scope.anchors_flatMap_brought, List.count_append, List.count_append] at balance
  have within : (((hook.edits.take (hook.madeCount naming body)).flatMap Edit.anchors).map
      (hook.scope naming).label).count label ≤ (hook.anchors.map hook.qualified).count label := by
    rw [← map_label_anchors hook naming, anchors]
    exact (((List.take_sublist _ _).flatMap Edit.anchors).map _).count_le label
  rw [(nodup_map_qualified sound).count] at within
  exact (Nat.le_of_add_right_le balance.le).trans (Nat.add_le_add_left within _)

/-- What a hook leaves of a body is the body or what its run made of it. -/
theorem patch_body (settings : Settings) (hook : Hook) (body : Body) :
    (hook.patch settings body).body = body ∨
      (hook.patch settings body).body = (hook.run settings.naming body).workspace.body := by
  unfold patch
  dsimp only
  split
  · exact Or.inl rfl
  · exact Or.inr rfl

theorem count_anchors_patch_le (settings : Settings) (sound : hook.check = .ok ()) (body : Body)
    (label : Label) :
    (hook.patch settings body).body.anchors.count label ≤
      body.anchors.count label + if label ∈ hook.anchors.map hook.qualified then 1 else 0 := by
  rcases hook.patch_body settings body with kept | changed
  · rw [kept]
    exact Nat.le_add_right _ _
  · rw [changed]
    exact count_anchors_run_le sound label

/-- Two hooks whose labels do not meet anchor no label between them twice. -/
theorem mem_anchors_of_duplicate (settings : Settings) (soundFirst : first.check = .ok ())
    (soundSecond : second.check = .ok ())
    (apart : ∀ own ∈ first.anchors, ∀ other ∈ second.anchors,
      first.qualified own ≠ second.qualified other)
    (twice : .duplicate label ∈
      (second.patch settings (first.patch settings body).body).body.faults) :
    label ∈ body.anchors := by
  rw [Body.duplicate_mem_faults] at twice
  have earlier := count_anchors_patch_le settings soundFirst body label
  have later := count_anchors_patch_le settings soundSecond (first.patch settings body).body label
  have once : ¬ (label ∈ first.anchors.map first.qualified ∧
      label ∈ second.anchors.map second.qualified) := by
    rintro ⟨here, there⟩
    obtain ⟨own, ownMember, rfl⟩ := List.mem_map.mp here
    obtain ⟨other, otherMember, same⟩ := List.mem_map.mp there
    exact apart own ownMember other otherMember same.symm
  refine List.count_pos_iff.mp ?_
  by_cases here : label ∈ first.anchors.map first.qualified
  · rw [if_pos here] at earlier
    rw [if_neg fun there => once ⟨here, there⟩] at later
    omega
  · rw [if_neg here] at earlier
    split at later <;> omega

end Hook

/-! ### Registered hooks -/

namespace Loader

/-- The labels of two hooks that a catalogue has accepted are the same in a body only when one
captures the other. Where the name of neither continues that of the other their labels are
different, and a label that is anchored twice once both hooks are applied was anchored before. -/
theorem labels_of_registered (settings : Settings) (declarations : Option Declarations)
    (commands : List Command) (first second : Hook)
    (firstMember : first ∈ (start (.empty settings declarations)).registered commands)
    (secondMember : second ∈ (start (.empty settings declarations)).registered commands)
    (different : first ≠ second) :
    (∀ own ∈ first.ownLabels, ∀ other ∈ second.ownLabels,
      (first.scope settings.naming).label own = (second.scope settings.naming).label other ↔
        first.Captures own second other ∨ second.Captures other first own) ∧
    (¬ first.Continues second → ¬ second.Continues first →
      (∀ own ∈ first.ownLabels, ∀ other ∈ second.ownLabels,
        (first.scope settings.naming).label own ≠ (second.scope settings.naming).label other) ∧
      ∀ body label, .duplicate label ∈
          (second.patch settings (first.patch settings body).body).body.faults →
        label ∈ body.anchors) := by
  have holds := holds_after (start (.empty settings declarations))
    (.empty settings declarations) commands
  rw [List.nil_append] at holds
  have names : first.name ≠ second.name := fun same =>
    different (List.inj_on_of_nodup_map holds.distinct firstMember secondMember same)
  have meet : ∀ own ∈ first.ownLabels, ∀ other ∈ second.ownLabels,
      (first.scope settings.naming).label own = (second.scope settings.naming).label other ↔
        first.Captures own second other ∨ second.Captures other first own := by
    intro own ownMember other otherMember
    rw [Hook.label_scope_of_mem (Hook.mem_ownLabels.mp ownMember),
      Hook.label_scope_of_mem (Hook.mem_ownLabels.mp otherMember)]
    exact Hook.qualified_eq_qualified names
  refine ⟨meet, fun unlike unlikeBack => ?_⟩
  have uncaptured (own other : Label) :
      ¬ (first.Captures own second other ∨ second.Captures other first own) := by
    rintro (captures | captures)
    · exact unlikeBack captures.continues
    · exact unlike captures.continues
  refine ⟨fun own ownMember other otherMember same =>
    uncaptured own other ((meet own ownMember other otherMember).mp same), fun body label twice => ?_⟩
  refine Hook.mem_anchors_of_duplicate settings (holds.sound first firstMember)
    (holds.sound second secondMember) (fun own _ other _ same => ?_) twice
  exact uncaptured own other ((Hook.qualified_eq_qualified names).mp same)

/-- Two hooks that use the same label in one body. -/
theorem labels_of_registered_same_label :
    let hook (name : String) : Hook := {
      name, target := .unmapped (.of "a.B") "run" "()V"
      edits := [.insert [⟨0x99, .jump ⟨"skip"⟩⟩, ⟨0xb1, .none⟩], .markLabel ⟨"skip"⟩] }
    let commands : List Command := [.register (hook "first"), .register (hook "second")]
    let registered := (start (.empty .production none)).registered commands
    let body : Body := [⟨0xb1, .none⟩]
    registered = [hook "first", hook "second"] ∧ hook "first" ≠ hook "second" ∧
      ¬ (hook "first").Continues (hook "second") ∧ ¬ (hook "second").Continues (hook "first") ∧
      ((hook "first").scope Settings.production.naming).label ⟨"skip"⟩ ≠
        ((hook "second").scope Settings.production.naming).label ⟨"skip"⟩ ∧
      ∀ label, .duplicate label ∉ ((hook "second").patch .production
        ((hook "first").patch .production body).body).body.faults := by
  intro hook commands registered body
  have known : registered = [hook "first", hook "second"] := by decide +kernel
  have different : hook "first" ≠ hook "second" := by decide +kernel
  have unlike : ¬ (hook "first").Continues (hook "second") := by
    rintro ⟨rest, same⟩
    have letters := congrArg String.toList same
    simp [hook] at letters
  have unlikeBack : ¬ (hook "second").Continues (hook "first") := by
    rintro ⟨rest, same⟩
    have letters := congrArg String.toList same
    simp [hook] at letters
  have firstMember : hook "first" ∈ registered := by simp [known]
  have secondMember : hook "second" ∈ registered := by simp [known]
  obtain ⟨apart, single⟩ := (labels_of_registered .production none commands _ _ firstMember
    secondMember different).2 unlike unlikeBack
  refine ⟨known, different, unlike, unlikeBack, ?_, fun label twice => ?_⟩
  · exact apart ⟨"skip"⟩ (by decide +kernel) ⟨"skip"⟩ (by decide +kernel)
  · exact absurd (single body label twice) List.not_mem_nil

/-- Two accepted hooks with different names whose labels are one in a body: the second is refused
for the anchor of the first. -/
theorem labels_of_registered_captured :
    let hook (name label : String) : Hook := {
      name, target := .unmapped (.of "a.B") "run" "()V", edits := [.markLabel ⟨label⟩] }
    let commands : List Command := [.register (hook "a" "b:c"), .register (hook "a:b" "c")]
    let first := hook "a" "b:c"
    let second := hook "a:b" "c"
    let patched := second.patch .production (first.patch .production [⟨0xb1, .none⟩]).body
    (start (.empty .production none)).registered commands = [first, second] ∧
      first.name ≠ second.name ∧ ⟨"b:c"⟩ ∈ first.ownLabels ∧ ⟨"c"⟩ ∈ second.ownLabels ∧
      (first.scope Settings.production.naming).label ⟨"b:c"⟩ =
        (second.scope Settings.production.naming).label ⟨"c"⟩ ∧
      patched.body.faults = [.duplicate ⟨"a:b:c"⟩] ∧
      patched.verdict.outcome = .invalidLabels (.duplicate ⟨"a:b:c"⟩) := by
  decide +kernel

end Loader

end MethodPatch
