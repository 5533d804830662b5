/-
This file says which labels of a body are at fault, in terms of its anchors and branches alone.

`Body.faults` and `Body.offsets` look at the labels in different ways: one gathers all faults, the
other stops at the first. Both accept the same bodies, those with sound labels
(`Body.SoundLabels`): no label is anchored twice, and every label branched to is anchored.

The faults of a body are listed in ascending order. Of those that another body does not have, the
first in the list is therefore the least one (`Body.FirstNewFault`).
-/

import MethodPatch.Body.Labels
import Mathlib.Data.List.Nodup

namespace MethodPatch

/-! ### The order of faults -/

namespace LabelFault

@[simp] theorem duplicate_lt_duplicate {first second : Label} :
    duplicate first < duplicate second ↔ first < second :=
  decide_eq_true_iff

@[simp] theorem undefined_lt_undefined {first second : Label} :
    undefined first < undefined second ↔ first < second :=
  decide_eq_true_iff

@[simp] theorem duplicate_lt_undefined (first second : Label) :
    duplicate first < undefined second :=
  rfl

@[simp] theorem not_undefined_lt_duplicate (first second : Label) :
    ¬ undefined first < duplicate second :=
  Bool.false_ne_true

end LabelFault

instance : Trans (α := Label) (· < ·) (· < ·) (· < ·) := ⟨String.lt_trans⟩

instance : Std.Asymm (α := Label) (· < ·) := ⟨fun _ _ => String.lt_asymm⟩

instance : Std.Trichotomous (α := Label) (· < ·) where
  trichotomous _ _ notSmaller notLarger :=
    congrArg Label.mk (Std.Trichotomous.trichotomous (r := (· < ·)) _ _ notSmaller notLarger)

instance : Trans (α := LabelFault) (· < ·) (· < ·) (· < ·) where
  trans {first second third} left right := by
    cases first <;> cases second <;> cases third <;> simp at left right ⊢
    · exact Trans.trans left right
    · exact Trans.trans left right

instance : Std.Asymm (α := LabelFault) (· < ·) where
  asymm first second smaller larger := by
    cases first <;> cases second <;> simp at smaller larger
    · exact Std.Asymm.asymm _ _ smaller larger
    · exact Std.Asymm.asymm _ _ smaller larger

instance : Std.Trichotomous (α := LabelFault) (· < ·) where
  trichotomous first second notSmaller notLarger := by
    cases first <;> cases second <;> simp at notSmaller notLarger ⊢
    · exact Std.Trichotomous.trichotomous _ _ notSmaller notLarger
    · exact Std.Trichotomous.trichotomous _ _ notSmaller notLarger

namespace Body

variable {body baseline : Body} {label : Label}

/-! ### Anchors and branches of joined code -/

theorem anchors_append (first second : Body) :
    (first ++ second).anchors = first.anchors ++ second.anchors :=
  List.filterMap_append ..

theorem targets_append (first second : Body) :
    (first ++ second).targets = first.targets ++ second.targets :=
  List.filterMap_append ..

/-! ### The members of the set of faults -/

theorem duplicate_mem_faults :
    LabelFault.duplicate label ∈ body.faults ↔ 1 < body.anchors.count label := by
  simp only [faults, Ascending.mem_ofList, List.mem_append, List.mem_map, List.mem_filter,
    decide_eq_true_eq, reduceCtorEq, and_false, exists_false, or_false]
  constructor
  · rintro ⟨other, ⟨_, repeated⟩, equal⟩
    rwa [← LabelFault.duplicate.inj equal]
  · intro repeated
    have anchored : label ∈ body.anchors := List.count_pos_iff.mp (by omega)
    exact ⟨label, ⟨anchored, repeated⟩, rfl⟩

theorem undefined_mem_faults :
    LabelFault.undefined label ∈ body.faults ↔ label ∈ body.targets ∧ label ∉ body.anchors := by
  simp only [faults, Ascending.mem_ofList, List.mem_append, List.mem_map, List.mem_filter,
    decide_eq_true_eq, reduceCtorEq, and_false, exists_false, false_or]
  constructor
  · rintro ⟨other, missing, equal⟩
    rwa [← LabelFault.undefined.inj equal]
  · intro missing
    exact ⟨label, missing, rfl⟩

theorem faultsBeyond_eq_nil : body.faultsBeyond baseline = [] ↔ body.faults ⊆ baseline.faults := by
  simp only [faultsBeyond, List.filter_eq_nil_iff, decide_eq_true_eq, not_not]
  rfl

/-! ### The first new fault -/

/-- Whether a fault is the least of those that a body has and the baseline does not. -/
structure FirstNewFault (body baseline : Body) (fault : LabelFault) : Prop where
  found : fault ∈ body.faults
  new : fault ∉ baseline.faults
  least : ∀ other ∈ body.faults, other ∉ baseline.faults → other = fault ∨ fault < other

theorem mem_faultsBeyond {fault : LabelFault} :
    fault ∈ body.faultsBeyond baseline ↔ fault ∈ body.faults ∧ fault ∉ baseline.faults := by
  rw [faultsBeyond, List.mem_filter, decide_eq_true_iff]

theorem pairwise_faults (body : Body) : body.faults.Pairwise (· < ·) :=
  Ascending.pairwise_ofList _

theorem pairwise_faultsBeyond (body baseline : Body) :
    (body.faultsBeyond baseline).Pairwise (· < ·) :=
  (pairwise_faults body).filter _

/-- The faults beyond a baseline start with the least of them. -/
theorem head?_faultsBeyond {fault : LabelFault} :
    (body.faultsBeyond baseline).head? = some fault ↔ body.FirstNewFault baseline fault := by
  rw [Ascending.head?_eq_some_iff (pairwise_faultsBeyond body baseline)]
  simp only [mem_faultsBeyond, and_imp]
  constructor
  · rintro ⟨⟨found, new⟩, least⟩
    exact ⟨found, new, least⟩
  · intro first
    exact ⟨⟨first.found, first.new⟩, first.least⟩

/-! ### Sound labels -/

/-- No label is anchored twice, and every label branched to is anchored. -/
structure SoundLabels (body : Body) : Prop where
  distinct : body.anchors.Nodup
  defined : body.targets ⊆ body.anchors

theorem faults_eq_nil : body.faults = [] ↔ body.SoundLabels := by
  rw [List.eq_nil_iff_forall_not_mem]
  constructor
  · intro none
    refine ⟨List.nodup_iff_count_le_one.mpr fun label => ?_, fun label branched => ?_⟩
    · exact Nat.not_lt.mp fun repeated => none _ (duplicate_mem_faults.mpr repeated)
    · by_contra missing
      exact none _ (undefined_mem_faults.mpr ⟨branched, missing⟩)
  · intro sound fault member
    cases fault with
    | duplicate label =>
      have once := List.nodup_iff_count_le_one.mp sound.distinct label
      exact absurd (duplicate_mem_faults.mp member) (Nat.not_lt.mpr once)
    | undefined label =>
      obtain ⟨branched, missing⟩ := undefined_mem_faults.mp member
      exact missing (sound.defined branched)

/-- No label repeats an earlier one when all are different and none has been seen before. -/
theorem firstRepeat?_eq_none (seen labels : List Label) :
    firstRepeat? seen labels = none ↔ labels.Nodup ∧ ∀ label ∈ labels, label ∉ seen := by
  induction labels generalizing seen with
  | nil => simp [firstRepeat?]
  | cons label rest inductionHypothesis =>
    rw [firstRepeat?, List.nodup_cons, List.forall_mem_cons]
    by_cases again : label ∈ seen
    · simp [again]
    · rw [if_neg again, inductionHypothesis]
      constructor
      · rintro ⟨distinct, fresh⟩
        refine ⟨⟨fun later => fresh label later List.mem_cons_self, distinct⟩, again, ?_⟩
        exact fun other member seenBefore =>
          fresh other member (List.mem_cons_of_mem _ seenBefore)
      · rintro ⟨⟨absent, distinct⟩, _, fresh⟩
        refine ⟨distinct, fun other member => ?_⟩
        rw [List.mem_cons, not_or]
        exact ⟨fun same => absent (same ▸ member), fresh other member⟩

theorem exists_offsets : (∃ offsets, body.offsets = .ok offsets) ↔ body.SoundLabels := by
  unfold offsets
  cases repeated : firstRepeat? [] body.anchors with
  | some label =>
    refine ⟨fun ⟨_, impossible⟩ => (nomatch impossible), fun sound => ?_⟩
    have none := (firstRepeat?_eq_none [] body.anchors).mpr ⟨sound.distinct, by simp⟩
    exact nomatch repeated.symm.trans none
  | none =>
    have distinct := ((firstRepeat?_eq_none [] body.anchors).mp repeated).1
    cases missing : body.targets.find? fun label => label ∉ body.anchors with
    | some label =>
      refine ⟨fun ⟨_, impossible⟩ => (nomatch impossible), fun sound => ?_⟩
      have branched := List.mem_of_find?_eq_some missing
      have undefined : label ∉ body.anchors := by simpa using List.find?_some missing
      exact absurd (sound.defined branched) undefined
    | none =>
      refine ⟨fun _ => ⟨distinct, fun label branched => ?_⟩, fun _ => ⟨_, rfl⟩⟩
      simpa using List.find?_eq_none.mp missing label branched

/-- The two ways of looking at the labels of a body agree on whether something is wrong. -/
theorem exists_offsets_iff_faults : (∃ offsets, body.offsets = .ok offsets) ↔ body.faults = [] :=
  exists_offsets.trans faults_eq_nil.symm

end Body

end MethodPatch
