/-
This file proves that the two readings of the labels of a body find the same faults.

Gathering faults comes to the set of all faults, whatever the order of the instructions, because
what is remembered of the anchors is exactly which labels were met. Noting offsets stops at the first
fault it meets (`Body.Reports`): the earliest anchor that repeats one before it, and only where no
anchor does so, the earliest branch without an anchor. That fault is one of those gathered, so one
reading succeeds exactly when the other finds nothing.
-/

import MethodPatch.Body.Survey
import MethodPatch.Proofs.Faults
import Mathlib.Data.List.Sort

namespace MethodPatch

/-! ### Gathering faults -/

namespace LabelSurvey

variable (survey : LabelSurvey) (labels : List Label) {label : Label}

theorem mem_met_anchors :
    label ∈ (labels.foldl meetAnchor survey).met ↔ label ∈ survey.met ∨ label ∈ labels := by
  induction labels generalizing survey with
  | nil => simp
  | cons head rest inductionHypothesis =>
    rw [List.foldl_cons, inductionHypothesis, meetAnchor, List.mem_cons]
    split
    · next again =>
      constructor
      · exact Or.imp_right Or.inr
      · rintro (before | rfl | later)
        · exact Or.inl before
        · exact Or.inl again
        · exact Or.inr later
    · rw [List.mem_cons, or_assoc, or_left_comm]

/-- A label is a duplicate when an anchor of it is met after another one. -/
theorem duplicate_mem_faults_anchors :
    .duplicate label ∈ (labels.foldl meetAnchor survey).faults ↔
      .duplicate label ∈ survey.faults ∨ (label ∈ survey.met ∧ label ∈ labels) ∨
        1 < labels.count label := by
  induction labels generalizing survey with
  | nil => simp
  | cons head rest inductionHypothesis =>
    rw [List.foldl_cons, inductionHypothesis, meetAnchor, List.mem_cons, List.count_cons]
    have present := List.count_pos_iff (a := label) (l := rest)
    by_cases again : head ∈ survey.met
    · rw [if_pos again, Ascending.mem_insert, LabelFault.duplicate.injEq]
      by_cases same : label = head
      · subst same
        simp [again]
      · simp [same, Ne.symm same]
    · rw [if_neg again]
      by_cases same : label = head
      · subst same
        have once : label ∈ rest ∨ 1 < rest.count label ↔ 1 < rest.count label + 1 := by
          rw [← present]
          omega
        simpa [again] using or_congr_right once
      · simp [same, Ne.symm same]

theorem undefined_mem_faults_anchors :
    .undefined label ∈ (labels.foldl meetAnchor survey).faults ↔
      .undefined label ∈ survey.faults := by
  induction labels generalizing survey with
  | nil => rfl
  | cons head rest inductionHypothesis =>
    rw [List.foldl_cons, inductionHypothesis, meetAnchor]
    split
    · simp [Ascending.mem_insert]
    · rfl

theorem mem_faults_branches {fault : LabelFault} :
    fault ∈ (labels.foldl meetBranch survey).faults ↔
      fault ∈ survey.faults ∨
        ∃ target ∈ labels, target ∉ survey.met ∧ fault = .undefined target := by
  induction labels generalizing survey with
  | nil => simp
  | cons head rest inductionHypothesis =>
    rw [List.foldl_cons, inductionHypothesis, meetBranch]
    split
    · next known => simp [known]
    · next missing => simp [missing, Ascending.mem_insert, or_left_comm, or_assoc]

theorem pairwise_faults_anchors (ordered : survey.faults.Pairwise (· < ·)) :
    (labels.foldl meetAnchor survey).faults.Pairwise (· < ·) := by
  induction labels generalizing survey with
  | nil => exact ordered
  | cons head rest inductionHypothesis =>
    refine inductionHypothesis _ ?_
    rw [meetAnchor]
    split
    · exact Ascending.pairwise_insert _ ordered
    · exact ordered

theorem pairwise_faults_branches (ordered : survey.faults.Pairwise (· < ·)) :
    (labels.foldl meetBranch survey).faults.Pairwise (· < ·) := by
  induction labels generalizing survey with
  | nil => exact ordered
  | cons head rest inductionHypothesis =>
    refine inductionHypothesis _ ?_
    rw [meetBranch]
    split
    · exact ordered
    · exact Ascending.pairwise_insert _ ordered

end LabelSurvey

namespace Body

variable {body other : Body} {label : Label} {position place : Nat}

/-- A reading of the whole body finds all that is wrong with its labels. -/
theorem surveyFaults_eq (body : Body) : body.surveyFaults = body.faults := by
  have ordered : body.surveyFaults.Pairwise (· < ·) :=
    LabelSurvey.pairwise_faults_branches _ _ (LabelSurvey.pairwise_faults_anchors _ _ .nil)
  refine ordered.eq_of_mem_iff (pairwise_faults body) fun fault => ?_
  rw [surveyFaults, LabelSurvey.mem_faults_branches]
  simp only [LabelSurvey.mem_met_anchors]
  cases fault with
  | duplicate label =>
    rw [duplicate_mem_faults, LabelSurvey.duplicate_mem_faults_anchors]
    simp [LabelSurvey.start]
  | undefined label =>
    rw [undefined_mem_faults, LabelSurvey.undefined_mem_faults_anchors]
    simp [LabelSurvey.start]

/-- Where the instructions stand makes no difference to what is wrong with their labels. -/
theorem faults_of_perm (same : other.Perm body) : other.faults = body.faults := by
  have anchors : other.anchors.Perm body.anchors := same.filterMap _
  have targets : other.targets.Perm body.targets := same.filterMap _
  refine (pairwise_faults other).eq_of_mem_iff (pairwise_faults body) fun fault => ?_
  cases fault with
  | duplicate label => rw [duplicate_mem_faults, duplicate_mem_faults, anchors.count_eq]
  | undefined label =>
    rw [undefined_mem_faults, undefined_mem_faults, anchors.mem_iff, targets.mem_iff]

/-! ### Noting offsets -/

theorem map_fst_offsetsFrom (position : Nat) (body : Body) :
    (offsetsFrom position body).map Prod.fst = body.anchors := by
  induction body generalizing position with
  | nil => rfl
  | cons instruction rest inductionHypothesis =>
    rw [offsetsFrom, anchors, List.filterMap_cons]
    split
    · next label anchored => simp [anchored, inductionHypothesis, anchors]
    · next anchored => simp [anchored, inductionHypothesis, anchors]

theorem isSome_lookup_iff {offsets : Offsets} :
    (offsets.lookup label).isSome ↔ label ∈ offsets.map Prod.fst := by
  simp only [List.lookup_isSome_iff, List.mem_map, beq_iff_eq, eq_comm (a := label)]

/-- Noting anchors stops at the first label that repeats one noted before. -/
theorem noteAnchors_eq (seen : List Label) {noted : Offsets} (position : Nat)
    (known : ∀ label, label ∈ noted.map Prod.fst ↔ label ∈ seen) :
    noteAnchors position noted body =
      match firstRepeat? seen body.anchors with
      | some label => .error (.duplicateLabel label.name)
      | none => .ok (noted ++ offsetsFrom position body) := by
  induction body generalizing seen noted position with
  | nil => simp [noteAnchors, anchors, firstRepeat?, offsetsFrom]
  | cons instruction rest inductionHypothesis =>
    rw [noteAnchors, anchors, List.filterMap_cons, offsetsFrom]
    cases anchored : instruction.anchored? with
    | none => exact inductionHypothesis seen (position + 1) known
    | some label =>
      simp only [firstRepeat?, isSome_lookup_iff, known]
      split
      · rfl
      · rw [inductionHypothesis (label :: seen) position (by simp [known, or_comm]),
          anchors, List.append_assoc, List.singleton_append]

/-- Noting offsets ends as checking all labels first and then working out the offsets does. -/
theorem surveyOffsets_eq (body : Body) :
    body.surveyOffsets = body.offsets.mapError LabelFault.error := by
  rw [surveyOffsets, offsets, noteAnchors_eq [] 0 (by simp)]
  cases firstRepeat? [] body.anchors with
  | some label => rfl
  | none =>
    have missing (target : Label) : ((offsetsFrom 0 body).lookup target).isNone =
        decide (target ∉ body.anchors) := by
      rw [Bool.eq_iff_iff, decide_eq_true_iff, ← map_fst_offsetsFrom 0 body, ← isSome_lookup_iff,
        Option.isNone_iff_eq_none, Option.not_isSome_iff_eq_none]
    simp only [List.nil_append, bind, Except.bind, missing]
    cases body.targets.find? fun target => target ∉ body.anchors <;> rfl

/-! ### Anchors and their places -/

/-- The instruction at a place anchors the label. -/
def AnchorsAt (body : Body) (place : Nat) (label : Label) : Prop :=
  body[place]?.bind Instruction.anchored? = some label

theorem mem_anchors_iff : label ∈ body.anchors ↔ ∃ place, body.AnchorsAt place label := by
  rw [anchors, List.mem_filterMap]
  simp only [AnchorsAt, List.mem_iff_getElem?, Option.bind_eq_some_iff]
  constructor
  · rintro ⟨instruction, ⟨place, there⟩, anchored⟩
    exact ⟨place, instruction, there, anchored⟩
  · rintro ⟨place, instruction, there, anchored⟩
    exact ⟨instruction, ⟨place, there⟩, anchored⟩

theorem AnchorsAt.lt_length (here : body.AnchorsAt place label) : place < body.length := by
  obtain ⟨_, there, _⟩ := Option.bind_eq_some_iff.mp here
  exact (List.getElem?_eq_some_iff.mp there).1

/-- An anchor splits the body into what is in front of it and what is behind it. -/
theorem AnchorsAt.split (here : body.AnchorsAt place label) :
    ∃ instruction : Instruction, instruction.anchored? = some label ∧
      body = body.take place ++ instruction :: body.drop (place + 1) := by
  obtain ⟨instruction, there, anchored⟩ := Option.bind_eq_some_iff.mp here
  obtain ⟨inside, rfl⟩ := List.getElem?_eq_some_iff.mp there
  exact ⟨body[place], anchored, by rw [← List.drop_eq_getElem_cons inside, List.take_append_drop]⟩

theorem AnchorsAt.anchors_eq (here : body.AnchorsAt place label) :
    body.anchors = anchors (body.take place) ++ label :: anchors (body.drop (place + 1)) := by
  obtain ⟨instruction, anchored, whole⟩ := here.split
  conv_lhs => rw [whole, anchors_append, anchors, anchors, List.filterMap_cons_some anchored]
  rfl

/-! ### The first fault met -/

/-- The instruction at the position anchors the label, and the code before it does so too. -/
structure RepeatsAt (body : Body) (position : Nat) (label : Label) : Prop where
  here : body.AnchorsAt position label
  before : label ∈ anchors (body.take position)

/-- The instruction at the position branches to the label, and no instruction anchors it. -/
structure StraysAt (body : Body) (position : Nat) (label : Label) : Prop where
  here : body[position]?.bind Instruction.target? = some label
  missing : label ∉ body.anchors

/-- The label has the property at some position, and no label has it at an earlier one. -/
def Earliest (holds : Nat → Label → Prop) (label : Label) : Prop :=
  ∃ position, holds position label ∧ ∀ earlier < position, ∀ other, ¬ holds earlier other

/-- The fault that is met first when all anchors are read before the branches. -/
inductive Reports (body : Body) : LabelFault → Prop where
  | duplicate {label : Label} (first : Earliest body.RepeatsAt label) :
    Reports body (.duplicate label)
  | undefined {label : Label} (distinct : ∀ label, body.anchors.count label ≤ 1)
    (first : Earliest body.StraysAt label) : Reports body (.undefined label)

theorem Earliest.unique {holds : Nat → Label → Prop} {first second : Label}
    (single : ∀ position label other, holds position label → holds position other → label = other)
    (earliestFirst : Earliest holds first) (earliestSecond : Earliest holds second) :
    first = second := by
  obtain ⟨position, here, least⟩ := earliestFirst
  obtain ⟨place, there, leastThere⟩ := earliestSecond
  rcases Nat.lt_trichotomy position place with before | rfl | behind
  · exact absurd here (leastThere position before first)
  · exact single position first second here there
  · exact absurd there (least place behind second)

/-- The earliest anchor that repeats one before it is where a reading of the anchors stops. The
front has been read, and the labels seen are those anchored there. -/
theorem earliest_of_firstRepeat? (front : Body) {rest : Body} (seen : List Label)
    (known : ∀ label, label ∈ seen ↔ label ∈ front.anchors)
    (fresh : ∀ earlier < front.length, ∀ other, ¬ RepeatsAt (front ++ rest) earlier other)
    (found : firstRepeat? seen rest.anchors = some label) :
    Earliest (RepeatsAt (front ++ rest)) label := by
  induction rest generalizing front seen with
  | nil => cases found
  | cons instruction rest inductionHypothesis =>
    have whole : front ++ instruction :: rest = (front ++ [instruction]) ++ rest := by simp
    have here (other : Label) : AnchorsAt (front ++ instruction :: rest) front.length other ↔
        instruction.anchored? = some other := by simp [AnchorsAt]
    have before : (front ++ instruction :: rest).take front.length = front := by simp
    -- Nothing repeats up to here if this instruction does not.
    have further
        (notHere : ∀ other, ¬ RepeatsAt (front ++ instruction :: rest) front.length other) :
        ∀ earlier < (front ++ [instruction]).length, ∀ other,
          ¬ RepeatsAt ((front ++ [instruction]) ++ rest) earlier other := by
      intro earlier inside other
      rw [← whole]
      rw [List.length_append, List.length_singleton, Nat.lt_succ_iff_lt_or_eq] at inside
      rcases inside with inside | rfl
      · exact fresh earlier inside other
      · exact notHere other
    rw [anchors, List.filterMap_cons] at found
    cases anchored : instruction.anchored? with
    | none =>
      rw [anchored] at found
      rw [whole]
      refine inductionHypothesis _ seen ?_ (further fun other repeats => ?_) found
      · simp [known, anchors, anchored]
      · cases anchored.symm.trans ((here other).mp repeats.here)
    | some anchor =>
      simp only [anchored, firstRepeat?] at found
      split at found
      · next again =>
        cases found
        refine ⟨front.length, ⟨(here _).mpr anchored, ?_⟩, fresh⟩
        rw [before]
        exact (known label).mp again
      · next notSeen =>
        rw [whole]
        refine inductionHypothesis _ (anchor :: seen) ?_ (further fun other repeats => ?_) found
        · simp [known, anchors, anchored, or_comm]
        · have same : anchor = other :=
            Option.some_inj.mp (anchored.symm.trans ((here other).mp repeats.here))
          have there := repeats.before
          rw [before, ← same, ← known] at there
          exact notSeen there

theorem earliest_of_find? (found : (body.targets.find? fun target => target ∉ body.anchors) =
    some label) : Earliest body.StraysAt label := by
  rw [targets, List.find?_filterMap, Option.bind_eq_some_iff] at found
  obtain ⟨instruction, first, branches⟩ := found
  obtain ⟨missing, position, inside, rfl, least⟩ := List.find?_eq_some_iff_getElem.mp first
  refine ⟨position, ⟨?_, ?_⟩, fun earlier before other strays => ?_⟩
  · rw [List.getElem?_eq_getElem inside, Option.bind_some, branches]
  · simpa [branches] using missing
  · have notThere := least earlier before
    have there := strays.here
    rw [List.getElem?_eq_getElem (Nat.lt_trans before inside), Option.bind_some] at there
    simp [there, strays.missing] at notThere

theorem RepeatsAt.count (repeats : body.RepeatsAt position label) :
    1 < body.anchors.count label := by
  have countBefore := List.count_pos_iff.mpr repeats.before
  rw [repeats.here.anchors_eq, List.count_append, List.count_cons_self]
  omega

theorem Reports.mem_faults {fault : LabelFault} (reports : body.Reports fault) :
    fault ∈ body.faults := by
  cases reports with
  | duplicate first =>
    obtain ⟨position, repeats, _⟩ := first
    exact duplicate_mem_faults.mpr repeats.count
  | undefined _ first =>
    obtain ⟨position, strays, _⟩ := first
    obtain ⟨instruction, there, branches⟩ := Option.bind_eq_some_iff.mp strays.here
    exact undefined_mem_faults.mpr
      ⟨List.mem_filterMap.mpr ⟨instruction, List.mem_of_getElem? there, branches⟩, strays.missing⟩

theorem Reports.unique {first second : LabelFault} (reportsFirst : body.Reports first)
    (reportsSecond : body.Reports second) : first = second := by
  cases reportsFirst with
  | duplicate earliest =>
    cases reportsSecond with
    | duplicate other =>
      rw [earliest.unique (fun _ _ _ left right => Option.some_inj.mp
        (left.here.symm.trans right.here)) other]
    | undefined distinct =>
      obtain ⟨position, repeats, _⟩ := earliest
      exact absurd repeats.count (Nat.not_lt.mpr (distinct _))
  | undefined distinct earliest =>
    cases reportsSecond with
    | duplicate other =>
      obtain ⟨position, repeats, _⟩ := other
      exact absurd repeats.count (Nat.not_lt.mpr (distinct _))
    | undefined _ other =>
      rw [earliest.unique (fun _ _ _ left right => Option.some_inj.mp
        (left.here.symm.trans right.here)) other]

theorem reports_of_offsets {fault : LabelFault} (failed : body.offsets = .error fault) :
    body.Reports fault := by
  unfold offsets at failed
  cases repeated : firstRepeat? [] body.anchors with
  | some label =>
    rw [repeated] at failed
    cases failed
    exact .duplicate (earliest_of_firstRepeat? [] [] (by simp [anchors]) nofun repeated)
  | none =>
    have distinct := ((firstRepeat?_eq_none [] body.anchors).mp repeated).1
    rw [repeated] at failed
    cases missing : body.targets.find? fun label => label ∉ body.anchors with
    | some label =>
      rw [missing] at failed
      cases failed
      exact .undefined (List.nodup_iff_count_le_one.mp distinct) (earliest_of_find? missing)
    | none =>
      rw [missing] at failed
      cases failed

/-- Working out the offsets fails with the fault that is met first. -/
theorem offsets_eq_error_iff {fault : LabelFault} :
    body.offsets = .error fault ↔ body.Reports fault := by
  refine ⟨reports_of_offsets, fun reports => ?_⟩
  cases found : body.offsets with
  | ok offsets =>
    have faultless := exists_offsets_iff_faults.mp ⟨offsets, found⟩
    cases faultless ▸ reports.mem_faults
  | error other => rw [(reports_of_offsets found).unique reports]

/-- Both readings of a body agree on its labels. Gathering faults finds the labels anchored more
than once and those branched to without an anchor, in whatever order the instructions stand. Noting
offsets succeeds exactly when nothing is gathered, and otherwise fails with one of the gathered
faults: the earliest repeated anchor, or the earliest branch without an anchor where no anchor is
repeated. -/
theorem surveys_agree (body : Body) :
    (body.surveyFaults = [] ↔ ∃ offsets, body.surveyOffsets = .ok offsets) ∧
    (∀ label, .duplicate label ∈ body.surveyFaults ↔ 2 ≤ body.anchors.count label) ∧
    (∀ label, .undefined label ∈ body.surveyFaults ↔
      label ∈ body.targets ∧ label ∉ body.anchors) ∧
    (∀ other : Body, other.Perm body → other.surveyFaults = body.surveyFaults) ∧
    (∀ error, body.surveyOffsets = .error error ↔
      ∃ fault, body.Reports fault ∧ error = fault.error) ∧
    (∀ fault, body.Reports fault → fault ∈ body.surveyFaults) ∧
    body.surveyFaults = body.faults := by
  simp only [surveyFaults_eq, surveyOffsets_eq]
  refine ⟨?_, fun _ => duplicate_mem_faults, fun _ => undefined_mem_faults,
    fun _ => faults_of_perm, fun error => ?_, fun _ => Reports.mem_faults, trivial⟩
  · rw [← exists_offsets_iff_faults]
    cases body.offsets with
    | ok offsets => exact ⟨fun _ => ⟨offsets, rfl⟩, fun _ => ⟨offsets, rfl⟩⟩
    | error fault => exact ⟨nofun, nofun⟩
  · simp only [← offsets_eq_error_iff]
    cases body.offsets with
    | ok offsets => exact ⟨nofun, nofun⟩
    | error fault =>
      simp only [Except.mapError, Except.error.injEq, exists_eq_left']
      exact eq_comm

/-- Two labels are anchored twice and two are nowhere anchored. The label whose second anchor comes
first is reported, although the other one is anchored before it and a branch without an anchor comes
before both. With one anchor of each left, the first of the two branches is reported. -/
theorem surveys_agree_four_faults :
    let branch (target : String) : Instruction := ⟨0xa7, .jump ⟨target⟩⟩
    let anchor (label : String) : Instruction := .anchor ⟨label⟩
    let body : Body := [branch "gone", anchor "here", anchor "there", anchor "there", anchor "here",
      branch "lost"]
    let once : Body := [anchor "there", branch "gone", anchor "here", branch "here", branch "lost"]
    body.surveyFaults =
        [.duplicate ⟨"here"⟩, .duplicate ⟨"there"⟩, .undefined ⟨"gone"⟩, .undefined ⟨"lost"⟩] ∧
      (body.reverse.Perm body ∧ Body.surveyFaults body.reverse = body.surveyFaults) ∧
      (∃ fault, body.Reports fault ∧ PatchError.duplicateLabel "there" = fault.error) ∧
      (¬ ∃ offsets, body.surveyOffsets = .ok offsets) ∧
      (∃ fault, once.Reports fault ∧ PatchError.undefinedLabel "gone" = fault.error) := by
  intro branch anchor body once
  obtain ⟨succeeds, _, _, anyOrder, reports, _⟩ := surveys_agree body
  obtain ⟨_, _, _, _, reportsOnce, _⟩ := surveys_agree once
  have gathered : body.surveyFaults =
      [.duplicate ⟨"here"⟩, .duplicate ⟨"there"⟩, .undefined ⟨"gone"⟩, .undefined ⟨"lost"⟩] := by
    decide +kernel
  refine ⟨gathered, ⟨body.reverse_perm, anyOrder _ body.reverse_perm⟩, (reports _).mp rfl, ?_,
    (reportsOnce _).mp rfl⟩
  rw [← succeeds, gathered]
  nofun

end Body

end MethodPatch
