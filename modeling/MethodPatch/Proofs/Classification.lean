/-
This file says which outcome each hook of a list gets, and what stays of its run.

`Hook.Due` has one case for each outcome with the conditions under which it is due. They speak of
the hooks before in the list, of the methods as these have left them, and of the run of the edits
on the body of the target. A hook gets an outcome exactly when it is due. For a single visit this
follows from the ways to fare at a class and the ways a run can end, each of which settles the
visit. A pass then makes of a hook what a visit makes of it behind the hooks before, since a pass
over two lists is a pass over the first and one over the second that goes on from there.
-/

import MethodPatch.Proofs.Faults
import MethodPatch.Proofs.Frame

namespace MethodPatch

namespace Hook

/-! ### The outcome that is due -/

/-- Whether a hook has the name of an earlier hook for the class, whatever became of that one. -/
def Repeats (className : ClassName) (earlier : List Hook) (hook : Hook) : Prop :=
  ∃ other ∈ earlier, other.targetClass = className ∧ other.name = hook.name

/-- Whether the edits of a hook are run on the body of a method: the hook is for the class and
repeats none of the earlier ones, and the method is the first that its target names and is neither
abstract nor native. -/
structure RunsOn (settings : Settings) (className : ClassName) (earlier : List Hook)
    (methods : MethodTable) (hook : Hook) (method : Method) : Prop where
  here : hook.targetClass = className
  fresh : ¬ hook.Repeats className earlier
  found : methods.lookup? (hook.target.nameIn settings.naming) hook.target.descriptor = some method
  concrete : method.access.hasAny AccessFlags.abstract = false
  managed : method.access.hasAny AccessFlags.native = false

/-- Which outcome is due to a hook behind some earlier hooks that have left the methods. -/
inductive Due (settings : Settings) (className : ClassName) (earlier : List Hook)
    (methods : MethodTable) (hook : Hook) : Outcome → Prop where
  /-- The hook is for another class. -/
  | skipped (elsewhere : hook.targetClass ≠ className) :
    Due settings className earlier methods hook .skipped
  /-- An earlier hook for the class has the same name. -/
  | alreadyApplied (here : hook.targetClass = className)
      (repeated : hook.Repeats className earlier) :
    Due settings className earlier methods hook .alreadyApplied
  /-- There is no method of the name and descriptor, or the first of them is abstract or native. -/
  | targetNotFound (here : hook.targetClass = className) (fresh : ¬ hook.Repeats className earlier)
      (unfit : ∀ method,
        methods.lookup? (hook.target.nameIn settings.naming) hook.target.descriptor = some method →
          method.access.hasAny AccessFlags.abstract = true ∨
            method.access.hasAny AccessFlags.native = true) :
    Due settings className earlier methods hook .targetNotFound
  /-- An edit misses its pattern. -/
  | patternNotFound (method : Method) (runs : hook.RunsOn settings className earlier methods method)
      (miss : Miss) (missed : (hook.run settings.naming method.body).miss = some miss) :
    Due settings className earlier methods hook (.patternNotFound miss.index miss.pattern
      (hook.run settings.naming method.body).workspace.changes)
  /-- All edits are made, and the labels are verified. The least fault that the body did not have
  before is reported. -/
  | invalidLabels (method : Method) (runs : hook.RunsOn settings className earlier methods method)
      (completed : (hook.run settings.naming method.body).miss = none)
      (verify : settings.verifyLabels = true) (fault : LabelFault)
      (first : (hook.run settings.naming method.body).workspace.body.FirstNewFault method.body fault) :
    Due settings className earlier methods hook (.invalidLabels fault)
  /-- All edits are made, and if the labels are verified there is no fault that the body did not
  have before. -/
  | applied (method : Method) (runs : hook.RunsOn settings className earlier methods method)
      (completed : (hook.run settings.naming method.body).miss = none)
      (sound : settings.verifyLabels = true →
        (hook.run settings.naming method.body).workspace.body.faults ⊆ method.body.faults) :
    Due settings className earlier methods hook
      (.applied (hook.run settings.naming method.body).workspace.changes)

/-! ### One visit -/

variable {settings : Settings} {className : ClassName} {met : List String} {earlier : List Hook}
  {hook : Hook} {methods : MethodTable} {method : Method}

/-- A hook whose edits are run is visited in the last of the ways to fare. -/
theorem RunsOn.encounter (runs : hook.RunsOn settings className earlier methods method)
    (names : hook.name ∈ met ↔ hook.Repeats className earlier) :
    Encounter settings className met hook methods
      ⟨(hook.patch settings method.body).verdict, (hook.patch settings method.body).events,
        methods.setBody (hook.target.nameIn settings.naming) hook.target.descriptor
          (hook.patch settings method.body).body⟩ :=
  .patched runs.here (mt names.mp runs.fresh) method runs.found
    (method.hasBody_iff.mpr ⟨runs.concrete, runs.managed⟩)

theorem runsOn_of_hasBody (names : hook.name ∈ met ↔ hook.Repeats className earlier)
    (here : hook.targetClass = className) (fresh : hook.name ∉ met)
    (found : methods.lookup? (hook.target.nameIn settings.naming) hook.target.descriptor =
      some method) (within : method.hasBody = true) :
    hook.RunsOn settings className earlier methods method := by
  obtain ⟨concrete, managed⟩ := method.hasBody_iff.mp within
  exact ⟨here, mt names.mpr fresh, found, concrete, managed⟩

theorem outcome_of_runsOn (runs : hook.RunsOn settings className earlier methods method)
    (names : hook.name ∈ met ↔ hook.Repeats className earlier) {outcome : Outcome}
    (ending : settings.Ending method.body (hook.run settings.naming method.body) outcome) :
    (hook.visitClass settings className met methods).verdict.outcome = outcome := by
  rw [(runs.encounter names).visitClass_eq]
  exact ending.outcomeOf_eq

theorem due_of_ending (runs : hook.RunsOn settings className earlier methods method)
    {outcome : Outcome}
    (ending : settings.Ending method.body (hook.run settings.naming method.body) outcome) :
    hook.Due settings className earlier methods outcome := by
  cases ending with
  | missed miss missed => exact .patternNotFound method runs miss missed
  | faulty completed verify fault others found =>
    refine .invalidLabels method runs completed verify fault (Body.head?_faultsBeyond.mp ?_)
    rw [found, List.head?_cons]
  | applied completed verified =>
    exact .applied method runs completed fun verify => Body.faultsBeyond_eq_nil.mp (verified verify)

/-- A visit comes to an outcome exactly when it is due. -/
theorem outcome_visitClass_eq_iff (names : hook.name ∈ met ↔ hook.Repeats className earlier)
    {outcome : Outcome} :
    (hook.visitClass settings className met methods).verdict.outcome = outcome ↔
      hook.Due settings className earlier methods outcome := by
  constructor
  · rintro rfl
    have encounter := encounter_visitClass settings className met hook methods
    generalize hook.visitClass settings className met methods = visit at encounter
    cases encounter with
    | elsewhere other => exact .skipped other
    | repeated here again => exact .alreadyApplied here (names.mp again)
    | missing here fresh absent =>
      refine .targetNotFound here (mt names.mpr fresh) fun method found => ?_
      exact nomatch absent.symm.trans found
    | bodiless here fresh method found without =>
      refine .targetNotFound here (mt names.mpr fresh) fun other there => ?_
      obtain rfl : method = other := Option.some.inj (found.symm.trans there)
      exact method.hasBody_eq_false_iff.mp without
    | patched here fresh method found within =>
      exact due_of_ending (runsOn_of_hasBody names here fresh found within)
        (settings.ending_outcomeOf method.body _)
  · intro due
    cases due with
    | skipped elsewhere => rw [(Encounter.elsewhere elsewhere).visitClass_eq]
    | alreadyApplied here repeated =>
      rw [(Encounter.repeated here (names.mpr repeated)).visitClass_eq]
    | targetNotFound here fresh unfit =>
      have unmet : hook.name ∉ met := mt names.mp fresh
      cases found : methods.lookup? (hook.target.nameIn settings.naming) hook.target.descriptor with
      | none => rw [(Encounter.missing here unmet found).visitClass_eq]
      | some method =>
        have without := method.hasBody_eq_false_iff.mpr (unfit method found)
        rw [(Encounter.bodiless here unmet method found without).visitClass_eq]
    | patternNotFound method runs miss missed =>
      exact outcome_of_runsOn runs names (.missed miss missed)
    | invalidLabels method runs completed verify fault first =>
      obtain ⟨others, found⟩ := List.head?_eq_some_iff.mp (Body.head?_faultsBeyond.mpr first)
      exact outcome_of_runsOn runs names (.faulty completed verify fault others found)
    | applied method runs completed sound =>
      exact outcome_of_runsOn runs names (.applied completed fun verify =>
        Body.faultsBeyond_eq_nil.mpr (sound verify))

/-! ### What stays of a run -/

/-- A body is put back under rollback when the run of a hook failed, and only then. -/
theorem rolledBack_visitClass (settings : Settings) (className : ClassName) (met : List String)
    (hook : Hook) (methods : MethodTable) :
    (hook.visitClass settings className met methods).verdict.rolledBack = true ↔
      settings.rollback = true ∧
        ((∃ index pattern changes,
          (hook.visitClass settings className met methods).verdict.outcome =
            .patternNotFound index pattern changes) ∨
        ∃ fault, (hook.visitClass settings className met methods).verdict.outcome =
          .invalidLabels fault) := by
  have encounter := encounter_visitClass settings className met hook methods
  generalize hook.visitClass settings className met methods = visit at encounter
  cases encounter with
  | elsewhere | repeated | missing | bodiless => simp
  | patched here fresh method found within =>
    have ending := settings.ending_outcomeOf method.body (hook.run settings.naming method.body)
    simp only [patch]
    generalize settings.outcomeOf method.body (hook.run settings.naming method.body) = outcome
      at ending
    cases ending <;> simp [Outcome.isFailure]

theorem methods_of_runsOn (runs : hook.RunsOn settings className earlier methods method)
    (names : hook.name ∈ met ↔ hook.Repeats className earlier) :
    (hook.visitClass settings className met methods).methods =
      methods.setBody (hook.target.nameIn settings.naming) hook.target.descriptor
        (if (hook.visitClass settings className met methods).verdict.rolledBack then method.body
          else (hook.run settings.naming method.body).workspace.body) := by
  rw [(runs.encounter names).visitClass_eq]
  rfl

/-- A hook whose edits are not run leaves the methods as they are. -/
theorem methods_of_not_runsOn (names : hook.name ∈ met ↔ hook.Repeats className earlier)
    (idle : ∀ method, ¬ hook.RunsOn settings className earlier methods method) :
    (hook.visitClass settings className met methods).methods = methods := by
  have encounter := encounter_visitClass settings className met hook methods
  generalize hook.visitClass settings className met methods = visit at encounter
  cases encounter with
  | elsewhere | repeated | missing | bodiless => rfl
  | patched here fresh method found within =>
    exact absurd (runsOn_of_hasBody names here fresh found within) (idle method)

end Hook

/-! ### A pass over two lists -/

namespace Settings

/-- The names met once the hooks of a list have been taken. -/
def metAfterAll (className : ClassName) (met : List String) (hooks : List Hook) : List String :=
  hooks.foldl (metAfter className) met

theorem mem_metAfterAll (className : ClassName) (met : List String) (hooks : List Hook)
    (name : String) :
    name ∈ metAfterAll className met hooks ↔
      name ∈ met ∨ ∃ hook ∈ hooks, hook.targetClass = className ∧ hook.name = name := by
  unfold metAfterAll
  induction hooks generalizing met with
  | nil => simp
  | cons hook rest inductionHypothesis =>
    rw [List.foldl_cons, inductionHypothesis, List.exists_mem_cons_iff, ← or_assoc, metAfter]
    refine or_congr_left ?_
    split
    · next here => rw [List.mem_cons, or_comm, eq_comm, and_iff_right here]
    · next other => rw [or_iff_left fun same => other same.1]

theorem mem_metAfterAll_nil (className : ClassName) (earlier : List Hook) (hook : Hook) :
    hook.name ∈ metAfterAll className [] earlier ↔ hook.Repeats className earlier := by
  rw [mem_metAfterAll, or_iff_right List.not_mem_nil]
  rfl

/-- A pass over two lists is a pass over the first and a pass over the second that goes on with the
names met and the methods left. -/
theorem passFrom_append (settings : Settings) (className : ClassName) (met : List String)
    (first second : List Hook) (methods : MethodTable) :
    settings.passFrom className met (first ++ second) methods =
      let left := settings.passFrom className met first methods
      let right := settings.passFrom className (metAfterAll className met first) second left.methods
      ⟨left.visits ++ right.visits, right.methods⟩ := by
  induction first generalizing met methods with
  | nil => rfl
  | cons hook rest inductionHypothesis =>
    rw [List.cons_append, passFrom, inductionHypothesis]
    rfl

/-- A pass makes of a hook what a visit makes of it behind the hooks before. -/
theorem visits_dispatch_at (settings : Settings) (className : ClassName) (methods : MethodTable)
    (earlier : List Hook) (hook : Hook) (later : List Hook) :
    let visit := hook.visitClass settings className (metAfterAll className [] earlier)
      (settings.dispatch className methods earlier).methods
    (settings.dispatch className methods (earlier ++ hook :: later)).visits[earlier.length]? =
      some (visit.verdict, visit.events) := by
  intro visit
  have visited : (settings.passFrom className [] earlier methods).visits.length = earlier.length :=
    settings.length_visits_passFrom className [] earlier methods
  rw [dispatch, passFrom_append, List.getElem?_append_right (Nat.le_of_eq visited), visited,
    Nat.sub_self]
  rfl

theorem dispatch_at (settings : Settings) (className : ClassName) (methods : MethodTable)
    (earlier : List Hook) (hook : Hook) (later : List Hook) :
    let visit := hook.visitClass settings className (metAfterAll className [] earlier)
      (settings.dispatch className methods earlier).methods
    (settings.dispatch className methods (earlier ++ hook :: later)).verdicts[earlier.length]? =
        some visit.verdict ∧
      (settings.dispatch className methods (earlier ++ [hook])).methods = visit.methods := by
  intro visit
  constructor
  · rw [Pass.verdicts, List.getElem?_map, visits_dispatch_at]
    rfl
  · rw [dispatch, passFrom_append]
    rfl

/-! ### The outcomes of a pass -/

/-- Each hook of a list gets one verdict, and the outcome in it is the one that is due behind the
hooks before. Its body is put back under rollback when its run failed, and only then; otherwise the
body is the one that the run left. A hook whose edits are not run leaves all methods as they are. -/
theorem dispatch_outcome_eq_iff_due (settings : Settings) (written : String)
    (methods : MethodTable) (hooks : List Hook) :
    let className := ClassName.of written
    let pass := settings.dispatch className methods hooks
    pass.verdicts.length = hooks.length ∧
      ∀ earlier hook later, hooks = earlier ++ hook :: later →
        let before := (settings.dispatch className methods earlier).methods
        let after := (settings.dispatch className methods (earlier ++ [hook])).methods
        ∃ verdict, pass.verdicts[earlier.length]? = some verdict ∧
          verdict.hook = hook.name ∧ verdict.target = hook.target.reference settings.naming ∧
          (∀ outcome, verdict.outcome = outcome ↔
            hook.Due settings className earlier before outcome) ∧
          (verdict.rolledBack = true ↔ settings.rollback = true ∧
            ((∃ index pattern changes,
              verdict.outcome = .patternNotFound index pattern changes) ∨
            ∃ fault, verdict.outcome = .invalidLabels fault)) ∧
          (∀ method, hook.RunsOn settings className earlier before method →
            after = before.setBody (hook.target.nameIn settings.naming) hook.target.descriptor
              (if verdict.rolledBack then method.body
                else (hook.run settings.naming method.body).workspace.body)) ∧
          ((∀ method, ¬ hook.RunsOn settings className earlier before method) →
            after = before) := by
  intro className pass
  refine ⟨settings.length_verdicts_dispatch className methods hooks, ?_⟩
  rintro earlier hook later rfl before after
  have names := mem_metAfterAll_nil className earlier hook
  obtain ⟨found, left⟩ := settings.dispatch_at className methods earlier hook later
  obtain ⟨name, target⟩ := hook.verdict_visitClass settings className
    (metAfterAll className [] earlier) before
  exact ⟨_, found, name, target, fun _ => Hook.outcome_visitClass_eq_iff names,
    hook.rolledBack_visitClass settings className _ before,
    fun _ runs => left.trans (Hook.methods_of_runsOn runs names),
    fun idle => left.trans (Hook.methods_of_not_runsOn names idle)⟩

/-- Eight hooks with all six outcomes. The last but one makes all of its edits under rollback: of
the faults that they bring, a label anchored twice and a branch to nowhere, the first counts. -/
theorem dispatch_outcome_eq_iff_due_eight_hooks :
    let settings : Settings := { production with rollback := true }
    let hook (name : String) (edits : List Edit) (method : String) (className : String) : Hook := {
      name, edits, target := .unmapped (.of className) method "()V" }
    let mark : Edit := .insert [⟨0x00, .none⟩]
    let leap := hook "leap" [.markLabel ⟨"twice"⟩, .insert [⟨0xa7, .jump ⟨"gone"⟩⟩],
      .markLabel ⟨"twice"⟩] "run" "a/B"
    let earlier := [hook "foreign" [mark] "run" "a.C", hook "foreign" [mark] "run" "a.B",
      hook "foreign" [mark] "run" "a.B", hook "absent" [mark] "stop" "a.B",
      hook "abstract" [mark] "bare" "a.B",
      hook "stale" [mark, .seekTo (.single ⟨0xbf, .none⟩)] "run" "a.B"]
    let later := [hook "last" [mark] "run" "a.B"]
    let hooks := earlier ++ leap :: later
    let methods : MethodTable := [⟨"run", "()V", ⟨1⟩, [⟨0xb1, .none⟩]⟩, ⟨"bare", "()V", ⟨0x0401⟩, []⟩]
    let before := (settings.dispatch (.of "a.B") methods earlier).methods
    let after := (settings.dispatch (.of "a.B") methods (earlier ++ [leap])).methods
    hooks = earlier ++ leap :: later ∧
      (settings.dispatch (.of "a.B") methods hooks).verdicts.map Verdict.outcome =
        [.skipped, .applied 1, .alreadyApplied, .targetNotFound, .targetNotFound,
          .patternNotFound 1 "[athrow]" 1, .invalidLabels (.duplicate ⟨"leap:twice"⟩), .applied 1] ∧
      leap.Due settings (.of "a.B") earlier before (.invalidLabels (.duplicate ⟨"leap:twice"⟩)) ∧
      leap.RunsOn settings (.of "a.B") earlier before
        ⟨"run", "()V", ⟨1⟩, [⟨0x00, .none⟩, ⟨0xb1, .none⟩]⟩ ∧
      after = before.setBody "run" "()V" [⟨0x00, .none⟩, ⟨0xb1, .none⟩] := by
  intro settings hook mark leap earlier later hooks methods before after
  have outcomes : (settings.dispatch (.of "a.B") methods hooks).verdicts.map Verdict.outcome =
      [.skipped, .applied 1, .alreadyApplied, .targetNotFound, .targetNotFound,
        .patternNotFound 1 "[athrow]" 1, .invalidLabels (.duplicate ⟨"leap:twice"⟩),
        .applied 1] := by decide +kernel
  have unrepeated : ¬ leap.Repeats (.of "a.B") earlier := by
    unfold Hook.Repeats
    decide +kernel
  have runs : leap.RunsOn settings (.of "a.B") earlier before
      ⟨"run", "()V", ⟨1⟩, [⟨0x00, .none⟩, ⟨0xb1, .none⟩]⟩ :=
    ⟨by decide +kernel, unrepeated, by decide +kernel, by decide +kernel, by decide +kernel⟩
  obtain ⟨_, classified⟩ := dispatch_outcome_eq_iff_due settings "a.B" methods hooks
  obtain ⟨verdict, found, _, _, due, rolledBack, left, _⟩ := classified earlier leap later rfl
  have outcome : verdict.outcome = .invalidLabels (.duplicate ⟨"leap:twice"⟩) := by
    have sixth := congrArg (·[6]?) outcomes
    simp only [List.getElem?_map] at sixth
    exact Option.some.inj ((congrArg (Option.map Verdict.outcome) found).symm.trans sixth)
  have undone : verdict.rolledBack = true := rolledBack.mpr ⟨rfl, .inr ⟨_, outcome⟩⟩
  have restored := left _ runs
  rw [undone] at restored
  exact ⟨rfl, outcomes, (due _).mp outcome, runs, restored⟩

end Settings

end MethodPatch
