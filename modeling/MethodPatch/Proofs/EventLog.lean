/-
This file proves that the events tell what became of every hook.

A hook whose edits are not run is reported in one warning or one error, or not at all when it is for
another class. Otherwise its events fall into three parts: one for each edit that was made, a note
on faults that the body had before, and those on the outcome. The first two are of the lowest level,
so the outcome alone decides what can be heard above it: one INFO for a hook that is applied, and
one ERROR for a hook that is not. A warning about a body left half done follows only where it is.
-/

import MethodPatch.Proofs.Classification
import MethodPatch.Proofs.Progress

namespace MethodPatch

/-! ### The edits that are made -/

/-- Whether the event reports that an edit was made. -/
def Event.isStep : Event → Bool
  | stepped .. => true
  | _ => false

namespace Scope

variable (scope : Scope) {index : Nat} {edit : Edit} {rest : List Edit} {workspace next : Workspace}

theorem events_run_of_ok (succeeded : scope.step index edit workspace = .ok next) :
    (scope.run index (edit :: rest) workspace).events =
      .stepped scope.hook index edit next.cursor :: (scope.run (index + 1) rest next).events := by
  simp only [run, attempt, succeeded]
  rfl

theorem events_run_of_error {miss : Miss}
    (failed : scope.step index edit workspace = .error miss) :
    (scope.run index (edit :: rest) workspace).events = [] := by
  simp only [run, attempt, failed]

/-- A run reports each edit that is made under its number, with the cursor behind it. -/
theorem events_run (index : Nat) (edits : List Edit) (workspace : Workspace) :
    (scope.run index edits workspace).events =
      (edits.take (scope.madeCount index edits workspace)).mapIdx fun number edit =>
        .stepped scope.hook (index + number) edit
          (scope.run index (edits.take (number + 1)) workspace).workspace.cursor := by
  induction edits generalizing index workspace with
  | nil => rfl
  | cons edit rest inductionHypothesis =>
    cases step : scope.step index edit workspace with
    | error miss =>
      rw [scope.events_run_of_error step, scope.madeCount_of_error step]
      rfl
    | ok next =>
      rw [scope.events_run_of_ok step, scope.madeCount_of_ok step, List.take_succ_cons,
        List.mapIdx_cons, inductionHypothesis]
      simp only [List.take_succ_cons, scope.workspace_run_of_ok step, Nat.add_assoc,
        Nat.add_comm 1]
      rfl

end Scope

namespace Hook

/-- The reports on the edits of a hook that are made, each with the cursor behind the edit. -/
def stepEvents (hook : Hook) (naming : Naming) (body : Body) : List Event :=
  (hook.edits.take (hook.madeCount naming body)).mapIdx fun number edit =>
    .stepped hook.name number edit (hook.workspaceAfter naming body (number + 1)).cursor

theorem events_run (hook : Hook) (naming : Naming) (body : Body) :
    (hook.run naming body).events = hook.stepEvents naming body := by
  have events := (hook.scope naming).events_run 0 hook.edits (.start body)
  simp only [Nat.zero_add] at events
  exact events

end Hook

/-! ### What the events of a hook tell -/

/-- What the events of a hook tell of the verdict on it. Its target names the given method, if there
is one. -/
structure Verdict.ToldBy (verdict : Verdict) (named : Option Method) (events : List Event) :
    Prop where
  /-- There is exactly one INFO when the hook is applied, and only then. -/
  info : (events.map Event.level).count .info = 1 ↔ verdict.outcome.isApplied = true
  /-- Nothing is reported when the hook is for another class, and only then. -/
  nothing : events = [] ↔ verdict.outcome = .skipped
  /-- What is neither applied nor for another class can be heard, and not as an INFO. -/
  heard : verdict.outcome.isApplied = false → verdict.outcome ≠ .skipped →
    .info ∉ events.map Event.level ∧
      (.warn ∈ events.map Event.level ∨ .error ∈ events.map Event.level)
  missing : verdict.outcome = .targetNotFound → named = none →
    (events.map Event.level).count .error = 1
  brokenOff : ∀ index pattern changes, verdict.outcome = .patternNotFound index pattern changes →
    (events.map Event.level).count .error = 1
  faulty : ∀ fault, verdict.outcome = .invalidLabels fault →
    (events.map Event.level).count .error = 1
  bodiless : verdict.outcome = .targetNotFound → named ≠ none →
    ∀ event ∈ events, event.level = .warn
  repeated : verdict.outcome = .alreadyApplied → ∀ event ∈ events, event.level = .warn
  /-- A body is reported as left half done when the edits broke off after a change, and the body was
  not put back. -/
  leftPartial : ∀ hook target, .leftPartial hook target ∈ events ↔
    hook = verdict.hook ∧ target = verdict.target ∧ verdict.rolledBack = false ∧
      ∃ index pattern changes,
        verdict.outcome = .patternNotFound index pattern changes ∧ 0 < changes

/-- Events that ask for no attention change nothing about what is told of a run. -/
theorem Verdict.ToldBy.behind_quiet {verdict : Verdict} {named : Option Method}
    {events quiet : List Event} (told : verdict.ToldBy named events)
    (debug : ∀ event ∈ quiet, event.level = .debug) (runs : verdict.outcome ≠ .skipped)
    (fresh : verdict.outcome ≠ .alreadyApplied) (there : verdict.outcome ≠ .targetNotFound) :
    verdict.ToldBy named (quiet ++ events) := by
  have count (level : Level) (loud : level ≠ .debug) :
      ((quiet ++ events).map Event.level).count level = (events.map Event.level).count level := by
    have absent : level ∉ quiet.map Event.level := fun member => by
      obtain ⟨event, inside, rfl⟩ := List.mem_map.mp member
      exact loud (debug event inside)
    rw [List.map_append, List.count_append, List.count_eq_zero.mpr absent, Nat.zero_add]
  have mem_iff (level : Level) (loud : level ≠ .debug) :
      level ∈ (quiet ++ events).map Event.level ↔ level ∈ events.map Event.level := by
    rw [← List.count_pos_iff, count level loud, List.count_pos_iff]
  constructor
  case info => rw [count .info nofun, told.info]
  case nothing =>
    rw [List.append_eq_nil_iff, told.nothing]
    exact ⟨And.right, fun elsewhere => absurd elsewhere runs⟩
  case heard =>
    rw [mem_iff .info nofun, mem_iff .warn nofun, mem_iff .error nofun]
    exact told.heard
  case missing =>
    rw [count .error nofun]
    exact told.missing
  case brokenOff =>
    rw [count .error nofun]
    exact told.brokenOff
  case faulty =>
    rw [count .error nofun]
    exact told.faulty
  case bodiless => exact fun absent => absurd absent there
  case repeated => exact fun again => absurd again fresh
  case leftPartial =>
    intro hook target
    have loud : .leftPartial hook target ∉ quiet := fun inside => nomatch debug _ inside
    rw [List.mem_append, or_iff_right loud]
    exact told.leftPartial hook target

theorem Settings.Ending.ran {settings : Settings} {body : Body} {run : Run} {outcome : Outcome}
    (ending : settings.Ending body run outcome) :
    outcome ≠ .skipped ∧ outcome ≠ .alreadyApplied ∧ outcome ≠ .targetNotFound := by
  cases ending with
  | missed | faulty | applied => simp

/-- The events on the outcome of a run tell what it is. -/
theorem Settings.Ending.toldBy {settings : Settings} {body : Body} {run : Run} {outcome : Outcome}
    (ending : settings.Ending body run outcome) (hook : String) (target : Member)
    (rolledBack : Bool) (named : Option Method) :
    Verdict.ToldBy ⟨hook, target, outcome, rolledBack⟩ named
      (outcomeEvents hook target outcome rolledBack) := by
  cases ending with
  | missed miss missed =>
    by_cases changed : 0 < run.workspace.changes <;> cases rolledBack <;> constructor <;>
      simp [outcomeEvents, Event.level, Outcome.isApplied, Outcome.brokeOffChanged, changed]
  | faulty completed verify fault others found =>
    cases rolledBack <;> constructor <;>
      simp [outcomeEvents, Event.level, Outcome.isApplied, Outcome.brokeOffChanged]
  | applied completed verified =>
    constructor <;> simp [outcomeEvents, Event.level, Outcome.isApplied]

/-! ### One visit -/

theorem Settings.level_of_mem_baselineEvents {settings : Settings} {hook : String}
    {target : Member} {body : Body} {run : Run} {event : Event}
    (member : event ∈ settings.baselineEvents hook target body run) : event.level = .debug := by
  unfold baselineEvents at member
  split at member
  · obtain rfl := List.mem_singleton.mp member
    rfl
  · cases member

theorem Settings.filter_isStep_baselineEvents (settings : Settings) (hook : String)
    (target : Member) (body : Body) (run : Run) :
    (settings.baselineEvents hook target body run).filter Event.isStep = [] := by
  unfold baselineEvents
  split <;> rfl

theorem filter_isStep_outcomeEvents (hook : String) (target : Member) (outcome : Outcome)
    (rolledBack : Bool) :
    (outcomeEvents hook target outcome rolledBack).filter Event.isStep = [] := by
  unfold outcomeEvents
  split
  · rfl
  · split
    · rfl
    · split <;> rfl

namespace Hook

variable {settings : Settings} {className : ClassName} {met : List String} {earlier : List Hook}
  {hook : Hook} {methods : MethodTable} {method : Method}

theorem mem_stepEvents {naming : Naming} {body : Body} {event : Event}
    (member : event ∈ hook.stepEvents naming body) :
    event.isStep = true ∧ event.level = .debug := by
  obtain ⟨number, _, rfl⟩ := List.mem_mapIdx.mp member
  exact ⟨rfl, rfl⟩

theorem toldBy_patch (settings : Settings) (hook : Hook) (body : Body) (named : Option Method) :
    (hook.patch settings body).verdict.ToldBy named (hook.patch settings body).events := by
  have ending := settings.ending_outcomeOf body (hook.run settings.naming body)
  obtain ⟨runs, fresh, there⟩ := ending.ran
  simp only [patch, events_run]
  refine (ending.toldBy hook.name _ _ named).behind_quiet (fun event member => ?_) runs fresh there
  rcases List.mem_append.mp member with step | fault
  · exact (mem_stepEvents step).2
  · exact settings.level_of_mem_baselineEvents fault

/-- The events of a visit tell what its verdict is. -/
theorem toldBy_visitClass (settings : Settings) (className : ClassName) (met : List String)
    (hook : Hook) (methods : MethodTable) :
    (hook.visitClass settings className met methods).verdict.ToldBy
      (methods.lookup? (hook.target.nameIn settings.naming) hook.target.descriptor)
      (hook.visitClass settings className met methods).events := by
  have encounter := encounter_visitClass settings className met hook methods
  generalize hook.visitClass settings className met methods = visit at encounter ⊢
  cases encounter with
  | elsewhere | repeated => constructor <;> simp [Event.level, Outcome.isApplied]
  | missing here fresh absent =>
    have unknown : methods.lookup? (hook.target.nameIn settings.naming) hook.target.descriptor =
        none := absent
    rw [unknown]
    constructor <;> simp [Event.level, Outcome.isApplied]
  | bodiless here fresh method found =>
    have known : methods.lookup? (hook.target.nameIn settings.naming) hook.target.descriptor =
        some method := found
    rw [known]
    constructor <;> simp [Event.level, Outcome.isApplied]
  | patched here fresh method found within => exact hook.toldBy_patch settings method.body _

/-! ### The edits in the events -/

/-- Nothing but the edits that are made is reported as an edit. -/
theorem filter_isStep_patch (settings : Settings) (hook : Hook) (body : Body) :
    (hook.patch settings body).events.filter Event.isStep =
      hook.stepEvents settings.naming body := by
  simp only [patch, events_run, List.filter_append]
  rw [List.filter_eq_self.mpr fun event member => (mem_stepEvents member).1,
    settings.filter_isStep_baselineEvents, filter_isStep_outcomeEvents, List.append_nil,
    List.append_nil]

theorem filter_isStep_of_runsOn (runs : hook.RunsOn settings className earlier methods method)
    (names : hook.name ∈ met ↔ hook.Repeats className earlier) :
    (hook.visitClass settings className met methods).events.filter Event.isStep =
      hook.stepEvents settings.naming method.body := by
  rw [(runs.encounter names).visitClass_eq]
  exact hook.filter_isStep_patch settings method.body

theorem filter_isStep_of_not_runsOn (names : hook.name ∈ met ↔ hook.Repeats className earlier)
    (idle : ∀ method, ¬ hook.RunsOn settings className earlier methods method) :
    (hook.visitClass settings className met methods).events.filter Event.isStep = [] := by
  have encounter := encounter_visitClass settings className met hook methods
  generalize hook.visitClass settings className met methods = visit at encounter
  cases encounter with
  | elsewhere | repeated | missing | bodiless => rfl
  | patched here fresh method found within =>
    exact absurd (runsOn_of_hasBody names here fresh found within) (idle method)

theorem length_stepEvents (hook : Hook) (naming : Naming) (body : Body) :
    (hook.stepEvents naming body).length = hook.madeCount naming body := by
  rw [stepEvents, List.length_mapIdx,
    List.length_take_of_le (hook.madeCount_le_length naming body)]

/-- What the events of a hook tell of its edits, when these are run on a body. -/
structure EditsToldBy (hook : Hook) (naming : Naming) (body : Body) (events : List Event) :
    Prop where
  /-- Each edit that is made is reported once and in order, with the cursor behind it. -/
  reported : events.filter Event.isStep = hook.stepEvents naming body
  /-- What is reported is made. -/
  made : ∀ count < (events.filter Event.isStep).length, ∃ edit, hook.edits[count]? = some edit ∧
    (hook.scope naming).step count edit (hook.workspaceAfter naming body count) =
      .ok (hook.workspaceAfter naming body (count + 1))
  /-- What comes next is not made. -/
  missed : ∀ edit, hook.edits[(events.filter Event.isStep).length]? = some edit →
    ∃ miss, (hook.scope naming).step (events.filter Event.isStep).length edit
      (hook.workspaceAfter naming body (events.filter Event.isStep).length) = .error miss

theorem editsToldBy_of_runsOn (runs : hook.RunsOn settings className earlier methods method)
    (names : hook.name ∈ met ↔ hook.Repeats className earlier) :
    hook.EditsToldBy settings.naming method.body
      (hook.visitClass settings className met methods).events := by
  have reported := filter_isStep_of_runsOn runs names
  have counted : ((hook.visitClass settings className met methods).events.filter
      Event.isStep).length = hook.madeCount settings.naming method.body := by
    rw [reported, length_stepEvents]
  refine ⟨reported, ?_, ?_⟩
  · rw [counted]
    exact fun count inside => step_workspaceAfter inside
  · rw [counted]
    exact fun edit there => exists_miss_of_getElem?_madeCount there

/-- When the edits break off, those before the one that misses its pattern are reported. -/
theorem length_steps_of_brokenOff (names : hook.name ∈ met ↔ hook.Repeats className earlier)
    {index : Nat} {pattern : String} {changes : Nat}
    (brokenOff : (hook.visitClass settings className met methods).verdict.outcome =
      .patternNotFound index pattern changes) :
    ((hook.visitClass settings className met methods).events.filter Event.isStep).length =
      index := by
  cases (outcome_visitClass_eq_iff names).mp brokenOff with
  | patternNotFound method runs miss missed =>
    rw [filter_isStep_of_runsOn runs names, length_stepEvents]
    simp only [madeCount, missed]

/-- When all edits are made, all are reported, whether or not they bring a fault. -/
theorem length_steps_of_completed (names : hook.name ∈ met ↔ hook.Repeats className earlier)
    (all : (hook.visitClass settings className met methods).verdict.outcome.isApplied = true ∨
      ∃ fault, (hook.visitClass settings className met methods).verdict.outcome =
        .invalidLabels fault) :
    ((hook.visitClass settings className met methods).events.filter Event.isStep).length =
      hook.edits.length := by
  have due : hook.Due settings className earlier methods
      (hook.visitClass settings className met methods).verdict.outcome :=
    (outcome_visitClass_eq_iff names).mp rfl
  generalize (hook.visitClass settings className met methods).verdict.outcome = outcome at due all
  cases due with
  | skipped | alreadyApplied | targetNotFound | patternNotFound =>
    simp [Outcome.isApplied] at all
  | invalidLabels method runs completed | applied method runs completed =>
    rw [filter_isStep_of_runsOn runs names, length_stepEvents]
    simp only [madeCount, completed]

end Hook

/-! ### A whole pass -/

namespace Settings

/-- Each hook of a list has its own row of events, and it tells what became of the hook. A hook that
is applied is reported in one INFO, a hook for another class not at all, and any other hook in a
warning or an error. Among the events is one for each edit that was made, in the order of the edits
and with the cursor behind the edit. -/
theorem dispatch_tells_outcomes (settings : Settings) (written : String) (methods : MethodTable)
    (hooks : List Hook) :
    let className := ClassName.of written
    let pass := settings.dispatch className methods hooks
    pass.visits.length = hooks.length ∧
      ∀ earlier hook later, hooks = earlier ++ hook :: later →
        let before := (settings.dispatch className methods earlier).methods
        ∃ verdict events, pass.visits[earlier.length]? = some (verdict, events) ∧
          verdict.hook = hook.name ∧ verdict.target = hook.target.reference settings.naming ∧
          verdict.ToldBy
            (before.lookup? (hook.target.nameIn settings.naming) hook.target.descriptor) events ∧
          (∀ method, hook.RunsOn settings className earlier before method →
            hook.EditsToldBy settings.naming method.body events) ∧
          ((∀ method, ¬ hook.RunsOn settings className earlier before method) →
            events.filter Event.isStep = []) ∧
          (∀ index pattern changes, verdict.outcome = .patternNotFound index pattern changes →
            (events.filter Event.isStep).length = index) ∧
          (verdict.outcome.isApplied = true ∨ (∃ fault, verdict.outcome = .invalidLabels fault) →
            (events.filter Event.isStep).length = hook.edits.length) := by
  intro className pass
  refine ⟨settings.length_visits_passFrom className [] hooks methods, ?_⟩
  rintro earlier hook later rfl before
  have names := mem_metAfterAll_nil className earlier hook
  obtain ⟨name, target⟩ := hook.verdict_visitClass settings className
    (metAfterAll className [] earlier) before
  exact ⟨_, _, settings.visits_dispatch_at className methods earlier hook later, name, target,
    hook.toldBy_visitClass settings className _ before,
    fun _ runs => Hook.editsToldBy_of_runsOn runs names,
    fun idle => Hook.filter_isStep_of_not_runsOn names idle,
    fun _ _ _ brokenOff => Hook.length_steps_of_brokenOff names brokenOff,
    fun all => Hook.length_steps_of_completed names all⟩

/-- A hook between two others that breaks off behind two changes. Its events are one for each of the
three edits that it makes, an error, and a warning, as nothing is put back. -/
theorem dispatch_tells_outcomes_half_done :
    let hook (name : String) (edits : List Edit) : Hook := {
      name, edits, target := .unmapped (.of "a.B") "run" "()V" }
    let mark : Edit := .insert [⟨0x00, .none⟩]
    let behind : Edit := .seekPast (.single ⟨0xb1, .none⟩)
    let stale := hook "stale"
      [mark, behind, .markLabel ⟨"end"⟩, .seekTo (.single ⟨0xbf, .none⟩), mark]
    let earlier := [hook "first" [mark]]
    let later := [hook "last" [mark]]
    let methods : MethodTable := [⟨"run", "()V", ⟨1⟩, [⟨0xb1, .none⟩]⟩]
    let before := (production.dispatch (.of "a.B") methods earlier).methods
    let body : Body := [⟨0x00, .none⟩, ⟨0xb1, .none⟩]
    stale.RunsOn production (.of "a.B") earlier before ⟨"run", "()V", ⟨1⟩, body⟩ ∧
      ∃ verdict events,
        (production.dispatch (.of "a.B") methods (earlier ++ stale :: later)).visits[1]? =
          some (verdict, events) ∧
        verdict.outcome = .patternNotFound 3 "[athrow]" 2 ∧
        (events.map Event.level).count .error = 1 ∧
        .leftPartial "stale" ⟨"a/B", "run", "()V"⟩ ∈ events ∧
        events.map Event.level = [.debug, .debug, .debug, .error, .warn] ∧
        events.filter Event.isStep = [.stepped "stale" 0 mark 1, .stepped "stale" 1 behind 3,
          .stepped "stale" 2 (.markLabel ⟨"end"⟩) 4] ∧
        ∃ miss, (stale.scope .remapped).step 3 (.seekTo (.single ⟨0xbf, .none⟩))
          (stale.workspaceAfter .remapped body 3) = .error miss := by
  intro hook mark behind stale earlier later methods before body
  have unrepeated : ¬ stale.Repeats (.of "a.B") earlier := by
    unfold Hook.Repeats
    decide +kernel
  have runs : stale.RunsOn production (.of "a.B") earlier before ⟨"run", "()V", ⟨1⟩, body⟩ :=
    ⟨by decide +kernel, unrepeated, by decide +kernel, by decide +kernel, by decide +kernel⟩
  have made : stale.stepEvents .remapped body = [.stepped "stale" 0 mark 1,
      .stepped "stale" 1 behind 3, .stepped "stale" 2 (.markLabel ⟨"end"⟩) 4] := by
    have count : stale.madeCount .remapped body = 3 := by decide +kernel
    have first : (stale.workspaceAfter .remapped body 1).cursor = 1 := by decide +kernel
    have second : (stale.workspaceAfter .remapped body 2).cursor = 3 := by decide +kernel
    have third : (stale.workspaceAfter .remapped body 3).cursor = 4 := by decide +kernel
    rw [Hook.stepEvents, count, ← first, ← second, ← third]
    rfl
  obtain ⟨_, tells⟩ :=
    dispatch_tells_outcomes production "a.B" methods (earlier ++ stale :: later)
  obtain ⟨verdict, events, visited, _, _, told, edits, _, brokenOff, _⟩ :=
    tells earlier stale later rfl
  have levels : events.map Event.level = [.debug, .debug, .debug, .error, .warn] := by
    have second := congrArg (Option.map fun visit => visit.2.map Event.level) visited
    exact Option.some.inj (second.symm.trans (by decide +kernel))
  obtain rfl : verdict =
      ⟨"stale", ⟨"a/B", "run", "()V"⟩, .patternNotFound 3 "[athrow]" 2, false⟩ := by
    have second := congrArg (Option.map Prod.fst) visited
    exact Option.some.inj (second.symm.trans (by decide +kernel))
  obtain ⟨reported, _, missed⟩ := edits _ runs
  rw [brokenOff _ _ _ rfl] at missed
  exact ⟨runs, _, events, visited, rfl, told.brokenOff _ _ _ rfl,
    (told.leftPartial _ _).mpr ⟨rfl, rfl, rfl, _, _, _, rfl, by decide⟩, levels,
    reported.trans made, missed _ rfl⟩

end Settings

end MethodPatch
