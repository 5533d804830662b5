/-
This file proves that hooks for different methods do not get in each other's way.

A visit reads no more of the methods than the first one that its target names, and what it changes
is the body of that method (`Hook.remade`). So two hooks one after the other that name different
targets can change places: each gets the verdict it got before, and the methods end up the same. A
list whose hooks stand in another order, but in the same order for each target, is brought into the
first order one hook at a time: the hook that comes first is moved to the front past hooks for
other targets only.
-/

import MethodPatch.Proofs.Visit
import Mathlib.Data.List.Nodup
import Mathlib.Data.List.Perm.Basic

namespace MethodPatch

/-! ### What a visit reads and writes -/

namespace Hook

variable {settings : Settings} {className : ClassName} {met : List String} {hook other : Hook}
  {methods : MethodTable}

/-- The name and the descriptor of the method that a hook is for under a naming scheme. -/
def signature (hook : Hook) (naming : Naming) : String × String :=
  (hook.target.nameIn naming, hook.target.descriptor)

/-- What becomes of the first method that the target of a hook names. -/
def remade (settings : Settings) (className : ClassName) (met : List String) (hook : Hook)
    (method : Method) : Method :=
  if hook.targetClass = className ∧ hook.name ∉ met ∧ method.hasBody = true then
    { method with body := (hook.patch settings method.body).body }
  else method

/-- What becomes of all methods. -/
def remake (settings : Settings) (className : ClassName) (met : List String) (hook : Hook)
    (methods : MethodTable) : MethodTable :=
  methods.update (hook.target.nameIn settings.naming) hook.target.descriptor
    (hook.remade settings className met)

theorem isCalled_remade (method : Method) (name descriptor : String) :
    (hook.remade settings className met method).isCalled name descriptor =
      method.isCalled name descriptor := by
  unfold remade
  split <;> rfl

/-- A visit changes the first method that its target names and no other. -/
theorem methods_visitClass (settings : Settings) (className : ClassName) (met : List String)
    (hook : Hook) (methods : MethodTable) :
    (hook.visitClass settings className met methods).methods =
      hook.remake settings className met methods := by
  unfold remake
  have encounter := encounter_visitClass settings className met hook methods
  generalize hook.visitClass settings className met methods = visit at encounter
  cases encounter with
  | elsewhere other =>
    have unchanged : hook.remade settings className met = id :=
      funext fun method => if_neg fun patched => other patched.1
    rw [unchanged, MethodTable.update_id]
  | repeated here again =>
    have unchanged : hook.remade settings className met = id :=
      funext fun method => if_neg fun patched => patched.2.1 again
    rw [unchanged, MethodTable.update_id]
  | missing here fresh absent =>
    refine (MethodTable.update_id methods).symm.trans (methods.update_congr fun method found => ?_)
    cases absent.symm.trans found
  | bodiless here fresh method found without =>
    refine (MethodTable.update_id methods).symm.trans (methods.update_congr fun other there => ?_)
    obtain rfl : method = other := Option.some.inj (found.symm.trans there)
    exact (if_neg fun patched => Bool.false_ne_true (without.symm.trans patched.2.2)).symm
  | patched here fresh method found within =>
    refine methods.update_congr fun other there => ?_
    obtain rfl : method = other := Option.some.inj (found.symm.trans there)
    exact (if_pos ⟨here, fresh, within⟩).symm

/-- What is said of a visit hangs on the first method that its target names and on no other. -/
theorem visitClass_congr {others : MethodTable}
    (same : others.lookup? (hook.target.nameIn settings.naming) hook.target.descriptor =
      methods.lookup? (hook.target.nameIn settings.naming) hook.target.descriptor) :
    hook.visitClass settings className met others =
      { hook.visitClass settings className met methods with
        methods := hook.remake settings className met others } := by
  rw [← methods_visitClass]
  unfold visitClass
  split
  · rfl
  · split
    · rfl
    · simp only [visit, MappedMember.reference, same]
      split
      · rfl
      · split <;> rfl

/-- A hook leaves the target of another as it was, unless both are for the same method. -/
theorem lookup?_remake
    (apart : hook.signature settings.naming ≠ other.signature settings.naming) :
    (hook.remake settings className met methods).lookup? (other.target.nameIn settings.naming)
        other.target.descriptor =
      methods.lookup? (other.target.nameIn settings.naming) other.target.descriptor :=
  MethodTable.lookup?_update_of_ne apart (fun method => isCalled_remade method _ _) methods

theorem remake_comm (apart : hook.signature settings.naming ≠ other.signature settings.naming) :
    other.remake settings className met (hook.remake settings className met methods) =
      hook.remake settings className met (other.remake settings className met methods) :=
  MethodTable.update_comm apart (fun method => isCalled_remade method _ _)
    (fun method => isCalled_remade method _ _) methods

theorem visitClass_of_same_met {otherMet : List String}
    (same : hook.name ∈ otherMet ↔ hook.name ∈ met) :
    hook.visitClass settings className otherMet methods =
      hook.visitClass settings className met methods := by
  simp only [visitClass, same]

theorem mem_metAfter_of_ne {name : String} (different : name ≠ hook.name) :
    name ∈ Settings.metAfter className met hook ↔ name ∈ met := by
  unfold Settings.metAfter
  split
  · rw [List.mem_cons, or_iff_right different]
  · rfl

end Hook

/-! ### Two hooks for different targets -/

namespace Settings

variable (settings : Settings) (className : ClassName)

theorem passFrom_of_same_met {met otherMet : List String}
    (same : ∀ name, name ∈ otherMet ↔ name ∈ met) (hooks : List Hook) (methods : MethodTable) :
    settings.passFrom className otherMet hooks methods =
      settings.passFrom className met hooks methods := by
  induction hooks generalizing met otherMet methods with
  | nil => rfl
  | cons hook rest inductionHypothesis =>
    have sameAfter : ∀ name, name ∈ metAfter className otherMet hook ↔
        name ∈ metAfter className met hook := by
      intro name
      unfold metAfter
      split
      · rw [List.mem_cons, List.mem_cons, same]
      · exact same name
    rw [passFrom, passFrom, Hook.visitClass_of_same_met (same hook.name),
      inductionHypothesis sameAfter]

theorem mem_metAfter_metAfter (met : List String) (first second : Hook) (name : String) :
    name ∈ metAfter className (metAfter className met first) second ↔
      name ∈ metAfter className (metAfter className met second) first := by
  by_cases firstHere : first.targetClass = className
  · by_cases secondHere : second.targetClass = className
    · simp only [metAfter, firstHere, secondHere, if_true, List.mem_cons]
      exact or_left_comm
    · simp only [metAfter, firstHere, secondHere, if_true, if_false]
  · simp only [metAfter, firstHere, if_false]

/-- Behind a hook of another name for another target a hook is visited as in its place. -/
theorem visitClass_behind {first second : Hook}
    (apart : first.signature settings.naming ≠ second.signature settings.naming)
    (distinct : first.name ≠ second.name) (met : List String) (methods : MethodTable) :
    let alone := second.visitClass settings className met methods
    second.visitClass settings className (metAfter className met first)
        (first.visitClass settings className met methods).methods =
      ⟨alone.verdict, alone.events,
        second.remake settings className met (first.remake settings className met methods)⟩ := by
  intro alone
  rw [Hook.visitClass_of_same_met (Hook.mem_metAfter_of_ne distinct.symm), Hook.methods_visitClass,
    Hook.visitClass_congr (Hook.lookup?_remake apart)]

/-- Two hooks of different names for different targets can change places: each is visited as
before, and so are the hooks behind them. -/
theorem passFrom_swap {first second : Hook}
    (apart : first.signature settings.naming ≠ second.signature settings.naming)
    (distinct : first.name ≠ second.name) (met : List String) (rest : List Hook)
    (methods : MethodTable) :
    ∃ (onFirst onSecond : Verdict × List Event) (later : Pass),
      settings.passFrom className met (first :: second :: rest) methods =
        ⟨onFirst :: onSecond :: later.visits, later.methods⟩ ∧
      settings.passFrom className met (second :: first :: rest) methods =
        ⟨onSecond :: onFirst :: later.visits, later.methods⟩ := by
  let onFirst := first.visitClass settings className met methods
  let onSecond := second.visitClass settings className met methods
  have sameMet := settings.passFrom_of_same_met className
    (mem_metAfter_metAfter className met second first)
  refine ⟨(onFirst.verdict, onFirst.events), (onSecond.verdict, onSecond.events),
    settings.passFrom className (metAfter className (metAfter className met first) second) rest
      (second.remake settings className met (first.remake settings className met methods)), ?_, ?_⟩
  · simp only [passFrom, settings.visitClass_behind className apart distinct met methods]
    rfl
  · simp only [passFrom, settings.visitClass_behind className apart.symm distinct.symm met methods,
      Hook.remake_comm apart, sameMet]
    rfl

/-- A hook can be moved to the front past hooks of other names for other targets. -/
theorem passFrom_move (hook : Hook) (ahead behind : List Hook)
    (apart : ∀ other ∈ ahead, other.signature settings.naming ≠ hook.signature settings.naming)
    (distinct : ∀ other ∈ ahead, other.name ≠ hook.name) (met : List String)
    (methods : MethodTable) :
    let moved := settings.passFrom className met (hook :: (ahead ++ behind)) methods
    let pass := settings.passFrom className met (ahead ++ hook :: behind) methods
    pass.methods = moved.methods ∧
      ((ahead ++ hook :: behind).zip pass.visits).Perm
        ((hook :: (ahead ++ behind)).zip moved.visits) := by
  induction ahead generalizing met methods with
  | nil => exact ⟨rfl, List.Perm.refl _⟩
  | cons first ahead inductionHypothesis =>
    obtain ⟨apartHere, apartLater⟩ := List.forall_mem_cons.mp apart
    obtain ⟨distinctHere, distinctLater⟩ := List.forall_mem_cons.mp distinct
    obtain ⟨onFirst, onHook, later, firstAhead, hookAhead⟩ := settings.passFrom_swap className
      apartHere distinctHere met (ahead ++ behind) methods
    let visit := first.visitClass settings className met methods
    obtain ⟨sameMethods, sameVisits⟩ := inductionHypothesis apartLater distinctLater
      (metAfter className met first) visit.methods
    have unfolded : settings.passFrom className met (first :: hook :: (ahead ++ behind)) methods =
        ⟨(visit.verdict, visit.events) :: (settings.passFrom className
            (metAfter className met first) (hook :: (ahead ++ behind)) visit.methods).visits,
          (settings.passFrom className (metAfter className met first)
            (hook :: (ahead ++ behind)) visit.methods).methods⟩ := rfl
    obtain ⟨visits, movedMethods⟩ := Pass.mk.inj (unfolded.symm.trans firstAhead)
    obtain ⟨visited, movedVisits⟩ := List.cons.inj visits
    intro moved pass
    have movedEq : moved = ⟨onHook :: onFirst :: later.visits, later.methods⟩ := hookAhead
    rw [movedVisits] at sameVisits
    rw [movedEq]
    refine ⟨sameMethods.trans movedMethods, ?_⟩
    have behindFirst := sameVisits.cons (first, onFirst)
    rw [← visited] at behindFirst ⊢
    exact behindFirst.trans (List.Perm.swap _ _ _)

/-- The hooks of a list for the method of a name and a descriptor, in order. -/
def forSignature (signature : String × String) (hooks : List Hook) : List Hook :=
  hooks.filter fun hook => hook.signature settings.naming = signature

theorem forSignature_append (signature : String × String) (first second : List Hook) :
    settings.forSignature signature (first ++ second) =
      settings.forSignature signature first ++ settings.forSignature signature second :=
  List.filter_append ..

/-- A list of hooks that stand in another order, but in the same order for each target, leaves the
same methods, and each hook is visited alike. -/
theorem passFrom_of_same_order (hooks others : List Hook)
    (distinct : (hooks.map Hook.name).Nodup) (perm : hooks.Perm others)
    (ordered : ∀ signature,
      settings.forSignature signature hooks = settings.forSignature signature others)
    (met : List String) (methods : MethodTable) :
    let pass := settings.passFrom className met hooks methods
    let otherPass := settings.passFrom className met others methods
    otherPass.methods = pass.methods ∧
      (others.zip otherPass.visits).Perm (hooks.zip pass.visits) := by
  induction hooks generalizing others met methods with
  | nil =>
    obtain rfl := perm.nil_eq
    exact ⟨rfl, List.Perm.refl _⟩
  | cons hook rest inductionHypothesis =>
    obtain ⟨fresh, distinctRest⟩ := List.nodup_cons.mp distinct
    -- In the other list this hook stands behind hooks for other targets only.
    have first := ordered (hook.signature settings.naming)
    rw [forSignature, List.filter_cons_of_pos (by simp)] at first
    obtain ⟨ahead, behind, rfl, apart, _, same⟩ := List.filter_eq_cons_iff.mp first.symm
    simp only [decide_eq_true_eq] at apart
    have permRest : rest.Perm (ahead ++ behind) := (perm.trans List.perm_middle).cons_inv
    have distinctAhead : ∀ other ∈ ahead, other.name ≠ hook.name := fun other member sameName =>
      fresh (sameName ▸ List.mem_map_of_mem
        (permRest.symm.subset (List.mem_append_left behind member)))
    have orderedRest : ∀ signature, settings.forSignature signature rest =
        settings.forSignature signature (ahead ++ behind) := by
      intro signature
      by_cases own : hook.signature settings.naming = signature
      · subst own
        have none : settings.forSignature (hook.signature settings.naming) ahead = [] :=
          List.filter_eq_nil_iff.mpr (by simpa using apart)
        rw [forSignature_append, none]
        exact same.symm
      · have others := ordered signature
        simp only [forSignature, List.filter_append, List.filter_cons, own, decide_false,
          Bool.false_eq_true, if_false] at others ⊢
        exact others
    obtain ⟨sameMethods, sameVisits⟩ := inductionHypothesis (ahead ++ behind) distinctRest permRest
      orderedRest (metAfter className met hook)
      (hook.visitClass settings className met methods).methods
    obtain ⟨movedMethods, movedVisits⟩ :=
      settings.passFrom_move className hook ahead behind apart distinctAhead met methods
    exact ⟨movedMethods.trans sameMethods, movedVisits.trans (sameVisits.cons _)⟩

/-! ### Two lists in different orders -/

/-- Two values of a list without repetition cannot stand in either order. -/
theorem eq_of_pair_sublist {Value : Type} {values : List Value} (distinct : values.Nodup)
    {first second : Value} (forth : [first, second].Sublist values)
    (back : [second, first].Sublist values) : first = second := by
  induction values with
  | nil => cases forth
  | cons head rest inductionHypothesis =>
    obtain ⟨fresh, distinctRest⟩ := List.nodup_cons.mp distinct
    cases forth with
    | cons _ forth =>
      cases back with
      | cons _ back => exact inductionHypothesis distinctRest forth back
      | cons_cons _ back => exact absurd (forth.subset (by simp)) fresh
    | cons_cons _ forth =>
      cases back with
      | cons _ back => exact absurd (back.subset (by simp)) fresh
      | cons_cons _ back => rfl

/-- Without repetition a list is determined by its values and their order two by two. -/
theorem eq_of_perm_of_order {Value : Type} {values others : List Value} (distinct : values.Nodup)
    (perm : values.Perm others)
    (ordered : ∀ first second, [first, second].Sublist values → [first, second].Sublist others) :
    values = others := by
  have distinctOthers : others.Nodup := perm.nodup_iff.mp distinct
  have valuesInOrder : values.Pairwise fun first second => [first, second].Sublist others :=
    List.pairwise_iff_forall_sublist.mpr fun {first second} => ordered first second
  have othersInOrder : others.Pairwise fun first second => [first, second].Sublist others :=
    List.pairwise_iff_forall_sublist.mpr fun {_ _} inOrder => inOrder
  exact perm.eq_of_pairwise (fun _ _ _ _ forth back => eq_of_pair_sublist distinctOthers forth back)
    valuesInOrder othersInOrder

theorem length_visits_passFrom (met : List String) (hooks : List Hook) (methods : MethodTable) :
    (settings.passFrom className met hooks methods).visits.length = hooks.length := by
  induction hooks generalizing met methods with
  | nil => rfl
  | cons hook rest inductionHypothesis =>
    exact congrArg (· + 1) (inductionHypothesis _ _)

/-- Every hook of a list gets one verdict. -/
theorem length_verdicts_dispatch (methods : MethodTable) (hooks : List Hook) :
    (settings.dispatch className methods hooks).verdicts.length = hooks.length :=
  (List.length_map _).trans (settings.length_visits_passFrom className [] hooks methods)

/-- Hooks of different names can be dispatched in any order that keeps the order of the hooks for
each target: the methods end up the same, and each hook gets the same verdict. -/
theorem dispatch_of_same_order (methods : MethodTable) (hooks others : List Hook)
    (distinct : (hooks.map Hook.name).Nodup) (perm : hooks.Perm others)
    (ordered : ∀ first second,
      first.signature settings.naming = second.signature settings.naming →
        [first, second].Sublist hooks → [first, second].Sublist others) :
    let pass := settings.dispatch className methods hooks
    let otherPass := settings.dispatch className methods others
    otherPass.methods = pass.methods ∧ pass.verdicts.length = hooks.length ∧
      otherPass.verdicts.length = others.length ∧
      (others.zip otherPass.verdicts).Perm (hooks.zip pass.verdicts) := by
  intro pass otherPass
  have sameOrder : ∀ signature,
      settings.forSignature signature hooks = settings.forSignature signature others := by
    intro signature
    refine eq_of_perm_of_order ((List.Nodup.of_map _ distinct).filter _) (perm.filter _)
      fun first second inOrder => ?_
    have mine : ∀ hook ∈ [first, second], hook.signature settings.naming = signature :=
      fun hook member => by simpa using (List.mem_filter.mp (inOrder.subset member)).2
    have inHooks : [first, second].Sublist hooks := inOrder.trans List.filter_sublist
    have alike := (mine first (by simp)).trans (mine second (by simp)).symm
    have inOthers := ordered first second alike inHooks
    have kept := inOthers.filter fun hook => hook.signature settings.naming = signature
    rwa [List.filter_eq_self.mpr fun hook member => decide_eq_true (mine hook member)] at kept
  obtain ⟨sameMethods, sameVisits⟩ :=
    settings.passFrom_of_same_order className hooks others distinct perm sameOrder [] methods
  refine ⟨sameMethods, ?_, ?_, ?_⟩
  · exact (List.length_map _).trans (settings.length_visits_passFrom className [] hooks methods)
  · exact (List.length_map _).trans (settings.length_visits_passFrom className [] others methods)
  · rw [Pass.verdicts, Pass.verdicts, List.zip_map_right, List.zip_map_right]
    exact sameVisits.map _

/-- Five hooks in two orders. Two are for one method, and the second of them finds what the first
put in before it missed its pattern; the others are for another method, for a method that is not
there, and for another class. -/
theorem dispatch_of_same_order_five_hooks :
    let mark : Instruction := ⟨0x00, .none⟩
    let run := MappedMember.unmapped (.of "a.B") "run" "()V"
    let broken : Hook := {
      name := "broken", target := run
      edits := [.insert [mark], .seekTo (.single ⟨0xbf, .none⟩)] }
    let after : Hook := {
      name := "after", target := run
      edits := [.replace (.single mark) [⟨0x59, .none⟩, ⟨0x57, .none⟩]] }
    let tick : Hook := {
      name := "tick", target := .of .method (.of "a.B") "tick" "func_1" "()V"
      edits := [.insert [mark]] }
    let absent : Hook := {
      name := "absent", target := .unmapped (.of "a.B") "gone" "()V", edits := [] }
    let foreign : Hook := {
      name := "foreign", target := .unmapped (.of "a.C") "run" "()V", edits := [.insert [mark]] }
    let hooks := [broken, tick, after, absent, foreign]
    let others := [absent, broken, after, foreign, tick]
    let methods : MethodTable :=
      [⟨"run", "()V", ⟨1⟩, [⟨0xb1, .none⟩]⟩, ⟨"func_1", "()V", ⟨1⟩, [⟨0xb1, .none⟩]⟩]
    let pass := Settings.production.dispatch (.of "a/B") methods hooks
    let otherPass := Settings.production.dispatch (.of "a/B") methods others
    (hooks.map Hook.name).Nodup ∧ hooks.Perm others ∧
      (∀ first second, first.signature Settings.production.naming =
        second.signature Settings.production.naming →
          [first, second].Sublist hooks → [first, second].Sublist others) ∧
      pass.verdicts.map (fun verdict => verdict.outcome.isApplied) =
        [false, true, true, false, false] ∧
      otherPass.methods = pass.methods ∧
      (others.zip otherPass.verdicts).Perm (hooks.zip pass.verdicts) := by
  intro mark run broken after tick absent foreign hooks others methods pass otherPass
  have distinct : (hooks.map Hook.name).Nodup := by decide +kernel
  have perm : hooks.Perm others := by decide +kernel
  have ordered : ∀ first second, first.signature Settings.production.naming =
      second.signature Settings.production.naming →
        [first, second].Sublist hooks → [first, second].Sublist others := by
    have inPairs : ∀ first ∈ hooks, ∀ second ∈ hooks,
        first.signature Settings.production.naming = second.signature Settings.production.naming →
          [first, second].Sublist hooks → [first, second].Sublist others := by decide +kernel
    exact fun first second same inOrder => inPairs first (inOrder.subset (by simp)) second
      (inOrder.subset (by simp)) same inOrder
  obtain ⟨sameMethods, _, _, sameVerdicts⟩ :=
    dispatch_of_same_order .production (.of "a/B") methods hooks others distinct perm ordered
  exact ⟨distinct, perm, ordered, by decide +kernel, sameMethods, sameVerdicts⟩

end Settings

end MethodPatch
