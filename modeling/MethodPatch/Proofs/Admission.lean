/-
This file says which hooks a catalogue takes, and that a refusal leaves no trace.

A registration goes through its conditions one after another, and the last of them asks for the
names taken so far, which a catalogue keeps apart from its hooks. Every catalogue that requests
lead to holds exactly the hooks it has accepted (`Catalogue.Holds`), so a taken name is the name of
a hook that is there, and all conditions together speak of the hook, the declared members and the
other hooks only (`Catalogue.Admits`). A list is registered hook by hook up to the first that is
refused.
-/

import MethodPatch.Proofs.Acceptance
import MethodPatch.Proofs.RegisteredHooks

namespace MethodPatch

/-! ### Declared members -/

/-- The class of a member declares it, with its kind and its descriptor, under one of its names. -/
def Declarations.Knows (declarations : Declarations) (member : MappedMember) : Prop :=
  ∃ declaration ∈ declarations, declaration.owner = member.declaringType ∧
    declaration.kind = member.kind ∧ declaration.name ∈ member.names ∧
    declaration.descriptor = member.descriptor

theorem Declarations.check_eq_ok (declarations : Declarations) (member : MappedMember) :
    declarations.check member = .ok () ↔ declarations.Knows member := by
  have declared : (member.names.any fun name =>
      declarations.declares ⟨member.declaringType, member.kind, name, member.descriptor⟩) = true ↔
        declarations.Knows member := by
    simp only [List.any_eq_true, declares, List.contains_iff_mem]
    constructor
    · rintro ⟨name, named, there⟩
      exact ⟨_, there, rfl, rfl, named, rfl⟩
    · rintro ⟨⟨owner, kind, name, descriptor⟩, there, rfl, rfl, named, rfl⟩
      exact ⟨name, named, there⟩
  rw [← declared, check]
  split
  · next found => simp [found]
  · next missing => simp [missing]

/-- A hook mentions its target and every mapped member that its edits are written with. -/
def Hook.Mentions (hook : Hook) (member : MappedMember) : Prop :=
  member = hook.target ∨
    ∃ edit ∈ hook.edits, ∃ instruction ∈ edit.instructions, instruction.operand = .mapped member

theorem Hook.mem_target_mapped {hook : Hook} {member : MappedMember} :
    member ∈ hook.target :: hook.mapped ↔ hook.Mentions member := by
  simp only [List.mem_cons, mapped, Edit.mapped, List.mem_flatMap, List.mem_filterMap,
    Instruction.mapped?_eq_some, Mentions]

namespace Catalogue

variable {catalogue : Catalogue} {hook : Hook} {hooks : List Hook}

/-- If members are validated and declarations are at hand, every member that a hook mentions is
declared. -/
def Declares (catalogue : Catalogue) (hook : Hook) : Prop :=
  catalogue.settings.validateMembers = true →
    ∀ declarations, catalogue.declarations = some declarations →
      ∀ member, hook.Mentions member → declarations.Knows member

theorem exists_checkMembers_eq_ok (catalogue : Catalogue) (hook : Hook) :
    (∃ events, catalogue.checkMembers hook = .ok events) ↔ catalogue.Declares hook := by
  unfold checkMembers Declares
  cases catalogue.settings.validateMembers with
  | false => simp
  | true =>
    cases catalogue.declarations with
    | none => simp
    | some declarations =>
      simp only [if_true, check_bind_eq_ok, forM_eq_ok, Declarations.check_eq_ok,
        Hook.mem_target_mapped, Option.some.injEq, forall_const, forall_eq']
      exact ⟨fun ⟨_, known, _⟩ => known, fun known => ⟨[], known, rfl⟩⟩

/-! ### Reachable catalogues -/

/-- The catalogues that requests lead to. What is declared may change between two of them. -/
inductive Reachable : Catalogue → Prop where
  | empty (settings : Settings) (declarations : Option Declarations) :
    Reachable (.empty settings declarations)
  | register {catalogue : Catalogue} (before : Reachable catalogue) (hook : Hook) :
    Reachable (catalogue.register hook).state
  | registerAll {catalogue : Catalogue} (before : Reachable catalogue) (hooks : List Hook) :
    Reachable (catalogue.registerAll hooks).state
  | close {catalogue : Catalogue} (before : Reachable catalogue) : Reachable catalogue.close.state
  | declare {catalogue : Catalogue} (before : Reachable catalogue)
    (declarations : Option Declarations) :
    Reachable { catalogue with declarations := declarations }

theorem Holds.declare (holds : Holds catalogue hooks) (declarations : Option Declarations) :
    Holds { catalogue with declarations := declarations } hooks :=
  ⟨holds.sound, holds.names, holds.distinct, holds.hooksFor, holds.shelved, holds.classes⟩

theorem Reachable.exists_holds (reachable : catalogue.Reachable) :
    ∃ hooks, Holds catalogue hooks := by
  induction reachable with
  | empty settings declarations => exact ⟨[], .empty settings declarations⟩
  | register before hook inductionHypothesis =>
    obtain ⟨hooks, holds⟩ := inductionHypothesis
    exact ⟨_, holds.register hook⟩
  | registerAll before list inductionHypothesis =>
    obtain ⟨hooks, holds⟩ := inductionHypothesis
    exact ⟨_, holds.registerAll list⟩
  | close before inductionHypothesis =>
    obtain ⟨hooks, holds⟩ := inductionHypothesis
    exact ⟨hooks, holds.close⟩
  | declare before declarations inductionHypothesis =>
    obtain ⟨hooks, holds⟩ := inductionHypothesis
    exact ⟨hooks, holds.declare declarations⟩

/-- Whatever a loader is asked to do, it comes to a reachable catalogue. -/
theorem Reachable.after {loader : Loader} (reachable : loader.catalogue.Reachable)
    (commands : List Loader.Command) : (loader.after commands).catalogue.Reachable := by
  induction commands generalizing loader with
  | nil => exact reachable
  | cons command rest inductionHypothesis =>
    have next : (loader.perform command).state.catalogue.Reachable := by
      cases command with
      | register hook => exact reachable.register hook
      | registerAll hooks => exact reachable.registerAll hooks
      | close => exact reachable.close
      | transform file =>
        have same : (loader.perform (.transform file)).state.catalogue =
          loader.catalogue.close.state := loader.catalogue_transform file
        rw [same]
        exact reachable.close
    exact inductionHypothesis next

/-! ### One hook -/

/-- What a hook has to be for a catalogue to take it. -/
structure Admits (catalogue : Catalogue) (hook : Hook) : Prop where
  isOpen : catalogue.closed = false
  ofMethod : hook.target.kind = .method
  fitting : ∀ edit ∈ hook.edits, ∀ instruction ∈ edit.instructions, instruction.check = .ok ()
  distinct : hook.anchors.Nodup
  fresh : ∀ other ∈ catalogue.hooks, other.name ≠ hook.name
  declared : catalogue.Declares hook

theorem Holds.mem_names (holds : Holds catalogue hooks) (name : String) :
    name ∈ catalogue.names ↔ ∃ other ∈ catalogue.hooks, other.name = name := by
  rw [← List.mem_reverse, holds.names, List.mem_map]
  simp only [holds.hooks_perm.mem_iff]

theorem Holds.register_eq_ok (holds : Holds catalogue hooks) (hook : Hook) :
    (catalogue.register hook).value = .ok () ↔ catalogue.Admits hook := by
  constructor
  · intro taken
    have registration := registration_register catalogue hook
    generalize catalogue.register hook = reply at registration taken
    cases registration with
    | closed | unsound | undeclared | nameTaken => cases taken
    | accepted isOpen sound events declared fresh =>
      obtain ⟨ofMethod, edits, distinct⟩ := hook.check_eq_ok.mp sound
      exact {
        isOpen, ofMethod, distinct
        fitting := fun edit there => edit.check_eq_ok.mp (edits edit there)
        fresh := fun other there same => fresh ((holds.mem_names _).mpr ⟨other, there, same⟩)
        declared := (catalogue.exists_checkMembers_eq_ok hook).mp ⟨events, declared⟩ }
  · intro admits
    have sound : hook.check = .ok () := hook.check_eq_ok.mpr
      ⟨admits.ofMethod, fun edit there => edit.check_eq_ok.mpr (admits.fitting edit there),
        admits.distinct⟩
    have fresh : hook.name ∉ catalogue.names := by
      intro taken
      obtain ⟨other, there, same⟩ := (holds.mem_names _).mp taken
      exact admits.fresh other there same
    obtain ⟨events, declared⟩ := (catalogue.exists_checkMembers_eq_ok hook).mpr admits.declared
    simp [Catalogue.register, admits.isOpen, sound, declared, fresh]

theorem Holds.hooks_register_perm (holds : Holds catalogue hooks)
    (taken : (catalogue.register hook).value = .ok ()) :
    (catalogue.register hook).state.hooks.Perm (hook :: catalogue.hooks) := by
  have accepted : catalogue.accepted [hook] = [hook] := by simp [Catalogue.accepted, taken]
  have after := holds.register hook
  rw [accepted] at after
  calc (catalogue.register hook).state.hooks
    List.Perm _ (hooks ++ [hook]) := after.hooks_perm
    List.Perm _ (hook :: hooks) := List.perm_append_comm
    List.Perm _ (hook :: catalogue.hooks) := holds.hooks_perm.symm.cons hook

theorem state_of_refused {error : PatchError}
    (refused : (catalogue.register hook).value = .error error) :
    (catalogue.register hook).state = catalogue := by
  have registration := registration_register catalogue hook
  generalize catalogue.register hook = reply at registration refused
  cases registration with
  | closed | unsound | undeclared | nameTaken => rfl
  | accepted => cases refused

/-! ### Several hooks -/

/-- The hooks of a list are taken one after another. -/
inductive TakesEach : Catalogue → List Hook → Catalogue → Prop where
  | nil (catalogue : Catalogue) : TakesEach catalogue [] catalogue
  | cons {catalogue last : Catalogue} {hook : Hook} {rest : List Hook}
      (first : (catalogue.register hook).value = .ok ())
      (later : TakesEach (catalogue.register hook).state rest last) :
    TakesEach catalogue (hook :: rest) last

theorem exists_takesEach (catalogue : Catalogue) (list : List Hook) :
    let reply := catalogue.registerAll list
    ∃ before, TakesEach catalogue before reply.state ∧
      (before = list ∧ reply.value = .ok () ∨
        ∃ hook rest error, list = before ++ hook :: rest ∧
          (reply.state.register hook).value = .error error ∧ reply.value = .error error) := by
  intro reply
  induction list generalizing catalogue with
  | nil => exact ⟨[], .nil catalogue, Or.inl ⟨rfl, rfl⟩⟩
  | cons hook rest inductionHypothesis =>
    cases answer : (catalogue.register hook).value with
    | error error =>
      have stopped : reply = catalogue.register hook := by
        simp only [reply, registerAll, answer]
      have same : reply.state = catalogue := by rw [stopped, state_of_refused answer]
      refine ⟨[], ?_, Or.inr ⟨hook, rest, error, rfl, ?_, ?_⟩⟩
      · rw [same]
        exact .nil catalogue
      · rw [same, answer]
      · rw [stopped, answer]
    | ok =>
      obtain ⟨before, takes, ending⟩ := inductionHypothesis (catalogue.register hook).state
      have state : reply.state = ((catalogue.register hook).state.registerAll rest).state := by
        simp only [reply, registerAll, answer]
      have value : reply.value = ((catalogue.register hook).state.registerAll rest).value := by
        simp only [reply, registerAll, answer]
      rw [state, value]
      refine ⟨hook :: before, .cons answer takes, ?_⟩
      rcases ending with ⟨rfl, taken⟩ | ⟨refusedHook, later, error, rfl, refused, failed⟩
      · exact Or.inl ⟨rfl, taken⟩
      · exact Or.inr ⟨refusedHook, later, error, rfl, refused, failed⟩

/-- Whatever requests came before, a catalogue takes a hook exactly when it is still open, the hook
is for a method, all its instructions have operands that fit, it anchors no label twice, no hook of
its name is there, and, where members are validated against declarations, all members it mentions
are declared. The hook is then there beside the others, and a refusal leaves the catalogue as it
was. A list of hooks leaves the catalogue in which the hooks before its first refused one have been
taken one after another. -/
theorem register_iff_admits (reachable : catalogue.Reachable) :
    (∀ hook, (catalogue.register hook).value = .ok () ↔ catalogue.Admits hook) ∧
    (∀ hook, (catalogue.register hook).value = .ok () →
      (catalogue.register hook).state.hooks.Perm (hook :: catalogue.hooks)) ∧
    (∀ hook error, (catalogue.register hook).value = .error error →
      (catalogue.register hook).state = catalogue) ∧
    ∀ list : List Hook,
      let reply := catalogue.registerAll list
      ∃ before, TakesEach catalogue before reply.state ∧
        (before = list ∧ reply.value = .ok () ∨
          ∃ hook rest error, list = before ++ hook :: rest ∧
            (reply.state.register hook).value = .error error ∧ reply.value = .error error) := by
  obtain ⟨hooks, holds⟩ := reachable.exists_holds
  exact ⟨holds.register_eq_ok, fun hook => holds.hooks_register_perm,
    fun hook error => state_of_refused, catalogue.exists_takesEach⟩

/-- One hook is there and its name is taken. Of three more that are registered together the second
mentions a field that its class declares as a method only, so the first of them stays and the third
is not reached, which would have been taken. -/
theorem register_iff_admits_second_of_three :
    let owner : ClassName := .of "a.B"
    let declarations : Declarations := [
      ⟨owner, .method, "run", "()V"⟩, ⟨owner, .method, "f_2", "J"⟩, ⟨owner, .field, "f_1", "J"⟩]
    let hook (name primary alternate : String) : Hook := {
      name, target := .unmapped owner "run" "()V"
      edits := [.seekPast (.single ⟨0xb2, .mapped (.of .field owner primary alternate "J")⟩),
        .insert [.anchor ⟨"here"⟩]] }
    let earlier := hook "earlier" "f_1" "size"
    let first := hook "first" "size" "f_1"
    let second := hook "second" "count" "f_2"
    let third := hook "third" "f_1" "f_3"
    let start := Loader.start (.empty .production (some declarations))
    let catalogue := (start.after [.register earlier]).catalogue
    let reply := catalogue.registerAll [first, second, third]
    catalogue.Reachable ∧
      (¬ catalogue.Admits earlier ∧ (catalogue.register earlier).state = catalogue) ∧
      (catalogue.Admits first ∧ ¬ catalogue.Admits second ∧ catalogue.Admits third) ∧
      (∃ before refused rest, [first, second, third] = before ++ refused :: rest ∧
        TakesEach catalogue before reply.state ∧ ¬ reply.state.Admits refused) ∧
      reply.state.names = ["first", "earlier"] := by
  intro owner declarations hook earlier first second third start catalogue reply
  have empty : start.catalogue.Reachable := .empty .production (some declarations)
  have reachable : catalogue.Reachable := empty.after [.register earlier]
  have reachableAfter : reply.state.Reachable := reachable.registerAll [first, second, third]
  have isOk {value : Except PatchError Unit} : value.isOk = true ↔ value = .ok () := by
    cases value <;> simp [Except.isOk, Except.toBool]
  obtain ⟨takes, _, refuses, listed⟩ := register_iff_admits reachable
  have refusesEarlier : (catalogue.register earlier).value.isOk = false := by decide +kernel
  have refusesSecond : (catalogue.register second).value.isOk = false := by decide +kernel
  have stops : reply.value.isOk = false := by decide +kernel
  have notAdmitted {other : Hook} (refused : (catalogue.register other).value.isOk = false) :
      ¬ catalogue.Admits other := by
    intro admits
    cases refused.symm.trans (isOk.mpr ((takes other).mpr admits))
  refine ⟨reachable, ⟨notAdmitted refusesEarlier, ?_⟩, ⟨?_, notAdmitted refusesSecond, ?_⟩, ?_,
    by decide +kernel⟩
  · cases answer : (catalogue.register earlier).value with
    | error error => exact refuses earlier error answer
    | ok => cases refusesEarlier.symm.trans (isOk.mpr answer)
  · exact (takes first).mp (isOk.mp (by decide +kernel))
  · exact (takes third).mp (isOk.mp (by decide +kernel))
  · obtain ⟨before, each, ⟨rfl, taken⟩ | ⟨refused, rest, error, split, failed, _⟩⟩ :=
      listed [first, second, third]
    · cases stops.symm.trans (isOk.mpr taken)
    · obtain ⟨takesAfter, _⟩ := register_iff_admits reachableAfter
      refine ⟨before, refused, rest, split, each, fun admits => ?_⟩
      cases failed.symm.trans ((takesAfter refused).mpr admits)

end Catalogue

end MethodPatch
