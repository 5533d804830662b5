/-
This file proves that under rollback a failed hook leaves no trace.

A pass over a list of hooks comes to the same as a pass over those of them that it applies. Two
things have to agree along the way. The methods do, because a hook that is not applied leaves them
as they are. The names met before do not: the shorter pass meets fewer of them. But an applied
hook reads of these names only that its own is not among them, and a name that has not been met in
the longer pass has not been met in the shorter one either.
-/

import MethodPatch.Proofs.Visit

namespace MethodPatch

/-! ### The applied hooks of a list -/

/-- The hooks of a list that were applied, going by the verdict on each. -/
def appliedHooks (hooks : List Hook) (verdicts : List Verdict) : List Hook :=
  ((hooks.zip verdicts).filter fun entry => entry.2.outcome.isApplied).map Prod.fst

theorem appliedHooks_cons_of_applied (hook : Hook) (rest : List Hook) (verdict : Verdict)
    (verdicts : List Verdict) (applied : verdict.outcome.isApplied = true) :
    appliedHooks (hook :: rest) (verdict :: verdicts) = hook :: appliedHooks rest verdicts := by
  simp [appliedHooks, applied]

theorem appliedHooks_cons_of_failed (hook : Hook) (rest : List Hook) (verdict : Verdict)
    (verdicts : List Verdict) (failed : verdict.outcome.isApplied = false) :
    appliedHooks (hook :: rest) (verdict :: verdicts) = appliedHooks rest verdicts := by
  simp [appliedHooks, failed]

/-! ### The two passes side by side -/

namespace Settings

/-- A pass over the applied hooks alone makes the visits of the whole pass that applied a hook,
and leaves the same methods. -/
theorem passFrom_appliedHooks (settings : Settings) (className : ClassName)
    (rollback : settings.rollback = true) (hooks : List Hook) (met fewer : List String)
    (subset : fewer ⊆ met) (methods : MethodTable) :
    settings.passFrom className fewer
        (appliedHooks hooks (settings.passFrom className met hooks methods).verdicts) methods =
      ⟨(settings.passFrom className met hooks methods).visits.filter fun visit =>
          visit.1.outcome.isApplied,
        (settings.passFrom className met hooks methods).methods⟩ := by
  induction hooks generalizing met fewer methods with
  | nil => rfl
  | cons hook rest inductionHypothesis =>
    set visit := hook.visitClass settings className met methods with visitDef
    set later := settings.passFrom className (metAfter className met hook) rest visit.methods
      with laterDef
    have whole : settings.passFrom className met (hook :: rest) methods =
        ⟨(visit.verdict, visit.events) :: later.visits, later.methods⟩ := rfl
    have verdicts : (settings.passFrom className met (hook :: rest) methods).verdicts =
        visit.verdict :: later.verdicts := rfl
    rw [verdicts, whole]
    cases applied : visit.verdict.outcome.isApplied with
    | true =>
      -- Both passes make this visit: neither has met the name, and the methods are the same.
      obtain ⟨here, fresh⟩ := Hook.fresh_of_visitClass_applied applied
      have same : hook.visitClass settings className fewer methods = visit := by
        rw [visitDef, Hook.visitClass_eq_visit here fresh,
          Hook.visitClass_eq_visit here fun member => fresh (subset member)]
      have metSubset : metAfter className fewer hook ⊆ metAfter className met hook := by
        rw [metAfter, metAfter, if_pos here, if_pos here]
        exact List.cons_subset_cons _ subset
      rw [appliedHooks_cons_of_applied _ _ _ _ applied, passFrom, same,
        inductionHypothesis _ _ metSubset, ← laterDef]
      simp only [List.filter_cons, applied, if_true]
    | false =>
      -- Only the longer pass comes to this hook, and it goes on with the methods it had.
      have unchanged : visit.methods = methods :=
        Hook.visitClass_methods_of_rollback rollback applied
      have metSubset : fewer ⊆ metAfter className met hook := by
        unfold metAfter
        split
        · exact List.subset_cons_of_subset _ subset
        · exact subset
      rw [appliedHooks_cons_of_failed _ _ _ _ applied, laterDef, unchanged,
        inductionHypothesis _ _ metSubset]
      simp only [List.filter_cons, applied, Bool.false_eq_true, if_false]

/-- Under rollback the hooks of a list that are applied come to the same without the others: they
leave the same methods and get the same verdicts. -/
theorem dispatch_appliedHooks (settings : Settings) (className : ClassName)
    (methods : MethodTable) (hooks : List Hook) (rollback : settings.rollback = true) :
    let whole := settings.dispatch className methods hooks
    let alone := settings.dispatch className methods (appliedHooks hooks whole.verdicts)
    alone.methods = whole.methods ∧
      alone.verdicts = whole.verdicts.filter fun verdict => verdict.outcome.isApplied := by
  intro whole alone
  have same : alone = ⟨whole.visits.filter fun visit => visit.1.outcome.isApplied, whole.methods⟩ :=
    passFrom_appliedHooks settings className rollback hooks [] [] (List.Subset.refl []) methods
  constructor
  · rw [same]
  · rw [Pass.verdicts, same, Pass.verdicts, List.filter_map]
    rfl

/-- Four hooks for one method, of which only the third is applied: the first puts code in and
then misses its pattern, the second leaves a branch to nowhere, the last repeats a name. -/
theorem dispatch_appliedHooks_third_of_four :
    let target := MappedMember.unmapped (.of "a.B") "run" "()V"
    let hooks : List Hook := [
      { name := "stale", target
        edits := [.insert [⟨0x57, .none⟩], .seekTo (.single ⟨0xbf, .none⟩)] },
      { name := "leap", target, edits := [.insert [⟨0xa7, .jump ⟨"gone"⟩⟩]] },
      { name := "count", target
        edits := [.seekTo (.single ⟨0xb1, .none⟩), .insert [⟨0x59, .none⟩]] },
      { name := "count", target, edits := [.insert [⟨0x00, .none⟩]] }]
    let whole := development.dispatch (.of "a/B") [⟨"run", "()V", ⟨1⟩, [⟨0xb1, .none⟩]⟩] hooks
    let alone := development.dispatch (.of "a/B") [⟨"run", "()V", ⟨1⟩, [⟨0xb1, .none⟩]⟩]
      (appliedHooks hooks whole.verdicts)
    development.rollback = true ∧
      whole.verdicts.map (fun verdict => verdict.outcome.isApplied) = [false, false, true, false] ∧
      alone.methods = whole.methods ∧
      alone.verdicts = whole.verdicts.filter fun verdict => verdict.outcome.isApplied :=
  ⟨rfl, by decide +kernel, dispatch_appliedHooks development _ _ _ rfl⟩

end Settings

end MethodPatch
