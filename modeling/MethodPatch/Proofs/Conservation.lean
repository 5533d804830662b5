/-
This file proves that edits neither lose nor repeat an instruction.

Every edit exchanges one window of the body for the code it brings along; unless it replaces code,
the window is empty. So after any number of edits the body, together with the windows taken out, is
a rearrangement of the body before the first edit together with all the code brought along. Whatever
can be counted in a body, such as its anchors and its branches, can be counted on either side.
-/

import MethodPatch.Proofs.Chain
import MethodPatch.Proofs.Progress
import MethodPatch.Proofs.Search
import MethodPatch.Proofs.Splices
import Mathlib.Data.List.Perm.Basic
import Mathlib.Data.List.Count

namespace MethodPatch

/-! ### Edits -/

namespace Scope

variable {scope : Scope} {workspace next : Workspace} {edit : Edit}

/-- The code that an edit puts into a body. -/
def brought (scope : Scope) : Edit → Body
  | .insert code => scope.code code
  | .markLabel label => [.anchor (scope.label label)]
  | .replace _ code => scope.code code
  | _ => []

/-- What an edit brings along is put there from the code it is written with, or it is the anchor of
the label that the edit marks. -/
theorem mem_brought {inside : Instruction} : inside ∈ scope.brought edit ↔
    (∃ instruction ∈ edit.code, scope.instruction instruction = inside) ∨
      ∃ label, edit = .markLabel label ∧ .anchor (scope.label label) = inside := by
  cases edit with
  | insert code | replace pattern code => simp [brought, Scope.code, Edit.code]
  | markLabel label => simp [brought, Edit.code, eq_comm]
  | seekToStart | seekTo | seekPast => simp [brought, Edit.code]

/-- The code that an edit takes out of a body: the code at a place of the pattern it replaces, or
none at all. -/
inductive Takes (naming : Naming) : Edit → Body → Prop where
  | nothing (edit : Edit) (keeps : ∀ pattern code, edit ≠ .replace pattern code) :
    Takes naming edit []
  | place (pattern : Pattern) (code window : Body) (whole : window.length = pattern.length)
      (agrees : Body.opensWith (pattern.resolve naming).instructions window = true) :
    Takes naming (.replace pattern code) window

theorem Takes.eq_nil {naming : Naming} {window : Body} (takes : Takes naming edit window)
    (keeps : ∀ pattern code, edit ≠ .replace pattern code) : window = [] := by
  cases takes with
  | nothing => rfl
  | place pattern code => exact absurd rfl (keeps pattern code)

theorem Takes.at_place {naming : Naming} {pattern : Pattern} {code window : Body}
    (takes : Takes naming (.replace pattern code) window) : window.length = pattern.length ∧
      Body.opensWith (pattern.resolve naming).instructions window = true := by
  cases takes with
  | nothing _ keeps => exact absurd rfl (keeps pattern code)
  | place _ _ _ whole agrees => exact ⟨whole, agrees⟩

/-- An edit leaves one body of another when it puts what it brings along in the place of the
window that it takes out. -/
inductive Exchanges (scope : Scope) (edit : Edit) (window : Body) : Body → Body → Prop where
  | intro (front rest : Body) (takes : Takes scope.naming edit window) :
    Exchanges scope edit window (front ++ window ++ rest) (front ++ scope.brought edit ++ rest)

theorem exchanges_nothing (scope : Scope) (keeps : ∀ pattern code, edit ≠ .replace pattern code)
    (empty : scope.brought edit = []) (body : Body) : scope.Exchanges edit [] body body := by
  have exchanges : scope.Exchanges edit [] _ _ := .intro body [] (.nothing edit keeps)
  rwa [empty, List.append_nil, List.append_nil] at exchanges

theorem exchanges_insert (scope : Scope) (edit : Edit)
    (keeps : ∀ pattern code, edit ≠ .replace pattern code) (body : Body) (position : Nat) :
    scope.Exchanges edit [] body (body.insert position (scope.brought edit)).body := by
  have exchanges : scope.Exchanges edit [] _ _ := .intro (body.take (min position body.length))
    (body.drop (min position body.length)) (.nothing edit keeps)
  rwa [List.append_nil, List.take_append_drop] at exchanges

theorem exchanges_replace (scope : Scope) (pattern : Pattern) (code : Body) {body : Body}
    {position : Nat} (found : (pattern.resolve scope.naming).isAt body position = true) :
    scope.Exchanges (.replace pattern code)
      (body.remove position (position + pattern.length)).window body
      (body.replace position (position + pattern.length) (scope.code code)).body := by
  have inside := Pattern.add_length_le_of_isAt_resolve found
  have window : (body.remove position (position + pattern.length)).window =
      (body.drop position).take pattern.length := by
    rw [Body.window_remove, Body.windowStart, Body.windowEnd, Nat.min_eq_left inside,
      Nat.min_eq_left (Nat.le_add_right position pattern.length), Nat.add_sub_cancel_left]
  have takes : Takes scope.naming (.replace pattern code)
      (body.remove position (position + pattern.length)).window := by
    refine .place pattern code _ ?_ ?_
    · rw [window, List.length_take, List.length_drop]
      omega
    · rw [window, ← pattern.length_resolve scope.naming]
      exact Body.opensWith_take found
  obtain ⟨front, taken, rest, split, _, _, removed, replaced⟩ :=
    body.exists_parts position (position + pattern.length)
  rw [removed] at takes
  rw [removed, replaced, split]
  exact .intro front rest takes

/-- Every edit exchanges one window of the body for what it brings along. -/
theorem Makes.exchanges (makes : scope.Makes workspace edit next) :
    ∃ window, scope.Exchanges edit window workspace.body next.body := by
  cases makes with
  | seekToStart | seekTo | seekPast =>
    refine ⟨[], scope.exchanges_nothing ?_ rfl _⟩
    exact nofun
  | insert code => exact ⟨[], scope.exchanges_insert (.insert code) nofun _ _⟩
  | markLabel label => exact ⟨[], scope.exchanges_insert (.markLabel label) nofun _ _⟩
  | replace pattern code position found =>
    have place := ((Pattern.find?_eq_some _ _ _ _).mp found).2.1
    exact ⟨_, scope.exchanges_replace pattern code place⟩

theorem Exchanges.takes {window before after : Body}
    (exchanges : scope.Exchanges edit window before after) : Takes scope.naming edit window := by
  cases exchanges with
  | intro front rest takes => exact takes

theorem Exchanges.perm {window before after : Body}
    (exchanges : scope.Exchanges edit window before after) :
    (after ++ window).Perm (before ++ scope.brought edit) := by
  cases exchanges with
  | intro front rest takes =>
    refine List.perm_iff_count.mpr fun instruction => ?_
    simp only [List.count_append]
    omega

/-- An edit that replaces nothing keeps all instructions in their order. -/
theorem Exchanges.sublist {before after : Body} (exchanges : scope.Exchanges edit [] before after) :
    before.Sublist after := by
  cases exchanges with
  | intro front rest takes =>
    rw [List.append_nil]
    exact (List.sublist_append_left _ _).append_right rest

end Scope

/-! ### After every edit -/

namespace Hook

variable {hook : Hook} {naming : Naming} {body : Body} {count : Nat}

theorem exchanges_workspaceAfter (inside : count < hook.madeCount naming body) :
    ∃ edit window, hook.edits[count]? = some edit ∧
      (hook.scope naming).Exchanges edit window (hook.workspaceAfter naming body count).body
        (hook.workspaceAfter naming body (count + 1)).body := by
  obtain ⟨edit, there, step⟩ := step_workspaceAfter inside
  obtain ⟨window, exchanges⟩ := (Scope.makes_of_step step).exchanges
  exact ⟨edit, window, there, exchanges⟩

theorem take_succ_edits {edit : Edit} (there : hook.edits[count]? = some edit) :
    hook.edits.take (count + 1) = hook.edits.take count ++ [edit] := by
  rw [List.take_add_one, there]
  rfl

/-- The windows taken out by the edits made so far, one for each edit, balance the code that these
edits bring along. -/
theorem exists_windows (executed : count ≤ hook.madeCount naming body) :
    ∃ windows : List Body, windows.length = count ∧
      ((hook.workspaceAfter naming body count).body ++ windows.flatten).Perm
        (body ++ (hook.edits.take count).flatMap (hook.scope naming).brought) ∧
      ∀ number window, windows[number]? = some window →
        ∃ edit, hook.edits[number]? = some edit ∧
          (hook.scope naming).Exchanges edit window (hook.workspaceAfter naming body number).body
            (hook.workspaceAfter naming body (number + 1)).body := by
  induction count with
  | zero => exact ⟨[], rfl, List.Perm.refl _, fun _ _ impossible => nomatch impossible⟩
  | succ count inductionHypothesis =>
    obtain ⟨windows, length, balance, exchanged⟩ :=
      inductionHypothesis (Nat.le_of_succ_le executed)
    obtain ⟨edit, window, there, exchanges⟩ := exchanges_workspaceAfter executed
    refine ⟨windows ++ [window], ?_, ?_, fun number other member => ?_⟩
    · rw [List.length_append, length, List.length_singleton]
    · refine List.perm_iff_count.mpr fun instruction => ?_
      have before := balance.count_eq instruction
      have here := exchanges.perm.count_eq instruction
      rw [take_succ_edits there, List.flatten_append, List.flatMap_append, List.flatten_singleton,
        List.flatMap_singleton]
      simp only [List.count_append] at before here ⊢
      omega
    · by_cases earlier : number < windows.length
      · rw [List.getElem?_append_left earlier] at member
        exact exchanged number other member
      · rw [List.getElem?_append_right (Nat.le_of_not_lt earlier),
          List.getElem?_singleton] at member
        split at member
        · have last : number = count := by omega
          obtain rfl : window = other := Option.some.inj member
          exact ⟨edit, last ▸ there, last ▸ exchanges⟩
        · cases member

/-- Edits that replace nothing keep the whole body in its order. -/
theorem sublist_workspaceAfter (executed : count ≤ hook.madeCount naming body)
    (keeps : ∀ pattern code, .replace pattern code ∉ hook.edits.take count) :
    body.Sublist (hook.workspaceAfter naming body count).body := by
  induction count with
  | zero => exact List.Sublist.refl body
  | succ count inductionHypothesis =>
    obtain ⟨edit, window, there, exchanges⟩ := exchanges_workspaceAfter executed
    rw [take_succ_edits there] at keeps
    have keepsHere : ∀ pattern code, edit ≠ .replace pattern code := fun pattern code same =>
      keeps pattern code (List.mem_append_right _ (List.mem_singleton.mpr same.symm))
    rw [exchanges.takes.eq_nil keepsHere] at exchanges
    have before := inductionHypothesis (Nat.le_of_succ_le executed) fun pattern code member =>
      keeps pattern code (List.mem_append_left _ member)
    exact before.trans exchanges.sublist

/-- As long as nothing is replaced, the body is what it was and what the edits have brought
along. -/
theorem workspaceAfter_perm (executed : count ≤ hook.madeCount naming body)
    (keeps : ∀ pattern code, .replace pattern code ∉ hook.edits.take count) :
    (hook.workspaceAfter naming body count).body.Perm
      (body ++ (hook.edits.take count).flatMap (hook.scope naming).brought) := by
  obtain ⟨windows, length, balance, exchanged⟩ := exists_windows executed
  have empty : windows.flatten = [] := by
    refine List.flatten_eq_nil_iff.mpr fun window member => ?_
    obtain ⟨number, there⟩ := List.mem_iff_getElem?.mp member
    obtain ⟨edit, numbered, exchanges⟩ := exchanged number window there
    obtain ⟨earlier, _⟩ := List.getElem?_eq_some_iff.mp there
    refine exchanges.takes.eq_nil fun pattern code same => keeps pattern code ?_
    refine List.mem_iff_getElem?.mpr ⟨number, ?_⟩
    rw [List.getElem?_take_of_lt (length ▸ earlier), numbered, same]
  rwa [empty, List.append_nil] at balance

/-- A completed run without replacements leaves what was there and puts in what the edits bring. -/
theorem run_perm (hook : Hook) (naming : Naming) (body : Body)
    (keeps : ∀ pattern code, .replace pattern code ∉ hook.edits)
    (completed : (hook.run naming body).miss = none) :
    (hook.run naming body).workspace.body.Perm
      (body ++ hook.edits.flatMap (hook.scope naming).brought) := by
  have all : hook.madeCount naming body = hook.edits.length := by rw [madeCount, completed]
  have perm := workspaceAfter_perm (Nat.le_refl (hook.madeCount naming body)) fun pattern code =>
    fun member => keeps pattern code (List.mem_of_mem_take member)
  rwa [workspaceAfter_madeCount, all, List.take_length] at perm

/-- However far a hook comes, the body it leaves and the windows it has taken out are the body it
started from and the code that its edits brought along, each instruction as often as before. Every
window stood in one piece in the body of its time, and the pattern of the edit that replaced it
agreed with it there. As long as nothing is replaced, the body it started from is kept in its
order. -/
theorem code_conserved (hook : Hook) (naming : Naming) (body : Body) :
    (hook.run naming body).workspace =
        hook.workspaceAfter naming body (hook.madeCount naming body) ∧
      ∀ count ≤ hook.madeCount naming body,
        let scope := hook.scope naming
        let current := (hook.workspaceAfter naming body count).body
        let made := hook.edits.take count
        ((∀ pattern code, .replace pattern code ∉ made) →
          body.Sublist current ∧ current.Perm (body ++ made.flatMap scope.brought)) ∧
        ∃ windows : List Body, windows.length = count ∧
          (current ++ windows.flatten).Perm (body ++ made.flatMap scope.brought) ∧
          ∀ number window, windows[number]? = some window →
            ∃ edit, hook.edits[number]? = some edit ∧
              scope.Exchanges edit window (hook.workspaceAfter naming body number).body
                (hook.workspaceAfter naming body (number + 1)).body := by
  refine ⟨(hook.workspaceAfter_madeCount naming body).symm, fun count executed => ?_⟩
  intro scope current made
  exact ⟨fun keeps => ⟨sublist_workspaceAfter executed keeps, workspaceAfter_perm executed keeps⟩,
    exists_windows executed⟩

/-- A hook that makes six of its seven edits: it goes back to the start, replaces two instructions
one of which its own code has put in, and misses its last pattern. -/
theorem code_conserved_six_of_seven :
    let first : Instruction := ⟨0x2a, .none⟩
    let second : Instruction := ⟨0x2b, .none⟩
    let swap : Instruction := ⟨0x5f, .none⟩
    let pair : Pattern := ⟨[second, swap], by decide⟩
    let hook : Hook := {
      name := "swap", target := .unmapped (.of "a.B") "run" "()V"
      edits := [.seekPast (.single second), .insert [swap, ⟨0xa7, .jump ⟨"end"⟩⟩],
        .markLabel ⟨"end"⟩, .seekToStart, .replace pair [swap, swap, first], .markLabel ⟨"mid"⟩,
        .seekTo (.single ⟨0xb1, .none⟩)] }
    let body : Body := [first, second, first]
    let current (count : Nat) := (hook.workspaceAfter .named body count).body
    hook.madeCount .named body = 6 ∧ (hook.run .named body).miss.isSome = true ∧
      (∀ pattern code, .replace pattern code ∉ hook.edits.take 4) ∧
      body.Sublist (current 4) ∧ ¬ body.Sublist (current 6) ∧
      ∃ windows : List Body, ∃ window ∈ windows, window.length = 2 ∧
        Body.opensWith [second, swap] window = true ∧
        (current 6 ++ windows.flatten).Perm
          (body ++ (hook.edits.take 6).flatMap (hook.scope .named).brought) := by
  intro first second swap pair hook body current
  have made : hook.madeCount .named body = 6 := by decide +kernel
  have keeps : ∀ pattern code, .replace pattern code ∉ hook.edits.take 4 := by
    intro pattern code member
    simp [hook] at member
  obtain ⟨_, conserved⟩ := hook.code_conserved .named body
  obtain ⟨kept, _⟩ := conserved 4 (by omega)
  obtain ⟨_, windows, length, balance, exchanged⟩ := conserved 6 (by omega)
  have there : windows[4]? = some windows[4] := List.getElem?_eq_getElem (by omega)
  obtain ⟨edit, numbered, exchanges⟩ := exchanged 4 windows[4] there
  obtain rfl : edit = .replace pair [swap, swap, first] := (Option.some.inj numbered).symm
  obtain ⟨whole, agrees⟩ := exchanges.takes.at_place
  exact ⟨made, by decide +kernel, keeps, (kept keeps).1, by decide +kernel, windows, windows[4],
    List.getElem_mem _, whole, agrees, balance⟩

end Hook

end MethodPatch
