/-
This file proves that one hook serves both naming schemes.

A body whose mapped members are still open stands for two bodies, one under each naming scheme.
Suppose that the naming scheme makes no difference to which instructions agree with which. Then
every edit finds its pattern at the same position of either body, and the code it puts in is again
one piece of open code under either naming scheme. So the run on one body and the run on the other
go side by side, edit by edit, and leave the two sides of one open body.
-/

import MethodPatch.Workspace

namespace MethodPatch

/-! ### Open code -/

/-- The body with its mapped members settled for the naming scheme. -/
def Body.resolve (naming : Naming) (body : Body) : Body := body.map (Instruction.resolve naming)

/-- The workspace with the mapped members of its body settled for the naming scheme. -/
def Workspace.resolve (naming : Naming) (workspace : Workspace) : Workspace :=
  { workspace with body := workspace.body.resolve naming }

namespace Body

variable (naming : Naming)

/-- Code is put into open code as it is put into settled code. -/
theorem insert_resolve (body : Body) (position : Nat) (code : Body) :
    (body.resolve naming).insert position (code.resolve naming) =
      ⟨(body.insert position code).body.resolve naming, (body.insert position code).next⟩ := by
  simp [insert, resolve, List.map_take, List.map_drop]

theorem replace_resolve (body : Body) (start stop : Nat) (code : Body) :
    (body.resolve naming).replace start stop (code.resolve naming) =
      ⟨(body.replace start stop code).body.resolve naming,
        (body.replace start stop code).next⟩ := by
  simp [replace, resolve, windowStart, windowEnd, List.map_take, List.map_drop]

theorem mem_of_mem_insert {body : Body} {position : Nat} {code : Body} {instruction : Instruction}
    (member : instruction ∈ (body.insert position code).body) :
    instruction ∈ body ∨ instruction ∈ code := by
  rcases List.mem_append.mp member with front | behind
  · exact (List.mem_append.mp front).imp_left List.mem_of_mem_take
  · exact Or.inl (List.mem_of_mem_drop behind)

theorem mem_of_mem_replace {body : Body} {start stop : Nat} {code : Body}
    {instruction : Instruction} (member : instruction ∈ (body.replace start stop code).body) :
    instruction ∈ body ∨ instruction ∈ code := by
  rcases List.mem_append.mp member with front | behind
  · exact (List.mem_append.mp front).imp_left List.mem_of_mem_take
  · exact Or.inl (List.mem_of_mem_drop behind)

end Body

namespace Scope

variable (scope : Scope)

/-- The same scope under another naming scheme. -/
def under (naming : Naming) : Scope := { scope with naming }

/-- An instruction with its labels named as in a body, and its mapped member left open. -/
def relabel (instruction : Instruction) : Instruction :=
  match instruction.operand with
  | .jump target => { instruction with operand := .jump (scope.label target) }
  | .label label => .anchor (scope.label label)
  | _ => instruction

theorem instruction_under (naming : Naming) (instruction : Instruction) :
    (scope.under naming).instruction instruction = (scope.relabel instruction).resolve naming := by
  obtain ⟨opcode, operand⟩ := instruction
  cases operand <;> rfl

theorem code_under (naming : Naming) (code : Body) :
    (scope.under naming).code code = Body.resolve naming (code.map scope.relabel) := by
  rw [Scope.code, Body.resolve, List.map_map]
  exact List.map_congr_left fun instruction _ => scope.instruction_under naming instruction

end Scope

/-! ### Agreement under either naming scheme -/

/-- The instructions that an edit looks for. -/
def Edit.wanted (edit : Edit) : Body := (edit.pattern?.map Pattern.instructions).getD []

/-- The instructions that the edits of a hook look for. -/
def Hook.wanted (hook : Hook) : Body := hook.edits.flatMap Edit.wanted

/-- The code that the edits of a hook bring along. -/
def Hook.code (hook : Hook) : Body := hook.edits.flatMap Edit.code

/-- Whether two open instructions agree is the same under either naming scheme. -/
def Instruction.AgreesAlike (instruction wanted : Instruction) : Prop :=
  (instruction.resolve .named).agrees (wanted.resolve .named) =
    (instruction.resolve .remapped).agrees (wanted.resolve .remapped)

instance (instruction wanted : Instruction) : Decidable (instruction.AgreesAlike wanted) :=
  inferInstanceAs (Decidable (_ = _))

/-- Every instruction of a body agrees alike with every instruction that is looked for. -/
def Body.AgreesAlike (body wanted : Body) : Prop :=
  ∀ sought ∈ wanted, ∀ instruction ∈ body, instruction.AgreesAlike sought

/-- Branches and anchors are compared by operation and operand kind alone, which no naming scheme
changes. -/
theorem Instruction.agreesAlike_of_unread {instruction : Instruction}
    (settled : ∀ naming, instruction.resolve naming = instruction)
    (unread : ∀ operand, instruction.operand.agrees operand = true) (wanted : Instruction) :
    instruction.AgreesAlike wanted := by
  have plain : ∀ naming, (instruction.resolve naming).agrees (wanted.resolve naming) =
      (instruction.opcode == wanted.opcode && instruction.kind == wanted.kind) := by
    intro naming
    rw [settled, agrees, unread, Bool.and_true]
    exact congrArg (instruction.opcode == wanted.opcode && instruction.kind == ·)
      (Operand.kind_resolve naming wanted.operand)
  exact (plain .named).trans (plain .remapped).symm

theorem Instruction.agreesAlike_anchor (label : Label) (wanted : Instruction) :
    (Instruction.anchor label).AgreesAlike wanted :=
  agreesAlike_of_unread (fun _ => rfl) (fun operand => by cases operand <;> rfl) wanted

theorem Scope.agreesAlike_relabel (scope : Scope) {instruction wanted : Instruction}
    (alike : instruction.AgreesAlike wanted) : (scope.relabel instruction).AgreesAlike wanted := by
  obtain ⟨opcode, operand⟩ := instruction
  cases operand with
  | jump target =>
    exact Instruction.agreesAlike_of_unread (fun _ => rfl)
      (fun operand => by cases operand <;> rfl) wanted
  | label label => exact Instruction.agreesAlike_anchor _ wanted
  | _ => exact alike

namespace Body.AgreesAlike

variable {body wanted : Body}

theorem tail {instruction : Instruction} (alike : AgreesAlike (instruction :: body) wanted) :
    AgreesAlike body wanted :=
  fun sought member other inside => alike sought member other (List.mem_cons_of_mem _ inside)

theorem relabel (scope : Scope) {code : Body} (alike : AgreesAlike code wanted) :
    AgreesAlike (code.map scope.relabel) wanted := by
  intro sought member instruction inside
  obtain ⟨before, insideCode, rfl⟩ := List.mem_map.mp inside
  exact scope.agreesAlike_relabel (alike sought member before insideCode)

theorem insert {code : Body} (here : AgreesAlike body wanted) (there : AgreesAlike code wanted)
    (position : Nat) : AgreesAlike (body.insert position code).body wanted :=
  fun sought member _ inside =>
    (mem_of_mem_insert inside).elim (here sought member _) (there sought member _)

theorem replace {code : Body} (here : AgreesAlike body wanted) (there : AgreesAlike code wanted)
    (start stop : Nat) : AgreesAlike (body.replace start stop code).body wanted :=
  fun sought member _ inside =>
    (mem_of_mem_replace inside).elim (here sought member _) (there sought member _)

/-! ### Searching -/

theorem opensWith_resolve (alike : AgreesAlike body wanted) :
    opensWith (wanted.resolve .named) (body.resolve .named) =
      opensWith (wanted.resolve .remapped) (body.resolve .remapped) := by
  induction wanted generalizing body with
  | nil => rfl
  | cons sought wanted inductionHypothesis =>
    cases body with
    | nil => rfl
    | cons found body =>
      have first := alike sought List.mem_cons_self found List.mem_cons_self
      have alikeRest : AgreesAlike body wanted := fun other member instruction inside =>
        alike other (List.mem_cons_of_mem _ member) instruction (List.mem_cons_of_mem _ inside)
      have rest := inductionHypothesis alikeRest
      have unfolded : ∀ naming, opensWith (resolve naming (sought :: wanted))
          (resolve naming (found :: body)) =
            ((found.resolve naming).agrees (sought.resolve naming) &&
              opensWith (resolve naming wanted) (resolve naming body)) := fun _ => rfl
      rw [unfolded, unfolded, rest]
      exact congrArg (· && _) first

theorem distanceTo?_resolve (alike : AgreesAlike body wanted) :
    distanceTo? (wanted.resolve .named) (body.resolve .named) =
      distanceTo? (wanted.resolve .remapped) (body.resolve .remapped) := by
  induction body with
  | nil => rfl
  | cons found body inductionHypothesis =>
    have here := alike.opensWith_resolve
    have beyond := inductionHypothesis alike.tail
    simp only [resolve, List.map_cons] at here beyond ⊢
    rw [distanceTo?, distanceTo?, here, beyond]

/-- A pattern is found at the same position under either naming scheme. -/
theorem find?_resolve {pattern : Pattern} (alike : AgreesAlike body pattern.instructions)
    (start : Nat) (naming : Naming) :
    (pattern.resolve naming).find? (body.resolve naming) start =
      (pattern.resolve .named).find? (body.resolve .named) start := by
  have ahead : AgreesAlike (body.drop start) pattern.instructions :=
    fun sought member instruction inside =>
      alike sought member instruction (List.mem_of_mem_drop inside)
  have same := ahead.distanceTo?_resolve
  simp only [resolve, List.map_drop] at same
  cases naming with
  | named => rfl
  | remapped => exact congrArg (Option.map (start + ·)) same.symm

end Body.AgreesAlike

/-! ### One edit -/

/-- A step goes alike under either naming scheme: it leaves the two sides of one open workspace, or
it misses its pattern on both sides. -/
inductive StepsAlike (index : Nat) (wanted : Body) (step : Naming → Except Miss Workspace) :
    Prop where
  | made (next : Workspace) (alike : next.body.AgreesAlike wanted)
      (both : ∀ naming, step naming = .ok (next.resolve naming))
  | missed (both : ∀ naming, ∃ miss, miss.index = index ∧ step naming = .error miss)

namespace Scope

variable (scope : Scope) (index : Nat) (workspace : Workspace) {wanted : Body}

/-- The position at which a pattern is found is the same on both sides, so what is done there is
done alike. -/
theorem stepsAlike_locate (pattern : Pattern)
    (alike : Body.AgreesAlike workspace.body pattern.instructions) (move : Nat → Workspace)
    (kept : ∀ position, (move position).body.AgreesAlike wanted)
    {side : Naming → Nat → Workspace}
    (settled : ∀ naming position, side naming position = (move position).resolve naming) :
    StepsAlike index wanted fun naming =>
      ((scope.under naming).locate index pattern (workspace.resolve naming)).map (side naming) := by
  have same := alike.find?_resolve workspace.cursor
  cases found : (pattern.resolve .named).find? (workspace.body.resolve .named) workspace.cursor with
  | some position =>
    refine .made (move position) (kept position) fun naming => ?_
    have located : (scope.under naming).locate index pattern (workspace.resolve naming) =
        .ok position := by
      simp only [locate, under, Workspace.resolve, (same naming).trans found]
    rw [located, ← settled]
    rfl
  | none =>
    refine .missed fun naming => ⟨⟨scope.hook, index, (pattern.resolve naming).text⟩, rfl, ?_⟩
    simp only [locate, under, Workspace.resolve, (same naming).trans found]
    rfl

/-- Every edit goes alike on the two sides of an open workspace. -/
theorem stepsAlike_step (edit : Edit) (alike : workspace.body.AgreesAlike wanted)
    (brings : edit.code.AgreesAlike wanted) (among : edit.wanted ⊆ wanted) :
    StepsAlike index wanted fun naming =>
      (scope.under naming).step index edit (workspace.resolve naming) := by
  have searched : workspace.body.AgreesAlike edit.wanted :=
    fun sought member => alike sought (among member)
  cases edit with
  | seekToStart => exact .made { workspace with cursor := 0 } alike fun _ => rfl
  | seekTo pattern =>
    exact scope.stepsAlike_locate index workspace pattern searched
      (fun position => { workspace with cursor := position })
      (fun _ => alike) fun _ _ => rfl
  | seekPast pattern =>
    exact scope.stepsAlike_locate index workspace pattern searched
      (fun position => { workspace with cursor := position + pattern.length })
      (fun _ => alike) fun _ _ => rfl
  | insert code =>
    refine .made (workspace.change (workspace.body.insert workspace.cursor
      (code.map scope.relabel))) (alike.insert (brings.relabel scope) _) fun naming => ?_
    rw [step, code_under, Workspace.resolve, Body.insert_resolve]
    rfl
  | markLabel label =>
    have anchor : Body.AgreesAlike [.anchor (scope.label label)] wanted := by
      rintro sought member instruction inside
      rw [List.mem_singleton.mp inside]
      exact Instruction.agreesAlike_anchor _ sought
    refine .made (workspace.change (workspace.body.insert workspace.cursor
      [.anchor (scope.label label)])) (alike.insert anchor _) fun naming => ?_
    exact congrArg (fun spliced => Except.ok (Workspace.change workspace spliced))
      (Body.insert_resolve naming workspace.body workspace.cursor [.anchor (scope.label label)])
  | replace pattern code =>
    refine scope.stepsAlike_locate index workspace pattern searched
      (fun position => workspace.change (workspace.body.replace position
        (position + pattern.length) (code.map scope.relabel)))
      (fun _ => alike.replace (brings.relabel scope) _ _) fun naming position => ?_
    rw [code_under, Workspace.resolve, Body.replace_resolve]
    rfl

/-! ### A whole chain -/

/-- A chain of edits goes alike on the two sides of an open workspace. -/
theorem run_under (edits : List Edit) (alike : workspace.body.AgreesAlike wanted)
    (brings : ∀ edit ∈ edits, edit.code.AgreesAlike wanted)
    (among : ∀ edit ∈ edits, edit.wanted ⊆ wanted) :
    ∃ (last : Workspace) (missed : Option Nat), ∀ naming,
      ((scope.under naming).run index edits (workspace.resolve naming)).workspace =
        last.resolve naming ∧
      ((scope.under naming).run index edits (workspace.resolve naming)).miss.map Miss.index =
        missed := by
  induction edits generalizing index workspace with
  | nil => exact ⟨workspace, none, fun _ => ⟨rfl, rfl⟩⟩
  | cons edit rest inductionHypothesis =>
    obtain ⟨bringsHere, bringsLater⟩ := List.forall_mem_cons.mp brings
    obtain ⟨amongHere, amongLater⟩ := List.forall_mem_cons.mp among
    cases scope.stepsAlike_step index workspace edit alike bringsHere amongHere with
    | made next alike both =>
      obtain ⟨last, missed, later⟩ :=
        inductionHypothesis (index + 1) next alike bringsLater amongLater
      refine ⟨last, missed, fun naming => ?_⟩
      simp only [run, attempt, both naming]
      exact later naming
    | missed both =>
      refine ⟨workspace, some index, fun naming => ?_⟩
      obtain ⟨miss, named, failed⟩ := both naming
      simp only [run, attempt, failed, Option.map_some, named, and_self]

end Scope

namespace Hook

/-- A hook does the same to the two sides of an open body, provided it is the same under either
naming scheme which instructions agree with the hook's patterns: both runs make all edits or miss
the same one, they count the same changes, and they leave the two sides of one open body. -/
theorem run_in_both_namings (hook : Hook) (body : Body)
    (alike : ∀ wanted ∈ hook.wanted, ∀ instruction ∈ body ++ hook.code,
      instruction.AgreesAlike wanted) :
    let named := hook.run .named (body.resolve .named)
    let remapped := hook.run .remapped (body.resolve .remapped)
    named.miss.map Miss.index = remapped.miss.map Miss.index ∧
      named.workspace.changes = remapped.workspace.changes ∧
      ∃ result : Body, named.workspace.body = result.resolve .named ∧
        remapped.workspace.body = result.resolve .remapped := by
  intro named remapped
  have alikeBody : body.AgreesAlike hook.wanted := fun wanted member instruction inside =>
    alike wanted member instruction (List.mem_append_left _ inside)
  have alikeCode : ∀ edit ∈ hook.edits, edit.code.AgreesAlike hook.wanted :=
    fun edit member wanted sought instruction inside =>
      alike wanted sought instruction
        (List.mem_append_right _ (List.mem_flatMap_of_mem member inside))
  have among : ∀ edit ∈ hook.edits, edit.wanted ⊆ hook.wanted :=
    fun edit member wanted inside => List.mem_flatMap_of_mem member inside
  obtain ⟨last, missed, both⟩ := (hook.scope .named).run_under 0 (.start body) hook.edits
    alikeBody alikeCode among
  obtain ⟨left, leftMissed⟩ := both .named
  obtain ⟨right, rightMissed⟩ := both .remapped
  refine ⟨leftMissed.trans rightMissed.symm, ?_, last.body, ?_, ?_⟩
  · exact (congrArg Workspace.changes left).trans (congrArg Workspace.changes right).symm
  · exact congrArg Workspace.body left
  · exact congrArg Workspace.body right

/-- A chain of six edits that finds code of its own later on and misses its last pattern, on a body
with two mapped calls of one class. -/
theorem run_in_both_namings_last_missed :
    let press := MappedMember.of .method (.of "k.B") "press" "func_1" "(IZ)V"
    let release := MappedMember.of .method (.of "k.B") "release" "func_2" "(IZ)V"
    let player := MappedMember.of .field (.of "a.M") "player" "field_3" "La/P;"
    let hook : Hook := {
      name := "keys", target := .of .method (.of "k.B") "tick" "func_4" "()V"
      edits := [.seekPast (.single ⟨0xb8, .mapped press⟩),
        .insert [⟨0xb2, .mapped player⟩, ⟨0x99, .jump ⟨"skip"⟩⟩],
        .replace (.single ⟨0xb8, .mapped release⟩) [.anchor ⟨"skip"⟩], .seekToStart,
        .seekPast (.single ⟨0xb2, .mapped player⟩), .seekTo (.single ⟨0xbf, .none⟩)] }
    let body : Body :=
      [⟨0x03, .none⟩, ⟨0xb8, .mapped press⟩, ⟨0xb8, .mapped release⟩, ⟨0xb1, .none⟩]
    let named := hook.run .named (body.resolve .named)
    let remapped := hook.run .remapped (body.resolve .remapped)
    (∀ wanted ∈ hook.wanted, ∀ instruction ∈ body ++ hook.code, instruction.AgreesAlike wanted) ∧
      named.miss.map Miss.index = some 5 ∧ remapped.miss.map Miss.index = some 5 ∧
      remapped.workspace.changes = 2 ∧ named.workspace.body ≠ remapped.workspace.body ∧
      ∃ result : Body, named.workspace.body = result.resolve .named ∧
        remapped.workspace.body = result.resolve .remapped := by
  intro press release player hook body named remapped
  have alike : ∀ wanted ∈ hook.wanted, ∀ instruction ∈ body ++ hook.code,
      instruction.AgreesAlike wanted := by decide +kernel
  have missed : named.miss.map Miss.index = some 5 := by decide +kernel
  have changes : named.workspace.changes = 2 := by decide +kernel
  obtain ⟨sameMiss, sameChanges, sides⟩ := hook.run_in_both_namings body alike
  exact ⟨alike, missed, sameMiss.symm.trans missed, sameChanges.symm.trans changes,
    by decide +kernel, sides⟩

end Hook

end MethodPatch
