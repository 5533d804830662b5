/-
This file says what closing a catalogue changes, and what a closed catalogue still does.

Closing touches nothing but the mark that no further hooks are taken, so all that can be asked
about the hooks stays as it is. A closed catalogue refuses every registration and is left as it was.
-/

import MethodPatch.Loader

namespace MethodPatch.Catalogue

variable {catalogue : Catalogue}

/-! ### The hooks of a closed catalogue -/

@[simp] theorem closed_close (catalogue : Catalogue) : catalogue.close.state.closed = true := by
  unfold close
  split
  · assumption
  · rfl

theorem close_of_closed (closed : catalogue.closed = true) : catalogue.close.state = catalogue := by
  rw [close, if_pos closed]

@[simp] theorem hooksFor_close (catalogue : Catalogue) (className : ClassName) :
    catalogue.close.state.hooksFor className = catalogue.hooksFor className := by
  unfold close
  split <;> rfl

@[simp] theorem settings_close (catalogue : Catalogue) :
    catalogue.close.state.settings = catalogue.settings := by
  unfold close
  split <;> rfl

@[simp] theorem names_close (catalogue : Catalogue) :
    catalogue.close.state.names = catalogue.names := by
  unfold close
  split <;> rfl

@[simp] theorem shelves_close (catalogue : Catalogue) :
    catalogue.close.state.shelves = catalogue.shelves := by
  unfold close
  split <;> rfl

@[simp] theorem size_close (catalogue : Catalogue) : catalogue.close.state.size = catalogue.size := by
  rw [size, names_close, size]

@[simp] theorem targetClasses_close (catalogue : Catalogue) :
    catalogue.close.state.targetClasses = catalogue.targetClasses := by
  rw [targetClasses, shelves_close, targetClasses]

@[simp] theorem hooks_close (catalogue : Catalogue) :
    catalogue.close.state.hooks = catalogue.hooks := by
  have same : catalogue.close.state.hooksFor = catalogue.hooksFor :=
    funext (hooksFor_close catalogue)
  rw [hooks, same, targetClasses_close, hooks]

/-! ### No further hooks -/

theorem register_of_closed (closed : catalogue.closed = true) (hook : Hook) :
    (catalogue.register hook).state = catalogue := by
  rw [register, if_pos closed]

/-- A closed catalogue refuses the first hook of a list and does not come to the others. -/
theorem registerAll_of_closed (closed : catalogue.closed = true) (hooks : List Hook) :
    (catalogue.registerAll hooks).state = catalogue := by
  cases hooks with
  | nil => rfl
  | cons hook rest => simp [registerAll, register, closed]

end MethodPatch.Catalogue
