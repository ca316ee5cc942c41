import FormStudio.Form.Edit

/-!
# Fields with callbacks

While a field is shown it has three callbacks: one that sets its value, one for a change and one for
a choice. They are attached to the field from outside and are no part of it: no object that a field
is read from gives a callback, and none is written. A merge reads the field anew and attaches the
callbacks again.

Main statement: `BoundField.field_merge`, callbacks have no part in what a merge makes of the field.
-/
namespace FormStudio

/-- The callbacks of a field. -/
structure Callbacks (α : Type) where
  setValue : α
  onChange : α
  onSelect : α
  deriving DecidableEq, Repr

/-- Which of the callbacks is called. -/
inductive Callback where
  | setValue
  | onChange
  | onSelect
  deriving DecidableEq, Repr

def Callbacks.get {α : Type} (callbacks : Callbacks α) : Callback → α
  | .setValue => callbacks.setValue
  | .onChange => callbacks.onChange
  | .onSelect => callbacks.onSelect

/-- A field with its callbacks. -/
structure BoundField (α : Type) where
  field : Field
  callbacks : Callbacks α
  deriving DecidableEq, Repr

namespace BoundField

variable {α : Type}

/-- Merges an update into the field. What is read has no callbacks; it is given those of the field
that it was merged into. -/
def merge (bound : BoundField α) (updates : Update) : Except EditError (BoundField α) :=
  (bound.field.merge updates).map fun f => ⟨f, bound.callbacks⟩

theorem field_merge (bound : BoundField α) (updates : Update) :
    (bound.merge updates).map BoundField.field = bound.field.merge updates := by
  unfold merge
  cases bound.field.merge updates <;> rfl

end BoundField

end FormStudio
