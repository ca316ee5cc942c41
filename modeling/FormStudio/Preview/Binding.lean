import FormStudio.Form.Callbacks
import FormStudio.Preview.Layout

/-!
# Controls bound to a live state

A control that shows its field is bound to it: it has the live value that it shows and callbacks
that set this value. The callbacks know the name of the field and nothing else of it, and they write
into the state that the form is in when they are called, so a control of an earlier preview still
writes. A notice is bound to nothing.

While a form is filled in (`Filling`) it is shown again and again, values are set by name, and the
callbacks of any control that was ever shown are called.

Main statement: `LiveState.get_callbacks_bindingFor`, all callbacks of a field set its value.
-/
namespace FormStudio

/-! ## Bindings -/

/-- What a callback does with a value that is entered. -/
abbrev Setter := Json → LiveState → LiveState

/-- A live value and what sets it. -/
structure LiveBinding where
  value : Json
  callbacks : Callbacks Setter

/-- The field that a control shows has the callbacks attached; the field of the form has not. -/
def LiveBinding.attach (binding : LiveBinding) (f : Field) : BoundField Setter :=
  ⟨f, binding.callbacks⟩

namespace LiveState

def setter (name : String) : Setter := fun value state => state.set name value

def bindingFor (state : LiveState) (f : Field) : LiveBinding :=
  ⟨state.value f.name, ⟨setter f.name, setter f.name, setter f.name⟩⟩

theorem get_callbacks_bindingFor (state : LiveState) (f : Field) (callback : Callback) :
    (state.bindingFor f).callbacks.get callback = setter f.name := by
  cases callback <;> rfl

end LiveState

/-! ## Bound controls -/

/-- What the callbacks of a control are taken from. -/
inductive Handle where
  /-- The control itself. -/
  | control
  /-- The field that it shows. -/
  | field
  deriving DecidableEq, Repr

structure BoundControl where
  control : Control
  /-- A notice has none. -/
  binding? : Option LiveBinding

namespace BoundControl

/-- The field as the control shows it. -/
def boundField? (bound : BoundControl) : Option (BoundField Setter) :=
  bound.binding?.map fun binding => binding.attach bound.control.field

def callbacks? (bound : BoundControl) : Handle → Option (Callbacks Setter)
  | .control => bound.binding?.map LiveBinding.callbacks
  | .field => bound.boundField?.map BoundField.callbacks

end BoundControl

/-- Binds a control that shows its field. -/
def LiveState.bind (state : LiveState) (control : Control) : BoundControl :=
  ⟨control, if control.isSupported then some (state.bindingFor control.field) else none⟩

/-! ## Filling in a form -/

/-- A form that is being filled in. -/
structure Filling where
  form : Form
  state : LiveState
  /-- The controls that were shown so far, those of earlier previews first. -/
  controls : List BoundControl

/-- What can be done with a form that is being filled in. -/
inductive Interaction where
  /-- The form is shown. -/
  | show (registry : Registry)
  /-- A value is set by name, be it that of a field or not. -/
  | set (name : String) (value : Json)
  /-- A callback of the control at a position is called. -/
  | call (index : Nat) (handle : Handle) (callback : Callback) (value : Json)

namespace Filling

def start (variants : VariantTable) (form : Form) : Filling := ⟨form, .start variants form, []⟩

def preview (filling : Filling) (registry : Registry) : Preview :=
  .render registry filling.state filling.form

/-- The callback that is called, if there is one. -/
def setter? (filling : Filling) (index : Nat) (handle : Handle) (callback : Callback) :
    Option Setter :=
  filling.controls[index]?.bind fun bound => (bound.callbacks? handle).map (·.get callback)

def step (filling : Filling) : Interaction → Filling
  | .show registry =>
    { filling with controls :=
        filling.controls ++ (filling.preview registry).controls.map filling.state.bind }
  | .set name value => { filling with state := filling.state.set name value }
  | .call index handle callback value =>
    match filling.setter? index handle callback with
    | some setter => { filling with state := setter value filling.state }
    | none => filling

def run (filling : Filling) (interactions : List Interaction) : Filling :=
  interactions.foldl step filling

end Filling

end FormStudio
