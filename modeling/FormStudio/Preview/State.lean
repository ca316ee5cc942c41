import FormStudio.Rule.Validation
import FormStudio.Text.Sorted
import FormStudio.Variant.Derive

/-!
# Live state of a preview

The values that a previewed form holds while it is filled in, and the names of the fields that were
changed. Values start from the defaults of the form.

Main statements: `LiveState.value_set_self` and `LiveState.value_set_of_ne`, a field has the value
that was set last, whatever is set elsewhere.
-/
namespace FormStudio

/-- The values of a form that is being filled in. -/
structure LiveState where
  values : Members
  /-- The names that were set, in order. -/
  touched : List String
  deriving DecidableEq, Repr

namespace LiveState

/-- A state with given values, in which nothing was set. -/
def ofValues (values : Members) : LiveState := ⟨values, []⟩

def start (variants : VariantTable) (form : Form) : LiveState := ofValues (form.defaults variants)

/-- The value of a field; one without a value has none. -/
def value (state : LiveState) (name : String) : Json := (Table.get? name state.values).getD .null

def set (state : LiveState) (name : String) (value : Json) : LiveState :=
  ⟨Table.put name value state.values, Sorted.insert name state.touched⟩

/-- Checks the values against the rules of a form. -/
def validate (state : LiveState) (spec : Spec) : Derived Validation := spec.validate state.values

theorem value_set_self (state : LiveState) (name : String) (value : Json) :
    (state.set name value).value name = value := by
  simp [set, LiveState.value]

theorem value_set_of_ne {name other : String} (h : other ≠ name) (state : LiveState)
    (value : Json) : (state.set name value).value other = state.value other := by
  simp [set, LiveState.value, Table.get?_put_of_ne h]

end LiveState

end FormStudio
