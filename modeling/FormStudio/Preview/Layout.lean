import FormStudio.Preview.State
import FormStudio.Preview.Widget

/-!
# Preview of a form

A form is previewed row by row. A field has a row of its own, the members of a group share one. A
field without a widget, or with a value that its widget cannot show, is replaced by a notice, and
all other fields are shown.

Main statements: `Preview.layout_length`, there is a row for each item, and
`Control.isSupported_iff`, a notice is there exactly where a fault is.
-/
namespace FormStudio

abbrev Registry := Table Widget

/-- The widgets that the variants come with. -/
def Registry.standard (variants : VariantTable) : Registry :=
  variants.map fun (variant, handler) => (variant, handler.widget)

/-! ## Controls -/

/-- Why a field is not shown. -/
inductive ControlFault where
  /-- The variant has no widget. -/
  | noWidget
  /-- The widget does not show the value. -/
  | failed (fault : RenderFault)
  deriving DecidableEq, Repr

def ControlFault.message : ControlFault → String
  | .noWidget => "This component type is not available in the preview."
  | .failed fault => "Could not render this field: " ++ fault.message

/-- A field in the preview. -/
structure Control where
  field : Field
  /-- The columns it takes. -/
  span : Nat
  content : Except ControlFault Rendering

namespace Control

/-- Shows a field with its live value. -/
def render (registry : Registry) (span : Nat) (f : Field) (value : Json) : Control :=
  match Table.get? f.variant registry with
  | none => ⟨f, span, .error .noWidget⟩
  | some widget => ⟨f, span, (widget.render f value).mapError .failed⟩

def fault? (control : Control) : Option ControlFault :=
  match control.content with
  | .ok _ => none
  | .error fault => some fault

/-- Whether the field is shown. -/
def isSupported (control : Control) : Bool := control.fault?.isNone

theorem isSupported_iff (control : Control) :
    control.isSupported = true ↔ ∃ rendering, control.content = .ok rendering := by
  unfold isSupported fault?
  cases control.content <;> simp

/-- The notice in the place of a field that is not shown. -/
def notice (f : Field) (fault : ControlFault) : Html :=
  .element "div" [.pair "class" "form-item unsupported", .pair "data-name" f.name]
    [.element "label" [] [.text f.displayName],
      .element "div" [.pair "class" "unsupported-control"]
        [.text ("Unsupported field type: \"" ++ f.variant ++ "\"")],
      .element "p" [.pair "class" "error"] [.text fault.message]]

def html (control : Control) : Html :=
  match control.content with
  | .ok rendering => rendering.html
  | .error fault => notice control.field fault

end Control

/-! ## Rows -/

/-- A row of the preview. -/
structure Row where
  controls : List Control
  /-- Whether the controls are the members of a group. -/
  grouped : Bool

namespace Row

def render (registry : Registry) (state : LiveState) : Item → Row
  | .field f => ⟨[Control.render registry gridColumns f (state.value f.name)], false⟩
  | .group members =>
    let span := columnSpan members.length
    ⟨members.map fun f => Control.render registry span f (state.value f.name), true⟩

def spans (row : Row) : List Nat := row.controls.map Control.span

def html (row : Row) : Html :=
  .element "div" [.pair "class" s!"grid grid-cols-{gridColumns} gap-4"]
    (row.controls.map fun control =>
      .element "div" [.pair "class" s!"col-span-{control.span}"] [control.html])

end Row

/-- The preview of a form. -/
structure Preview where
  rows : List Row

namespace Preview

/-- Shows a form with its live values. -/
def render (registry : Registry) (state : LiveState) (form : Form) : Preview :=
  ⟨form.map (Row.render registry state)⟩

def controls (preview : Preview) : List Control := preview.rows.flatMap Row.controls

/-- The names of the fields that are not shown. -/
def unsupported (preview : Preview) : List String :=
  (preview.controls.filter fun control => !control.isSupported).map fun control =>
    control.field.name

def find? (preview : Preview) (name : String) : Option Control :=
  preview.controls.find? fun control => control.field.name == name

/-- The names and columns of the controls, row by row. -/
def layout (preview : Preview) : List (List (String × Nat)) :=
  preview.rows.map fun row => row.controls.map fun control => (control.field.name, control.span)

def standardTitle : String := "Form preview"

/-- A row and the line break that parts it from the next. -/
def rowLines : List Row → List Html
  | [] => []
  | [row] => [row.html]
  | row :: rest => row.html :: .text "\n" :: rowLines rest

/-- The markup of a preview under a title. -/
def html (preview : Preview) (title : String) : Html :=
  .element "form" [.pair "class" "form-preview", .pair "aria-label" title]
    (.text "\n" :: rowLines preview.rows ++
      [.text "\n", .element "button" [.pair "type" "submit"] [.text "Submit"], .text "\n"])

theorem layout_length (registry : Registry) (state : LiveState) (form : Form) :
    (render registry state form).layout.length = form.length := by
  simp [layout, render]

end Preview

end FormStudio
