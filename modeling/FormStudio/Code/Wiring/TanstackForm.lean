import FormStudio.Code.Wiring.Basic

/-!
# Forms bound to a store

The wiring for TanStack Form: each control is a child of a form field, and the schema is the
validator of the store.
-/
namespace FormStudio

namespace TanstackForm

/-- The binding of a field of the store. -/
def binding : Binding where
  value := "field.state.value"
  callback := "(value) => field.handleChange(value)"
  change := .closedBy "field.handleChange("
  blur := some "field.handleBlur"
  elementId := some "field.name"

/-- The messages of a field. -/
def errorLines : List String :=
  ["\x7bfield.state.meta.errors.length > 0 ? (",
    "  <p " ++ Wiring.errorClass ++ ">",
    "    " ++ braced ("field.state.meta.errors.map((error) => (typeof error === \"string\" ? " ++
      "error : error?.message)).join(\", \")"),
    "  </p>",
    ") : null\x7d"]

/-- The parts around a control. -/
def item (f : Field) (control : List String) : List String :=
  Markup.element "div" ["className=\"space-y-2\""]
    ([Wiring.labelLine f (braced "field.name")] ++ control ++ Wiring.helpParagraph f ++ errorLines)

/-- The form field around a control. -/
def block (f : Field) (control : List String) : List String :=
  ["<form.Field", "  " ++ Wiring.nameAttribute f, "  children=\x7b(field) => ("] ++
    Markup.indent 2 (item f control) ++ ["  )\x7d", "/>"]

/-- The form, with its values to start with. -/
def setup (values : Members) : List String :=
  ["const form = useForm(\x7b"] ++
    Markup.indent 1
      (Wiring.objectLines "defaultValues: " (" as " ++ Wiring.answersType ++ ",") values) ++
    ["  validators: \x7b", "    onChange: formSchema,", "  \x7d,",
      "  onSubmit: async (\x7b value \x7d) => \x7b", "    onSubmit(value);", "  \x7d,", "\x7d);"]

def wiring : Wiring where
  libraryImports := [⟨"@tanstack/react-form", ["useForm"]⟩]
  frameworkNames := []
  componentImports := [Wiring.button, Wiring.label]
  bodyDepth := 1
  binding := fun _ => binding
  block := block
  setup := setup
  opening := ["<form", "  onSubmit=\x7b(e) => \x7b", "    e.preventDefault();",
    "    e.stopPropagation();", "    form.handleSubmit();", "  \x7d\x7d",
    "  " ++ Wiring.formClass, ">"]
  closing := ["</form>"]

end TanstackForm

end FormStudio
