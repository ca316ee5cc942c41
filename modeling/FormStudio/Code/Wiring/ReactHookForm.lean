import FormStudio.Code.Wiring.Basic

/-!
# Forms bound to a schema

The wiring for React Hook Form: each control is rendered by a form field that passes its binding,
and the schema is the resolver.
-/
namespace FormStudio

namespace ReactHookForm

def formParts : List Import :=
  ["Form", "FormControl", "FormDescription", "FormField", "FormItem", "FormLabel",
    "FormMessage"].map (⟨"@/components/ui/form", ·⟩)

/-- The binding that a form field passes. -/
def binding : Binding where
  value := "field.value"
  callback := "field.onChange"
  change := .closedBy "field.onChange("
  blur := some "field.onBlur"
  elementId := none

/-- The parts around a control. -/
def item (f : Field) (control : List String) : List String :=
  Markup.element "FormItem" []
    (["<FormLabel>" ++ Markup.text f.displayName ++ "</FormLabel>"] ++
      Markup.element "FormControl" [] control ++ Wiring.helpText f "FormDescription" "" ++
      ["<FormMessage />"])

/-- The form field around a control. -/
def block (f : Field) (control : List String) : List String :=
  ["<FormField", "  " ++ Markup.expression "control" "form.control",
    "  " ++ Wiring.nameAttribute f, "  render=\x7b(\x7b field \x7d) => ("] ++
    Markup.indent 2 (item f control) ++ ["  )\x7d", "/>"]

/-- The form, with its values to start with. -/
def setup (values : Members) : List String :=
  [s!"const form = useForm<{Wiring.answersType}>(" ++ "\x7b",
    "  resolver: zodResolver(formSchema),"] ++
    Markup.indent 1 (Wiring.objectLines "defaultValues: " "," values) ++ ["\x7d);"]

def wiring : Wiring where
  libraryImports :=
    [⟨"react-hook-form", ["useForm"]⟩, ⟨"@hookform/resolvers/zod", ["zodResolver"]⟩]
  frameworkNames := []
  componentImports := Wiring.button :: formParts
  bodyDepth := 2
  binding := fun _ => binding
  block := block
  setup := setup
  opening := ["<Form \x7b...form\x7d>",
    "  <form " ++ Markup.expression "onSubmit" "form.handleSubmit(onSubmit)" ++ " " ++
      Wiring.formClass ++ ">"]
  closing := ["  </form>", "</Form>"]

end ReactHookForm

end FormStudio
