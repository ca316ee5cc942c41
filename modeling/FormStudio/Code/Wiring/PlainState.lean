import FormStudio.Code.Wiring.Basic

/-!
# Forms with a state of their own

The wiring without a form library: values and messages are plain state, and the schema is asked when
the form is submitted.
-/
namespace FormStudio

namespace PlainState

def key (f : Field) : String := textLiteral f.name

def binding (f : Field) : Binding where
  value := "values." ++ f.name
  callback := "(value) => setFieldValue(" ++ key f ++ ", value)"
  change := .closedBy ("setFieldValue(" ++ key f ++ ", ")
  blur := none
  elementId := some (key f)

def errorLines (f : Field) : List String :=
  ["\x7berrors." ++ f.name ++ " && (",
    "  <p " ++ Wiring.errorClass ++ ">" ++ braced ("errors." ++ f.name) ++ "</p>",
    ")\x7d"]

/-- The parts around a control. -/
def block (f : Field) (control : List String) : List String :=
  Markup.element "div" ["className=\"space-y-2\""]
    ([Wiring.labelLine f (key f)] ++ control ++ Wiring.helpParagraph f ++ errorLines f)

/-- The functions that change values and submit them. -/
def functionLines : List String :=
  ["function setFieldValue(name: string, value: unknown) \x7b",
    "  setValues((current) => (\x7b ...current, [name]: value \x7d));",
    "\x7d",
    "",
    "function handleSubmit(e: React.FormEvent<HTMLFormElement>) \x7b",
    "  e.preventDefault();",
    "  const result = formSchema.safeParse(values);",
    "  if (!result.success) \x7b",
    "    const fieldErrors: Record<string, string> = \x7b\x7d;",
    "    for (const issue of result.error.issues) \x7b",
    "      fieldErrors[String(issue.path[0])] = issue.message;",
    "    \x7d",
    "    setErrors(fieldErrors);",
    "    return;",
    "  \x7d",
    "  setErrors(\x7b\x7d);",
    "  onSubmit(result.data);",
    "\x7d"]

/-- The state, with its values to start with. -/
def setup (values : Members) : List String :=
  Wiring.objectLines s!"const [values, setValues] = useState<{Wiring.answersType}>(" ");" values ++
    ["const [errors, setErrors] = useState<Record<string, string>>(\x7b\x7d);", ""] ++ functionLines

def wiring : Wiring where
  libraryImports := []
  frameworkNames := ["useState"]
  componentImports := [Wiring.button, Wiring.label]
  bodyDepth := 1
  binding := binding
  block := block
  setup := setup
  opening :=
    ["<form " ++ Markup.expression "onSubmit" "handleSubmit" ++ " " ++ Wiring.formClass ++ ">"]
  closing := ["</form>"]

end PlainState

end FormStudio
