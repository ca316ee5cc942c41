import FormStudio.Code.Layout
import FormStudio.Code.Outline
import FormStudio.Code.Wiring.PlainState
import FormStudio.Code.Wiring.ReactHookForm
import FormStudio.Code.Wiring.TanstackForm
import FormStudio.Code.Zod
import FormStudio.Library
import FormStudio.Variant.Derive

/-!
# Generated components

The source of a component that shows a form and checks its answers: imports, the validator, the
state, the handler of a submission, and a block of markup for each item. A field without code leaves
a comment in its place.

Main statement: `Form.controlLines_of_none`, a field without code is a comment and nothing else.
-/
namespace FormStudio

def Library.wiring : Library → Wiring
  | .reactHookForm => ReactHookForm.wiring
  | .tanstackForm => TanstackForm.wiring
  | .bringYourOwn => PlainState.wiring

/-- The code of the control of a field, where its variant has code. -/
def Field.snippet? (variants : VariantTable) (wiring : Wiring) (f : Field) : Option Snippet :=
  (variants.get? f.variant).bind fun handler => handler.snippet? f (wiring.binding f)

/-- The parts of a component that differ between forms. -/
structure Component where
  imports : List ImportGroup
  moduleSetup : List String
  /-- The lines that declare the validator. -/
  validator : List String
  componentSetup : List String
  /-- The lines that set up the state. -/
  state : List String
  /-- The lines in front of the fields. -/
  opening : List String
  /-- The markup of the items. -/
  body : List String
  /-- The lines behind the fields. -/
  closing : List String
  deriving DecidableEq, Repr

namespace Component

/-- The lines of the function that takes the answers. -/
def submitLines : List String :=
  ["function onSubmit(values: z.infer<typeof formSchema>) \x7b",
    "  try \x7b",
    "    console.log(values);",
    "    toast(",
    "      <pre className=\"mt-2 w-[340px] rounded-md bg-slate-950 p-4\">",
    "        <code className=\"text-white\">" ++ braced "JSON.stringify(values, null, 2)" ++
      "</code>",
    "      </pre>,",
    "    );",
    "  \x7d catch (error) \x7b",
    "    console.error(\"Form submission error\", error);",
    "    toast.error(\"Failed to submit the form. Please try again.\");",
    "  \x7d",
    "\x7d"]

def submitButton : String := "<Button type=\"submit\">Submit</Button>"

/-- Lines and a gap behind them, if there are any. -/
def paragraph : List String → List Outline
  | [] => []
  | lines => Outline.lines lines ++ [.gap]

def functionOutline (component : Component) : List Outline :=
  Outline.block "export default function MyForm() \x7b" "\x7d"
    (paragraph component.componentSetup ++ Outline.lines component.state ++ [.gap] ++
      Outline.lines submitLines ++ [.gap] ++
      Outline.block "return (" ");"
        (Outline.lines (component.opening ++ component.body ++ component.closing)))

def outline (component : Component) : List Outline :=
  [.line "\"use client\";", .gap] ++
    Outline.lines (component.imports.flatMap ImportGroup.lines) ++ [.gap] ++
    paragraph component.moduleSetup ++ Outline.lines component.validator ++ [.gap] ++
    component.functionOutline

/-- The source text, before its layout. -/
def draft (component : Component) : String :=
  Outline.text Outline.standardUnit component.outline

def source (component : Component) : String := Layout.format component.draft

/-- The imports of a component: the framework, the libraries, and then all others in order. -/
def importsOf (wiring : Wiring) (snippets : List Snippet) : List ImportGroup :=
  let framework :=
    Sorted.ofList (wiring.frameworkNames ++ snippets.flatMap Snippet.frameworkNames)
  (if framework.isEmpty then [] else [⟨"react", framework⟩]) ++ [⟨"sonner", ["toast"]⟩] ++
    wiring.libraryImports ++ [⟨"zod", ["z"]⟩] ++
    ImportGroup.ofImports (wiring.componentImports ++ snippets.flatMap Snippet.imports)

end Component

namespace Form

/-- The comment in the place of a field without code. -/
def placeholder (f : Field) : List String :=
  [Markup.comment ("Unsupported field type: \"" ++ f.variant ++ "\" (" ++ f.name ++ ")")]

def controlLines (variants : VariantTable) (wiring : Wiring) (f : Field) : List String :=
  match f.snippet? variants wiring with
  | some snippet => wiring.block f snippet.markup
  | none => placeholder f

/-- The markup of an item; the members of a group are columns of one row. -/
def itemLines (variants : VariantTable) (wiring : Wiring) : Item → List String
  | .field f => controlLines variants wiring f
  | .group members =>
    let span := columnSpan members.length
    Markup.element "div" ["className=\"grid grid-cols-12 gap-4\""]
      (members.flatMap fun f =>
        Markup.element "div" [s!"className=\"col-span-{span}\""] (controlLines variants wiring f))

def component (variants : VariantTable) (library : Library) (form : Form) : Derived Component := do
  let wiring := library.wiring
  let snippets := form.fields.filterMap (Field.snippet? variants wiring)
  let validator ← (form.spec variants).declaration Spec.standardConstant
  .ok {
    imports := Component.importsOf wiring snippets
    moduleSetup := snippets.flatMap Snippet.moduleSetup
    validator := validator
    componentSetup := snippets.flatMap Snippet.componentSetup
    state := wiring.setup (form.defaults variants)
    opening := wiring.opening
    body := Markup.indent wiring.bodyDepth
      (form.flatMap (itemLines variants wiring) ++ [Component.submitButton])
    closing := wiring.closing }

def source (variants : VariantTable) (library : Library) (form : Form) : Derived String := do
  .ok (← form.component variants library).source

theorem controlLines_of_none {variants : VariantTable} {wiring : Wiring} {f : Field}
    (h : f.snippet? variants wiring = none) : controlLines variants wiring f = placeholder f := by
  simp [controlLines, h]

end Form

end FormStudio
