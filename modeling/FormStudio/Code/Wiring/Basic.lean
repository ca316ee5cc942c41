import FormStudio.Code.Imports
import FormStudio.Code.Snippet
import FormStudio.Json.Basic

/-!
# Wiring of generated forms

What tells the code for one form library from that for another: how a control is bound to the state
of the form, what stands around a control, and how the state is set up.

Main statement: `Wiring.length_objectLines`, an object that is not empty takes a line for each
member and two more.
-/
namespace FormStudio

/-- How generated code uses a form library. -/
structure Wiring where
  /-- Imports of the library, in order. -/
  libraryImports : List ImportGroup
  /-- Names that every component imports from the framework. -/
  frameworkNames : List String
  /-- Imports of components that every form uses. -/
  componentImports : List Import
  /-- How many levels the fields stand below the opening lines. -/
  bodyDepth : Nat
  /-- The binding of a field. -/
  binding : Field → Binding
  /-- The markup around the control of a field. -/
  block : Field → List String → List String
  /-- The lines that set up the state, from the values to start with. -/
  setup : Members → List String
  /-- The lines in front of the fields. -/
  opening : List String
  /-- The lines behind the fields. -/
  closing : List String

namespace Wiring

/-- The style of a generated form. -/
def formClass : String := "className=\"space-y-8 max-w-3xl mx-auto py-10\""

def button : Import := ⟨"@/components/ui/button", "Button"⟩

def label : Import := ⟨"@/components/ui/label", "Label"⟩

def answersType : String := "z.infer<typeof formSchema>"

def objectLines (beginning ending : String) : Members → List String
  | [] => [beginning ++ "\x7b\x7d" ++ ending]
  | members =>
    [beginning ++ "\x7b"] ++
      members.map (fun (key, value) => s!"  {key}: " ++ value.literal ++ ",") ++
      ["\x7d" ++ ending]

theorem length_objectLines (beginning ending : String) {members : Members} (h : members ≠ []) :
    (objectLines beginning ending members).length = members.length + 2 := by
  cases members with
  | nil => exact absurd rfl h
  | cons member rest => simp [objectLines]

/-- The description of a field that has one, in an element. -/
def helpText (f : Field) (tag attributes : String) : List String :=
  match Field.given? f.description with
  | some text => ["<" ++ tag ++ attributes ++ ">" ++ Markup.text text ++ "</" ++ tag ++ ">"]
  | none => []

/-- The description of a field in a plain paragraph. -/
def helpParagraph (f : Field) : List String :=
  helpText f "p" " className=\"text-sm text-muted-foreground\""

/-- The style of a message about an error. -/
def errorClass : String := "className=\"text-sm font-medium text-destructive\""

/-- The label of a field, with the value of the attribute that names its control. -/
def labelLine (f : Field) (target : String) : String :=
  "<Label htmlFor=" ++ target ++ ">" ++ Markup.text f.displayName ++ "</Label>"

def nameAttribute (f : Field) : String := Markup.plainText "name" f.name

end Wiring

end FormStudio
