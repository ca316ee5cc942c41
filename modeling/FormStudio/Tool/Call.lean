import FormStudio.Catalog
import FormStudio.Review
import FormStudio.Tool.Basic

/-!
# Calls of tools

A call names a tool and gives it arguments; its result is an object. A call that fails has a result
too, which says what went wrong.
-/
namespace FormStudio

/-- Why a call fails. -/
inductive ToolError where
  | unknownTool (name : String)
  | notImported (error : ImportError)
  | emptyForm
  | unknownLibrary (error : UnknownLibrary)
  | notDerived (error : DerivationError)
  /-- A form that is no text cannot be trimmed. -/
  | untrimmable (value : Json)
  /-- An array or object cannot be looked up as a library. -/
  | unhashable (value : Json)
  deriving DecidableEq, Repr

namespace ToolError

def message : ToolError → String
  | .unknownTool name => "Unknown tool: " ++ name
  | .notImported error => error.message
  | .emptyForm => ReviewError.empty.message
  | .unknownLibrary error => error.message
  | .notDerived error => error.message
  | .untrimmable value => s!"'{value.typeName}' object has no attribute 'strip'"
  | .unhashable value => s!"unhashable type: '{value.typeName}'"

/-- The result of a call that fails. -/
def toMembers (e : ToolError) : Members :=
  [("error", .bool true), ("message", .str e.message)] ++
    match e with
    | .notImported error => error.detailMembers
    | _ => []

end ToolError

namespace Tool

def formOf (arguments : Members) : Except ToolError Form :=
  match Form.ofSource ((Table.get? "form_json" arguments).getD (.str "")) with
  | .ok form => .ok form
  | .error e => .error (.notImported e)

/-- The library that arguments give; nothing, or something empty, stands for the configured one. -/
def libraryOf (config : Config) (arguments : Members) : Except ToolError Library :=
  let value := (Table.get? "library" arguments).getD .null
  if value.isTruthy then
    match value with
    | .arr _ => .error (.unhashable value)
    | .obj _ => .error (.unhashable value)
    | _ =>
      match Library.ofJson value with
      | .ok library => .ok library
      | .error e => .error (.unknownLibrary e)
  else .ok (.resolve config none)

/-- A derivation inside a call. -/
def derived {α : Type} (result : Derived α) : Except ToolError α := result.mapError .notDerived

/-- The source of a component for the form that is given. -/
def generateCode (studio : Studio) (arguments : Members) : Except ToolError Members := do
  let form ← formOf arguments
  let library ← libraryOf studio.config arguments
  let code ← derived (form.source studio.variants library)
  .ok [("library", .str library.id), ("code", .str code),
    ("special_components", Artifacts.componentsJson form.components)]

/-- The schema and the defaults of the form that is given. -/
def deriveSchema (studio : Studio) (arguments : Members) : Except ToolError Members := do
  let form ← formOf arguments
  .ok [("schema", (form.spec studio.variants).schemaJson Spec.standardTitle),
    ("defaults", .obj (form.defaults studio.variants))]

/-- The text that is to be reviewed; something empty stands for no text. -/
def textOf (arguments : Members) : Except ToolError String :=
  match (Table.get? "form_json" arguments).getD (.str "") with
  | .str text => .ok text
  | value => if value.isTruthy then .error (.untrimmable value) else .ok ""

/-- The result of a review that fails. -/
def reviewError : ReviewError → ToolError
  | .empty => .emptyForm
  | .notImported e => .notImported e
  | .notDerived e => .notDerived e

/-- All artifacts of the form that is given. -/
def reviewForm (studio : Studio) (arguments : Members) : Except ToolError Members := do
  let text ← textOf arguments
  let choice := (Table.get? "library" arguments).bind Json.text?
  let review ← (Review.ofText studio text choice).mapError reviewError
  .ok (review.artifacts.toMembers ++ [("html", .str review.artifacts.html)])

def call (studio : Studio) (arguments : Members) : Tool → Except ToolError Members
  | .generateFormCode => generateCode studio arguments
  | .deriveFormSchema => deriveSchema studio arguments
  | .reviewFormJson => reviewForm studio arguments
  | .listFieldTypes => .ok (Catalog.detailed.members?.getD [])

def result (studio : Studio) (name : String) (arguments : Members) : Json :=
  match ofId? name with
  | none => .obj (ToolError.unknownTool name).toMembers
  | some tool =>
    match tool.call studio arguments with
    | .ok members => .obj members
    | .error e => .obj e.toMembers

/-! ## Serving calls -/

/-- What a served call is answered with. -/
structure ToolReply where
  /-- Whether the call was refused. -/
  isError : Bool
  text : String
  deriving DecidableEq, Repr

/-- Serves a call by name. Arguments that do not fit are refused; a name that is no tool is called
and has the result that says so. -/
def serve (studio : Studio) (name : String) (arguments : Members) : ToolReply :=
  match (ofId? name).bind fun tool => tool.argumentFault? arguments with
  | some fault => ⟨true, "Input validation error: " ++ fault.message⟩
  | none => ⟨false, (result studio name arguments).print studio.config.style⟩

def serviceName : String := "form-builder-mcp"

/-- The state of the service. -/
def health (config : Config) : Json := .obj [
  ("status", .str "healthy"),
  ("service", .str serviceName),
  ("transport", .str "sse"),
  ("default_library", .str config.defaultLibrary),
  ("tools", .arr (all.map fun tool => .str tool.id))]

/-- The ways to reach the service. -/
def transports : List String := ["stdio", "sse"]

/-- The sentence for a way that is not known. -/
def unknownTransport (name : String) : String :=
  "Unknown transport: " ++ name ++ ". Use one of: " ++ ", ".intercalate transports

end Tool

end FormStudio
