import FormStudio.Json.Display
import FormStudio.Json.Printer
import FormStudio.Library

/-!
# Tools

The tools that are offered to programs: what each is called, what it is for, and what it is given. A
call that does not fit what a tool is given is refused before the tool runs.

Main statement: `Tool.ofId?_id`, a tool is found under its identifier.
-/
namespace FormStudio

/-- What a tool is given, by name. -/
inductive ToolParameter where
  | formJson
  | library
  deriving DecidableEq, Repr

namespace ToolParameter

def id : ToolParameter → String
  | .formJson => "form_json"
  | .library => "library"

def isRequired : ToolParameter → Bool
  | .formJson => true
  | .library => false

/-- The identifiers of the libraries in JSON form. -/
def libraryIds : Json := .arr (Library.all.map fun library => .str library.id)

def schema : ToolParameter → Json
  | .formJson => .obj [
    ("type", .str "string"),
    ("description", .str ("Form JSON: an array whose items are field objects " ++
      "(\x7b\"variant\": \"Input\", \"name\": \"name_1\", \"label\": \"Username\", ...\x7d) " ++
      "or arrays of field objects rendered as one row"))]
  | .library => .obj [
    ("type", .str "string"),
    ("enum", libraryIds),
    ("description", .str "Target form library for the generated code")]

end ToolParameter

/-- A tool. -/
inductive Tool where
  | generateFormCode
  | deriveFormSchema
  | reviewFormJson
  | listFieldTypes
  deriving DecidableEq, Repr

namespace Tool

/-- All tools, in the order they are offered. -/
def all : List Tool := [.generateFormCode, .deriveFormSchema, .reviewFormJson, .listFieldTypes]

def id : Tool → String
  | .generateFormCode => "generate_form_code"
  | .deriveFormSchema => "derive_form_schema"
  | .reviewFormJson => "review_form_json"
  | .listFieldTypes => "list_field_types"

def ofId? (name : String) : Option Tool := all.find? fun tool => tool.id == name

def description : Tool → String
  | .generateFormCode => "\n".intercalate [
    "Generate the source of a React form component from form JSON.",
    "",
    "The JSON is the builder's export format. Supported libraries are",
    "react-hook-form (zod resolver), tanstack-form and bring-your-own",
    "(plain React state). Unknown field variants become a marked placeholder",
    "comment; the rest of the form is generated normally."]
  | .deriveFormSchema =>
    "Derive the JSON Schema validation rules and default values for form JSON."
  | .reviewFormJson => "\n".intercalate [
    "Validate form JSON and return every preview artifact: normalized JSON,",
    "JSON Schema, defaults, generated code, row layout and an HTML preview.",
    "Invalid input returns the offending path and the expected shape."]
  | .listFieldTypes =>
    "List the field variants that can be added to a form and the supported form libraries."

/-- What a tool is given. -/
def parameters : Tool → List ToolParameter
  | .generateFormCode => [.formJson, .library]
  | .deriveFormSchema => [.formJson]
  | .reviewFormJson => [.formJson, .library]
  | .listFieldTypes => []

/-- The names of the parameters that have to be given; none at all for a tool that is given
nothing. -/
def required? (tool : Tool) : Option (List String) :=
  match tool.parameters with
  | [] => none
  | parameters => some ((parameters.filter ToolParameter.isRequired).map ToolParameter.id)

def inputSchema (tool : Tool) : Json :=
  .obj ([("type", .str "object"),
    ("properties", .obj (tool.parameters.map fun p => (p.id, p.schema)))] ++
    match tool.required? with
    | none => []
    | some names => [("required", .arr (names.map .str))])

def toJson (tool : Tool) : Json := .obj [
  ("name", .str tool.id),
  ("description", .str tool.description),
  ("inputSchema", tool.inputSchema)]

/-! ## Arguments -/

/-- Why arguments are refused. -/
inductive ArgumentFault where
  | missing (parameter : ToolParameter)
  | notText (value : Json)
  | notALibrary (value : Json)
  deriving DecidableEq, Repr

/-- A value as it is shown inside a sentence, texts in quotes. -/
def shown (value : Json) : String := String.ofList (Json.displayPart value)

def ArgumentFault.message : ArgumentFault → String
  | .missing parameter => s!"'{parameter.id}' is a required property"
  | .notText value => shown value ++ " is not of type 'string'"
  | .notALibrary value => shown value ++ " is not one of " ++ shown ToolParameter.libraryIds

/-- What is wrong with the value of a parameter. -/
def valueFault? (parameter : ToolParameter) (value : Json) : Option ArgumentFault :=
  match parameter, value with
  | .formJson, .str _ => none
  | .library, .str name => if (Library.ofId? name).isSome then none else some (.notALibrary value)
  | _, _ => some (.notText value)

/-- What is wrong with the argument of a parameter, if it is given. -/
def givenFault? (arguments : Members) (parameter : ToolParameter) : Option ArgumentFault :=
  (Table.get? parameter.id arguments).bind (valueFault? parameter)

def missingFault? (arguments : Members) (parameter : ToolParameter) : Option ArgumentFault :=
  if parameter.isRequired && !Table.has parameter.id arguments then some (.missing parameter)
  else none

/-- What is wrong with arguments: one that is missing, or else the last one that is wrong. -/
def argumentFault? (tool : Tool) (arguments : Members) : Option ArgumentFault :=
  (tool.parameters.findSome? (missingFault? arguments)).or
    (tool.parameters.reverse.findSome? (givenFault? arguments))

theorem ofId?_id (tool : Tool) : ofId? tool.id = some tool := by cases tool <;> decide

end Tool

end FormStudio
