import FormStudio.Field.Basic
import FormStudio.Field.Issue

/-!
# Reading fields

A field is read from an object without any coercion: every attribute has the type it has, or the
field is refused with the issues of all its attributes, in the order of the attributes. Callbacks
are dropped, and all other unknown keys are kept as extras.

Two attributes have a second spelling. `Spelling` says whether it counts; where both are given, the
first spelling wins and the second is an unknown key.

Main statement: `Field.issues_readMembers`, the issues of an object are those of its attributes in
order.
-/
namespace FormStudio

/-- Which spellings of the attribute keys count. -/
inductive Spelling where
  /-- The written form alone: `className`, `rowIndex`. -/
  | written
  /-- The written form, and else `class_name` and `row_index`. -/
  | either
  deriving DecidableEq, Repr

/-- The keys of callbacks, which are never kept. -/
def callbackKeys : List String :=
  ["setValue", "onChange", "onSelect", "set_value", "on_change", "on_select"]

/-- The keys of the attributes, in order. -/
def attributeKeys : List String :=
  ["variant", "name", "label", "type", "description", "placeholder", "value", "checked", "disabled",
    "required", "min", "max", "step", "locale", "hour12", "className", "rowIndex"]

def writtenKey : String → String
  | "class_name" => "className"
  | "row_index" => "rowIndex"
  | key => key

namespace Field

/-! ## Types of attributes -/

def readText (path : List PathStep) : Json → Checked String
  | .str s => .good s
  | _ => .fault path .notText

def readFlag (path : List PathStep) : Json → Checked Bool
  | .bool b => .good b
  | _ => .fault path .notFlag

def readInteger (path : List PathStep) : Json → Checked Int
  | .num (.int i) => .good i
  | _ => .fault path .notInteger

/-- Nothing, or a value of a type. -/
def readOptional {α : Type} (read : Json → Checked α) : Json → Checked (Option α)
  | .null => .good none
  | value => some <$> read value

/-- The issues of data that is no number, one for each spelling of a number. -/
def numberIssues (path : List PathStep) : Json → List Issue
  | .num (.float _) =>
    [⟨path ++ [.key "int"], .notInteger⟩, ⟨path ++ [.key "float"], .notFinite⟩]
  | _ => [⟨path ++ [.key "int"], .notInteger⟩, ⟨path ++ [.key "float"], .notNumber⟩]

def readNumber (path : List PathStep) : Json → Checked Number
  | .num (.int i) => .good (.int i)
  | .num (.float x) =>
    if x.isFinite then .good (.float x) else .bad (numberIssues path (.num (.float x)))
  | value => .bad (numberIssues path value)

def itemIssues (path : List PathStep) (position : Nat) : List Json → List Issue
  | [] => []
  | .str _ :: rest => itemIssues path (position + 1) rest
  | _ :: rest => ⟨path ++ [.index position], .notText⟩ :: itemIssues path (position + 1) rest

/-- The issues of data that is no field value, one for each type it could have had. -/
def valueIssues (path : List PathStep) (value : Json) : List Issue :=
  let textsPath := path ++ [.key "list[str]"]
  [⟨path ++ [.key "str"], .notText⟩, ⟨path ++ [.key "bool"], .notFlag⟩] ++
    numberIssues path value ++
    match value with
    | .arr items => itemIssues textsPath 0 items
    | _ => [⟨textsPath, .notList⟩]

/-- A text, a flag, a finite number or a list of texts. -/
def readValue (path : List PathStep) (value : Json) : Checked FieldValue :=
  match value with
  | .str s => .good (.text s)
  | .bool b => .good (.flag b)
  | .num (.int i) => .good (.number (.int i))
  | .num (.float x) =>
    if x.isFinite then .good (.number (.float x)) else .bad (valueIssues path value)
  | .arr _ =>
    match value.texts? with
    | some texts => .good (.choices texts)
    | none => .bad (valueIssues path value)
  | _ => .bad (valueIssues path value)

/-- A text that is not empty. -/
def readVariant (path : List PathStep) : Json → Checked String
  | .str s => if s = "" then .fault path .emptyText else .good s
  | _ => .fault path .notText

/-- A text that is accepted as a name. -/
def readName (path : List PathStep) : Json → Checked String
  | .str s => if isFieldName s then .good s else .fault path .badName
  | _ => .fault path .notText

/-! ## Attributes -/

/-- An attribute that must be there. -/
def mandatory {α : Type} (members : Members) (key : String)
    (read : List PathStep → Json → Checked α) : Checked α :=
  match Table.get? key members with
  | some value => read [.key key] value
  | none => .fault [.key key] .missing

/-- An attribute with a value to fall back on. -/
def defaulted {α : Type} (members : Members) (key : String) (fallback : α)
    (read : List PathStep → Json → Checked α) : Checked α :=
  match Table.get? key members with
  | some value => read [.key key] value
  | none => .good fallback

/-- An attribute that may be absent or `null`. -/
def optional {α : Type} (members : Members) (key : String)
    (read : List PathStep → Json → Checked α) : Checked (Option α) :=
  defaulted members key none fun path => readOptional (read path)

/-- The key under which an attribute is given: its first spelling, or else a second one that
counts. -/
def givenKey (spelling : Spelling) (members : Members) (key second : String) : String :=
  if spelling = .either ∧ ¬ members.has key ∧ members.has second then second else key

/-- Whether a key belongs to no attribute and no callback. -/
def isExtraKey (spelling : Spelling) (members : Members) (key : String) : Bool :=
  !attributeKeys.contains key && !callbackKeys.contains key &&
    key != givenKey spelling members "className" "class_name" &&
    key != givenKey spelling members "rowIndex" "row_index"

/-- The members under unknown keys. -/
def extraMembers (spelling : Spelling) (members : Members) : Members :=
  members.filter fun (key, _) => isExtraKey spelling members key

def readMembers (spelling : Spelling) (members : Members) : Checked Field :=
  Field.mk <$> mandatory members "variant" readVariant
    <*> mandatory members "name" readName
    <*> defaulted members "label" "" readText
    <*> defaulted members "type" "" readText
    <*> optional members "description" readText
    <*> optional members "placeholder" readText
    <*> optional members "value" readValue
    <*> defaulted members "checked" true readFlag
    <*> defaulted members "disabled" false readFlag
    <*> optional members "required" readFlag
    <*> optional members "min" readNumber
    <*> optional members "max" readNumber
    <*> optional members "step" readNumber
    <*> optional members "locale" readText
    <*> optional members "hour12" readFlag
    <*> optional members (givenKey spelling members "className" "class_name") readText
    <*> optional members (givenKey spelling members "rowIndex" "row_index") readInteger
    <*> pure (extraMembers spelling members)

def read (spelling : Spelling) : Json → Checked Field
  | .obj members => readMembers spelling members
  | _ => .fault [] .notAField

/-- The issues of an object are those of its attributes, in order. -/
theorem issues_readMembers (spelling : Spelling) (members : Members) :
    (readMembers spelling members).issues =
      (mandatory members "variant" readVariant).issues ++
      (mandatory members "name" readName).issues ++
      (defaulted members "label" "" readText).issues ++
      (defaulted members "type" "" readText).issues ++
      (optional members "description" readText).issues ++
      (optional members "placeholder" readText).issues ++
      (optional members "value" readValue).issues ++
      (defaulted members "checked" true readFlag).issues ++
      (defaulted members "disabled" false readFlag).issues ++
      (optional members "required" readFlag).issues ++
      (optional members "min" readNumber).issues ++
      (optional members "max" readNumber).issues ++
      (optional members "step" readNumber).issues ++
      (optional members "locale" readText).issues ++
      (optional members "hour12" readFlag).issues ++
      (optional members (givenKey spelling members "className" "class_name") readText).issues ++
      (optional members (givenKey spelling members "rowIndex" "row_index") readInteger).issues := by
  simp [readMembers]

end Field

end FormStudio
