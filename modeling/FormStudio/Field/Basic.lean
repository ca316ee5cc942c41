import FormStudio.Json.Basic

/-!
# Fields

A field is one question of a form: the kind of control that asks it, its name, its texts, its
current value, and settings that only some controls use. Data under keys that are no attributes is
kept with the field as extras, in order.

Main statements: `isIdentifier_iff`, an identifier is a letter or underscore and then letters,
digits and underscores, and `Field.keys_toMembers`, the extras follow the attributes.
-/
namespace FormStudio

/-! ## Names -/

/-- A letter or an underscore. -/
def isNameStart (c : Char) : Bool := c.isAlpha || c == '_'

/-- A letter, a digit or an underscore. -/
def isNameChar (c : Char) : Bool := c.isAlphanum || c == '_'

/-- Whether a text is an identifier of ASCII letters, digits and underscores. -/
def isIdentifier : List Char → Bool
  | [] => false
  | c :: rest => isNameStart c && rest.all isNameChar

/-- Whether a text is accepted as a name: an identifier, with or without one line break behind
it. -/
def isFieldName (name : String) : Bool :=
  isIdentifier name.toList ||
    (name.toList.getLast? == some '\n' && isIdentifier name.toList.dropLast)

theorem isIdentifier_iff {cs : List Char} :
    isIdentifier cs = true ↔
      ∃ c rest, cs = c :: rest ∧ isNameStart c = true ∧ ∀ d ∈ rest, isNameChar d = true := by
  cases cs with
  | nil => simp [isIdentifier]
  | cons c rest =>
    simp only [isIdentifier, Bool.and_eq_true, List.all_eq_true]
    refine ⟨fun h => ⟨c, rest, rfl, h⟩, ?_⟩
    rintro ⟨_, _, h, hc⟩
    cases h
    exact hc

/-! ## Values -/

/-- What a field can hold: a text, a flag, a number, or a list of texts. -/
inductive FieldValue where
  | text (value : String)
  | flag (value : Bool)
  | number (value : Number)
  | choices (values : List String)
  deriving DecidableEq, Repr

def FieldValue.toJson : FieldValue → Json
  | .text s => .str s
  | .flag b => .bool b
  | .number n => .num n
  | .choices ss => .arr (ss.map Json.str)

/-- One field of a form. -/
structure Field where
  /-- The kind of control. -/
  variant : String
  /-- The key of the answer; no two fields of a form share it. -/
  name : String
  label : String
  /-- A hint about the input, kept for older forms. -/
  type : String
  description : Option String
  placeholder : Option String
  /-- The current value. -/
  value : Option FieldValue
  checked : Bool
  disabled : Bool
  required : Option Bool
  min : Option Number
  max : Option Number
  step : Option Number
  locale : Option String
  hour12 : Option Bool
  className : Option String
  rowIndex : Option Int
  /-- Data under other keys. -/
  extras : Members
  deriving DecidableEq, Repr

namespace Field

/-- Whether an answer must be given. -/
def isRequired (f : Field) : Bool := f.required.getD false

/-- What a person reads: the label, or the name where there is none. -/
def displayName (f : Field) : String := if f.label = "" then f.name else f.label

def given? (text : Option String) : Option String := text.filter (· != "")

/-- The options to choose from: those that the extras list, else the given ones. -/
def options (f : Field) (fallback : List String) : List String :=
  ((Table.get? "options" f.extras).bind Json.texts?).getD fallback

/-- A member that is left out where there is no value. -/
def optionalMember {α : Type} (key : String) (toJson : α → Json) : Option α → Members
  | none => []
  | some a => [(key, toJson a)]

/-- The members of the attributes, in order. -/
def attributeMembers (f : Field) : Members :=
  [("variant", .str f.variant), ("name", .str f.name), ("label", .str f.label),
    ("type", .str f.type)] ++
  optionalMember "description" .str f.description ++
  optionalMember "placeholder" .str f.placeholder ++
  optionalMember "value" FieldValue.toJson f.value ++
  [("checked", .bool f.checked), ("disabled", .bool f.disabled)] ++
  optionalMember "required" .bool f.required ++
  optionalMember "min" .num f.min ++
  optionalMember "max" .num f.max ++
  optionalMember "step" .num f.step ++
  optionalMember "locale" .str f.locale ++
  optionalMember "hour12" .bool f.hour12 ++
  optionalMember "className" .str f.className ++
  optionalMember "rowIndex" Json.int f.rowIndex

/-- The members of a field: its attributes, and then its extras. -/
def toMembers (f : Field) : Members := f.attributeMembers ++ f.extras

def toJson (f : Field) : Json := .obj f.toMembers

theorem keys_toMembers (f : Field) :
    f.toMembers.keys = f.attributeMembers.keys ++ f.extras.keys := by
  simp [toMembers, Table.keys]

end Field

end FormStudio
