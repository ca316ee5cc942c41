import FormStudio.Derivation
import FormStudio.Json.Display

/-!
# Rules

A rule says what answers a field accepts: their kind, whether one must be given, and bounds. Each
way of failing has a type and a sentence, which the live check and the generated code share.

Main statement: `ErrorType.ofId?_id`, an error type is found under its identifier.
-/
namespace FormStudio

/-- The kind of an answer. -/
inductive RuleKind where
  | string
  | date
  | number
  | boolean
  | array
  /-- Anything. -/
  | any
  deriving DecidableEq, Repr, Inhabited

namespace RuleKind

def all : List RuleKind := [.string, .date, .number, .boolean, .array, .any]

def id : RuleKind → String
  | .string => "string"
  | .date => "date"
  | .number => "number"
  | .boolean => "boolean"
  | .array => "array"
  | .any => "any"

def ofId? (name : String) : Option RuleKind := all.find? fun kind => kind.id == name

/-- What an answer has to be. -/
def noun : RuleKind → String
  | .string => "text"
  | .date => "a date"
  | .number => "a number"
  | .boolean => "true or false"
  | .array => "a list of strings"
  | .any => "a value"

end RuleKind

/-- What answers a field accepts. -/
structure Rule where
  /-- The name of the field. -/
  name : String
  variant : String
  label : String
  kind : RuleKind
  required : Bool
  /-- Whether the only accepted flag is a set one. -/
  mustBeTrue : Bool
  minimum : Option Number
  maximum : Option Number
  step : Option Number
  minLength : Option Int
  maxLength : Option Int
  minItems : Option Int
  maxItems : Option Int
  pattern : Option String
  deriving DecidableEq, Repr

/-- The ways an answer can fail. -/
inductive ErrorType where
  | required
  | wrongType
  | minLength
  | maxLength
  | pattern
  | minimum
  | maximum
  | step
  | minItems
  | maxItems
  | format
  | mustBeTrue
  deriving DecidableEq, Repr

namespace ErrorType

def all : List ErrorType :=
  [.required, .wrongType, .minLength, .maxLength, .pattern, .minimum, .maximum, .step, .minItems,
    .maxItems, .format, .mustBeTrue]

def id : ErrorType → String
  | .required => "required"
  | .wrongType => "type"
  | .minLength => "min_length"
  | .maxLength => "max_length"
  | .pattern => "pattern"
  | .minimum => "minimum"
  | .maximum => "maximum"
  | .step => "step"
  | .minItems => "min_items"
  | .maxItems => "max_items"
  | .format => "format"
  | .mustBeTrue => "must_be_true"

def ofId? (name : String) : Option ErrorType := all.find? fun type => type.id == name

theorem ofId?_id (type : ErrorType) : ofId? type.id = some type := by
  cases type <;> decide

end ErrorType

namespace Rule

def plain (name variant label : String) (kind : RuleKind) (required : Bool) : Rule where
  name := name
  variant := variant
  label := label
  kind := kind
  required := required
  mustBeTrue := false
  minimum := none
  maximum := none
  step := none
  minLength := none
  maxLength := none
  minItems := none
  maxItems := none
  pattern := none

/-- What messages call the field. -/
def displayName (rule : Rule) : String := if rule.label = "" then rule.name else rule.label

/-- Whether a text is checked for more than being there. -/
def hasShapeConstraints (rule : Rule) : Bool :=
  rule.minLength.isSome || rule.maxLength.isSome || rule.pattern.isSome || rule.kind == .date

/-- The step, unless it is absent or zero. -/
def effectiveStep (rule : Rule) : Option Number := rule.step.filter fun s => !s.isZero

/-- A bound as a compact numeral. -/
def boundText : Option Number → Derived String
  | none => .error .boundMissing
  | some n => Derived.ofOption (n.compactText?.map String.ofList)

def countText (count : Option Int) : String := (Json.ofOption Json.int count).display

def message (rule : Rule) (type : ErrorType) : Derived String := do
  let name := rule.displayName
  match type with
  | .required => .ok s!"{name} is required"
  | .wrongType => .ok (s!"{name} must be " ++ rule.kind.noun)
  | .minLength => .ok (s!"{name} must be at least " ++ countText rule.minLength ++ " characters")
  | .maxLength => .ok (s!"{name} must be at most " ++ countText rule.maxLength ++ " characters")
  | .pattern => .ok s!"{name} has an invalid format"
  | .format => .ok "Invalid date"
  | .minimum => do .ok (s!"{name} must be at least " ++ (← boundText rule.minimum))
  | .maximum => do .ok (s!"{name} must be at most " ++ (← boundText rule.maximum))
  | .step => do .ok (s!"{name} must be a multiple of " ++ (← boundText rule.step))
  | .mustBeTrue => .ok s!"{name} must be accepted"
  | .minItems => .ok (s!"{name} needs at least " ++ countText rule.minItems ++ " items")
  | .maxItems => .ok (s!"{name} allows at most " ++ countText rule.maxItems ++ " items")

/-- The sentence for an identifier, which may be that of no error type. -/
def messageFor (rule : Rule) (id : String) : Derived String :=
  match ErrorType.ofId? id with
  | some type => rule.message type
  | none => .ok (rule.displayName ++ " is invalid")

end Rule

end FormStudio
