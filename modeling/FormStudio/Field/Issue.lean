import FormStudio.Json.Basic

/-!
# Issues

What is wrong with given data: a path to the part at fault and a kind. Reading a record collects the
issues of all its parts, in the order of the parts.

Main statement: `Checked.issues_seq`, two parts report the issues of both, the first part's first.
-/
namespace FormStudio

/-- One step of a path into data. -/
inductive PathStep where
  | key (name : String)
  | index (position : Nat)
  deriving DecidableEq, Repr

def PathStep.text : PathStep → String
  | .key name => name
  | .index position => toString position

def PathStep.toJson : PathStep → Json
  | .key name => .str name
  | .index position => .int position

def pathText (path : List PathStep) : String := ".".intercalate (path.map PathStep.text)

/-- What can be wrong with a part. -/
inductive IssueKind where
  | missing
  | notText
  | emptyText
  | notFlag
  | unclearFlag
  | notInteger
  | unclearInteger
  /-- An integer of too many digits, or past the machine words. -/
  | integerSize
  | fractional
  | notNumber
  | unclearNumber
  | notFinite
  | notList
  | notOneOf (choices : String)
  | badName
  | notAField
  deriving DecidableEq, Repr

namespace IssueKind

def code : IssueKind → String
  | .missing => "missing"
  | .notText => "string_type"
  | .emptyText => "string_too_short"
  | .notFlag => "bool_type"
  | .unclearFlag => "bool_parsing"
  | .notInteger => "int_type"
  | .unclearInteger => "int_parsing"
  | .integerSize => "int_parsing_size"
  | .fractional => "int_from_float"
  | .notNumber => "float_type"
  | .unclearNumber => "float_parsing"
  | .notFinite => "finite_number"
  | .notList => "list_type"
  | .notOneOf _ => "literal_error"
  | .badName => "value_error"
  | .notAField => "model_type"

def message : IssueKind → String
  | .missing => "Field required"
  | .notText => "Input should be a valid string"
  | .emptyText => "String should have at least 1 character"
  | .notFlag => "Input should be a valid boolean"
  | .unclearFlag => "Input should be a valid boolean, unable to interpret input"
  | .notInteger => "Input should be a valid integer"
  | .unclearInteger => "Input should be a valid integer, unable to parse string as an integer"
  | .integerSize => "Unable to parse input string as an integer, exceeded maximum size"
  | .fractional => "Input should be a valid integer, got a number with a fractional part"
  | .notNumber => "Input should be a valid number"
  | .unclearNumber => "Input should be a valid number, unable to parse string as a number"
  | .notFinite => "Input should be a finite number"
  | .notList => "Input should be a valid list"
  | .notOneOf choices => "Input should be " ++ choices
  | .badName =>
    "Value error, name must be a valid identifier " ++
      "(letters, digits and underscores, not starting with a digit)"
  | .notAField => "Input should be a valid dictionary or instance of FieldDescriptor"

end IssueKind

/-- One thing wrong with given data. -/
structure Issue where
  path : List PathStep
  kind : IssueKind
  deriving DecidableEq, Repr

/-- How many issues there are, in words. -/
def issueCount (issues : List Issue) : String :=
  if issues.length = 1 then "1 validation error"
  else toString issues.length ++ " validation errors"

/-- A value read from data, or the issues that stand against it. -/
inductive Checked (α : Type) where
  | good (value : α)
  | bad (issues : List Issue)
  deriving Repr

namespace Checked

variable {α β : Type}

/-- Applies a function to a value when both are good, and else collects the issues of both. -/
def apply : Checked (α → β) → Checked α → Checked β
  | .good f, .good a => .good (f a)
  | .good _, .bad issues => .bad issues
  | .bad issues, .good _ => .bad issues
  | .bad issues, .bad more => .bad (issues ++ more)

instance : Applicative Checked where
  pure := .good
  seq f a := apply f (a ())

/-- The issues, none for a good value. -/
def issues : Checked α → List Issue
  | .good _ => []
  | .bad issues => issues

/-- The outcome as an alternative of issues and value. -/
def toExcept : Checked α → Except (List Issue) α
  | .good value => .ok value
  | .bad issues => .error issues

def fault (path : List PathStep) (kind : IssueKind) : Checked α := .bad [⟨path, kind⟩]

@[simp] theorem issues_seq (f : Checked (α → β)) (a : Checked α) :
    (f <*> a).issues = f.issues ++ a.issues := by
  show (apply f a).issues = _
  cases f <;> cases a <;> simp [apply, issues]

@[simp] theorem issues_map (f : α → β) (a : Checked α) : (f <$> a).issues = a.issues := by
  show (apply (.good f) a).issues = _
  cases a <;> rfl

@[simp] theorem issues_pure (a : α) : (pure a : Checked α).issues = [] := rfl

end Checked

end FormStudio
