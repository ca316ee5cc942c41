import FormStudio.Rule.Export

/-!
# Checking answers

The answers of a form are checked against the schema of its rules, and every violation is turned
into an error of a field: the type of error, a sentence, what was expected and what was given.
Errors come in the order of the rules. A field reports each type of error once, and one that has not
been answered reports only that it is required.

Main statement: `Validation.isValid_iff`, the answers are valid exactly when there is no error.
-/
namespace FormStudio

/-- An error of a field. -/
structure FieldError where
  fieldName : String
  errorType : ErrorType
  message : String
  expected : Json
  received : Json
  deriving DecidableEq, Repr

/-- What became of a check. -/
structure Validation where
  errors : List FieldError
  /-- The answers that were checked. -/
  data : Members
  deriving DecidableEq, Repr

namespace Validation

def isValid (v : Validation) : Bool := v.errors.isEmpty

/-- The answers, if they are valid. -/
def accepted (v : Validation) : Option Members := if v.isValid then some v.data else none

/-- The sentences of the errors of one field. -/
def messagesFor (v : Validation) (name : String) : List String :=
  (v.errors.filter fun e => e.fieldName == name).map FieldError.message

/-- The sentences by field, fields in order of their first error. -/
def messages (v : Validation) : Table (List String) :=
  v.errors.foldl (fun t e =>
    Table.put e.fieldName ((Table.get? e.fieldName t).getD [] ++ [e.message]) t) []

theorem isValid_iff {v : Validation} : v.isValid = true ↔ v.errors = [] := by
  simp [isValid]

end Validation

namespace Rule

/-- The type of error that a violation is. A missing answer shows also as `null` in place of a value
and as an empty list. -/
def errorType (rule : Rule) (keyword : Keyword) (value : Json) : ErrorType :=
  match keyword with
  | .pattern written =>
    if written = nonBlankPattern then .required
    else if written = datePattern then .format
    else .pattern
  | .ofType _ => if value.same .null && rule.required then .required else .wrongType
  | .minItems _ => if value.same (.arr []) && rule.required then .required else .minItems
  | .minLength _ => .minLength
  | .maxLength _ => .maxLength
  | .minimum _ => .minimum
  | .maximum _ => .maximum
  | .multipleOf _ => .step
  | .const _ => .mustBeTrue
  | .maxItems _ => .maxItems
  | .not _ => .required
  | _ => .wrongType

end Rule

/-- The keywords and values at fault: those of a violation itself, or of the constrained branch
where no branch holds. -/
def Violation.leaves : Violation → List (Keyword × Json)
  | .leaf _ keyword value => [(keyword, value)]
  | .noBranch _ branches =>
    ((branches[1]?).getD []).filterMap fun
      | .leaf _ keyword value => some (keyword, value)
      | .noBranch .. => none

namespace Spec

/-- The error for a field without an answer. -/
def missingError (rule : Rule) : Derived FieldError := do
  .ok ⟨rule.name, .required, ← rule.message .required, .null, .null⟩

/-- The error of a field for a keyword and the value at fault. -/
def leafError (rule : Rule) (data : Members) (keyword : Keyword) (value : Json) :
    Derived FieldError := do
  let type := rule.errorType keyword value
  let expected := if type = .required then Json.null else keyword.member.2
  .ok ⟨rule.name, type, ← rule.message type, expected, (data.get? rule.name).getD .null⟩

/-- The errors that a violation is turned into. -/
def violationErrors (spec : Spec) (data : Members) (violation : Violation) :
    Derived (List FieldError) :=
  match violation with
  | .leaf _ (.required names) _ =>
    ((names.filter fun name => !data.has name).filterMap spec.rule?).mapM missingError
  | violation =>
    match violation.path with
    | .key name :: _ =>
      match spec.rule? name with
      | some rule =>
        violation.leaves.mapM fun (keyword, value) => leafError rule data keyword value
      | none => .ok []
    | _ => .ok []

/-- Keeps the first error of each field and type. -/
def firstOfEach : List FieldError → List FieldError
  | [] => []
  | e :: rest =>
    e :: (firstOfEach rest).filter fun d =>
      !(d.fieldName == e.fieldName && d.errorType == e.errorType)

/-- The errors of one field: only that it is required, if that is one of them. -/
def errorsFor (errors : List FieldError) (name : String) : List FieldError :=
  let own := errors.filter fun e => e.fieldName == name
  let required := own.filter fun e => e.errorType == .required
  if required.isEmpty then own else required

/-- Checks the answers of a form. -/
def validate (spec : Spec) (data : Members) : Derived Validation := do
  let found ← (Schema.violations (spec.toSchema standardTitle) [] (.obj data)).collect
    (spec.violationErrors data)
  let errors := firstOfEach found
  .ok ⟨spec.fieldNames.flatMap (errorsFor errors), data⟩

end Spec

namespace Rule

def check (rule : Rule) (answer : Option Json) : Derived (List FieldError) := do
  let data := match answer with
    | some value => [(rule.name, value)]
    | none => []
  let result ← (Spec.mk [rule]).validate data
  .ok result.errors

end Rule

end FormStudio
