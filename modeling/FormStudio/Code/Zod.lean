import FormStudio.Code.Literal
import FormStudio.Rule.Export

/-!
# Validators in generated code

A rule is also written as a chain of `zod` calls. The chain is built from the same rule that the
live check uses and carries the same sentences, so a generated form refuses what the preview
refuses. It is kept as a value, and its text is made from that.
-/
namespace FormStudio

/-- What a chain starts from. -/
inductive ZodBase where
  | string
  | number
  | boolean
  /-- A list of texts. -/
  | strings
  | any
  deriving DecidableEq, Repr

/-- A link of a chain, with the sentence for a value that fails it. -/
inductive ZodCheck where
  /-- Some character is not blank. -/
  | nonBlank (message : String)
  | regex (pattern message : String)
  /-- A bound on a length, a count of items, or a number. -/
  | min (bound : Number) (message : String)
  | max (bound : Number) (message : String)
  | multipleOf (step : Number) (message : String)
  /-- The flag is set. -/
  | isTrue (message : String)
  /-- There is a value, and it is not an empty text or list. -/
  | present (message : String)
  deriving DecidableEq, Repr

/-- A chain. -/
structure Zod where
  base : ZodBase
  checks : List ZodCheck
  /-- Whether the empty text passes in spite of the checks. -/
  orEmpty : Bool
  /-- Whether the value may be absent. -/
  optional : Bool
  deriving DecidableEq, Repr

namespace ZodBase

def text : ZodBase → String
  | .string => "z.string()"
  | .number => "z.number()"
  | .boolean => "z.boolean()"
  | .strings => "z.array(z.string())"
  | .any => "z.any()"

end ZodBase

namespace ZodCheck

def presentCondition : String :=
  "(value) => value !== undefined && value !== null && value !== \"\"" ++
    " && !(Array.isArray(value) && value.length === 0)"

/-- The text of a call with a sentence behind its argument. -/
def call (method argument message : String) : String :=
  "." ++ method ++ "(" ++ argument ++ ", " ++ braced (" message: " ++ textLiteral message ++ " ") ++
    ")"

def text : ZodCheck → String
  | .nonBlank message => call "regex" "/\\S/" message
  | .regex pattern message => call "regex" ("new RegExp(" ++ textLiteral pattern ++ ")") message
  | .min bound message => call "min" bound.literal message
  | .max bound message => call "max" bound.literal message
  | .multipleOf step message => call "multipleOf" step.literal message
  | .isTrue message => call "refine" "(value) => value === true" message
  | .present message => call "refine" presentCondition message

end ZodCheck

def Zod.text (zod : Zod) : String :=
  zod.base.text ++ String.join (zod.checks.map ZodCheck.text) ++
    (if zod.orEmpty then ".or(z.literal(\"\"))" else "") ++
    (if zod.optional then ".optional()" else "")

namespace Rule

/-- The link for a bound that may be absent. -/
def boundCheck {α : Type} (rule : Rule) (bound : Option α) (type : ErrorType)
    (check : α → String → ZodCheck) : Derived (List ZodCheck) :=
  match bound with
  | none => .ok []
  | some b => do .ok [check b (← rule.message type)]

/-- A link that is there under a condition. -/
def checkIf (rule : Rule) (condition : Bool) (type : ErrorType) (check : String → ZodCheck) :
    Derived (List ZodCheck) :=
  rule.boundCheck (if condition then some () else none) type fun _ => check

def countCheck (check : Number → String → ZodCheck) (bound : Int) : String → ZodCheck :=
  check (.int bound)

def textZod (rule : Rule) : Derived Zod := do
  let given ← rule.checkIf rule.required .required .nonBlank
  let least ← rule.boundCheck rule.minLength .minLength (countCheck .min)
  let most ← rule.boundCheck rule.maxLength .maxLength (countCheck .max)
  let shaped ← rule.boundCheck rule.pattern .pattern .regex
  let dated ← rule.checkIf (rule.kind == .date) .format (.regex datePattern)
  .ok ⟨.string, given ++ least ++ most ++ shaped ++ dated,
    !rule.required && rule.hasShapeConstraints, !rule.required⟩

def numberZod (rule : Rule) : Derived Zod := do
  let least ← rule.boundCheck rule.minimum .minimum .min
  let most ← rule.boundCheck rule.maximum .maximum .max
  let stepped ← rule.boundCheck rule.effectiveStep .step .multipleOf
  .ok ⟨.number, least ++ most ++ stepped, false, !rule.required⟩

/-- The chain of a flag. -/
def booleanZod (rule : Rule) : Derived Zod := do
  let agreed ← rule.checkIf rule.mustBeTrue .mustBeTrue .isTrue
  .ok ⟨.boolean, agreed, false, !rule.required⟩

/-- The chain of a list. -/
def arrayZod (rule : Rule) : Derived Zod := do
  let given ← rule.checkIf rule.required .required (.min (.int 1))
  let least ← rule.boundCheck rule.minItems .minItems (countCheck .min)
  let most ← rule.boundCheck rule.maxItems .maxItems (countCheck .max)
  .ok ⟨.strings, given ++ least ++ most, false, !rule.required⟩

/-- The chain of a value of any kind. -/
def anyZod (rule : Rule) : Derived Zod := do
  let given ← rule.checkIf rule.required .required .present
  .ok ⟨.any, given, false, false⟩

def zod (rule : Rule) : Derived Zod :=
  match rule.kind with
  | .string => rule.textZod
  | .date => rule.textZod
  | .number => rule.numberZod
  | .boolean => rule.booleanZod
  | .array => rule.arrayZod
  | .any => rule.anyZod

def zodText (rule : Rule) : Derived String := do .ok (← rule.zod).text

end Rule

def Rule.declarationLine (rule : Rule) : Derived String := do
  .ok ("  " ++ rule.name ++ ": " ++ (← rule.zodText) ++ ",")

/-- The lines that declare the validator of a form under a name. -/
def Spec.declaration (spec : Spec) (constant : String) : Derived (List String) :=
  let opening := "const " ++ constant ++ " = z.object("
  match spec.rules with
  | [] => .ok [opening ++ "\x7b\x7d);"]
  | rules => do
    let lines ← rules.mapM Rule.declarationLine
    .ok ([opening ++ "\x7b"] ++ lines ++ ["\x7d);"])

/-- The name of the validator of a form. -/
def Spec.standardConstant : String := "formSchema"

end FormStudio
