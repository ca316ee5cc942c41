import FormStudio.Rule.Basic
import FormStudio.Rule.Schema

/-!
# Rules as schemas

The schema of a rule, and of the rules of a whole form. The live check runs on these schemas, so
what is exported is what is checked.
-/
namespace FormStudio

/-- What a given answer has to show: one character that is not blank. -/
def nonBlankPattern : String := "\\S"

/-- A calendar date, with or without a time of day behind it. -/
def datePattern : String :=
  "^\\d\x7b4\x7d-\\d\x7b2\x7d-\\d\x7b2\x7d" ++
    "(T\\d\x7b2\x7d:\\d\x7b2\x7d(:\\d\x7b2\x7d(\\.\\d+)?)?(Z|[+-]\\d\x7b2\x7d:\\d\x7b2\x7d)?)?$"

/-- A keyword for a bound that may be absent. -/
def boundKeyword {α : Type} (keyword : α → Keyword) : Option α → Schema
  | none => []
  | some bound => [keyword bound]

namespace Rule

/-- The patterns that a text has to have, in order. An empty pattern asks for nothing. -/
def patterns (rule : Rule) : List String :=
  (if rule.required then [nonBlankPattern] else []) ++
  (rule.pattern.filter (· != "")).toList ++
  (if rule.kind = .date then [datePattern] else [])

/-- The keywords for patterns: one stands alone, several stand together. -/
def patternKeywords : List String → Schema
  | [] => []
  | [written] => [.pattern written]
  | several => [.allOf (several.map fun written => [.pattern written])]

/-- The schema of a text. An empty answer skips the checks of an optional field. -/
def textSchema (rule : Rule) : Schema :=
  let schema : Schema :=
    [.ofType .string] ++ boundKeyword .minLength rule.minLength ++
      boundKeyword .maxLength rule.maxLength ++ patternKeywords rule.patterns
  if !rule.required && rule.hasShapeConstraints then [.anyOf [[.const (.str "")], schema]]
  else schema

def numberSchema (rule : Rule) : Schema :=
  [.ofType .number] ++ boundKeyword .minimum rule.minimum ++ boundKeyword .maximum rule.maximum ++
    boundKeyword .multipleOf rule.effectiveStep

/-- The least count of items: at least one where an answer must be given. -/
def leastItems (rule : Rule) : Option Int :=
  if rule.required then some (max (rule.minItems.getD 0) 1) else rule.minItems

def arraySchema (rule : Rule) : Schema :=
  [.ofType .array, .items [.ofType .string]] ++ boundKeyword .minItems rule.leastItems ++
    boundKeyword .maxItems rule.maxItems

/-- The schema of the answers, without its title. -/
def answerSchema (rule : Rule) : Schema :=
  match rule.kind with
  | .string => rule.textSchema
  | .date => rule.textSchema
  | .number => rule.numberSchema
  | .boolean => [.ofType .boolean] ++ if rule.mustBeTrue then [.const (.bool true)] else []
  | .array => rule.arraySchema
  | .any => if rule.required then [.not [.enum [.null, .str "", .arr []]]] else []

def toSchema (rule : Rule) : Schema := .title rule.displayName :: rule.answerSchema

end Rule

/-- The rules of a form, in the order of its fields. -/
structure Spec where
  rules : List Rule
  deriving DecidableEq, Repr

namespace Spec

def fieldNames (spec : Spec) : List String := spec.rules.map Rule.name

def rule? (spec : Spec) (name : String) : Option Rule := spec.rules.find? fun r => r.name == name

/-- The schema of a whole form under a title. -/
def toSchema (spec : Spec) (title : String) : Schema :=
  [.dialect "https://json-schema.org/draft/2020-12/schema",
    .ofType .object,
    .title title,
    .properties (Table.ofPairs (spec.rules.map fun r => (r.name, r.toSchema))),
    .required ((spec.rules.filter Rule.required).map Rule.name)]

/-- The title of a form that has none of its own. -/
def standardTitle : String := "Form"

def schemaJson (spec : Spec) (title : String) : Json := (spec.toSchema title).toJson

end Spec

end FormStudio
