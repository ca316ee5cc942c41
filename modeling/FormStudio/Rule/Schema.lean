import FormStudio.Field.Issue
import FormStudio.Json.Printer
import FormStudio.Pattern.Reader
import FormStudio.Rule.Findings

/-!
# Schemas

A part of JSON Schema: the keywords that rules are exported to. A schema is a list of keywords in
order. Checking a value against it finds the violations in the order of the keywords, each with its
place, its keyword and the value at fault. A check may break off, where a number cannot be divided
or a pattern is none.

Main statement: `Schema.violations_nil`, the empty schema accepts everything.
-/
namespace FormStudio

/-- The types of values. -/
inductive SchemaType where
  | string
  | number
  | boolean
  | array
  | object
  deriving DecidableEq, Repr

namespace SchemaType

def id : SchemaType → String
  | .string => "string"
  | .number => "number"
  | .boolean => "boolean"
  | .array => "array"
  | .object => "object"

/-- Whether a value has a type. A flag is no number. -/
def holds : SchemaType → Json → Bool
  | .string, .str _ => true
  | .number, .num _ => true
  | .boolean, .bool _ => true
  | .array, .arr _ => true
  | .object, .obj _ => true
  | _, _ => false

end SchemaType

/-- A keyword of a schema. The schemas inside are lists of keywords. -/
inductive Keyword where
  /-- The dialect of the schema; it constrains nothing. -/
  | dialect (uri : String)
  /-- A title; it constrains nothing. -/
  | title (text : String)
  | ofType (type : SchemaType)
  | minLength (bound : Int)
  | maxLength (bound : Int)
  | pattern (written : String)
  | minimum (bound : Number)
  | maximum (bound : Number)
  | multipleOf (step : Number)
  | const (value : Json)
  | enum (values : List Json)
  | items (schema : List Keyword)
  | minItems (bound : Int)
  | maxItems (bound : Int)
  | anyOf (branches : List (List Keyword))
  | allOf (branches : List (List Keyword))
  | not (schema : List Keyword)
  | properties (schemas : List (String × List Keyword))
  | required (names : List String)
  deriving Repr, Inhabited

abbrev Schema := List Keyword

/-! ## JSON form -/

mutual

def Keyword.member : Keyword → String × Json
  | .dialect uri => ("$schema", .str uri)
  | .title text => ("title", .str text)
  | .ofType type => ("type", .str type.id)
  | .minLength bound => ("minLength", .int bound)
  | .maxLength bound => ("maxLength", .int bound)
  | .pattern written => ("pattern", .str written)
  | .minimum bound => ("minimum", .num bound)
  | .maximum bound => ("maximum", .num bound)
  | .multipleOf step => ("multipleOf", .num step)
  | .const value => ("const", value)
  | .enum values => ("enum", .arr values)
  | .items schema => ("items", .obj (Schema.members schema))
  | .minItems bound => ("minItems", .int bound)
  | .maxItems bound => ("maxItems", .int bound)
  | .anyOf branches => ("anyOf", .arr (Schema.branchItems branches))
  | .allOf branches => ("allOf", .arr (Schema.branchItems branches))
  | .not schema => ("not", .obj (Schema.members schema))
  | .properties schemas => ("properties", .obj (Schema.propertyMembers schemas))
  | .required names => ("required", .arr (names.map .str))

def Schema.members : List Keyword → List (String × Json)
  | [] => []
  | keyword :: rest => keyword.member :: Schema.members rest

/-- The JSON forms of alternatives. -/
def Schema.branchItems : List (List Keyword) → List Json
  | [] => []
  | branch :: rest => .obj (Schema.members branch) :: Schema.branchItems rest

def Schema.propertyMembers : List (String × List Keyword) → List (String × Json)
  | [] => []
  | (name, schema) :: rest => (name, .obj (Schema.members schema)) :: Schema.propertyMembers rest

end

def Schema.toJson (schema : Schema) : Json := .obj (Schema.members schema)

/-! ## Violations -/

/-- A keyword that a value violates. Where no alternative holds, the violations of each come with
it. -/
inductive Violation where
  | leaf (path : List PathStep) (keyword : Keyword) (value : Json)
  | noBranch (path : List PathStep) (branches : List (List Violation))
  deriving Repr, Inhabited

namespace Violation

def path : Violation → List PathStep
  | .leaf path .. => path
  | .noBranch path _ => path

end Violation

/-- Why a number cannot be divided by a step. -/
def DerivationError.ofDivision (n step : Number) : DerivationError :=
  match n.toBinary?, step.toBinary? with
  | some x, some y => if x.quotient y = .nan then .undefinedQuotient else .infiniteQuotient
  | _, _ => .integerTooLarge

namespace Keyword

/-- A violation of a keyword, unless a condition holds. -/
def demand (keyword : Keyword) (path : List PathStep) (value : Json) (holds : Bool) :
    Findings Violation :=
  if holds then .done else .found (.leaf path keyword value) .done

/-- The violations of a keyword that has no schemas inside. -/
def plainViolations (keyword : Keyword) (path : List PathStep) (value : Json) :
    Findings Violation :=
  let demand := keyword.demand path value
  match keyword, value with
  | .ofType type, value => demand (type.holds value)
  | .minLength bound, .str s => demand (decide (bound ≤ s.length))
  | .maxLength bound, .str s => demand (decide ((s.length : Int) ≤ bound))
  | .pattern written, .str s =>
    match Pattern.find written s with
    | .ok isFound => demand isFound
    | .error e => .brokenOff (.badPattern e)
  | .minimum bound, .num n => demand (bound.le n)
  | .maximum bound, .num n => demand (n.le bound)
  | .multipleOf step, .num n =>
    match n.isMultipleOf? step with
    | some divides => demand divides
    | none => .brokenOff (.ofDivision n step)
  | .const expected, value => demand (value.same expected)
  | .enum values, value => demand (values.any value.same)
  | .minItems bound, .arr entries => demand (decide (bound ≤ entries.length))
  | .maxItems bound, .arr entries => demand (decide ((entries.length : Int) ≤ bound))
  | _, _ => .done

end Keyword

/-- The violations of a required member: one for each name that is missing. -/
def missingMembers (names : List String) (path : List PathStep) (value : Json) :
    Findings Violation :=
  match value with
  | .obj members =>
    .ofList ((names.filter fun name => !Table.has name members).map fun _ =>
      .leaf path (.required names) value)
  | _ => .done

def eachItem (check : List PathStep → Json → Findings Violation) (path : List PathStep) :
    Nat → List Json → Findings Violation
  | _, [] => .done
  | position, item :: rest =>
    check (path ++ [.index position]) item ++ eachItem check path (position + 1) rest

mutual

def Keyword.violations : Keyword → List PathStep → Json → Findings Violation
  | .items schema, path, value =>
    match value with
    | .arr items => eachItem (Schema.violations schema) path 0 items
    | _ => .done
  | .anyOf branches, path, value =>
    match Schema.eachBranch branches path value with
    | .ok none => .done
    | .ok (some found) => .found (.noBranch path found) .done
    | .error e => .brokenOff e
  | .allOf branches, path, value => Schema.allBranches branches path value
  | .not schema, path, value =>
    match Schema.violations schema path value with
    | .done => .found (.leaf path (.not schema) value) .done
    | .brokenOff e => .brokenOff e
    | .found .. => .done
  | .properties schemas, path, value =>
    match value with
    | .obj members => Schema.propertyViolations schemas path members
    | _ => .done
  | .required names, path, value => missingMembers names path value
  | keyword, path, value => keyword.plainViolations path value

def Schema.violations : List Keyword → List PathStep → Json → Findings Violation
  | [], _, _ => .done
  | keyword :: rest, path, value =>
    keyword.violations path value ++ Schema.violations rest path value

/-- The violations of each alternative, unless one of them has none; those behind it are not
checked. -/
def Schema.eachBranch :
    List (List Keyword) → List PathStep → Json → Derived (Option (List (List Violation)))
  | [], _, _ => .ok (some [])
  | branch :: rest, path, value => do
    let first ← (Schema.violations branch path value).toDerived
    if first.isEmpty then .ok none
    else
      let others ← Schema.eachBranch rest path value
      .ok (others.map (first :: ·))

def Schema.allBranches : List (List Keyword) → List PathStep → Json → Findings Violation
  | [], _, _ => .done
  | branch :: rest, path, value =>
    Schema.violations branch path value ++ Schema.allBranches rest path value

/-- The violations of the members that have a schema, in the order of the schemas. -/
def Schema.propertyViolations :
    List (String × List Keyword) → List PathStep → Members → Findings Violation
  | [], _, _ => .done
  | (name, schema) :: rest, path, members =>
    let first := match Table.get? name members with
      | some value => Schema.violations schema (path ++ [.key name]) value
      | none => .done
    first ++ Schema.propertyViolations rest path members

end

theorem Schema.violations_nil (path : List PathStep) (value : Json) :
    Schema.violations [] path value = .done := by simp [Schema.violations]

end FormStudio
