import FormStudio.Json.Display
import FormStudio.Rule.Validation

/-!
# Answers in other shapes

Answers are the members of an object. Accepted answers may also be given as a list of pairs, each an
array of two values, a text of two characters or an object of two keys; a later pair with the same
key counts. Every key has to be a text in the end.
-/
namespace FormStudio

/-- Why a value gives no answers. -/
inductive AnswersError where
  /-- The value is no collection. -/
  | notACollection (value : Json)
  /-- A pair is no sequence. -/
  | notASequence (position : Nat)
  /-- A pair has more or fewer parts than two. -/
  | wrongLength (position length : Nat)
  /-- An array or object is given as a key. -/
  | unhashable (key : Json)
  /-- Keys that are no texts. -/
  | unnamed (keys : List Json)
  deriving DecidableEq, Repr

namespace AnswersError

def message : AnswersError → String
  | .notACollection value => s!"'{value.typeName}' object is not iterable"
  | .notASequence position =>
    s!"cannot convert dictionary update sequence element #{position} to a sequence"
  | .wrongLength position length =>
    s!"dictionary update sequence element #{position} has length {length}; 2 is required"
  | .unhashable key => s!"unhashable type: '{key.typeName}'"
  | .unnamed [_] => "1 validation error"
  | .unnamed keys => s!"{keys.length} validation errors"

/-- How the place of a key that is no text is named: an integer of one machine word by itself, also
for a flag, and anything else as it is shown. -/
def keyPlace : Json → Json
  | .bool b => .int (if b then 1 else 0)
  | .num (.int i) =>
    if -2 ^ 63 ≤ i ∧ i < 2 ^ 63 then .int i else .str (Json.num (.int i)).display
  | value => .str value.display

/-- The places of the keys at fault. -/
def places : AnswersError → List Json
  | .unnamed keys => keys.map fun key =>
    .arr [.str "validated_data", keyPlace key, .str "[key]"]
  | _ => []

end AnswersError

namespace Answers

/-- A key as it is compared: flags are the integers zero and one, and numbers count by value. -/
def sameKey : Json → Json → Bool
  | .str a, .str b => a == b
  | .null, .null => true
  | a, b =>
    match number? a, number? b with
    | some m, some n => m.place? == n.place?
    | _, _ => false
where
  /-- The number that a key counts as. -/
  number? : Json → Option Number
    | .bool b => some (.int (if b then 1 else 0))
    | .num n => some n
    | _ => none

/-- Enters a value under a key; a key that is known already stays as it is. -/
def put (key value : Json) : List (Json × Json) → List (Json × Json)
  | [] => [(key, value)]
  | (k, v) :: rest => if sameKey k key then (k, value) :: rest else (k, v) :: put key value rest

def parts? : Json → Option (List Json)
  | .arr items => some items
  | .str s => some (s.toList.map fun c => .str c.toString)
  | .obj members => some (members.map fun member => .str member.1)
  | _ => none

/-- Enters pairs in turn; `position` counts them. -/
def enter : Nat → List Json → List (Json × Json) → Except AnswersError (List (Json × Json))
  | _, [], entered => .ok entered
  | position, pair :: rest, entered =>
    match parts? pair with
    | none => .error (.notASequence position)
    | some [key, value] =>
      match key with
      | .arr _ => .error (.unhashable key)
      | .obj _ => .error (.unhashable key)
      | key => enter (position + 1) rest (put key value entered)
    | some parts => .error (.wrongLength position parts.length)

/-- The members of entered pairs, if all keys are texts. -/
def members (entered : List (Json × Json)) : Except AnswersError Members :=
  match entered.filter fun entry => entry.1.text?.isNone with
  | [] => .ok (entered.filterMap fun (key, value) => key.text?.map fun name => (name, value))
  | unnamed => .error (.unnamed (unnamed.map Prod.fst))

/-- The answers that a value gives. -/
def ofJson : Json → Except AnswersError Members
  | .obj given => .ok given
  | value =>
    match parts? value with
    | none => .error (.notACollection value)
    | some pairs => do members (← enter 0 pairs [])

end Answers

/-- Checks a value as the answers of a form. What is no object answers no field, and no field is at
fault for that. -/
def Spec.validateJson (spec : Spec) (value : Json) : Derived (Except AnswersError Validation) :=
  match value with
  | .obj data => (spec.validate data).map .ok
  | value => .ok ((Answers.ofJson value).map fun data => ⟨[], data⟩)

end FormStudio
