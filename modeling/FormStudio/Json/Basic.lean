import FormStudio.Number.Basic
import FormStudio.Table

/-!
# JSON values

A value keeps what a reader can tell apart: the order of an object's members, and the spelling of a
number as an integer or a binary number. Two values are equal when all of that is.

Main statement: `Json.same_iff`, the structural comparison decides equality.
-/
namespace FormStudio

/-- A JSON value. -/
inductive Json where
  | null
  | bool (value : Bool)
  | num (value : Number)
  | str (value : String)
  | arr (items : List Json)
  | obj (members : List (String × Json))
  deriving Repr, Inhabited

/-- The members of an object, in order. -/
abbrev Members := Table Json

namespace Json

/-- An integer value. -/
def int (i : Int) : Json := .num (.int i)

/-- A value that may be absent; `null` stands for nothing. -/
def ofOption {α : Type} (f : α → Json) : Option α → Json
  | none => .null
  | some a => f a

/-! ## Equality -/

mutual

/-- Compares two values part by part. -/
def same : Json → Json → Bool
  | .null, .null => true
  | .bool a, .bool b => a == b
  | .num a, .num b => decide (a = b)
  | .str a, .str b => a == b
  | .arr a, .arr b => sameItems a b
  | .obj a, .obj b => sameMembers a b
  | _, _ => false

/-- Compares two lists of items. -/
def sameItems : List Json → List Json → Bool
  | [], [] => true
  | a :: as, b :: bs => a.same b && sameItems as bs
  | _, _ => false

/-- Compares two lists of members. -/
def sameMembers : List (String × Json) → List (String × Json) → Bool
  | [], [] => true
  | (k, a) :: as, (l, b) :: bs => k == l && (a.same b && sameMembers as bs)
  | _, _ => false

end

mutual

theorem same_iff : ∀ a b : Json, a.same b = true ↔ a = b
  | .null, b => by cases b <;> simp [same]
  | .bool x, b => by cases b <;> simp [same]
  | .num x, b => by cases b <;> simp [same]
  | .str x, b => by cases b <;> simp [same]
  | .arr x, b => by
    cases b with
    | arr y => simp [same, sameItems_iff x y]
    | _ => simp [same]
  | .obj x, b => by
    cases b with
    | obj y => simp [same, sameMembers_iff x y]
    | _ => simp [same]

theorem sameItems_iff : ∀ a b : List Json, sameItems a b = true ↔ a = b
  | [], b => by cases b <;> simp [sameItems]
  | x :: xs, [] => by simp [sameItems]
  | x :: xs, y :: ys => by simp [sameItems, same_iff x y, sameItems_iff xs ys]

theorem sameMembers_iff : ∀ a b : List (String × Json), sameMembers a b = true ↔ a = b
  | [], b => by cases b <;> simp [sameMembers]
  | (k, x) :: xs, [] => by simp [sameMembers]
  | (k, x) :: xs, (l, y) :: ys => by
    simp [sameMembers, same_iff x y, sameMembers_iff xs ys, and_assoc]

end

instance : DecidableEq Json := fun a b =>
  decidable_of_iff (a.same b = true) (same_iff a b)

/-! ## Parts -/

def text? : Json → Option String
  | .str s => some s
  | _ => none

/-- The number of a numeric value. -/
def number? : Json → Option Number
  | .num n => some n
  | _ => none

def items? : Json → Option (List Json)
  | .arr items => some items
  | _ => none

def members? : Json → Option Members
  | .obj members => some members
  | _ => none

def member? (key : String) (value : Json) : Option Json := value.members?.bind (Table.get? key)

/-- The texts of an array of strings. -/
def texts? (value : Json) : Option (List String) := value.items?.bind fun items => items.mapM text?

/-- Whether a value counts as given: `null`, `false`, zero and the empty text, array and object do
not. -/
def isTruthy : Json → Bool
  | .null => false
  | .bool b => b
  | .num n => !n.isZero
  | .str s => s != ""
  | .arr items => !items.isEmpty
  | .obj members => !members.isEmpty

end Json

end FormStudio
