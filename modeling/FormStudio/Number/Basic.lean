import FormStudio.Number.Decimal

/-!
# Numbers

A number is an integer of any size or a 64-bit binary number, and the two stay apart: `2` and `2.0`
are different numbers with one value. Comparison is exact across both. Division and compact
numerals work on binary numbers, so they have no result for an integer past the largest one, and
division has none where the quotient is no number either.

Main statements: `Number.le_int_iff`, integers are ordered as integers, and
`Number.isMultipleOf?_int`, divisibility of integers is exact.
-/
namespace FormStudio

/-- A number, with its spelling: an integer, or a binary number. -/
inductive Number where
  | int (value : Int)
  | float (value : Binary64)
  deriving DecidableEq, Repr, Inhabited

namespace Number

/-- The place of a number on the extended line: below everything, a finite point in units of
`1 / binaryUnit`, or above everything. An undefined number has none. -/
inductive Place where
  | below
  | point (units : Int)
  | above
  deriving DecidableEq, Repr

def place? : Number → Option Place
  | .int i => some (.point (i * binaryUnit))
  | .float (.infinite negative) => some (if negative then .below else .above)
  | .float .nan => none
  | .float x => some (.point x.units)

/-- Order of places. -/
def Place.le : Place → Place → Bool
  | .below, _ => true
  | _, .above => true
  | .point a, .point b => decide (a ≤ b)
  | _, _ => false

/-- Whether `a` does not exceed `b`, exactly. An undefined number exceeds none, and none exceeds
it. -/
def le (a b : Number) : Bool :=
  match a.place?, b.place? with
  | some p, some q => p.le q
  | _, _ => true

/-- Whether a number is neither infinite nor undefined. -/
def isFinite : Number → Bool
  | .int _ => true
  | .float x => x.isFinite

def isZero (a : Number) : Bool := decide (a.place? = some (.point 0))

/-- The binary number nearest to a number; none for an integer past the largest one. -/
def toBinary? : Number → Option Binary64
  | .int i => Binary64.ofInt? i
  | .float x => some x

def zero : Number := .int 0

/-- The value of a finite number in units of `1 / binaryUnit`. -/
def units : Number → Int
  | .int i => i * binaryUnit
  | .float x => x.units

/-- Whether `units` is a whole multiple of `step`. -/
def divides (step units : Int) : Bool := units % step == 0

/-- Whether a number is a multiple of a step that is not zero. Two integers, and a binary number by
an integer step, are divided exactly, and only a finite number is a multiple. By a binary step the
rounded quotient has to be whole, and where it is infinite the division is exact again. There is no
result where an integer is past the range, where the quotient is undefined, and for an infinite
number, which cannot be divided exactly. -/
def isMultipleOf? (a step : Number) : Option Bool :=
  match a, step with
  | .int i, .int s => some (divides s i)
  | .float x, .int s => (Binary64.ofInt? s).map fun y => x.isFinite && divides y.units x.units
  | a, .float y => a.toBinary?.bind fun x =>
    match x.quotient y with
    | .infinite _ => if a.isFinite then some (divides y.units a.units) else none
    | .nan => none
    | q => some q.isWhole

/-- The text of a number: the digits of an integer, or a full numeral. -/
def text : Number → List Char
  | .int i => (toString i).toList
  | .float x => x.fullNumeral

/-- The compact numeral of a number; none for an integer past the largest binary number. -/
def compactText? (a : Number) : Option (List Char) := a.toBinary?.map Binary64.compactNumeral

theorem le_int_iff (i j : Int) : le (.int i) (.int j) = true ↔ i ≤ j := by
  have h : (0 : Int) < binaryUnit := Int.natCast_pos.2 binaryUnit_pos
  simp only [le, place?, Place.le, decide_eq_true_eq]
  exact ⟨fun hij => Int.le_of_mul_le_mul_right hij h, fun hij =>
    Int.mul_le_mul_of_nonneg_right hij (Int.le_of_lt h)⟩

theorem isMultipleOf?_int (i s : Int) : isMultipleOf? (.int i) (.int s) = some (i % s == 0) := rfl

end Number

end FormStudio
