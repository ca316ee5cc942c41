import FormStudio.Number.Binary64

/-!
# Decimal numerals

The decimal numerals of a binary number: the shortest one that reads back as the number, and the
one with a given count of significant digits. A numeral is then laid out by a `NumeralFormat`,
which says where positional notation ends and whether a whole number keeps its point.

`Decimal.shortest` tries one digit, then two, and so on, and keeps the first neighbour of the value
on the decimal grid that is read as the same number. Numerals that are read as one number fill an
interval around it, so where no neighbour is, no numeral of that length is.
-/
namespace FormStudio

/-- A decimal numeral: `coefficient * 10 ^ exponent`. -/
structure Decimal where
  coefficient : Nat
  exponent : Int
  deriving DecidableEq, Repr

namespace Decimal

/-- `base * 10 ^ power` as a fraction, for a power of either sign. -/
def scale (num den : Nat) (power : Int) : Nat × Nat :=
  if power < 0 then (num, den * 10 ^ power.natAbs) else (num * 10 ^ power.toNat, den)

/-- The place of the leading digit: the `k` with `10 ^ (k - 1) ≤ num / den < 10 ^ k`, for a
positive fraction. -/
def leadingPlace (num den : Nat) : Int :=
  if den ≤ num then Binary64.digitCount (num / den)
  -- below one the zeros behind the point are the digits of the reciprocal, rounded up, less one
  else 1 - (Binary64.digitCount ((den + num - 1) / num - 1) : Int)

/-- Drops zeros at the end of the coefficient, at most `fuel` of them. -/
def dropZeros : Nat → Decimal → Decimal
  | 0, d => d
  | fuel + 1, d =>
    if d.coefficient ≠ 0 ∧ d.coefficient % 10 = 0 then
      dropZeros fuel ⟨d.coefficient / 10, d.exponent + 1⟩
    else d

/-- The numeral without zeros at the end of its coefficient. -/
def reduced (d : Decimal) : Decimal := dropZeros (Binary64.digitCount d.coefficient) d

/-! ## Shortest numeral -/

/-- Whether a numeral, with a sign, is read as a given number. -/
def readsAs (negative : Bool) (x : Binary64) (d : Decimal) : Bool :=
  decide (Binary64.ofDecimal negative d.coefficient d.exponent = x)

/-- The neighbours of `num / den` on the grid of multiples of `10 ^ power`, nearest first; of two
equally near ones the even one comes first. -/
def neighbours (num den : Nat) (power : Int) : List Decimal :=
  let (num, den) := scale num den (-power)
  let lower := num / den
  let nearest := roundHalfEven num den
  let farther := if nearest = lower then lower + 1 else lower
  [⟨nearest, power⟩, ⟨farther, power⟩]

/-- The numeral of `units / binaryUnit` with all its digits. -/
def exact (units : Nat) : Decimal := ⟨units * 5 ^ 1074, -1074⟩

/-- The shortest numeral that is read as `x`, whose magnitude is `units / binaryUnit`, and of those
the nearest one. Seventeen digits suffice; the exact numeral closes the search. -/
def shortest (negative : Bool) (x : Binary64) (units : Nat) : Decimal :=
  let place := leadingPlace units binaryUnit
  let found := (List.range 17).findSome? fun n =>
    (neighbours units binaryUnit (place - (n + 1 : Nat))).find? (readsAs negative x)
  (found.getD (exact units)).reduced

/-- The numeral with at most `count` significant digits that is nearest to `units / binaryUnit`, a
tie going to the even coefficient. -/
def significant (count units : Nat) : Decimal :=
  let power := leadingPlace units binaryUnit - (count : Int)
  let (num, den) := scale units binaryUnit (-power)
  (Decimal.mk (roundHalfEven num den) power).reduced

end Decimal

/-! ## Layout -/

/-- How numerals are laid out: the range of decimal exponents that are written positionally, and
whether a whole number keeps `.0`. -/
structure NumeralFormat where
  positionalFrom : Int
  positionalBelow : Int
  keepsPoint : Bool

/-- Full numerals are positional from `0.0001` up to below `10 ^ 16`, and a whole number keeps its
point. -/
def NumeralFormat.full : NumeralFormat := ⟨-4, 16, true⟩

/-- Compact numerals have six digits, are positional from `0.0001` up to below `10 ^ 6`, and a whole
number has no point. -/
def NumeralFormat.compact : NumeralFormat := ⟨-4, 6, false⟩

def zeros (n : Nat) : List Char := List.replicate n '0'

/-- The exponent part: a mark, a sign and at least two digits. -/
def exponentText (e : Int) : List Char :=
  let digits := Nat.toDigits 10 e.natAbs
  'e' :: (if e < 0 then '-' else '+') :: zeros (2 - digits.length) ++ digits

/-- Lays out a numeral whose coefficient has no zeros at its end. -/
def NumeralFormat.layOut (format : NumeralFormat) (d : Decimal) : List Char :=
  let digits := Nat.toDigits 10 d.coefficient
  -- the point stands behind this many digits, or in front of zeros where it is negative
  let point := digits.length + d.exponent
  if format.positionalFrom < point ∧ point ≤ format.positionalBelow then
    if point ≤ 0 then '0' :: '.' :: zeros point.natAbs ++ digits
    else if point < digits.length then
      digits.take point.toNat ++ '.' :: digits.drop point.toNat
    else digits ++ zeros (point.toNat - digits.length) ++
      (if format.keepsPoint then ['.', '0'] else [])
  else
    match digits with
    | [] => exponentText (point - 1)
    | [only] => only :: exponentText (point - 1)
    | first :: more => first :: '.' :: more ++ exponentText (point - 1)

namespace Binary64

def signed (negative : Bool) (magnitude : List Char) : List Char :=
  if negative then '-' :: magnitude else magnitude

/-- Zero is written `0.0` in full and `0` compactly; an infinite or undefined number has a name. -/
def numeral (zero : List Char) (finite : Bool → Binary64 → Nat → List Char) : Binary64 → List Char
  | .finite negative mantissa exponent canonical =>
    signed negative <|
      if mantissa = 0 then zero
      else finite negative (.finite negative mantissa exponent canonical) (mantissa * 2 ^ exponent)
  | .infinite negative => signed negative ['i', 'n', 'f']
  | .nan => ['n', 'a', 'n']

/-- The full numeral of a number: the fewest digits that read back. -/
def fullNumeral : Binary64 → List Char :=
  numeral ['0', '.', '0'] fun negative x units =>
    NumeralFormat.full.layOut (Decimal.shortest negative x units)

/-- The compact numeral of a number: at most six significant digits. -/
def compactNumeral : Binary64 → List Char :=
  numeral ['0'] fun _ _ units => NumeralFormat.compact.layOut (Decimal.significant 6 units)

end Binary64

end FormStudio
