import FormStudio.Number.Power

/-!
# Binary floating point numbers

The numbers of the 64-bit binary format, kept exactly: a finite one is a sign, a mantissa and an
exponent over the smallest positive step `2 ^ -1074`. Everything here is integer arithmetic, so an
operation is correctly rounded by construction: it forms the exact quotient and rounds once, to the
nearest number, a tie going to the even mantissa.

Main statements: `roundHalfEven_mul` (exact quotients are kept), `roundHalfEven_bounds` (the result
is one of the two neighbours of the quotient) and `Binary64.mantissa_bounds` (a rounded mantissa has
53 bits, or moves up by one exponent).
-/
namespace FormStudio

/-- The denominator of the smallest step: a finite number is a whole multiple of its inverse. -/
def binaryUnit : Nat := 2 ^ 1074

theorem binaryUnit_pos : 0 < binaryUnit := by
  delta binaryUnit
  apply Nat.pow_pos
  decide

/-- A 64-bit binary floating point number. A finite one has the magnitude
`mantissa * 2 ^ exponent / binaryUnit`, and only one representation: its mantissa has 53 bits, and
fewer only at the smallest exponent. -/
inductive Binary64 where
  | finite (negative : Bool) (mantissa exponent : Nat)
      (canonical : mantissa < 2 ^ 53 ∧ exponent ≤ 2045 ∧ (exponent = 0 ∨ 2 ^ 52 ≤ mantissa))
  | infinite (negative : Bool)
  | nan
  deriving DecidableEq, Repr

instance : Inhabited Binary64 := ⟨.nan⟩

/-! ## Rounding -/

/-- The whole number nearest to `num / den`, a tie going to the even one. -/
def roundHalfEven (num den : Nat) : Nat :=
  let quotient := num / den
  let twice := 2 * (num % den)
  if twice < den ∨ (twice = den ∧ quotient % 2 = 0) then quotient else quotient + 1

theorem roundHalfEven_mul (n : Nat) {den : Nat} (h : 0 < den) :
    roundHalfEven (n * den) den = n := by
  simp [roundHalfEven, Nat.mul_div_cancel _ h, h]

theorem roundHalfEven_bounds (num den : Nat) :
    num / den ≤ roundHalfEven num den ∧ roundHalfEven num den ≤ num / den + 1 := by
  unfold roundHalfEven
  dsimp only
  split <;> omega

namespace Binary64

def signedZero (negative : Bool) : Binary64 := .finite negative 0 0 (by decide)

/-- Whether a number is neither infinite nor a not-a-number. -/
def isFinite : Binary64 → Bool
  | .finite .. => true
  | _ => false

/-- The exponent at which a magnitude of `whole` units and a fraction keeps 53 bits, or the smallest
one. -/
def exponentFor (whole : Nat) : Nat := Nat.log2 whole - 52

theorem div_exponentFor_lt (whole : Nat) : whole / 2 ^ exponentFor whole < 2 ^ 53 := by
  rw [Nat.div_lt_iff_lt_mul (Nat.two_pow_pos _), ← Nat.pow_add]
  refine Nat.lt_of_lt_of_le Nat.lt_log2_self (Nat.pow_le_pow_right (by decide) ?_)
  unfold exponentFor
  omega

theorem le_div_exponentFor {whole : Nat} (h : exponentFor whole ≠ 0) :
    2 ^ 52 ≤ whole / 2 ^ exponentFor whole := by
  rw [Nat.le_div_iff_mul_le (Nat.two_pow_pos _), ← Nat.pow_add]
  unfold exponentFor at *
  refine Nat.le_trans (Nat.pow_le_pow_right (by decide) (Nat.le_of_eq ?_))
    (Nat.log2_self_le (n := whole) ?_)
  · omega
  · rintro rfl
    exact h (by simp)

theorem mantissa_bounds (num den : Nat) :
    roundHalfEven num (den * 2 ^ exponentFor (num / den)) ≤ 2 ^ 53 ∧
      (exponentFor (num / den) = 0 ∨
        2 ^ 52 ≤ roundHalfEven num (den * 2 ^ exponentFor (num / den))) := by
  obtain ⟨hlow, hhigh⟩ := roundHalfEven_bounds num (den * 2 ^ exponentFor (num / den))
  rw [← Nat.div_div_eq_div_mul] at hlow hhigh
  refine ⟨Nat.le_trans hhigh (div_exponentFor_lt _), ?_⟩
  by_cases h : exponentFor (num / den) = 0
  · exact .inl h
  · exact .inr (Nat.le_trans (le_div_exponentFor h) hlow)

/-- The number with a magnitude of `num / den` units, rounded; infinite when that is past the
largest number. A mantissa that rounds up to 54 bits moves to the next exponent. -/
def ofUnits (negative : Bool) (num den : Nat) : Binary64 :=
  let exponent := exponentFor (num / den)
  let mantissa := roundHalfEven num (den * 2 ^ exponent)
  if h : mantissa = 2 ^ 53 then
    if he : exponent + 1 ≤ 2045 then
      .finite negative (2 ^ 52) (exponent + 1) ⟨by decide, he, by simp⟩
    else .infinite negative
  else
    if he : exponent ≤ 2045 then
      .finite negative mantissa exponent
        ⟨Nat.lt_of_le_of_ne (mantissa_bounds num den).1 h, he, (mantissa_bounds num den).2⟩
    else .infinite negative

/-- The number nearest to `num / den` in magnitude, infinite when that is past the largest one. -/
def ofRatio (negative : Bool) (num den : Nat) : Binary64 := ofUnits negative (num * binaryUnit) den

/-- The number of decimal digits of a natural number. -/
def digitCount (n : Nat) : Nat := (Nat.toDigits 10 n).length

/-- The number nearest to `coefficient * 10 ^ exponent`. A magnitude that is far outside the range
of the format is settled by its size alone, before any power is formed. -/
def ofDecimal (negative : Bool) (coefficient : Nat) (exponent : Int) : Binary64 :=
  let size : Int := digitCount coefficient + exponent
  if coefficient = 0 ∨ size < -330 then signedZero negative
  else if 310 < size then .infinite negative
  else if exponent < 0 then ofRatio negative coefficient (10 ^ exponent.natAbs)
  else ofRatio negative (coefficient * 10 ^ exponent.toNat) 1

/-- The number nearest to an integer; none when the integer is past the largest number. -/
def ofInt? (i : Int) : Option Binary64 :=
  match ofRatio (decide (i < 0)) i.natAbs 1 with
  | .infinite _ => none
  | x => some x

/-! ## Exact value -/

/-- The value of a finite number in units of `1 / binaryUnit`; zero for the others. -/
def units : Binary64 → Int
  | .finite negative mantissa exponent _ =>
    let magnitude : Int := (mantissa * 2 ^ exponent : Nat)
    if negative then -magnitude else magnitude
  | _ => 0

/-- Whether a number is a whole number. -/
def isWhole : Binary64 → Bool
  | .finite _ mantissa exponent _ => mantissa * 2 ^ exponent % binaryUnit == 0
  | _ => false

/-- The whole part of a number, toward zero. -/
def truncate (x : Binary64) : Int := x.units.tdiv binaryUnit

/-- The rounded quotient of two numbers, the second not zero. -/
def quotient : Binary64 → Binary64 → Binary64
  | .finite n m e _, .finite n' m' e' _ => ofRatio (n != n') (m * 2 ^ e) (m' * 2 ^ e')
  | .finite n _ _ _, .infinite n' => signedZero (n != n')
  | .infinite n, .finite n' _ _ _ => .infinite (n != n')
  | _, _ => .nan

end Binary64

end FormStudio
