import FormStudio.Pattern.Error

/-!
# Failures of derivation

What is derived from a form may fail: an integer that has no nearest binary number cannot be shown
in short or divided, a quotient may be no number, a bound that is absent cannot be shown in short
either, a number that is not finite cannot be exported, a written pattern may be no pattern, and a
text with half of a surrogate pair has no bytes.
-/
namespace FormStudio

/-- Why something cannot be derived. -/
inductive DerivationError where
  /-- An integer is past the largest binary number. -/
  | integerTooLarge
  /-- A quotient by a step is undefined. -/
  | undefinedQuotient
  /-- An infinite number is divided by a step. -/
  | infiniteQuotient
  /-- A sentence speaks of a bound that is absent. -/
  | boundMissing
  /-- A number is infinite or undefined; a text in lines names it. -/
  | notFinite (shown : Option String)
  | badPattern (error : PatternError)
  /-- Halves of surrogate pairs stand from one place of a text to another; `unit` is the first. -/
  | notEncodable (first last unit : Nat)
  deriving DecidableEq, Repr

def DerivationError.message : DerivationError → String
  | .integerTooLarge => "int too large to convert to float"
  | .undefinedQuotient => "cannot convert float NaN to integer"
  | .infiniteQuotient => "cannot convert Infinity to integer ratio"
  | .boundMissing => "unsupported format string passed to NoneType.__format__"
  | .notFinite shown =>
    "Out of range float values are not JSON compliant" ++ (shown.map (": " ++ ·)).getD ""
  | .badPattern error => error.message
  | .notEncodable first last unit =>
    let halves :=
      if first = last then
        s!"character '\\u" ++ String.ofList (Nat.toDigits 16 unit) ++ s!"' in position {first}"
      else s!"characters in position {first}-{last}"
    "'utf-8' codec can't encode " ++ halves ++ ": surrogates not allowed"

/-- A result that may fail to be derived. -/
abbrev Derived := Except DerivationError

/-- A result that is there unless an integer is too large. -/
def Derived.ofOption {α : Type} : Option α → Derived α
  | some a => .ok a
  | none => .error .integerTooLarge

end FormStudio
