import FormStudio.Json.Reader
import FormStudio.Text.Blank

/-!
# Numerals in texts

Integers and binary numbers as settings write them in texts. An integer has no leading zeros, or it
is tidied first: blanks around it, leading zeros, single underscores between digits and a fraction
of zeros are taken away. A binary number may have a sign, a point, an exponent, underscores, or be
named.
-/
namespace FormStudio

namespace Numeral

/-- What a text says of an integer. -/
inductive IntegerText where
  | value (i : Int)
  /-- A plain integer of too many digits. -/
  | tooLong
  | none
  deriving DecidableEq, Repr

/-- Whether a character is trimmed from numerals: the blanks without the information separators. -/
def isMargin (c : Char) : Bool := isBlank c && !(0x1c ≤ c.toNat && c.toNat ≤ 0x1f)

/-- A numeral without the blanks around it. -/
def trimmed (cs : List Char) : List Char :=
  ((cs.dropWhile isMargin).reverse.dropWhile isMargin).reverse

/-- Reads a plain integer: a sign or none, and digits without leading zeros. The sign counts as a
digit toward the limit. -/
def plainInteger (cs : List Char) : IntegerText :=
  let (negative, body) := match cs with
    | '-' :: rest => (true, rest)
    | cs => (false, cs)
  match Json.wholeDigits body with
  | ([], _) => .none
  | (digits, rest) =>
    if Json.integerDigitLimit < digits.length + (if negative then 1 else 0) then .tooLong
    else if rest.isEmpty then
      .value (if negative then -(Json.ofDigits digits : Int) else Json.ofDigits digits)
    else .none

/-- Takes the zeros and underscores behind a leading zero away, but for the last character before a
point and the last of all. -/
def withoutZeros (previous : Char) : List Char → Option (List Char)
  | [] => some [previous]
  | c :: rest =>
    if c = '0' ∨ c = '_' then withoutZeros c rest
    else if c.isDigit then some (c :: rest)
    else if c = '.' then some (previous :: c :: rest)
    else none

/-- Takes leading zeros away. A numeral begins with a digit or a minus sign. -/
def withoutLeadingZeros : List Char → Option (List Char)
  | [] => none
  | c :: rest =>
    if c = '0' then withoutZeros c rest
    else if c.isDigit ∨ c = '-' then some (c :: rest)
    else none

/-- Takes a fraction of zeros away. -/
def withoutFraction (cs : List Char) : List Char :=
  match cs.dropWhile (· != '.') with
  | '.' :: '0' :: rest => if rest.all (· == '0') then cs.takeWhile (· != '.') else cs
  | _ => cs

/-- Whether two underscores stand side by side. -/
def hasUnderscorePair : List Char → Bool
  | '_' :: '_' :: _ => true
  | _ :: rest => hasUnderscorePair rest
  | [] => false

/-- A numeral without its underscores, if each stands between two other characters. -/
def withoutUnderscores? (cs : List Char) : Option (List Char) :=
  if cs.head? = some '_' ∨ cs.getLast? = some '_' ∨ hasUnderscorePair cs then none
  else some (cs.filter (· != '_'))

def tidied (cs : List Char) : Option (List Char) :=
  (withoutLeadingZeros (trimmed cs)).map fun digits =>
    let whole := withoutFraction digits
    (withoutUnderscores? whole).getD whole

/-- Reads an integer, as it stands or tidied. -/
def integer (text : String) : IntegerText :=
  match plainInteger text.toList with
  | .value i => .value i
  | .tooLong => .tooLong
  | .none =>
    match (tidied text.toList).map plainInteger with
    | some (.value i) => .value i
    | _ => .none

/-- The binary number with a name, in any case. -/
def namedBinary? (negative : Bool) (name : List Char) : Option Binary64 :=
  let small := name.map Char.toLower
  if small = ['i', 'n', 'f'] ∨ small = ['i', 'n', 'f', 'i', 'n', 'i', 't', 'y'] then
    some (.infinite negative)
  else if small = ['n', 'a', 'n'] then some .nan
  else none

/-- Reads a plain binary number: a sign or none, digits with or without a point, and an exponent or
none; or a name. -/
def plainBinary? (cs : List Char) : Option Binary64 :=
  let (negative, body) := Json.exponentSign cs
  let (whole, rest) := Json.takeDigits body
  let (fraction, rest) := match rest with
    | '.' :: rest => Json.takeDigits rest
    | rest => ([], rest)
  match whole ++ fraction, Json.exponentPart rest with
  | [], _ => namedBinary? negative body
  | digits, (exponent, []) =>
    some (Binary64.ofDecimal negative (Json.ofDigits digits) (exponent.getD 0 - fraction.length))
  | _, _ => none

/-- Reads a binary number, with blanks around it or with underscores. -/
def binary? (text : String) : Option Binary64 :=
  plainBinary? (trimmed text.toList) <|>
    (withoutUnderscores? text.toList).bind fun digits => plainBinary? (trimmed digits)

end Numeral

end FormStudio
