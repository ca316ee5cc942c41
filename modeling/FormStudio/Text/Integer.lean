import FormStudio.Json.Display
import FormStudio.Json.Reader
import FormStudio.Text.Blank
import FormStudio.Text.Digit

/-!
# Integer settings

Reading an integer as a person writes one: blanks around it, a sign, digits of any script, and
single underscores between digits.

Main statement: `digitValues?_lt`, the values read are those of decimal digits.
-/
namespace FormStudio

/-- Why a text is not an integer. -/
inductive IntegerFault where
  /-- The text is not written as an integer. -/
  | notAnInteger (text : String)
  /-- The integer has more digits than are read. -/
  | tooLong (digits : Nat)
  deriving DecidableEq, Repr

namespace IntegerFault

/-- The sentence for a fault. A quoted text is cut after two hundred characters. -/
def message : IntegerFault → String
  | .notAnInteger text =>
    "invalid literal for int() with base 10: " ++ String.ofList ((Json.quoted text).take 200)
  | .tooLong digits =>
    s!"Exceeds the limit ({Json.integerDigitLimit} digits) for integer string conversion: " ++
      s!"value has {digits} digits; use sys.set_int_max_str_digits() to increase the limit"

end IntegerFault

/-- The blanks around an integer: in ASCII only the space and the layout controls. -/
def isIntegerBlank (c : Char) : Bool :=
  if c.toNat < 0x80 then c == ' ' || (0x09 ≤ c.toNat && c.toNat ≤ 0x0d) else isBlank c

/-- The values of the digits of a text in which single underscores stand between digits. -/
def digitValues? : List Char → Option (List Nat)
  | [] => none
  | [c] => (digitValue? c).map fun v => [v]
  | c :: '_' :: rest => do
    let v ← digitValue? c
    let vs ← digitValues? rest
    pure (v :: vs)
  | c :: rest => do
    let v ← digitValue? c
    let vs ← digitValues? rest
    pure (v :: vs)

theorem digitValues?_lt {cs : List Char} {vs : List Nat} (h : digitValues? cs = some vs) :
    ∀ v ∈ vs, v < 10 := by
  fun_induction digitValues? cs generalizing vs with
  | case1 => simp at h
  | case2 c =>
    obtain ⟨v, hv, rfl⟩ := Option.map_eq_some_iff.1 h
    simpa using digitValue?_lt hv
  | case3 c rest ih =>
    obtain ⟨v, hv, h⟩ := Option.bind_eq_some_iff.1 h
    obtain ⟨ws, hw, h⟩ := Option.bind_eq_some_iff.1 h
    cases h
    simpa using ⟨digitValue?_lt hv, ih hw⟩
  | case4 c rest _ _ ih =>
    obtain ⟨v, hv, h⟩ := Option.bind_eq_some_iff.1 h
    obtain ⟨ws, hw, h⟩ := Option.bind_eq_some_iff.1 h
    cases h
    simpa using ⟨digitValue?_lt hv, ih hw⟩

/-- Whether a character can stand among the digits of an integer. -/
def isInInteger (c : Char) : Bool := isDecimalDigit c || c == '_'

/-- Reads an integer. The digits in front are counted before the text behind them is looked at. -/
def readInteger (text : String) : Except IntegerFault Int :=
  let body := ((text.toList.dropWhile isIntegerBlank).reverse.dropWhile isIntegerBlank).reverse
  let (negative, digits) := match body with
    | '-' :: rest => (true, rest)
    | '+' :: rest => (false, rest)
    | body => (false, body)
  match digitValues? (digits.takeWhile isInInteger) with
  | none => .error (.notAnInteger text)
  | some values =>
    if Json.integerDigitLimit < values.length then .error (.tooLong values.length)
    else if !digits.all isInInteger then .error (.notAnInteger text)
    else
      let magnitude : Nat := values.foldl (fun n v => n * 10 + v) 0
      .ok (if negative then -(magnitude : Int) else magnitude)

end FormStudio
