import FormStudio.Json.Display

/-!
# Script literals

Values as they are written in generated scripts. A text is a double-quoted literal; a number with a
whole value is written as an integer, however it was spelled.

Main statement: `Number.literal_int`, an integer keeps its digits.
-/
namespace FormStudio

/-- A text between braces. -/
def braced (s : String) : String := "\x7b" ++ s ++ "\x7d"

def textLiteral (s : String) : String := String.ofList (Json.quote false s)

/-- The integer that a whole binary number equals. -/
def Number.wholeValue? : Number → Option Int
  | .float x => if x.isWhole then some x.truncate else none
  | .int _ => none

def Number.literal (n : Number) : String :=
  match n.wholeValue? with
  | some i => toString i
  | none => String.ofList n.text

namespace Json

def literal (value : Json) : String :=
  match value.number?.bind Number.wholeValue? with
  | some i => toString i
  | none => print .line value

/-- A value where a script has a number: a number is written as such, anything else as it is
shown. -/
def numberLiteral : Json → String
  | .num n => n.literal
  | value => value.display

end Json

theorem Number.literal_int (i : Int) : (Number.int i).literal = toString i := by
  simp [Number.literal, Number.wholeValue?, Number.text]

end FormStudio
