import FormStudio.Json.Printer
import FormStudio.Json.Reader
import FormStudio.Text.Printable

/-!
# Showing values

How a value is shown inside a sentence or an attribute. A text stands for itself; nothing and the
truth values have names; inside an array or object a text is quoted, with single quotes unless it
holds a single quote and no double one.

Main statement: `Json.display_str`, a text is shown unchanged.
-/
namespace FormStudio

namespace Json

/-- A number of `count` hexadecimal digits. -/
def hexDigits : Nat → Nat → List Char
  | 0, _ => []
  | count + 1, n => hexDigits count (n / 16) ++ [hexDigit (n % 16)]

/-- A character given by its number, in as few digits as there are forms for. -/
def numberedChar (c : Char) : List Char :=
  let n := c.toNat
  if n < 0x100 then '\\' :: 'x' :: hexDigits 2 n
  else if n < 0x10000 then '\\' :: 'u' :: hexDigits 4 n
  else '\\' :: 'U' :: hexDigits 8 n

/-- A character inside quotes: the quote, backslashes and all that cannot be shown are escaped. -/
def quotedChar (mark c : Char) : List Char :=
  if c = mark ∨ c = '\\' then ['\\', c]
  else if c = '\n' then ['\\', 'n']
  else if c = '\r' then ['\\', 'r']
  else if c = '\t' then ['\\', 't']
  else if isPrintable c then [c]
  else numberedChar c

/-- The quotation mark for a text. -/
def quoteMark (cs : List Char) : Char := if cs.contains '\'' && !cs.contains '"' then '"' else '\''

def quoted (s : String) : List Char :=
  let mark := quoteMark s.toList
  mark :: s.toList.flatMap (quotedChar mark) ++ [mark]

/-- A text in quotes, in ASCII alone. -/
def quotedAscii (s : String) : List Char :=
  (quoted s).flatMap fun c => if c.toNat < 0x80 then [c] else numberedChar c

mutual

/-- A value inside an array or object. -/
def displayPart : Json → List Char
  | .null => ['N', 'o', 'n', 'e']
  | .bool true => ['T', 'r', 'u', 'e']
  | .bool false => ['F', 'a', 'l', 's', 'e']
  | .num n => n.text
  | .str s => quoted s
  | .arr [] => ['[', ']']
  | .arr (item :: items) => '[' :: displayPart item ++ displayItems items ++ [']']
  | .obj [] => ['{', '}']
  | .obj ((key, value) :: members) =>
    '{' :: quoted key ++ ':' :: ' ' :: displayPart value ++ displayMembers members ++ ['}']

/-- The items after the first. -/
def displayItems : List Json → List Char
  | [] => []
  | item :: items => ',' :: ' ' :: displayPart item ++ displayItems items

/-- The members after the first. -/
def displayMembers : List (String × Json) → List Char
  | [] => []
  | (key, value) :: members =>
    ',' :: ' ' :: quoted key ++ ':' :: ' ' :: displayPart value ++ displayMembers members

end

def typeName : Json → String
  | .null => "NoneType"
  | .bool _ => "bool"
  | .num (.int _) => "int"
  | .num (.float _) => "float"
  | .str _ => "str"
  | .arr _ => "list"
  | .obj _ => "dict"

/-- The text a value is shown as. -/
def display : Json → String
  | .str s => s
  | value => String.ofList (displayPart value)

mutual

/-- Whether no integer in a value has more digits than are written out. -/
def isShowable : Json → Bool
  | .num (.int i) => Binary64.digitCount i.natAbs ≤ integerDigitLimit
  | .arr items => areShowable items
  | .obj members => membersShowable members
  | _ => true

def areShowable : List Json → Bool
  | [] => true
  | item :: items => item.isShowable && areShowable items

def membersShowable : List (String × Json) → Bool
  | [] => true
  | (_, value) :: members => value.isShowable && membersShowable members

end

@[simp] theorem display_str (s : String) : display (.str s) = s := rfl

end Json

end FormStudio
