import FormStudio.Code.Literal
import FormStudio.Text.Blank

/-!
# Markup in generated code

Elements, attributes, texts and comments of the markup that generated components return. An element
is a list of lines; its children are lines with an indentation of their own, one level deeper.

Main statement: `Markup.length_indent`, indenting keeps the count of lines.
-/
namespace FormStudio

namespace Markup

/-! ## Lines -/

/-- Puts blanks in front of a line that is not empty. -/
def indentLine (level : Nat) (line : String) : String :=
  if line = "" then "" else String.ofList (List.replicate (2 * level) ' ') ++ line

def indent (level : Nat) (lines : List String) : List String := lines.map (indentLine level)

theorem length_indent (level : Nat) (lines : List String) :
    (indent level lines).length = lines.length := by simp [indent]

/-! ## Texts and comments -/

/-- Whether a character means something between tags. -/
def isSpecial (c : Char) : Bool :=
  c == '\x7b' || c == '\x7d' || c == '<' || c == '>' || c == '&'

/-- A text between tags. It is written as an expression where it holds a character that means
something there, or blanks at an end. -/
def text (s : String) : String :=
  if s.toList.any isSpecial || trimBlanks s.toList != s.toList then braced (textLiteral s) else s

/-- Takes the ends of comments in a text apart. -/
def breakEnds : List Char → List Char
  | '*' :: '/' :: rest => '*' :: ' ' :: '/' :: breakEnds rest
  | c :: rest => c :: breakEnds rest
  | [] => []

/-- A comment between tags. -/
def comment (s : String) : String :=
  "\x7b/* " ++ String.ofList (breakEnds s.toList) ++ " */\x7d"

/-! ## Attributes -/

/-- An attribute with an expression for a value. -/
def expression (name script : String) : String := name ++ "=" ++ braced script

/-- An attribute with a text in plain quotes. -/
def plainText (name value : String) : String := name ++ "=\"" ++ value ++ "\""

/-- Whether a text cannot stand in plain quotes. -/
def needsLiteral (s : String) : Bool := s.toList.any fun c => c == '"' || c == '\\' || c == '\n'

def textAttribute (name value : String) : String :=
  if needsLiteral value then expression name (textLiteral value) else plainText name value

/-- An attribute with any value; a set flag is the name alone. -/
def valueAttribute (name : String) : Json → String
  | .bool true => name
  | .str s => textAttribute name s
  | value => expression name value.literal

/-! ## Elements -/

/-- The most attributes on the line of a tag. -/
def inlineAttributes : Nat := 3

/-- The widest tag on one line. -/
def inlineWidth : Nat := 80

/-- A tag with its attributes on one line, not yet closed. -/
def inlineTag (tag : String) (attributes : List String) : String :=
  "<" ++ tag ++ String.join (attributes.map fun a => " " ++ a)

/-- The lines of an opening tag up to its end, which is written last. -/
def opening (tag : String) (attributes : List String) (inlineEnd blockEnd : String) :
    List String :=
  let inline := inlineTag tag attributes
  if inlineAttributes < attributes.length || inlineWidth < inline.length then
    ("<" ++ tag) :: attributes.map (fun a => "  " ++ a) ++ [blockEnd]
  else [inline ++ inlineEnd]

/-- An element without children. -/
def void (tag : String) (attributes : List String) : List String :=
  opening tag attributes " />" "/>"

def element (tag : String) (attributes children : List String) : List String :=
  opening tag attributes ">" ">" ++ indent 1 children ++ ["</" ++ tag ++ ">"]

/-- An element with or without children. -/
def elementOf (tag : String) (attributes : List String) : Option (List String) → List String
  | some children => element tag attributes children
  | none => void tag attributes

end Markup

end FormStudio
