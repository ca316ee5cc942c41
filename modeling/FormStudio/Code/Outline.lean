/-!
# Outlines

Source text as lines, empty lines and nested blocks. Nesting indents; an empty line between parts is
written once and never first.
-/
namespace FormStudio

/-- A part of a source text. -/
inductive Outline where
  /-- One line; an empty one is written without indentation. -/
  | line (text : String)
  /-- An empty line, unless there is one already or nothing is written yet. -/
  | gap
  /-- Parts one level deeper. -/
  | nested (parts : List Outline)
  deriving Repr

namespace Outline

def lines (texts : List String) : List Outline := texts.map line

/-- Parts between an opening and a closing line. -/
def block (opener closer : String) (parts : List Outline) : List Outline :=
  [.line opener, .nested parts, .line closer]

def lineText (unit : String) (depth : Nat) (text : String) : String :=
  if text = "" then "" else String.join (List.replicate depth unit) ++ text

mutual

/-- Writes a part behind the lines written so far, which are kept last first. -/
def write (unit : String) (depth : Nat) (done : List String) : Outline → List String
  | .line text => lineText unit depth text :: done
  | .gap =>
    match done with
    | [] => []
    | "" :: _ => done
    | _ => "" :: done
  | .nested parts => writeAll unit (depth + 1) done parts

/-- Writes parts one after the other. -/
def writeAll (unit : String) (depth : Nat) (done : List String) : List Outline → List String
  | [] => done
  | part :: rest => writeAll unit depth (write unit depth done part) rest

end

def toLines (unit : String) (parts : List Outline) : List String :=
  (writeAll unit 0 [] parts).reverse

/-- The text of an outline, indented by a unit for each level. -/
def text (unit : String) (parts : List Outline) : String :=
  "\n".intercalate (toLines unit parts) ++ "\n"

/-- The unit of generated code. -/
def standardUnit : String := "  "

end Outline

end FormStudio
