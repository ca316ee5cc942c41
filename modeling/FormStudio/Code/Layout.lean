/-!
# Layout of source texts

The layout that generated sources are brought into: tabs become blanks, nothing stands behind the
last visible character of a line, empty lines come one at a time and neither first nor last, and the
text ends with one line break.

Main statement: `Layout.length_splitLines_pos`, every text has at least one line.
-/
namespace FormStudio

namespace Layout

/-- The distance between tab stops. -/
def tabWidth : Nat := 2

/-- Splits a text at its line breaks. -/
def splitLines : List Char → List (List Char)
  | [] => [[]]
  | '\n' :: rest => [] :: splitLines rest
  | c :: rest =>
    match splitLines rest with
    | line :: lines => (c :: line) :: lines
    | [] => [[c]]

/-- Replaces each tab by the blanks up to the next tab stop. Columns are counted from the start of
the line, and again from each carriage return. -/
def expandTabs : Nat → List Char → List Char
  | _, [] => []
  | column, '\t' :: rest =>
    let width := tabWidth - column % tabWidth
    List.replicate width ' ' ++ expandTabs (column + width) rest
  | _, '\r' :: rest => '\r' :: expandTabs 0 rest
  | column, c :: rest => c :: expandTabs (column + 1) rest

/-- Whether a character is dropped at the end of a line. -/
def isTrailing (c : Char) : Bool := c == ' ' || c == '\t' || c == '\r'

/-- A line without the blanks at its end. -/
def trimEnd (line : List Char) : List Char := (line.reverse.dropWhile isTrailing).reverse

/-- Drops empty lines at the start and behind other empty lines. -/
def collapse : Bool → List (List Char) → List (List Char)
  | _, [] => []
  | true, [] :: rest => collapse true rest
  | false, [] :: rest => [] :: collapse true rest
  | _, line :: rest => line :: collapse false rest

def dropEmptyEnd (lines : List (List Char)) : List (List Char) :=
  (lines.reverse.dropWhile List.isEmpty).reverse

/-- The lines of a text in their layout. -/
def lines (source : List Char) : List (List Char) :=
  dropEmptyEnd (collapse true ((splitLines source).map fun line => trimEnd (expandTabs 0 line)))

/-- A text in its layout. -/
def format (source : String) : String :=
  String.ofList ((lines source.toList).flatMap fun line => line ++ ['\n'])

theorem length_splitLines_pos (cs : List Char) : 0 < (splitLines cs).length := by
  fun_induction splitLines cs with
  | case1 => simp
  | case2 => simp
  | case3 => simp
  | case4 => simp

end Layout

end FormStudio
