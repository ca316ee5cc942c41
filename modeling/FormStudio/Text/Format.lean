import FormStudio.Number.Power
import FormStudio.Text.Digit

/-!
# Formats of texts

How a text stands in a column: how much of it is kept, on which side it stands, and what fills the
rest. A format is written as `*^10.3`: a filler and a side, a width, and a most length.

Main statements: `TextFormat.length_apply`, a column is as wide as its format says, and
`TextFormat.apply_plain`, the empty format keeps a text.
-/
namespace FormStudio

/-- The side of the column on which a text stands. -/
inductive TextSide where
  | left
  | right
  | middle
  deriving DecidableEq, Repr

/-- A format of texts. -/
structure TextFormat where
  filler : Char := ' '
  side : TextSide := .left
  width : Nat := 0
  /-- The most characters that are kept; none for all. -/
  kept : Option Nat := none
  deriving DecidableEq, Repr

/-- Why a format is refused. -/
inductive FormatFault where
  | longNumber
  | bothSeparators
  /-- A point without a number behind it. -/
  | bareKept
  /-- Something is left behind the parts of the format. -/
  | leftover (format : String)
  /-- A separator of digits beside a code that has none. -/
  | separator (mark code : Char)
  /-- A code that is not for texts. -/
  | unknownCode (code : Char)
  /-- A sign, or the blank that stands for one. -/
  | sign (mark : Char)
  | zeroSign
  | alternate
  /-- The side for fillers between a sign and its number. -/
  | betweenSign
  deriving DecidableEq, Repr

namespace FormatFault

/-- A mark in a sentence; one that cannot be shown is given by its number. -/
def shownMark (mark : Char) (limit : Nat) : String :=
  if 32 < mark.toNat ∧ mark.toNat < limit then String.ofList [mark]
  else "\\x" ++ String.ofList (Nat.toDigits 16 mark.toNat)

def message : FormatFault → String
  | .longNumber => "Too many decimal digits in format string"
  | .bothSeparators => "Cannot specify both ',' and '_'."
  | .bareKept => "Format specifier missing precision"
  | .leftover format => "Invalid format specifier '" ++ format ++ "' for object of type 'str'"
  | .separator mark code =>
    "Cannot specify '" ++ String.ofList [mark] ++ "' with '" ++ shownMark code 128 ++ "'."
  | .unknownCode code =>
    "Unknown format code '" ++ shownMark code 128 ++ "' for object of type 'str'"
  | .sign ' ' => "Space not allowed in string format specifier"
  | .sign _ => "Sign not allowed in string format specifier"
  | .zeroSign => "Negative zero coercion (z) not allowed in string format specifier"
  | .alternate => "Alternate form (#) not allowed in string format specifier"
  | .betweenSign => "'=' alignment not allowed in string format specifier"

end FormatFault

namespace TextFormat

/-! ## Reading -/

/-- The largest number in a format. -/
def maxNumber : Nat := 2 ^ 63 - 1

def sideMarks : List Char := ['<', '>', '=', '^']

def sideOf : Char → Except FormatFault TextSide
  | '>' => .ok .right
  | '^' => .ok .middle
  | '=' => .error .betweenSign
  | _ => .ok .left

/-- The filler and the mark of the side at the start of a format. A filler stands in front of the
mark only. -/
def takeSide : List Char → Option Char × Char × List Char
  | c :: mark :: rest =>
    if sideMarks.contains mark then (some c, mark, rest)
    else if sideMarks.contains c then (none, c, mark :: rest)
    else (none, '<', c :: mark :: rest)
  | [c] => if sideMarks.contains c then (none, c, []) else (none, '<', [c])
  | [] => (none, '<', [])

/-- The character at the start of a format if it is one of some. -/
def takeOne (marks : List Char) : List Char → Option Char × List Char
  | c :: rest => if marks.contains c then (some c, rest) else (none, c :: rest)
  | [] => (none, [])

/-- The number at the start of a format. -/
def takeCount (cs : List Char) : Except FormatFault (Option Nat × List Char) :=
  match takeNumber cs with
  | (some n, rest) => if maxNumber < n then .error .longNumber else .ok (some n, rest)
  | (none, rest) => .ok (none, rest)

/-- The most length at the start of a format, behind a point. -/
def takeKept (cs : List Char) : Except FormatFault (Option Nat × List Char) := do
  match takeOne ['.'] cs with
  | (some _, rest) =>
    match ← takeCount rest with
    | (some n, rest) => pure (some n, rest)
    | (none, _) => .error .bareKept
  | (none, rest) => pure (none, rest)

/-- Whether a separator of digits can stand beside a code. -/
def separates (mark code : Char) : Bool :=
  "defgEG%F\x00".toList.contains code || (mark == '_' && "boxX".toList.contains code)

/-- Reads a format. What is for numbers alone is refused once all parts are understood. -/
def read (cs : List Char) : Except FormatFault TextFormat := do
  let (filler, sideMark, rest) := takeSide cs
  let (sign, rest) := takeOne [' ', '+', '-'] rest
  let (zeroSign, rest) := takeOne ['z'] rest
  let (alternate, rest) := takeOne ['#'] rest
  let (zero, rest) := if filler.isSome then (none, rest) else takeOne ['0'] rest
  let (width, rest) ← takeCount rest
  let (comma, rest) := takeOne [','] rest
  let (underscore, rest) := takeOne ['_'] rest
  if underscore.isSome && (comma.isSome || rest.head? == some ',') then .error .bothSeparators
  let (kept, rest) ← takeKept rest
  let code ← match rest with
    | [] => pure 's'
    | [code] => pure code
    | _ => .error (.leftover (String.ofList cs))
  if let some mark := comma.or underscore then
    if !separates mark code then .error (.separator mark code)
  if code != 's' then .error (.unknownCode code)
  if let some mark := sign then .error (.sign mark)
  if zeroSign.isSome then .error .zeroSign
  if alternate.isSome then .error .alternate
  let side ← sideOf sideMark
  pure { filler := (filler.or zero).getD ' ', side, width := width.getD 0, kept }

/-! ## Laying out -/

/-- The part of a text that is kept. -/
def keep (format : TextFormat) (cs : List Char) : List Char :=
  match format.kept with
  | some n => cs.take n
  | none => cs

/-- The fillers in front of a text, where some are missing in all. -/
def inFront (format : TextFormat) (missing : Nat) : Nat :=
  match format.side with
  | .left => 0
  | .right => missing
  | .middle => missing / 2

def apply (format : TextFormat) (cs : List Char) : List Char :=
  let cs := format.keep cs
  let missing := format.width - cs.length
  let front := format.inFront missing
  List.replicate front format.filler ++ cs ++ List.replicate (missing - front) format.filler

theorem inFront_le (format : TextFormat) (missing : Nat) : format.inFront missing ≤ missing := by
  unfold inFront
  split <;> omega

theorem length_apply (format : TextFormat) (cs : List Char) :
    (format.apply cs).length = max format.width (format.keep cs).length := by
  have := format.inFront_le (format.width - (format.keep cs).length)
  simp only [apply, List.length_append, List.length_replicate]
  omega

theorem apply_plain (cs : List Char) : apply {} cs = cs := by
  simp [apply, keep, inFront]

theorem read_nil : read [] = .ok {} := rfl

end TextFormat

end FormStudio
