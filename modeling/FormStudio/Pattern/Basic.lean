import FormStudio.Text.Blank
import FormStudio.Text.Digit
import FormStudio.Text.Lower
import FormStudio.Text.Word

/-!
# Patterns

Regular expressions over characters: sets, marks of places, groups and references to them,
alternatives, repetitions, and conditions on what stands before or behind a place. Classes of
characters speak of every script or of ASCII alone, and letters may count regardless of their case.

Main statements: `CharSet.holds_not`, the two readings of a set exclude each other,
`Place.index_next?`, a step moves one character on, and `Pattern.references_remembering`, what a
pattern refers to does not depend on what it remembers.
-/
namespace FormStudio

/-! ## Sets of characters -/

/-- The characters that a class speaks of. -/
inductive Alphabet where
  | every
  | ascii
  deriving DecidableEq, Repr

/-- A named class of characters. -/
inductive CharClass where
  | digit
  | blank
  | word
  deriving DecidableEq, Repr

/-- Whether a character belongs to a class. -/
def CharClass.holds : CharClass → Alphabet → Char → Bool
  | .digit, .every => isDecimalDigit
  | .digit, .ascii => Char.isDigit
  | .blank, .every => isBlank
  | .blank, .ascii => fun c => c == ' ' || (0x09 ≤ c.toNat && c.toNat ≤ 0x0d)
  | .word, .every => isWordChar
  | .word, .ascii => fun c => c.toNat < 0x80 && isWordCharAscii c

/-- Which spellings of a letter count as the letter. -/
inductive Casing where
  | exact
  /-- Both cases of the letters of ASCII. -/
  | eitherAscii
  /-- All cases of every letter. -/
  | either
  deriving DecidableEq, Repr

/-- The code points that count as a character. -/
def Casing.spellings : Casing → Char → List Nat
  | .exact, c => [c.toNat]
  | .eitherAscii, c => spellingsAscii c.toNat
  | .either, c => FormStudio.spellings c.toNat

/-- Whether two characters are the same letter. -/
def Casing.same : Casing → Char → Char → Bool
  | .exact, a, b => a == b
  | .eitherAscii, a, b => lowerCodeAscii a.toNat == lowerCodeAscii b.toNat
  | .either, a, b => lowerCode a.toNat == lowerCode b.toNat

/-- A member of a character set: a range of code points, or a class. -/
inductive CharItem where
  | range (first last : Nat)
  | named (alphabet : Alphabet) (kind : CharClass) (negated : Bool)
  deriving DecidableEq, Repr

/-- The set of one code point. -/
def CharItem.one (code : Nat) : CharItem := .range code code

/-- Whether a character, which may be spelled in several ways, belongs to a member of a set. -/
def CharItem.holds (item : CharItem) (c : Char) (codes : List Nat) : Bool :=
  match item with
  | .range first last => codes.any fun n => first ≤ n && n ≤ last
  | .named alphabet kind negated => kind.holds alphabet c != negated

/-- A character set. -/
structure CharSet where
  casing : Casing
  /-- Whether the characters outside are meant. -/
  negated : Bool
  items : List CharItem
  deriving DecidableEq, Repr

def CharSet.holds (set : CharSet) (c : Char) : Bool :=
  let codes := set.casing.spellings c
  set.items.any (·.holds c codes) != set.negated

theorem CharSet.holds_not (set : CharSet) (c : Char) :
    { set with negated := !set.negated }.holds c = !set.holds c := by
  simp only [CharSet.holds]
  cases set.items.any (·.holds c (set.casing.spellings c)) <;> cases set.negated <;> rfl

/-! ## Places -/

/-- A place in a text. -/
structure Place where
  /-- The characters before it, the nearest first. -/
  before : List Char
  after : List Char
  /-- How many characters stand before it. -/
  index : Nat
  index_eq : index = before.length

namespace Place

def start (text : String) : Place := ⟨[], text.toList, 0, rfl⟩

/-- The next character, and the place behind it. -/
def next? (p : Place) : Option (Char × Place) :=
  match p.after with
  | [] => none
  | c :: rest => some (c, ⟨c :: p.before, rest, p.index + 1, by simp [p.index_eq]⟩)

/-- The place some characters earlier. -/
def back? : Nat → Place → Option Place
  | 0, p => some p
  | n + 1, p =>
    match p.before with
    | [] => none
    | c :: rest => back? n ⟨rest, c :: p.after, rest.length, rfl⟩

/-- The place behind some characters, if they follow. -/
def skip? (casing : Casing) : List Char → Place → Option Place
  | [], p => some p
  | c :: rest, p =>
    match p.next? with
    | some (d, q) => if casing.same c d then skip? casing rest q else none
    | none => none

/-- The characters between two indices at or before a place. -/
def between (first last : Nat) (p : Place) : List Char :=
  ((p.before.drop (p.index - last)).take (last - first)).reverse

/-- The places from a place on, in order. -/
def onward (p : Place) : List Place :=
  go p.before p.after p.index p.index_eq
where
  /-- The places from one given by its parts on. -/
  go (before : List Char) : (after : List Char) → (index : Nat) → index = before.length → List Place
    | [], index, h => [⟨before, [], index, h⟩]
    | c :: rest, index, h =>
      ⟨before, c :: rest, index, h⟩ :: go (c :: before) rest (index + 1) (by simp [h])

theorem index_next? {p q : Place} {c : Char} (h : p.next? = some (c, q)) :
    q.index = p.index + 1 := by
  unfold next? at h
  split at h
  · cases h
  · cases h
    rfl

end Place

/-! ## Expressions -/

/-- A mark that a place may carry. -/
inductive Mark where
  /-- The start of the text. -/
  | start
  /-- The start of a line. -/
  | lineStart
  /-- The end of the text, or the place before a line break that ends it. -/
  | stop
  /-- The end of a line. -/
  | lineStop
  /-- The very end of the text. -/
  | finish
  /-- An edge of a word, or a place that is none; an empty text has neither. -/
  | edge (alphabet : Alphabet) (negated : Bool)
  deriving DecidableEq, Repr

def Mark.holds : Mark → Place → Bool
  | .start, p => p.before.isEmpty
  | .lineStart, p => p.before.head?.all (· == '\n')
  | .stop, p => p.after.isEmpty || p.after == ['\n']
  | .lineStop, p => p.after.head?.all (· == '\n')
  | .finish, p => p.after.isEmpty
  | .edge alphabet negated, p =>
    let inWord := CharClass.word.holds alphabet
    !(p.before.isEmpty && p.after.isEmpty) &&
      ((p.before.head?.any inWord != p.after.head?.any inWord) != negated)

/-- How often a repetition is tried first, and whether it may be taken back. -/
inductive Preference where
  | most
  | fewest
  /-- As often as possible, and never taken back. -/
  | possessive
  deriving DecidableEq, Repr

/-- A regular expression. -/
inductive Pattern where
  /-- Nothing at all. -/
  | empty
  /-- One character of a set. -/
  | set (chars : CharSet)
  | mark (kind : Mark)
  /-- A part that is remembered by a number. -/
  | group (number : Nat) (body : Pattern)
  /-- The text of a remembered part once more. -/
  | again (casing : Casing) (number : Nat)
  | seq (first second : Pattern)
  | alt (left right : Pattern)
  /-- At least `least` times and at most `most` times; without a bound where that is none. -/
  | rep (preference : Preference) (body : Pattern) (least : Nat) (most : Option Nat)
  /-- The first way in which the body fits, and no other. -/
  | atomic (body : Pattern)
  /-- What follows fits, or does not. -/
  | ahead (negated : Bool) (body : Pattern)
  /-- What stands before fits, or does not; the body fits texts of lengths from `least` to
  `most`. -/
  | behind (negated : Bool) (least most : Nat) (body : Pattern)
  /-- One of two parts, by whether a part is remembered. -/
  | choice (number : Nat) (present absent : Pattern)
  deriving DecidableEq, Repr

namespace Pattern

/-- The numbers of the parts that a pattern refers to. -/
def references : Pattern → List Nat
  | .group _ body => body.references
  | .again _ number => [number]
  | .seq first second => first.references ++ second.references
  | .alt left right => left.references ++ right.references
  | .rep _ body _ _ => body.references
  | .atomic body => body.references
  | .ahead _ body => body.references
  | .behind _ _ _ body => body.references
  | .choice number present absent => number :: present.references ++ absent.references
  | _ => []

/-- A pattern that remembers only the parts of some numbers. -/
def remembering (numbers : List Nat) : Pattern → Pattern
  | .group number body =>
    if numbers.contains number then .group number (body.remembering numbers)
    else body.remembering numbers
  | .seq first second => .seq (first.remembering numbers) (second.remembering numbers)
  | .alt left right => .alt (left.remembering numbers) (right.remembering numbers)
  | .rep preference body least most => .rep preference (body.remembering numbers) least most
  | .atomic body => .atomic (body.remembering numbers)
  | .ahead negated body => .ahead negated (body.remembering numbers)
  | .behind negated least most body => .behind negated least most (body.remembering numbers)
  | .choice number present absent =>
    .choice number (present.remembering numbers) (absent.remembering numbers)
  | pattern => pattern

theorem references_remembering (numbers : List Nat) (pattern : Pattern) :
    (pattern.remembering numbers).references = pattern.references := by
  induction pattern with
  | group number body ih =>
    unfold remembering
    split <;> simp [references, ih]
  | _ => simp_all [remembering, references]

end Pattern

end FormStudio
