import FormStudio.Pattern.Escape
import FormStudio.Pattern.Match
import FormStudio.Pattern.Width

/-!
# Reading patterns

The written form of patterns: groups, alternatives, repetitions, sets, escapes, flags and comments.
A pattern is read from left to right; the groups that are still open wait, the innermost first. A
brace that opens no repetition stands for itself.

Main statement: `Pattern.find_of_read`, searching for a written pattern is searching for what it
reads as.
-/
namespace FormStudio

namespace Pattern

/-! ## Flags -/

/-- How the characters of a part are meant. -/
structure Flags where
  ignoresCase : Bool
  /-- Whether the marks for start and end hold at every line. -/
  everyLine : Bool
  /-- Whether the dot stands for line breaks too. -/
  everyChar : Bool
  /-- Whether blanks and comments are left out. -/
  spaced : Bool
  alphabet : Alphabet
  deriving DecidableEq, Repr

namespace Flags

/-- The flags at the start of a pattern. -/
def standard : Flags := ⟨false, false, false, false, .every⟩

/-- The flags after some letters are turned on and some off. -/
def changed (flags : Flags) (on off : List Char) : Flags where
  ignoresCase := (flags.ignoresCase || on.contains 'i') && !off.contains 'i'
  everyLine := (flags.everyLine || on.contains 'm') && !off.contains 'm'
  everyChar := (flags.everyChar || on.contains 's') && !off.contains 's'
  spaced := (flags.spaced || on.contains 'x') && !off.contains 'x'
  alphabet :=
    if on.contains 'a' then .ascii else if on.contains 'u' then .every else flags.alphabet

/-- Which spellings count as a letter. -/
def casing (flags : Flags) : Casing :=
  if flags.ignoresCase then
    match flags.alphabet with
    | .every => .either
    | .ascii => .eitherAscii
  else .exact

def literal (flags : Flags) (c : Char) : Pattern := .set ⟨flags.casing, false, [.one c.toNat]⟩

def dot (flags : Flags) : Pattern :=
  .set ⟨.exact, true, if flags.everyChar then [] else [.one '\n'.toNat]⟩

end Flags

/-- A change of flags: of the whole pattern, or of a group. -/
inductive FlagChange where
  | whole (on : List Char)
  | part (on off : List Char)
  deriving DecidableEq, Repr

namespace FlagChange

def isFlag (c : Char) : Bool := "iLmsxatu".contains c

def isAlphabetFlag (c : Char) : Bool := c == 'a' || c == 'u' || c == 'L'

def isLetter (c : Char) : Bool := isWordChar c && c != '_' && !isDecimalDigit c

/-- Fails at a token that is no flag. -/
def unknown {α : Type} (token : Token) (expected : String) : Reading α :=
  match token with
  | .plain c => Reading.fail (if isLetter c then .unknownFlag else .missing expected) 1
  | .escaped _ => Reading.fail (.missing expected) 2

/-- What stands between the flags turned on and what ends them. -/
def afterFlags : String := "-, : or )"

/-- Reads the flags that are turned on, the first already taken, and what ends them. -/
def readOn : Nat → Char → List Char → Reading (List Char × Char)
  | 0, _, _ => Reading.fail (.missing afterFlags) 0
  | count + 1, flag, before => do
    if flag = 'L' then Reading.fail .byteFlag 0
    let on := flag :: before
    if isAlphabetFlag flag && on.any fun other => isAlphabetFlag other && other != flag then
      Reading.fail .conflictingFlags 0
    match ← Reading.take? with
    | none => Reading.fail (.missing afterFlags) 0
    | some (.plain c) =>
      if c = ')' || c = '-' || c = ':' then pure (on, c)
      else if isFlag c then readOn count c on
      else unknown (.plain c) afterFlags
    | some token => unknown token afterFlags

/-- Reads the flags that are turned off, the first already taken, and the colon behind them. -/
def readOff : Nat → Char → List Char → Reading (List Char)
  | 0, _, _ => Reading.fail (.missing ":") 0
  | count + 1, flag, before => do
    if isAlphabetFlag flag then Reading.fail .alphabetFlagOff 0
    match ← Reading.take? with
    | none => Reading.fail (.missing ":") 0
    | some (.plain c) =>
      if c = ':' then pure (flag :: before)
      else if isFlag c then readOff count c (flag :: before)
      else unknown (.plain c) ":"
    | some token => unknown token ":"

/-- Reads the flags that are turned off, the hyphen before them already taken. -/
def readFirstOff (count : Nat) : Reading (List Char) := do
  match ← Reading.take? with
  | none => Reading.fail (.missing "flag") 0
  | some (.plain c) => if isFlag c then readOff count c [] else unknown (.plain c) "flag"
  | some token => unknown token "flag"

def read (first : Char) : Reading FlagChange := do
  let count := (← get).rest.length + 1
  let (on, stop) ← if first = '-' then pure ([], '-') else readOn count first []
  if stop = ')' then pure (.whole on)
  else
    if on.contains 't' then Reading.fail .wholeFlagOn 1
    let off ← if stop = '-' then readFirstOff count else pure []
    if off.contains 't' then Reading.fail .wholeFlagOff 1
    if on.any off.contains then Reading.fail .flagOnAndOff 1
    pure (.part on off)

end FlagChange

/-! ## Groups -/

/-- The groups of a pattern that is being read. -/
structure Groups where
  /-- The widths of the groups so far, by number; an open group has none yet. -/
  widths : List (Option (Nat × Nat))
  names : List (String × Nat)
  /-- The groups that conditions ask about, and where each is first asked about. -/
  mentions : List (Nat × Nat)
  /-- Inside a condition on what stands before, the number from which groups belong to it. -/
  ownFrom : Option Nat
  deriving DecidableEq, Repr

namespace Groups

def none : Groups := ⟨[], [], [], .none⟩

def next (groups : Groups) : Nat := groups.widths.length + 1

def width? (groups : Groups) : Nat → Option (Nat × Nat)
  | 0 => .none
  | number + 1 => (groups.widths[number]?).join

def opened (groups : Groups) (name? : Option String) : Groups :=
  { groups with
    widths := groups.widths ++ [.none]
    names := groups.names ++ (name?.map fun name => (name, groups.next)).toList }

def closed (groups : Groups) (number : Nat) (width : Nat × Nat) : Groups :=
  { groups with widths := groups.widths.set (number - 1) (some width) }

/-- Notes that a condition asks about a group. -/
def mentioned (groups : Groups) (number position : Nat) : Groups :=
  if groups.mentions.any fun mention => mention.1 == number then groups
  else { groups with mentions := groups.mentions ++ [(number, position)] }

/-- Refuses a reference, inside a condition on what stands before, to a group of its own. -/
def checkBehind (groups : Groups) (number : Nat) : Reading Unit := do
  match groups.ownFrom with
  | .none => pure ()
  | some first =>
    if (groups.width? number).isNone then Reading.fail .openGroup 0
    if first ≤ number then Reading.fail .groupBehind 0

/-- Refuses a reference to an open group. -/
def checkReference (groups : Groups) (number back : Nat) : Reading Unit := do
  if (groups.width? number).isNone then Reading.fail .openGroup back
  groups.checkBehind number

def named (groups : Groups) (name : String) : Reading Nat :=
  match groups.names.lookup name with
  | some number => pure number
  | .none => Reading.fail (.unknownGroup name) (name.length + 1)

/-- Whether a text can name a group: it is a word that does not begin with a digit. -/
def isName (name : String) : Bool :=
  name.toList.all isWordChar && name.toList.head?.all (!isDecimalDigit ·)

/-- Reads the name of a group and the mark that ends it. -/
def readName (mark : Char) : Reading String := do
  let name ← Reading.name mark "group name"
  if !isName name then Reading.fail (.badGroupName name) (name.length + 1)
  pure name

/-- The group numbers that can be written. -/
def limit : Nat := 2 ^ 30 - 1

end Groups

/-- The number of written digits, if there are not too many of them. -/
def readNumber (digits : List Char) : Reading Nat :=
  if Json.integerDigitLimit < digits.length then throw (.tooManyDigits digits.length)
  else pure (Json.ofDigits digits)

/-! ## Levels -/

/-- What has opened a level. -/
inductive Opening where
  | whole
  | capture (number : Nat)
  | plain
  | atomic
  | ahead (negated : Bool)
  /-- A condition on what stands before, and the first own group of the one around it. -/
  | behind (negated : Bool) (ownFrom : Option Nat)
  | choice (number : Nat)
  deriving DecidableEq, Repr

/-- A part of a sequence, as far as a repetition behind it cares. -/
inductive Part where
  | mark (kind : Mark)
  | repeated (pattern : Pattern)
  | plain (pattern : Pattern)
  deriving Repr

def Part.pattern : Part → Pattern
  | .mark kind => .mark kind
  | .repeated pattern => pattern
  | .plain pattern => pattern

def sequence : List Part → Pattern
  | [] => .empty
  | [part] => part.pattern
  | part :: rest => .seq part.pattern (sequence rest)

def alternatives : List Pattern → Pattern
  | [] => .empty
  | [pattern] => pattern
  | pattern :: rest => .alt pattern (alternatives rest)

/-- A group that is being read, or the whole pattern. -/
structure Level where
  opening : Opening
  /-- Where the level was opened. -/
  start : Nat
  flags : Flags
  /-- The alternatives that are complete, the last first. -/
  branches : List Pattern
  /-- The parts of the current alternative, the last first. -/
  parts : List Part

namespace Level

def opened (opening : Opening) (start : Nat) (flags : Flags) : Level :=
  ⟨opening, start, flags, [], []⟩

def allBranches (level : Level) : List Pattern :=
  (sequence level.parts.reverse :: level.branches).reverse

end Level

/-- A pattern that is being read. -/
structure Draft where
  level : Level
  /-- The levels around the current one, the innermost first. -/
  outer : List Level
  groups : Groups
  /-- The flags of the whole pattern. -/
  globals : List Char

namespace Draft

/-- A pattern of which nothing has been read. -/
def start : Draft := ⟨.opened .whole 0 .standard, [], .none, []⟩

def add (draft : Draft) (part : Part) : Draft :=
  { draft with level := { draft.level with parts := part :: draft.level.parts } }

/-- Adds a part that is no mark and no repetition. -/
def addPlain (draft : Draft) (pattern : Pattern) : Draft := draft.add (.plain pattern)

def flags (draft : Draft) : Flags := draft.level.flags

def push (draft : Draft) (opening : Opening) (start : Nat) (flags : Flags) : Draft :=
  { draft with level := .opened opening start flags, outer := draft.level :: draft.outer }

/-- Begins the next alternative. -/
def branch (draft : Draft) : Reading Draft := do
  let level := draft.level
  match level.opening, level.branches with
  | .choice _, _ :: _ => Reading.fail .thirdBranch 0
  | _, branches =>
    let _ ← Reading.take?
    let done := sequence level.parts.reverse
    pure { draft with level := { level with branches := done :: branches, parts := [] } }

/-- Closes the current level, the parenthesis that ends it coming next. -/
def close (draft : Draft) : Reading Draft := do
  let _ ← Reading.take?
  match draft.outer with
  | [] => pure draft
  | level :: outer =>
    let branches := draft.level.allBranches
    let body := alternatives branches
    let groups := draft.groups
    let width := body.width fun number => (groups.width? number).getD (0, 0)
    let closed : Draft := { draft with level := level, outer := outer }
    match draft.level.opening with
    | .whole => pure closed
    | .capture number =>
      pure ({ closed with groups := groups.closed number width }.addPlain (.group number body))
    | .plain => pure (closed.addPlain body)
    | .atomic => pure (closed.addPlain (.atomic body))
    | .ahead negated => pure (closed.addPlain (.ahead negated body))
    | .behind negated ownFrom =>
      pure ({ closed with groups := { groups with ownFrom := ownFrom } }.addPlain
        (.behind negated width.1 width.2 body))
    | .choice number =>
      pure (closed.addPlain
        (.choice number (branches.head?.getD .empty) ((branches[1]?).getD .empty)))

/-! ### Groups and flags -/

/-- Opens a group that is remembered, under a name or not. -/
def openCapture (draft : Draft) (name? : Option String) (start : Nat) : Reading Draft := do
  let groups := draft.groups
  match name?.bind fun name => (groups.names.lookup name).map fun earlier => (name, earlier) with
  | some (name, earlier) =>
    Reading.fail (.nameTaken name groups.next earlier) (name.length + 1)
  | none =>
    let draft := { draft with groups := groups.opened name? }
    pure (draft.push (.capture groups.next) start draft.flags)

/-- Adds a reference to a group by its name. -/
def addNamed (draft : Draft) : Reading Draft := do
  let name ← Groups.readName ')'
  let number ← draft.groups.named name
  draft.groups.checkReference number (name.length + 1)
  pure (draft.addPlain (.again draft.flags.casing number))

/-- Opens a condition on what stands before. -/
def openBehind (draft : Draft) (negated : Bool) (start : Nat) : Draft :=
  let groups := draft.groups
  let inside := { groups with ownFrom := groups.ownFrom <|> some groups.next }
  { draft with groups := inside }.push (.behind negated groups.ownFrom) start draft.flags

/-- Opens a choice by whether a group is remembered. The group is given by its name or by an
integer, which may be written in any way that integers are. -/
def openChoice (draft : Draft) (start : Nat) : Reading Draft := do
  let name ← Reading.name ')' "group name"
  let groups := draft.groups
  if Groups.isName name then
    let number ← groups.named name
    groups.checkBehind number
    pure (draft.push (.choice number) start draft.flags)
  else
    match readInteger name with
    | .ok (.ofNat number) =>
      if number = 0 then Reading.fail .groupZero (name.length + 1)
      if Groups.limit ≤ number then Reading.fail (.noSuchGroup number) (name.length + 1)
      let groups := groups.mentioned number ((← get).position - name.length - 1)
      groups.checkBehind number
      pure ({ draft with groups := groups }.push (.choice number) start draft.flags)
    | _ => Reading.fail (.badGroupName name) (name.length + 1)

/-- Skips a comment up to its closing parenthesis. -/
def skipComment (start : Nat) : Nat → Reading Unit
  | 0 => Reading.failAt .unterminatedComment start
  | count + 1 => do
    match ← Reading.take? with
    | none => Reading.failAt .unterminatedComment start
    | some token => if token = .plain ')' then pure () else skipComment start count

/-- Changes flags: those of the whole pattern at its start, or those of a new group. -/
def changeFlags (draft : Draft) (first : Char) (start : Nat) : Reading Draft := do
  match ← FlagChange.read first with
  | .part on off => pure (draft.push .plain start (draft.flags.changed on off))
  | .whole on =>
    let level := draft.level
    if draft.outer.isEmpty && level.branches.isEmpty && level.parts.isEmpty then
      pure { draft with
        level := { level with flags := level.flags.changed on [] }
        globals := on ++ draft.globals }
    else Reading.failAt .lateFlags start

/-- Reads what follows the letter `P` at the start of a group. -/
def openExtended (draft : Draft) (start : Nat) : Reading Draft := do
  match ← Reading.take? with
  | none => Reading.fail .unexpectedEnd 0
  | some (.plain '<') => draft.openCapture (some (← Groups.readName '>')) start
  | some (.plain '=') => draft.addNamed
  | some token =>
    Reading.fail (.unknownExtension ("P" ++ String.ofList token.text)) (token.width + 2)

/-- Reads the start of a group, its parenthesis already taken. -/
def openGroup (draft : Draft) : Reading Draft := do
  let start := (← get).position - 1
  let flags := draft.flags
  if !(← Reading.accept '?') then draft.openCapture none start
  else
    match ← Reading.take? with
    | none => Reading.fail .unexpectedEnd 0
    | some (.plain 'P') => draft.openExtended start
    | some (.plain ':') => pure (draft.push .plain start flags)
    | some (.plain '>') => pure (draft.push .atomic start flags)
    | some (.plain '=') => pure (draft.push (.ahead false) start flags)
    | some (.plain '!') => pure (draft.push (.ahead true) start flags)
    | some (.plain '(') => draft.openChoice start
    | some (.plain '#') => do
      skipComment start ((← get).rest.length + 1)
      pure draft
    | some (.plain '<') =>
      match ← Reading.take? with
      | none => Reading.fail .unexpectedEnd 0
      | some (.plain '=') => pure (draft.openBehind false start)
      | some (.plain '!') => pure (draft.openBehind true start)
      | some token =>
        Reading.fail (.unknownExtension ("<" ++ String.ofList token.text)) (token.width + 2)
    | some (.plain c) =>
      if FlagChange.isFlag c || c = '-' then draft.changeFlags c start
      else Reading.fail (.unknownExtension c.toString) 2
    | some token => Reading.fail (.unknownExtension (String.ofList token.text)) (token.width + 1)

/-! ### Repetitions -/

/-- A bound of a repetition, if it is written. -/
def readBound (digits : List Char) : Reading (Option Nat) := do
  if digits.isEmpty then pure none
  else
    let bound ← readNumber digits
    if furthestBehind ≤ bound then throw .tooManyTimes
    pure (some bound)

/-- Reads the bounds of a repetition in braces, the opening brace already taken. What is no
repetition is left as it is. -/
def readBounds : Reading (Option (Nat × Option Nat)) := do
  let source ← get
  let count := source.rest.length
  if source.rest.head? = some (.plain '\x7d') then pure none
  else
    let low ← Reading.takeWhile Char.isDigit count
    let high ← if ← Reading.accept ',' then Reading.takeWhile Char.isDigit count else pure low
    if ← Reading.accept '\x7d' then
      let least ← readBound low
      let most ← readBound high
      if most.any (· < least.getD 0) then Reading.failAt .boundsReversed source.position
      pure (some (least.getD 0, most))
    else
      modify fun _ => source
      pure none

/-- Reads how a repetition is tried. -/
def readPreference : Reading Preference := do
  match ← Reading.peek? with
  | some (.plain '?') =>
    let _ ← Reading.take?
    pure .fewest
  | some (.plain '+') =>
    let _ ← Reading.take?
    pure .possessive
  | _ => pure .most

def repeatLast (draft : Draft) (least : Nat) (most : Option Nat) (here : Nat) :
    Reading Draft := do
  match draft.level.parts with
  | .plain pattern :: parts =>
    let part := Part.repeated (.rep (← readPreference) pattern least most)
    pure { draft with level := { draft.level with parts := part :: parts } }
  | .repeated _ :: _ => Reading.failAt .repeatedTwice (here - 1)
  | _ => Reading.failAt .nothingToRepeat (here - 1)

/-! ### Tokens -/

/-- Skips a comment that ends with its line. -/
def skipLine : Nat → Reading Unit
  | 0 => pure ()
  | count + 1 => do
    match ← Reading.take? with
    | none => pure ()
    | some token => if token = .plain '\n' then pure () else skipLine count

/-- Adds what an escape stands for. -/
def addEscape (draft : Draft) (letter : Char) : Reading Draft := do
  let flags := draft.flags
  match ← Escape.outside flags.alphabet letter with
  | .item item => pure (draft.addPlain (.set ⟨flags.casing, false, [item]⟩))
  | .mark kind => pure (draft.add (.mark kind))
  | .reference digits =>
    let number := Json.ofDigits digits
    if draft.groups.next ≤ number then Reading.fail (.noSuchGroup number) digits.length
    draft.groups.checkReference number (digits.length + 1)
    pure (draft.addPlain (.again flags.casing number))

/-- Reads on by a character that is no escape, already taken. -/
def character (draft : Draft) (c : Char) : Reading Draft := do
  let flags := draft.flags
  let here := (← get).position
  match c with
  | '[' => pure (draft.addPlain (.set (← CharSet.read flags.casing flags.alphabet)))
  | '.' => pure (draft.addPlain flags.dot)
  | '(' => draft.openGroup
  | '^' => pure (draft.add (.mark (if flags.everyLine then .lineStart else .start)))
  | '$' => pure (draft.add (.mark (if flags.everyLine then .lineStop else .stop)))
  | '*' => draft.repeatLast 0 none here
  | '+' => draft.repeatLast 1 none here
  | '?' => draft.repeatLast 0 (some 1) here
  | '\x7b' =>
    match ← readBounds with
    | some (least, most) => draft.repeatLast least most here
    | none => pure (draft.addPlain (flags.literal c))
  | c => pure (draft.addPlain (flags.literal c))

/-- Whether a character is left out of a pattern with blanks and comments. -/
def isFiller (c : Char) : Bool := c == ' ' || (0x09 ≤ c.toNat && c.toNat ≤ 0x0d)

def step (draft : Draft) (token : Token) : Reading Draft := do
  match token with
  | .plain '|' => draft.branch
  | .plain ')' => draft.close
  | .escaped letter =>
    let _ ← Reading.take?
    draft.addEscape letter
  | .plain c =>
    let _ ← Reading.take?
    if draft.flags.spaced && isFiller c then pure draft
    else if draft.flags.spaced && c = '#' then
      skipLine ((← get).rest.length + 1)
      pure draft
    else draft.character c

/-- Reads up to the end, or to a parenthesis that closes nothing. -/
def readAll : Nat → Draft → Reading Draft
  | 0, draft => pure draft
  | count + 1, draft => do
    match ← Reading.peek? with
    | none => pure draft
    | some token =>
      if token = .plain ')' && draft.outer.isEmpty then pure draft
      else readAll count (← draft.step token)

/-- The pattern that has been read, if it is complete. Only groups that something refers to are
remembered. -/
def finish (draft : Draft) : Reading Pattern := do
  if !draft.outer.isEmpty then Reading.failAt .unterminatedGroup draft.level.start
  if draft.globals.contains 'a' && draft.globals.contains 'u' then throw .conflictingAlphabets
  if (← Reading.peek?).isSome then Reading.fail .unbalanced 0
  match draft.groups.mentions.find? fun mention => draft.groups.next ≤ mention.1 with
  | some (number, position) => Reading.failAt (.noSuchGroup number) position
  | none => pure ()
  let pattern := alternatives draft.level.allBranches
  match pattern.fault? (draft.globals.contains 't') with
  | some e => throw e
  | none => pure (pattern.remembering pattern.references)

end Draft

def read (written : String) : Except PatternError Pattern :=
  Reading.run (do (← Draft.readAll (written.length + 1) .start).finish) written

def find (written text : String) : Except PatternError Bool :=
  (read written).map fun pattern => pattern.search text

theorem find_of_read {written text : String} {pattern : Pattern}
    (h : read written = .ok pattern) : find written text = .ok (pattern.search text) := by
  simp [find, h, Except.map]

end Pattern

end FormStudio
