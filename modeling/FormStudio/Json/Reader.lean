import FormStudio.Json.Basic

/-!
# Reading JSON

A text is one value between blanks. Objects may repeat a key: the first place and the last value
count. A number without point and exponent is an integer; every other one is a binary number.
Integers are read up to a bound on their digits. A `Dialect` says whether the names of infinite and
undefined numbers, and numerals past the largest number, are values too.

Half of a surrogate pair is a code unit and no character, but an escape may write one. It is read as
a character that stands for it, out of a block of private characters; where the block begins is part
of the dialect. So a half that counts is one that makes the value depend on the block, and
`HasNoHalf` says of a text that it has none. Elsewhere a value with such characters speaks of a text
with halves in their places.

The reader goes from left to right and stops at the first fault. Its fuel bounds the nesting and the
items to come; it is computed from the text and never runs out on it.
-/
namespace FormStudio

namespace Json

/-- Why a text is not a value. -/
inductive ReadError where
  /-- The text does not follow the grammar. -/
  | malformed
  /-- An integer has more digits than are read. -/
  | longInteger (digits : Nat)
  deriving DecidableEq, Repr

/-- The most digits an integer may have. -/
def integerDigitLimit : Nat := 4300

/-- Where the block of characters begins that usually stand for halves of surrogate pairs. -/
def standardHalves : Nat := 0xf0000

/-- What a text is read as. -/
structure Dialect where
  /-- Whether `NaN`, `Infinity` and `-Infinity` are values, and numerals past the largest number
  infinite ones. -/
  allowsNonFinite : Bool
  /-- Where the block of characters begins that stand for halves of surrogate pairs. -/
  halves : Nat := standardHalves
  deriving DecidableEq, Repr

def Dialect.finite : Dialect := { allowsNonFinite := false }

/-- Infinite and undefined numbers are values. -/
def Dialect.extended : Dialect := { allowsNonFinite := true }

/-- The blanks between the parts of a text. -/
def isSpace (c : Char) : Bool := c == ' ' || c == '\n' || c == '\r' || c == '\t'

/-- A text without its leading blanks. -/
def skipSpace (cs : List Char) : List Char := cs.dropWhile isSpace

/-! ## Strings -/

/-- The value of a hexadecimal digit. -/
def hexValue? (c : Char) : Option Nat :=
  if '0' ≤ c ∧ c ≤ '9' then some (c.toNat - 0x30)
  else if 'a' ≤ c ∧ c ≤ 'f' then some (c.toNat - 0x57)
  else if 'A' ≤ c ∧ c ≤ 'F' then some (c.toNat - 0x37)
  else none

/-- The code unit of four hexadecimal digits. -/
def hexUnit? (a b c d : Char) : Option Nat := do
  let a ← hexValue? a
  let b ← hexValue? b
  let c ← hexValue? c
  let d ← hexValue? d
  pure (((a * 16 + b) * 16 + c) * 16 + d)

/-- The code unit of a one-letter escape. -/
def shortEscape? : Char → Option Nat
  | '"' => some 0x22
  | '\\' => some 0x5c
  | '/' => some 0x2f
  | 'b' => some 0x08
  | 'f' => some 0x0c
  | 'n' => some 0x0a
  | 'r' => some 0x0d
  | 't' => some 0x09
  | _ => none

/-- Reads up to the closing quote: code units from escapes, code points from the rest. -/
def scanUnits : List Char → Option (List Nat × List Char)
  | [] => none
  | '"' :: rest => some ([], rest)
  | '\\' :: 'u' :: a :: b :: c :: d :: rest => do
    let unit ← hexUnit? a b c d
    let (units, rest) ← scanUnits rest
    pure (unit :: units, rest)
  | '\\' :: e :: rest => do
    let unit ← shortEscape? e
    let (units, rest) ← scanUnits rest
    pure (unit :: units, rest)
  | c :: rest =>
    if c.toNat < 0x20 ∨ c = '\\' then none
    else do
      let (units, rest) ← scanUnits rest
      pure (c.toNat :: units, rest)

/-- The count of halves of surrogate pairs, first and second ones. -/
def halfCount : Nat := 0x800

/-- The character of a unit; half of a surrogate pair has one that stands for it. -/
def unitChar (halves unit : Nat) : Char :=
  if 0xd800 ≤ unit ∧ unit < 0xd800 + halfCount then Char.ofNat (halves + (unit - 0xd800))
  else Char.ofNat unit

/-- Joins surrogate pairs and makes characters of the units. -/
def joinUnits (halves : Nat) : List Nat → List Char
  | high :: low :: rest =>
    if (0xd800 ≤ high ∧ high < 0xdc00) ∧ (0xdc00 ≤ low ∧ low < 0xe000) then
      Char.ofNat (0x10000 + (high - 0xd800) * 0x400 + (low - 0xdc00)) :: joinUnits halves rest
    else unitChar halves high :: joinUnits halves (low :: rest)
  | [unit] => [unitChar halves unit]
  | [] => []

/-- Reads a string, its opening quote already read. -/
def scanString (halves : Nat) (cs : List Char) : Option (String × List Char) :=
  (scanUnits cs).map fun (units, rest) => (String.ofList (joinUnits halves units), rest)

/-! ## Numbers -/

/-- The value of a run of decimal digits. -/
def ofDigits (digits : List Char) : Nat :=
  digits.foldl (fun n c => n * 10 + (c.toNat - 0x30)) 0

/-- The digits a text begins with, and the rest. -/
def takeDigits (cs : List Char) : List Char × List Char :=
  (cs.takeWhile Char.isDigit, cs.dropWhile Char.isDigit)

/-- The digits before the point: a zero stands alone. -/
def wholeDigits : List Char → List Char × List Char
  | '0' :: rest => (['0'], rest)
  | cs => takeDigits cs

/-- The digits after a point; without digits there is no point either. -/
def fractionDigits : List Char → List Char × List Char
  | '.' :: rest =>
    match takeDigits rest with
    | ([], _) => ([], '.' :: rest)
    | found => found
  | cs => ([], cs)

/-- A sign and the text behind it. -/
def exponentSign : List Char → Bool × List Char
  | '-' :: rest => (true, rest)
  | '+' :: rest => (false, rest)
  | cs => (false, cs)

/-- The exponent a text begins with; without digits there is none. -/
def exponentPart : List Char → Option Int × List Char
  | c :: rest =>
    if c = 'e' ∨ c = 'E' then
      let (negative, digits) := exponentSign rest
      -- without digits the mark is no part of the number
      match takeDigits digits with
      | ([], _) => (none, c :: rest)
      | (digits, after) =>
        (some (if negative then -(ofDigits digits : Int) else ofDigits digits), after)
    else (none, c :: rest)
  | [] => (none, [])

/-- A binary number, if the dialect has it. -/
def ofBinary (dialect : Dialect) (x : Binary64) (rest : List Char) :
    Except ReadError (Json × List Char) :=
  if x.isFinite || dialect.allowsNonFinite then .ok (.num (.float x), rest) else .error .malformed

/-- Reads a number, its sign already read. -/
def readNumber (dialect : Dialect) (negative : Bool) (cs : List Char) :
    Except ReadError (Json × List Char) :=
  match wholeDigits cs with
  | ([], _) => .error .malformed
  | (whole, afterWhole) =>
    let (fraction, afterFraction) := fractionDigits afterWhole
    match fraction, exponentPart afterFraction with
    | [], (none, rest) =>
      if integerDigitLimit < whole.length then .error (.longInteger whole.length)
      else .ok (.num (.int (if negative then -(ofDigits whole : Int) else ofDigits whole)), rest)
    | fraction, (exponent, rest) =>
      ofBinary dialect (Binary64.ofDecimal negative (ofDigits (whole ++ fraction))
        (exponent.getD 0 - fraction.length)) rest

/-! ## Values -/

/-- Reads a value that has no parts. -/
def readScalar (dialect : Dialect) : List Char → Except ReadError (Json × List Char)
  | 'n' :: 'u' :: 'l' :: 'l' :: rest => .ok (.null, rest)
  | 't' :: 'r' :: 'u' :: 'e' :: rest => .ok (.bool true, rest)
  | 'f' :: 'a' :: 'l' :: 's' :: 'e' :: rest => .ok (.bool false, rest)
  | 'N' :: 'a' :: 'N' :: rest => ofBinary dialect .nan rest
  | 'I' :: 'n' :: 'f' :: 'i' :: 'n' :: 'i' :: 't' :: 'y' :: rest =>
    ofBinary dialect (.infinite false) rest
  | '-' :: 'I' :: 'n' :: 'f' :: 'i' :: 'n' :: 'i' :: 't' :: 'y' :: rest =>
    ofBinary dialect (.infinite true) rest
  | '-' :: rest => readNumber dialect true rest
  | cs => readNumber dialect false cs

def readString {α : Type} (halves : Nat) (cs : List Char)
    (next : String → List Char → Except ReadError α) : Except ReadError α :=
  match scanString halves cs with
  | some (s, rest) => next s rest
  | none => .error .malformed

mutual

def readValue (dialect : Dialect) : Nat → List Char → Except ReadError (Json × List Char)
  | 0, _ => .error .malformed
  | fuel + 1, cs =>
    match cs with
    | '"' :: rest => readString dialect.halves rest fun s rest => .ok (.str s, rest)
    | '[' :: rest =>
      match skipSpace rest with
      | ']' :: rest => .ok (.arr [], rest)
      | rest => do
        let (items, rest) ← readItems dialect fuel rest
        .ok (.arr items, rest)
    | '{' :: rest =>
      match skipSpace rest with
      | '}' :: rest => .ok (.obj [], rest)
      | rest => do
        let (members, rest) ← readMembers dialect fuel rest
        .ok (.obj (Table.ofPairs members), rest)
    | cs => readScalar dialect cs

/-- Reads the items of an array up to its end. -/
def readItems (dialect : Dialect) : Nat → List Char → Except ReadError (List Json × List Char)
  | 0, _ => .error .malformed
  | fuel + 1, cs => do
    let (item, rest) ← readValue dialect fuel cs
    match skipSpace rest with
    | ',' :: rest =>
      let (items, rest) ← readItems dialect fuel (skipSpace rest)
      .ok (item :: items, rest)
    | ']' :: rest => .ok ([item], rest)
    | _ => .error .malformed

/-- Reads the members of an object up to its end. -/
def readMembers (dialect : Dialect) :
    Nat → List Char → Except ReadError (List (String × Json) × List Char)
  | 0, _ => .error .malformed
  | fuel + 1, cs =>
    match cs with
    | '"' :: rest => readString dialect.halves rest fun key rest =>
      match skipSpace rest with
      | ':' :: rest => do
        let (value, rest) ← readValue dialect fuel (skipSpace rest)
        match skipSpace rest with
        | ',' :: rest =>
          let (members, rest) ← readMembers dialect fuel (skipSpace rest)
          .ok ((key, value) :: members, rest)
        | '}' :: rest => .ok ([(key, value)], rest)
        | _ => .error .malformed
      | _ => .error .malformed
    | _ => .error .malformed

end

/-- Reads a text that holds one value and blanks around it. -/
def read (dialect : Dialect) (text : String) : Except ReadError Json := do
  let cs := text.toList
  let (value, rest) ← readValue dialect (2 * cs.length + 2) (skipSpace cs)
  match skipSpace rest with
  | [] => .ok value
  | _ => .error .malformed

/-! ## Halves of surrogate pairs -/

/-- Whether a text is read as the same value, whatever characters stand for halves: none of them
counts in it. -/
def HasNoHalf (text : String) : Prop :=
  ∀ (dialect : Dialect) (halves : Nat),
    read { dialect with halves := halves } text = read dialect text

/-- Whether a character stands for half of a surrogate pair. -/
def isHalf (halves : Nat) (c : Char) : Bool :=
  decide (halves ≤ c.toNat ∧ c.toNat < halves + halfCount)

/-- The blocks of characters for halves besides the standard one. -/
def otherHalves : List Nat := (List.range 31).map fun i => standardHalves + (i + 1) * halfCount

/-- A block of characters for halves, besides the standard one, of which a text has none. -/
def unusedHalves (text : String) : Nat :=
  (otherHalves.find? fun halves => !text.toList.any (isHalf halves)).getD
    (standardHalves + halfCount)

end Json

end FormStudio
