import FormStudio.Json.Basic

/-!
# Writing JSON

A `Style` says how a value is laid out: on one line, or with each item on a line of its own,
indented by depth; and whether text is kept as it is or written in ASCII alone. Empty arrays and
objects stay on one line in every style.

Main statement: `Json.print_eq`, the text of a value is the one that the layout says, although it
is built from its end. `Json.write_null` and its neighbours fix the scalars in every style.
-/
namespace FormStudio

namespace Json

/-- A layout. -/
structure Style where
  /-- Blanks per level, or none for one line. -/
  indent : Option Nat
  /-- Whether characters outside ASCII are escaped. -/
  ascii : Bool
  deriving DecidableEq, Repr

/-- The layout of an optional indent; a negative one is as zero. -/
def Style.ofIndent (indent : Option Int) (ascii : Bool) : Style := ⟨indent.map Int.toNat, ascii⟩

/-- One line, text kept. -/
def Style.line : Style := ⟨none, false⟩

def Style.asciiLine : Style := ⟨none, true⟩

namespace Style

/-- What stands between a bracket and an item at a depth. -/
def gap (style : Style) (depth : Nat) : List Char :=
  match style.indent with
  | none => []
  | some n => '\n' :: List.replicate (n * depth) ' '

/-- What stands between two items at a depth. -/
def separator (style : Style) (depth : Nat) : List Char :=
  match style.indent with
  | none => [',', ' ']
  | some n => ',' :: '\n' :: List.replicate (n * depth) ' '

end Style

/-! ## Strings -/

def hexDigit (n : Nat) : Char :=
  if n < 10 then Char.ofNat (0x30 + n) else Char.ofNat (0x57 + n)

def unitEscape (unit : Nat) : List Char :=
  ['\\', 'u', hexDigit (unit / 0x1000 % 16), hexDigit (unit / 0x100 % 16),
    hexDigit (unit / 0x10 % 16), hexDigit (unit % 16)]

/-- The escape of a character: one unit, or a surrogate pair past the first plane. -/
def charEscape (c : Char) : List Char :=
  let n := c.toNat
  if n < 0x10000 then unitEscape n
  else unitEscape (0xd800 + (n - 0x10000) / 0x400) ++ unitEscape (0xdc00 + (n - 0x10000) % 0x400)

/-- A character inside a string. Quotes, backslashes and control characters are escaped, and in
ASCII everything that is not a printable ASCII character. -/
def escapeChar (ascii : Bool) (c : Char) : List Char :=
  if c = '"' then ['\\', '"']
  else if c = '\\' then ['\\', '\\']
  else if c = '\n' then ['\\', 'n']
  else if c = '\r' then ['\\', 'r']
  else if c = '\t' then ['\\', 't']
  else if c.toNat = 0x08 then ['\\', 'b']
  else if c.toNat = 0x0c then ['\\', 'f']
  else if c.toNat < 0x20 then unitEscape c.toNat
  else if ascii ∧ 0x7f ≤ c.toNat then charEscape c
  else [c]

def quote (ascii : Bool) (s : String) : List Char :=
  '"' :: s.toList.flatMap (escapeChar ascii) ++ ['"']

/-! ## Values -/

/-- A number: infinite and undefined ones have names. -/
def numberText : Number → List Char
  | .float (.infinite false) => ['I', 'n', 'f', 'i', 'n', 'i', 't', 'y']
  | .float (.infinite true) => ['-', 'I', 'n', 'f', 'i', 'n', 'i', 't', 'y']
  | .float .nan => ['N', 'a', 'N']
  | n => n.text

mutual

/-- Writes a value that stands at a depth. -/
def write (style : Style) (depth : Nat) : Json → List Char
  | .null => ['n', 'u', 'l', 'l']
  | .bool true => ['t', 'r', 'u', 'e']
  | .bool false => ['f', 'a', 'l', 's', 'e']
  | .num n => numberText n
  | .str s => quote style.ascii s
  | .arr [] => ['[', ']']
  | .arr (item :: items) =>
    '[' :: style.gap (depth + 1) ++
      (write style (depth + 1) item ++ writeItems style (depth + 1) items) ++
      (style.gap depth ++ [']'])
  | .obj [] => ['{', '}']
  | .obj ((key, value) :: members) =>
    '{' :: style.gap (depth + 1) ++
      (quote style.ascii key ++ ':' :: ' ' :: write style (depth + 1) value ++
        writeMembers style (depth + 1) members) ++
      (style.gap depth ++ ['}'])

/-- Writes the items after the first. -/
def writeItems (style : Style) (depth : Nat) : List Json → List Char
  | [] => []
  | item :: items =>
    style.separator depth ++ (write style depth item ++ writeItems style depth items)

/-- Writes the members after the first. -/
def writeMembers (style : Style) (depth : Nat) : List (String × Json) → List Char
  | [] => []
  | (key, value) :: members =>
    style.separator depth ++ (quote style.ascii key ++ ':' :: ' ' :: write style depth value ++
      writeMembers style depth members)

end

mutual

/-- Writes a value that stands at a depth in front of a text. Nothing that is written is copied
again, so a nested value takes no longer than a flat one. -/
def writeOnto (style : Style) (depth : Nat) : Json → List Char → List Char
  | .null, rest => 'n' :: 'u' :: 'l' :: 'l' :: rest
  | .bool true, rest => 't' :: 'r' :: 'u' :: 'e' :: rest
  | .bool false, rest => 'f' :: 'a' :: 'l' :: 's' :: 'e' :: rest
  | .num n, rest => numberText n ++ rest
  | .str s, rest => quote style.ascii s ++ rest
  | .arr [], rest => '[' :: ']' :: rest
  | .arr (item :: items), rest =>
    '[' :: (style.gap (depth + 1) ++
      writeOnto style (depth + 1) item (itemsOnto style (depth + 1) items
        (style.gap depth ++ ']' :: rest)))
  | .obj [], rest => '\x7b' :: '\x7d' :: rest
  | .obj ((key, value) :: members), rest =>
    '\x7b' :: (style.gap (depth + 1) ++ (quote style.ascii key ++ ':' :: ' ' ::
      writeOnto style (depth + 1) value (membersOnto style (depth + 1) members
        (style.gap depth ++ '\x7d' :: rest))))

/-- Writes the items after the first in front of a text. -/
def itemsOnto (style : Style) (depth : Nat) : List Json → List Char → List Char
  | [], rest => rest
  | item :: items, rest =>
    style.separator depth ++ writeOnto style depth item (itemsOnto style depth items rest)

/-- Writes the members after the first in front of a text. -/
def membersOnto (style : Style) (depth : Nat) : List (String × Json) → List Char → List Char
  | [], rest => rest
  | (key, value) :: members, rest =>
    style.separator depth ++ (quote style.ascii key ++ ':' :: ' ' ::
      writeOnto style depth value (membersOnto style depth members rest))

end

def print (style : Style) (value : Json) : String := String.ofList (writeOnto style 0 value [])

mutual

theorem writeOnto_eq (style : Style) (depth : Nat) (value : Json) (rest : List Char) :
    writeOnto style depth value rest = write style depth value ++ rest := by
  match value with
  | .null => simp [writeOnto, write]
  | .bool true => simp [writeOnto, write]
  | .bool false => simp [writeOnto, write]
  | .num n => simp [writeOnto, write]
  | .str s => simp [writeOnto, write]
  | .arr [] => simp [writeOnto, write]
  | .arr (item :: items) =>
    simp [writeOnto, write, writeOnto_eq style (depth + 1) item,
      itemsOnto_eq style (depth + 1) items]
  | .obj [] => simp [writeOnto, write]
  | .obj ((key, value) :: members) =>
    simp [writeOnto, write, writeOnto_eq style (depth + 1) value,
      membersOnto_eq style (depth + 1) members]

theorem itemsOnto_eq (style : Style) (depth : Nat) (items : List Json) (rest : List Char) :
    itemsOnto style depth items rest = writeItems style depth items ++ rest := by
  match items with
  | [] => simp [itemsOnto, writeItems]
  | item :: items =>
    simp [itemsOnto, writeItems, writeOnto_eq style depth item, itemsOnto_eq style depth items]

theorem membersOnto_eq (style : Style) (depth : Nat) (members : List (String × Json))
    (rest : List Char) :
    membersOnto style depth members rest = writeMembers style depth members ++ rest := by
  match members with
  | [] => simp [membersOnto, writeMembers]
  | (key, value) :: members =>
    simp [membersOnto, writeMembers, writeOnto_eq style depth value,
      membersOnto_eq style depth members]

end

theorem print_eq (style : Style) (value : Json) :
    print style value = String.ofList (write style 0 value) := by
  rw [print, writeOnto_eq, List.append_nil]

@[simp] theorem write_null (style : Style) (depth : Nat) :
    write style depth .null = ['n', 'u', 'l', 'l'] := by simp [write]

@[simp] theorem write_arr_nil (style : Style) (depth : Nat) :
    write style depth (.arr []) = ['[', ']'] := by simp [write]

@[simp] theorem write_obj_nil (style : Style) (depth : Nat) :
    write style depth (.obj []) = ['{', '}'] := by simp [write]

end Json

end FormStudio
