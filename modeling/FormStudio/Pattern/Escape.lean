import FormStudio.Json.Reader
import FormStudio.Pattern.Source
import FormStudio.Text.CharacterName

/-!
# Escapes and sets

What a backslash stands for in a written pattern, and the sets in brackets: single characters,
classes, and ranges of characters.

Main statement: `Escape.classOf?_holds`, a capital letter names the class outside that of its small
letter.
-/
namespace FormStudio

/-- What an escape stands for. -/
inductive Escape where
  /-- A member of a set. -/
  | item (item : CharItem)
  | mark (kind : Mark)
  /-- A reference to a group, as written behind the backslash. -/
  | reference (digits : List Char)
  deriving DecidableEq, Repr

namespace Escape

/-- The class that a letter names. -/
def classOf? (alphabet : Alphabet) : Char → Option CharItem
  | 'd' => some (.named alphabet .digit false)
  | 'D' => some (.named alphabet .digit true)
  | 's' => some (.named alphabet .blank false)
  | 'S' => some (.named alphabet .blank true)
  | 'w' => some (.named alphabet .word false)
  | 'W' => some (.named alphabet .word true)
  | _ => none

/-- The mark of a place that a letter names. -/
def markOf? (alphabet : Alphabet) : Char → Option Mark
  | 'A' => some .start
  | 'Z' => some .finish
  | 'b' => some (.edge alphabet false)
  | 'B' => some (.edge alphabet true)
  | _ => none

/-- The code point of a control that a letter names. -/
def controlOf? : Char → Option Nat
  | 'a' => some 0x07
  | 'b' => some 0x08
  | 't' => some 0x09
  | 'n' => some 0x0a
  | 'v' => some 0x0b
  | 'f' => some 0x0c
  | 'r' => some 0x0d
  | _ => none

/-- Whether a character is an octal digit. -/
def isOctal (c : Char) : Bool := '0' ≤ c && c ≤ '7'

def ofOctal (digits : List Char) : Nat := digits.foldl (fun n c => n * 8 + (c.toNat - 0x30)) 0

/-- The value of hexadecimal digits. -/
def ofHex (digits : List Char) : Nat :=
  digits.foldl (fun n c => n * 16 + (Json.hexValue? c).getD 0) 0

def written (letter : Char) (rest : List Char) : String := String.ofList ('\\' :: letter :: rest)

/-- Fails at an escape that stands for nothing. -/
def bad {α : Type} (letter : Char) (rest : List Char) : Reading α :=
  Reading.fail (.badEscape (written letter rest)) (rest.length + 2)

/-- Reads the code point of an escape with a fixed number of hexadecimal digits. -/
def hex (letter : Char) (count : Nat) : Reading Nat := do
  let digits ← Reading.takeWhile (fun c => (Json.hexValue? c).isSome) count
  if digits.length != count then
    Reading.fail (.incompleteEscape (written letter digits)) (digits.length + 2)
  let code := ofHex digits
  if 0x7fffffff < code then throw .codeTooLarge
  if 0x10ffff < code then bad letter digits
  pure code

/-- Reads the code point of a character given by its name. -/
def named : Reading Nat := do
  if !(← Reading.accept '\x7b') then Reading.fail (.missing "\x7b") 0
  let name ← Reading.name '\x7d' "character name"
  match characterNamed? name with
  | some code => pure code
  | none => Reading.fail (.undefinedCharacter name) (name.length + 4)

/-- The code point of octal digits, if it is not too large. -/
def octal (digits : List Char) : Reading Nat := do
  let code := ofOctal digits
  if 0xff < code then
    let escape := String.ofList ('\\' :: digits)
    Reading.fail (.octalTooLarge escape) escape.length
  pure code

/-- Reads the code point of an escape by its letter; a character that is no letter of ASCII stands
for itself. -/
def code (letter : Char) : Reading Nat := do
  match letter with
  | 'x' => hex 'x' 2
  | 'u' => hex 'u' 4
  | 'U' => hex 'U' 8
  | 'N' => named
  | c => if c.isAlpha then bad c [] else pure c.toNat

/-- Reads an escape inside a set, its first two characters already taken. -/
def inSet (alphabet : Alphabet) (letter : Char) : Reading CharItem := do
  match controlOf? letter, classOf? alphabet letter with
  | some n, _ => pure (.one n)
  | none, some member => pure member
  | none, none =>
    if isOctal letter then
      pure (.one (← octal (letter :: (← Reading.takeWhile isOctal 2))))
    else if letter.isDigit then bad letter []
    else pure (.one (← code letter))

/-- Reads an escape of digits outside a set: three octal digits, or one or two digits that refer to
a group. -/
def digits (first : Char) : Reading Escape := do
  match ← Reading.takeWhile Char.isDigit 1 with
  | [] => pure (.reference [first])
  | second =>
    let third ← if (first :: second).all isOctal then Reading.takeWhile isOctal 1 else pure []
    if third.isEmpty then pure (.reference (first :: second))
    else pure (.item (.one (← octal (first :: second ++ third))))

/-- Reads an escape outside a set, its first two characters already taken. -/
def outside (alphabet : Alphabet) (letter : Char) : Reading Escape := do
  match markOf? alphabet letter, classOf? alphabet letter, controlOf? letter with
  | some kind, _, _ => pure (.mark kind)
  | none, some member, _ => pure (.item member)
  | none, none, some n => pure (.item (.one n))
  | none, none, none =>
    if letter = '0' then
      pure (.item (.one (ofOctal (letter :: (← Reading.takeWhile isOctal 2)))))
    else if letter.isDigit then digits letter
    else pure (.item (.one (← code letter)))

theorem classOf?_holds {alphabet : Alphabet} {small : Char} {item : CharItem}
    (h : classOf? alphabet small = some item) (hs : small.isLower = true) (c : Char)
    (codes : List Nat) :
    ∃ outside, classOf? alphabet small.toUpper = some outside ∧
      outside.holds c codes = !item.holds c codes := by
  unfold classOf? at h
  split at h
  case h_1 | h_3 | h_5 => cases h; exact ⟨_, rfl, by simp [CharItem.holds]⟩
  case h_2 | h_4 | h_6 => exact absurd hs (by decide)
  case h_7 => cases h

end Escape

/-! ## Sets -/

namespace CharSet

/-- Reads one member of a set by its first token. -/
def readMember (alphabet : Alphabet) : Token → Reading CharItem
  | .plain c => pure (.one c.toNat)
  | .escaped c => Escape.inSet alphabet c

/-- The range between two single characters, if it is in order. -/
def rangeOf? : CharItem → CharItem → Option CharItem
  | .range a _, .range b _ => if a ≤ b then some (.range a b) else none
  | _, _ => none

/-- Reads the members of a set up to its closing bracket; one in first place belongs to the set. The
last member read comes first in `items`. -/
def readItems (start : Nat) (alphabet : Alphabet) : Nat → List CharItem → Reading (List CharItem)
  | 0, _ => Reading.failAt .unterminatedSet start
  | count + 1, items => do
    match ← Reading.take? with
    | none => Reading.failAt .unterminatedSet start
    | some first =>
      if first = .plain ']' && !items.isEmpty then pure items.reverse
      else
        let low ← readMember alphabet first
        if !(← Reading.accept '-') then readItems start alphabet count (low :: items)
        else
          match ← Reading.take? with
          | none => Reading.failAt .unterminatedSet start
          | some second =>
            if second = .plain ']' then
              pure (items.reverse ++ [low, .one '-'.toNat])
            else
              let high ← readMember alphabet second
              match rangeOf? low high with
              | some range => readItems start alphabet count (range :: items)
              | none =>
                Reading.fail (.badRange (String.ofList first.text) (String.ofList second.text))
                  (first.width + 1 + second.width)

/-- Reads a set, its opening bracket already taken. -/
def read (casing : Casing) (alphabet : Alphabet) : Reading CharSet := do
  let start := (← get).position - 1
  let negated ← Reading.accept '^'
  let items ← readItems start alphabet ((← get).rest.length + 1) []
  pure ⟨casing, negated, items⟩

end CharSet

end FormStudio
