import FormStudio.Field.Issue
import FormStudio.Json.Reader
import FormStudio.Rule.Basic
import FormStudio.Rule.Numeral

/-!
# Reading rules

A rule is read from an object with some leniency: a flag may be written as a number or a word, a
number as a flag or a numeral in a text, and a count as a whole binary number. Unknown keys are
ignored. The issues of all members are collected in their order.
-/
namespace FormStudio

namespace Rule

/-- The words for a set and an unset flag. -/
def flagWords : Table Bool := [
  ("0", false), ("off", false), ("f", false), ("false", false), ("n", false), ("no", false),
  ("1", true), ("on", true), ("t", true), ("true", true), ("y", true), ("yes", true)]

def readText (path : List PathStep) : Json → Checked String
  | .str s => .good s
  | _ => .fault path .notText

def flagOfInteger (path : List PathStep) (i : Int) : Checked Bool :=
  if i = 0 then .good false
  else if i = 1 then .good true
  else .fault path .unclearFlag

/-- The integers that fit into a machine word lie below this, and above its opposite. -/
def wordBound : Int := 2 ^ 63

/-- The integer that a binary number stands for, if it is whole and fits into a machine word. -/
def wordOf? (x : Binary64) : Option Int :=
  if x.isWhole ∧ -wordBound < x.truncate ∧ x.truncate < wordBound then some x.truncate else none

/-- A flag, also as zero or one and as a word in any case. -/
def readFlag (path : List PathStep) : Json → Checked Bool
  | .bool b => .good b
  | .str s =>
    match Table.get? s.toLower flagWords with
    | some b => .good b
    | none => .fault path .unclearFlag
  | .num (.int i) =>
    if -wordBound ≤ i ∧ i < wordBound then flagOfInteger path i else .fault path .notFlag
  | .num (.float x) =>
    match wordOf? x with
    | some i => flagOfInteger path i
    | none => .fault path .notFlag
  | _ => .fault path .notFlag

/-- A binary number, also as an integer, a flag or a numeral in a text. -/
def readBinary (path : List PathStep) : Json → Checked Number
  | .num n =>
    match n.toBinary? with
    | some x => .good (.float x)
    | none => .fault path .notNumber
  | .bool b => .good (.float (Binary64.ofRatio false (if b then 1 else 0) 1))
  | .str s =>
    match Numeral.binary? s with
    | some x => .good (.float x)
    | none => .fault path .unclearNumber
  | _ => .fault path .notNumber

/-- A count, also as a whole binary number, a flag or a numeral in a text. -/
def readCount (path : List PathStep) : Json → Checked Int
  | .num (.int i) => .good i
  | .num (.float x) =>
    if !x.isFinite then .fault path .notFinite
    else if !x.isWhole then .fault path .fractional
    else
      match wordOf? x with
      | some i => .good i
      | none => .fault path .integerSize
  | .bool b => .good (if b then 1 else 0)
  | .str s =>
    match Numeral.integer s with
    | .value i => .good i
    | .tooLong => .fault path .integerSize
    | .none => .fault path .unclearInteger
  | _ => .fault path .notInteger

/-- The kinds as they are offered. -/
def kindChoices : String := "'string', 'date', 'number', 'boolean', 'array' or 'any'"

def readKind (path : List PathStep) : Json → Checked RuleKind
  | .str s =>
    match RuleKind.ofId? s with
    | some kind => .good kind
    | none => .fault path (.notOneOf kindChoices)
  | _ => .fault path (.notOneOf kindChoices)

def mandatory {α : Type} (members : Members) (key : String)
    (read : List PathStep → Json → Checked α) : Checked α :=
  match Table.get? key members with
  | some value => read [.key key] value
  | none => .fault [.key key] .missing

/-- A member with a value to fall back on. -/
def defaulted {α : Type} (members : Members) (key : String) (fallback : α)
    (read : List PathStep → Json → Checked α) : Checked α :=
  match Table.get? key members with
  | some value => read [.key key] value
  | none => .good fallback

/-- A member that may be absent or `null`. -/
def optional {α : Type} (members : Members) (key : String)
    (read : List PathStep → Json → Checked α) : Checked (Option α) :=
  match Table.get? key members with
  | none => .good none
  | some .null => .good none
  | some value => some <$> read [.key key] value

def readMembers (members : Members) : Checked Rule :=
  Rule.mk <$> mandatory members "name" readText
    <*> mandatory members "variant" readText
    <*> defaulted members "label" "" readText
    <*> mandatory members "kind" readKind
    <*> defaulted members "required" false readFlag
    <*> defaulted members "must_be_true" false readFlag
    <*> optional members "minimum" readBinary
    <*> optional members "maximum" readBinary
    <*> optional members "step" readBinary
    <*> optional members "min_length" readCount
    <*> optional members "max_length" readCount
    <*> optional members "min_items" readCount
    <*> optional members "max_items" readCount
    <*> optional members "pattern" readText

end Rule

end FormStudio
