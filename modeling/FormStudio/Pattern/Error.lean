import FormStudio.Pattern.Basic
import FormStudio.Text.Integer

/-!
# Faults of patterns

Why a written pattern cannot be used. Most faults are malformations with a position; the sentence
then names the position, and line and column too where the pattern has several lines.
-/
namespace FormStudio

/-- What is malformed in a written pattern. -/
inductive PatternFault where
  /-- A backslash with nothing behind it. -/
  | loneBackslash
  | badEscape (escape : String)
  /-- An escape with too few digits. -/
  | incompleteEscape (escape : String)
  | octalTooLarge (escape : String)
  | undefinedCharacter (name : String)
  /-- Something that has to follow does not. -/
  | missing (what : String)
  | unterminatedName (mark : Char)
  | unterminatedGroup
  | unterminatedComment
  | unterminatedSet
  | unexpectedEnd
  /-- A closing parenthesis without an opening one. -/
  | unbalanced
  /-- A range whose ends are no single characters or out of order. -/
  | badRange (first last : String)
  | nothingToRepeat
  | repeatedTwice
  /-- A repetition with more times at least than at most. -/
  | boundsReversed
  /-- A reference to a group from inside it. -/
  | openGroup
  /-- A reference to a group that the same look behind defines. -/
  | groupBehind
  | noSuchGroup (number : Nat)
  | groupZero
  | badGroupName (name : String)
  | unknownGroup (name : String)
  | nameTaken (name : String) (number earlier : Nat)
  | unknownExtension (text : String)
  | thirdBranch
  /-- Flags for the whole pattern behind its start. -/
  | lateFlags
  | unknownFlag
  /-- The flag for bytes. -/
  | byteFlag
  | conflictingFlags
  | alphabetFlagOff
  | wholeFlagOn
  | wholeFlagOff
  | flagOnAndOff
  deriving DecidableEq, Repr

/-- The sentence for a malformation. -/
def PatternFault.message : PatternFault → String
  | .loneBackslash => "bad escape (end of pattern)"
  | .badEscape escape => "bad escape " ++ escape
  | .incompleteEscape escape => "incomplete escape " ++ escape
  | .octalTooLarge escape => "octal escape value " ++ escape ++ " outside of range 0-0o377"
  | .undefinedCharacter name => "undefined character name " ++ String.ofList (Json.quoted name)
  | .missing what => "missing " ++ what
  | .unterminatedName mark => "missing " ++ mark.toString ++ ", unterminated name"
  | .unterminatedGroup => "missing ), unterminated subpattern"
  | .unterminatedComment => "missing ), unterminated comment"
  | .unterminatedSet => "unterminated character set"
  | .unexpectedEnd => "unexpected end of pattern"
  | .unbalanced => "unbalanced parenthesis"
  | .badRange first last => "bad character range " ++ first ++ "-" ++ last
  | .nothingToRepeat => "nothing to repeat"
  | .repeatedTwice => "multiple repeat"
  | .boundsReversed => "min repeat greater than max repeat"
  | .openGroup => "cannot refer to an open group"
  | .groupBehind => "cannot refer to group defined in the same lookbehind subpattern"
  | .noSuchGroup number => s!"invalid group reference {number}"
  | .groupZero => "bad group number"
  | .badGroupName name => "bad character in group name " ++ String.ofList (Json.quoted name)
  | .unknownGroup name => "unknown group name " ++ String.ofList (Json.quoted name)
  | .nameTaken name number earlier =>
    "redefinition of group name " ++ String.ofList (Json.quoted name) ++
      s!" as group {number}; was group {earlier}"
  | .unknownExtension text => "unknown extension ?" ++ text
  | .thirdBranch => "conditional backref with more than two branches"
  | .lateFlags => "global flags not at the start of the expression"
  | .unknownFlag => "unknown flag"
  | .byteFlag => "bad inline flags: cannot use 'L' flag with a str pattern"
  | .conflictingFlags => "bad inline flags: flags 'a', 'u' and 'L' are incompatible"
  | .alphabetFlagOff => "bad inline flags: cannot turn off flags 'a', 'u' and 'L'"
  | .wholeFlagOn => "bad inline flags: cannot turn on global flag"
  | .wholeFlagOff => "bad inline flags: cannot turn off global flag"
  | .flagOnAndOff => "bad inline flags: flag turned on and off"

/-- Why a written pattern cannot be used. -/
inductive PatternError where
  | malformed (fault : PatternFault) (written : String) (position : Nat)
  /-- A condition on what stands before fits texts of several lengths. -/
  | severalWidths
  /-- A condition on what stands before reaches too far. -/
  | tooFarBehind
  /-- A repetition in a pattern that must have none. -/
  | repetition (preference : Preference)
  | tooManyTimes
  /-- An escape for a code point past every machine number. -/
  | codeTooLarge
  /-- The whole pattern speaks of ASCII alone and of every script. -/
  | conflictingAlphabets
  /-- A number of a pattern has more digits than are read. -/
  | tooManyDigits (digits : Nat)
  deriving DecidableEq, Repr

namespace PatternError

def placeText (written : String) (position : Nat) : String :=
  let before := written.toList.take position
  let line := before.count '\n' + 1
  let column := position - (before.length - (before.reverse.takeWhile (· != '\n')).length) + 1
  s!" at position {position}" ++
    if written.toList.contains '\n' then
      s!" (line {line}, column {column})"
    else ""

/-- The name of a repetition by how it is tried. -/
def repetitionName : Preference → String
  | .most => "MAX_REPEAT"
  | .fewest => "MIN_REPEAT"
  | .possessive => "POSSESSIVE_REPEAT"

def message : PatternError → String
  | .malformed fault written position => fault.message ++ placeText written position
  | .severalWidths => "look-behind requires fixed-width pattern"
  | .tooFarBehind => "looks too much behind"
  | .repetition preference =>
    "internal: unsupported template operator " ++ repetitionName preference
  | .tooManyTimes => "the repetition number is too large"
  | .codeTooLarge => "Python int too large to convert to C int"
  | .conflictingAlphabets => "ASCII and UNICODE flags are incompatible"
  | .tooManyDigits digits => (IntegerFault.tooLong digits).message

end PatternError

end FormStudio
