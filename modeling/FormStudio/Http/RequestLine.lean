import FormStudio.Json.Display
import FormStudio.Json.Reader
import FormStudio.Text.Pieces

/-!
# Request lines

The first line of a request names its method, its target and a version, with blanks between them. A
line of two words has no version, and asks for a target only; a line without words is no request.

Main statement: `RequestLine.read_of_words`, a method, a target and a version before the second one
are read back.
-/
namespace FormStudio

/-- What the first line of a request says. -/
structure RequestLine where
  method : String
  target : String
  deriving DecidableEq, Repr

/-- Why a first line is not understood. -/
inductive LineFault where
  | tooLong
  /-- The last of three words or more is no version. -/
  | badVersion (word : String)
  /-- The version is not served, given by its numbers. -/
  | unservedVersion (numbers : String)
  /-- The line has not two or three words. -/
  | badForm (line : String)
  /-- Two words, of which the first is no request for a target. -/
  | badType (method : String)
  deriving DecidableEq, Repr

namespace LineFault

def status : LineFault → Nat
  | .tooLong => 414
  | .badVersion _ => 400
  | .unservedVersion _ => 505
  | .badForm _ => 400
  | .badType _ => 400

def message : LineFault → String
  | .tooLong => "Request-URI Too Long"
  | .badVersion word => "Bad request version (" ++ String.ofList (Json.quoted word) ++ ")"
  | .unservedVersion numbers => "Invalid HTTP version (" ++ numbers ++ ")"
  | .badForm line => "Bad request syntax (" ++ String.ofList (Json.quoted line) ++ ")"
  | .badType method => "Bad HTTP/0.9 request type (" ++ String.ofList (Json.quoted method) ++ ")"

/-- What the status of a fault means. -/
def explanation : LineFault → String
  | .tooLong => "URI is too long"
  | .badVersion _ => "Bad request syntax or unsupported method"
  | .unservedVersion _ => "Cannot fulfill request"
  | .badForm _ => "Bad request syntax or unsupported method"
  | .badType _ => "Bad request syntax or unsupported method"

end LineFault

namespace RequestLine

/-- The most characters of a line, with the two that end it. -/
def maxLength : Nat := 65536

/-- What a version begins with. -/
def versionName : String := "HTTP/"

/-- Whether a part of a version is a number, of not too many digits. -/
def isVersionNumber (cs : List Char) : Bool :=
  !cs.isEmpty && decide (cs.length ≤ 10) && cs.all Char.isDigit

/-- Checks a version: its name, and two numbers with a point between them, the first below two. -/
def checkVersion (word : List Char) : Except LineFault Unit :=
  let numbers := word.drop versionName.length
  match Pieces.split '.' numbers with
  | [major, minor] =>
    if versionName.toList.isPrefixOf word && isVersionNumber major && isVersionNumber minor then
      if Json.ofDigits major < 2 then .ok ()
      else .error (.unservedVersion (String.ofList numbers))
    else .error (.badVersion (String.ofList word))
  | _ => .error (.badVersion (String.ofList word))

def ofWords (line : String) : List (List Char) → Except LineFault (Option RequestLine)
  | [] => .ok none
  -- a line without a version is of the oldest form, which only fetches
  | [method, target] =>
    let method := String.ofList method
    if method = "GET" then .ok (some ⟨method, String.ofList target⟩) else .error (.badType method)
  | method :: target :: version :: rest => do
    -- the last word is looked at before the words are counted
    checkVersion ((version :: rest).getLast (List.cons_ne_nil version rest))
    if rest.isEmpty then .ok (some ⟨String.ofList method, String.ofList target⟩)
    else .error (.badForm line)
  | _ => .error (.badForm line)

/-- Reads a line; one of blanks alone is no request. -/
def read (line : String) : Except LineFault (Option RequestLine) :=
  if line.length + 2 > maxLength then .error .tooLong
  else ofWords line (Pieces.words line.toList)

/-- The line for three words. -/
def write (method target version : List Char) : String :=
  String.ofList (method ++ ' ' :: target ++ ' ' :: version)

/-- Whether a text is a word: there is something, and none of it is blank. -/
def IsWord (cs : List Char) : Prop := cs ≠ [] ∧ ∀ c ∈ cs, isBlank c = false

theorem words_append {word rest : List Char} (h : IsWord word) :
    Pieces.words (word ++ ' ' :: rest) = word :: Pieces.words rest := by
  obtain ⟨hne, hword⟩ := h
  cases word with
  | nil => exact absurd rfl hne
  | cons c cs => exact Pieces.words_cons_append hword rfl

theorem words_eq {word : List Char} (h : IsWord word) : Pieces.words word = [word] := by
  obtain ⟨hne, hword⟩ := h
  cases word with
  | nil => exact absurd rfl hne
  | cons c cs => exact Pieces.words_eq_singleton hword

theorem read_of_words {method target version : List Char} (hmethod : IsWord method)
    (htarget : IsWord target) (hversion : IsWord version) (hserved : checkVersion version = .ok ())
    (hlength : (write method target version).length + 2 ≤ maxLength) :
    read (write method target version) =
      .ok (some ⟨String.ofList method, String.ofList target⟩) := by
  have hwords : Pieces.words (write method target version).toList =
      [method, target, version] := by
    simp only [write, String.toList_ofList, List.append_assoc, List.cons_append]
    rw [words_append hmethod, words_append htarget, words_eq hversion]
  rw [read, if_neg (by omega), hwords, ofWords, List.getLast_singleton, hserved]
  rfl

end RequestLine

end FormStudio
