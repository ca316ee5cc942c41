import FormStudio.Json.Reader
import FormStudio.Text.Utf8

/-!
# Percent encoding

Decoding of `%41` in paths and queries. A percent sign that two hexadecimal digits do not follow
stands for itself. The bytes of an ASCII run are read together as lenient UTF-8.

Main statement: `Percent.bytes_of_plain`, text without percent signs is kept.
-/
namespace FormStudio

namespace Percent

/-- The bytes of an ASCII run. -/
def bytes : List Char → List UInt8
  | '%' :: a :: b :: rest =>
    match Json.hexValue? a, Json.hexValue? b with
    | some high, some low => UInt8.ofNat (high * 16 + low) :: bytes rest
    | _, _ => UInt8.ofNat '%'.toNat :: bytes (a :: b :: rest)
  | c :: rest => UInt8.ofNat c.toNat :: bytes rest
  | [] => []

def isAscii (c : Char) : Bool := c.toNat < 0x80

/-- Splits a text into runs of ASCII and runs of other characters. -/
def runs (cs : List Char) : List (List Char) := cs.splitBy fun a b => isAscii a == isAscii b

def decodeRun (run : List Char) : List Char :=
  if run.all isAscii then Utf8.decodeLossy (bytes run) else run

/-- The text that a percent-encoded text stands for. -/
def decode (s : String) : String := String.ofList ((runs s.toList).flatMap decodeRun)

/-- The text of a query part, in which `+` stands for a blank. -/
def decodeQuery (s : String) : String :=
  decode (String.ofList (s.toList.map fun c => if c = '+' then ' ' else c))

theorem bytes_of_plain {cs : List Char} (h : '%' ∉ cs) :
    bytes cs = cs.map fun c => UInt8.ofNat c.toNat := by
  induction cs with
  | nil => rfl
  | cons c rest ih =>
    simp only [List.mem_cons, not_or] at h
    unfold bytes
    split
    · simp_all
    · simp_all
    · simp_all

end Percent

end FormStudio
