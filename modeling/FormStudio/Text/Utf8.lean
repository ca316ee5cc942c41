/-!
# UTF-8

Reading bytes as text. A sequence is a lead byte and the continuation bytes it calls for; a part
that is no sequence is the longest beginning of one, or a single byte. A strict reading refuses such
parts, a lenient one puts the replacement character for each.

Main statement: `Utf8.continuation_length`, reading on never gives bytes back.
-/
namespace FormStudio

namespace Utf8

/-- The bits of a lead byte and the range of each byte that follows it; none for a byte that leads
no sequence. -/
def lead? (b : Nat) : Option (Nat × List (Nat × Nat)) :=
  let any := (0x80, 0xbf)
  if b < 0x80 then some (b, [])
  else if b < 0xc2 then none
  else if b < 0xe0 then some (b - 0xc0, [any])
  else if b = 0xe0 then some (0, [(0xa0, 0xbf), any])
  else if b = 0xed then some (0xd, [(0x80, 0x9f), any])
  else if b < 0xf0 then some (b - 0xe0, [any, any])
  else if b = 0xf0 then some (0, [(0x90, 0xbf), any, any])
  else if b < 0xf4 then some (b - 0xf0, [any, any, any])
  else if b = 0xf4 then some (4, [(0x80, 0x8f), any, any])
  else none

/-- Reads the bytes that a lead byte calls for, up to the first that is out of its range. -/
def continuation (bits : Nat) : List (Nat × Nat) → List UInt8 → Option Nat × List UInt8
  | [], rest => (some bits, rest)
  | _ :: _, [] => (none, [])
  | (low, high) :: ranges, b :: rest =>
    -- a byte out of range is left: it may lead the next character
    if low ≤ b.toNat ∧ b.toNat ≤ high then
      continuation (bits * 64 + (b.toNat - 0x80)) ranges rest
    else (none, b :: rest)

/-- Reads parts of a byte string, at most `fuel` of them: characters, and none for what is no
sequence. -/
def scan : Nat → List UInt8 → List (Option Char)
  | 0, _ => []
  | _, [] => []
  | fuel + 1, b :: rest =>
    match lead? b.toNat with
    | none => none :: scan fuel rest
    | some (bits, ranges) =>
      let (code, rest) := continuation bits ranges rest
      code.map Char.ofNat :: scan fuel rest

/-- The parts of a byte string. -/
def parts (bytes : List UInt8) : List (Option Char) := scan bytes.length bytes

/-- The text of a byte string, if every part is a character. -/
def decode? (bytes : List UInt8) : Option String := ((parts bytes).mapM id).map String.ofList

/-- The text of a byte string, with the replacement character where it has none. -/
def decodeLossy (bytes : List UInt8) : List Char := (parts bytes).map fun c => c.getD '\ufffd'

/-- The bytes of a text. -/
def encode (s : String) : List UInt8 := s.toUTF8.toList

theorem continuation_length (bits : Nat) (ranges : List (Nat × Nat)) (bytes : List UInt8) :
    (continuation bits ranges bytes).2.length ≤ bytes.length := by
  fun_induction continuation bits ranges bytes with
  | case1 => simp
  | case2 => simp
  | case3 bits low high ranges b rest _ ih => simp only [List.length_cons]; omega
  | case4 => simp

end Utf8

end FormStudio
