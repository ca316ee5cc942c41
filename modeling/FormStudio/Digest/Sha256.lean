import FormStudio.Number.Power
import FormStudio.Text.Utf8

/-!
# SHA-256

The 256-bit digest of a byte string: the bytes are padded to blocks of sixty-four, and each block
stirs eight words of thirty-two bits.

Main statement: `Sha256.length_padding`, a padded message is made of whole blocks.
-/
namespace FormStudio

namespace Sha256

/-- The words a digest starts from. -/
def start : List UInt32 := [
  0x6a09e667, 0xbb67ae85, 0x3c6ef372, 0xa54ff53a, 0x510e527f, 0x9b05688c,
  0x1f83d9ab, 0x5be0cd19]

def roundConstants : List UInt32 := [
  0x428a2f98, 0x71374491, 0xb5c0fbcf, 0xe9b5dba5, 0x3956c25b, 0x59f111f1,
  0x923f82a4, 0xab1c5ed5, 0xd807aa98, 0x12835b01, 0x243185be, 0x550c7dc3,
  0x72be5d74, 0x80deb1fe, 0x9bdc06a7, 0xc19bf174, 0xe49b69c1, 0xefbe4786,
  0x0fc19dc6, 0x240ca1cc, 0x2de92c6f, 0x4a7484aa, 0x5cb0a9dc, 0x76f988da,
  0x983e5152, 0xa831c66d, 0xb00327c8, 0xbf597fc7, 0xc6e00bf3, 0xd5a79147,
  0x06ca6351, 0x14292967, 0x27b70a85, 0x2e1b2138, 0x4d2c6dfc, 0x53380d13,
  0x650a7354, 0x766a0abb, 0x81c2c92e, 0x92722c85, 0xa2bfe8a1, 0xa81a664b,
  0xc24b8b70, 0xc76c51a3, 0xd192e819, 0xd6990624, 0xf40e3585, 0x106aa070,
  0x19a4c116, 0x1e376c08, 0x2748774c, 0x34b0bcb5, 0x391c0cb3, 0x4ed8aa4a,
  0x5b9cca4f, 0x682e6ff3, 0x748f82ee, 0x78a5636f, 0x84c87814, 0x8cc70208,
  0x90befffa, 0xa4506ceb, 0xbef9a3f7, 0xc67178f2]

/-- Rotation to the right, by less than the width of a word. -/
def rotate (n : UInt32) (x : UInt32) : UInt32 := (x >>> n) ||| (x <<< (32 - n))

/-- What is written behind a message of `length` bytes: a mark, zeros, and the count of bits. -/
def padding (length : Nat) : List UInt8 :=
  0x80 :: List.replicate ((119 - length % 64) % 64) 0 ++
    (List.range 8).map fun i => UInt8.ofNat (length * 8 / 256 ^ (7 - i))

/-- The big-endian words of a byte string; bytes that fill no word are left out. -/
def words : List UInt8 → List UInt32
  | a :: b :: c :: d :: rest =>
    ((a.toUInt32 <<< 24) ||| (b.toUInt32 <<< 16) ||| (c.toUInt32 <<< 8) ||| d.toUInt32) ::
      words rest
  | _ => []

/-- The sixty-four words of a block of sixteen. -/
def schedule (block : List UInt32) : Array UInt32 :=
  (List.range 48).foldl (fun w i =>
    let a := w.getD (i + 1) 0
    let b := w.getD (i + 14) 0
    let s0 := rotate 7 a ^^^ rotate 18 a ^^^ (a >>> 3)
    let s1 := rotate 17 b ^^^ rotate 19 b ^^^ (b >>> 10)
    w.push (w.getD i 0 + s0 + w.getD (i + 9) 0 + s1)) block.toArray

/-- The eight words under work. -/
structure Words where
  (a b c d e f g h : UInt32)

def round (s : Words) (k w : UInt32) : Words :=
  let s1 := rotate 6 s.e ^^^ rotate 11 s.e ^^^ rotate 25 s.e
  let choice := (s.e &&& s.f) ^^^ (~~~s.e &&& s.g)
  let t1 := s.h + s1 + choice + k + w
  let s0 := rotate 2 s.a ^^^ rotate 13 s.a ^^^ rotate 22 s.a
  let majority := (s.a &&& s.b) ^^^ (s.a &&& s.c) ^^^ (s.b &&& s.c)
  ⟨t1 + (s0 + majority), s.a, s.b, s.c, s.d + t1, s.e, s.f, s.g⟩

/-- Stirs one block into the digest words. -/
def compress (digest block : List UInt32) : List UInt32 :=
  let word (i : Nat) := digest.getD i 0
  let first : Words := ⟨word 0, word 1, word 2, word 3, word 4, word 5, word 6, word 7⟩
  let last := (roundConstants.zip (schedule block).toList).foldl (fun s (k, w) => round s k w) first
  List.zipWith (· + ·) digest
    [last.a, last.b, last.c, last.d, last.e, last.f, last.g, last.h]

/-- Stirs all blocks, at most `fuel` of them. -/
def stir : Nat → List UInt32 → List UInt32 → List UInt32
  | fuel + 1, digest, w :: ws => stir fuel (compress digest ((w :: ws).take 16)) ((w :: ws).drop 16)
  | _, digest, _ => digest

/-- A word in eight hexadecimal digits. -/
def wordText (w : UInt32) : List Char :=
  (List.range 8).map fun i => Nat.digitChar (w.toNat / 16 ^ (7 - i) % 16)

/-- The digest of a byte string, in hexadecimal digits. -/
def hex (bytes : List UInt8) : String :=
  let message := words (bytes ++ padding bytes.length)
  String.ofList ((stir message.length start message).flatMap wordText)

def ofText (s : String) : String := hex (Utf8.encode s)

theorem length_padding (n : Nat) : (n + (padding n).length) % 64 = 0 := by
  simp only [padding, List.length_cons, List.length_append, List.length_replicate, List.length_map,
    List.length_range]
  omega

end Sha256

end FormStudio
