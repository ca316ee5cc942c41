import FormStudio.Json.Display
import FormStudio.Json.Reader
import FormStudio.Text.Pieces

/-!
# Hosts in brackets

A host in brackets is an address of sixteen bytes, or of a version still to come. Brackets stand in
pairs around the whole host, and only a port follows them.

Main statements: `Host.check_of_unbracketed`, a host without brackets is never refused, and
`Host.brackets_of_check`, a host that is not refused has both brackets or neither.
-/
namespace FormStudio

/-- Why a host is refused. -/
inductive HostFault where
  /-- A bracket without its partner, or a text beside the brackets. -/
  | badBrackets
  /-- An address of a later version that is not written as one. -/
  | badVersion
  /-- An address of four bytes between brackets. -/
  | fourBytes
  | notAnAddress (text : String)
  deriving DecidableEq, Repr

def HostFault.message : HostFault → String
  | .badBrackets => "Invalid IPv6 URL"
  | .badVersion => "IPvFuture address is invalid"
  | .fourBytes => "An IPv4 address cannot be in brackets"
  | .notAnAddress text =>
    String.ofList (Json.quoted text) ++ " does not appear to be an IPv4 or IPv6 address"

namespace Host

/-! ## Addresses -/

/-- Whether a text is a number below 256 without leading zeros. -/
def isByte (cs : List Char) : Bool :=
  !cs.isEmpty && cs.length ≤ 3 && cs.all Char.isDigit && (cs == ['0'] || cs.head? != some '0') &&
    cs.foldl (fun n c => n * 10 + (c.toNat - '0'.toNat)) 0 < 256

/-- Whether a text is an address of four bytes. -/
def isFourBytes (cs : List Char) : Bool :=
  let bytes := Pieces.split '.' cs
  bytes.length == 4 && bytes.all isByte

/-- Whether a text is a pair of bytes in hexadecimal digits. -/
def isPair (cs : List Char) : Bool :=
  !cs.isEmpty && cs.length ≤ 4 && cs.all fun c => (Json.hexValue? c).isSome

/-- The pairs of an address, in front of the gap and behind it. The gap stands for one or more
pairs of zeros; at an end of the address it leaves nothing in front of it or behind it. -/
def aroundGap? (pairs : List (List Char)) : Option (List (List Char) × List (List Char)) :=
  ((pairs.drop 1).dropLast.findIdx? List.isEmpty).map fun i =>
    let before := pairs.take (i + 1)
    let after := pairs.drop (i + 2)
    (if before == [[]] then [] else before, if after == [[]] then [] else after)

/-- Pairs of bytes, where the last two may be written as an address of four bytes. -/
def pairs? (cs : List Char) : Option (List (List Char)) :=
  let pairs := Pieces.split ':' cs
  let last := pairs.getLastD []
  if !last.contains '.' then some pairs
  else if isFourBytes last then some (pairs.dropLast ++ [['0'], ['0']])
  else none

/-- Whether pairs are the sixteen bytes of an address. -/
def arePairs (pairs : List (List Char)) : Bool :=
  match aroundGap? pairs with
  | some (before, after) => before.length + after.length < 8 && (before ++ after).all isPair
  | none => pairs.length == 8 && pairs.all isPair

/-- An address without its zone; the zone is a text that is not empty. -/
def withoutZone? (cs : List Char) : Option (List Char) :=
  match Pieces.split '%' cs with
  | [address] => some address
  | [address, _ :: _] => some address
  | _ => none

/-- Whether a text is an address of sixteen bytes. -/
def isSixteenBytes (cs : List Char) : Bool :=
  ((withoutZone? cs).bind pairs?).any arePairs

/-- Whether a text is an address of a later version: the letter, its number, and something behind
a point. -/
def isLater (cs : List Char) : Bool :=
  let isDigit (c : Char) := (Json.hexValue? c).isSome
  let version := cs.drop 1
  !(version.takeWhile isDigit).isEmpty &&
    match version.dropWhile isDigit with
    | '.' :: _ :: _ => true
    | _ => false

/-! ## Hosts -/

/-- Refuses what cannot stand in brackets. -/
def checkAddress (cs : List Char) : Except HostFault Unit :=
  if cs.head? = some 'v' then if isLater cs then .ok () else .error .badVersion
  else if isFourBytes cs then .error .fourBytes
  else if isSixteenBytes cs then .ok ()
  else .error (.notAnAddress (String.ofList cs))

/-- A host without the name of a user in front of it. -/
def withoutUser (cs : List Char) : List Char := (cs.reverse.takeWhile (· != '@')).reverse

/-- Refuses a host with faulty brackets. A host with brackets in the name of its user only is read
as an address. -/
def check (cs : List Char) : Except HostFault Unit :=
  if cs.contains '[' != cs.contains ']' then .error .badBrackets
  else if !cs.contains '[' then .ok ()
  else
    let host := withoutUser cs
    if !host.contains '[' then checkAddress (Pieces.cut ':' host).1
    else
      let (before, inside) := Pieces.cut '[' host
      let (address, port) := Pieces.cut ']' inside
      if !before.isEmpty then .error .badBrackets
      else if port.isEmpty || port.head? = some ':' then checkAddress address
      else .error .badBrackets

theorem check_of_unbracketed {cs : List Char} (hopen : '[' ∉ cs) (hclose : ']' ∉ cs) :
    check cs = .ok () := by
  simp [check, hopen, hclose]

theorem brackets_of_check {cs : List Char} (h : check cs = .ok ()) : '[' ∈ cs ↔ ']' ∈ cs := by
  unfold check at h
  split at h
  · cases h
  · rename_i hsame
    simp only [bne_iff_ne, ne_eq, Decidable.not_not] at hsame
    rw [← List.contains_iff_mem, ← List.contains_iff_mem, hsame]

end Host

end FormStudio
