import FormStudio.Form.Basic

/-!
# Names for new fields

A new field is called `name_` and ten digits. The digits come from a source, ten for each candidate;
a candidate that is taken is dropped and the next one drawn.

Main statement: `DigitSource.freshName_not_mem`, a name that is handed out is not taken.
-/
namespace FormStudio

/-- A stream of digits: those at hand, and then the numbers after a counter, ten digits each. -/
structure DigitSource where
  pending : List Char
  counter : Nat
  deriving DecidableEq, Repr

namespace DigitSource

/-- A source that begins with given characters. -/
def ofText (digits : String) : DigitSource := ⟨digits.toList, 0⟩

/-- How many digits a candidate takes. -/
def width : Nat := 10

/-- A number in ten digits, with zeros in front. -/
def block (n : Nat) : List Char :=
  let digits := Nat.toDigits 10 n
  List.replicate (width - digits.length) '0' ++ digits

def draw (source : DigitSource) : List Char × DigitSource :=
  if width ≤ source.pending.length then
    (source.pending.take width, ⟨source.pending.drop width, source.counter⟩)
  else
    let digits := source.pending ++ block (source.counter + 1)
    (digits.take width, ⟨digits.drop width, source.counter + 1⟩)

def nameOf (digits : List Char) : String := "name_" ++ String.ofList digits

/-- Draws candidates until one is not taken, at most `fuel` of them. -/
def search (taken : List String) : Nat → DigitSource → Option String × DigitSource
  | 0, source => (none, source)
  | fuel + 1, source =>
    let (digits, source) := source.draw
    if taken.contains (nameOf digits) then search taken fuel source
    else (some (nameOf digits), source)

/-- A name that is not taken. The digits at hand and the taken names bound the candidates that can
fail, since counted candidates do not repeat; where none is left in that bound there is no name. -/
def freshName (taken : List String) (source : DigitSource) : Option String × DigitSource :=
  search taken (source.pending.length + taken.length + 2) source

theorem search_not_mem {taken : List String} {fuel : Nat} {source : DigitSource} {name : String}
    (h : (search taken fuel source).1 = some name) : name ∉ taken := by
  induction fuel generalizing source with
  | zero => simp [search] at h
  | succ fuel ih =>
    simp only [search] at h
    split at h
    · exact ih h
    · rename_i hc
      cases h
      simpa using hc

theorem freshName_not_mem {taken : List String} {source : DigitSource} {name : String}
    (h : (freshName taken source).1 = some name) : name ∉ taken := search_not_mem h

end DigitSource

end FormStudio
