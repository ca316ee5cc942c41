import FormStudio.Code.Literal
import FormStudio.Proofs.Json.Numeral
import FormStudio.Proofs.Json.Text
import FormStudio.Proofs.Number.Division

/-!
# What the literals in a script denote

A string literal stands for the text it was written for (`Script.text?_textLiteral`). A numeral
stands for its decimal value, whichever number it was written for (`Script.number?_literal`): digits
alone for an integer, and a numeral with a fraction or an exponent for the binary number nearest to
it. A whole binary number becomes an integer on the way. Bounds do not notice
(`Number.place?_written`), and a step divides as before where the number that is divided is moderate
(`Number.isMultipleOf?_written`).
-/
namespace FormStudio

namespace Script

/-- A sign and the magnitude behind it. -/
def sign : List Char → Bool × List Char
  | '-' :: rest => (true, rest)
  | cs => (false, cs)

/-- The number that a numeral denotes. Digits alone are an integer of any size; every other numeral
is the number that it is in data. -/
def number? (text : String) : Option Number :=
  let (negative, magnitude) := sign text.toList
  if magnitude ≠ [] ∧ magnitude.all Char.isDigit = true then
    some (.int (if negative then -(Json.ofDigits magnitude : Int) else Json.ofDigits magnitude))
  else
    match Json.readNumber .finite negative magnitude with
    | .ok (.num n, []) => some n
    | _ => none

/-- The text that a string literal denotes. -/
def text? (literal : String) : Option String :=
  match literal.toList with
  | '"' :: rest =>
    match Json.scanString Json.standardHalves rest with
    | some (s, []) => some s
    | _ => none
  | _ => none

theorem text?_textLiteral (s : String) : text? (textLiteral s) = some s := by
  have hlist : (textLiteral s).toList =
      '"' :: (s.toList.flatMap (Json.escapeChar false) ++ ['"']) := by
    rw [textLiteral, String.toList_ofList, Json.quote, List.cons_append]
  rw [text?, hlist]
  simp only [Json.scanString_quote]

theorem sign_signed {negative : Bool} {c : Char} {more : List Char} (h : c.isDigit = true) :
    sign (Binary64.signed negative (c :: more)) = (negative, c :: more) := by
  cases negative with
  | true => rfl
  | false =>
    unfold sign Binary64.signed
    split
    · next heq =>
      obtain ⟨rfl, -⟩ := List.cons.inj heq
      exact absurd h (by decide)
    · rfl

end Script

namespace Json

/-- A numeral of a binary number has a mark in it. -/
theorem NumberParts.IsBinary.not_all_isDigit {p : NumberParts} (hp : p.IsBinary) :
    p.text.all Char.isDigit = false := by
  rw [List.all_eq_false, NumberParts.text]
  by_cases hfraction : p.fraction = []
  · obtain ⟨e, he⟩ := Option.ne_none_iff_exists'.1 (hp.marked hfraction)
    exact ⟨'e', by simp [hfraction, he, exponentText], by decide⟩
  · exact ⟨'.', by simp [hfraction], by decide⟩

end Json

namespace Script

theorem number?_int (i : Int) : number? (toString i) = some (.int i) := by
  have htext := Json.text_int i
  obtain ⟨c, more, hc⟩ :=
    List.exists_cons_of_ne_nil (Nat.toDigits_ne_nil (b := 10) (n := i.natAbs))
  have hdigits := Json.allDigits_toDigits i.natAbs
  have hvalue := Json.ofDigits_toDigits i.natAbs
  have hsigned : (if i < 0 then -(i.natAbs : Int) else i.natAbs) = i := by omega
  rw [hc] at htext hdigits hvalue
  show number? (toString i) = _
  unfold number?
  rw [show (toString i).toList = _ from htext, sign_signed (hdigits c List.mem_cons_self)]
  dsimp only
  rw [if_pos ⟨List.cons_ne_nil _ _, List.all_eq_true.2 hdigits⟩, hvalue]
  simp only [decide_eq_true_eq, hsigned]

theorem number?_text {x : Binary64} (h : x.isFinite = true) :
    number? (String.ofList (Number.float x).text) = some (.float x) := by
  cases x with
  | finite negative mantissa exponent canonical =>
    obtain ⟨p, htext, hp, hvalue⟩ :=
      Json.exists_parts_fullNumeral negative mantissa exponent canonical
    obtain ⟨c, more, hc⟩ := List.exists_cons_of_ne_nil hp.whole.ne_nil
    have hdigit := hp.whole.digits c (hc ▸ List.mem_cons_self)
    obtain ⟨rest, hrest⟩ : ∃ rest, p.text = c :: rest := ⟨_, by rw [Json.NumberParts.text, hc]; rfl⟩
    have hread := Json.readNumber_text .finite negative hp Json.endsNumber_nil
    have hmark := hp.not_all_isDigit
    rw [hrest] at htext hread hmark
    unfold number?
    rw [String.toList_ofList, show (Number.float _).text = _ from htext, sign_signed hdigit]
    dsimp only
    rw [if_neg (by rw [hmark]; simp), ← List.append_nil (c :: rest), hread, hvalue]
    rfl
  | infinite negative => cases h
  | nan => cases h

end Script

namespace Number

/-- What becomes of a number in a script: a whole binary number turns into an integer. -/
def written (n : Number) : Number :=
  match n.wholeValue? with
  | some i => .int i
  | none => n

theorem written_whole {x : Binary64} (h : x.isWhole = true) :
    (float x).written = .int x.truncate := by
  simp [written, wholeValue?, h]

theorem written_of_not_isWhole {x : Binary64} (h : x.isWhole = false) :
    (float x).written = .float x := by
  simp [written, wholeValue?, h]

/-- **The literal of a number** denotes the number, or the integer with its value. -/
theorem number?_literal {n : Number} (h : n.isFinite = true) :
    Script.number? n.literal = some n.written := by
  cases n with
  | int i =>
    rw [literal_int]
    exact Script.number?_int i
  | float x =>
    cases hwhole : x.isWhole with
    | false =>
      rw [written_of_not_isWhole hwhole, literal, wholeValue?, hwhole]
      exact Script.number?_text h
    | true =>
      rw [written_whole hwhole, literal, wholeValue?, hwhole]
      exact Script.number?_int x.truncate

theorem place?_float {x : Binary64} (h : x.isFinite = true) :
    (float x).place? = some (.point x.units) := by
  cases x with
  | finite => rfl
  | infinite => cases h
  | nan => cases h

/-- A number lies where it is written to lie. -/
theorem place?_written {n : Number} (h : n.isFinite = true) : n.written.place? = n.place? := by
  cases n with
  | int i => rfl
  | float x =>
    cases hwhole : x.isWhole with
    | false => rw [written_of_not_isWhole hwhole]
    | true =>
      rw [written_whole hwhole, place?, Binary64.truncate_mul_binaryUnit hwhole, place?_float h]

theorem written_le_iff {n other : Number} (h : n.isFinite = true) :
    n.written.le other = n.le other ∧ other.le n.written = other.le n := by
  simp only [le, place?_written h, and_self]

/-- A step divides as it is written where it is no whole binary number, and a moderate number in
any case. -/
theorem isMultipleOf?_written {n step : Number} (hzero : step.isZero = false)
    (h : (∃ x, step = .float x ∧ x.isWhole = true) → n.IsModerate) :
    n.isMultipleOf? step.written = n.isMultipleOf? step := by
  cases step with
  | int i => rfl
  | float x =>
    cases hwhole : x.isWhole with
    | false => rw [written_of_not_isWhole hwhole]
    | true =>
      rw [written_whole hwhole]
      refine (isMultipleOf?_whole (h ⟨x, rfl, hwhole⟩) hwhole fun hunits => ?_).symm
      rw [isZero, place?_float (isFinite_of_isWhole hwhole), hunits] at hzero
      cases hzero

end Number

end FormStudio
