import FormStudio.Proofs.Json.Blank
import FormStudio.Proofs.Number.Decimal

/-!
# Integers that are too long

Reading stops at the first fault. Where that is an integer of too many digits, so many digits stand
in the text one after the other (`Json.hasLongRun_of_read`). There need not be a fault in every text
with such a run: it may stand within a string, behind a point, or behind what is malformed. A text
that is nothing but a long integer has this fault (`Json.read_toDigits_of_long`).
-/
namespace FormStudio

namespace Json

variable {dialect : Dialect} {cs rest : List Char} {digits fuel : Nat}

/-- Whether so many digits stand in a text one after the other, and are more than an integer may
have. -/
def HasLongRun (digits : Nat) (cs : List Char) : Prop :=
  integerDigitLimit < digits ∧ ∃ ds, ds <:+: cs ∧ AllDigits ds ∧ ds.length = digits

theorem HasLongRun.of_suffix (h : HasLongRun digits rest) (hrest : rest <:+ cs) :
    HasLongRun digits cs := by
  obtain ⟨hlimit, ds, hds, hrun⟩ := h
  exact ⟨hlimit, ds, hds.trans hrest.isInfix, hrun⟩

theorem HasLongRun.of_endsIn (h : HasLongRun digits rest) (hrest : EndsIn cs rest) :
    HasLongRun digits cs := h.of_suffix hrest.suffix

theorem HasLongRun.of_skipSpace (h : HasLongRun digits (skipSpace cs)) : HasLongRun digits cs :=
  h.of_suffix (skipSpace_suffix cs)

/-! ## Where a fault stands -/

theorem ofBinary_ne_longInteger (x : Binary64) (cs : List Char) :
    ofBinary dialect x cs ≠ .error (.longInteger digits) := by
  unfold ofBinary
  split <;> simp

theorem hasLongRun_of_readNumber {negative : Bool}
    (h : readNumber dialect negative cs = .error (.longInteger digits)) : HasLongRun digits cs := by
  have hwhole := wholeDigits_fst_append cs
  have hdigits := allDigits_wholeDigits cs
  unfold readNumber at h
  split at h
  · cases h
  next whole afterWhole hne htake =>
  rw [htake] at hwhole hdigits
  dsimp only at h hwhole hdigits
  split at h
  · split at h
    · next hlong =>
      cases h
      exact ⟨hlong, whole, ⟨[], afterWhole, hwhole⟩, hdigits, rfl⟩
    · cases h
  · exact absurd h (ofBinary_ne_longInteger _ _)

theorem hasLongRun_of_readScalar (h : readScalar dialect cs = .error (.longInteger digits)) :
    HasLongRun digits cs := by
  unfold readScalar at h
  split at h
  · cases h
  · cases h
  · cases h
  · exact absurd h (ofBinary_ne_longInteger _ _)
  · exact absurd h (ofBinary_ne_longInteger _ _)
  · exact absurd h (ofBinary_ne_longInteger _ _)
  · exact (hasLongRun_of_readNumber h).of_suffix (List.suffix_cons '-' _)
  · exact hasLongRun_of_readNumber h

/-- What is wrong behind a string is no fault of the string. -/
theorem readString_eq_longInteger_iff {α : Type} {halves : Nat}
    {next : String → List Char → Except ReadError α} :
    readString halves cs next = .error (.longInteger digits) ↔
      ∃ s rest, scanString halves cs = some (s, rest) ∧
        next s rest = .error (.longInteger digits) := by
  unfold readString
  cases scanString halves cs with
  | none => simp
  | some found =>
    constructor
    · exact fun h => ⟨found.1, found.2, rfl, h⟩
    · rintro ⟨s, rest, hfound, h⟩
      cases hfound
      exact h

mutual

/-- **Where an integer is too long to be read**, its digits stand in the text. -/
theorem hasLongRun_of_readValue {fuel : Nat} {cs : List Char}
    (h : readValue dialect fuel cs = .error (.longInteger digits)) : HasLongRun digits cs := by
  match fuel with
  | 0 => cases h
  | fuel + 1 =>
    unfold readValue at h
    split at h
    · obtain ⟨_, _, -, h⟩ := readString_eq_longInteger_iff.1 h
      cases h
    · next rest =>
      refine HasLongRun.of_suffix ?_ (List.suffix_cons '[' rest)
      refine HasLongRun.of_skipSpace ?_
      split at h
      · cases h
      · rcases bind_eq_error_iff.1 h with hitems | ⟨_, -, h⟩
        · exact hasLongRun_of_readItems hitems
        · cases h
    · next rest =>
      refine HasLongRun.of_suffix ?_ (List.suffix_cons '{' rest)
      refine HasLongRun.of_skipSpace ?_
      split at h
      · cases h
      · rcases bind_eq_error_iff.1 h with hmembers | ⟨_, -, h⟩
        · exact hasLongRun_of_readMembers hmembers
        · cases h
    · exact hasLongRun_of_readScalar h

theorem hasLongRun_of_readItems {fuel : Nat} {cs : List Char}
    (h : readItems dialect fuel cs = .error (.longInteger digits)) : HasLongRun digits cs := by
  match fuel with
  | 0 => cases h
  | fuel + 1 =>
    unfold readItems at h
    rcases bind_eq_error_iff.1 h with hitem | ⟨⟨item, rest⟩, hitem, h⟩
    · exact hasLongRun_of_readValue hitem
    refine HasLongRun.of_endsIn ?_ (endsIn_readValue hitem)
    refine HasLongRun.of_skipSpace ?_
    dsimp only at h ⊢
    split at h
    · next rest' hskip =>
      rw [hskip]
      refine HasLongRun.of_suffix ?_ (List.suffix_cons ',' rest')
      refine HasLongRun.of_skipSpace ?_
      rcases bind_eq_error_iff.1 h with hitems | ⟨_, -, h⟩
      · exact hasLongRun_of_readItems hitems
      · cases h
    · cases h
    · cases h

theorem hasLongRun_of_readMembers {fuel : Nat} {cs : List Char}
    (h : readMembers dialect fuel cs = .error (.longInteger digits)) : HasLongRun digits cs := by
  match fuel with
  | 0 => cases h
  | fuel + 1 =>
    unfold readMembers at h
    split at h
    · next rest =>
      obtain ⟨key, rest', hkey, h⟩ := readString_eq_longInteger_iff.1 h
      refine HasLongRun.of_suffix ?_ (List.suffix_cons '"' rest)
      refine HasLongRun.of_endsIn ?_ (endsIn_scanString hkey)
      refine HasLongRun.of_skipSpace ?_
      split at h
      · next valueText hskip =>
        rw [hskip]
        refine HasLongRun.of_suffix ?_ (List.suffix_cons ':' valueText)
        refine HasLongRun.of_skipSpace ?_
        rcases bind_eq_error_iff.1 h with hvalue | ⟨⟨value, rest''⟩, hvalue, h⟩
        · exact hasLongRun_of_readValue hvalue
        refine HasLongRun.of_endsIn ?_ (endsIn_readValue hvalue)
        refine HasLongRun.of_skipSpace ?_
        dsimp only at h ⊢
        split at h
        · next more hskip =>
          rw [hskip]
          refine HasLongRun.of_suffix ?_ (List.suffix_cons ',' more)
          refine HasLongRun.of_skipSpace ?_
          rcases bind_eq_error_iff.1 h with hmembers | ⟨_, -, h⟩
          · exact hasLongRun_of_readMembers hmembers
          · cases h
        · cases h
        · cases h
      · cases h
    · cases h

end

theorem hasLongRun_of_read {text : String}
    (h : read dialect text = .error (.longInteger digits)) : HasLongRun digits text.toList := by
  refine HasLongRun.of_skipSpace ?_
  rcases bind_eq_error_iff.1 h with hvalue | ⟨_, -, h⟩
  · exact hasLongRun_of_readValue hvalue
  · dsimp only at h
    split at h <;> cases h

/-! ## Texts that are long integers -/

theorem readValue_of_isDigit {c : Char} (hc : c.isDigit = true) (more : List Char) :
    readValue dialect (fuel + 1) (c :: more) = readNumber dialect false (c :: more) := by
  have hne : ∀ d : Char, d.isDigit = false → c ≠ d := by
    rintro d hd rfl
    rw [hc] at hd
    cases hd
  rw [readValue_plain (hne _ (by decide)) (hne _ (by decide)) (hne _ (by decide)),
    readScalar_of_digit dialect hc]

/-- **An integer of too many digits** is not read. -/
theorem read_toDigits_of_long {n : Nat} (hn : integerDigitLimit < Binary64.digitCount n) :
    read dialect (String.ofList (Nat.toDigits 10 n)) =
      .error (.longInteger (Binary64.digitCount n)) := by
  have hnumber := readNumber_digits dialect false n endsNumber_nil
  rw [List.append_nil, if_pos hn] at hnumber
  obtain ⟨c, more, hdigits⟩ := List.exists_cons_of_ne_nil (Nat.toDigits_ne_nil (b := 10) (n := n))
  have hc : c.isDigit = true := allDigits_toDigits n c (hdigits ▸ List.mem_cons_self)
  have hblank : isSpace c = false := by
    cases hspace : isSpace c with
    | false => rfl
    | true => exact absurd (isBlank_of_isDigit hc) (by simp [isBlank_of_isSpace hspace])
  unfold read
  dsimp only
  rw [String.toList_ofList, hdigits, skipSpace_cons hblank, readValue_of_isDigit hc, ← hdigits,
    hnumber]
  rfl

/-- A power of ten has one digit more than its exponent. -/
theorem lt_digitCount_pow {k : Nat} (hk : 0 < k) : k < Binary64.digitCount (10 ^ k) := by
  refine Nat.lt_of_not_le fun h => ?_
  exact absurd ((Binary64.digitCount_le_iff hk).1 h) (Nat.lt_irrefl _)

end Json

end FormStudio
