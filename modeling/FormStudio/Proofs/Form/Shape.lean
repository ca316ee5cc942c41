import FormStudio.Proofs.Form.Told
import FormStudio.Proofs.Pattern.Language

/-!
# Answers of a fixed shape

The shapes of phone numbers, card numbers, one-time codes and dates are languages over characters,
for digits of some kind. The patterns for them take the decimal digits of every script, and
overlook a line feed that ends the text (`Field.check_shape_iff`). So among the texts of ASCII that
do not end in a line feed they accept just the shapes over the digits of ASCII.
-/
namespace FormStudio

/-! ## Digits -/

theorem isDecimalDigit_iff {c : Char} :
    isDecimalDigit c = true ↔ ∃ origin ∈ digitZeros, origin ≤ c.toNat ∧ c.toNat < origin + 10 := by
  rw [isDecimalDigit, digitValue?, List.findSome?_isSome_iff]
  refine exists_congr fun origin => and_congr_right fun _ => ?_
  split <;> simp_all

/-- A digit of ASCII is a decimal digit among the characters of ASCII. -/
theorem isDigit_iff {c : Char} : c.isDigit = true ↔ isDecimalDigit c = true ∧ c.toNat < 128 := by
  have hascii : c.isDigit = true ↔ 48 ≤ c.toNat ∧ c.toNat ≤ 57 := by
    rw [Char.isDigit, Bool.and_eq_true, decide_eq_true_iff, decide_eq_true_iff, ge_iff_le,
      UInt32.le_iff_toNat_le, UInt32.le_iff_toNat_le]
    exact Iff.rfl
  have horigins : ∀ origin ∈ digitZeros, origin = 48 ∨ 128 ≤ origin := by decide
  rw [hascii, isDecimalDigit_iff]
  constructor
  · rintro ⟨hleast, hmost⟩
    exact ⟨⟨48, by decide, hleast, by omega⟩, by omega⟩
  · rintro ⟨⟨origin, horigin, hleast, hmost⟩, hascii⟩
    have hcases := horigins origin horigin
    omega

/-- No digit is a blank: the digits of each script lie between two runs of blanks. -/
theorem isBlank_of_isDecimalDigit {c : Char} (h : isDecimalDigit c = true) : isBlank c = false := by
  obtain ⟨origin, horigin, hleast, hmost⟩ := isDecimalDigit_iff.1 h
  have hgaps : ∀ origin ∈ digitZeros, (32 < origin ∧ origin + 10 ≤ 0x85) ∨
      (0xa0 < origin ∧ origin + 10 ≤ 0x1680) ∨ (0x1680 < origin ∧ origin + 10 ≤ 0x2000) ∨
        0x3000 < origin := by decide
  have hcases := hgaps origin horigin
  simp only [isBlank, Bool.or_eq_false_iff, Bool.and_eq_false_iff, decide_eq_false_iff_not,
    beq_eq_false_iff_ne]
  omega

/-! ## Shapes -/

namespace Shape

/-- Texts of digits, at least `least` and at most `most`. -/
def digits (digit : Char → Prop) (least : Nat) (most : Option Nat) : Language Char :=
  {w | (∀ c ∈ w, digit c) ∧ least ≤ w.length ∧ ∀ bound ∈ most, w.length ≤ bound}

def exactly (digit : Char → Prop) (count : Nat) : Language Char := digits digit count (some count)

def char (c : Char) : Language Char := {w | w = [c]}

/-- A digit from one to nine. -/
def nonZero : Language Char := {w | ∃ c, ('1' ≤ c ∧ c ≤ '9') ∧ w = [c]}

section

variable (digit : Char → Prop)

/-- A plus sign or none, a digit from one to nine, and six to fourteen digits. -/
def phone : Language Char := (1 + char '+') * (nonZero * digits digit 6 (some 14))

def creditCard : Language Char := digits digit 13 (some 19)

def code : Language Char := exactly digit 6

/-- Hours and minutes. -/
def clock : Language Char := exactly digit 2 * (char ':' * exactly digit 2)

/-- Seconds, with a fraction or without. -/
def seconds : Language Char := char ':' * (exactly digit 2 * (1 + char '.' * digits digit 1 none))

/-- The zone of a time: that of reference, or so many hours and minutes away. -/
def zone : Language Char := char 'Z' + (char '+' + char '-') * clock digit

def time : Language Char := char 'T' * (clock digit * ((1 + seconds digit) * (1 + zone digit)))

/-- A year, a month and a day in digits, with a time or without. -/
def date : Language Char :=
  exactly digit 4 *
    (char '-' * (exactly digit 2 * (char '-' * (exactly digit 2 * (1 + time digit)))))

end

/-- The shape of the answers to a variant, for digits of some kind. -/
def of? : String → Option ((Char → Prop) → Language Char)
  | "Phone" => some phone
  | "Credit Card" => some creditCard
  | "Input OTP" => some code
  | "Date Picker" | "Datetime Picker" | "Smart Datetime Input" => some date
  | _ => none

/-! ### Patterns for shapes -/

def charPattern (c : Char) : Pattern := .set ⟨.exact, false, [.one c.toNat]⟩

def digitsPattern (least : Nat) (most : Option Nat) : Pattern :=
  .rep .most (.set ⟨.exact, false, [.named .every .digit false]⟩) least most

def optionally (body : Pattern) : Pattern := .rep .most body 0 (some 1)

def phoneBody : Pattern :=
  .seq (optionally (charPattern '+'))
    (.seq (.set ⟨.exact, false, [.range '1'.toNat '9'.toNat]⟩)
      (.seq (digitsPattern 6 (some 14)) .empty))

def creditCardBody : Pattern := .seq (digitsPattern 13 (some 19)) .empty

def codeBody : Pattern := .seq (digitsPattern 6 (some 6)) .empty

def twoDigits : Pattern := digitsPattern 2 (some 2)

def secondsBody : Pattern :=
  .seq (charPattern ':')
    (.seq twoDigits (optionally (.seq (charPattern '.') (digitsPattern 1 none))))

def zoneBody : Pattern :=
  .alt (charPattern 'Z')
    (.seq (.set ⟨.exact, false, [.one '+'.toNat, .one '-'.toNat]⟩)
      (.seq twoDigits (.seq (charPattern ':') twoDigits)))

def timeBody : Pattern :=
  .seq (charPattern 'T')
    (.seq twoDigits
      (.seq (charPattern ':')
        (.seq twoDigits (.seq (optionally secondsBody) (optionally zoneBody)))))

def dateBody : Pattern :=
  .seq (digitsPattern 4 (some 4))
    (.seq (charPattern '-')
      (.seq twoDigits
        (.seq (charPattern '-') (.seq twoDigits (.seq (optionally timeBody) .empty)))))

/-- The patterns of variants, and what they hold between the marks of the two ends. -/
def bodies : List (String × Pattern) :=
  [(Handler.phonePattern, phoneBody), (Handler.creditCardPattern, creditCardBody),
    (Handler.otpPattern Handler.otpLength, codeBody), (datePattern, dateBody)]

theorem anchored_of_mem_bodies : ∀ entry ∈ bodies,
    (Pattern.read entry.1).toOption.bind Pattern.anchored? = some entry.2 ∧
      entry.2.isRegular = true := by decide +kernel

/-! ### Languages of these patterns -/

theorem holds_range_iff {first last : Nat} {c : Char} :
    CharSet.holds ⟨.exact, false, [.range first last]⟩ c = true ↔
      first ≤ c.toNat ∧ c.toNat ≤ last := by
  simp [CharSet.holds, CharItem.holds, Casing.spellings]

theorem holds_one_iff {c d : Char} :
    CharSet.holds ⟨.exact, false, [.one c.toNat]⟩ d = true ↔ d = c := by
  rw [CharItem.one, holds_range_iff, ← Char.toNat_inj]
  omega

theorem language_charPattern (c : Char) : (charPattern c).language = char c := by
  ext w
  show (∃ d, CharSet.holds ⟨.exact, false, [.one c.toNat]⟩ d = true ∧ w = [d]) ↔ w = [c]
  simp only [holds_one_iff, exists_eq_left]

theorem language_nonZero :
    (Pattern.set ⟨.exact, false, [.range '1'.toNat '9'.toNat]⟩).language = nonZero := by
  ext w
  show (∃ c, CharSet.holds ⟨.exact, false, [.range '1'.toNat '9'.toNat]⟩ c = true ∧ w = [c]) ↔
    ∃ c, ('1' ≤ c ∧ c ≤ '9') ∧ w = [c]
  simp only [holds_range_iff]
  exact Iff.rfl

theorem language_sign :
    (Pattern.set ⟨.exact, false, [.one '+'.toNat, .one '-'.toNat]⟩).language =
      char '+' + char '-' := by
  ext w
  have hholds : ∀ d : Char, CharSet.holds ⟨.exact, false, [.one '+'.toNat, .one '-'.toNat]⟩ d =
      (CharSet.holds ⟨.exact, false, [.one '+'.toNat]⟩ d ||
        CharSet.holds ⟨.exact, false, [.one '-'.toNat]⟩ d) := by
    intro d
    simp [CharSet.holds]
  show (∃ d, CharSet.holds ⟨.exact, false, [.one '+'.toNat, .one '-'.toNat]⟩ d = true ∧ w = [d]) ↔
    w = ['+'] ∨ w = ['-']
  simp only [hholds, Bool.or_eq_true, holds_one_iff, or_and_right, exists_or, exists_eq_left]

theorem language_digitsPattern {least : Nat} {most : Option Nat}
    (h : ∀ bound ∈ most, least ≤ bound) :
    (digitsPattern least most).language = digits (isDecimalDigit · = true) least most := by
  ext w
  have hholds : ∀ c, CharSet.holds ⟨.exact, false, [.named .every .digit false]⟩ c =
      isDecimalDigit c := by
    intro c
    simp [CharSet.holds, CharItem.holds, CharClass.holds]
  show (∃ n, (∀ bound ∈ most, n ≤ bound - least) ∧ w ∈ Pattern.wordsOf _ ^ (least + n)) ↔
    (∀ c ∈ w, isDecimalDigit c = true) ∧ least ≤ w.length ∧ ∀ bound ∈ most, w.length ≤ bound
  simp only [Pattern.mem_wordsOf_pow_iff, hholds]
  constructor
  · rintro ⟨n, hn, hall, hlength⟩
    refine ⟨hall, by omega, fun bound hbound => ?_⟩
    have hmost := hn bound hbound
    have hleast := h bound hbound
    omega
  · rintro ⟨hall, hleast, hmost⟩
    refine ⟨w.length - least, fun bound hbound => ?_, hall, by omega⟩
    have hle := hmost bound hbound
    omega

theorem language_twoDigits : twoDigits.language = exactly (isDecimalDigit · = true) 2 :=
  language_digitsPattern (by simp)

theorem language_optionally (body : Pattern) : (optionally body).language = 1 + body.language := by
  ext w
  show (∃ n, (∀ bound ∈ some 1, n ≤ bound - 0) ∧ w ∈ body.language ^ (0 + n)) ↔ _
  rw [Language.mem_add]
  constructor
  · rintro ⟨n, hn, hw⟩
    obtain rfl | rfl : n = 0 ∨ n = 1 := Nat.le_one_iff_eq_zero_or_eq_one.1 (hn 1 rfl)
    · exact .inl (by simpa using hw)
    · exact .inr (by simpa using hw)
  · rintro (hw | hw)
    · exact ⟨0, by simp, by simpa using hw⟩
    · exact ⟨1, by simp, by simpa using hw⟩

theorem language_phoneBody : phoneBody.language = phone (isDecimalDigit · = true) := by
  have hdigits : (digitsPattern 6 (some 14)).language =
      digits (isDecimalDigit · = true) 6 (some 14) := language_digitsPattern (by simp)
  simp only [phoneBody, phone, Pattern.language, language_optionally, language_charPattern,
    hdigits, mul_one]
  rw [← language_nonZero, Pattern.language]

theorem language_creditCardBody :
    creditCardBody.language = creditCard (isDecimalDigit · = true) := by
  rw [creditCardBody, Pattern.language, language_digitsPattern (by simp), Pattern.language, mul_one,
    creditCard]

theorem language_codeBody : codeBody.language = code (isDecimalDigit · = true) := by
  rw [codeBody, Pattern.language, language_digitsPattern (by simp), Pattern.language, mul_one]
  rfl

theorem language_zoneBody : zoneBody.language = zone (isDecimalDigit · = true) := by
  have hsign := language_sign
  rw [Pattern.language] at hsign
  simp only [zoneBody, zone, clock, Pattern.language, language_charPattern, language_twoDigits,
    hsign]

theorem language_secondsBody : secondsBody.language = seconds (isDecimalDigit · = true) := by
  have hfraction : (digitsPattern 1 none).language = digits (isDecimalDigit · = true) 1 none :=
    language_digitsPattern (by simp)
  simp only [secondsBody, seconds, Pattern.language, language_charPattern, language_twoDigits,
    language_optionally, hfraction]

theorem language_timeBody : timeBody.language = time (isDecimalDigit · = true) := by
  simp only [timeBody, time, clock, Pattern.language, language_charPattern, language_twoDigits,
    language_optionally, language_secondsBody, language_zoneBody, mul_assoc]

theorem language_dateBody : dateBody.language = date (isDecimalDigit · = true) := by
  have hyear : (digitsPattern 4 (some 4)).language = exactly (isDecimalDigit · = true) 4 :=
    language_digitsPattern (by simp)
  simp only [dateBody, date, Pattern.language, language_charPattern, language_twoDigits,
    language_optionally, language_timeBody, hyear, mul_one]

/-! ### Shapes over fewer characters -/

/-- The words of a language whose characters have a property. -/
def within (p : Char → Prop) (words : Language Char) : Language Char :=
  {w | w ∈ words ∧ ∀ c ∈ w, p c}

section

variable {p : Char → Prop} {first second : Language Char}

theorem within_one : within p 1 = 1 := by
  ext w
  refine and_iff_left_of_imp ?_
  rintro rfl
  nofun

theorem within_add : within p (first + second) = within p first + within p second := by
  ext w
  exact or_and_right

theorem within_mul : within p (first * second) = within p first * within p second := by
  ext w
  constructor
  · rintro ⟨hw, hp⟩
    obtain ⟨u, hu, v, hv, rfl⟩ := Language.mem_mul.1 hw
    obtain ⟨hup, hvp⟩ := List.forall_mem_append.1 hp
    exact Language.append_mem_mul ⟨hu, hup⟩ ⟨hv, hvp⟩
  · intro hw
    obtain ⟨u, ⟨hu, hup⟩, v, ⟨hv, hvp⟩, rfl⟩ := Language.mem_mul.1 hw
    exact ⟨Language.append_mem_mul hu hv, List.forall_mem_append.2 ⟨hup, hvp⟩⟩

theorem within_char {c : Char} (h : p c) : within p (char c) = char c := by
  ext w
  refine and_iff_left_of_imp ?_
  rintro rfl
  simpa using h

theorem within_digits {digit : Char → Prop} {least : Nat} {most : Option Nat} :
    within p (digits digit least most) = digits (fun c => digit c ∧ p c) least most := by
  ext w
  show ((∀ c ∈ w, digit c) ∧ _ ∧ _) ∧ (∀ c ∈ w, p c) ↔ (∀ c ∈ w, digit c ∧ p c) ∧ _ ∧ _
  rw [forall₂_and, and_right_comm]

theorem within_nonZero (hp : ∀ c : Char, 43 ≤ c.toNat → c.toNat < 128 → p c) :
    within p nonZero = nonZero := by
  ext w
  refine and_iff_left_of_imp ?_
  rintro ⟨c, ⟨hleast, hmost⟩, rfl⟩
  have hfirst : '1'.toNat ≤ c.toNat := hleast
  have hlast : c.toNat ≤ '9'.toNat := hmost
  simp only [Char.reduceToNat] at hfirst hlast
  simpa using hp c (by omega) (by omega)

/-- **A shape over fewer characters** is the shape over fewer digits, if they have its signs. -/
theorem within_shape {variant : String} {shape : (Char → Prop) → Language Char}
    (h : of? variant = some shape) (hp : ∀ c : Char, 43 ≤ c.toNat → c.toNat < 128 → p c)
    (digit : Char → Prop) : within p (shape digit) = shape fun c => digit c ∧ p c := by
  have hchar : ∀ c : Char, 43 ≤ c.toNat → c.toNat < 128 → within p (char c) = char c :=
    fun c hleast hmost => within_char (hp c hleast hmost)
  have hplus := hchar '+' (by decide) (by decide)
  have hminus := hchar '-' (by decide) (by decide)
  have hpoint := hchar '.' (by decide) (by decide)
  have hcolon := hchar ':' (by decide) (by decide)
  have hT := hchar 'T' (by decide) (by decide)
  have hZ := hchar 'Z' (by decide) (by decide)
  unfold of? at h
  split at h <;> cases h <;>
    simp only [phone, creditCard, code, date, time, zone, seconds, clock, exactly, within_mul,
      within_add, within_one, within_digits, within_nonZero hp, hplus, hminus, hpoint, hcolon, hT,
      hZ]

end

/-- A language each word of which shows something. -/
def IsVisible (words : Language Char) : Prop := ∀ w ∈ words, ∃ c ∈ w, isBlank c = false

theorem IsVisible.mul_left {first second : Language Char} (h : IsVisible first) :
    IsVisible (first * second) := by
  intro w hw
  obtain ⟨u, hu, v, -, rfl⟩ := Language.mem_mul.1 hw
  obtain ⟨c, hc, hblank⟩ := h u hu
  exact ⟨c, List.mem_append_left v hc, hblank⟩

theorem IsVisible.mul_right {first second : Language Char} (h : IsVisible second) :
    IsVisible (first * second) := by
  intro w hw
  obtain ⟨u, -, v, hv, rfl⟩ := Language.mem_mul.1 hw
  obtain ⟨c, hc, hblank⟩ := h v hv
  exact ⟨c, List.mem_append_right u hc, hblank⟩

theorem isVisible_digits {least : Nat} {most : Option Nat} (h : 0 < least) :
    IsVisible (digits (isDecimalDigit · = true) least most) := by
  rintro w ⟨hall, hleast, -⟩
  obtain ⟨c, hc⟩ := List.exists_mem_of_length_pos (Nat.lt_of_lt_of_le h hleast)
  exact ⟨c, hc, isBlank_of_isDecimalDigit (hall c hc)⟩

theorem isVisible_shape {variant : String} {shape : (Char → Prop) → Language Char}
    (h : of? variant = some shape) : IsVisible (shape (isDecimalDigit · = true)) := by
  unfold of? at h
  split at h <;> cases h
  · exact .mul_right (.mul_right (isVisible_digits (by decide)))
  · exact isVisible_digits (by decide)
  · exact isVisible_digits (by decide)
  all_goals exact .mul_left (isVisible_digits (by decide))

end Shape

/-! ## Fields of a fixed shape -/

theorem Pattern.find_iff_of_mem_bodies {written : String} {body : Pattern}
    (h : (written, body) ∈ Shape.bodies) {s : String} :
    Pattern.find written s = .ok true ↔
      s.toList ∈ body.language ∨ ∃ w ∈ body.language, s.toList = w ++ ['\n'] := by
  obtain ⟨hbody, hregular⟩ := Shape.anchored_of_mem_bodies _ h
  obtain ⟨pattern, hread, hbody⟩ := Option.bind_eq_some_iff.1 hbody
  rw [find_of_read (toOption_eq_some_iff.1 hread), Except.ok.injEq,
    search_iff_of_anchored hbody hregular]

namespace Handler

variable {variant : String} {shape : (Char → Prop) → Language Char} {s : String}

/-- Whether a text has a shape, or has it before a line feed that ends the text. A one-time code has
no place for one. -/
def FitsShape (variant : String) (shape : (Char → Prop) → Language Char) (s : String) : Prop :=
  s.toList ∈ shape (isDecimalDigit · = true) ∨
    variant ≠ "Input OTP" ∧ ∃ w ∈ shape (isDecimalDigit · = true), s.toList = w ++ ['\n']

theorem fits_text_iff {inputType written : String} {component : Import} :
    (Handler.text inputType component (some written)).Fits s ↔
      Pattern.find written s = .ok true := by
  constructor
  · intro h
    exact h.pattern written rfl
  · intro h
    exact ⟨nofun, nofun, fun _ hwritten => Option.some.inj hwritten ▸ h, nofun⟩

theorem fits_date_iff {style : DateStyle} :
    (Handler.date style).Fits s ↔ Pattern.find datePattern s = .ok true := by
  constructor
  · intro h
    exact h.date rfl
  · intro h
    exact ⟨nofun, nofun, nofun, fun _ => h⟩

theorem fits_otp_iff {length : Nat} :
    (Handler.otp length).Fits s ↔
      s.length = length ∧ Pattern.find (otpPattern length) s = .ok true := by
  constructor
  · intro h
    have hleast : (length : Int) ≤ s.length := h.least _ rfl
    have hmost : (s.length : Int) ≤ length := h.most _ rfl
    exact ⟨by omega, h.pattern _ rfl⟩
  · rintro ⟨rfl, h⟩
    exact ⟨fun _ hbound => Option.some.inj hbound ▸ Int.le_refl _,
      fun _ hbound => Option.some.inj hbound ▸ Int.le_refl _,
      fun _ hwritten => Option.some.inj hwritten ▸ h, nofun⟩

/-- **A variant of a fixed shape** is one of texts, and its bounds ask for the shape. -/
theorem exists_of_shape (h : Shape.of? variant = some shape) :
    ∃ handler, builtin.get? variant = some handler ∧
      (handler.kind = .string ∨ handler.kind = .date) ∧
        ∀ s, handler.Fits s ↔ FitsShape variant shape s := by
  have hdate : ∀ s, Pattern.find datePattern s = .ok true ↔
      s.toList ∈ Shape.date (isDecimalDigit · = true) ∨
        ∃ w ∈ Shape.date (isDecimalDigit · = true), s.toList = w ++ ['\n'] := fun s => by
    rw [Pattern.find_iff_of_mem_bodies (.tail _ (.tail _ (.tail _ (.head _)))),
      Shape.language_dateBody]
  unfold Shape.of? at h
  split at h <;> cases h
  · refine ⟨_, rfl, .inl rfl, fun s => ?_⟩
    rw [fits_text_iff, Pattern.find_iff_of_mem_bodies (.head _),
      Shape.language_phoneBody, FitsShape, and_iff_right (by decide)]
  · refine ⟨_, rfl, .inl rfl, fun s => ?_⟩
    rw [fits_text_iff, Pattern.find_iff_of_mem_bodies (.tail _ (.head _)),
      Shape.language_creditCardBody, FitsShape, and_iff_right (by decide)]
  · refine ⟨_, rfl, .inl rfl, fun s => ?_⟩
    have hlength : ∀ w ∈ Shape.code (isDecimalDigit · = true), w.length = otpLength :=
      fun w hw => Nat.le_antisymm (hw.2.2 _ rfl) hw.2.1
    have hcode : FitsShape "Input OTP" Shape.code s ↔
        s.toList ∈ Shape.code (isDecimalDigit · = true) := or_iff_left fun h => h.1 rfl
    rw [fits_otp_iff, Pattern.find_iff_of_mem_bodies (.tail _ (.tail _ (.head _))),
      Shape.language_codeBody, hcode]
    constructor
    · rintro ⟨hcount, hw | ⟨w, hw, htext⟩⟩
      · exact hw
      · rw [← String.length_toList, htext, List.length_append, hlength w hw] at hcount
        exact absurd hcount (by decide)
    · intro hw
      exact ⟨by rw [← String.length_toList, hlength _ hw], .inl hw⟩
  all_goals
    refine ⟨_, rfl, .inr rfl, fun s => ?_⟩
    rw [fits_date_iff, hdate, FitsShape, and_iff_right (by decide)]

end Handler

namespace Field

variable {f : Field} {shape : (Char → Prop) → Language Char} {s : String}

theorem isValue_str_iff {handler : Handler} {multiple : Number → Number → Prop}
    (hkind : handler.kind = .string ∨ handler.kind = .date) :
    f.IsValue multiple (some handler) (.str s) ↔ f.IsText handler s := by
  have hunique : (∃ t, Json.str s = .str t ∧ f.IsText handler t) ↔ f.IsText handler s := by
    simp only [Json.str.injEq, exists_eq_left']
  cases handler with
  | toggle _ _ | number _ | list _ _ _ => rcases hkind with hkind | hkind <;> cases hkind
  | _ => exact hunique

/-- A text passes the rule of a field of fixed shape where it fits, and where it is empty and no
answer is required. -/
theorem check_str_iff (hshape : Shape.of? f.variant = some shape) (s : String) :
    (f.rule Handler.builtin).check (some (.str s)) = .ok [] ↔
      Handler.FitsShape f.variant shape s ∨ f.isRequired = false ∧ s = "" := by
  obtain ⟨handler, hget, hkind, hfits⟩ := Handler.exists_of_shape hshape
  rw [check_eq_nil_iff, hget, isValue_str_iff hkind, ← hfits s]
  constructor
  · intro h
    exact h.fits.symm
  · intro h
    refine ⟨fun hrequired => ?_, h.symm⟩
    have hshown := Shape.isVisible_shape hshape
    rcases h with h | ⟨hoptional, -⟩
    · rcases (hfits s).1 h with hw | ⟨-, w, hw, htext⟩
      · exact hshown _ hw
      · obtain ⟨c, hc, hblank⟩ := hshown w hw
        exact ⟨c, htext ▸ List.mem_append_left _ hc, hblank⟩
    · rw [hoptional] at hrequired
      cases hrequired

/-- The words of a shape over the digits of ASCII are those over all digits that are in ASCII. -/
theorem mem_shape_isDigit_iff (hshape : Shape.of? f.variant = some shape) {w : List Char} :
    w ∈ shape (·.isDigit = true) ↔
      w ∈ shape (isDecimalDigit · = true) ∧ ∀ c ∈ w, c.toNat < 128 := by
  have hdigit : (fun c : Char => isDecimalDigit c = true ∧ c.toNat < 128) = (·.isDigit = true) :=
    funext fun c => propext isDigit_iff.symm
  rw [← hdigit, ← Shape.within_shape hshape (fun _ _ h => h)]
  exact Iff.rfl

/-- No word of a shape has a line feed. -/
theorem not_mem_of_shape (hshape : Shape.of? f.variant = some shape) {w : List Char}
    (hw : w ∈ shape (isDecimalDigit · = true)) : '\n' ∉ w := by
  have hdigit : (fun c : Char => isDecimalDigit c = true ∧ c ≠ '\n') =
      (isDecimalDigit · = true) := by
    funext c
    refine propext (and_iff_left_of_imp ?_)
    rintro h rfl
    exact absurd h (by decide)
  have hfeed : ∀ c : Char, 43 ≤ c.toNat → c.toNat < 128 → c ≠ '\n' := by
    rintro c hleast - rfl
    exact absurd hleast (by decide)
  rw [← hdigit, ← Shape.within_shape hshape hfeed] at hw
  exact fun hmem => hw.2 _ hmem rfl

/-- **The variants of a fixed shape** take the shape over the decimal digits of every script, and
but for the one-time code also before a line feed that ends the text; an optional field takes the
empty text too. Of the texts of ASCII that do not end in a line feed these are the shapes over the
digits of ASCII. -/
theorem check_shape_iff (hshape : Shape.of? f.variant = some shape) (s : String) :
    Succeeds ((f.rule Handler.builtin).check (some (.str s))) ∧
      ((f.rule Handler.builtin).check (some (.str s)) = .ok [] ↔
        Handler.FitsShape f.variant shape s ∨ f.isRequired = false ∧ s = "") ∧
      ((∀ c ∈ s.toList, c.toNat < 128) → s.toList.getLast? ≠ some '\n' →
        ((f.rule Handler.builtin).check (some (.str s)) = .ok [] ↔
          s.toList ∈ shape (·.isDigit = true) ∨ f.isRequired = false ∧ s = "")) := by
  refine ⟨?_, check_str_iff hshape s, fun hascii hlast => ?_⟩
  · obtain ⟨handler, hget, hkind, -⟩ := Handler.exists_of_shape hshape
    refine Rule.succeeds_check ?_ (hasReadablePatterns_rule f)
    have hrule : f.rule Handler.builtin = handler.rule f := by rw [Field.rule, hget]
    rw [hrule, Handler.kind_rule]
    rcases hkind with hkind | hkind <;> simp [hkind]
  · have hfits : Handler.FitsShape f.variant shape s ↔
        s.toList ∈ shape (isDecimalDigit · = true) := by
      refine or_iff_left ?_
      rintro ⟨-, w, -, htext⟩
      exact hlast (by rw [htext, List.getLast?_concat])
    rw [check_str_iff hshape, mem_shape_isDigit_iff hshape, and_iff_left hascii, hfits]

/-- A phone number is accepted, and so is one before a line feed, which is none. -/
theorem check_shape_of_phone :
    let f : Field := { named "a" with variant := "Phone", required := some true }
    let number := "+1234567"
    Shape.of? f.variant = some Shape.phone ∧
      ((∀ c ∈ number.toList, c.toNat < 128) ∧ number.toList.getLast? ≠ some '\n' ∧
        (f.rule Handler.builtin).check (some (.str number)) = .ok []) ∧
      (f.rule Handler.builtin).check (some (.str (number ++ "\n"))) = .ok [] ∧
        (number ++ "\n").toList ∉ Shape.phone (·.isDigit = true) := by
  intro f number
  have hshape : Shape.of? f.variant = some Shape.phone := rfl
  have htoList : number.toList = ['+', '1', '2', '3', '4', '5', '6', '7'] := by decide
  have hword : number.toList ∈ Shape.phone (·.isDigit = true) := by
    rw [htoList]
    exact ⟨['+'], .inr rfl, _, ⟨['1'], ⟨'1', by decide, rfl⟩, ['2', '3', '4', '5', '6', '7'],
      ⟨by simp, by decide, by simp⟩, rfl⟩, rfl⟩
  have hascii : ∀ c ∈ number.toList, c.toNat < 128 := by
    rw [htoList]
    simp
  have hlast : number.toList.getLast? ≠ some '\n' := by
    rw [htoList]
    decide
  obtain ⟨-, -, hnumber⟩ := check_shape_iff hshape number
  obtain ⟨-, hline, -⟩ := check_shape_iff hshape (number ++ "\n")
  refine ⟨hshape, ⟨hascii, hlast, (hnumber hascii hlast).2 (.inl hword)⟩,
    hline.2 (.inl (.inr ?_)), ?_⟩
  · exact ⟨by decide, _, ((mem_shape_isDigit_iff hshape).1 hword).1, String.toList_append⟩
  · intro hmem
    exact not_mem_of_shape hshape ((mem_shape_isDigit_iff hshape).1 hmem).1 (by decide)

end Field

end FormStudio
