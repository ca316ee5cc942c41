import FormStudio.Json.Printer
import FormStudio.Json.Reader
import FormStudio.Proofs.Number.Decimal

/-!
# Written numbers are read back

The text of a number has whole digits, digits behind a point or none, and an exponent or none
(`NumberParts`). The reader takes such a text apart again wherever nothing follows that could be
part of it (`readNumber_text`), and the layout of the shortest numeral is one with the value of the
numeral (`NumberParts.layOut`). So a number is read from its own text (`readScalar_numberText`):
an integer of not too many digits as that integer, a finite binary number as that number.
-/
namespace FormStudio

namespace Json

/-! ## Digits -/

theorem ofDigits_eq (ds : List Char) : ofDigits ds = Nat.ofDigitChars 10 ds 0 := by
  rw [ofDigits, Nat.ofDigitChars_eq_foldl]
  congr
  funext n c
  rw [Nat.mul_comm]
  rfl

theorem ofDigits_append (as bs : List Char) :
    ofDigits (as ++ bs) = ofDigits as * 10 ^ bs.length + ofDigits bs := by
  simp only [ofDigits_eq, Nat.ofDigitChars_append]
  rw [Nat.ofDigitChars_eq_ofDigitChars_zero, Nat.mul_comm]

theorem ofDigits_toDigits (n : Nat) : ofDigits (Nat.toDigits 10 n) = n := by
  rw [ofDigits_eq, Nat.ofDigitChars_ten_toDigits]

theorem ofDigits_zeros (n : Nat) : ofDigits (zeros n) = 0 := by
  rw [ofDigits_eq, zeros, Nat.ofDigitChars_replicate_zero, Nat.mul_zero]

theorem ofDigits_zeros_append (n : Nat) (ds : List Char) :
    ofDigits (zeros n ++ ds) = ofDigits ds := by
  rw [ofDigits_append, ofDigits_zeros, Nat.zero_mul, Nat.zero_add]

theorem ofDigits_append_zeros (ds : List Char) (n : Nat) :
    ofDigits (ds ++ zeros n) = ofDigits ds * 10 ^ n := by
  rw [ofDigits_append, ofDigits_zeros, Nat.add_zero, zeros, List.length_replicate]

/-- Digits and nothing else. -/
def AllDigits (ds : List Char) : Prop := ∀ c ∈ ds, c.isDigit = true

theorem AllDigits.append {as bs : List Char} (ha : AllDigits as) (hb : AllDigits bs) :
    AllDigits (as ++ bs) := fun c hc => (List.mem_append.1 hc).elim (ha c) (hb c)

theorem AllDigits.take {ds : List Char} (h : AllDigits ds) (n : Nat) : AllDigits (ds.take n) :=
  fun c hc => h c (List.mem_of_mem_take hc)

theorem AllDigits.drop {ds : List Char} (h : AllDigits ds) (n : Nat) : AllDigits (ds.drop n) :=
  fun c hc => h c (List.mem_of_mem_drop hc)

theorem allDigits_toDigits (n : Nat) : AllDigits (Nat.toDigits 10 n) :=
  fun _ hc => Nat.isDigit_of_mem_toDigits (by decide) (by decide) hc

theorem allDigits_zeros (n : Nat) : AllDigits (zeros n) := by
  intro c hc
  rw [List.eq_of_mem_replicate hc]
  decide

/-- A number that is not zero does not begin with a zero. -/
theorem head?_toDigits_ne (n : Nat) (hn : n ≠ 0) : (Nat.toDigits 10 n).head? ≠ some '0' := by
  induction n using Nat.strongRecOn with
  | _ n ih =>
    rw [Nat.toDigits_eq_if (by decide)]
    split
    · simpa using hn
    · next h =>
      have hten := ih (n / 10) (by omega) (by omega)
      obtain ⟨c, more, hc⟩ := List.exists_cons_of_ne_nil (Nat.toDigits_ne_nil (b := 10) (n := n / 10))
      rw [hc] at hten ⊢
      exact hten

theorem ofDigits_lt {ds : List Char} (h : AllDigits ds) : ofDigits ds < 10 ^ ds.length := by
  induction ds with
  | nil => decide
  | cons c rest ih =>
    have hrest := ih fun d hd => h d (List.mem_cons_of_mem _ hd)
    have hc : c.toNat - 0x30 < 10 := by
      have hdigit := h c List.mem_cons_self
      simp only [Char.isDigit, Bool.and_eq_true, decide_eq_true_eq, ge_iff_le,
        UInt32.le_iff_toNat_le] at hdigit
      have : c.toNat ≤ 57 := hdigit.2
      omega
    have hone : ofDigits [c] = c.toNat - 0x30 := by simp [ofDigits]
    rw [← List.singleton_append, ofDigits_append, hone, List.length_append, List.length_singleton,
      Nat.pow_add, Nat.pow_one]
    calc (c.toNat - 0x30) * 10 ^ rest.length + ofDigits rest
        < (c.toNat - 0x30) * 10 ^ rest.length + 10 ^ rest.length := Nat.add_lt_add_left hrest _
      _ = (c.toNat - 0x30 + 1) * 10 ^ rest.length := (Nat.succ_mul ..).symm
      _ ≤ 10 * 10 ^ rest.length := Nat.mul_le_mul_right _ hc

/-! ## Where a number ends -/

/-- A text that does not begin with a digit. -/
def NoDigitNext (rest : List Char) : Prop := ∀ c ∈ rest.head?, c.isDigit = false

/-- A text that cannot go on with a number. -/
def EndsNumber (rest : List Char) : Prop :=
  ∀ c ∈ rest.head?, c.isDigit = false ∧ c ≠ '.' ∧ c ≠ 'e' ∧ c ≠ 'E'

theorem endsNumber_nil : EndsNumber [] := by simp [EndsNumber]

theorem EndsNumber.noDigitNext {rest : List Char} (h : EndsNumber rest) : NoDigitNext rest :=
  fun c hc => (h c hc).1

theorem takeDigits_append {ds rest : List Char} (hd : AllDigits ds) (hr : NoDigitNext rest) :
    takeDigits (ds ++ rest) = (ds, rest) := by
  have htake : rest.takeWhile Char.isDigit = [] ∧ rest.dropWhile Char.isDigit = rest := by
    cases rest with
    | nil => simp
    | cons c rest => simp [hr c rfl]
  unfold takeDigits
  rw [List.takeWhile_append_of_pos hd, List.dropWhile_append_of_pos hd, htake.1, htake.2,
    List.append_nil]

/-- Whole digits as they are written: some, and a zero in front stands alone. -/
structure IsWhole (ds : List Char) : Prop where
  digits : AllDigits ds
  ne_nil : ds ≠ []
  zero : ds.head? = some '0' → ds = ['0']

theorem isWhole_toDigits (n : Nat) : IsWhole (Nat.toDigits 10 n) where
  digits := allDigits_toDigits n
  ne_nil := Nat.toDigits_ne_nil
  zero h := by
    by_cases hn : n = 0
    · rw [hn, Nat.toDigits_zero]
    · exact absurd h (head?_toDigits_ne n hn)

theorem wholeDigits_append {ds rest : List Char} (hd : IsWhole ds) (hr : NoDigitNext rest) :
    wholeDigits (ds ++ rest) = (ds, rest) := by
  obtain ⟨c, more, rfl⟩ := List.exists_cons_of_ne_nil hd.ne_nil
  by_cases hc : c = '0'
  · subst hc
    obtain rfl : more = [] := (List.cons.inj (hd.zero rfl)).2
    rfl
  · rw [List.cons_append, wholeDigits]
    · exact takeDigits_append hd.digits hr
    · intro more' h
      exact hc (List.cons.inj h).1

theorem fractionDigits_append {ds rest : List Char} (hd : AllDigits ds) (hne : ds ≠ [])
    (hr : NoDigitNext rest) : fractionDigits ('.' :: (ds ++ rest)) = (ds, rest) := by
  obtain ⟨c, more, rfl⟩ := List.exists_cons_of_ne_nil hne
  rw [fractionDigits, takeDigits_append hd hr]

theorem fractionDigits_of_ends {rest : List Char} (h : rest.head? ≠ some '.') :
    fractionDigits rest = ([], rest) := by
  unfold fractionDigits
  split
  · simp at h
  · rfl

theorem exponentPart_append (e : Int) {rest : List Char} (hr : NoDigitNext rest) :
    exponentPart (exponentText e ++ rest) = (some e, rest) := by
  have hdigits : AllDigits (zeros (2 - (Nat.toDigits 10 e.natAbs).length) ++
      Nat.toDigits 10 e.natAbs) := (allDigits_zeros _).append (allDigits_toDigits _)
  have hvalue : ofDigits (zeros (2 - (Nat.toDigits 10 e.natAbs).length) ++
      Nat.toDigits 10 e.natAbs) = e.natAbs := by
    rw [ofDigits_zeros_append, ofDigits_toDigits]
  have hne : zeros (2 - (Nat.toDigits 10 e.natAbs).length) ++ Nat.toDigits 10 e.natAbs ≠ [] := by
    simp
  have hsign : ∀ negative : Bool, ∀ cs : List Char,
      exponentSign ((if negative = true then '-' else '+') :: cs) = (negative, cs) := by
    intro negative cs
    cases negative <;> rfl
  have htext : exponentText e ++ rest = 'e' :: (if decide (e < 0) = true then '-' else '+') ::
      (zeros (2 - (Nat.toDigits 10 e.natAbs).length) ++ Nat.toDigits 10 e.natAbs ++ rest) := by
    simp [exponentText]
  rw [htext, exponentPart, hsign]
  generalize zeros (2 - (Nat.toDigits 10 e.natAbs).length) ++ Nat.toDigits 10 e.natAbs = ds
    at hdigits hvalue hne
  obtain ⟨c, more, rfl⟩ := List.exists_cons_of_ne_nil hne
  have hsigned : (if e < 0 then -(e.natAbs : Int) else e.natAbs) = e := by omega
  simp only [takeDigits_append hdigits hr, hvalue, true_or, if_true, decide_eq_true_eq, hsigned]

theorem exponentPart_of_ends {rest : List Char} (h : EndsNumber rest) :
    exponentPart rest = (none, rest) := by
  cases rest with
  | nil => rfl
  | cons c rest =>
    obtain ⟨-, -, he, hE⟩ := h c rfl
    simp [exponentPart, he, hE]

/-! ## The parts of a number -/

/-- The parts of a number without its sign. -/
structure NumberParts where
  whole : List Char
  fraction : List Char
  exponent : Option Int

namespace NumberParts

/-- The point is written only in front of digits. -/
def text (p : NumberParts) : List Char :=
  p.whole ++ ((if p.fraction = [] then [] else '.' :: p.fraction) ++ p.exponent.elim [] exponentText)

/-- The binary number that is nearest to the number with these parts. -/
def value (p : NumberParts) (negative : Bool) : Binary64 :=
  Binary64.ofDecimal negative (ofDigits (p.whole ++ p.fraction))
    (p.exponent.getD 0 - p.fraction.length)

/-- The parts of a binary number: it has digits behind a point, or an exponent. -/
structure IsBinary (p : NumberParts) : Prop where
  whole : IsWhole p.whole
  fraction : AllDigits p.fraction
  marked : p.fraction = [] → p.exponent ≠ none

end NumberParts

theorem exponentText_append_head (e : Int) (rest : List Char) :
    (exponentText e ++ rest).head? = some 'e' := by
  simp [exponentText]

theorem exponentPart_elim (exponent : Option Int) {rest : List Char} (hr : EndsNumber rest) :
    exponentPart (exponent.elim [] exponentText ++ rest) = (exponent, rest) := by
  cases exponent with
  | none => exact exponentPart_of_ends hr
  | some e => exact exponentPart_append e hr.noDigitNext

/-- What stands behind the digits of a number: its exponent, or what follows it. -/
theorem elim_exponentText_head (exponent : Option Int) {rest : List Char} (hr : EndsNumber rest) :
    ∀ c ∈ (exponent.elim [] exponentText ++ rest).head?, c.isDigit = false ∧ c ≠ '.' := by
  cases exponent with
  | none => exact fun c hc => ⟨(hr c hc).1, (hr c hc).2.1⟩
  | some e =>
    intro c hc
    rw [Option.elim_some, exponentText_append_head, Option.mem_some_iff] at hc
    subst hc
    decide

/-- **A binary number** is read from the text of its parts. -/
theorem readNumber_text (dialect : Dialect) (negative : Bool) {p : NumberParts} (hp : p.IsBinary)
    {rest : List Char} (hr : EndsNumber rest) :
    readNumber dialect negative (p.text ++ rest) = ofBinary dialect (p.value negative) rest := by
  obtain ⟨whole, fraction, exponent⟩ := p
  obtain ⟨hwhole, hfraction, hmarked⟩ := hp
  dsimp only at hwhole hfraction hmarked
  have hbehind := elim_exponentText_head exponent hr
  have hexponent := exponentPart_elim exponent hr
  simp only [NumberParts.text, List.append_assoc]
  generalize exponent.elim [] exponentText ++ rest = behind at hbehind hexponent
  obtain ⟨c, more, rfl⟩ := List.exists_cons_of_ne_nil hwhole.ne_nil
  by_cases hf : fraction = []
  · subst hf
    obtain ⟨e, rfl⟩ := Option.ne_none_iff_exists'.1 (hmarked rfl)
    have hdot : behind.head? ≠ some '.' := fun h => (hbehind '.' h).2 rfl
    have hw := wholeDigits_append hwhole (fun d hd => (hbehind d hd).1)
    rw [List.cons_append] at hw
    simp [readNumber, hw, fractionDigits_of_ends hdot, hexponent, NumberParts.value]
  · have hdot : NoDigitNext ('.' :: (fraction ++ behind)) := by
      intro d hd
      cases hd
      rfl
    have hfrac := fractionDigits_append hfraction hf (fun d hd => (hbehind d hd).1)
    obtain ⟨f, fs, rfl⟩ := List.exists_cons_of_ne_nil hf
    simp only [hf, if_false, List.cons_append] at hdot hfrac ⊢
    have hw := wholeDigits_append hwhole hdot
    rw [List.cons_append] at hw
    simp [readNumber, hw, hfrac, hexponent, NumberParts.value]

theorem readNumber_digits (dialect : Dialect) (negative : Bool) (n : Nat) {rest : List Char}
    (hr : EndsNumber rest) :
    readNumber dialect negative (Nat.toDigits 10 n ++ rest) =
      if integerDigitLimit < Binary64.digitCount n then .error (.longInteger (Binary64.digitCount n))
      else .ok (.int (if negative then -(n : Int) else n), rest) := by
  have hvalue := ofDigits_toDigits n
  have hcount : Binary64.digitCount n = (Nat.toDigits 10 n).length := rfl
  have hwhole := wholeDigits_append (isWhole_toDigits n) hr.noDigitNext
  obtain ⟨c, more, hc⟩ := List.exists_cons_of_ne_nil (Nat.toDigits_ne_nil (b := 10) (n := n))
  have hdot : rest.head? ≠ some '.' := fun h => (hr '.' h).2.1 rfl
  rw [hcount]
  rw [hc] at hvalue hwhole ⊢
  rw [readNumber, hwhole]
  simp only [fractionDigits_of_ends hdot, exponentPart_of_ends hr, hvalue, int]

/-- **An integer** is read from its digits, if they are not too many. -/
theorem readNumber_toDigits (dialect : Dialect) (negative : Bool) {n : Nat}
    (hn : Binary64.digitCount n ≤ integerDigitLimit) {rest : List Char} (hr : EndsNumber rest) :
    readNumber dialect negative (Nat.toDigits 10 n ++ rest) =
      .ok (.int (if negative then -(n : Int) else n), rest) := by
  rw [readNumber_digits dialect negative n hr, if_neg (Nat.not_lt.2 hn)]

/-! ## The shortest numeral -/

theorem IsWhole.of_head {ds : List Char} (hd : AllDigits ds) (hne : ds ≠ [])
    (hz : ds.head? ≠ some '0') : IsWhole ds := ⟨hd, hne, fun h => absurd h hz⟩

/-- **A numeral in full layout** has the parts of a binary number, and its value. -/
theorem exists_parts_layOut (d : Decimal) (hd : d.coefficient ≠ 0) :
    ∃ p : NumberParts, p.text = NumeralFormat.full.layOut d ∧ p.IsBinary ∧
      ∀ negative, p.value negative = Binary64.ofDecimal negative d.coefficient d.exponent := by
  obtain ⟨coefficient, exponent⟩ := d
  dsimp only at hd
  have hdigits := allDigits_toDigits coefficient
  have hvalue := ofDigits_toDigits coefficient
  have hhead := head?_toDigits_ne coefficient hd
  have hne : Nat.toDigits 10 coefficient ≠ [] := Nat.toDigits_ne_nil
  simp only [NumeralFormat.layOut, NumeralFormat.full]
  generalize Nat.toDigits 10 coefficient = ds at hdigits hvalue hhead hne
  obtain ⟨first, more, rfl⟩ := List.exists_cons_of_ne_nil hne
  split
  · split
    · -- a point in front of all digits
      next h =>
      refine ⟨⟨['0'], zeros ((first :: more).length + exponent).natAbs ++ first :: more, none⟩,
        by simp [NumberParts.text], ⟨isWhole_toDigits 0, (allDigits_zeros _).append hdigits, by simp⟩,
        fun negative => ?_⟩
      have hexp : (0 : Int) - (zeros ((first :: more).length + exponent).natAbs ++
          first :: more).length = exponent := by
        rw [List.length_append, zeros, List.length_replicate]
        omega
      have hzero : ofDigits (['0'] ++ (zeros ((first :: more).length + exponent).natAbs ++
          first :: more)) = coefficient := by
        rw [← hvalue, ofDigits_append, ofDigits_zeros_append]
        simp [ofDigits]
      rw [NumberParts.value, Option.getD_none, hexp, hzero]
    split
    · -- a point between two digits
      next h hlt =>
      obtain ⟨n, hn⟩ := Int.eq_ofNat_of_zero_le (Int.le_of_lt (Int.not_le.1 h))
      rw [hn] at h hlt ⊢
      rw [Int.toNat_natCast]
      have hfrac : (first :: more).drop n ≠ [] := by
        simp only [ne_eq, List.drop_eq_nil_iff]
        omega
      refine ⟨⟨(first :: more).take n, (first :: more).drop n, none⟩,
        by rw [NumberParts.text, if_neg hfrac]; simp,
        ⟨.of_head (hdigits.take n) ?_ ?_, hdigits.drop n, fun h => absurd h hfrac⟩, fun negative => ?_⟩
      · have hn0 : n ≠ 0 := by omega
        simp [hn0]
      · rw [List.head?_take, if_neg (by omega)]
        exact hhead
      · have hexp : (0 : Int) - ((first :: more).drop n).length = exponent := by
          rw [List.length_drop]
          omega
        rw [NumberParts.value, Option.getD_none, hexp, List.take_append_drop, hvalue]
    · -- zeros behind the digits, and `.0`
      next h hlt =>
      obtain ⟨k, rfl⟩ := Int.eq_ofNat_of_zero_le (show 0 ≤ exponent by omega)
      have hk : ((first :: more).length + (k : Int)).toNat - (first :: more).length = k := by omega
      rw [hk]
      refine ⟨⟨first :: more ++ zeros k, ['0'], none⟩, by simp [NumberParts.text],
        ⟨.of_head (hdigits.append (allDigits_zeros k)) (by simp) hhead, allDigits_zeros 1, by simp⟩,
        fun negative => ?_⟩
      have hzero : ofDigits (first :: more ++ zeros k ++ ['0']) = coefficient * 10 ^ k * 10 := by
        rw [ofDigits_append, ofDigits_append_zeros, hvalue]
        simp [ofDigits]
      rw [NumberParts.value, hzero, Binary64.ofDecimal_mul_ten, Binary64.ofDecimal_mul_ten_pow]
      simp
  · -- one digit in front of the point, and an exponent
    have hone : IsWhole [first] :=
      .of_head (hdigits.take 1) (by simp) hhead
    refine ⟨⟨[first], more, some ((first :: more).length + exponent - 1)⟩, ?_,
      ⟨hone, hdigits.drop 1, by simp⟩, fun negative => ?_⟩
    · cases more <;> simp [NumberParts.text]
    · have hexp : ((first :: more).length + exponent - 1 : Int) - more.length = exponent := by
        rw [List.length_cons]
        omega
      rw [NumberParts.value, Option.getD_some, hexp, List.singleton_append, hvalue]

/-! ## Numbers -/

/-- Whether a number is read back from its text: a binary number is finite, and an integer does not
have too many digits. -/
def isReadableNumber : Number → Bool
  | .int i => Binary64.digitCount i.natAbs ≤ integerDigitLimit
  | .float x => x.isFinite

/-- A finite binary number is written as the parts of a binary number. -/
theorem exists_parts_fullNumeral (negative : Bool) (mantissa exponent : Nat)
    (canonical : mantissa < 2 ^ 53 ∧ exponent ≤ 2045 ∧ (exponent = 0 ∨ 2 ^ 52 ≤ mantissa)) :
    let x := Binary64.finite negative mantissa exponent canonical
    ∃ p : NumberParts, x.fullNumeral = Binary64.signed negative p.text ∧ p.IsBinary ∧
      p.value negative = x := by
  intro x
  by_cases hm : mantissa = 0
  · obtain rfl := hm
    obtain rfl : exponent = 0 := canonical.2.2.resolve_right (by decide)
    exact ⟨⟨['0'], ['0'], none⟩, rfl, ⟨isWhole_toDigits 0, allDigits_zeros 1, by simp⟩, rfl⟩
  · obtain ⟨p, htext, hp, hvalue⟩ := exists_parts_layOut _
      (Decimal.coefficient_shortest_ne_zero negative mantissa exponent canonical hm)
    refine ⟨p, ?_, hp, (hvalue negative).trans
      (Decimal.ofDecimal_shortest negative mantissa exponent canonical hm)⟩
    rw [htext]
    simp only [x, Binary64.fullNumeral, Binary64.numeral, hm, if_false]

theorem text_int (i : Int) :
    (Number.int i).text = Binary64.signed (decide (i < 0)) (Nat.toDigits 10 i.natAbs) := by
  show (toString i).toList = _
  rw [Int.toString_eq_repr, Int.repr_eq_if]
  by_cases h : 0 ≤ i
  · have habs : i.toNat = i.natAbs := by omega
    simp [h, habs, Binary64.signed, Int.not_lt.2 h]
  · have habs : (-i).toNat = i.natAbs := by omega
    simp [h, habs, Binary64.signed, Int.not_le.1 h]

/-- **A number** is a sign and a magnitude that begins with a digit and is read as the number. -/
theorem exists_signed_numberText (dialect : Dialect) {n : Number} (hn : isReadableNumber n = true) :
    ∃ negative magnitude, numberText n = Binary64.signed negative magnitude ∧
      (∃ c more, magnitude = c :: more ∧ c.isDigit = true) ∧
      ∀ rest, EndsNumber rest →
        readNumber dialect negative (magnitude ++ rest) = .ok (.num n, rest) := by
  match n with
  | .int i =>
    obtain ⟨c, more, hc⟩ :=
      List.exists_cons_of_ne_nil (Nat.toDigits_ne_nil (b := 10) (n := i.natAbs))
    refine ⟨_, _, text_int i, ⟨c, more, hc, ?_⟩, fun rest hr => ?_⟩
    · exact allDigits_toDigits i.natAbs c (hc ▸ List.mem_cons_self)
    · have hsigned : (if i < 0 then -(i.natAbs : Int) else i.natAbs) = i := by omega
      rw [readNumber_toDigits dialect _ (of_decide_eq_true hn) hr]
      simp only [decide_eq_true_eq, hsigned]
      rfl
  | .float (.finite negative mantissa exponent canonical) =>
    obtain ⟨p, htext, hp, hvalue⟩ := exists_parts_fullNumeral negative mantissa exponent canonical
    obtain ⟨c, more, hc⟩ := List.exists_cons_of_ne_nil hp.whole.ne_nil
    refine ⟨negative, p.text, htext, ⟨c, _, by rw [NumberParts.text, hc]; rfl, ?_⟩, fun rest hr => ?_⟩
    · exact hp.whole.digits c (hc ▸ List.mem_cons_self)
    · rw [readNumber_text dialect negative hp hr, hvalue]
      rfl

theorem readScalar_of_digit (dialect : Dialect) {c : Char} (hc : c.isDigit = true)
    (more : List Char) :
    readScalar dialect (c :: more) = readNumber dialect false (c :: more) := by
  unfold readScalar
  split <;> simp_all

theorem readScalar_minus (dialect : Dialect) {c : Char} (hc : c.isDigit = true)
    (more : List Char) :
    readScalar dialect ('-' :: c :: more) = readNumber dialect true (c :: more) := by
  unfold readScalar
  split <;> simp_all

/-- Whether a number is read back from its text in a dialect: an infinite or undefined one only
where it is a value. -/
def isReadableNumberIn (dialect : Dialect) : Number → Bool
  | .int i => isReadableNumber (.int i)
  | .float x => x.isFinite || dialect.allowsNonFinite

theorem isReadableNumberIn_of_isReadableNumber {dialect : Dialect} {n : Number}
    (hn : isReadableNumber n = true) : isReadableNumberIn dialect n = true := by
  cases n with
  | int i => exact hn
  | float x =>
    have hx : x.isFinite = true := hn
    simp [isReadableNumberIn, hx]

theorem isReadableNumberIn_finite {n : Number} (hn : isReadableNumberIn .finite n = true) :
    isReadableNumber n = true := by
  cases n with
  | int i => exact hn
  | float x => simpa [isReadableNumberIn, isReadableNumber, Dialect.finite] using hn

/-- **A number is read from its text.** -/
theorem readScalar_numberText {dialect : Dialect} {n : Number}
    (hn : isReadableNumberIn dialect n = true) {rest : List Char} (hr : EndsNumber rest) :
    readScalar dialect (numberText n ++ rest) = .ok (.num n, rest) := by
  by_cases hfinite : isReadableNumber n = true
  · obtain ⟨negative, magnitude, htext, ⟨c, more, rfl, hc⟩, hread⟩ :=
      exists_signed_numberText dialect hfinite
    rw [htext, ← hread rest hr]
    cases negative with
    | false => exact readScalar_of_digit dialect hc _
    | true => exact readScalar_minus dialect hc _
  · match n with
    | .int i => exact absurd hn hfinite
    | .float (.finite _ _ _ _) => exact absurd rfl hfinite
    | .float (.infinite negative) =>
      have hvalue : dialect.allowsNonFinite = true := hn
      cases negative <;> simp [numberText, readScalar, ofBinary, hvalue]
    | .float .nan =>
      have hvalue : dialect.allowsNonFinite = true := hn
      simp [numberText, readScalar, ofBinary, hvalue]

/-- What the text of a number begins with: a sign, a digit or the letter of a name. -/
def BeginsNumber (c : Char) : Prop := c = '-' ∨ c.isDigit = true ∨ c = 'I' ∨ c = 'N'

instance : DecidablePred BeginsNumber := fun c =>
  inferInstanceAs (Decidable (c = '-' ∨ c.isDigit = true ∨ c = 'I' ∨ c = 'N'))

theorem BeginsNumber.ne {c d : Char} (hc : BeginsNumber c) (hd : ¬ BeginsNumber d) : c ≠ d :=
  fun h => hd (h ▸ hc)

theorem exists_numberText_eq_cons (n : Number) :
    ∃ c more, numberText n = c :: more ∧ BeginsNumber c := by
  have hsigned : ∀ {negative : Bool} {c : Char} {more : List Char}, c.isDigit = true →
      ∃ d rest, Binary64.signed negative (c :: more) = d :: rest ∧ BeginsNumber d := by
    intro negative c more hc
    cases negative with
    | false => exact ⟨c, more, rfl, .inr (.inl hc)⟩
    | true => exact ⟨'-', c :: more, rfl, .inl rfl⟩
  match n with
  | .int i =>
    obtain ⟨c, more, hc⟩ :=
      List.exists_cons_of_ne_nil (Nat.toDigits_ne_nil (b := 10) (n := i.natAbs))
    have hdigit : c.isDigit = true := allDigits_toDigits i.natAbs c (hc ▸ List.mem_cons_self)
    have htext : numberText (.int i) = _ := text_int i
    rw [htext, hc]
    exact hsigned hdigit
  | .float (.finite negative mantissa exponent canonical) =>
    obtain ⟨_, magnitude, htext, ⟨c, more, rfl, hc⟩, -⟩ :=
      exists_signed_numberText .finite (n := .float (.finite negative mantissa exponent canonical))
        rfl
    rw [htext]
    exact hsigned hc
  | .float (.infinite false) => exact ⟨'I', _, rfl, .inr (.inr (.inl rfl))⟩
  | .float (.infinite true) => exact ⟨'-', _, rfl, .inl rfl⟩
  | .float .nan => exact ⟨'N', _, rfl, .inr (.inr (.inr rfl))⟩

end Json

end FormStudio
