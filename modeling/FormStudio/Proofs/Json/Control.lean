import FormStudio.Proofs.Json.Numeral

/-!
# Written texts have no control characters

Strings are written with escapes for control characters, so the text of a value has none but the
line breaks between its items (`Json.allPlain_write`). So it has no carriage returns and no tabs,
whatever stands in the strings of the value.
-/
namespace FormStudio

/-- Whether a character is a line break or no control character. -/
def isPlain (c : Char) : Bool := 0x20 ≤ c.toNat || c == '\n'

/-- Whether a text has no control characters but line breaks. -/
def AllPlain (cs : List Char) : Prop := ∀ c ∈ cs, isPlain c = true

instance (cs : List Char) : Decidable (AllPlain cs) := List.decidableBAll _ cs

section AllPlain

variable {c : Char} {first second cs : List Char}

@[simp] theorem allPlain_nil : AllPlain [] := List.forall_mem_nil _

@[simp] theorem allPlain_cons : AllPlain (c :: cs) ↔ isPlain c = true ∧ AllPlain cs :=
  List.forall_mem_cons

@[simp] theorem allPlain_append : AllPlain (first ++ second) ↔ AllPlain first ∧ AllPlain second :=
  List.forall_mem_append

theorem AllPlain.not_mem (h : AllPlain cs) (hc : isPlain c = false) : c ∉ cs := by
  intro hmem
  rw [h c hmem] at hc
  cases hc

end AllPlain

namespace Json

/-! ## Numbers -/

theorem AllDigits.allPlain {ds : List Char} (h : AllDigits ds) : AllPlain ds := by
  intro c hc
  have hdigit := h c hc
  simp only [Char.isDigit, Bool.and_eq_true, decide_eq_true_eq, ge_iff_le, UInt32.le_iff_toNat_le]
    at hdigit
  have hlow : 0x20 ≤ c.toNat := Nat.le_trans (by decide) hdigit.1
  rw [isPlain, decide_eq_true hlow, Bool.true_or]

theorem allPlain_exponentText (e : Int) : AllPlain (exponentText e) := by
  have hzeros := (allDigits_zeros (2 - (Nat.toDigits 10 e.natAbs).length)).allPlain
  have hdigits := (allDigits_toDigits e.natAbs).allPlain
  have hsign : isPlain (if e < 0 then '-' else '+') = true := by split <;> decide
  have hmark : isPlain 'e' = true := by decide
  simp [exponentText, hzeros, hdigits, hsign, hmark]

theorem NumberParts.IsBinary.allPlain {p : NumberParts} (hp : p.IsBinary) : AllPlain p.text := by
  have hwhole := hp.whole.digits.allPlain
  have hfraction := hp.fraction.allPlain
  have hpoint : isPlain '.' = true := by decide
  have hexponent : AllPlain (p.exponent.elim [] exponentText) := by
    cases p.exponent with
    | none => exact allPlain_nil
    | some e => exact allPlain_exponentText e
  unfold NumberParts.text
  split <;> simp [hwhole, hfraction, hpoint, hexponent]

theorem allPlain_signed {negative : Bool} {magnitude : List Char} (h : AllPlain magnitude) :
    AllPlain (Binary64.signed negative magnitude) := by
  cases negative with
  | true => exact allPlain_cons.2 ⟨by decide, h⟩
  | false => exact h

theorem allPlain_text (n : Number) : AllPlain n.text := by
  match n with
  | .int i =>
    have htext : (Number.int i).text = _ := text_int i
    rw [htext]
    exact allPlain_signed (allDigits_toDigits i.natAbs).allPlain
  | .float (.finite negative mantissa exponent canonical) =>
    obtain ⟨p, htext, hp, -⟩ := exists_parts_fullNumeral negative mantissa exponent canonical
    have hnumeral : (Number.float (.finite negative mantissa exponent canonical)).text = _ := htext
    rw [hnumeral]
    exact allPlain_signed hp.allPlain
  | .float (.infinite false) => decide
  | .float (.infinite true) => decide
  | .float .nan => decide

theorem allPlain_numberText (n : Number) : AllPlain (numberText n) := by
  unfold numberText
  split
  · decide
  · decide
  · decide
  · exact allPlain_text n

/-! ## Strings -/

theorem allPlain_unitEscape (unit : Nat) : AllPlain (unitEscape unit) := by
  have hdigit : ∀ n < 16, isPlain (hexDigit n) = true := by decide
  have hmod : ∀ n, isPlain (hexDigit (n % 16)) = true :=
    fun n => hdigit _ (Nat.mod_lt n (by decide))
  have hmark : isPlain '\\' = true ∧ isPlain 'u' = true := by decide
  simp [unitEscape, hmod, hmark]

theorem allPlain_charEscape (c : Char) : AllPlain (charEscape c) := by
  unfold charEscape
  dsimp only
  split
  · exact allPlain_unitEscape _
  · exact allPlain_append.2 ⟨allPlain_unitEscape _, allPlain_unitEscape _⟩

theorem allPlain_escapeChar (ascii : Bool) (c : Char) : AllPlain (escapeChar ascii c) := by
  have hshort : ∀ d, isPlain d = true → AllPlain ['\\', d] := by
    intro d hd
    exact allPlain_cons.2 ⟨by decide, allPlain_cons.2 ⟨hd, allPlain_nil⟩⟩
  unfold escapeChar
  -- the characters with a short escape
  iterate 7
    split
    exact hshort _ (by decide)
  split
  · exact allPlain_unitEscape _
  split
  · exact allPlain_charEscape c
  · next hcontrol _ =>
    have hplain : isPlain c = true := by
      rw [isPlain, decide_eq_true (Nat.le_of_not_lt hcontrol), Bool.true_or]
    exact allPlain_cons.2 ⟨hplain, allPlain_nil⟩

theorem allPlain_quote (ascii : Bool) (s : String) : AllPlain (quote ascii s) := by
  have hmark : isPlain '"' = true := by decide
  have hbody : AllPlain (s.toList.flatMap (escapeChar ascii)) :=
    List.forall_mem_flatMap.2 fun c _ => allPlain_escapeChar ascii c
  simp [quote, hmark, hbody]

/-! ## Values -/

theorem allPlain_blanks (n : Nat) : AllPlain (List.replicate n ' ') := by
  intro c hc
  rw [List.eq_of_mem_replicate hc]
  rfl

theorem allPlain_gap (style : Style) (depth : Nat) : AllPlain (style.gap depth) := by
  unfold Style.gap
  split
  · exact allPlain_nil
  · exact allPlain_cons.2 ⟨rfl, allPlain_blanks _⟩

theorem allPlain_separator (style : Style) (depth : Nat) : AllPlain (style.separator depth) := by
  unfold Style.separator
  split
  · decide
  · exact allPlain_cons.2 ⟨rfl, allPlain_cons.2 ⟨rfl, allPlain_blanks _⟩⟩

/-- The marks around and between values. -/
theorem isPlain_mark : ∀ c ∈ ['[', ']', '\x7b', '\x7d', ':', ' '], isPlain c = true := by
  have hmarks : AllPlain ['[', ']', '\x7b', '\x7d', ':', ' '] := by decide
  exact hmarks

mutual

/-- **A written text has no control characters** but line breaks. -/
theorem allPlain_write (style : Style) (depth : Nat) : ∀ v, AllPlain (write style depth v)
  | .null => by
    rw [write]
    decide
  | .bool true => by
    rw [write]
    decide
  | .bool false => by
    rw [write]
    decide
  | .num n => by
    rw [write]
    exact allPlain_numberText n
  | .str s => by
    rw [write]
    exact allPlain_quote style.ascii s
  | .arr [] => by
    rw [write]
    decide
  | .arr (item :: items) => by
    simp [write, isPlain_mark, allPlain_gap, allPlain_write style (depth + 1) item,
      allPlain_writeItems style (depth + 1) items]
  | .obj [] => by
    rw [write]
    decide
  | .obj ((key, value) :: members) => by
    simp [write, isPlain_mark, allPlain_gap, allPlain_quote, allPlain_write style (depth + 1) value,
      allPlain_writeMembers style (depth + 1) members]

theorem allPlain_writeItems (style : Style) (depth : Nat) :
    ∀ items, AllPlain (writeItems style depth items)
  | [] => allPlain_nil
  | item :: items => by
    simp [writeItems, allPlain_separator, allPlain_write style depth item,
      allPlain_writeItems style depth items]

theorem allPlain_writeMembers (style : Style) (depth : Nat) :
    ∀ members, AllPlain (writeMembers style depth members)
  | [] => allPlain_nil
  | (key, value) :: members => by
    simp [writeMembers, isPlain_mark, allPlain_separator, allPlain_quote,
      allPlain_write style depth value, allPlain_writeMembers style depth members]

end

theorem allPlain_print (style : Style) (v : Json) : AllPlain (print style v).toList := by
  rw [print_eq, String.toList_ofList]
  exact allPlain_write style 0 v

end Json

end FormStudio
