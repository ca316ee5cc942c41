import FormStudio.Proofs.Json.RoundTrip
import FormStudio.Text.Blank

/-!
# Blanks around a text

What stands behind a value stays unread, and blanks at the end of a text stay there
(`Json.readValue_append`). The fuel does not matter to this, as long as there is enough for the
length of the text. So blanks around a text do not count (`Json.read_blanks`).

Only four characters are blanks between the parts of a text, but many more are trimmed from its
ends. A value neither begins nor ends with any of them (`Json.EndsIn`), so a text that is read is
also read when it is trimmed (`Json.read_trimText`).
-/
namespace FormStudio

namespace Json

variable {dialect : Dialect} {cs rest tail : List Char}

/-! ## Blanks at the end -/

theorem isSpace_iff {c : Char} : isSpace c = true ↔ c = ' ' ∨ c = '\n' ∨ c = '\r' ∨ c = '\t' := by
  simp [isSpace, or_assoc]

theorem isBlank_of_isSpace {c : Char} (h : isSpace c = true) : isBlank c = true := by
  rcases isSpace_iff.1 h with rfl | rfl | rfl | rfl <;> decide

/-- What was found in front of a tail, when the tail is put back behind what is left. -/
def withTail {α : Type} (tail : List Char) (found : α × List Char) : α × List Char :=
  (found.1, found.2 ++ tail)

theorem AllSpace.ne {c : Char} (ht : AllSpace (c :: tail)) {d : Char} (hd : isSpace d = false) :
    c ≠ d := by
  rintro rfl
  rw [ht c List.mem_cons_self] at hd
  cases hd

theorem AllSpace.endsNumber (ht : AllSpace tail) : EndsNumber tail := by
  simpa using endsNumber_space_append ht endsNumber_nil

theorem skipSpace_of_allSpace (ht : AllSpace tail) : skipSpace tail = [] := by
  simpa [skipSpace] using skipSpace_append ht []

theorem allSpace_of_skipSpace (h : skipSpace cs = []) : AllSpace cs := by
  have hcs : cs.takeWhile isSpace ++ skipSpace cs = cs := List.takeWhile_append_dropWhile
  rw [h, List.append_nil] at hcs
  rw [← hcs]
  exact fun c hc => List.all_eq_true.1 List.all_takeWhile c hc

theorem skipSpace_append_nil (ht : AllSpace tail) (h : skipSpace cs = []) :
    skipSpace (cs ++ tail) = [] := by
  rw [skipSpace_append (allSpace_of_skipSpace h), skipSpace_of_allSpace ht]

theorem skipSpace_append_cons {d : Char} {more : List Char} (h : skipSpace cs = d :: more) :
    skipSpace (cs ++ tail) = d :: (more ++ tail) := by
  induction cs with
  | nil => cases h
  | cons c cs ih =>
    rw [List.cons_append]
    cases hc : isSpace c with
    | true =>
      rw [skipSpace, List.dropWhile_cons_of_pos hc] at h ⊢
      exact ih h
    | false =>
      rw [skipSpace_cons hc] at h ⊢
      cases h
      rfl

theorem skipSpace_suffix (cs : List Char) : skipSpace cs <:+ cs := List.dropWhile_suffix isSpace

/-! ## Numbers in front of blanks -/

theorem takeDigits_append_space (ht : AllSpace tail) (cs : List Char) :
    takeDigits (cs ++ tail) = withTail tail (takeDigits cs) := by
  induction cs with
  | nil => exact takeDigits_append (List.forall_mem_nil _) ht.endsNumber.noDigitNext
  | cons c cs ih =>
    obtain ⟨htake, hdrop⟩ := Prod.mk.inj ih
    unfold takeDigits withTail
    rw [List.cons_append]
    cases hc : c.isDigit with
    | true =>
      rw [List.takeWhile_cons_of_pos hc, List.dropWhile_cons_of_pos hc,
        List.takeWhile_cons_of_pos hc, List.dropWhile_cons_of_pos hc, htake, hdrop]
      rfl
    | false => simp [hc]

theorem wholeDigits_append_space (ht : AllSpace tail) (cs : List Char) :
    wholeDigits (cs ++ tail) = withTail tail (wholeDigits cs) := by
  have hopen : ∀ ds : List Char, ds.head? ≠ some '0' → wholeDigits ds = takeDigits ds := by
    intro ds hds
    unfold wholeDigits
    split
    · exact absurd rfl hds
    · rfl
  cases cs with
  | nil =>
    have hhead : tail.head? ≠ some '0' := fun h => absurd (ht.endsNumber _ h).1 (by decide)
    rw [List.nil_append, hopen tail hhead]
    exact takeDigits_append_space ht []
  | cons c cs =>
    by_cases hc : c = '0'
    · subst hc
      rfl
    · have hhead : ∀ ds : List Char, (c :: ds).head? ≠ some '0' := fun ds h => hc (Option.some.inj h)
      rw [hopen (c :: cs) (hhead cs), List.cons_append, hopen _ (hhead (cs ++ tail)),
        ← List.cons_append]
      exact takeDigits_append_space ht (c :: cs)

theorem fractionDigits_append_space (ht : AllSpace tail) (cs : List Char) :
    fractionDigits (cs ++ tail) = withTail tail (fractionDigits cs) := by
  cases cs with
  | nil => exact fractionDigits_of_ends fun h => (ht.endsNumber _ h).2.1 rfl
  | cons c cs =>
    by_cases hc : c = '.'
    · subst hc
      rw [List.cons_append, fractionDigits, fractionDigits, takeDigits_append_space ht]
      cases hdigits : takeDigits cs with
      | mk ds more => cases ds <;> rfl
    · rw [List.cons_append, fractionDigits, fractionDigits]
      · rfl
      · exact fun _ h => hc (List.cons.inj h).1
      · exact fun _ h => hc (List.cons.inj h).1

theorem exponentSign_append_space (ht : AllSpace tail) (cs : List Char) :
    exponentSign (cs ++ tail) = withTail tail (exponentSign cs) := by
  have hplain : ∀ {c : Char} {more : List Char}, c ≠ '-' → c ≠ '+' →
      exponentSign (c :: more) = (false, c :: more) := by
    intro c more hminus hplus
    rw [exponentSign]
    · exact fun _ h => hminus (List.cons.inj h).1
    · exact fun _ h => hplus (List.cons.inj h).1
  cases cs with
  | nil =>
    cases tail with
    | nil => rfl
    | cons c tail => exact hplain (ht.ne (by decide)) (ht.ne (by decide))
  | cons c cs =>
    by_cases hminus : c = '-'
    · subst hminus
      rfl
    · by_cases hplus : c = '+'
      · subst hplus
        rfl
      · rw [List.cons_append, hplain hminus hplus, hplain hminus hplus]
        rfl

theorem exponentPart_append_space (ht : AllSpace tail) (cs : List Char) :
    exponentPart (cs ++ tail) = withTail tail (exponentPart cs) := by
  cases cs with
  | nil => exact exponentPart_of_ends ht.endsNumber
  | cons c cs =>
    rw [List.cons_append, exponentPart, exponentPart]
    by_cases hc : c = 'e' ∨ c = 'E'
    · rw [if_pos hc, if_pos hc, exponentSign_append_space ht]
      dsimp only [withTail]
      rw [takeDigits_append_space ht]
      cases takeDigits (exponentSign cs).2 with
      | mk ds more => cases ds <;> rfl
    · rw [if_neg hc, if_neg hc]
      rfl

theorem readNumber_append_space (ht : AllSpace tail) (negative : Bool) (cs : List Char) :
    readNumber dialect negative (cs ++ tail) =
      (readNumber dialect negative cs).map (withTail tail) := by
  unfold readNumber
  rw [wholeDigits_append_space ht]
  cases wholeDigits cs with
  | mk whole afterWhole =>
    cases whole with
    | nil => rfl
    | cons d whole =>
      dsimp only [withTail]
      rw [fractionDigits_append_space ht]
      cases fractionDigits afterWhole with
      | mk fraction afterFraction =>
        dsimp only [withTail]
        rw [exponentPart_append_space ht]
        cases exponentPart afterFraction with
        | mk exponent rest =>
          dsimp only [withTail]
          cases fraction with
          | nil =>
            cases exponent with
            | none =>
              dsimp only
              split <;> rfl
            | some e =>
              dsimp only [ofBinary]
              split <;> rfl
          | cons c fraction =>
            dsimp only [ofBinary]
            split <;> rfl

/-! ## Scalars and strings in front of blanks -/

/-- What a word that is cut from a text and its tail is cut from. -/
theorem append_eq_word {word more : List Char} (ht : AllSpace tail)
    (hword : word.any isSpace = false) (h : cs ++ tail = word ++ more) :
    ∃ rest, cs = word ++ rest ∧ more = rest ++ tail := by
  rcases List.append_eq_append_iff.1 h with ⟨middle, hw, htail⟩ | ⟨middle, hcs, hmore⟩
  · -- what of the word would stand in the tail is nothing
    have hmiddle : middle = [] := by
      cases middle with
      | nil => rfl
      | cons c middle =>
        have hspace := ht c (htail ▸ List.mem_cons_self)
        have hmem : c ∈ word := hw ▸ List.mem_append_right cs List.mem_cons_self
        exact absurd hspace (List.any_eq_false.1 hword c hmem)
    subst hmiddle
    refine ⟨[], ?_, ?_⟩
    · simpa using hw.symm
    · simpa using htail.symm
  · exact ⟨middle, hcs, hmore⟩

theorem ofBinary_append (x : Binary64) (cs tail : List Char) :
    ofBinary dialect x (cs ++ tail) = (ofBinary dialect x cs).map (withTail tail) := by
  unfold ofBinary
  split <;> rfl

theorem readScalar_append_space (ht : AllSpace tail) (cs : List Char) :
    readScalar dialect (cs ++ tail) = (readScalar dialect cs).map (withTail tail) := by
  have hword : ∀ word : List Char, word.any isSpace = false → ∀ {more : List Char},
      cs ++ tail = word ++ more → ∃ rest, cs = word ++ rest ∧ more = rest ++ tail :=
    fun word h _ heq => append_eq_word ht h heq
  conv => lhs; rw [readScalar.eq_def]
  split
  · next heq =>
    obtain ⟨rest, rfl, rfl⟩ := hword ['n', 'u', 'l', 'l'] rfl heq
    rfl
  · next heq =>
    obtain ⟨rest, rfl, rfl⟩ := hword ['t', 'r', 'u', 'e'] rfl heq
    rfl
  · next heq =>
    obtain ⟨rest, rfl, rfl⟩ := hword ['f', 'a', 'l', 's', 'e'] rfl heq
    rfl
  · next heq =>
    obtain ⟨rest, rfl, rfl⟩ := hword ['N', 'a', 'N'] rfl heq
    exact ofBinary_append _ _ _
  · next heq =>
    obtain ⟨rest, rfl, rfl⟩ := hword ['I', 'n', 'f', 'i', 'n', 'i', 't', 'y'] rfl heq
    exact ofBinary_append _ _ _
  · next heq =>
    obtain ⟨rest, rfl, rfl⟩ := hword ['-', 'I', 'n', 'f', 'i', 'n', 'i', 't', 'y'] rfl heq
    exact ofBinary_append _ _ _
  · next hname heq =>
    obtain ⟨rest, rfl, rfl⟩ := hword ['-'] rfl heq
    have hopen : readScalar dialect ('-' :: rest) = readNumber dialect true rest := by
      rw [readScalar]
      rintro more rfl
      exact hname (more ++ tail) rfl
    rw [readNumber_append_space ht]
    exact congrArg _ hopen.symm
  · next hn htrue hf hN hI hminusI hminus =>
    have hopen : readScalar dialect cs = readNumber dialect false cs := by
      rw [readScalar]
      · rintro more rfl
        exact hn (more ++ tail) rfl
      · rintro more rfl
        exact htrue (more ++ tail) rfl
      · rintro more rfl
        exact hf (more ++ tail) rfl
      · rintro more rfl
        exact hN (more ++ tail) rfl
      · rintro more rfl
        exact hI (more ++ tail) rfl
      · rintro more rfl
        exact hminusI (more ++ tail) rfl
      · rintro more rfl
        exact hminus (more ++ tail) rfl
    rw [readNumber_append_space ht, hopen]

theorem hexValue?_of_isSpace {c : Char} (h : isSpace c = true) : hexValue? c = none := by
  rcases isSpace_iff.1 h with rfl | rfl | rfl | rfl <;> decide

theorem shortEscape?_of_isSpace {c : Char} (h : isSpace c = true) : shortEscape? c = none := by
  rcases isSpace_iff.1 h with rfl | rfl | rfl | rfl <;> rfl

theorem scanUnits_of_allSpace (ht : AllSpace tail) : scanUnits tail = none := by
  induction tail with
  | nil => rfl
  | cons c tail ih =>
    have htail : scanUnits tail = none := ih fun d hd => ht d (List.mem_cons_of_mem c hd)
    by_cases hcontrol : c.toNat < 0x20
    · rw [scanUnits, if_pos (.inl hcontrol)]
      · exact ht.ne (by decide)
      · exact fun _ _ _ _ _ h => absurd h (ht.ne (by decide))
      · exact fun _ _ h => absurd h (ht.ne (by decide))
    · rw [scanUnits_plain (ht.ne (by decide)) (ht.ne (by decide)) hcontrol, htail]
      rfl

/-- An escape that runs into the tail is none. -/
theorem scanUnits_cutEscape (ht : AllSpace tail)
    (hcut : ∀ a b c d more, cs ≠ a :: b :: c :: d :: more) :
    scanUnits ('\\' :: 'u' :: (cs ++ tail)) = none := by
  rw [scanUnits.eq_def]
  split
  · next heq => cases heq
  · next heq => cases heq
  · next a b c d rest heq =>
    replace heq : cs ++ tail = a :: b :: c :: d :: rest := by
      injection heq with _ heq
      injection heq
    have hspace : isSpace a = true ∨ isSpace b = true ∨ isSpace c = true ∨ isSpace d = true := by
      match cs, hcut with
      | [], _ =>
        subst heq
        exact .inl (ht a (by simp))
      | [_], _ =>
        obtain ⟨-, rfl⟩ := List.cons.inj heq
        exact .inr (.inl (ht b (by simp)))
      | [_, _], _ =>
        obtain ⟨-, heq⟩ := List.cons.inj heq
        obtain ⟨-, rfl⟩ := List.cons.inj heq
        exact .inr (.inr (.inl (ht c (by simp))))
      | [_, _, _], _ =>
        obtain ⟨-, heq⟩ := List.cons.inj heq
        obtain ⟨-, heq⟩ := List.cons.inj heq
        obtain ⟨-, rfl⟩ := List.cons.inj heq
        exact .inr (.inr (.inr (ht d (by simp))))
      | a :: b :: c :: d :: more, hcut => exact absurd rfl (hcut a b c d more)
    have hnone : hexUnit? a b c d = none := by
      unfold hexUnit?
      rcases hspace with h | h | h | h
      · simp [hexValue?_of_isSpace h]
      · simp [hexValue?_of_isSpace h]
      · simp [hexValue?_of_isSpace h]
      · simp [hexValue?_of_isSpace h]
    rw [hnone]
    rfl
  · next e rest _ heq =>
    cases heq
    rfl
  · next heq =>
    cases heq
    rfl

/-- A string that is not closed before the tail is not closed at all. -/
theorem scanUnits_append_space (ht : AllSpace tail) (cs : List Char) :
    scanUnits (cs ++ tail) = (scanUnits cs).map (withTail tail) := by
  fun_induction scanUnits cs with
  | case1 => exact scanUnits_of_allSpace ht
  | case2 => rfl
  | case3 a b c d rest ih =>
    show scanUnits ('\\' :: 'u' :: a :: b :: c :: d :: (rest ++ tail)) = _
    rw [scanUnits, ih]
    cases hexUnit? a b c d with
    | none => rfl
    | some unit => cases scanUnits rest <;> rfl
  | case4 e rest hcut ih =>
    show scanUnits ('\\' :: e :: (rest ++ tail)) = _
    by_cases hu : e = 'u'
    · subst hu
      exact scanUnits_cutEscape ht fun a b c d more h => hcut a b c d more rfl h
    · rw [scanUnits, ih]
      · cases shortEscape? e with
        | none => rfl
        | some unit => cases scanUnits rest <;> rfl
      · exact fun _ _ _ _ _ h => absurd h hu
  | case5 c rest hquote hhex hescape hbad =>
    show scanUnits (c :: (rest ++ tail)) = none
    by_cases hslash : c = '\\'
    · obtain rfl : rest = [] := by
        cases rest with
        | nil => rfl
        | cons e rest => exact (hescape e rest hslash rfl).elim
      subst hslash
      cases tail with
      | nil => rfl
      | cons e tail =>
        rw [List.nil_append, scanUnits, shortEscape?_of_isSpace (ht e List.mem_cons_self)]
        · rfl
        · exact fun _ _ _ _ _ h => absurd h (ht.ne (by decide))
    · rw [scanUnits, if_pos hbad]
      · exact hquote
      · exact fun _ _ _ _ _ h => absurd h hslash
      · exact fun _ _ h => absurd h hslash
  | case6 c rest hquote hhex hescape hplain ih =>
    show scanUnits (c :: (rest ++ tail)) = _
    rw [not_or] at hplain
    rw [scanUnits_plain hquote hplain.2 hplain.1, ih]
    cases scanUnits rest <;> rfl

theorem scanString_append_space (ht : AllSpace tail) (halves : Nat) (cs : List Char) :
    scanString halves (cs ++ tail) = (scanString halves cs).map (withTail tail) := by
  rw [scanString, scanString, scanUnits_append_space ht]
  cases scanUnits cs <;> rfl

/-! ## Where a value ends -/

/-- Whether a text goes on to a rest of it behind a character that is no blank. -/
def EndsIn (cs rest : List Char) : Prop := ∃ before c, cs = before ++ c :: rest ∧ isBlank c = false

theorem EndsIn.of_suffix {part : List Char} (h : EndsIn part rest) (hpart : part <:+ cs) :
    EndsIn cs rest := by
  obtain ⟨before, c, rfl, hc⟩ := h
  obtain ⟨first, rfl⟩ := hpart
  exact ⟨first ++ before, c, by simp, hc⟩

theorem EndsIn.suffix (h : EndsIn cs rest) : rest <:+ cs := by
  obtain ⟨before, c, rfl, -⟩ := h
  exact ⟨before ++ [c], by simp⟩

theorem EndsIn.trans {middle : List Char} (h : EndsIn middle rest) (hcs : EndsIn cs middle) :
    EndsIn cs rest := h.of_suffix hcs.suffix

theorem EndsIn.length_lt (h : EndsIn cs rest) : rest.length < cs.length := by
  obtain ⟨before, c, rfl, -⟩ := h
  simp only [List.length_append, List.length_cons]
  omega

theorem endsIn_word (word : List Char) {c : Char} (hc : isBlank c = false) :
    EndsIn (word ++ c :: rest) rest := ⟨word, c, rfl, hc⟩

theorem isBlank_of_isDigit {c : Char} (h : c.isDigit = true) : isBlank c = false := by
  simp only [Char.isDigit, Bool.and_eq_true, decide_eq_true_eq, ge_iff_le,
    UInt32.le_iff_toNat_le] at h
  have hlow : 48 ≤ c.toNat := h.1
  have hhigh : c.toNat ≤ 57 := h.2
  simp only [isBlank, Bool.or_eq_false_iff, Bool.and_eq_false_iff, decide_eq_false_iff_not,
    beq_eq_false_iff_ne]
  omega

theorem endsIn_digits {ds : List Char} (hd : AllDigits ds) (hne : ds ≠ []) :
    EndsIn (ds ++ rest) rest := by
  have hlast := List.dropLast_concat_getLast hne
  refine ⟨ds.dropLast, ds.getLast hne, ?_, isBlank_of_isDigit (hd _ (List.getLast_mem hne))⟩
  conv => lhs; rw [← hlast]
  simp

theorem takeDigits_fst_append (cs : List Char) : (takeDigits cs).1 ++ (takeDigits cs).2 = cs :=
  List.takeWhile_append_dropWhile

theorem wholeDigits_fst_append (cs : List Char) : (wholeDigits cs).1 ++ (wholeDigits cs).2 = cs := by
  unfold wholeDigits
  split
  · rfl
  · exact takeDigits_fst_append _

/-- Behind the whole digits either nothing is read, or up to a digit. -/
theorem fractionDigits_rest (cs : List Char) :
    (fractionDigits cs).2 = cs ∨ EndsIn cs (fractionDigits cs).2 := by
  unfold fractionDigits
  split
  · next more =>
    split
    · exact .inl rfl
    · next hne =>
      refine .inr ((?_ : EndsIn more (takeDigits more).2).of_suffix (List.suffix_cons '.' more))
      conv => arg 1; rw [← takeDigits_fst_append more]
      exact endsIn_digits (allDigits_takeDigits more) fun h => hne (takeDigits more).2 (by rw [← h])
  · exact .inl rfl

theorem exponentSign_suffix (cs : List Char) : (exponentSign cs).2 <:+ cs := by
  unfold exponentSign
  split
  · exact List.suffix_cons _ _
  · exact List.suffix_cons _ _
  · exact List.suffix_rfl

theorem exponentPart_rest (cs : List Char) :
    (exponentPart cs).2 = cs ∨ EndsIn cs (exponentPart cs).2 := by
  unfold exponentPart
  split
  · next c more =>
    split
    · dsimp only
      have hdigits := takeDigits_fst_append (exponentSign more).2
      have hall := allDigits_takeDigits (exponentSign more).2
      split
      · exact .inl rfl
      · next ds after hne htake =>
        rw [htake] at hdigits hall
        have hends : EndsIn (exponentSign more).2 after := by
          rw [← hdigits]
          exact endsIn_digits hall hne
        exact .inr (hends.of_suffix
          ((exponentSign_suffix more).trans (List.suffix_cons c more)))
    · exact .inl rfl
  · exact .inl rfl

theorem endsIn_readNumber {negative : Bool} {found : Json × List Char}
    (h : readNumber dialect negative cs = .ok found) : EndsIn cs found.2 := by
  have hwhole := wholeDigits_fst_append cs
  have hdigits := allDigits_wholeDigits cs
  unfold readNumber at h
  split at h
  · cases h
  next whole afterWhole hne htake =>
  rw [htake] at hwhole hdigits
  dsimp only at h hwhole hdigits
  have hstart : EndsIn cs afterWhole := by
    rw [← hwhole]
    exact endsIn_digits hdigits fun h => hne (by rw [h])
  have hfraction : EndsIn cs (fractionDigits afterWhole).2 := by
    rcases fractionDigits_rest afterWhole with heq | hends
    · rwa [heq]
    · exact hends.trans hstart
  have hexponent : EndsIn cs (exponentPart (fractionDigits afterWhole).2).2 := by
    rcases exponentPart_rest (fractionDigits afterWhole).2 with heq | hends
    · rwa [heq]
    · exact hends.trans hfraction
  cases hpart : exponentPart (fractionDigits afterWhole).2 with
  | mk exponent rest =>
    rw [hpart] at h hexponent
    split at h
    · next heq =>
      cases heq
      split at h
      · cases h
      · cases h
        exact hexponent
    · next heq _ =>
      cases heq
      unfold ofBinary at h
      split at h
      · cases h
        exact hexponent
      · cases h

theorem endsIn_ofBinary {x : Binary64} {found : Json × List Char}
    (h : ofBinary dialect x rest = .ok found) (hcs : EndsIn cs rest) : EndsIn cs found.2 := by
  unfold ofBinary at h
  split at h
  · cases h
    exact hcs
  · cases h

theorem endsIn_readScalar {found : Json × List Char}
    (h : readScalar dialect cs = .ok found) : EndsIn cs found.2 := by
  unfold readScalar at h
  split at h
  · cases h
    exact endsIn_word ['n', 'u', 'l'] (by decide)
  · cases h
    exact endsIn_word ['t', 'r', 'u'] (by decide)
  · cases h
    exact endsIn_word ['f', 'a', 'l', 's'] (by decide)
  · exact endsIn_ofBinary h (endsIn_word ['N', 'a'] (by decide))
  · exact endsIn_ofBinary h
      (endsIn_word ['I', 'n', 'f', 'i', 'n', 'i', 't'] (by decide))
  · exact endsIn_ofBinary h
      (endsIn_word ['-', 'I', 'n', 'f', 'i', 'n', 'i', 't'] (by decide))
  · exact (endsIn_readNumber h).of_suffix (List.suffix_cons '-' _)
  · exact endsIn_readNumber h

theorem endsIn_scanUnits {units : List Nat} (h : scanUnits cs = some (units, rest)) :
    EndsIn cs rest := by
  fun_induction scanUnits cs generalizing units with
  | case1 => cases h
  | case2 =>
    cases h
    exact endsIn_word [] (by decide)
  | case3 a b c d more ih =>
    simp only [Option.bind_eq_bind, Option.bind_eq_some_iff] at h
    obtain ⟨_, -, ⟨_, _⟩, hmore, h⟩ := h
    cases h
    exact (ih hmore).of_suffix ⟨['\\', 'u', a, b, c, d], rfl⟩
  | case4 e more _ ih =>
    simp only [Option.bind_eq_bind, Option.bind_eq_some_iff] at h
    obtain ⟨_, -, ⟨_, _⟩, hmore, h⟩ := h
    cases h
    exact (ih hmore).of_suffix ⟨['\\', e], rfl⟩
  | case5 => cases h
  | case6 c more _ _ _ _ ih =>
    simp only [Option.bind_eq_bind, Option.bind_eq_some_iff] at h
    obtain ⟨⟨_, _⟩, hmore, h⟩ := h
    cases h
    exact (ih hmore).of_suffix (List.suffix_cons c more)

theorem endsIn_scanString {halves : Nat} {s : String}
    (h : scanString halves cs = some (s, rest)) : EndsIn cs rest := by
  obtain ⟨⟨units, rest'⟩, hunits, h⟩ := Option.map_eq_some_iff.1 h
  cases h
  exact endsIn_scanUnits hunits

theorem EndsIn.skipSpace (h : EndsIn (skipSpace cs) rest) : EndsIn cs rest :=
  h.of_suffix (skipSpace_suffix cs)

mutual

/-- **A value ends in a character that is no blank.** -/
theorem endsIn_readValue {fuel : Nat} {cs : List Char} {found : Json × List Char}
    (h : readValue dialect fuel cs = .ok found) : EndsIn cs found.2 := by
  match fuel with
  | 0 => cases h
  | fuel + 1 =>
    unfold readValue at h
    split at h
    · next rest =>
      obtain ⟨s, rest', hs, h⟩ := readString_eq_ok_iff.1 h
      cases h
      exact (endsIn_scanString hs).of_suffix (List.suffix_cons '"' rest)
    · next rest =>
      refine EndsIn.of_suffix ?_ (List.suffix_cons '[' rest)
      refine EndsIn.skipSpace ?_
      split at h
      · next hskip =>
        cases h
        rw [hskip]
        exact endsIn_word [] (by decide)
      · obtain ⟨⟨items, rest'⟩, hitems, h⟩ := bind_eq_ok_iff.1 h
        cases h
        exact endsIn_readItems hitems
    · next rest =>
      refine EndsIn.of_suffix ?_ (List.suffix_cons '{' rest)
      refine EndsIn.skipSpace ?_
      split at h
      · next hskip =>
        cases h
        rw [hskip]
        exact endsIn_word [] (by decide)
      · obtain ⟨⟨members, rest'⟩, hmembers, h⟩ := bind_eq_ok_iff.1 h
        cases h
        exact endsIn_readMembers hmembers
    · exact endsIn_readScalar h

theorem endsIn_readItems {fuel : Nat} {cs : List Char} {found : List Json × List Char}
    (h : readItems dialect fuel cs = .ok found) : EndsIn cs found.2 := by
  match fuel with
  | 0 => cases h
  | fuel + 1 =>
    unfold readItems at h
    obtain ⟨⟨item, rest⟩, hitem, h⟩ := bind_eq_ok_iff.1 h
    refine EndsIn.trans ?_ (endsIn_readValue hitem)
    refine EndsIn.skipSpace ?_
    dsimp only at h ⊢
    split at h
    · next rest' hskip =>
      obtain ⟨⟨items, last⟩, hitems, h⟩ := bind_eq_ok_iff.1 h
      cases h
      rw [hskip]
      exact (endsIn_readItems hitems).skipSpace.of_suffix (List.suffix_cons ',' rest')
    · next hskip =>
      cases h
      rw [hskip]
      exact endsIn_word [] (by decide)
    · cases h

theorem endsIn_readMembers {fuel : Nat} {cs : List Char} {found : Members × List Char}
    (h : readMembers dialect fuel cs = .ok found) : EndsIn cs found.2 := by
  match fuel with
  | 0 => cases h
  | fuel + 1 =>
    unfold readMembers at h
    split at h
    · next rest =>
      obtain ⟨key, rest', hkey, h⟩ := readString_eq_ok_iff.1 h
      refine EndsIn.of_suffix ?_ (List.suffix_cons '"' rest)
      refine EndsIn.trans ?_ (endsIn_scanString hkey)
      refine EndsIn.skipSpace ?_
      split at h
      · next valueText hskip =>
        obtain ⟨⟨value, rest''⟩, hvalue, h⟩ := bind_eq_ok_iff.1 h
        rw [hskip]
        refine EndsIn.of_suffix ?_ (List.suffix_cons ':' valueText)
        refine EndsIn.trans ?_ (endsIn_readValue hvalue).skipSpace
        refine EndsIn.skipSpace ?_
        dsimp only at h ⊢
        split at h
        · next more hskip =>
          obtain ⟨⟨members, last⟩, hmembers, h⟩ := bind_eq_ok_iff.1 h
          cases h
          rw [hskip]
          exact (endsIn_readMembers hmembers).skipSpace.of_suffix (List.suffix_cons ',' more)
        · next hskip =>
          cases h
          rw [hskip]
          exact endsIn_word [] (by decide)
        · cases h
      · cases h
    · cases h

end

/-! ## Values in front of blanks -/

theorem readValue_nil (fuel : Nat) : readValue dialect fuel [] = .error .malformed := by
  cases fuel <;> rfl

/-- Two readers agree up to the tail when their first steps do and, behind what these found, the
rest does. -/
theorem bind_withTail {ε α β : Type} {x y : Except ε (α × List Char)}
    {next next' : α × List Char → Except ε (β × List Char)} (hx : x = y.map (withTail tail))
    (hnext : ∀ a rest, y = .ok (a, rest) →
      next (a, rest ++ tail) = (next' (a, rest)).map (withTail tail)) :
    (x >>= next) = (y >>= next').map (withTail tail) := by
  subst hx
  cases y with
  | error e => rfl
  | ok found =>
    obtain ⟨a, rest⟩ := found
    exact hnext a rest rfl

theorem readString_append_space {α : Type} {halves : Nat}
    {next next' : String → List Char → Except ReadError (α × List Char)} (ht : AllSpace tail)
    (hnext : ∀ s rest, scanString halves cs = some (s, rest) →
      next s (rest ++ tail) = (next' s rest).map (withTail tail)) :
    readString halves (cs ++ tail) next = (readString halves cs next').map (withTail tail) := by
  unfold readString
  rw [scanString_append_space ht]
  cases hs : scanString halves cs with
  | none => rfl
  | some found =>
    obtain ⟨s, rest⟩ := found
    exact hnext s rest hs

theorem length_of_skipSpace {c : Char} {more : List Char} (h : skipSpace cs = c :: more) :
    more.length < cs.length := by
  have hlength := (skipSpace_suffix cs).length_le
  rw [h, List.length_cons] at hlength
  exact hlength

theorem readValue_bracket {fuel : Nat} (h : ∀ more, skipSpace cs ≠ ']' :: more) :
    readValue dialect (fuel + 1) ('[' :: cs) =
      (readItems dialect fuel (skipSpace cs) >>= fun found => .ok (.arr found.1, found.2)) := by
  rw [readValue]
  split
  · next more heq => exact absurd heq (h more)
  · rfl

theorem readValue_brace {fuel : Nat} (h : ∀ more, skipSpace cs ≠ '}' :: more) :
    readValue dialect (fuel + 1) ('{' :: cs) =
      (readMembers dialect fuel (skipSpace cs) >>= fun found =>
        .ok (.obj (Table.ofPairs found.1), found.2)) := by
  rw [readValue]
  split
  · next more heq => exact absurd heq (h more)
  · rfl

theorem readValue_plain {fuel : Nat} {c : Char} {more : List Char} (hquote : c ≠ '"')
    (hbracket : c ≠ '[') (hbrace : c ≠ '{') :
    readValue dialect (fuel + 1) (c :: more) = readScalar dialect (c :: more) := by
  rw [readValue]
  · exact fun _ h => hquote (List.cons.inj h).1
  · exact fun _ h => hbracket (List.cons.inj h).1
  · exact fun _ h => hbrace (List.cons.inj h).1

/-- Where the first character behind the blanks is another one, it still is in front of a tail. -/
theorem skipSpace_append_ne (ht : AllSpace tail) {d : Char}
    (h : ∀ more, skipSpace cs ≠ d :: more) (more : List Char) :
    skipSpace (cs ++ tail) ≠ d :: more := by
  cases hcs : skipSpace cs with
  | nil =>
    rw [skipSpace_append_nil ht hcs]
    exact (List.cons_ne_nil d more).symm
  | cons c rest =>
    rw [skipSpace_append_cons hcs]
    intro heq
    cases heq
    exact h rest hcs

mutual

/-- **Blanks at the end of a text stay there**, whatever is read in front of them, and the fuel
does not matter if there is enough for the length of the text. -/
theorem readValue_append_space (ht : AllSpace tail) {fuel fuel' : Nat} {cs : List Char}
    (hf : 2 * cs.length + 1 ≤ fuel) (hf' : 2 * cs.length + 1 ≤ fuel') :
    readValue dialect fuel (skipSpace (cs ++ tail)) =
      (readValue dialect fuel' (skipSpace cs)).map (withTail tail) := by
  match fuel, fuel' with
  | fuel + 1, fuel' + 1 =>
    cases hcs : skipSpace cs with
    | nil =>
      rw [skipSpace_append_nil ht hcs, readValue_nil, readValue_nil]
      rfl
    | cons c more =>
      have hlength := length_of_skipSpace hcs
      rw [skipSpace_append_cons hcs]
      by_cases hquote : c = '"'
      · subst hquote
        exact readString_append_space ht fun _ _ _ => rfl
      by_cases hbracket : c = '['
      · subst hbracket
        by_cases hclose : ∃ rest, skipSpace more = ']' :: rest
        · obtain ⟨rest, hrest⟩ := hclose
          rw [readValue, readValue, skipSpace_append_cons hrest, hrest]
          rfl
        · have hopen := not_exists.1 hclose
          rw [readValue_bracket hopen, readValue_bracket (skipSpace_append_ne ht hopen)]
          exact bind_withTail (readItems_append_space ht (by omega) (by omega)) fun _ _ _ => rfl
      by_cases hbrace : c = '{'
      · subst hbrace
        by_cases hclose : ∃ rest, skipSpace more = '}' :: rest
        · obtain ⟨rest, hrest⟩ := hclose
          rw [readValue, readValue, skipSpace_append_cons hrest, hrest]
          rfl
        · have hopen := not_exists.1 hclose
          rw [readValue_brace hopen, readValue_brace (skipSpace_append_ne ht hopen)]
          exact bind_withTail (readMembers_append_space ht (by omega) (by omega)) fun _ _ _ => rfl
      rw [readValue_plain hquote hbracket hbrace, readValue_plain hquote hbracket hbrace]
      exact readScalar_append_space ht (c :: more)
  termination_by fuel

theorem readItems_append_space (ht : AllSpace tail) {fuel fuel' : Nat} {cs : List Char}
    (hf : 2 * cs.length + 2 ≤ fuel) (hf' : 2 * cs.length + 2 ≤ fuel') :
    readItems dialect fuel (skipSpace (cs ++ tail)) =
      (readItems dialect fuel' (skipSpace cs)).map (withTail tail) := by
  match fuel, fuel' with
  | fuel + 1, fuel' + 1 =>
    unfold readItems
    refine bind_withTail (readValue_append_space ht (by omega) (by omega)) ?_
    intro item rest hitem
    have hrest := (endsIn_readValue hitem).skipSpace.length_lt
    dsimp only at hrest ⊢
    cases hskip : skipSpace rest with
    | nil =>
      rw [skipSpace_append_nil ht hskip]
      rfl
    | cons c more =>
      have hmore := length_of_skipSpace hskip
      rw [skipSpace_append_cons hskip]
      by_cases hcomma : c = ','
      · subst hcomma
        exact bind_withTail (readItems_append_space ht (by omega) (by omega)) fun _ _ _ => rfl
      · by_cases hclose : c = ']'
        · subst hclose
          rfl
        · simp [hcomma, hclose, Except.map]
  termination_by fuel

theorem readMembers_append_space (ht : AllSpace tail) {fuel fuel' : Nat} {cs : List Char}
    (hf : 2 * cs.length + 2 ≤ fuel) (hf' : 2 * cs.length + 2 ≤ fuel') :
    readMembers dialect fuel (skipSpace (cs ++ tail)) =
      (readMembers dialect fuel' (skipSpace cs)).map (withTail tail) := by
  match fuel, fuel' with
  | fuel + 1, fuel' + 1 =>
    cases hcs : skipSpace cs with
    | nil =>
      rw [skipSpace_append_nil ht hcs]
      rfl
    | cons c more =>
      have hlength := length_of_skipSpace hcs
      rw [skipSpace_append_cons hcs]
      by_cases hquote : c = '"'
      · subst hquote
        refine readString_append_space ht ?_
        intro key rest hkey
        have hrest := (endsIn_scanString hkey).length_lt
        dsimp only
        cases hskip : skipSpace rest with
        | nil =>
          rw [skipSpace_append_nil ht hskip]
          rfl
        | cons c valueText =>
          have hvalueText := length_of_skipSpace hskip
          rw [skipSpace_append_cons hskip]
          by_cases hcolon : c = ':'
          · subst hcolon
            refine bind_withTail (readValue_append_space ht (by omega) (by omega)) ?_
            intro value after hvalue
            have hafter := (endsIn_readValue hvalue).skipSpace.length_lt
            dsimp only at hafter ⊢
            cases hskip : skipSpace after with
            | nil =>
              rw [skipSpace_append_nil ht hskip]
              rfl
            | cons c last =>
              have hlast := length_of_skipSpace hskip
              rw [skipSpace_append_cons hskip]
              by_cases hcomma : c = ','
              · subst hcomma
                exact bind_withTail (readMembers_append_space ht (by omega) (by omega))
                  fun _ _ _ => rfl
              · by_cases hclose : c = '}'
                · subst hclose
                  rfl
                · simp [hcomma, hclose, Except.map]
          · simp [hcolon, Except.map]
      · simp [readMembers, hquote, Except.map]
  termination_by fuel

end

/-! ## Blanks around a text -/

theorem AllSpace.isBlank {ws : List Char} (h : AllSpace ws) : ∀ c ∈ ws, isBlank c = true :=
  fun c hc => isBlank_of_isSpace (h c hc)

end Json

end FormStudio
