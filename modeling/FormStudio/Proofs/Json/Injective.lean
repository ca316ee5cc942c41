import FormStudio.Proofs.Json.RoundTrip

/-!
# Different values have different texts

Reading back says this of readable values. It holds of all values: no text of a value can go on to
be that of another one (`Json.write_prefix_unique`), so a text is that of one value at most
(`Json.print_injective`), whatever the number of digits and whether or not the keys of an object
differ. The induction is on the first value. What a text begins with fixes the kind of value
(`Json.Opening`), so the second one has the same kind.
-/
namespace FormStudio

namespace Json

/-! ## Numbers -/

/-- A binary number is read from its text, also one that is not finite. -/
theorem readScalar_floatText (x : Binary64) {rest : List Char} (hr : EndsNumber rest) :
    readScalar .extended (numberText (.float x) ++ rest) = .ok (.num (.float x), rest) :=
  have hreadable : isReadableNumberIn .extended (.float x) = true := Bool.or_true x.isFinite
  readScalar_numberText hreadable hr

/-- What is read from the text of an integer is no binary number. -/
theorem readScalar_intText_ne (i : Int) {rest : List Char} (hr : EndsNumber rest) (x : Binary64)
    (rest' : List Char) :
    readScalar .extended (numberText (.int i) ++ rest) ≠ .ok (.num (.float x), rest') := by
  have hdigits := readNumber_digits .extended (decide (i < 0)) i.natAbs hr
  obtain ⟨c, more, hc⟩ :=
    List.exists_cons_of_ne_nil (Nat.toDigits_ne_nil (b := 10) (n := i.natAbs))
  have hdigit : c.isDigit = true := allDigits_toDigits i.natAbs c (hc ▸ List.mem_cons_self)
  have hread : readScalar .extended (numberText (.int i) ++ rest) =
      readNumber .extended (decide (i < 0)) (Nat.toDigits 10 i.natAbs ++ rest) := by
    show readScalar _ ((Number.int i).text ++ rest) = _
    rw [text_int, hc]
    cases decide (i < 0) with
    | false => exact readScalar_of_digit .extended hdigit _
    | true => exact readScalar_minus .extended hdigit _
  rw [hread, hdigits]
  split
  · nofun
  · nofun

theorem intText_prefix_unique {i j : Int} {rest rest' : List Char} (hr : EndsNumber rest)
    (hr' : EndsNumber rest')
    (h : numberText (.int i) ++ rest = numberText (.int j) ++ rest') : i = j ∧ rest = rest' := by
  have hhead : ∀ n : Nat, (Nat.toDigits 10 n).head? ≠ some '-' := by
    intro n hn
    have hdigit := allDigits_toDigits n '-' (List.mem_of_mem_head? hn)
    exact absurd hdigit (by decide)
  have hsplit : ∀ {k l : Nat},
      Nat.toDigits 10 k ++ rest = Nat.toDigits 10 l ++ rest' → k = l ∧ rest = rest' := by
    intro k l hkl
    have htake := takeDigits_append (allDigits_toDigits k) hr.noDigitNext
    rw [hkl, takeDigits_append (allDigits_toDigits l) hr'.noDigitNext] at htake
    obtain ⟨hdigits, hrest⟩ := Prod.mk.inj htake
    refine ⟨?_, hrest.symm⟩
    rw [← ofDigits_toDigits k, ← hdigits, ofDigits_toDigits]
  have hcons : ∀ {k l : Nat} {cs ds : List Char},
      Nat.toDigits 10 k ++ cs = '-' :: (Nat.toDigits 10 l ++ ds) → False := by
    intro k l cs ds hkl
    obtain ⟨c, more, hc⟩ := List.exists_cons_of_ne_nil (Nat.toDigits_ne_nil (b := 10) (n := k))
    rw [hc] at hkl
    exact hhead k (by rw [hc, (List.cons.inj hkl).1]; rfl)
  change (Number.int i).text ++ rest = (Number.int j).text ++ rest' at h
  rw [text_int, text_int] at h
  unfold Binary64.signed at h
  by_cases hi : i < 0 <;> by_cases hj : j < 0 <;>
    simp only [hi, hj, decide_true, decide_false, if_true, if_false, List.cons_append,
      Bool.false_eq_true] at h
  · obtain ⟨habs, hrest⟩ := hsplit (List.cons.inj h).2
    exact ⟨by omega, hrest⟩
  · exact (hcons h.symm).elim
  · exact (hcons h).elim
  · obtain ⟨habs, hrest⟩ := hsplit h
    exact ⟨by omega, hrest⟩

theorem numberText_prefix_unique {n m : Number} {rest rest' : List Char} (hr : EndsNumber rest)
    (hr' : EndsNumber rest') (h : numberText n ++ rest = numberText m ++ rest') :
    n = m ∧ rest = rest' := by
  match n, m with
  | .int i, .int j =>
    obtain ⟨rfl, hrest⟩ := intText_prefix_unique hr hr' h
    exact ⟨rfl, hrest⟩
  | .int i, .float y =>
    exact absurd (h ▸ readScalar_floatText y hr') (readScalar_intText_ne i hr y rest')
  | .float x, .int j =>
    exact absurd (h ▸ readScalar_floatText x hr) (readScalar_intText_ne j hr' x rest)
  | .float x, .float y =>
    have hx := readScalar_floatText x hr
    rw [h, readScalar_floatText y hr'] at hx
    cases hx
    exact ⟨rfl, rfl⟩

/-! ## What a text begins with -/

/-- The kinds of values that a first character tells apart. -/
inductive Opening where
  | null
  | flag
  | number
  | text
  | array
  | object
  deriving DecidableEq

def Opening.ofChar : Char → Opening
  | 'n' => .null
  | 't' => .flag
  | 'f' => .flag
  | '"' => .text
  | '[' => .array
  | '{' => .object
  | _ => .number

def opening : Json → Opening
  | .null => .null
  | .bool _ => .flag
  | .num _ => .number
  | .str _ => .text
  | .arr _ => .array
  | .obj _ => .object

theorem opening_of_beginsNumber {c : Char} (hc : BeginsNumber c) : Opening.ofChar c = .number := by
  unfold Opening.ofChar
  split <;> first | rfl | exact absurd hc (by decide)

theorem exists_write_eq_opening (style : Style) (depth : Nat) (v : Json) :
    ∃ c more, write style depth v = c :: more ∧ Opening.ofChar c = v.opening ∧ c ≠ ']' := by
  cases v with
  | null => exact ⟨_, _, write_null .., rfl, by decide⟩
  | bool b => cases b <;> exact ⟨_, _, by rw [write], rfl, by decide⟩
  | num n =>
    obtain ⟨c, more, htext, hc⟩ := exists_numberText_eq_cons n
    exact ⟨c, more, by rw [write, htext], opening_of_beginsNumber hc, hc.ne (by decide)⟩
  | str s => exact ⟨_, _, by rw [write, quote]; rfl, rfl, by decide⟩
  | arr items =>
    cases items with
    | nil => exact ⟨_, _, write_arr_nil .., rfl, by decide⟩
    | cons item rest => exact ⟨_, _, by rw [write]; rfl, rfl, by decide⟩
  | obj members =>
    cases members with
    | nil => exact ⟨_, _, by rw [write], rfl, by decide⟩
    | cons entry rest => exact ⟨_, _, by rw [write]; rfl, rfl, by decide⟩

theorem opening_eq {style : Style} {depth : Nat} {v w : Json} {rest rest' : List Char}
    (h : write style depth v ++ rest = write style depth w ++ rest') : v.opening = w.opening := by
  obtain ⟨c, more, hv, hc, -⟩ := exists_write_eq_opening style depth v
  obtain ⟨d, more', hw, hd, -⟩ := exists_write_eq_opening style depth w
  rw [hv, hw] at h
  rw [← hc, ← hd, (List.cons.inj h).1]

/-! ## Brackets and commas -/

/-- Behind a bracket comes a line break or what is inside. -/
theorem eq_of_gap {style : Style} {depth : Nat} {c d : Char} {cs ds : List Char}
    (h : c :: cs = style.gap depth ++ d :: ds) : c = '\n' ∨ c = d := by
  unfold Style.gap at h
  split at h
  · exact .inr (List.cons.inj h).1
  · exact .inl (List.cons.inj h).1

/-- The end of an array or an object does not begin as one more part does. -/
theorem gap_ne_separator {style : Style} {depth : Nat} {close : Char} {cs ds : List Char}
    (hclose : close ≠ ',') : style.gap depth ++ close :: cs ≠ style.separator (depth + 1) ++ ds := by
  obtain ⟨ws, hsep, -⟩ := separator_eq style (depth + 1)
  intro h
  rw [hsep] at h
  rcases eq_of_gap h.symm with h | h
  · exact absurd h (by decide)
  · exact hclose h.symm

theorem quote_prefix_unique {ascii : Bool} {s t : String} {rest rest' : List Char}
    (h : quote ascii s ++ rest = quote ascii t ++ rest') : s = t ∧ rest = rest' := by
  rw [quote_eq_cons, quote_eq_cons] at h
  have hs := scanString_quote standardHalves ascii s rest
  rw [(List.cons.inj h).2, scanString_quote standardHalves ascii t rest'] at hs
  cases hs
  exact ⟨rfl, rfl⟩

/-! ## Values -/

/-- What ends an array or an object ends a number. -/
theorem endsNumber_gap (style : Style) (depth : Nat) {close : Char} (hclose : close = ']' ∨ close = '}')
    (rest : List Char) : EndsNumber (style.gap depth ++ close :: rest) := by
  refine endsNumber_space_append (allSpace_gap style depth) (endsNumber_cons ?_ rest)
  rcases hclose with rfl | rfl <;> decide

mutual

/-- **No text of a value goes on to be that of another one.** -/
theorem write_prefix_unique (style : Style) (depth : Nat) (v w : Json) {rest rest' : List Char}
    (hr : EndsNumber rest) (hr' : EndsNumber rest')
    (h : write style depth v ++ rest = write style depth w ++ rest') : v = w ∧ rest = rest' := by
  have hopen := opening_eq h
  match v, w with
  | .null, .null => simpa [write] using h
  | .bool b, .bool c => cases b <;> cases c <;> simp [write] at h ⊢ <;> exact h
  | .num n, .num m =>
    rw [write, write] at h
    obtain ⟨rfl, hrest⟩ := numberText_prefix_unique hr hr' h
    exact ⟨rfl, hrest⟩
  | .str s, .str t =>
    rw [write, write] at h
    obtain ⟨rfl, hrest⟩ := quote_prefix_unique h
    exact ⟨rfl, hrest⟩
  | .arr [], .arr [] => simpa [write] using h
  -- an item starts neither with space nor with the bracket that ends an empty array
  | .arr [], .arr (item :: items) =>
    obtain ⟨c, more, hc, -, hclose⟩ := exists_write_eq_opening style (depth + 1) item
    simp only [write, hc, List.cons_append, List.append_assoc, List.cons.injEq, true_and] at h
    rcases eq_of_gap h with h | h
    · exact absurd h (by decide)
    · exact absurd h.symm hclose
  | .arr (item :: items), .arr [] =>
    obtain ⟨c, more, hc, -, hclose⟩ := exists_write_eq_opening style (depth + 1) item
    simp only [write, hc, List.cons_append, List.append_assoc, List.cons.injEq, true_and] at h
    rcases eq_of_gap h.symm with h | h
    · exact absurd h (by decide)
    · exact absurd h.symm hclose
  | .arr (item :: items), .arr (item' :: items') =>
    simp only [write, List.cons_append, List.append_assoc, List.cons.injEq, true_and,
      List.append_cancel_left_eq] at h
    obtain ⟨rfl, htail⟩ := write_prefix_unique style (depth + 1) item item'
      (endsNumber_writeItems style (depth + 1) items (endsNumber_gap style depth (.inl rfl) rest))
      (endsNumber_writeItems style (depth + 1) items' (endsNumber_gap style depth (.inl rfl) rest')) h
    obtain ⟨rfl, hrest⟩ := writeItems_prefix_unique style depth items items' htail
    exact ⟨rfl, hrest⟩
  | .obj [], .obj [] => simpa [write] using h
  | .obj [], .obj ((key, value) :: members) =>
    simp only [write, quote_eq_cons, List.cons_append, List.append_assoc, List.cons.injEq,
      true_and] at h
    rcases eq_of_gap h with h | h <;> exact absurd h (by decide)
  | .obj ((key, value) :: members), .obj [] =>
    simp only [write, quote_eq_cons, List.cons_append, List.append_assoc, List.cons.injEq,
      true_and] at h
    rcases eq_of_gap h.symm with h | h <;> exact absurd h (by decide)
  | .obj ((key, value) :: members), .obj ((key', value') :: members') =>
    simp only [write, List.cons_append, List.append_assoc, List.cons.injEq, true_and,
      List.append_cancel_left_eq] at h
    obtain ⟨rfl, hvalue⟩ := quote_prefix_unique h
    simp only [List.cons.injEq, true_and] at hvalue
    obtain ⟨rfl, htail⟩ := write_prefix_unique style (depth + 1) value value'
      (endsNumber_writeMembers style (depth + 1) members
        (endsNumber_gap style depth (.inr rfl) rest))
      (endsNumber_writeMembers style (depth + 1) members'
        (endsNumber_gap style depth (.inr rfl) rest')) hvalue
    obtain ⟨rfl, hrest⟩ := writeMembers_prefix_unique style depth members members' htail
    exact ⟨rfl, hrest⟩

theorem writeItems_prefix_unique (style : Style) (depth : Nat) (items items' : List Json)
    {rest rest' : List Char}
    (h : writeItems style (depth + 1) items ++ (style.gap depth ++ ']' :: rest) =
      writeItems style (depth + 1) items' ++ (style.gap depth ++ ']' :: rest')) :
    items = items' ∧ rest = rest' := by
  match items, items' with
  | [], [] => simpa [writeItems] using h
  | [], item :: items =>
    simp only [writeItems, List.nil_append, List.append_assoc] at h
    exact absurd h (gap_ne_separator (by decide))
  | item :: items, [] =>
    simp only [writeItems, List.nil_append, List.append_assoc] at h
    exact absurd h.symm (gap_ne_separator (by decide))
  | item :: items, item' :: items' =>
    simp only [writeItems, List.append_assoc, List.append_cancel_left_eq] at h
    obtain ⟨rfl, htail⟩ := write_prefix_unique style (depth + 1) item item'
      (endsNumber_writeItems style (depth + 1) items (endsNumber_gap style depth (.inl rfl) rest))
      (endsNumber_writeItems style (depth + 1) items' (endsNumber_gap style depth (.inl rfl) rest')) h
    obtain ⟨rfl, hrest⟩ := writeItems_prefix_unique style depth items items' htail
    exact ⟨rfl, hrest⟩

theorem writeMembers_prefix_unique (style : Style) (depth : Nat) (members members' : Members)
    {rest rest' : List Char}
    (h : writeMembers style (depth + 1) members ++ (style.gap depth ++ '}' :: rest) =
      writeMembers style (depth + 1) members' ++ (style.gap depth ++ '}' :: rest')) :
    members = members' ∧ rest = rest' := by
  match members, members' with
  | [], [] => simpa [writeMembers] using h
  | [], (key, value) :: members =>
    simp only [writeMembers, List.nil_append, List.append_assoc] at h
    exact absurd h (gap_ne_separator (by decide))
  | (key, value) :: members, [] =>
    simp only [writeMembers, List.nil_append, List.append_assoc] at h
    exact absurd h.symm (gap_ne_separator (by decide))
  | (key, value) :: members, (key', value') :: members' =>
    simp only [writeMembers, List.append_assoc, List.append_cancel_left_eq] at h
    obtain ⟨rfl, hvalue⟩ := quote_prefix_unique h
    simp only [List.cons_append, List.cons.injEq, true_and] at hvalue
    obtain ⟨rfl, htail⟩ := write_prefix_unique style (depth + 1) value value'
      (endsNumber_writeMembers style (depth + 1) members
        (endsNumber_gap style depth (.inr rfl) rest))
      (endsNumber_writeMembers style (depth + 1) members'
        (endsNumber_gap style depth (.inr rfl) rest')) hvalue
    obtain ⟨rfl, hrest⟩ := writeMembers_prefix_unique style depth members members' htail
    exact ⟨rfl, hrest⟩

end

/-- **Different values have different texts.** -/
theorem print_injective (style : Style) : Function.Injective (print style) := by
  intro v w h
  rw [print_eq, print_eq] at h
  refine (write_prefix_unique style 0 v w endsNumber_nil endsNumber_nil ?_).1
  rw [String.ofList_injective h]

end Json

end FormStudio
