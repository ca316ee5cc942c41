import FormStudio.Proofs.Json.Numeral
import FormStudio.Proofs.Json.Text
import FormStudio.Proofs.Outcome
import FormStudio.Proofs.Table

/-!
# Written values are read back

A value is readable when its numbers are finite, its integers do not have too many digits, and the
keys of its objects differ (`Json.isReadable`). Such a value is read from its text in every style,
with nothing changed (`Json.read_print`). What is read is readable (`Json.isReadable_of_read`), so
reading and writing are inverse to each other on what is read.

A dialect may have infinite and undefined numbers too. Everything is proved of the values that are
readable in a dialect (`Json.IsReadableIn`), which are the readable ones where numbers are finite.
-/
namespace FormStudio

namespace Json

/-! ## Readable values -/

mutual

/-- Whether a value is read back from its text. -/
def isReadable : Json → Bool
  | .null => true
  | .bool _ => true
  | .num n => isReadableNumber n
  | .str _ => true
  | .arr items => areReadable items
  | .obj members => decide (Table.keys members).Nodup && membersReadable members

/-- Whether all items are readable. -/
def areReadable : List Json → Bool
  | [] => true
  | item :: items => isReadable item && areReadable items

/-- Whether the values of all members are readable. -/
def membersReadable : List (String × Json) → Bool
  | [] => true
  | (_, value) :: members => isReadable value && membersReadable members

end

theorem areReadable_iff {items : List Json} :
    areReadable items = true ↔ ∀ item ∈ items, item.isReadable = true := by
  induction items with
  | nil => simp [areReadable]
  | cons item rest ih => simp [areReadable, ih]

theorem membersReadable_iff {members : Members} :
    membersReadable members = true ↔ ∀ entry ∈ members, entry.2.isReadable = true := by
  induction members with
  | nil => simp [membersReadable]
  | cons entry rest ih => simp [membersReadable, ih]

@[simp] theorem isReadable_null : Json.null.isReadable = true := rfl

@[simp] theorem isReadable_bool (b : Bool) : (Json.bool b).isReadable = true := rfl

@[simp] theorem isReadable_str (s : String) : (Json.str s).isReadable = true := rfl

theorem isReadable_arr_iff {items : List Json} :
    (Json.arr items).isReadable = true ↔ ∀ item ∈ items, item.isReadable = true := by
  rw [isReadable, areReadable_iff]

theorem isReadable_obj_iff {members : Members} :
    (Json.obj members).isReadable = true ↔
      members.keys.Nodup ∧ ∀ entry ∈ members, entry.2.isReadable = true := by
  rw [isReadable, Bool.and_eq_true, decide_eq_true_eq, membersReadable_iff]

/-- A value that is read back from its text in a dialect. -/
inductive IsReadableIn (dialect : Dialect) : Json → Prop
  | null : IsReadableIn dialect .null
  | bool (b : Bool) : IsReadableIn dialect (.bool b)
  | num {n : Number} (h : isReadableNumberIn dialect n = true) : IsReadableIn dialect (.num n)
  | str (s : String) : IsReadableIn dialect (.str s)
  | arr {items : List Json} (h : ∀ item ∈ items, IsReadableIn dialect item) :
    IsReadableIn dialect (.arr items)
  | obj {members : Members} (hkeys : members.keys.Nodup)
    (h : ∀ entry ∈ members, IsReadableIn dialect entry.2) : IsReadableIn dialect (.obj members)

mutual

theorem isReadableIn_of_isReadable {dialect : Dialect} :
    ∀ {v : Json}, v.isReadable = true → v.IsReadableIn dialect
  | .null, _ => .null
  | .bool b, _ => .bool b
  | .num _, h => .num (isReadableNumberIn_of_isReadableNumber h)
  | .str s, _ => .str s
  | .arr _, h => .arr (areReadableIn_of_areReadable h)
  | .obj _, h => by
    rw [isReadable, Bool.and_eq_true, decide_eq_true_eq] at h
    exact .obj h.1 (membersReadableIn_of_membersReadable h.2)

theorem areReadableIn_of_areReadable {dialect : Dialect} :
    ∀ {items : List Json}, areReadable items = true → ∀ item ∈ items, item.IsReadableIn dialect
  | [], _ => List.forall_mem_nil _
  | item :: items, h => by
    rw [areReadable, Bool.and_eq_true] at h
    exact List.forall_mem_cons.2
      ⟨isReadableIn_of_isReadable h.1, areReadableIn_of_areReadable h.2⟩

theorem membersReadableIn_of_membersReadable {dialect : Dialect} :
    ∀ {members : List (String × Json)}, membersReadable members = true →
      ∀ entry ∈ members, entry.2.IsReadableIn dialect
  | [], _ => List.forall_mem_nil _
  | (_, value) :: members, h => by
    rw [membersReadable, Bool.and_eq_true] at h
    exact List.forall_mem_cons.2
      ⟨isReadableIn_of_isReadable h.1, membersReadableIn_of_membersReadable h.2⟩

end

theorem isReadable_of_isReadableIn {v : Json} (h : v.IsReadableIn .finite) :
    v.isReadable = true := by
  induction h with
  | null => rfl
  | bool b => rfl
  | num h => exact isReadableNumberIn_finite h
  | str s => rfl
  | arr _ ih => exact isReadable_arr_iff.2 ih
  | obj hkeys _ ih => exact isReadable_obj_iff.2 ⟨hkeys, ih⟩

/-! ## Blanks -/

/-- Blanks and nothing else. -/
def AllSpace (cs : List Char) : Prop := ∀ c ∈ cs, isSpace c = true

theorem skipSpace_append {ws : List Char} (hws : AllSpace ws) (cs : List Char) :
    skipSpace (ws ++ cs) = skipSpace cs := List.dropWhile_append_of_pos hws

theorem skipSpace_cons {c : Char} (hc : isSpace c = false) (cs : List Char) :
    skipSpace (c :: cs) = c :: cs := by
  simp [skipSpace, hc]

theorem allSpace_line (n : Nat) : AllSpace ('\n' :: List.replicate n ' ') := by
  intro c hc
  rcases List.mem_cons.1 hc with rfl | hc
  · decide
  · rw [List.eq_of_mem_replicate hc]
    decide

theorem allSpace_gap (style : Style) (depth : Nat) : AllSpace (style.gap depth) := by
  unfold Style.gap
  split
  · intro c hc
    cases hc
  · exact allSpace_line _

theorem separator_eq (style : Style) (depth : Nat) :
    ∃ ws, style.separator depth = ',' :: ws ∧ AllSpace ws := by
  unfold Style.separator
  split
  · exact ⟨[' '], rfl, by simp [AllSpace, isSpace]⟩
  · exact ⟨_, rfl, allSpace_line _⟩

theorem endsNumber_cons {c : Char} (hc : c.isDigit = false ∧ c ≠ '.' ∧ c ≠ 'e' ∧ c ≠ 'E')
    (cs : List Char) : EndsNumber (c :: cs) := by
  intro d hd
  cases hd
  exact hc

theorem endsNumber_space_append {ws cs : List Char} (hws : AllSpace ws) (hcs : EndsNumber cs) :
    EndsNumber (ws ++ cs) := by
  cases ws with
  | nil => exact hcs
  | cons c ws =>
    refine endsNumber_cons ?_ _
    have hc := hws c List.mem_cons_self
    simp only [isSpace, Bool.or_eq_true, beq_iff_eq] at hc
    rcases hc with ((rfl | rfl) | rfl) | rfl <;> decide

/-! ## Where a value begins -/

/-- A character that may begin a value: no blank and no closing bracket. -/
def BeginsValue (c : Char) : Prop := isSpace c = false ∧ c ≠ ']' ∧ c ≠ '}'

theorem quote_eq_cons (ascii : Bool) (s : String) (cs : List Char) :
    quote ascii s ++ cs = '"' :: (s.toList.flatMap (escapeChar ascii) ++ '"' :: cs) := by
  simp [quote]

theorem exists_write_eq_cons (style : Style) (depth : Nat) (v : Json) :
    ∃ c more, write style depth v = c :: more ∧ BeginsValue c := by
  match v with
  | .null => exact ⟨_, _, write_null .., by decide, by decide, by decide⟩
  | .bool true => exact ⟨_, _, by rw [write], by decide, by decide, by decide⟩
  | .bool false => exact ⟨_, _, by rw [write], by decide, by decide, by decide⟩
  | .str s => exact ⟨_, _, by rw [write, quote]; rfl, by decide, by decide, by decide⟩
  | .arr [] => exact ⟨_, _, write_arr_nil .., by decide, by decide, by decide⟩
  | .arr (_ :: _) => exact ⟨_, _, by rw [write]; rfl, by decide, by decide, by decide⟩
  | .obj [] => exact ⟨_, _, by rw [write], by decide, by decide, by decide⟩
  | .obj ((_, _) :: _) => exact ⟨_, _, by rw [write]; rfl, by decide, by decide, by decide⟩
  | .num n =>
    obtain ⟨c, more, htext, hc⟩ := exists_numberText_eq_cons n
    have hne : ∀ d : Char, ¬ BeginsNumber d → c ≠ d := fun d => hc.ne
    refine ⟨c, more, by rw [write, htext], ?_, hne _ (by decide), hne _ (by decide)⟩
    have hblank : c ≠ ' ' ∧ c ≠ '\n' ∧ c ≠ '\r' ∧ c ≠ '\t' :=
      ⟨hne _ (by decide), hne _ (by decide), hne _ (by decide), hne _ (by decide)⟩
    simp [isSpace, hblank]

/-! ## One step of the reader -/

section Step

variable (dialect : Dialect) (fuel : Nat)

theorem readValue_quote (ascii : Bool) (s : String) (rest : List Char) :
    readValue dialect (fuel + 1) (quote ascii s ++ rest) = .ok (.str s, rest) := by
  rw [quote_eq_cons]
  simp only [readValue, readString, scanString_quote]

theorem readValue_numberText {n : Number} (hn : isReadableNumberIn dialect n = true)
    {rest : List Char} (hr : EndsNumber rest) :
    readValue dialect (fuel + 1) (numberText n ++ rest) = .ok (.num n, rest) := by
  obtain ⟨c, more, htext, hc⟩ := exists_numberText_eq_cons n
  have hne : ∀ d : Char, ¬ BeginsNumber d → c ≠ d := fun d => hc.ne
  rw [← readScalar_numberText hn hr, htext, List.cons_append]
  rw [readValue]
  · exact fun _ h => hne '"' (by decide) (List.cons.inj h).1
  · exact fun _ h => hne '[' (by decide) (List.cons.inj h).1
  · exact fun _ h => hne '{' (by decide) (List.cons.inj h).1

theorem readValue_arr {ws body : List Char} (hws : AllSpace ws)
    (hbody : ∃ c more, body = c :: more ∧ BeginsValue c) :
    readValue dialect (fuel + 1) ('[' :: (ws ++ body)) =
      (readItems dialect fuel body >>= fun found => .ok (.arr found.1, found.2)) := by
  obtain ⟨c, more, rfl, hblank, hclose, -⟩ := hbody
  rw [readValue, skipSpace_append hws, skipSpace_cons hblank]
  split
  · next heq => exact absurd (List.cons.inj heq).1 hclose
  · rfl

theorem readValue_obj {ws body : List Char} (hws : AllSpace ws)
    (hbody : ∃ c more, body = c :: more ∧ BeginsValue c) :
    readValue dialect (fuel + 1) ('{' :: (ws ++ body)) =
      (readMembers dialect fuel body >>= fun found =>
        .ok (.obj (Table.ofPairs found.1), found.2)) := by
  obtain ⟨c, more, rfl, hblank, -, hclose⟩ := hbody
  rw [readValue, skipSpace_append hws, skipSpace_cons hblank]
  split
  · next heq => exact absurd (List.cons.inj heq).1 hclose
  · rfl

/-- A member is read as its key and the value behind the colon. -/
theorem readMembers_quote (ascii : Bool) (key : String) {value cs : List Char} {v : Json}
    (hbegins : ∃ c more, value = c :: more ∧ BeginsValue c)
    (hvalue : readValue dialect fuel value = .ok (v, cs)) :
    readMembers dialect (fuel + 1) (quote ascii key ++ ':' :: ' ' :: value) =
      match skipSpace cs with
      | ',' :: rest => readMembers dialect fuel (skipSpace rest) >>= fun found =>
        .ok ((key, v) :: found.1, found.2)
      | '}' :: rest => .ok ([(key, v)], rest)
      | _ => .error .malformed := by
  obtain ⟨c, more, rfl, hblank, -⟩ := hbegins
  have hspace : skipSpace (' ' :: c :: more) = c :: more := by
    have hone : AllSpace [' '] := by simp [AllSpace, isSpace]
    exact (skipSpace_append hone _).trans (skipSpace_cons hblank _)
  rw [quote_eq_cons, readMembers]
  simp only [readString, scanString_quote]
  rw [skipSpace_cons (by decide)]
  simp only [hspace, hvalue]
  rfl

end Step

/-! ## Reading what was written

The induction is on the fuel. A value uses no more of it than twice the length of its text: each
part is at least one character shorter than the value, and what separates two parts pays for the
step from one to the next. -/

theorem length_write_pos (style : Style) (depth : Nat) (v : Json) :
    0 < (write style depth v).length := by
  obtain ⟨c, more, h, -⟩ := exists_write_eq_cons style depth v
  rw [h]
  exact Nat.zero_lt_succ _

/-- What stands behind an item ends a number. -/
theorem endsNumber_writeItems (style : Style) (depth : Nat) (items : List Json)
    {cs : List Char} (hcs : EndsNumber cs) : EndsNumber (writeItems style depth items ++ cs) := by
  cases items with
  | nil => simpa [writeItems] using hcs
  | cons item items =>
    obtain ⟨ws, hsep, -⟩ := separator_eq style depth
    rw [writeItems, hsep]
    exact endsNumber_cons (by decide) _

/-- What stands behind a member ends a number. -/
theorem endsNumber_writeMembers (style : Style) (depth : Nat) (members : Members)
    {cs : List Char} (hcs : EndsNumber cs) : EndsNumber (writeMembers style depth members ++ cs) := by
  cases members with
  | nil => simpa [writeMembers] using hcs
  | cons member members =>
    obtain ⟨ws, hsep, -⟩ := separator_eq style depth
    rw [writeMembers, hsep]
    exact endsNumber_cons (by decide) _

mutual

theorem readValue_write (dialect : Dialect) (style : Style) (fuel depth : Nat) (v : Json)
    (hv : v.IsReadableIn dialect) (hf : 2 * (write style depth v).length ≤ fuel)
    {rest : List Char} (hr : EndsNumber rest) :
    readValue dialect fuel (write style depth v ++ rest) = .ok (v, rest) := by
  have hpos := length_write_pos style depth v
  match fuel, v with
  | 0, _ => omega
  | fuel + 1, .null => simp [write, readValue, readScalar]
  | fuel + 1, .bool true => simp [write, readValue, readScalar]
  | fuel + 1, .bool false => simp [write, readValue, readScalar]
  | fuel + 1, .num n =>
    cases hv with
    | num hn =>
      rw [write]
      exact readValue_numberText dialect fuel hn hr
  | fuel + 1, .str s =>
    rw [write]
    exact readValue_quote dialect fuel style.ascii s rest
  | fuel + 1, .arr [] => simp [write, readValue, skipSpace, isSpace]
  | fuel + 1, .obj [] => simp [write, readValue, skipSpace, isSpace]
  | fuel + 1, .arr (item :: items) =>
    obtain ⟨hi, his⟩ : item.IsReadableIn dialect ∧ ∀ item ∈ items, item.IsReadableIn dialect := by
      cases hv with
      | arr hitems => exact List.forall_mem_cons.1 hitems
    have hitems := readItems_write dialect style fuel (depth + 1) item items hi his
      (by simp [write] at hf ⊢; omega) (allSpace_gap style depth) rest
    obtain ⟨c, more, hc, hbegins⟩ := exists_write_eq_cons style (depth + 1) item
    have htext : write style depth (.arr (item :: items)) ++ rest =
        '[' :: (style.gap (depth + 1) ++ (write style (depth + 1) item ++
          writeItems style (depth + 1) items ++ (style.gap depth ++ ']' :: rest))) := by
      simp [write]
    have hbody : ∃ d tail, write style (depth + 1) item ++ writeItems style (depth + 1) items ++
        (style.gap depth ++ ']' :: rest) = d :: tail ∧ BeginsValue d :=
      ⟨c, _, by rw [hc]; rfl, hbegins⟩
    rw [htext, readValue_arr dialect fuel (allSpace_gap style _) hbody, hitems, ok_bind]
  | fuel + 1, .obj ((key, value) :: members) =>
    obtain ⟨hkeys, hvalues⟩ : (Table.keys ((key, value) :: members)).Nodup ∧
        ∀ entry ∈ (key, value) :: members, entry.2.IsReadableIn dialect := by
      cases hv with
      | obj hkeys hvalues => exact ⟨hkeys, hvalues⟩
    have hmembers := readMembers_write dialect style fuel (depth + 1) key value members
      (hvalues _ List.mem_cons_self) (fun entry h => hvalues entry (List.mem_cons_of_mem _ h))
      (by simp [write] at hf ⊢; omega) (allSpace_gap style depth) rest
    have htext : write style depth (.obj ((key, value) :: members)) ++ rest =
        '{' :: (style.gap (depth + 1) ++ (quote style.ascii key ++ ':' :: ' ' ::
          (write style (depth + 1) value ++ (writeMembers style (depth + 1) members ++
            (style.gap depth ++ '}' :: rest))))) := by
      simp [write]
    rw [htext, readValue_obj dialect fuel (allSpace_gap style _)
      ⟨_, _, quote_eq_cons .., by decide, by decide, by decide⟩, hmembers, ok_bind,
      Table.ofPairs_of_nodup hkeys]

theorem readItems_write (dialect : Dialect) (style : Style) (fuel depth : Nat) (item : Json)
    (items : List Json) (hi : item.IsReadableIn dialect)
    (his : ∀ item ∈ items, item.IsReadableIn dialect)
    (hf : 2 * (write style depth item ++ writeItems style depth items).length + 1 ≤ fuel)
    {ws : List Char} (hws : AllSpace ws) (rest : List Char) :
    readItems dialect fuel
      (write style depth item ++ writeItems style depth items ++ (ws ++ ']' :: rest)) =
        .ok (item :: items, rest) := by
  match fuel with
  | 0 => omega
  | fuel + 1 =>
    have hend : EndsNumber (ws ++ ']' :: rest) :=
      endsNumber_space_append hws (endsNumber_cons (by decide) rest)
    rw [List.length_append] at hf
    rw [readItems, List.append_assoc, readValue_write dialect style fuel depth item hi (by omega)
      (endsNumber_writeItems style depth items hend), ok_bind]
    match items with
    | [] =>
      simp only [writeItems, List.nil_append, skipSpace_append hws]
      rw [skipSpace_cons (by decide)]
      rfl
    | next :: items =>
      obtain ⟨hn, hns⟩ := List.forall_mem_cons.1 his
      obtain ⟨blanks, hsep, hblanks⟩ := separator_eq style depth
      obtain ⟨c, more, hc, hblank, -⟩ := exists_write_eq_cons style depth next
      have hitems := readItems_write dialect style fuel depth next items hn hns
        (by simp [writeItems, hsep] at hf ⊢; omega) hws rest
      simp only [writeItems, hsep, hc, List.cons_append, List.append_assoc] at hitems ⊢
      rw [skipSpace_cons (by decide)]
      simp only [skipSpace_append hblanks, skipSpace_cons hblank, hitems, ok_bind]

theorem readMembers_write (dialect : Dialect) (style : Style) (fuel depth : Nat) (key : String)
    (value : Json) (members : Members) (hv : value.IsReadableIn dialect)
    (hvs : ∀ entry ∈ members, entry.2.IsReadableIn dialect)
    (hf : 2 * (quote style.ascii key ++ ':' :: ' ' :: (write style depth value ++
      writeMembers style depth members)).length + 1 ≤ fuel)
    {ws : List Char} (hws : AllSpace ws) (rest : List Char) :
    readMembers dialect fuel (quote style.ascii key ++ ':' :: ' ' :: (write style depth value ++
      (writeMembers style depth members ++ (ws ++ '}' :: rest)))) =
        .ok ((key, value) :: members, rest) := by
  match fuel with
  | 0 => omega
  | fuel + 1 =>
    have hend : EndsNumber (ws ++ '}' :: rest) :=
      endsNumber_space_append hws (endsNumber_cons (by decide) rest)
    obtain ⟨c, more, hc, hbegins⟩ := exists_write_eq_cons style depth value
    have hvalue := readValue_write dialect style fuel depth value hv (by simp at hf; omega)
      (endsNumber_writeMembers style depth members hend)
    rw [readMembers_quote dialect fuel style.ascii key ⟨c, _, by rw [hc]; rfl, hbegins⟩ hvalue]
    match members with
    | [] =>
      rw [writeMembers, List.nil_append, skipSpace_append hws, skipSpace_cons (by decide)]
      rfl
    | (next, nextValue) :: members =>
      obtain ⟨hn, hns⟩ := List.forall_mem_cons.1 hvs
      obtain ⟨blanks, hsep, hblanks⟩ := separator_eq style depth
      have hmembers := readMembers_write dialect style fuel depth next nextValue members hn hns
        (by simp [writeMembers, hsep] at hf ⊢; omega) hws rest
      simp only [writeMembers, hsep, quote_eq_cons, List.cons_append, List.append_assoc]
        at hmembers ⊢
      rw [skipSpace_cons (by decide)]
      simp only [skipSpace_append hblanks, skipSpace_cons (show isSpace '"' = false by decide),
        hmembers, ok_bind]

end

/-- **Written values are read back**, whatever the style. -/
theorem read_print_in {dialect : Dialect} (style : Style) {v : Json} (hv : v.IsReadableIn dialect) :
    read dialect (print style v) = .ok v := by
  obtain ⟨c, more, hc, hblank, -⟩ := exists_write_eq_cons style 0 v
  have hskip : skipSpace (write style 0 v) = write style 0 v := by
    rw [hc, skipSpace_cons hblank]
  have hends : EndsNumber [] := by
    intro c hc
    cases hc
  have hvalue := readValue_write dialect style (2 * (write style 0 v).length + 2) 0 v hv (by omega)
    hends
  rw [List.append_nil] at hvalue
  simp only [read, print_eq, String.toList_ofList, hskip, hvalue, ok_bind]
  rfl

/-- A readable value is read back in every dialect. -/
theorem read_print (dialect : Dialect) (style : Style) {v : Json} (hv : v.isReadable = true) :
    read dialect (print style v) = .ok v :=
  read_print_in style (isReadableIn_of_isReadable hv)

/-! ## What is read is readable -/

theorem allDigits_takeDigits (cs : List Char) : AllDigits (takeDigits cs).1 :=
  fun _ hc => List.all_eq_true.1 List.all_takeWhile _ hc

theorem allDigits_wholeDigits (cs : List Char) : AllDigits (wholeDigits cs).1 := by
  unfold wholeDigits
  split
  · exact allDigits_zeros 1
  · exact allDigits_takeDigits _

section Read

variable {dialect : Dialect}

theorem isReadableIn_ofBinary {x : Binary64} {rest : List Char} {found : Json × List Char}
    (h : ofBinary dialect x rest = .ok found) : found.1.IsReadableIn dialect := by
  unfold ofBinary at h
  split at h
  · next hx =>
    cases h
    exact .num hx
  · cases h

theorem isReadableIn_readNumber {negative : Bool} {cs : List Char} {found : Json × List Char}
    (h : readNumber dialect negative cs = .ok found) : found.1.IsReadableIn dialect := by
  have hdigits := allDigits_wholeDigits cs
  unfold readNumber at h
  split at h
  · cases h
  next whole afterWhole hne hwhole =>
  rw [hwhole] at hdigits
  dsimp only at h hdigits
  split at h
  · split at h
    · cases h
    · next hlen =>
      cases h
      have hlt := Nat.lt_of_lt_of_le (ofDigits_lt hdigits)
        (Nat.pow_le_pow_right (by decide) (Nat.not_lt.1 hlen))
      have hcount := (Binary64.digitCount_le_iff (k := integerDigitLimit) (by decide)).2 hlt
      refine .num ?_
      cases negative <;> simpa [isReadableNumberIn, isReadableNumber] using hcount
  · exact isReadableIn_ofBinary h

theorem isReadableIn_readScalar {cs : List Char} {found : Json × List Char}
    (h : readScalar dialect cs = .ok found) : found.1.IsReadableIn dialect := by
  unfold readScalar at h
  split at h
  · cases h
    exact .null
  · cases h
    exact .bool true
  · cases h
    exact .bool false
  · exact isReadableIn_ofBinary h
  · exact isReadableIn_ofBinary h
  · exact isReadableIn_ofBinary h
  · exact isReadableIn_readNumber h
  · exact isReadableIn_readNumber h

theorem readString_eq_ok_iff {α : Type} {halves : Nat} {cs : List Char}
    {next : String → List Char → Except ReadError α} {a : α} :
    readString halves cs next = .ok a ↔
      ∃ s rest, scanString halves cs = some (s, rest) ∧ next s rest = .ok a := by
  unfold readString
  cases scanString halves cs with
  | none => simp
  | some found =>
    constructor
    · exact fun h => ⟨found.1, found.2, rfl, h⟩
    · rintro ⟨s, rest, heq, h⟩
      cases heq
      exact h

mutual

theorem isReadableIn_readValue {fuel : Nat} {cs : List Char} {found : Json × List Char}
    (h : readValue dialect fuel cs = .ok found) : found.1.IsReadableIn dialect := by
  match fuel with
  | 0 => cases h
  | fuel + 1 =>
    unfold readValue at h
    split at h
    · obtain ⟨s, rest, -, h⟩ := readString_eq_ok_iff.1 h
      cases h
      exact .str s
    · split at h
      · cases h
        exact .arr (List.forall_mem_nil _)
      · obtain ⟨⟨items, rest⟩, hitems, h⟩ := bind_eq_ok_iff.1 h
        cases h
        exact .arr (isReadableIn_readItems hitems)
    · split at h
      · cases h
        exact .obj (by simp) (List.forall_mem_nil _)
      · obtain ⟨⟨members, rest⟩, hmembers, h⟩ := bind_eq_ok_iff.1 h
        cases h
        exact .obj (Table.nodup_keys_ofPairs members)
          fun entry he => isReadableIn_readMembers hmembers entry (Table.mem_of_mem_ofPairs he)
    · exact isReadableIn_readScalar h

theorem isReadableIn_readItems {fuel : Nat} {cs : List Char} {found : List Json × List Char}
    (h : readItems dialect fuel cs = .ok found) :
    ∀ item ∈ found.1, item.IsReadableIn dialect := by
  match fuel with
  | 0 => cases h
  | fuel + 1 =>
    unfold readItems at h
    obtain ⟨⟨item, rest⟩, hitem, h⟩ := bind_eq_ok_iff.1 h
    have hi := isReadableIn_readValue hitem
    dsimp only at h
    split at h
    · obtain ⟨⟨items, rest⟩, hitems, h⟩ := bind_eq_ok_iff.1 h
      cases h
      exact List.forall_mem_cons.2 ⟨hi, isReadableIn_readItems hitems⟩
    · cases h
      exact List.forall_mem_singleton.2 hi
    · cases h

theorem isReadableIn_readMembers {fuel : Nat} {cs : List Char} {found : Members × List Char}
    (h : readMembers dialect fuel cs = .ok found) :
    ∀ entry ∈ found.1, entry.2.IsReadableIn dialect := by
  match fuel with
  | 0 => cases h
  | fuel + 1 =>
    unfold readMembers at h
    split at h
    · obtain ⟨key, rest, -, h⟩ := readString_eq_ok_iff.1 h
      split at h
      · obtain ⟨⟨value, rest⟩, hvalue, h⟩ := bind_eq_ok_iff.1 h
        have hv := isReadableIn_readValue hvalue
        dsimp only at h
        split at h
        · obtain ⟨⟨members, rest⟩, hmembers, h⟩ := bind_eq_ok_iff.1 h
          cases h
          exact List.forall_mem_cons.2 ⟨hv, isReadableIn_readMembers hmembers⟩
        · cases h
          exact List.forall_mem_singleton.2 hv
        · cases h
      · cases h
    · cases h

end

/-- **What is read is readable**: its numbers are those of the dialect, and its objects are
tables. -/
theorem isReadableIn_of_read {text : String} {v : Json} (h : read dialect text = .ok v) :
    v.IsReadableIn dialect := by
  unfold read at h
  obtain ⟨⟨value, rest⟩, hvalue, h⟩ := bind_eq_ok_iff.1 h
  dsimp only at h
  split at h
  · cases h
    exact isReadableIn_readValue hvalue
  · cases h

end Read

/-- What is read has only finite numbers, if the dialect has no others. -/
theorem isReadable_of_read {text : String} {v : Json} (h : read .finite text = .ok v) :
    v.isReadable = true :=
  isReadable_of_isReadableIn (isReadableIn_of_read h)

end Json

end FormStudio
