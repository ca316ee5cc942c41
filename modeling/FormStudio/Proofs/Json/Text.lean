import FormStudio.Json.Printer
import FormStudio.Json.Reader

/-!
# Written strings are read back

A character is written as itself, as a short escape, as the escape of its code unit, or as those of
a surrogate pair. The reader gets the units of the characters (`scanUnits_escapeChar`), and joined
they are the characters again (`joinUnits_flatMap`), in ASCII alone or not. So a string is read from
its text (`scanString_quote`).
-/
namespace FormStudio

namespace Json

/-! ## Characters and their units -/

/-- The code units a character is read as: itself, or a surrogate pair where only ASCII is written
and the character is past the first plane. -/
def charUnits (ascii : Bool) (c : Char) : List Nat :=
  if ascii ∧ 0x10000 ≤ c.toNat then
    [0xd800 + (c.toNat - 0x10000) / 0x400, 0xdc00 + (c.toNat - 0x10000) % 0x400]
  else [c.toNat]

theorem toNat_char_bounds (c : Char) :
    c.toNat < 0xd800 ∨ (0xe000 ≤ c.toNat ∧ c.toNat < 0x110000) := by
  rcases c.valid with h | ⟨hlow, hhigh⟩
  · exact .inl h
  · exact .inr ⟨hlow, hhigh⟩

theorem joinUnits_toNat (halves : Nat) (c : Char) (units : List Nat) :
    joinUnits halves (c.toNat :: units) = c :: joinUnits halves units := by
  have hc := toNat_char_bounds c
  have hchar : unitChar halves c.toNat = c := by
    rw [unitChar, halfCount, if_neg (by omega), Char.ofNat_toNat]
  cases units with
  | nil => simp [joinUnits, hchar]
  | cons low rest => rw [joinUnits, if_neg (by omega), hchar]

theorem joinUnits_pair (halves : Nat) (c : Char) (units : List Nat) (hc : 0x10000 ≤ c.toNat) :
    joinUnits halves ((0xd800 + (c.toNat - 0x10000) / 0x400) ::
      (0xdc00 + (c.toNat - 0x10000) % 0x400) :: units) = c :: joinUnits halves units := by
  have hbound := toNat_char_bounds c
  have hvalue : 0x10000 + (0xd800 + (c.toNat - 0x10000) / 0x400 - 0xd800) * 0x400 +
      (0xdc00 + (c.toNat - 0x10000) % 0x400 - 0xdc00) = c.toNat := by omega
  rw [joinUnits, if_pos (by omega), hvalue, Char.ofNat_toNat]

theorem joinUnits_flatMap (halves : Nat) (ascii : Bool) (cs : List Char) :
    joinUnits halves (cs.flatMap (charUnits ascii)) = cs := by
  induction cs with
  | nil => rfl
  | cons c rest ih =>
    rw [List.flatMap_cons, charUnits]
    split
    · next h =>
      have hpair := joinUnits_pair halves c (rest.flatMap (charUnits ascii)) h.2
      rw [ih] at hpair
      exact hpair
    · rw [List.singleton_append, joinUnits_toNat, ih]

/-! ## Escapes -/

theorem hexValue?_hexDigit : ∀ n < 16, hexValue? (hexDigit n) = some n := by decide

theorem hexUnit?_hexDigit {unit : Nat} (h : unit < 0x10000) :
    hexUnit? (hexDigit (unit / 0x1000 % 16)) (hexDigit (unit / 0x100 % 16))
      (hexDigit (unit / 0x10 % 16)) (hexDigit (unit % 16)) = some unit := by
  simp only [hexUnit?, hexValue?_hexDigit _ (Nat.mod_lt _ (by decide)), Option.bind_eq_bind,
    Option.bind_some, Option.pure_def, Option.some.injEq]
  omega

/-- Units in front of what is read. -/
def unitsOnto (units : List Nat) (found : Option (List Nat × List Char)) :
    Option (List Nat × List Char) :=
  found.map fun (more, rest) => (units ++ more, rest)

theorem unitsOnto_append (us vs : List Nat) (found : Option (List Nat × List Char)) :
    unitsOnto (us ++ vs) found = unitsOnto us (unitsOnto vs found) := by
  cases found <;> simp [unitsOnto]

theorem scanUnits_unitEscape {unit : Nat} (h : unit < 0x10000) (rest : List Char) :
    scanUnits (unitEscape unit ++ rest) = unitsOnto [unit] (scanUnits rest) := by
  simp only [unitEscape, List.cons_append, List.nil_append, scanUnits, hexUnit?_hexDigit h]
  cases scanUnits rest <;> rfl

theorem scanUnits_shortEscape {e : Char} {unit : Nat} (h : shortEscape? e = some unit)
    (rest : List Char) : scanUnits ('\\' :: e :: rest) = unitsOnto [unit] (scanUnits rest) := by
  have hu : e ≠ 'u' := by
    rintro rfl
    cases h
  rw [scanUnits]
  · rw [h]
    cases scanUnits rest <;> rfl
  · intro a b c d more he
    exact absurd he hu

theorem scanUnits_plain {c : Char} (hquote : c ≠ '"') (hslash : c ≠ '\\') (hc : ¬ c.toNat < 0x20)
    (rest : List Char) : scanUnits (c :: rest) = unitsOnto [c.toNat] (scanUnits rest) := by
  rw [scanUnits, if_neg (by simp [hc, hslash])]
  · cases scanUnits rest <;> rfl
  · exact fun h => hquote h
  · intro a b d e more h
    exact absurd h hslash
  · intro e more h
    exact absurd h hslash

/-- **A written character** is read as its units. -/
theorem scanUnits_escapeChar (ascii : Bool) (c : Char) (rest : List Char) :
    scanUnits (escapeChar ascii c ++ rest) = unitsOnto (charUnits ascii c) (scanUnits rest) := by
  have hbound := toNat_char_bounds c
  have hself : c.toNat < 0x10000 → charUnits ascii c = [c.toNat] := fun h => by
    rw [charUnits, if_neg (by omega)]
  have hshort : ∀ e, c.toNat < 0x10000 → shortEscape? e = some c.toNat →
      scanUnits ('\\' :: e :: rest) = unitsOnto (charUnits ascii c) (scanUnits rest) := by
    intro e hc he
    rw [hself hc, scanUnits_shortEscape he]
  unfold escapeChar
  split
  · next h => exact hshort '"' (by subst h; decide) (by subst h; rfl)
  split
  · next h => exact hshort '\\' (by subst h; decide) (by subst h; rfl)
  split
  · next h => exact hshort 'n' (by subst h; decide) (by subst h; rfl)
  split
  · next h => exact hshort 'r' (by subst h; decide) (by subst h; rfl)
  split
  · next h => exact hshort 't' (by subst h; decide) (by subst h; rfl)
  split
  · next h => exact hshort 'b' (by omega) (by rw [h]; rfl)
  split
  · next h => exact hshort 'f' (by omega) (by rw [h]; rfl)
  split
  · next h => rw [hself (by omega), scanUnits_unitEscape (by omega)]
  split
  · unfold charEscape
    dsimp only
    split
    · next h => rw [hself h, scanUnits_unitEscape h]
    · next hascii h =>
      rw [charUnits, if_pos ⟨hascii.1, by omega⟩, List.append_assoc,
        scanUnits_unitEscape (by omega), scanUnits_unitEscape (by omega), ← unitsOnto_append]
      rfl
  · next hquote hslash _ _ _ _ _ hcontrol hascii =>
    rw [charUnits, if_neg fun h => hascii ⟨h.1, by omega⟩]
    exact scanUnits_plain hquote hslash hcontrol rest

theorem scanUnits_quote (ascii : Bool) (cs rest : List Char) :
    scanUnits (cs.flatMap (escapeChar ascii) ++ '"' :: rest) =
      some (cs.flatMap (charUnits ascii), rest) := by
  induction cs with
  | nil => rfl
  | cons c more ih =>
    rw [List.flatMap_cons, List.append_assoc, scanUnits_escapeChar, ih]
    rfl

/-- **A string is read from its text**, the opening quote apart. -/
theorem scanString_quote (halves : Nat) (ascii : Bool) (s : String) (rest : List Char) :
    scanString halves (s.toList.flatMap (escapeChar ascii) ++ '"' :: rest) = some (s, rest) := by
  rw [scanString, scanUnits_quote, Option.map_some]
  dsimp only
  rw [joinUnits_flatMap, String.ofList_toList]

end Json

end FormStudio
