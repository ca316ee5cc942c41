import FormStudio.Text.Utf8

/-!
# Texts come back from their bytes

A character is one to four bytes. Its first byte leads a sequence that calls for the others, and
their bits are the character again (`Utf8.scan_encodeChar`). So a text comes back from its bytes
(`Utf8.decode?_encode`), and the lenient reading puts nothing in its place
(`Utf8.decodeLossy_encode`).
-/
namespace FormStudio

namespace Utf8

/-! ## Bytes of a text -/

theorem toList_loop (bytes : ByteArray) (i : Nat) (before : List UInt8) :
    ByteArray.toList.loop bytes i before = before.reverse ++ bytes.data.toList.drop i := by
  fun_induction ByteArray.toList.loop bytes i before with
  | case1 i before h ih =>
    have hi : i < bytes.data.toList.length := h
    rw [ih, List.drop_eq_getElem_cons hi]
    simp [ByteArray.get!, getElem!_pos, h]
  | case2 i before h =>
    have hi : bytes.data.toList.length ≤ i := Nat.le_of_not_lt h
    rw [List.drop_eq_nil_of_le hi, List.append_nil]

theorem encode_eq (s : String) : encode s = s.toList.flatMap String.utf8EncodeChar := by
  obtain ⟨cs, rfl⟩ : ∃ cs, s = String.ofList cs := ⟨s.toList, String.ofList_toList.symm⟩
  rw [encode, String.toUTF8_eq_toByteArray, String.toByteArray_ofList, ByteArray.toList, toList_loop,
    List.utf8Encode, List.toList_data_toByteArray, String.toList_ofList]
  rfl

/-! ## One character -/

theorem toNat_ofNat {n : Nat} (h : n < 256) : (UInt8.ofNat n).toNat = n := by
  rw [UInt8.toNat_ofNat', Nat.mod_eq_of_lt h]

theorem continuation_ofNat {bits low high n : Nat} {ranges : List (Nat × Nat)} {rest : List UInt8}
    (hn : n < 256) (hlow : low ≤ n) (hhigh : n ≤ high) :
    continuation bits ((low, high) :: ranges) (UInt8.ofNat n :: rest) =
      continuation (bits * 64 + (n - 0x80)) ranges rest := by
  rw [continuation, toNat_ofNat hn, if_pos ⟨hlow, hhigh⟩]

theorem lead?_one {n : Nat} (h : n < 0x80) : lead? n = some (n, []) := by
  rw [lead?, if_pos h]

theorem lead?_two {n : Nat} (hlow : 0xc2 ≤ n) (hhigh : n < 0xe0) :
    lead? n = some (n - 0xc0, [(0x80, 0xbf)]) := by
  rw [lead?, if_neg (by omega), if_neg (by omega), if_pos hhigh]

/-- The lead of three bytes, and the range of the second one. -/
theorem lead?_three {n m : Nat} (hn : 0xe0 ≤ n ∧ n < 0xf0) (hm : 0x80 ≤ m ∧ m ≤ 0xbf)
    (hlow : n = 0xe0 → 0xa0 ≤ m) (hhigh : n = 0xed → m ≤ 0x9f) :
    ∃ low high, lead? n = some (n - 0xe0, [(low, high), (0x80, 0xbf)]) ∧ low ≤ m ∧ m ≤ high := by
  unfold lead?
  rw [if_neg (by omega), if_neg (by omega), if_neg (by omega)]
  by_cases hfirst : n = 0xe0
  · subst hfirst
    exact ⟨_, _, rfl, hlow rfl, hm.2⟩
  rw [if_neg hfirst]
  by_cases hsurrogate : n = 0xed
  · subst hsurrogate
    exact ⟨_, _, rfl, hm.1, hhigh rfl⟩
  rw [if_neg hsurrogate, if_pos hn.2]
  exact ⟨_, _, rfl, hm.1, hm.2⟩

/-- The lead of four bytes, and the range of the second one. -/
theorem lead?_four {n m : Nat} (hn : 0xf0 ≤ n ∧ n ≤ 0xf4) (hm : 0x80 ≤ m ∧ m ≤ 0xbf)
    (hlow : n = 0xf0 → 0x90 ≤ m) (hhigh : n = 0xf4 → m ≤ 0x8f) :
    ∃ low high, lead? n = some (n - 0xf0, [(low, high), (0x80, 0xbf), (0x80, 0xbf)]) ∧
      low ≤ m ∧ m ≤ high := by
  unfold lead?
  rw [if_neg (by omega), if_neg (by omega), if_neg (by omega), if_neg (by omega),
    if_neg (by omega), if_neg (by omega)]
  by_cases hfirst : n = 0xf0
  · subst hfirst
    exact ⟨_, _, rfl, hlow rfl, hm.2⟩
  rw [if_neg hfirst]
  by_cases hlast : n = 0xf4
  · subst hlast
    exact ⟨_, _, rfl, hm.1, hhigh rfl⟩
  rw [if_pos (by omega)]
  exact ⟨_, _, rfl, hm.1, hm.2⟩

/-- Where the bytes behind a lead give a character, it is read. -/
theorem scan_cons {fuel n bits : Nat} {ranges : List (Nat × Nat)} {bytes rest : List UInt8}
    {c : Char} (hn : n < 256) (hlead : lead? n = some (bits, ranges))
    (hbits : continuation bits ranges bytes = (some c.toNat, rest)) :
    scan (fuel + 1) (UInt8.ofNat n :: bytes) = some c :: scan fuel rest := by
  rw [scan, toNat_ofNat hn, hlead]
  dsimp only
  rw [hbits, Option.map_some, Char.ofNat_toNat]

/-- **The bytes of a character are read as it.** -/
theorem scan_encodeChar (fuel : Nat) (c : Char) (rest : List UInt8) :
    scan (fuel + 1) (String.utf8EncodeChar c ++ rest) = some c :: scan fuel rest := by
  have hvalid : c.toNat < 0xd800 ∨ 0xdfff < c.toNat ∧ c.toNat < 0x110000 := c.valid
  have hval : c.val.toNat = c.toNat := rfl
  unfold String.utf8EncodeChar
  rw [hval]
  generalize hv : c.toNat = v at hvalid
  dsimp only
  split
  · exact scan_cons (by omega) (lead?_one (by omega)) (by rw [hv]; rfl)
  split
  · refine scan_cons (by omega) (lead?_two (by omega) (by omega)) ?_
    refine (continuation_ofNat (by omega) (by omega) (by omega)).trans ?_
    have hbits : (v / 64 % 32 + 192 - 0xc0) * 64 + (v % 64 + 128 - 0x80) = v := by omega
    rw [hbits, hv]
    rfl
  split
  · obtain ⟨low, high, hlead, hlow, hhigh⟩ := lead?_three (n := v / 4096 % 16 + 224)
      (m := v / 64 % 64 + 128) (by omega) (by omega) (by omega) (by omega)
    refine scan_cons (by omega) hlead ?_
    refine (continuation_ofNat (by omega) hlow hhigh).trans ?_
    refine (continuation_ofNat (by omega) (by omega) (by omega)).trans ?_
    have hbits : ((v / 4096 % 16 + 224 - 0xe0) * 64 + (v / 64 % 64 + 128 - 0x80)) * 64 +
        (v % 64 + 128 - 0x80) = v := by omega
    rw [hbits, hv]
    rfl
  · obtain ⟨low, high, hlead, hlow, hhigh⟩ := lead?_four (n := v / 262144 % 8 + 240)
      (m := v / 4096 % 64 + 128) (by omega) (by omega) (by omega) (by omega)
    refine scan_cons (by omega) hlead ?_
    refine (continuation_ofNat (by omega) hlow hhigh).trans ?_
    refine (continuation_ofNat (by omega) (by omega) (by omega)).trans ?_
    refine (continuation_ofNat (by omega) (by omega) (by omega)).trans ?_
    have hbits : (((v / 262144 % 8 + 240 - 0xf0) * 64 + (v / 4096 % 64 + 128 - 0x80)) * 64 +
        (v / 64 % 64 + 128 - 0x80)) * 64 + (v % 64 + 128 - 0x80) = v := by omega
    rw [hbits, hv]
    rfl

/-! ## A text -/

theorem scan_flatMap {cs : List Char} {fuel : Nat} (h : cs.length ≤ fuel) :
    scan fuel (cs.flatMap String.utf8EncodeChar) = cs.map some := by
  induction cs generalizing fuel with
  | nil => cases fuel <;> rfl
  | cons c cs ih =>
    rw [List.length_cons] at h
    obtain ⟨fuel, rfl⟩ : ∃ more, fuel = more + 1 := ⟨fuel - 1, by omega⟩
    rw [List.flatMap_cons, scan_encodeChar, ih (by omega)]
    rfl

theorem length_le_flatMap (cs : List Char) :
    cs.length ≤ (cs.flatMap String.utf8EncodeChar).length := by
  induction cs with
  | nil => exact Nat.le_refl 0
  | cons c cs ih =>
    have hc : 0 < (String.utf8EncodeChar c).length := by
      rw [String.length_utf8EncodeChar]
      exact c.utf8Size_pos
    rw [List.flatMap_cons, List.length_append, List.length_cons]
    omega

theorem parts_encode (s : String) : parts (encode s) = s.toList.map some := by
  rw [parts, encode_eq]
  exact scan_flatMap (length_le_flatMap _)

theorem decode?_encode (s : String) : decode? (encode s) = some s := by
  have hall : ∀ cs : List Char, (cs.map some).mapM id = some cs := by
    intro cs
    induction cs with
    | nil => rfl
    | cons c cs ih => simp [ih]
  rw [decode?, parts_encode, hall, Option.map_some, String.ofList_toList]

theorem decodeLossy_encode (s : String) : decodeLossy (encode s) = s.toList := by
  rw [decodeLossy, parts_encode, List.map_map]
  exact List.map_id _

end Utf8

end FormStudio
