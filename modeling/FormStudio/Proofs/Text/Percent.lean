import Mathlib.Data.List.SplitBy
import FormStudio.Http.Target
import FormStudio.Proofs.Json.Text
import FormStudio.Proofs.Text.Utf8

/-!
# Names in targets

A percent encoding of bytes has two hexadecimal digits for a byte, or the plain character where the
byte is one (`Percent.Encodes`); which of the plain characters are escaped is left open, and all
bytes have an encoding (`Percent.exists_encodes`). It is read back as the bytes
(`Percent.Encodes.bytes_eq`), and as the text if the bytes are those of a text
(`Percent.Encodes.decode_eq`). Nothing in it marks a part of a target, so a target that ends in the
encoding of a name names it (`Target.segment?_of_encodes`).
-/
namespace FormStudio

namespace Percent

/-- Whether a character of a target stands for itself: it is visible ASCII, and marks nothing. -/
def IsPlain (c : Char) : Prop :=
  0x20 < c.toNat ∧ c.toNat < 0x7f ∧ c ∉ ['%', ':', ';', '?', '#']

/-- The percent encodings of bytes. -/
inductive Encodes : List Char → List UInt8 → Prop
  | nil : Encodes [] []
  | plain {c : Char} {cs : List Char} {bytes : List UInt8} (hc : IsPlain c)
    (h : Encodes cs bytes) : Encodes (c :: cs) (UInt8.ofNat c.toNat :: bytes)
  | escaped {a b : Char} {high low : Nat} {cs : List Char} {bytes : List UInt8}
    (ha : Json.hexValue? a = some high) (hb : Json.hexValue? b = some low)
    (h : Encodes cs bytes) :
    Encodes ('%' :: a :: b :: cs) (UInt8.ofNat (high * 16 + low) :: bytes)

variable {cs : List Char} {bytes : List UInt8}

/-- A hexadecimal digit is a plain character. -/
theorem isPlain_of_hexValue? {c : Char} {n : Nat} (h : Json.hexValue? c = some n) : IsPlain c := by
  have hcode : ∀ a b : Char, a ≤ b ↔ a.toNat ≤ b.toNat := fun a b => UInt32.le_iff_toNat_le
  have hrange : 0x30 ≤ c.toNat ∧ c.toNat ≤ 0x39 ∨ 0x41 ≤ c.toNat ∧ c.toNat ≤ 0x46 ∨
      0x61 ≤ c.toNat ∧ c.toNat ≤ 0x66 := by
    unfold Json.hexValue? at h
    simp only [hcode] at h
    split at h
    · next hdigit => exact .inl hdigit
    split at h
    · next hsmall => exact .inr (.inr hsmall)
    split at h
    · next hcapital => exact .inr (.inl hcapital)
    · cases h
  refine ⟨by omega, by omega, ?_⟩
  intro hmem
  simp only [List.mem_cons, List.not_mem_nil, or_false] at hmem
  rcases hmem with rfl | rfl | rfl | rfl | rfl <;> revert hrange <;> decide

namespace Encodes

theorem bytes_eq (h : Encodes cs bytes) : Percent.bytes cs = bytes := by
  induction h with
  | nil => rfl
  | plain hc _ ih =>
    rw [Percent.bytes, ih]
    rintro a b rest rfl
    exact absurd List.mem_cons_self hc.2.2
  | escaped ha hb _ ih => rw [Percent.bytes, ha, hb, ih]

/-- All of an encoding is visible ASCII, and none of it marks a part of a target. -/
theorem forall_mem (h : Encodes cs bytes) :
    ∀ c ∈ cs, c.toNat < 0x7f ∧ c ∉ [':', ';', '?', '#'] := by
  have hplain : ∀ {c : Char}, IsPlain c → c.toNat < 0x7f ∧ c ∉ [':', ';', '?', '#'] :=
    fun hc => ⟨hc.2.1, fun h => hc.2.2 (List.mem_cons_of_mem _ h)⟩
  induction h with
  | nil => exact List.forall_mem_nil _
  | plain hc _ ih => exact List.forall_mem_cons.2 ⟨hplain hc, ih⟩
  | escaped ha hb _ ih =>
    refine List.forall_mem_cons.2 ⟨by decide, List.forall_mem_cons.2 ⟨?_, ?_⟩⟩
    · exact hplain (isPlain_of_hexValue? ha)
    · exact List.forall_mem_cons.2 ⟨hplain (isPlain_of_hexValue? hb), ih⟩

theorem all_isAscii (h : Encodes cs bytes) : ∀ c ∈ cs, isAscii c = true := by
  intro c hc
  have hlow := (h.forall_mem c hc).1
  exact decide_eq_true (by omega)

/-- **An encoding of a text is decoded as it.** -/
theorem decode_eq {name : String} (h : Encodes cs (Utf8.encode name)) :
    decode (String.ofList cs) = name := by
  have hascii := h.all_isAscii
  have hruns : (runs cs).flatMap decodeRun = decodeRun cs := by
    cases cs with
    | nil => rfl
    | cons c cs =>
      have hchain : (c :: cs).IsChain fun a b => isAscii a == isAscii b := by
        refine List.Pairwise.isChain (List.pairwise_of_forall_mem_list fun a ha b hb => ?_)
        rw [hascii a ha, hascii b hb]
        rfl
      rw [runs, List.splitBy_of_isChain (List.cons_ne_nil c cs) hchain, List.flatMap_singleton]
  rw [decode, String.toList_ofList, hruns, decodeRun, if_pos (List.all_eq_true.2 hascii),
    h.bytes_eq, Utf8.decodeLossy_encode, String.ofList_toList]

end Encodes

/-- Bytes can be encoded: all of them escaped, if need be. -/
theorem exists_encodes (bytes : List UInt8) : ∃ cs, Encodes cs bytes := by
  induction bytes with
  | nil => exact ⟨[], .nil⟩
  | cons b bytes ih =>
    obtain ⟨cs, h⟩ := ih
    have hsplit : b.toNat / 16 * 16 + b.toNat % 16 = b.toNat := by omega
    have hb : UInt8.ofNat (b.toNat / 16 * 16 + b.toNat % 16) = b := by
      rw [hsplit, UInt8.ofNat_toNat]
    have hlt := b.toNat_lt
    have hhigh := Json.hexValue?_hexDigit (b.toNat / 16) (by omega)
    have hlow := Json.hexValue?_hexDigit (b.toNat % 16) (by omega)
    rw [← hb]
    exact ⟨_, .escaped hhigh hlow h⟩

end Percent

/-- **A target that ends in the encoding of a name names it.** -/
theorem Target.segment?_of_encodes {beginning : String} {c : Char} {before cs : List Char}
    {name : String} (hbeginning : beginning.toList = '/' :: c :: before) (hslash : c ≠ '/')
    (hplain : (c :: before).any [':', ';', '?', '#'].contains = false)
    (h : Percent.Encodes cs (Utf8.encode name)) :
    ∃ target, ofText (beginning ++ String.ofList cs) = .ok target ∧
      target.segment? beginning = some name := by
  have htext : beginning ++ String.ofList cs = String.ofList ('/' :: (c :: before ++ cs)) := by
    apply String.toList_injective
    simp [hbeginning]
  have hall : ∀ d ∈ c :: before ++ cs, d ∉ [':', ';', '?', '#'] := by
    intro d hd
    rcases List.mem_append.1 hd with hd | hd
    · intro hmark
      exact List.any_eq_false.1 hplain d hd (List.contains_iff_mem.2 hmark)
    · exact (h.forall_mem d hd).2
  have hhead : (c :: before ++ cs).head? ≠ some '/' := fun h => hslash (Option.some.inj h)
  rw [htext]
  refine ⟨_, ofText_of_plain hhead hall, ?_⟩
  have hlength : beginning.length = ('/' :: c :: before).length := by
    rw [← hbeginning, String.length_toList]
  have hdrop : ('/' :: (c :: before ++ cs)).drop beginning.length = cs := by
    rw [hlength, ← List.cons_append, List.drop_left]
  rw [segment?, String.toList_ofList, hdrop, h.decode_eq, if_pos]
  rw [hbeginning, ← List.cons_append, List.isPrefixOf_iff_prefix]
  exact List.prefix_append _ _

end FormStudio
