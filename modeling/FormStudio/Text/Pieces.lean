import FormStudio.Text.Blank

/-!
# Pieces of a text

Cutting a text at separators, and into words between blanks.

Main statements: `Pieces.join_split`, a text is its pieces with the separator between them, and
`Pieces.words_cons_append`, the first word ends at the first blank.
-/
namespace FormStudio

namespace Pieces

/-- The text in front of the first separator, and the text behind it. -/
def cut (separator : Char) (cs : List Char) : List Char × List Char :=
  (cs.takeWhile (· != separator), (cs.dropWhile (· != separator)).drop 1)

/-- The pieces between separators. -/
def split (separator : Char) : List Char → List (List Char)
  | [] => [[]]
  | c :: rest =>
    match split separator rest with
    | piece :: pieces => if c = separator then [] :: piece :: pieces else (c :: piece) :: pieces
    | [] => [[]]

/-- Pieces with a separator between them. -/
def join (separator : Char) : List (List Char) → List Char
  | [] => []
  | [piece] => piece
  | piece :: pieces => piece ++ separator :: join separator pieces

/-- The words between blanks. -/
def words : List Char → List (List Char)
  | [] => []
  | c :: rest =>
    if isBlank c then words rest
    else
      match rest with
      | [] => [[c]]
      | next :: _ =>
        if isBlank next then [c] :: words rest
        else
          match words rest with
          | word :: others => (c :: word) :: others
          | [] => [[c]]

theorem split_ne_nil (separator : Char) (cs : List Char) : split separator cs ≠ [] := by
  cases cs with
  | nil => simp [split]
  | cons c rest =>
    unfold split
    split
    · split <;> simp
    · simp

theorem join_split (separator : Char) (cs : List Char) :
    join separator (split separator cs) = cs := by
  induction cs with
  | nil => rfl
  | cons c rest ih =>
    unfold split
    split
    · rename_i piece pieces h
      rw [h] at ih
      split
      · rename_i hc
        rw [join, ih, hc]
        · rfl
        · simp
      · cases pieces with
        | nil => rw [join] at ih ⊢; rw [ih]
        | cons next pieces =>
          rw [join] at ih ⊢
          · rw [List.cons_append, ih]
          · simp
          · simp
    · rename_i h
      exact absurd h (split_ne_nil separator rest)

theorem cut_of_not_mem {separator : Char} {cs : List Char} (h : separator ∉ cs) :
    cut separator cs = (cs, []) := by
  induction cs with
  | nil => rfl
  | cons c rest ih =>
    simp only [List.mem_cons, not_or] at h
    have hc : c ≠ separator := Ne.symm h.1
    have := ih h.2
    simp only [cut, Prod.mk.injEq] at this
    simp [cut, hc, this.1, this.2]

theorem words_cons_append {c : Char} {cs rest : List Char} (h : ∀ d ∈ c :: cs, isBlank d = false)
    {blank : Char} (hblank : isBlank blank = true) :
    words (c :: cs ++ blank :: rest) = (c :: cs) :: words rest := by
  induction cs generalizing c with
  | nil => simp [words, h c (by simp), hblank]
  | cons d others ih =>
    have hc := h c (by simp)
    have hd := h d (by simp)
    have := ih fun e he => h e (List.mem_cons_of_mem c he)
    simp only [List.cons_append] at this ⊢
    rw [words, this]
    simp [hc, hd]

theorem words_eq_singleton {c : Char} {cs : List Char}
    (h : ∀ d ∈ c :: cs, isBlank d = false) : words (c :: cs) = [c :: cs] := by
  induction cs generalizing c with
  | nil => simp [words, h c (by simp)]
  | cons d rest ih =>
    have hc := h c (by simp)
    have hd := h d (by simp)
    rw [words, ih fun e he => h e (List.mem_cons_of_mem c he)]
    simp [hc, hd]

end Pieces

end FormStudio
