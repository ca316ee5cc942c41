/-!
# Sorted texts

Lists of texts in order, each text once. Texts are ordered by their characters.

Main statements: `Sorted.mem_insert` and `Sorted.mem_ofList`, a sorted list holds what went into it.
-/
namespace FormStudio

namespace Sorted

/-- Puts a text into a sorted list that holds each text once. -/
def insert (text : String) : List String → List String
  | [] => [text]
  | other :: rest =>
    if text < other then text :: other :: rest
    else if text = other then other :: rest
    else other :: insert text rest

/-- Sorts texts and drops those that come again. -/
def ofList (texts : List String) : List String := texts.foldr insert []

theorem mem_insert {text x : String} {texts : List String} :
    x ∈ insert text texts ↔ x = text ∨ x ∈ texts := by
  induction texts with
  | nil => simp [insert]
  | cons other rest ih =>
    unfold insert
    split
    · simp
    · split
      · rename_i h
        simp [h]
      · simp only [List.mem_cons, ih]
        exact or_left_comm

theorem mem_ofList {x : String} {texts : List String} : x ∈ ofList texts ↔ x ∈ texts := by
  induction texts with
  | nil => simp [ofList]
  | cons text rest ih =>
    have h : ofList (text :: rest) = insert text (ofList rest) := rfl
    rw [h, mem_insert, ih, List.mem_cons]

end Sorted

end FormStudio
