/-!
# Markup trees

The markup of a preview is a tree of texts, elements and symbols. Only the printer makes text of it,
and it replaces every character of a text or an attribute value that means something in markup.

Main statement: `Html.escape_plain`, no such character is left in a replaced text.
-/
namespace FormStudio

/-- An attribute of an element. -/
inductive HtmlAttribute where
  /-- A name alone. -/
  | flag (name : String)
  | pair (name value : String)
  deriving DecidableEq, Repr

/-- A tree of markup. -/
inductive Html where
  | text (content : String)
  /-- A character that is written by its number. -/
  | symbol (code : Nat)
  /-- An element that has no content. -/
  | void (tag : String) (attributes : List HtmlAttribute)
  | element (tag : String) (attributes : List HtmlAttribute) (children : List Html)
  deriving Repr

namespace Html

/-! ## Printing -/

/-- What a character is written as. -/
def escapeChar (c : Char) : List Char :=
  if c = '&' then ['&', 'a', 'm', 'p', ';']
  else if c = '<' then ['&', 'l', 't', ';']
  else if c = '>' then ['&', 'g', 't', ';']
  else if c = '"' then ['&', 'q', 'u', 'o', 't', ';']
  else if c = '\'' then ['&', '#', 'x', '2', '7', ';']
  else [c]

/-- What a text is written as. -/
def escape (cs : List Char) : List Char := cs.flatMap escapeChar

/-- What an attribute is written as. -/
def writeAttribute : HtmlAttribute → List Char
  | .flag name => ' ' :: name.toList
  | .pair name value => ' ' :: name.toList ++ '=' :: '"' :: escape value.toList ++ ['"']

def openTag (tag : String) (attributes : List HtmlAttribute) : List Char :=
  '<' :: tag.toList ++ attributes.flatMap writeAttribute ++ ['>']

def closeTag (tag : String) : List Char := '<' :: '/' :: tag.toList ++ ['>']

mutual

/-- What a tree is written as. -/
def write : Html → List Char
  | .text content => escape content.toList
  | .symbol code => '&' :: '#' :: Nat.toDigits 10 code ++ [';']
  | .void tag attributes => openTag tag attributes
  | .element tag attributes children =>
    openTag tag attributes ++ writeAll children ++ closeTag tag

/-- What trees are written as, one after the other. -/
def writeAll : List Html → List Char
  | [] => []
  | tree :: trees => write tree ++ writeAll trees

end

def print (tree : Html) : String := String.ofList tree.write

/-- Whether a character means nothing in markup. -/
def isPlain (c : Char) : Bool := c != '<' && c != '>' && c != '"' && c != '\''

theorem isPlain_of_mem_escapeChar {c d : Char} (h : c ∈ escapeChar d) : isPlain c = true := by
  unfold escapeChar at h
  split at h
  · simp only [List.mem_cons, List.not_mem_nil, or_false] at h
    rcases h with rfl | rfl | rfl | rfl | rfl <;> rfl
  · split at h
    · simp only [List.mem_cons, List.not_mem_nil, or_false] at h
      rcases h with rfl | rfl | rfl | rfl <;> rfl
    · split at h
      · simp only [List.mem_cons, List.not_mem_nil, or_false] at h
        rcases h with rfl | rfl | rfl | rfl <;> rfl
      · split at h
        · simp only [List.mem_cons, List.not_mem_nil, or_false] at h
          rcases h with rfl | rfl | rfl | rfl | rfl | rfl <;> rfl
        · split at h
          · simp only [List.mem_cons, List.not_mem_nil, or_false] at h
            rcases h with rfl | rfl | rfl | rfl | rfl | rfl <;> rfl
          · obtain rfl := List.mem_singleton.1 h
            simp [isPlain, *]

theorem escape_plain {cs : List Char} {c : Char} (h : c ∈ escape cs) : isPlain c = true := by
  obtain ⟨d, _, hd⟩ := List.mem_flatMap.1 h
  exact isPlain_of_mem_escapeChar hd

end Html

end FormStudio
