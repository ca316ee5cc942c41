import FormStudio.Code.Markup
import FormStudio.Proofs.Code.Layout
import FormStudio.Proofs.Code.Literal

/-!
# What texts in generated markup denote

Between tags and in plain quotes a text is read by rules of markup: references are replaced, and of
a text between tags the lines are trimmed and joined (`Markup.Rules`). Between braces it is a string
literal. A text between tags is read as it was unless it is written plainly with a line break in it,
and one in an attribute unless it is written plainly and has a reference in it
(`Markup.Rules.reads_written_iff`).
-/
namespace FormStudio

namespace Markup

/-! ## Reading markup -/

/-- Rules for reading markup. -/
structure Rules where
  /-- The characters that a reference stands for, by what is between its marks. -/
  reference : List Char → Option (List Char)
  /-- Whether a character ends a line. -/
  isBreak : Char → Bool
  /-- Whether a character is dropped at the ends of a line. -/
  isMargin : Char → Bool
  isBreak_space : isBreak ' ' = false
  isBlank_of_isMargin : ∀ c, isMargin c = true → isBlank c = true

/-- The text of a literal that stands in front of a closing brace. -/
def scriptText? (cs : List Char) : Option String :=
  if cs.getLast? = some '\x7d' then Script.text? (String.ofList cs.dropLast) else none

/-- Whether a character has no place in a plain text between tags. -/
def isReserved (c : Char) : Bool := c == '\x7b' || c == '\x7d' || c == '<' || c == '>'

namespace Rules

variable (rules : Rules)

/-- What stands behind an ampersand, with the reference replaced that it begins with. -/
def decodePart (part : List Char) : List Char :=
  match part.dropWhile (· != ';') with
  | [] => '&' :: part
  | _ :: rest =>
    match rules.reference (part.takeWhile (· != ';')) with
    | some cs => cs ++ rest
    | none => '&' :: part

/-- A text with its references replaced. -/
def decode (cs : List Char) : List Char :=
  match cs.splitOn '&' with
  | [] => []
  | first :: parts => first ++ parts.flatMap rules.decodePart

def trimLine (line : List Char) : List Char :=
  (line.dropWhile rules.isMargin).rdropWhile rules.isMargin

/-- The lines of a text between tags, trimmed, without those that are blank. -/
def contentLines (cs : List Char) : List (List Char) :=
  ((cs.splitOnP rules.isBreak).map rules.trimLine).filter (!·.isEmpty)

/-- What a plain text between tags denotes. -/
def content (cs : List Char) : List Char :=
  [' '].intercalate ((rules.contentLines cs).map rules.decode)

/-- The text that stands between tags. -/
def child? (source : String) : Option String :=
  match source.toList with
  | '\x7b' :: rest => scriptText? rest
  | cs => if cs.any isReserved then none else some (String.ofList (rules.content cs))

/-- The text that is the value of an attribute. -/
def value? : List Char → Option String
  | '\x7b' :: rest => scriptText? rest
  | '"' :: rest =>
    if rest.getLast? = some '"' ∧ '"' ∉ rest.dropLast then
      some (String.ofList (rules.decode rest.dropLast))
    else none
  | _ => none

/-- The name and the text of an attribute. -/
def attribute? (source : String) : Option (String × String) :=
  match source.toList.dropWhile (· != '=') with
  | _ :: rest =>
    (rules.value? rest).map (String.ofList (source.toList.takeWhile (· != '=')), ·)
  | [] => none

/-! ## Literals -/

theorem scriptText?_literal (t : String) :
    scriptText? ((textLiteral t).toList ++ ['\x7d']) = some t := by
  rw [scriptText?, if_pos List.getLast?_concat, List.dropLast_concat, String.ofList_toList,
    Script.text?_textLiteral]

theorem toList_braced (s : String) : (braced s).toList = '\x7b' :: (s.toList ++ ['\x7d']) := by
  simp [braced]

theorem child?_literal (t : String) : rules.child? (braced (textLiteral t)) = some t := by
  rw [child?, toList_braced]
  exact scriptText?_literal t

theorem attribute?_append {name : String} (hname : '=' ∉ name.toList) (value : String) :
    rules.attribute? (name ++ "=" ++ value) =
      (rules.value? value.toList).map (name, ·) := by
  have hstart : ∀ c ∈ name.toList, (c != '=') = true :=
    fun c hc => bne_iff_ne.2 fun heq => hname (heq ▸ hc)
  have htext : (name ++ "=" ++ value).toList = name.toList ++ '=' :: value.toList := by simp
  rw [attribute?, htext, List.dropWhile_append_of_pos hstart, List.takeWhile_append_of_pos hstart]
  simp

theorem attribute?_literal {name : String} (hname : '=' ∉ name.toList) (t : String) :
    rules.attribute? (expression name (textLiteral t)) = some (name, t) := by
  rw [expression, rules.attribute?_append hname, toList_braced, value?, scriptText?_literal]
  rfl

/-! ## Plain texts -/

theorem decode_of_not_mem {cs : List Char} (h : '&' ∉ cs) : rules.decode cs = cs := by
  rw [decode, List.splitOn_eq_singleton h]
  simp

theorem attribute?_plainText {name value : String} (hname : '=' ∉ name.toList)
    (hvalue : '"' ∉ value.toList) :
    rules.attribute? (plainText name value) =
      some (name, String.ofList (rules.decode value.toList)) := by
  have hmark : "=\"" = "=" ++ "\"" := rfl
  have htext : plainText name value = name ++ "=" ++ ("\"" ++ value ++ "\"") := by
    simp only [plainText, hmark, String.append_assoc]
  have hquoted : ("\"" ++ value ++ "\"").toList = '"' :: (value.toList ++ ['"']) := by simp
  rw [htext, rules.attribute?_append hname, hquoted, value?, List.dropLast_concat,
    if_pos ⟨List.getLast?_concat, hvalue⟩]
  rfl

variable {rules}

theorem mem_of_mem_trimLine {line : List Char} {c : Char} (h : c ∈ rules.trimLine line) :
    c ∈ line :=
  (List.dropWhile_suffix _).subset ((List.rdropWhile_prefix _ _).subset h)

/-- Characters of a line that is shown are characters of the text that end no line. -/
theorem mem_of_mem_contentLines {cs line : List Char} (hline : line ∈ rules.contentLines cs)
    {c : Char} (hc : c ∈ line) : c ∈ cs ∧ rules.isBreak c = false := by
  obtain ⟨part, hpart, rfl⟩ := List.mem_map.1 (List.mem_filter.1 hline).1
  exact Layout.mem_of_mem_splitOnP hpart (mem_of_mem_trimLine hc)

theorem content_eq_intercalate {cs : List Char} (h : '&' ∉ cs) :
    rules.content cs = [' '].intercalate (rules.contentLines cs) := by
  have hdecode : ∀ line ∈ rules.contentLines cs, rules.decode line = line := fun line hline =>
    rules.decode_of_not_mem fun hmem => h (mem_of_mem_contentLines hline hmem).1
  rw [content, List.map_congr_left hdecode, List.map_id']

theorem mem_of_mem_intercalate {separator c : Char} {lines : List (List Char)}
    (h : c ∈ [separator].intercalate lines) : c = separator ∨ ∃ line ∈ lines, c ∈ line := by
  induction lines with
  | nil => cases h
  | cons line rest ih =>
    cases rest with
    | nil =>
      rw [List.intercalate_singleton] at h
      exact .inr ⟨line, List.mem_cons_self, h⟩
    | cons next rest =>
      rw [List.intercalate_cons_cons, List.mem_append, List.mem_append, List.mem_singleton] at h
      rcases h with (h | h) | h
      · exact .inr ⟨line, List.mem_cons_self, h⟩
      · exact .inl h
      · exact (ih h).imp_right fun ⟨other, hother, hc⟩ => ⟨other, List.mem_cons_of_mem _ hother, hc⟩

/-- No line ends inside what a plain text denotes: its lines are joined. -/
theorem not_isBreak_of_mem_content {cs : List Char} (h : '&' ∉ cs) {c : Char}
    (hc : c ∈ rules.content cs) : rules.isBreak c = false := by
  rw [content_eq_intercalate h] at hc
  rcases mem_of_mem_intercalate hc with rfl | ⟨line, hline, hc⟩
  · exact rules.isBreak_space
  · exact (mem_of_mem_contentLines hline hc).2

/-- A text without blanks at its ends is a trimmed line. -/
theorem trimLine_of_trimBlanks {cs : List Char} (h : trimBlanks cs = cs) :
    rules.trimLine cs = cs := by
  have hlength : cs.length ≤ (cs.dropWhile isBlank).length :=
    calc cs.length
      _ = (trimBlanks cs).length := by rw [h]
      _ ≤ (cs.dropWhile isBlank).length := (List.rdropWhile_prefix isBlank _).length_le
  have hstart : cs.dropWhile isBlank = cs :=
    (List.dropWhile_suffix isBlank).eq_of_length
      (Nat.le_antisymm (List.dropWhile_suffix isBlank).length_le hlength)
  have hend : (cs.dropWhile isBlank).rdropWhile isBlank = cs := h
  rw [hstart] at hend
  rw [trimLine, List.dropWhile_eq_self_iff.2 fun hne hmargin =>
      List.dropWhile_eq_self_iff.1 hstart hne (rules.isBlank_of_isMargin _ hmargin),
    List.rdropWhile_eq_self_iff.2 fun hne hmargin =>
      List.rdropWhile_eq_self_iff.1 hend hne (rules.isBlank_of_isMargin _ hmargin)]

/-- A plain text of one line, without blanks at its ends, denotes itself. -/
theorem content_of_line {cs : List Char} (hreference : '&' ∉ cs) (htrim : trimBlanks cs = cs)
    (hbreak : ∀ c ∈ cs, rules.isBreak c = false) : rules.content cs = cs := by
  have hlines : rules.contentLines cs = [cs].filter (!·.isEmpty) := by
    rw [contentLines, List.splitOnP_eq_singleton hbreak, List.map_singleton,
      trimLine_of_trimBlanks htrim]
  rw [content_eq_intercalate hreference, hlines]
  cases cs with
  | nil => rfl
  | cons c rest => exact List.intercalate_singleton

theorem child?_plain {t : String} (h : ∀ c ∈ t.toList, isSpecial c = false) :
    rules.child? t = some (String.ofList (rules.content t.toList)) := by
  have hreserved : t.toList.any isReserved = false := by
    refine List.any_eq_false.2 fun c hc hreserved => ?_
    have hspecial := h c hc
    rw [isSpecial, ← isReserved, hreserved] at hspecial
    cases hspecial
  unfold child?
  split
  · next rest heq => exact absurd (h _ (heq ▸ List.mem_cons_self)) (by decide)
  · rw [hreserved]
    rfl

/-! ## Written texts -/

theorem ampersand_not_mem {cs : List Char} (h : ∀ c ∈ cs, isSpecial c = false) : '&' ∉ cs :=
  fun hmem => absurd (h _ hmem) (by decide)

/-- **A text between tags** is read as it was when it is written as a literal or has one line. -/
theorem child?_text_iff (rules : Rules) (t : String) :
    rules.child? (text t) = some t ↔
      text t = braced (textLiteral t) ∨ ∀ c ∈ t.toList, rules.isBreak c = false := by
  by_cases hliteral : (t.toList.any isSpecial || trimBlanks t.toList != t.toList) = true
  · have htext : text t = braced (textLiteral t) := if_pos hliteral
    rw [htext]
    exact iff_of_true (rules.child?_literal t) (.inl rfl)
  · have htext : text t = t := if_neg hliteral
    obtain ⟨hspecial, htrim⟩ : (∀ c ∈ t.toList, isSpecial c = false) ∧
        trimBlanks t.toList = t.toList := by
      simpa using hliteral
    have hreference := ampersand_not_mem hspecial
    constructor
    · intro h
      rw [htext, child?_plain hspecial, Option.some.injEq, ← String.toList_inj,
        String.toList_ofList] at h
      refine .inr fun c hc => not_isBreak_of_mem_content hreference (h.symm ▸ hc)
    · rintro (h | h)
      · rw [h]
        exact rules.child?_literal t
      · rw [htext, child?_plain hspecial, content_of_line hreference htrim h, String.ofList_toList]

/-- **A text in an attribute** is read as it was when it is written as a literal or is no different
with its references replaced. -/
theorem attribute?_textAttribute_iff (rules : Rules) {name : String} (hname : '=' ∉ name.toList)
    (t : String) :
    rules.attribute? (textAttribute name t) = some (name, t) ↔
      textAttribute name t = expression name (textLiteral t) ∨
        rules.decode t.toList = t.toList := by
  by_cases hliteral : needsLiteral t = true
  · have htext : textAttribute name t = expression name (textLiteral t) := if_pos hliteral
    rw [htext]
    exact iff_of_true (rules.attribute?_literal hname t) (.inl rfl)
  · have htext : textAttribute name t = plainText name t := if_neg hliteral
    have hquote : '"' ∉ t.toList := fun hmem => hliteral (List.any_eq_true.2 ⟨_, hmem, rfl⟩)
    constructor
    · intro h
      rw [htext, rules.attribute?_plainText hname hquote] at h
      simp only [Option.some.injEq, Prod.mk.injEq, true_and, ← String.toList_inj,
        String.toList_ofList] at h
      exact .inr h
    · rintro (h | h)
      · rw [h]
        exact rules.attribute?_literal hname t
      · rw [htext, rules.attribute?_plainText hname hquote, h, String.ofList_toList]

/-- **Texts in generated markup** are read as they were, with two exceptions: a text between tags
that is written plainly and has a line break, and a text in an attribute that is written plainly and
has a reference. Without line breaks and ampersands there are no exceptions. -/
theorem reads_written_iff (rules : Rules) (t : String) :
    (rules.child? (text t) = some t ↔
      text t = braced (textLiteral t) ∨ ∀ c ∈ t.toList, rules.isBreak c = false) ∧
    (∀ name : String, '=' ∉ name.toList →
      (rules.attribute? (textAttribute name t) = some (name, t) ↔
        textAttribute name t = expression name (textLiteral t) ∨
          rules.decode t.toList = t.toList)) ∧
    ((∀ c ∈ t.toList, c ≠ '&' ∧ rules.isBreak c = false) →
      rules.child? (text t) = some t ∧ ∀ name : String, '=' ∉ name.toList →
        rules.attribute? (textAttribute name t) = some (name, t)) := by
  refine ⟨child?_text_iff rules t, fun name hname => attribute?_textAttribute_iff rules hname t,
    fun h => ⟨?_, fun name hname => ?_⟩⟩
  · exact (child?_text_iff rules t).2 (.inr fun c hc => (h c hc).2)
  · have hdecode : rules.decode t.toList = t.toList :=
      rules.decode_of_not_mem fun hmem => (h _ hmem).1 rfl
    exact (attribute?_textAttribute_iff rules hname t).2 (.inr hdecode)

/-- Rules with two references, two line ends and two blanks. -/
def basic : Rules where
  reference
    | ['a', 'm', 'p'] => some ['&']
    | ['l', 't'] => some ['<']
    | _ => none
  isBreak c := c == '\n' || c == '\r'
  isMargin c := c == ' ' || c == '\t'
  isBreak_space := rfl
  isBlank_of_isMargin c h := by
    simp only [Bool.or_eq_true, beq_iff_eq] at h
    rcases h with rfl | rfl <;> rfl

/-- Each way of writing a text misses what the other one writes as a literal. -/
theorem reads_written_iff_of_exceptions :
    basic.child? (text "a\nb") ≠ some "a\nb" ∧ basic.child? (text "&amp;") = some "&amp;" ∧
      basic.attribute? (textAttribute "placeholder" "&amp;") ≠ some ("placeholder", "&amp;") ∧
      basic.attribute? (textAttribute "placeholder" "a\nb") = some ("placeholder", "a\nb") := by
  obtain ⟨hlines, hlinesAttribute, -⟩ := reads_written_iff basic "a\nb"
  obtain ⟨hreference, hreferenceAttribute, -⟩ := reads_written_iff basic "&amp;"
  have hname : '=' ∉ "placeholder".toList := by decide +kernel
  refine ⟨fun h => ?_, hreference.2 (.inl (by decide +kernel)), fun h => ?_,
    (hlinesAttribute _ hname).2 (.inl (by decide +kernel))⟩
  · rcases hlines.1 h with h | h
    · exact absurd h (by decide +kernel)
    · exact absurd (h '\n' (by decide +kernel)) (by decide)
  · rcases (hreferenceAttribute _ hname).1 h with h | h
    · exact absurd h (by decide +kernel)
    · exact absurd (congrArg List.length h) (by decide +kernel)

end Rules

end Markup

end FormStudio
