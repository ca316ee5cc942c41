import FormStudio.Proofs.Code.Layout
import Mathlib.Data.List.Chain

/-!
# The normal form of a layout

What a text in its layout looks like is said without the passes that make one
(`Layout.IsNormal`): it is empty or ends in one line break, its lines have no tabs and nothing blank
at their ends, and blank lines stand alone between lines that are not blank. Whether a text is
normal is decided by its lines (`Layout.isNormal_iff`). The lines that a layout makes are normal
(`Layout.areNormal_lines`), and normal lines are left as they are (`Layout.lines_of_areNormal`). So
a layout is a projection onto the normal texts (`Layout.format_isProjection`).
-/
namespace FormStudio

namespace Layout

/-! ## Normal texts -/

/-- The lines of a text, each up to its line break. What stands behind the last break is no line. -/
def endedLines (cs : List Char) : List (List Char) := (cs.splitOn '\n').dropLast

/-- Lines in normal form. A line is blank when it has nothing but blanks, tabs and carriage
returns. -/
structure AreNormal (lines : List (List Char)) : Prop where
  untabbed : ∀ line ∈ lines, '\t' ∉ line
  trimmed : ∀ line ∈ lines, ∀ c ∈ line.getLast?, c ≠ ' ' ∧ c ≠ '\t' ∧ c ≠ '\r'
  first : ∀ line ∈ lines.head?, isBlankLine line = false
  last : ∀ line ∈ lines.getLast?, isBlankLine line = false
  /-- Of two lines next to each other at most one is blank. -/
  apart : lines.IsChain fun line next => isBlankLine line = false ∨ isBlankLine next = false

/-- A text in normal form: it is empty or ends in exactly one line break, and its lines are in
normal form. -/
structure IsNormal (source : String) : Prop where
  ended : source = "" ∨ ∃ body, source.toList = body ++ ['\n'] ∧ body.getLast? ≠ some '\n'
  lines : AreNormal (endedLines source.toList)

/-! ## Texts and their lines -/

/-- The text of lines, each ended by a line break. -/
def endLines (lines : List (List Char)) : List Char := lines.flatMap fun line => line ++ ['\n']

theorem endLines_concat (lines : List (List Char)) (line : List Char) :
    endLines (lines ++ [line]) = endLines lines ++ line ++ ['\n'] := by
  simp [endLines]

theorem endedLines_endLines {lines : List (List Char)} (h : ∀ line ∈ lines, '\n' ∉ line) :
    endedLines (endLines lines) = lines := by
  rw [endedLines, ← splitLines_eq_splitOn, endLines, splitLines_flatMap_of_not_mem h,
    List.dropLast_concat]

theorem endLines_splitLines (cs : List Char) : endLines (splitLines cs) = cs ++ ['\n'] := by
  fun_induction splitLines cs with
  | case1 => rfl
  | case2 rest ih => exact congrArg ('\n' :: ·) ih
  | case3 c rest hc line lines heq ih =>
    rw [heq] at ih
    exact congrArg (c :: ·) ih
  | case4 c rest hc heq ih =>
    have hlength := length_splitLines_pos rest
    rw [heq] at hlength
    cases hlength

theorem endedLines_concat (body : List Char) : endedLines (body ++ ['\n']) = splitLines body := by
  rw [endedLines, ← splitLines_eq_splitOn, splitLines_append_break]
  exact List.dropLast_concat

theorem break_not_mem_of_mem_endedLines {cs line : List Char} (h : line ∈ endedLines cs) :
    '\n' ∉ line := by
  have hsplit := List.dropLast_subset _ h
  rw [← splitLines_eq_splitOn] at hsplit
  exact fun hbreak => (mem_of_mem_splitLines hsplit hbreak).2 rfl

/-- A text that is empty or ends in a line break is that of its lines. -/
theorem endLines_endedLines {cs : List Char} (h : cs = [] ∨ ∃ body, cs = body ++ ['\n']) :
    endLines (endedLines cs) = cs := by
  rcases h with rfl | ⟨body, rfl⟩
  · rfl
  · rw [endedLines_concat, endLines_splitLines]

/-- **A text is normal** exactly when it is that of normal lines. -/
theorem isNormal_iff {source : String} : IsNormal source ↔
    ∃ lines, AreNormal lines ∧ (∀ line ∈ lines, '\n' ∉ line) ∧
      source.toList = endLines lines := by
  constructor
  · rintro ⟨hended, hlines⟩
    refine ⟨_, hlines, fun line => break_not_mem_of_mem_endedLines, (endLines_endedLines ?_).symm⟩
    rcases hended with rfl | ⟨body, hbody, -⟩
    · exact .inl rfl
    · exact .inr ⟨body, hbody⟩
  · rintro ⟨lines, hlines, hbreak, hsource⟩
    refine ⟨?_, by rwa [hsource, endedLines_endLines hbreak]⟩
    rcases List.eq_nil_or_concat lines with rfl | ⟨others, line, rfl⟩
    · exact .inl (String.toList_eq_nil_iff.1 hsource)
    · -- the last line is not blank, so its last character comes before the last break
      rw [List.concat_eq_append] at hlines hbreak hsource
      have hshown : line ≠ [] := by
        rintro rfl
        exact absurd (hlines.last [] (by simp)) (by decide)
      refine .inr ⟨endLines others ++ line, by rw [hsource, endLines_concat], fun hlast => ?_⟩
      rw [List.getLast?_append_of_ne_nil _ hshown] at hlast
      exact hbreak line (by simp) (List.mem_of_getLast? hlast)

/-! ## Lines that a layout makes -/

theorem trimEnd_eq_self_iff {line : List Char} :
    trimEnd line = line ↔ ∀ c ∈ line.getLast?, c ≠ ' ' ∧ c ≠ '\t' ∧ c ≠ '\r' := by
  rw [trimEnd_eq_rdropWhile]
  rcases List.eq_nil_or_concat line with rfl | ⟨start, last, rfl⟩
  · simp
  · rw [List.concat_eq_append, List.rdropWhile_eq_self_iff]
    simp [isTrailing, and_assoc]

theorem head?_collapse (lines : List (List Char)) :
    ∀ line ∈ (collapse true lines).head?, line ≠ [] := by
  induction lines with
  | nil => simp [collapse]
  | cons line rest ih =>
    cases line with
    | nil => exact ih
    | cons c cs => simp [collapse]

/-- Of two lines next to each other at most one is left empty. -/
theorem isChain_collapse (afterEmpty : Bool) (lines : List (List Char)) :
    (collapse afterEmpty lines).IsChain fun line next => line ≠ [] ∨ next ≠ [] := by
  fun_induction collapse afterEmpty lines with
  | case1 => exact .nil
  | case2 rest ih => exact ih
  | case3 rest ih => exact ih.cons fun next hnext => .inr (head?_collapse rest next hnext)
  | case4 afterEmpty line rest htrue hfalse ih =>
    have hline : line ≠ [] := by
      cases afterEmpty with
      | true => exact htrue rfl
      | false => exact hfalse rfl
    exact ih.cons fun next _ => .inl hline

/-- The lines of a layout are the collapsed lines up to the last that is not empty. -/
theorem isPrefix_lines (cs : List Char) :
    lines cs <+: collapse true ((splitLines cs).map fun line => trimEnd (expandTabs 0 line)) :=
  List.rdropWhile_prefix _ _

theorem head?_lines (cs : List Char) : ∀ line ∈ (lines cs).head?, line ≠ [] := by
  intro line hline
  obtain ⟨more, hmore⟩ := isPrefix_lines cs
  have hfirst := head?_collapse ((splitLines cs).map fun line => trimEnd (expandTabs 0 line)) line
  rw [← hmore, List.head?_append, Option.mem_def.1 hline] at hfirst
  exact hfirst rfl

theorem getLast?_lines (cs : List Char) : ∀ line ∈ (lines cs).getLast?, line ≠ [] := by
  rintro line hline rfl
  have hne : lines cs ≠ [] := by
    intro hnil
    rw [hnil] at hline
    cases hline
  have hlast := List.rdropWhile_last_not List.isEmpty _ hne
  rw [List.getLast?_eq_some_getLast hne] at hline
  exact hlast (List.isEmpty_iff.2 (Option.some.inj hline))

theorem not_isBlankLine_of_mem_lines {cs line : List Char} (h : line ∈ lines cs) (hne : line ≠ []) :
    isBlankLine line = false := by
  rw [isBlankLine_of_mem_lines h]
  exact List.isEmpty_eq_false_iff.2 hne

/-- **A layout makes normal lines.** -/
theorem areNormal_lines (cs : List Char) : AreNormal (lines cs) where
  untabbed line hline htab := by
    obtain ⟨old, -, rfl⟩ := exists_of_mem_lines hline
    rcases mem_of_mem_expandTabs ((List.rdropWhile_prefix _ _).subset htab) with heq | ⟨-, hne⟩
    · exact absurd heq (by decide)
    · exact hne rfl
  trimmed line hline := by
    obtain ⟨old, -, rfl⟩ := exists_of_mem_lines hline
    exact trimEnd_eq_self_iff.1 (trimEnd_trimEnd _)
  first line hline :=
    not_isBlankLine_of_mem_lines (List.mem_of_head? hline) (head?_lines cs line hline)
  last line hline :=
    not_isBlankLine_of_mem_lines (List.mem_of_getLast? hline) (getLast?_lines cs line hline)
  apart := by
    have hchain := List.IsChain.prefix (isChain_collapse _ _) (isPrefix_lines cs)
    refine hchain.imp_of_mem_imp fun line next hline hnext => ?_
    exact Or.imp (not_isBlankLine_of_mem_lines hline) (not_isBlankLine_of_mem_lines hnext)

/-! ## Lines that a layout leaves as they are -/

theorem collapse_eq_self {afterEmpty : Bool} {lines : List (List Char)}
    (hfirst : afterEmpty = true → ∀ line ∈ lines.head?, line ≠ [])
    (h : lines.IsChain fun line next => line ≠ [] ∨ next ≠ []) :
    collapse afterEmpty lines = lines := by
  fun_induction collapse afterEmpty lines with
  | case1 => rfl
  | case2 rest ih => exact absurd rfl (hfirst rfl [] rfl)
  | case3 rest ih =>
    obtain ⟨hnext, hrest⟩ := List.isChain_cons.1 h
    rw [ih (fun _ line hline => (hnext line hline).resolve_left (· rfl)) hrest]
  | case4 afterEmpty line rest htrue hfalse ih =>
    rw [ih (fun hafter => absurd hafter Bool.false_ne_true) h.tail]

theorem ne_nil_of_not_isBlankLine {line : List Char} (h : isBlankLine line = false) :
    line ≠ [] := by
  rintro rfl
  cases h

theorem AreNormal.isChain {lines : List (List Char)} (h : AreNormal lines) :
    lines.IsChain fun line next => line ≠ [] ∨ next ≠ [] :=
  h.apart.imp fun _ _ => Or.imp ne_nil_of_not_isBlankLine ne_nil_of_not_isBlankLine

/-- The empty line behind the last break is dropped again. -/
theorem dropEmptyEnd_collapse_concat {lines : List (List Char)} (h : AreNormal lines) :
    dropEmptyEnd (collapse true (lines ++ [[]])) = lines := by
  rcases List.eq_nil_or_concat lines with rfl | ⟨others, line, rfl⟩
  · rfl
  rw [List.concat_eq_append] at h ⊢
  have hlast : line ≠ [] := ne_nil_of_not_isBlankLine (h.last line (by simp))
  have hfirst : ∀ first ∈ (others ++ [line] ++ [[]]).head?, first ≠ [] := by
    intro first hmem
    rw [List.head?_append_of_ne_nil _ (by simp)] at hmem
    exact ne_nil_of_not_isBlankLine (h.first first hmem)
  have hchain : (others ++ [line] ++ [[]]).IsChain fun line next => line ≠ [] ∨ next ≠ [] := by
    refine h.isChain.append (.singleton []) fun before hbefore _ _ => .inl ?_
    rw [List.getLast?_concat, Option.mem_some_iff] at hbefore
    exact hbefore ▸ hlast
  rw [collapse_eq_self (fun _ => hfirst) hchain]
  show (others ++ [line] ++ [[]]).rdropWhile List.isEmpty = _
  rw [List.rdropWhile_concat_pos _ _ _ rfl, List.rdropWhile_concat_neg _ _ _ (by simpa using hlast)]

/-- **Normal lines stay as they are** in a layout of their text. -/
theorem lines_of_areNormal {lines : List (List Char)} (h : AreNormal lines)
    (hbreak : ∀ line ∈ lines, '\n' ∉ line) : Layout.lines (endLines lines) = lines := by
  have hsame : ∀ line ∈ lines, trimEnd (expandTabs 0 line) = line := by
    intro line hline
    rw [expandTabs_of_not_mem 0 (h.untabbed line hline)]
    exact trimEnd_eq_self_iff.2 (h.trimmed line hline)
  calc Layout.lines (endLines lines)
    _ = dropEmptyEnd (collapse true
          (lines.map (fun line => trimEnd (expandTabs 0 line)) ++ [[]])) := by
      rw [Layout.lines, endLines, splitLines_flatMap_of_not_mem hbreak, List.map_append]
      rfl
    _ = dropEmptyEnd (collapse true (lines ++ [[]])) := by
      rw [List.map_congr_left hsame, List.map_id']
    _ = lines := dropEmptyEnd_collapse_concat h

/-! ## The projection -/

theorem isNormal_format (source : String) : IsNormal (format source) :=
  isNormal_iff.2 ⟨lines source.toList, areNormal_lines _, fun _ => break_not_mem_of_mem_lines,
    String.toList_ofList⟩

theorem format_eq_self_of_isNormal {source : String} (h : IsNormal source) :
    format source = source := by
  obtain ⟨lines, hlines, hbreak, hsource⟩ := isNormal_iff.1 h
  rw [format, hsource, lines_of_areNormal hlines hbreak, ← String.toList_inj, String.toList_ofList,
    hsource]
  rfl

/-- **A layout is a projection onto the normal texts.** Its result is normal, a second layout
changes nothing, and the texts that it leaves as they are are the normal ones. -/
theorem format_isProjection (source : String) :
    IsNormal (format source) ∧ format (format source) = format source ∧
      (format source = source ↔ IsNormal source) :=
  ⟨isNormal_format source, format_eq_self_of_isNormal (isNormal_format source),
    fun h => h ▸ isNormal_format source, format_eq_self_of_isNormal⟩

end Layout

end FormStudio
