import FormStudio.Code.Layout
import Mathlib.Data.List.DropRight
import Mathlib.Data.List.Induction

/-!
# What a layout keeps

A layout drops and joins lines that are blank, so it is judged by the lines that are not
(`Layout.shownLines`). Those of a text in its layout are the lines of the text without the blanks at
their ends and with their tabs replaced (`Layout.shownLines_format`). So a layout keeps each line,
up to blanks at its end, exactly when no tab stands in front of something visible
(`Layout.keepsLines_format_iff`).
-/
namespace FormStudio

namespace Layout

/-! ## Lines -/

theorem splitLines_eq_splitOn (cs : List Char) : splitLines cs = cs.splitOn '\n' := by
  fun_induction splitLines cs with
  | case1 => rfl
  | case2 rest ih => rw [ih, List.splitOn_cons_eq_if_modifyHead, beq_self_eq_true, if_pos rfl]
  | case3 c rest hc line lines heq ih =>
    rw [List.splitOn_cons_eq_if_modifyHead, if_neg (by simpa using hc), ← ih, heq]
    rfl
  | case4 c rest hc heq ih =>
    exact absurd (ih.symm.trans heq) (List.splitOn_ne_nil '\n' rest)

theorem splitLines_append_break (first rest : List Char) :
    splitLines (first ++ '\n' :: rest) = splitLines first ++ splitLines rest := by
  simp only [splitLines_eq_splitOn]
  exact List.splitOn_append_cons_self first rest

theorem splitLines_of_not_mem {line : List Char} (h : '\n' ∉ line) : splitLines line = [line] := by
  rw [splitLines_eq_splitOn]
  exact List.splitOn_eq_singleton h

/-- Lines that each end in a break are split one by one; what follows is empty. -/
theorem splitLines_flatMap (lines : List (List Char)) :
    splitLines (lines.flatMap fun line => line ++ ['\n']) = lines.flatMap splitLines ++ [[]] := by
  induction lines with
  | nil => rfl
  | cons line lines ih =>
    rw [List.flatMap_cons, List.append_assoc, List.singleton_append, splitLines_append_break, ih,
      List.flatMap_cons, List.append_assoc]

theorem splitLines_flatMap_of_not_mem {lines : List (List Char)}
    (h : ∀ line ∈ lines, '\n' ∉ line) :
    splitLines (lines.flatMap fun line => line ++ ['\n']) = lines ++ [[]] := by
  rw [splitLines_flatMap, List.flatMap_congr fun line hline => splitLines_of_not_mem (h line hline)]
  exact congrArg (· ++ [[]]) (List.flatMap_singleton' _)

/-- A part of a text that is split has characters of the text, and none that it is split at. -/
theorem mem_of_mem_splitOnP {p : Char → Bool} {cs part : List Char} (hpart : part ∈ cs.splitOnP p)
    {c : Char} (hc : c ∈ part) : c ∈ cs ∧ p c = false := by
  induction cs generalizing part with
  | nil =>
    obtain rfl := List.mem_singleton.1 hpart
    cases hc
  | cons d rest ih =>
    rw [List.splitOnP_cons_eq_if_modifyHead] at hpart
    split at hpart
    · rcases List.mem_cons.1 hpart with rfl | hpart
      · cases hc
      · exact (ih hpart hc).imp_left (List.mem_cons_of_mem _)
    · next hd =>
      obtain ⟨first, others, heq⟩ := List.exists_cons_of_ne_nil (List.splitOnP_ne_nil p rest)
      rw [heq] at hpart ih
      rcases List.mem_cons.1 hpart with rfl | hpart
      · rcases List.mem_cons.1 hc with rfl | hc
        · exact ⟨List.mem_cons_self, eq_false_of_ne_true hd⟩
        · exact (ih List.mem_cons_self hc).imp_left (List.mem_cons_of_mem _)
      · exact (ih (List.mem_cons_of_mem _ hpart) hc).imp_left (List.mem_cons_of_mem _)

theorem mem_of_mem_splitLines {cs line : List Char} (hline : line ∈ splitLines cs) {c : Char}
    (hc : c ∈ line) : c ∈ cs ∧ c ≠ '\n' := by
  rw [splitLines_eq_splitOn, List.splitOn_eq_splitOnP] at hline
  exact (mem_of_mem_splitOnP hline hc).imp_right beq_eq_false_iff_ne.1

/-! ## Ends of lines -/

theorem trimEnd_eq_rdropWhile (line : List Char) : trimEnd line = line.rdropWhile isTrailing := rfl

theorem trimEnd_trimEnd (line : List Char) : trimEnd (trimEnd line) = trimEnd line :=
  List.rdropWhile_idempotent isTrailing line

theorem trimEnd_concat_of_trailing {line : List Char} {c : Char} (hc : isTrailing c = true) :
    trimEnd (line ++ [c]) = trimEnd line := List.rdropWhile_concat_pos _ _ _ hc

theorem trimEnd_concat_of_shown {line : List Char} {c : Char} (hc : ¬ isTrailing c = true) :
    trimEnd (line ++ [c]) = line ++ [c] := List.rdropWhile_concat_neg _ _ _ hc

theorem trimEnd_append_of_trailing (line : List Char) {more : List Char}
    (h : ∀ c ∈ more, isTrailing c = true) : trimEnd (line ++ more) = trimEnd line := by
  induction more using List.reverseRecOn with
  | nil => rw [List.append_nil]
  | append_singleton more c ih =>
    rw [← List.append_assoc, trimEnd_concat_of_trailing (h c (by simp))]
    exact ih fun d hd => h d (List.mem_append_left _ hd)

/-- Whether nothing visible stands on a line. -/
def isBlankLine (line : List Char) : Bool := line.all isTrailing

theorem trimEnd_eq_nil_iff {line : List Char} : trimEnd line = [] ↔ isBlankLine line = true := by
  rw [trimEnd_eq_rdropWhile, List.rdropWhile_eq_nil_iff, isBlankLine, List.all_eq_true]

/-! ## Tabs -/

theorem mem_of_mem_expandTabs {column : Nat} {cs : List Char} {c : Char}
    (h : c ∈ expandTabs column cs) : c = ' ' ∨ c ∈ cs ∧ c ≠ '\t' := by
  fun_induction expandTabs column cs with
  | case1 => cases h
  | case2 column rest width ih =>
    rcases List.mem_append.1 h with h | h
    · exact .inl (List.eq_of_mem_replicate h)
    · exact (ih h).imp_right (And.imp_left (List.mem_cons_of_mem _))
  | case3 column rest ih =>
    rcases List.mem_cons.1 h with rfl | h
    · exact .inr ⟨List.mem_cons_self, by decide⟩
    · exact (ih h).imp_right (And.imp_left (List.mem_cons_of_mem _))
  | case4 column d rest htab hreturn ih =>
    rcases List.mem_cons.1 h with rfl | h
    · exact .inr ⟨List.mem_cons_self, htab⟩
    · exact (ih h).imp_right (And.imp_left (List.mem_cons_of_mem _))

theorem expandTabs_of_not_mem {cs : List Char} (column : Nat) (h : '\t' ∉ cs) :
    expandTabs column cs = cs := by
  fun_induction expandTabs column cs <;> simp_all

/-- Replacing the tabs of a text leaves it alone exactly when there are none. -/
theorem expandTabs_eq_self_iff {column : Nat} {cs : List Char} :
    expandTabs column cs = cs ↔ '\t' ∉ cs := by
  refine ⟨fun h htab => ?_, expandTabs_of_not_mem column⟩
  rw [← h] at htab
  rcases mem_of_mem_expandTabs htab with heq | ⟨-, hne⟩
  · exact absurd heq (by decide)
  · exact hne rfl

/-- What stands behind a text is expanded from the column where the text ends. -/
theorem exists_expandTabs_append (column : Nat) (cs : List Char) : ∃ next, ∀ more,
    expandTabs column (cs ++ more) = expandTabs column cs ++ expandTabs next more := by
  fun_induction expandTabs column cs with
  | case1 column => exact ⟨column, fun more => rfl⟩
  | case2 column rest width ih =>
    obtain ⟨next, hnext⟩ := ih
    refine ⟨next, fun more => ?_⟩
    rw [List.append_assoc, ← hnext]
    rfl
  | case3 column rest ih =>
    obtain ⟨next, hnext⟩ := ih
    refine ⟨next, fun more => ?_⟩
    rw [List.cons_append, List.cons_append, ← hnext]
    rfl
  | case4 column c rest htab hreturn ih =>
    obtain ⟨next, hnext⟩ := ih
    refine ⟨next, fun more => ?_⟩
    rw [List.cons_append, List.cons_append, ← hnext, expandTabs]
    · exact htab
    · exact hreturn

theorem expandTabs_singleton {c : Char} (column : Nat) (h : c ≠ '\t') :
    expandTabs column [c] = [c] :=
  expandTabs_of_not_mem column (by simpa using Ne.symm h)

/-- **Trimming and expanding** can change places: a tab at the end of a line is dropped either way,
and no other character becomes or ceases to be a blank. -/
theorem trimEnd_expandTabs (column : Nat) (line : List Char) :
    trimEnd (expandTabs column line) = expandTabs column (trimEnd line) := by
  induction line using List.reverseRecOn with
  | nil => rfl
  | append_singleton line c ih =>
    obtain ⟨next, hnext⟩ := exists_expandTabs_append column line
    rw [hnext]
    by_cases hc : isTrailing c = true
    · have hblank : ∀ d ∈ expandTabs next [c], isTrailing d = true := by
        intro d hd
        rcases mem_of_mem_expandTabs hd with rfl | ⟨hd, -⟩
        · rfl
        · rwa [List.mem_singleton.1 hd]
      rw [trimEnd_append_of_trailing _ hblank, ih, trimEnd_concat_of_trailing hc]
    · have htab : c ≠ '\t' := by
        rintro rfl
        exact hc rfl
      rw [trimEnd_concat_of_shown hc, hnext, expandTabs_singleton next htab,
        trimEnd_concat_of_shown hc]

/-! ## Blank lines -/

/-- The lines of a text on which something is visible. -/
def shownLines (cs : List Char) : List (List Char) :=
  (splitLines cs).filter fun line => !isBlankLine line

theorem filter_collapse (afterEmpty : Bool) (lines : List (List Char)) :
    (collapse afterEmpty lines).filter (!·.isEmpty) = lines.filter (!·.isEmpty) := by
  fun_induction collapse afterEmpty lines with
  | case1 => rfl
  | case2 rest ih => exact ih
  | case3 rest ih => exact ih
  | case4 afterEmpty line rest htrue hfalse ih => rw [List.filter_cons, List.filter_cons, ih]

theorem filter_dropEmptyEnd (lines : List (List Char)) :
    (dropEmptyEnd lines).filter (!·.isEmpty) = lines.filter (!·.isEmpty) := by
  show (lines.rdropWhile List.isEmpty).filter _ = _
  induction lines using List.reverseRecOn with
  | nil => rfl
  | append_singleton lines line ih =>
    by_cases hline : line.isEmpty = true
    · rw [List.rdropWhile_concat_pos _ _ _ hline, ih]
      simp [hline]
    · rw [List.rdropWhile_concat_neg _ _ _ hline]

theorem collapse_sublist (afterEmpty : Bool) (lines : List (List Char)) :
    (collapse afterEmpty lines).Sublist lines := by
  fun_induction collapse afterEmpty lines with
  | case1 => exact .slnil
  | case2 rest ih => exact ih.cons []
  | case3 rest ih => exact ih.cons_cons []
  | case4 afterEmpty line rest htrue hfalse ih => exact ih.cons_cons line

/-- The lines of a layout are lines of the text, expanded and trimmed. -/
theorem exists_of_mem_lines {cs line : List Char} (h : line ∈ lines cs) :
    ∃ old ∈ splitLines cs, line = trimEnd (expandTabs 0 old) := by
  have hcollapsed := List.IsPrefix.subset (List.rdropWhile_prefix _ _) h
  obtain ⟨old, hold, rfl⟩ := List.mem_map.1 ((collapse_sublist _ _).subset hcollapsed)
  exact ⟨old, hold, rfl⟩

theorem break_not_mem_of_mem_lines {cs line : List Char} (h : line ∈ lines cs) : '\n' ∉ line := by
  obtain ⟨old, hold, rfl⟩ := exists_of_mem_lines h
  intro hbreak
  rcases mem_of_mem_expandTabs (List.IsPrefix.subset (List.rdropWhile_prefix _ _) hbreak) with
    heq | ⟨hbreak, -⟩
  · cases heq
  · exact (mem_of_mem_splitLines hold hbreak).2 rfl

theorem splitLines_format (source : String) :
    splitLines (format source).toList = lines source.toList ++ [[]] := by
  rw [format, String.toList_ofList]
  exact splitLines_flatMap_of_not_mem fun _ => break_not_mem_of_mem_lines

/-- A trimmed line is blank only when it is empty. -/
theorem isBlankLine_trimEnd (line : List Char) :
    isBlankLine (trimEnd line) = (trimEnd line).isEmpty := by
  rw [Bool.eq_iff_iff, ← trimEnd_eq_nil_iff, trimEnd_trimEnd, List.isEmpty_iff]

theorem isBlankLine_of_mem_lines {cs line : List Char} (h : line ∈ lines cs) :
    isBlankLine line = line.isEmpty := by
  obtain ⟨old, -, rfl⟩ := exists_of_mem_lines h
  exact isBlankLine_trimEnd _

theorem isEmpty_expandTabs (column : Nat) (cs : List Char) :
    (expandTabs column cs).isEmpty = cs.isEmpty := by
  fun_cases expandTabs column cs with
  | case2 column rest width =>
    have hwidth : 0 < width := Nat.sub_pos_of_lt (Nat.mod_lt column (by decide))
    obtain ⟨n, hn⟩ := Nat.exists_eq_add_one.2 hwidth
    rw [hn]
    rfl
  | _ => rfl

/-- **The shown lines of a layout** are those of the text, trimmed, with their tabs replaced. -/
theorem shownLines_format (source : String) :
    shownLines (format source).toList =
      (shownLines source.toList).map fun line => expandTabs 0 (trimEnd line) := by
  have htrimmed : ∀ line ∈ lines source.toList, (!isBlankLine line) = !line.isEmpty :=
    fun line hline => congrArg (!·) (isBlankLine_of_mem_lines hline)
  have hblank : ∀ line, (!(trimEnd (expandTabs 0 line)).isEmpty) = !isBlankLine line := by
    intro line
    rw [trimEnd_expandTabs, isEmpty_expandTabs, ← isBlankLine_trimEnd, Bool.not_inj_iff,
      Bool.eq_iff_iff, ← trimEnd_eq_nil_iff, trimEnd_trimEnd, trimEnd_eq_nil_iff]
  calc shownLines (format source).toList
    _ = (lines source.toList).filter (!isBlankLine ·) := by
      rw [shownLines, splitLines_format, List.filter_append]
      exact List.append_nil _
    _ = (lines source.toList).filter (!·.isEmpty) := List.filter_congr htrimmed
    _ = ((splitLines source.toList).map fun line => trimEnd (expandTabs 0 line)).filter
        (!·.isEmpty) := by rw [lines, filter_dropEmptyEnd, filter_collapse]
    _ = (shownLines source.toList).map fun line => trimEnd (expandTabs 0 line) := by
      rw [List.filter_map, shownLines]
      exact congrArg _ (List.filter_congr fun line _ => hblank line)
    _ = _ := List.map_congr_left fun line _ => trimEnd_expandTabs 0 line

/-! ## What is kept -/

/-- Whether a text has the shown lines of another, unchanged except for blanks at their ends. -/
def KeepsLines (draft source : String) : Prop :=
  shownLines source.toList = (shownLines draft.toList).map trimEnd

/-- **A layout keeps the lines** of a text exactly when no tab stands in front of something
visible. -/
theorem keepsLines_format_iff {source : String} :
    KeepsLines source (format source) ↔ ∀ line ∈ splitLines source.toList, '\t' ∉ trimEnd line := by
  rw [KeepsLines, shownLines_format, List.map_inj_left]
  simp only [expandTabs_eq_self_iff]
  refine ⟨fun h line hline => ?_, fun h line hline => h line (List.mem_filter.1 hline).1⟩
  by_cases hblank : isBlankLine line = true
  · rw [trimEnd_eq_nil_iff.2 hblank]
    exact List.not_mem_nil
  · exact h line (List.mem_filter.2 ⟨hline, by simpa using hblank⟩)

theorem keepsLines_format {source : String} (h : '\t' ∉ source.toList) :
    KeepsLines source (format source) :=
  keepsLines_format_iff.2 fun _ hline htab =>
    h (mem_of_mem_splitLines hline (List.IsPrefix.subset (List.rdropWhile_prefix _ _) htab)).1

end Layout

end FormStudio
