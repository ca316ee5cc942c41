import FormStudio.Code.Markup
import FormStudio.Proofs.Json.Control

/-!
# Where tabs in generated texts come from

Literals are written without control characters, so a tab in generated markup is one that stood in
a text before. Whatever is put together from texts without tabs has none (`tabFree_append`,
`Markup.allTabFree_element`), and a literal has none in any case (`Json.tabFree_literal`).
-/
namespace FormStudio

/-! ## Texts without tabs -/

def TabFree (s : String) : Prop := '\t' ∉ s.toList

def AllTabFree (lines : List String) : Prop := ∀ line ∈ lines, TabFree line

section TabFree

variable {a b : String} {first second : List String}

theorem tabFree_ofList {cs : List Char} (h : '\t' ∉ cs) : TabFree (String.ofList cs) := by
  rwa [TabFree, String.toList_ofList]

theorem AllPlain.tabFree (h : AllPlain a.toList) : TabFree a := h.not_mem (by decide)

theorem tabFree_empty : TabFree "" := tabFree_ofList List.not_mem_nil

@[simp] theorem tabFree_append : TabFree (a ++ b) ↔ TabFree a ∧ TabFree b := by
  simp only [TabFree, String.toList_append, List.mem_append, not_or]

@[simp] theorem allTabFree_nil : AllTabFree [] := List.forall_mem_nil _

@[simp] theorem allTabFree_cons : AllTabFree (a :: first) ↔ TabFree a ∧ AllTabFree first :=
  List.forall_mem_cons

@[simp] theorem allTabFree_append :
    AllTabFree (first ++ second) ↔ AllTabFree first ∧ AllTabFree second :=
  List.forall_mem_append

theorem allTabFree_flatMap {α : Type} {f : α → List String} {l : List α} :
    AllTabFree (l.flatMap f) ↔ ∀ x ∈ l, AllTabFree (f x) := List.forall_mem_flatMap

theorem AllTabFree.prepend (h : AllTabFree first) (ha : TabFree a) :
    AllTabFree (first.map (a ++ ·)) :=
  List.forall_mem_map.2 fun line hline => tabFree_append.2 ⟨ha, h line hline⟩

theorem tabFree_join (h : AllTabFree first) : TabFree (String.join first) := by
  induction first with
  | nil => exact tabFree_empty
  | cons line rest ih =>
    obtain ⟨hline, hrest⟩ := allTabFree_cons.1 h
    rw [String.join_cons]
    exact tabFree_append.2 ⟨hline, ih hrest⟩

theorem tabFree_intercalate (ha : TabFree a) (h : AllTabFree first) :
    TabFree (a.intercalate first) := by
  induction first with
  | nil => exact tabFree_empty
  | cons line rest ih =>
    obtain ⟨hline, hrest⟩ := allTabFree_cons.1 h
    cases rest with
    | nil => rwa [String.intercalate_singleton]
    | cons next rest =>
      rw [String.intercalate_cons_cons]
      exact tabFree_append.2 ⟨tabFree_append.2 ⟨hline, ha⟩, ih hrest⟩

end TabFree

/-! ## Literals -/

theorem tabFree_textLiteral (s : String) : TabFree (textLiteral s) := by
  refine AllPlain.tabFree ?_
  rw [textLiteral, String.toList_ofList]
  exact Json.allPlain_quote false s

theorem Number.tabFree_int (i : Int) : TabFree (toString i) := (Json.allPlain_text (.int i)).tabFree

theorem tabFree_digits (n : Nat) : TabFree (toString n) := Number.tabFree_int n

theorem Number.tabFree_literal (n : Number) : TabFree n.literal := by
  unfold literal
  split
  · exact tabFree_int _
  · refine AllPlain.tabFree ?_
    rw [String.toList_ofList]
    exact Json.allPlain_text n

theorem Json.tabFree_literal (value : Json) : TabFree value.literal := by
  unfold literal
  split
  · exact Number.tabFree_int _
  · exact (allPlain_print .line value).tabFree

@[simp] theorem tabFree_braced {s : String} : TabFree (braced s) ↔ TabFree s := by
  have hopen : TabFree "\x7b" := tabFree_ofList (by decide)
  have hclose : TabFree "\x7d" := tabFree_ofList (by decide)
  simp [braced, hopen, hclose]

/-! ## Markup -/

namespace Markup

variable {name script value tag : String} {attributes children lines : List String}

theorem allTabFree_indent (level : Nat) (h : AllTabFree lines) :
    AllTabFree (indent level lines) := by
  refine List.forall_mem_map.2 fun line hline => ?_
  unfold indentLine
  split
  · exact tabFree_empty
  · refine tabFree_append.2 ⟨tabFree_ofList fun htab => ?_, h line hline⟩
    exact absurd (List.eq_of_mem_replicate htab) (by decide)

theorem tabFree_text (h : TabFree value) : TabFree (text value) := by
  unfold text
  split
  · exact tabFree_braced.2 (tabFree_textLiteral value)
  · exact h

theorem mem_of_mem_breakEnds {c : Char} {cs : List Char} (hc : c ≠ ' ') (h : c ∈ breakEnds cs) :
    c ∈ cs := by
  fun_induction breakEnds cs with
  | case1 rest ih =>
    simp only [List.mem_cons, hc, false_or] at h
    exact List.mem_cons.2 (h.imp_right fun h => List.mem_cons.2 (h.imp_right ih))
  | case2 d rest hd ih => exact List.mem_cons.2 ((List.mem_cons.1 h).imp_right ih)
  | case3 => exact h

theorem tabFree_comment (h : TabFree value) : TabFree (comment value) := by
  have hbody : TabFree (String.ofList (breakEnds value.toList)) :=
    tabFree_ofList fun htab => h (mem_of_mem_breakEnds (by decide) htab)
  rw [comment, tabFree_append, tabFree_append]
  exact ⟨⟨tabFree_ofList (by decide), hbody⟩, tabFree_ofList (by decide)⟩

@[simp] theorem tabFree_expression : TabFree (expression name script) ↔
    TabFree name ∧ TabFree script := by
  have hmark : TabFree "=" := tabFree_ofList (by decide)
  simp [expression, hmark]

@[simp] theorem tabFree_plainText : TabFree (plainText name value) ↔
    TabFree name ∧ TabFree value := by
  have hopen : TabFree "=\"" := tabFree_ofList (by decide)
  have hclose : TabFree "\"" := tabFree_ofList (by decide)
  simp [plainText, hopen, hclose]

theorem tabFree_textAttribute (hname : TabFree name) (hvalue : TabFree value) :
    TabFree (textAttribute name value) := by
  unfold textAttribute
  split
  · exact tabFree_expression.2 ⟨hname, tabFree_textLiteral value⟩
  · exact tabFree_plainText.2 ⟨hname, hvalue⟩

theorem allTabFree_opening {inlineEnd blockEnd : String} (htag : TabFree tag)
    (hattributes : AllTabFree attributes) (hinline : TabFree inlineEnd)
    (hblock : TabFree blockEnd) : AllTabFree (opening tag attributes inlineEnd blockEnd) := by
  have hopen : TabFree ("<" ++ tag) := tabFree_append.2 ⟨tabFree_ofList (by decide), htag⟩
  unfold opening
  dsimp only
  split
  · have hlines := hattributes.prepend (a := "  ") (tabFree_ofList (by decide))
    simp only [allTabFree_append, allTabFree_cons, allTabFree_nil, and_true]
    exact ⟨⟨hopen, hlines⟩, hblock⟩
  · have hjoined := tabFree_join (hattributes.prepend (a := " ") (tabFree_ofList (by decide)))
    simp only [inlineTag, tabFree_append, allTabFree_cons, allTabFree_nil, and_true]
    exact ⟨⟨tabFree_append.1 hopen, hjoined⟩, hinline⟩

theorem allTabFree_void (htag : TabFree tag) (hattributes : AllTabFree attributes) :
    AllTabFree (void tag attributes) :=
  allTabFree_opening htag hattributes (tabFree_ofList (by decide)) (tabFree_ofList (by decide))

theorem allTabFree_element (htag : TabFree tag) (hattributes : AllTabFree attributes)
    (hchildren : AllTabFree children) : AllTabFree (element tag attributes children) := by
  have hend : TabFree ">" := tabFree_ofList (by decide)
  have hclose : TabFree "</" := tabFree_ofList (by decide)
  simp only [element, allTabFree_append, allTabFree_cons, tabFree_append, allTabFree_nil, and_true]
  exact ⟨⟨allTabFree_opening htag hattributes hend hend, allTabFree_indent 1 hchildren⟩,
    ⟨hclose, htag⟩, hend⟩

end Markup

end FormStudio
