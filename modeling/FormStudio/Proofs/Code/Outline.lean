import FormStudio.Code.Component
import FormStudio.Proofs.Outcome

/-!
# The lines of a source

What an outline writes behind the lines before it (`Outline.Writes`), part by part. A gap is one
empty line where the lines before it end in one that is not empty, which those of a component do; so
its source is laid out from a fixed list of lines (`Component.draft_eq`).
-/
namespace FormStudio

/-- Whether there are lines, and the last one is not empty. -/
def EndsShown (texts : List String) : Prop := ∃ before last, texts = before ++ [last] ∧ last ≠ ""

theorem endsShown_append (first : List String) {second : List String} (h : EndsShown second) :
    EndsShown (first ++ second) := by
  obtain ⟨before, last, rfl, hlast⟩ := h
  exact ⟨first ++ before, last, (List.append_assoc ..).symm, hlast⟩

theorem endsShown_singleton {text : String} (h : text ≠ "") : EndsShown [text] := ⟨[], text, rfl, h⟩

theorem endsShown_of_forall {texts : List String} (hne : texts ≠ []) (h : ∀ text ∈ texts, text ≠ "") :
    EndsShown texts := by
  obtain ⟨before, last, rfl⟩ := (List.eq_nil_or_concat texts).resolve_left hne
  exact ⟨before, last, by simp, h last (by simp)⟩

namespace Outline

/-! ## What parts write -/

/-- Lines at a depth. -/
def atDepth (unit : String) (depth : Nat) (texts : List String) : List String :=
  texts.map (lineText unit depth)

/-- Whether parts write some lines, whatever is written before them. -/
def Writes (unit : String) (depth : Nat) (parts : List Outline) (texts : List String) : Prop :=
  ∀ done, writeAll unit depth done parts = texts.reverse ++ done

variable {unit : String} {depth : Nat}

theorem lineText_ne_empty {text : String} (h : text ≠ "") : lineText unit depth text ≠ "" := by
  rw [lineText, if_neg h]
  intro hempty
  exact h (String.append_eq_empty_iff.1 hempty).2

theorem writeAll_append (done : List String) (first second : List Outline) :
    writeAll unit depth done (first ++ second) =
      writeAll unit depth (writeAll unit depth done first) second := by
  induction first generalizing done with
  | nil => rfl
  | cons part first ih => exact ih (write unit depth done part)

theorem Writes.append {first second : List Outline} {texts others : List String}
    (hfirst : Writes unit depth first texts) (hsecond : Writes unit depth second others) :
    Writes unit depth (first ++ second) (texts ++ others) := by
  intro done
  rw [writeAll_append, hfirst, hsecond, List.reverse_append, List.append_assoc]

variable (unit depth) in
theorem writes_lines (texts : List String) :
    Writes unit depth (lines texts) (atDepth unit depth texts) := by
  intro done
  induction texts generalizing done with
  | nil => rfl
  | cons text texts ih =>
    show writeAll unit depth (lineText unit depth text :: done) (lines texts) = _
    rw [ih, atDepth, atDepth, List.map_cons, List.reverse_cons, List.append_assoc]
    rfl

variable (unit depth) in
/-- A gap is an empty line behind a line that is not empty. -/
theorem write_gap {line : String} (h : line ≠ "") (done : List String) :
    write unit depth (line :: done) .gap = "" :: line :: done := by
  unfold write
  split
  · next heq => cases heq
  · next heq =>
    cases heq
    exact absurd rfl h
  · rfl

variable (unit depth) in
theorem writes_section {texts : List String} (h : EndsShown texts) :
    Writes unit depth (lines texts ++ [.gap]) (atDepth unit depth texts ++ [""]) := by
  intro done
  obtain ⟨before, last, rfl, hlast⟩ := h
  have hwritten : (atDepth unit depth (before ++ [last])).reverse ++ done =
      lineText unit depth last :: ((atDepth unit depth before).reverse ++ done) := by
    simp [atDepth]
  rw [writeAll_append, writes_lines, List.reverse_append, List.append_assoc, hwritten]
  exact write_gap unit depth (lineText_ne_empty hlast) _

theorem Writes.block {parts : List Outline} {texts : List String} (opener closer : String)
    (h : Writes unit (depth + 1) parts texts) :
    Writes unit depth (block opener closer parts)
      (lineText unit depth opener :: (texts ++ [lineText unit depth closer])) := by
  intro done
  show lineText unit depth closer ::
    writeAll unit (depth + 1) (lineText unit depth opener :: done) parts = _
  rw [h]
  simp

theorem Writes.toLines {parts : List Outline} {texts : List String} (h : Writes unit 0 parts texts) :
    toLines unit parts = texts := by
  rw [Outline.toLines, h, List.append_nil, List.reverse_reverse]

variable (unit) in
theorem lineText_zero (text : String) : lineText unit 0 text = text := by
  by_cases h : text = ""
  · rw [lineText, if_pos h, h]
  · rw [lineText, if_neg h]
    exact String.empty_append

variable (unit) in
theorem atDepth_zero (texts : List String) : atDepth unit 0 texts = texts := by
  refine (List.map_congr_left fun text _ => lineText_zero unit text).trans (List.map_id texts)

end Outline

namespace Component

open Outline

/-! ## The lines of a component -/

/-- Lines with an empty one behind them, if there are any. -/
def spaced : List String → List String
  | [] => []
  | texts => texts ++ [""]

/-- The lines of the function that is the component. -/
def functionLines (component : Component) : List String :=
  "export default function MyForm() \x7b" ::
    (atDepth standardUnit 1 (spaced component.componentSetup) ++
      (atDepth standardUnit 1 component.state ++ [""]) ++
      (atDepth standardUnit 1 submitLines ++ [""] ++
        "  return (" ::
          (atDepth standardUnit 2 (component.opening ++ component.body ++ component.closing) ++
            ["  );"])) ++
      ["\x7d"])

/-- The lines of the source, before its layout. -/
def lines (component : Component) : List String :=
  ["\"use client\";", ""] ++ (component.imports.flatMap ImportGroup.lines ++ [""]) ++
    spaced component.moduleSetup ++ (component.validator ++ [""]) ++ component.functionLines

/-- Whether the lines in front of gaps are not empty. -/
structure IsShown (component : Component) : Prop where
  imports : EndsShown (component.imports.flatMap ImportGroup.lines)
  moduleSetup : ∀ text ∈ component.moduleSetup, text ≠ ""
  validator : EndsShown component.validator
  componentSetup : ∀ text ∈ component.componentSetup, text ≠ ""
  state : EndsShown component.state

theorem writes_paragraph (unit : String) (depth : Nat) {texts : List String}
    (h : ∀ text ∈ texts, text ≠ "") :
    Writes unit depth (paragraph texts) (atDepth unit depth (spaced texts)) := by
  cases texts with
  | nil => exact fun done => rfl
  | cons text rest =>
    have hsection := writes_section unit depth (endsShown_of_forall (List.cons_ne_nil text rest) h)
    have hspaced : atDepth unit depth (spaced (text :: rest)) =
        atDepth unit depth (text :: rest) ++ [""] := by
      simp [spaced, atDepth, lineText]
    rw [hspaced]
    exact hsection

theorem endsShown_submitLines : EndsShown submitLines :=
  endsShown_of_forall (by decide) (by decide)

variable {component : Component}

theorem writes_functionOutline (h : component.IsShown) :
    Writes standardUnit 0 component.functionOutline component.functionLines := by
  have hfields := writes_lines standardUnit 2
    (component.opening ++ component.body ++ component.closing)
  have hsubmit := (writes_section standardUnit 1 endsShown_submitLines).append
    (hfields.block "return (" ");")
  have hstate := (writes_paragraph standardUnit 1 h.componentSetup).append
    (writes_section standardUnit 1 h.state)
  have hfunction := (hstate.append hsubmit).block "export default function MyForm() \x7b" "\x7d"
  have hopen : lineText standardUnit 1 "return (" = "  return (" := rfl
  have hclose : lineText standardUnit 1 ");" = "  );" := rfl
  rw [lineText_zero, lineText_zero, hopen, hclose] at hfunction
  simpa [functionOutline, functionLines] using hfunction

theorem writes_outline (h : component.IsShown) :
    Writes standardUnit 0 component.outline component.lines := by
  have hclient := writes_section standardUnit 0 (endsShown_singleton (by decide : "\"use client\";" ≠ ""))
  have himports := writes_section standardUnit 0 h.imports
  have hvalidator := writes_section standardUnit 0 h.validator
  have hmodule := writes_paragraph standardUnit 0 h.moduleSetup
  rw [atDepth_zero] at hclient himports hvalidator hmodule
  have hall := (((hclient.append himports).append hmodule).append hvalidator).append
    (writes_functionOutline h)
  simpa [outline, lines, Outline.lines] using hall

theorem draft_eq (h : component.IsShown) :
    component.draft = "\n".intercalate component.lines ++ "\n" := by
  rw [draft, Outline.text, (writes_outline h).toLines]

end Component

/-! ## Sections of generated components -/

theorem append_ne_empty {text : String} (h : text ≠ "") (rest : String) : text ++ rest ≠ "" :=
  fun hempty => h (String.append_eq_empty_iff.1 hempty).1

theorem ImportGroup.ne_empty_of_mem_lines {group : ImportGroup} :
    ∀ text ∈ group.lines, text ≠ "" := by
  unfold lines
  dsimp only
  split
  · refine List.forall_mem_singleton.2 ?_
    simp only [String.append_assoc]
    exact append_ne_empty (by decide) _
  · refine List.forall_mem_append.2 ⟨List.forall_mem_cons.2 ⟨by decide, ?_⟩, ?_⟩
    · refine List.forall_mem_map.2 fun name _ => ?_
      rw [String.append_assoc]
      exact append_ne_empty (by decide) _
    · refine List.forall_mem_singleton.2 ?_
      simp only [String.append_assoc]
      exact append_ne_empty (by decide) _

theorem ImportGroup.lines_ne_nil (group : ImportGroup) : group.lines ≠ [] := by
  unfold lines
  dsimp only
  split <;> simp

theorem Component.endsShown_imports (wiring : Wiring) (snippets : List Snippet) :
    EndsShown ((importsOf wiring snippets).flatMap ImportGroup.lines) := by
  refine endsShown_of_forall (fun hnil => ?_) fun text htext => ?_
  · have htoast : (⟨"sonner", ["toast"]⟩ : ImportGroup) ∈ importsOf wiring snippets := by
      simp [importsOf]
    exact ImportGroup.lines_ne_nil _ (List.flatMap_eq_nil_iff.1 hnil _ htoast)
  · obtain ⟨group, -, htext⟩ := List.mem_flatMap.1 htext
    exact group.ne_empty_of_mem_lines text htext

theorem Snippet.ne_empty_of_mem_setup {handler : Handler} {f : Field} {binding : Binding}
    {snippet : Snippet} (h : handler.snippet? f binding = some snippet) :
    ∀ text ∈ snippet.moduleSetup ++ snippet.componentSetup, text ≠ "" := by
  have hoptions : ∀ fallback, optionsLine f fallback ≠ "" := by
    intro fallback
    simp only [optionsLine, String.append_assoc]
    exact append_ne_empty (by decide) _
  have hcanvas : "const " ++ canvasName f ++ " = useRef<HTMLCanvasElement>(null);" ≠ "" := by
    rw [String.append_assoc]
    exact append_ne_empty (by decide) _
  cases handler with
  | signature component canvasRef =>
    cases h
    cases canvasRef
    · exact List.forall_mem_nil _
    · exact List.forall_mem_singleton.2 hcanvas
  | choice style fallback =>
    cases h
    cases style <;> exact List.forall_mem_singleton.2 (hoptions fallback)
  | number style =>
    cases h
    cases style <;> exact List.forall_mem_nil _
  | list style _ fallback =>
    cases h
    cases style
    · exact List.forall_mem_singleton.2 (hoptions fallback)
    all_goals exact List.forall_mem_nil _
  | date style =>
    cases h
    cases style <;> exact List.forall_mem_nil _
  | bare => cases h
  | _ =>
    cases h
    exact List.forall_mem_nil _

theorem Library.endsShown_setup (library : Library) (values : Members) :
    EndsShown (library.wiring.setup values) := by
  cases library with
  | reactHookForm => exact endsShown_append _ (endsShown_singleton (by decide))
  | tanstackForm =>
    exact endsShown_append _ (endsShown_of_forall (by decide) (by decide))
  | bringYourOwn =>
    exact endsShown_append _ ⟨PlainState.functionLines.dropLast, "\x7d", rfl, by decide⟩

theorem Spec.endsShown_of_declaration {spec : Spec} {constant : String} {lines : List String}
    (h : spec.declaration constant = .ok lines) : EndsShown lines := by
  unfold declaration at h
  dsimp only at h
  split at h
  · cases h
    simp only [String.append_assoc]
    exact endsShown_singleton (append_ne_empty (by decide) _)
  · obtain ⟨entries, -, h⟩ := bind_eq_ok_iff.1 h
    cases h
    exact endsShown_append _ (endsShown_singleton (by decide))

/-- **The source of a form** is laid out from the lines of its component. -/
theorem Form.draft_of_component {variants : VariantTable} {library : Library} {form : Form}
    {component : Component} (h : form.component variants library = .ok component) :
    component.draft = "\n".intercalate component.lines ++ "\n" := by
  obtain ⟨validator, hvalidator, h⟩ := bind_eq_ok_iff.1 h
  cases h
  have hsetup : ∀ snippet ∈ form.fields.filterMap (Field.snippet? variants library.wiring),
      ∀ text ∈ snippet.moduleSetup ++ snippet.componentSetup, text ≠ "" := by
    intro snippet hsnippet
    obtain ⟨f, -, hf⟩ := List.mem_filterMap.1 hsnippet
    obtain ⟨handler, -, hhandler⟩ := Option.bind_eq_some_iff.1 hf
    exact Snippet.ne_empty_of_mem_setup hhandler
  refine Component.draft_eq ⟨Component.endsShown_imports .., ?_,
    Spec.endsShown_of_declaration hvalidator, ?_, library.endsShown_setup _⟩
  · intro text htext
    obtain ⟨snippet, hsnippet, htext⟩ := List.mem_flatMap.1 htext
    exact hsetup snippet hsnippet text (List.mem_append_left _ htext)
  · intro text htext
    obtain ⟨snippet, hsnippet, htext⟩ := List.mem_flatMap.1 htext
    exact hsetup snippet hsnippet text (List.mem_append_right _ htext)

end FormStudio
