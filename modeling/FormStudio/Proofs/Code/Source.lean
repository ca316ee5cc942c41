import FormStudio.Proofs.Code.Blocks
import FormStudio.Proofs.Code.Control
import FormStudio.Proofs.Code.Imports
import FormStudio.Proofs.Code.Layout
import FormStudio.Proofs.Form.Names

/-!
# Sources and their layout

The source of a form is the layout of a draft. Its shown lines are those of the draft, trimmed and
with tabs replaced, so the layout leaves them alone where the draft has no tabs
(`Form.keepsLines_source_iff`). Around the controls tabs come from the raw texts of fields as well,
and from nowhere else (`Form.tabFree_draft`).
-/
namespace FormStudio

/-! ## Parts around controls -/

namespace Wiring

variable {f : Field} {beginning ending tag attributes target : String}

theorem allTabFree_objectLines {values : Members} (hbeginning : TabFree beginning)
    (hending : TabFree ending) (h : AllTabFree values.keys) :
    AllTabFree (objectLines beginning ending values) := by
  have hopen : TabFree "\x7b" := tabFree_ofList (by decide)
  have hclose : TabFree "\x7d" := tabFree_ofList (by decide)
  cases values with
  | nil =>
    refine allTabFree_cons.2 ⟨?_, allTabFree_nil⟩
    simp only [tabFree_append]
    exact ⟨⟨hbeginning, tabFree_ofList (by decide)⟩, hending⟩
  | cons entry rest =>
    simp only [objectLines, allTabFree_append, allTabFree_cons, allTabFree_nil, tabFree_append,
      hbeginning, hending, hopen, hclose, true_and, and_true]
    refine List.forall_mem_map.2 fun member hmember => ?_
    have hkey : TabFree member.1 := h _ (List.mem_map_of_mem (f := Prod.fst) hmember)
    simp only [tabFree_append, Json.tabFree_literal, toString, hkey, and_true]
    exact ⟨⟨tabFree_ofList (by decide), tabFree_ofList (by decide)⟩, tabFree_ofList (by decide)⟩

theorem allTabFree_helpText (hf : f.IsTabFree) (htag : TabFree tag)
    (hattributes : TabFree attributes) : AllTabFree (helpText f tag attributes) := by
  unfold helpText
  split
  · next text htext =>
    have hmarkup := Markup.tabFree_text (Field.tabFree_of_given hf.description htext)
    simp only [allTabFree_cons, allTabFree_nil, tabFree_append, htag, hattributes, hmarkup,
      and_true]
    and_intros
    all_goals exact tabFree_ofList (by decide)
  · exact allTabFree_nil

theorem allTabFree_helpParagraph (hf : f.IsTabFree) : AllTabFree (helpParagraph f) := by
  unfold helpParagraph
  exact allTabFree_helpText hf (tabFree_ofList (by decide)) (tabFree_ofList (by decide))

theorem tabFree_labelLine (hf : f.IsTabFree) (htarget : TabFree target) :
    TabFree (labelLine f target) := by
  unfold labelLine
  simp only [tabFree_append, htarget, Markup.tabFree_text hf.displayName, and_true]
  exact ⟨⟨tabFree_ofList (by decide), tabFree_ofList (by decide)⟩, tabFree_ofList (by decide)⟩

theorem tabFree_nameAttribute (hf : f.IsTabFree) : TabFree (nameAttribute f) :=
  Markup.tabFree_plainText.2 ⟨tabFree_ofList (by decide), hf.name⟩

theorem tabFree_errorClass : TabFree errorClass := tabFree_ofList (by decide)

theorem tabFree_formClass : TabFree formClass := tabFree_ofList (by decide)

/-- Whether a wiring brings no tabs into the code of a field. -/
structure IsTabFree (wiring : Wiring) : Prop where
  libraryImports : ∀ group ∈ wiring.libraryImports, AllTabFree group.names
  frameworkNames : AllTabFree wiring.frameworkNames
  componentImports : AllTabFree (wiring.componentImports.map Import.name)
  binding : ∀ f : Field, f.IsTabFree → (wiring.binding f).IsTabFree
  block : ∀ f : Field, f.IsTabFree → ∀ control, AllTabFree control →
    AllTabFree (wiring.block f control)
  setup : ∀ values : Members, AllTabFree values.keys → AllTabFree (wiring.setup values)
  opening : AllTabFree wiring.opening
  closing : AllTabFree wiring.closing

end Wiring

open Markup

theorem ReactHookForm.isTabFree_wiring : wiring.IsTabFree where
  libraryImports := by
    simp only [wiring, List.forall_mem_cons, allTabFree_cons, allTabFree_nil, and_true]
    exact ⟨tabFree_ofList (by decide), tabFree_ofList (by decide), List.forall_mem_nil _⟩
  frameworkNames := allTabFree_nil
  componentImports := by
    simp only [wiring, Wiring.button, formParts, List.map_cons, List.map_nil, allTabFree_cons,
      allTabFree_nil, and_true]
    and_intros
    all_goals exact tabFree_ofList (by decide)
  binding f hf := {
    value := tabFree_ofList (by decide)
    callback := tabFree_ofList (by decide)
    change := fun _ => CallTemplate.tabFree_closedBy (tabFree_ofList (by decide))
    blur := allTabFree_cons.2 ⟨tabFree_ofList (by decide), allTabFree_nil⟩
    elementId := allTabFree_nil }
  block f hf control hcontrol := by
    have hitem : AllTabFree (item f control) := by
      refine allTabFree_element (tabFree_ofList (by decide)) allTabFree_nil ?_
      have hwrapped : AllTabFree (element "FormControl" [] control) :=
        allTabFree_element (tabFree_ofList (by decide)) allTabFree_nil hcontrol
      have hhelp : AllTabFree (Wiring.helpText f "FormDescription" "") :=
        Wiring.allTabFree_helpText hf (tabFree_ofList (by decide)) tabFree_empty
      simp only [allTabFree_append, allTabFree_cons, allTabFree_nil, tabFree_append, hwrapped,
        hhelp, tabFree_text hf.displayName, and_true]
      exact ⟨⟨tabFree_ofList (by decide), tabFree_ofList (by decide)⟩, tabFree_ofList (by decide)⟩
    simp only [wiring, block, allTabFree_append, allTabFree_cons, allTabFree_nil, tabFree_append,
      tabFree_expression, allTabFree_indent 2 hitem, Wiring.tabFree_nameAttribute hf, and_true]
    and_intros
    all_goals exact tabFree_ofList (by decide)
  setup values hvalues := by
    have hvaluesLines : AllTabFree (Wiring.objectLines "defaultValues: " "," values) :=
      Wiring.allTabFree_objectLines (tabFree_ofList (by decide)) (tabFree_ofList (by decide))
        hvalues
    simp only [wiring, setup, allTabFree_append, allTabFree_cons, allTabFree_nil, tabFree_append,
      allTabFree_indent 1 hvaluesLines, and_true]
    and_intros
    all_goals exact tabFree_ofList (by decide)
  opening := by
    simp only [wiring, allTabFree_cons, allTabFree_nil, tabFree_append, tabFree_expression,
      Wiring.tabFree_formClass, and_true]
    and_intros
    all_goals exact tabFree_ofList (by decide)
  closing := by
    simp only [wiring, allTabFree_cons, allTabFree_nil, and_true]
    exact ⟨tabFree_ofList (by decide), tabFree_ofList (by decide)⟩

theorem TanstackForm.isTabFree_wiring : wiring.IsTabFree where
  libraryImports := by
    simp only [wiring, List.forall_mem_cons, allTabFree_cons, allTabFree_nil, and_true]
    exact ⟨tabFree_ofList (by decide), List.forall_mem_nil _⟩
  frameworkNames := allTabFree_nil
  componentImports := by
    simp only [wiring, Wiring.button, Wiring.label, List.map_cons, List.map_nil, allTabFree_cons,
      allTabFree_nil, and_true]
    exact ⟨tabFree_ofList (by decide), tabFree_ofList (by decide)⟩
  binding f hf := {
    value := tabFree_ofList (by decide)
    callback := tabFree_ofList (by decide)
    change := fun _ => CallTemplate.tabFree_closedBy (tabFree_ofList (by decide))
    blur := allTabFree_cons.2 ⟨tabFree_ofList (by decide), allTabFree_nil⟩
    elementId := allTabFree_cons.2 ⟨tabFree_ofList (by decide), allTabFree_nil⟩ }
  block f hf control hcontrol := by
    have hlabel : TabFree (Wiring.labelLine f (braced "field.name")) :=
      Wiring.tabFree_labelLine hf (tabFree_braced.2 (tabFree_ofList (by decide)))
    have herrors : AllTabFree errorLines := by
      simp only [errorLines, allTabFree_cons, allTabFree_nil, tabFree_append, tabFree_braced,
        Wiring.tabFree_errorClass, and_true]
      and_intros
      all_goals exact tabFree_ofList (by decide)
    have hitem : AllTabFree (item f control) := by
      refine allTabFree_element (tabFree_ofList (by decide))
        (allTabFree_cons.2 ⟨tabFree_ofList (by decide), allTabFree_nil⟩) ?_
      simp only [allTabFree_append, allTabFree_cons, allTabFree_nil, hlabel, hcontrol,
        Wiring.allTabFree_helpParagraph hf, herrors, and_true]
    simp only [wiring, block, allTabFree_append, allTabFree_cons, allTabFree_nil, tabFree_append,
      allTabFree_indent 2 hitem, Wiring.tabFree_nameAttribute hf, and_true]
    and_intros
    all_goals exact tabFree_ofList (by decide)
  setup values hvalues := by
    have hvaluesLines : AllTabFree (Wiring.objectLines "defaultValues: "
        (" as " ++ Wiring.answersType ++ ",") values) := by
      refine Wiring.allTabFree_objectLines (tabFree_ofList (by decide)) ?_ hvalues
      simp only [tabFree_append]
      exact ⟨⟨tabFree_ofList (by decide), tabFree_ofList (by decide)⟩, tabFree_ofList (by decide)⟩
    simp only [wiring, setup, allTabFree_append, allTabFree_cons, allTabFree_nil,
      allTabFree_indent 1 hvaluesLines, and_true]
    and_intros
    all_goals exact tabFree_ofList (by decide)
  opening := by
    simp only [wiring, allTabFree_cons, allTabFree_nil, tabFree_append, Wiring.tabFree_formClass,
      and_true]
    and_intros
    all_goals exact tabFree_ofList (by decide)
  closing := allTabFree_cons.2 ⟨tabFree_ofList (by decide), allTabFree_nil⟩

theorem PlainState.isTabFree_wiring : wiring.IsTabFree where
  libraryImports := List.forall_mem_nil _
  frameworkNames := allTabFree_cons.2 ⟨tabFree_ofList (by decide), allTabFree_nil⟩
  componentImports := by
    simp only [wiring, Wiring.button, Wiring.label, List.map_cons, List.map_nil, allTabFree_cons,
      allTabFree_nil, and_true]
    exact ⟨tabFree_ofList (by decide), tabFree_ofList (by decide)⟩
  binding f hf := {
    value := tabFree_append.2 ⟨tabFree_ofList (by decide), hf.name⟩
    callback := by
      simp only [wiring, binding, key, tabFree_append, tabFree_textLiteral, and_true]
      exact ⟨tabFree_ofList (by decide), tabFree_ofList (by decide)⟩
    change := by
      refine fun _ => CallTemplate.tabFree_closedBy ?_
      simp only [key, tabFree_append, tabFree_textLiteral, and_true]
      exact ⟨tabFree_ofList (by decide), tabFree_ofList (by decide)⟩
    blur := allTabFree_nil
    elementId := allTabFree_cons.2 ⟨tabFree_textLiteral f.name, allTabFree_nil⟩ }
  block f hf control hcontrol := by
    have herrors : AllTabFree (errorLines f) := by
      simp only [errorLines, allTabFree_cons, allTabFree_nil, tabFree_append, tabFree_braced,
        Wiring.tabFree_errorClass, hf.name, and_true]
      and_intros
      all_goals exact tabFree_ofList (by decide)
    have hlabel : TabFree (Wiring.labelLine f (key f)) :=
      Wiring.tabFree_labelLine hf (tabFree_textLiteral f.name)
    refine allTabFree_element (tabFree_ofList (by decide))
      (allTabFree_cons.2 ⟨tabFree_ofList (by decide), allTabFree_nil⟩) ?_
    simp only [allTabFree_append, allTabFree_cons, allTabFree_nil, hlabel, hcontrol,
      Wiring.allTabFree_helpParagraph hf, herrors, and_true]
  setup values hvalues := by
    have hobject : AllTabFree (Wiring.objectLines
        s!"const [values, setValues] = useState<{Wiring.answersType}>(" ");" values) := by
      refine Wiring.allTabFree_objectLines ?_ (tabFree_ofList (by decide)) hvalues
      simp only [tabFree_append, toString]
      exact ⟨⟨tabFree_ofList (by decide), tabFree_ofList (by decide)⟩, tabFree_ofList (by decide)⟩
    simp only [wiring, setup, functionLines, allTabFree_append, allTabFree_cons, allTabFree_nil,
      hobject, true_and, and_true]
    and_intros
    all_goals exact tabFree_ofList (by decide)
  opening := by
    simp only [wiring, allTabFree_cons, allTabFree_nil, tabFree_append, tabFree_expression,
      Wiring.tabFree_formClass, and_true]
    and_intros
    all_goals exact tabFree_ofList (by decide)
  closing := allTabFree_cons.2 ⟨tabFree_ofList (by decide), allTabFree_nil⟩

theorem Library.isTabFree_wiring (library : Library) : library.wiring.IsTabFree := by
  cases library with
  | reactHookForm => exact ReactHookForm.isTabFree_wiring
  | tanstackForm => exact TanstackForm.isTabFree_wiring
  | bringYourOwn => exact PlainState.isTabFree_wiring

/-! ## Imports and validators -/

namespace ImportGroup

theorem allTabFree_names_of_mem_ofImports {imports : List Import}
    (h : AllTabFree (imports.map Import.name)) :
    ∀ group ∈ ofImports imports, AllTabFree group.names := by
  intro group hgroup name hname
  have hitem : (⟨group.source, name⟩ : Import) ∈ imports :=
    holds_ofImports.1 ⟨group, hgroup, rfl, hname⟩
  exact h name (List.mem_map_of_mem (f := Import.name) hitem)

theorem allTabFree_lines {group : ImportGroup} (h : AllTabFree group.names) :
    AllTabFree group.lines := by
  have hending : TabFree ("\x7d from " ++ textLiteral group.source ++ ";") := by
    simp only [tabFree_append, tabFree_textLiteral, and_true]
    exact ⟨tabFree_ofList (by decide), tabFree_ofList (by decide)⟩
  unfold lines
  dsimp only
  split
  · have hnames : TabFree (", ".intercalate group.names) :=
      tabFree_intercalate (tabFree_ofList (by decide)) h
    refine allTabFree_cons.2 ⟨?_, allTabFree_nil⟩
    rw [tabFree_append, tabFree_append, tabFree_append]
    exact ⟨⟨⟨tabFree_ofList (by decide), hnames⟩, tabFree_ofList (by decide)⟩, hending⟩
  · have hlines : AllTabFree (group.names.map fun name => "  " ++ name ++ ",") := by
      refine List.forall_mem_map.2 fun name hname => ?_
      rw [tabFree_append, tabFree_append]
      exact ⟨⟨tabFree_ofList (by decide), h name hname⟩, tabFree_ofList (by decide)⟩
    simp only [allTabFree_append, allTabFree_cons, allTabFree_nil, hlines, and_true]
    exact ⟨tabFree_ofList (by decide), hending⟩

end ImportGroup

theorem Component.allTabFree_imports {wiring : Wiring} {snippets : List Snippet}
    (hwiring : wiring.IsTabFree) (hsnippets : ∀ snippet ∈ snippets, snippet.IsTabFree) :
    AllTabFree ((importsOf wiring snippets).flatMap ImportGroup.lines) := by
  have hframework : AllTabFree (Sorted.ofList
      (wiring.frameworkNames ++ snippets.flatMap Snippet.frameworkNames)) := by
    intro name hname
    refine allTabFree_append.2 ⟨hwiring.frameworkNames, allTabFree_flatMap.2 ?_⟩ name
      (Sorted.mem_ofList.1 hname)
    exact fun snippet hsnippet => (hsnippets snippet hsnippet).frameworkNames
  have hcomponents : AllTabFree
      ((wiring.componentImports ++ snippets.flatMap Snippet.imports).map Import.name) := by
    rw [List.map_append, List.map_flatMap, allTabFree_append, allTabFree_flatMap]
    exact ⟨hwiring.componentImports, fun snippet hsnippet => (hsnippets snippet hsnippet).imports⟩
  have hfixed : AllTabFree ["toast"] ∧ AllTabFree ["z"] :=
    ⟨allTabFree_cons.2 ⟨tabFree_ofList (by decide), allTabFree_nil⟩,
      allTabFree_cons.2 ⟨tabFree_ofList (by decide), allTabFree_nil⟩⟩
  refine allTabFree_flatMap.2 fun group hgroup => ImportGroup.allTabFree_lines ?_
  simp only [importsOf, List.mem_append, List.mem_singleton] at hgroup
  rcases hgroup with (((hgroup | rfl) | hgroup) | rfl) | hgroup
  · split at hgroup
    · cases hgroup
    · cases List.mem_singleton.1 hgroup
      exact hframework
  · exact hfixed.1
  · exact hwiring.libraryImports group hgroup
  · exact hfixed.2
  · exact ImportGroup.allTabFree_names_of_mem_ofImports hcomponents group hgroup

namespace ZodCheck

theorem tabFree_call {method argument : String} (hmethod : TabFree method)
    (hargument : TabFree argument) (message : String) :
    TabFree (call method argument message) := by
  simp only [call, tabFree_append, tabFree_braced, hmethod, hargument, tabFree_textLiteral,
    and_true]
  and_intros
  all_goals exact tabFree_ofList (by decide)

theorem tabFree_text (check : ZodCheck) : TabFree check.text := by
  cases check with
  | nonBlank message =>
    exact tabFree_call (tabFree_ofList (by decide)) (tabFree_ofList (by decide)) message
  | regex pattern message =>
    refine tabFree_call (tabFree_ofList (by decide)) ?_ _
    simp only [tabFree_append, tabFree_textLiteral, and_true]
    exact ⟨tabFree_ofList (by decide), tabFree_ofList (by decide)⟩
  | min bound message =>
    exact tabFree_call (tabFree_ofList (by decide)) bound.tabFree_literal message
  | max bound message =>
    exact tabFree_call (tabFree_ofList (by decide)) bound.tabFree_literal message
  | multipleOf step message =>
    exact tabFree_call (tabFree_ofList (by decide)) step.tabFree_literal message
  | isTrue message =>
    exact tabFree_call (tabFree_ofList (by decide)) (tabFree_ofList (by decide)) message
  | present message =>
    refine tabFree_call (tabFree_ofList (by decide)) ?_ _
    exact tabFree_append.2 ⟨tabFree_ofList (by decide), tabFree_ofList (by decide)⟩

end ZodCheck

theorem Zod.tabFree_text (zod : Zod) : TabFree zod.text := by
  have hbase : TabFree zod.base.text := by
    cases zod.base <;> exact tabFree_ofList (by decide)
  have hchecks : TabFree (String.join (zod.checks.map ZodCheck.text)) :=
    tabFree_join (List.forall_mem_map.2 fun check _ => check.tabFree_text)
  simp only [text, tabFree_append, hbase, hchecks, true_and]
  constructor
  · split <;> exact tabFree_ofList (by decide)
  · split <;> exact tabFree_ofList (by decide)

theorem ZodObject.allTabFree_lines {object : ZodObject} {constant : String}
    (hconstant : TabFree constant) (h : AllTabFree (object.map Prod.fst)) :
    AllTabFree (object.lines constant) := by
  unfold lines
  dsimp only
  split
  · simp only [allTabFree_cons, allTabFree_nil, tabFree_append, hconstant, and_true]
    and_intros
    all_goals exact tabFree_ofList (by decide)
  · have hclose : TabFree "\x7d);" := tabFree_ofList (by decide)
    refine allTabFree_append.2 ⟨allTabFree_append.2 ⟨allTabFree_cons.2 ⟨?_, allTabFree_nil⟩, ?_⟩,
      allTabFree_cons.2 ⟨hclose, allTabFree_nil⟩⟩
    · simp only [tabFree_append, hconstant, and_true]
      and_intros
      all_goals exact tabFree_ofList (by decide)
    · refine List.forall_mem_map.2 fun entry hentry => ?_
      have hname : TabFree entry.1 := h _ (List.mem_map_of_mem (f := Prod.fst) hentry)
      simp only [tabFree_append, hname, entry.2.tabFree_text, and_true]
      and_intros
      all_goals exact tabFree_ofList (by decide)

/-! ## Components -/

namespace Outline

theorem allTabFree_atDepth (depth : Nat) {texts : List String} (h : AllTabFree texts) :
    AllTabFree (atDepth standardUnit depth texts) := by
  refine List.forall_mem_map.2 fun text htext => ?_
  unfold lineText
  split
  · exact tabFree_empty
  · refine tabFree_append.2 ⟨tabFree_join fun unit hunit => ?_, h text htext⟩
    rw [List.eq_of_mem_replicate hunit]
    exact tabFree_ofList (by decide)

end Outline

namespace Component

/-- Whether no part of a component has tabs. -/
structure IsTabFree (component : Component) : Prop where
  imports : AllTabFree (component.imports.flatMap ImportGroup.lines)
  moduleSetup : AllTabFree component.moduleSetup
  validator : AllTabFree component.validator
  componentSetup : AllTabFree component.componentSetup
  state : AllTabFree component.state
  opening : AllTabFree component.opening
  body : AllTabFree component.body
  closing : AllTabFree component.closing

theorem allTabFree_spaced {texts : List String} (h : AllTabFree texts) :
    AllTabFree (spaced texts) := by
  cases texts with
  | nil => exact allTabFree_nil
  | cons text rest =>
    exact allTabFree_append.2 ⟨h, allTabFree_cons.2 ⟨tabFree_empty, allTabFree_nil⟩⟩

theorem allTabFree_submitLines : AllTabFree submitLines := by
  simp only [submitLines, allTabFree_cons, allTabFree_nil, tabFree_append, tabFree_braced, and_true]
  and_intros
  all_goals exact tabFree_ofList (by decide)

theorem IsTabFree.lines {component : Component} (h : component.IsTabFree) :
    AllTabFree component.lines := by
  have hfields := Outline.allTabFree_atDepth 2
    (allTabFree_append.2 ⟨allTabFree_append.2 ⟨h.opening, h.body⟩, h.closing⟩)
  simp only [Component.lines, functionLines, allTabFree_append, allTabFree_cons, allTabFree_nil,
    tabFree_empty, h.imports, allTabFree_spaced h.moduleSetup, h.validator,
    Outline.allTabFree_atDepth 1 (allTabFree_spaced h.componentSetup),
    Outline.allTabFree_atDepth 1 h.state, Outline.allTabFree_atDepth 1 allTabFree_submitLines,
    hfields, true_and, and_true]
  and_intros
  all_goals exact tabFree_ofList (by decide)

end Component

namespace Form

variable {variants : VariantTable} {library : Library} {form : Form} {f : Field}

theorem allTabFree_placeholder (hf : f.IsTabFree) : AllTabFree (placeholder f) := by
  refine allTabFree_cons.2 ⟨tabFree_comment ?_, allTabFree_nil⟩
  simp only [tabFree_append, hf.variant, hf.name, and_true]
  exact ⟨⟨tabFree_ofList (by decide), tabFree_ofList (by decide)⟩, tabFree_ofList (by decide)⟩

theorem isTabFree_of_snippet? {snippet : Snippet}
    (hvariants : ∀ entry ∈ variants, entry.2.IsTabFree) (hf : f.IsTabFree)
    (h : f.snippet? variants library.wiring = some snippet) : snippet.IsTabFree := by
  obtain ⟨handler, hhandler, hsnippet⟩ := Option.bind_eq_some_iff.1 h
  exact Handler.isTabFree_snippet hsnippet (hvariants _ (Table.mem_of_get? hhandler)) hf
    (library.isTabFree_wiring.binding f hf)

theorem allTabFree_controlLines (hvariants : ∀ entry ∈ variants, entry.2.IsTabFree)
    (hf : f.IsTabFree) : AllTabFree (controlLines variants library.wiring f) := by
  unfold controlLines
  split
  · next snippet hsnippet =>
    exact library.isTabFree_wiring.block f hf _ (isTabFree_of_snippet? hvariants hf hsnippet).markup
  · exact allTabFree_placeholder hf

theorem allTabFree_itemLines (hvariants : ∀ entry ∈ variants, entry.2.IsTabFree) {item : Item}
    (h : ∀ f ∈ item.fields, f.IsTabFree) :
    AllTabFree (itemLines variants library.wiring item) := by
  cases item with
  | field f => exact allTabFree_controlLines hvariants (h f (List.mem_singleton_self f))
  | group members =>
    have hspan : TabFree s!"className=\"col-span-{columnSpan members.length}\"" := by
      simp only [tabFree_append, tabFree_digits, and_true]
      exact ⟨tabFree_ofList (by decide), tabFree_ofList (by decide)⟩
    refine allTabFree_element (tabFree_ofList (by decide))
      (allTabFree_cons.2 ⟨tabFree_ofList (by decide), allTabFree_nil⟩)
      (allTabFree_flatMap.2 fun f hf => ?_)
    exact allTabFree_element (tabFree_ofList (by decide))
      (allTabFree_cons.2 ⟨hspan, allTabFree_nil⟩) (allTabFree_controlLines hvariants (h f hf))

theorem isTabFree_component {component : Component}
    (hvariants : ∀ entry ∈ variants, entry.2.IsTabFree) (hfields : ∀ f ∈ form.fields, f.IsTabFree)
    (h : form.component variants library = .ok component) : component.IsTabFree := by
  obtain ⟨validator, hvalidator, heq⟩ := bind_eq_ok_iff.1 h
  obtain ⟨object, hobject, rfl⟩ := Spec.declaration_eq_ok_iff.1 hvalidator
  cases heq
  have hwiring := library.isTabFree_wiring
  have hnames : AllTabFree form.names := List.forall_mem_map.2 fun f hf => (hfields f hf).name
  have hsnippets : ∀ snippet ∈ form.fields.filterMap (Field.snippet? variants library.wiring),
      snippet.IsTabFree := by
    intro snippet hsnippet
    obtain ⟨f, hf, hsnippet⟩ := List.mem_filterMap.1 hsnippet
    exact isTabFree_of_snippet? hvariants (hfields f hf) hsnippet
  have hbutton : TabFree Component.submitButton := tabFree_ofList (by decide)
  refine {
    imports := Component.allTabFree_imports hwiring hsnippets
    moduleSetup := allTabFree_flatMap.2 fun s hs => (hsnippets s hs).moduleSetup
    validator := ZodObject.allTabFree_lines (tabFree_ofList (by decide)) ?_
    componentSetup := allTabFree_flatMap.2 fun s hs => (hsnippets s hs).componentSetup
    state := hwiring.setup _ ?_
    opening := hwiring.opening
    body := allTabFree_indent _ (allTabFree_append.2 ⟨?_, ?_⟩)
    closing := hwiring.closing }
  · rw [Spec.names_of_zodObject hobject, spec_fieldNames]
    exact hnames
  · refine List.forall_mem_map.2 fun entry hentry => ?_
    obtain ⟨f, hf, rfl⟩ := List.mem_map.1 (Table.mem_of_mem_ofPairs hentry)
    exact (hfields f hf).name
  · refine allTabFree_flatMap.2 fun item hitem => allTabFree_itemLines hvariants fun f hf => ?_
    exact hfields f (List.mem_flatMap.2 ⟨item, hitem, hf⟩)
  · exact allTabFree_cons.2 ⟨hbutton, allTabFree_nil⟩

/-- **A draft has no tabs** if neither the names nor the raw texts of the fields have any. -/
theorem tabFree_draft {component : Component}
    (hvariants : ∀ entry ∈ variants, entry.2.IsTabFree) (hfields : ∀ f ∈ form.fields, f.IsTabFree)
    (h : form.component variants library = .ok component) : TabFree component.draft := by
  have hlines := (isTabFree_component hvariants hfields h).lines
  have hbreak : TabFree "\n" := tabFree_ofList (by decide)
  rw [draft_of_component h]
  exact tabFree_append.2 ⟨tabFree_intercalate hbreak hlines, hbreak⟩

end Form

theorem tabFree_of_isFieldName {name : String} (h : isFieldName name = true) : TabFree name := by
  obtain ⟨stem, hstem, hname⟩ := isFieldName_iff.1 h
  intro htab
  have hmem : '\t' ∈ stem := by
    rcases hname with hname | hname
    · rwa [hname] at htab
    · rw [hname] at htab
      exact (List.mem_append.1 htab).resolve_right (by decide)
  exact absurd (isNameChar_of_isIdentifier hstem _ hmem) (by decide)

/-! ## Lines of a draft -/

theorem toList_intercalate_break {lines : List String} (h : lines ≠ []) :
    ("\n".intercalate lines ++ "\n").toList =
      (lines.map String.toList).flatMap fun line => line ++ ['\n'] := by
  induction lines with
  | nil => exact absurd rfl h
  | cons line rest ih =>
    cases rest with
    | nil =>
      rw [String.intercalate_singleton, String.toList_append]
      simp
    | cons next rest =>
      rw [String.intercalate_cons_cons, String.append_assoc, String.toList_append,
        ih (List.cons_ne_nil next rest), String.toList_append]
      simp

/-- A line of the body is a line of the component, two levels deeper. -/
theorem Component.mem_lines_of_mem_body {component : Component} {line : String}
    (h : line ∈ component.body) :
    Outline.lineText Outline.standardUnit 2 line ∈ component.lines := by
  have hfields : Outline.lineText Outline.standardUnit 2 line ∈
      Outline.atDepth Outline.standardUnit 2
        (component.opening ++ component.body ++ component.closing) :=
    List.mem_map_of_mem (List.mem_append_left _ (List.mem_append_right _ h))
  simp only [Component.lines, functionLines, List.mem_append, List.mem_cons, hfields, true_or,
    or_true]

namespace Form

open Layout

/-- The draft is split into the lines of its component, and further where a line has breaks. -/
theorem splitLines_draft {variants : VariantTable} {library : Library} {form : Form}
    {component : Component} (h : form.component variants library = .ok component) :
    splitLines component.draft.toList =
      (component.lines.flatMap fun line => splitLines line.toList) ++ [[]] := by
  rw [draft_of_component h, toList_intercalate_break (by simp [Component.lines]),
    splitLines_flatMap, List.flatMap_map]

theorem isTabFree_of_ofText {text : String} {form : Form} (himport : ofText text = .ok form)
    (h : ∀ f ∈ form.fields, AllTabFree f.rawTexts) : ∀ f ∈ form.fields, f.IsTabFree :=
  fun f hf => Field.isTabFree_of_rawTexts
    (tabFree_of_isFieldName (isFieldName_of_ofText himport f hf)) (h f hf)

/-- **The source of an imported form** shows the lines of its draft, trimmed and with tabs replaced.
So it keeps the lines exactly when no tab of the draft stands in front of something visible, and
that is so whenever there are no tabs in the texts that are written without escapes. -/
theorem keepsLines_source_iff {text : String} {form : Form} {library : Library} {code : String}
    (himport : ofText text = .ok form)
    (hsource : form.source Handler.builtin library = .ok code) :
    ∃ component, form.component Handler.builtin library = .ok component ∧
      shownLines code.toList =
        (shownLines component.draft.toList).map (fun line => expandTabs 0 (trimEnd line)) ∧
      (KeepsLines component.draft code ↔
        ∀ line ∈ splitLines component.draft.toList, '\t' ∉ trimEnd line) ∧
      ((∀ f ∈ form.fields, AllTabFree f.rawTexts) → KeepsLines component.draft code) := by
  obtain ⟨component, hcomponent, hcode⟩ := bind_eq_ok_iff.1 hsource
  obtain rfl : component.source = code := Except.ok.inj hcode
  refine ⟨component, hcomponent, shownLines_format _, keepsLines_format_iff, fun h => ?_⟩
  exact keepsLines_format
    (tabFree_draft Handler.isTabFree_builtin (isTabFree_of_ofText himport h) hcomponent)

/-- The tab in a label is replaced, so the source does not keep the line with the label. -/
theorem not_keepsLines_source_of_tab :
    let f : Field := { Field.named "a" with label := "x\ty" }
    ∃ component code, Form.component Handler.builtin .bringYourOwn [.field f] = .ok component ∧
      Form.source Handler.builtin .bringYourOwn [.field f] = .ok code ∧
      ¬ KeepsLines component.draft code := by
  intro f
  have himport : ofText "[\x7b\"variant\":\"Input\",\"name\":\"a\",\"label\":\"x\\ty\"\x7d]" =
      .ok [.field f] := toOption_eq_some_iff.1 (by decide +kernel)
  obtain ⟨code, hcode⟩ : Succeeds (Form.source Handler.builtin .bringYourOwn [.field f]) := by
    refine succeeds_source_iff.2 fun g hg => Field.hasShowableBounds_rule ?_
    obtain rfl : g = f := List.mem_singleton.1 hg
    decide
  obtain ⟨component, hcomponent, -, hiff, -⟩ := keepsLines_source_iff himport hcode
  refine ⟨component, code, hcomponent, hcode, fun hkeeps => ?_⟩
  have hbody : indentLine 1 (indentLine 1 (Wiring.labelLine f (PlainState.key f))) ∈
      component.body := by
    obtain ⟨validator, -, heq⟩ := bind_eq_ok_iff.1 hcomponent
    cases heq
    refine List.mem_map_of_mem (List.mem_append_left _ (List.mem_append_left _ ?_))
    -- the label is the first child of the block
    show _ ∈ PlainState.block f _
    refine List.mem_append_left _ (List.mem_append_right _ (List.mem_map_of_mem ?_))
    exact List.mem_cons_self
  obtain ⟨line, hline, htab⟩ : ∃ line ∈ splitLines (Outline.lineText Outline.standardUnit 2
      (indentLine 1 (indentLine 1 (Wiring.labelLine f (PlainState.key f))))).toList,
      '\t' ∈ trimEnd line := by decide +kernel
  refine hiff.1 hkeeps line ?_ htab
  rw [splitLines_draft hcomponent]
  exact List.mem_append_left _
    (List.mem_flatMap.2 ⟨_, Component.mem_lines_of_mem_body hbody, hline⟩)

end Form

end FormStudio
