import FormStudio.Code.Snippet
import FormStudio.Proofs.Code.Tabs

/-!
# Where tabs in generated controls come from

Of the texts of a field only some bring tabs into generated code: those that stand in plain quotes,
between tags or in comments (`Field.rawTexts`). Names have none, and the rest stands in literals. So
the code of a control has no tabs if these texts and the binding have none
(`Handler.isTabFree_snippet`), for each variant that is built in (`Handler.isTabFree_builtin`).
-/
namespace FormStudio

/-! ## Fields and bindings -/

/-- The texts of a field that are written without escapes. -/
def Field.rawTexts (f : Field) : List String :=
  [f.variant, f.label] ++
    [f.description, f.placeholder, f.className, f.locale].flatMap Option.toList

/-- Whether neither the name nor a raw text of a field has tabs. -/
structure Field.IsTabFree (f : Field) : Prop where
  name : TabFree f.name
  variant : TabFree f.variant
  label : TabFree f.label
  description : AllTabFree f.description.toList
  placeholder : AllTabFree f.placeholder.toList
  className : AllTabFree f.className.toList
  locale : AllTabFree f.locale.toList

namespace Field

variable {f : Field} {text : Option String} {s standard : String}

theorem isTabFree_of_rawTexts (hname : TabFree f.name) (h : AllTabFree f.rawTexts) :
    f.IsTabFree := by
  simp only [rawTexts, List.flatMap_cons, List.flatMap_nil, allTabFree_append, allTabFree_cons,
    allTabFree_nil, and_true] at h
  obtain ⟨⟨hvariant, hlabel⟩, hdescription, hplaceholder, hclass, hlocale⟩ := h
  exact ⟨hname, hvariant, hlabel, hdescription, hplaceholder, hclass, hlocale⟩

theorem IsTabFree.displayName (h : f.IsTabFree) : TabFree f.displayName := by
  unfold Field.displayName
  split
  · exact h.name
  · exact h.label

theorem tabFree_of_given (h : AllTabFree text.toList) (hs : s ∈ given? text) : TabFree s :=
  h s (Option.mem_toList.2 (Option.mem_filter_iff.1 hs).1)

theorem tabFree_given_getD (h : AllTabFree text.toList) (hstandard : TabFree standard) :
    TabFree ((given? text).getD standard) := by
  cases hgiven : given? text with
  | none => exact hstandard
  | some s => exact tabFree_of_given h hgiven

end Field

structure Binding.IsTabFree (binding : Binding) : Prop where
  value : TabFree binding.value
  callback : TabFree binding.callback
  change : ∀ argument, TabFree argument → TabFree (binding.call argument)
  blur : AllTabFree binding.blur.toList
  elementId : AllTabFree binding.elementId.toList

theorem CallTemplate.tabFree_closedBy {beginning argument : String} (hbeginning : TabFree beginning)
    (hargument : TabFree argument) : TabFree (apply (closedBy beginning) argument) := by
  refine tabFree_join (allTabFree_cons.2 ⟨hbeginning, allTabFree_cons.2 ⟨hargument, ?_⟩⟩)
  exact allTabFree_cons.2 ⟨tabFree_ofList (by decide), allTabFree_nil⟩

/-! ## Controls -/

structure Snippet.IsTabFree (snippet : Snippet) : Prop where
  markup : AllTabFree snippet.markup
  imports : AllTabFree (snippet.imports.map Import.name)
  frameworkNames : AllTabFree snippet.frameworkNames
  moduleSetup : AllTabFree snippet.moduleSetup
  componentSetup : AllTabFree snippet.componentSetup

/-- Whether the texts of a variant that stand in code have no tabs. -/
def Handler.IsTabFree : Handler → Prop
  | .text inputType component _ => TabFree inputType ∧ TabFree component.name
  | .signature component _ => TabFree component.name
  | .toggle component _ => TabFree component.name
  | _ => True

namespace Snippet

open Markup

section Attributes

variable {f : Field} {binding : Binding}

theorem allTabFree_map_expression {name : String} {script : Option String} (hname : TabFree name)
    (h : AllTabFree script.toList) : AllTabFree (script.map (expression name)).toList := by
  cases script with
  | none => exact allTabFree_nil
  | some script =>
    exact allTabFree_cons.2 ⟨tabFree_expression.2 ⟨hname, (allTabFree_cons.1 h).1⟩, allTabFree_nil⟩

theorem allTabFree_map_textAttribute {name : String} {text : Option String} (hname : TabFree name)
    (h : AllTabFree text.toList) :
    AllTabFree ((Field.given? text).map (textAttribute name)).toList := by
  cases hgiven : Field.given? text with
  | none => exact allTabFree_nil
  | some s =>
    exact allTabFree_cons.2
      ⟨tabFree_textAttribute hname (Field.tabFree_of_given h hgiven), allTabFree_nil⟩

theorem allTabFree_idAttribute (hb : binding.IsTabFree) : AllTabFree (idAttribute binding) :=
  allTabFree_map_expression (tabFree_ofList (by decide)) hb.elementId

theorem allTabFree_blurAttribute (hb : binding.IsTabFree) : AllTabFree (blurAttribute binding) :=
  allTabFree_map_expression (tabFree_ofList (by decide)) hb.blur

theorem allTabFree_placeholderAttribute (hf : f.IsTabFree) : AllTabFree (placeholderAttribute f) :=
  allTabFree_map_textAttribute (tabFree_ofList (by decide)) hf.placeholder

theorem allTabFree_disabledAttribute (f : Field) : AllTabFree (disabledAttribute f) := by
  unfold disabledAttribute
  split
  · exact allTabFree_cons.2 ⟨tabFree_ofList (by decide), allTabFree_nil⟩
  · exact allTabFree_nil

theorem allTabFree_closingAttributes (hf : f.IsTabFree) : AllTabFree (closingAttributes f) :=
  allTabFree_append.2 ⟨allTabFree_disabledAttribute f,
    allTabFree_map_textAttribute (tabFree_ofList (by decide)) hf.className⟩

theorem tabFree_classOr {standard : String} (hf : f.IsTabFree) (h : TabFree standard) :
    TabFree (classOr f standard) :=
  tabFree_textAttribute (tabFree_ofList (by decide)) (Field.tabFree_given_getD hf.className h)

theorem tabFree_placeholderOr {standard : String} (hf : f.IsTabFree) (h : TabFree standard) :
    TabFree (placeholderOr f standard) :=
  tabFree_textAttribute (tabFree_ofList (by decide)) (Field.tabFree_given_getD hf.placeholder h)

theorem tabFree_valueAs {name : String} (hb : binding.IsTabFree) :
    TabFree (valueAs name binding) ↔ TabFree name := by
  simp only [valueAs, tabFree_expression, hb.value, and_true]

theorem tabFree_callbackAs {name : String} (hb : binding.IsTabFree) :
    TabFree (callbackAs name binding) ↔ TabFree name := by
  simp only [callbackAs, tabFree_expression, hb.callback, and_true]

theorem tabFree_changeFrom {parameter argument : String} (hb : binding.IsTabFree)
    (hparameter : TabFree parameter) (hargument : TabFree argument) :
    TabFree (changeFrom parameter argument binding) := by
  simp only [changeFrom, tabFree_append]
  exact ⟨⟨⟨tabFree_ofList (by decide), hparameter⟩, tabFree_ofList (by decide)⟩,
    hb.change argument hargument⟩

theorem tabFree_inputChange (hb : binding.IsTabFree) : TabFree (inputChange binding) :=
  tabFree_expression.2 ⟨tabFree_ofList (by decide),
    tabFree_changeFrom hb (tabFree_ofList (by decide)) (tabFree_ofList (by decide))⟩

theorem tabFree_optionsName (hf : f.IsTabFree) : TabFree (optionsName f) :=
  tabFree_append.2 ⟨hf.name, tabFree_ofList (by decide)⟩

theorem tabFree_optionsLine (hf : f.IsTabFree) (fallback : List String) :
    TabFree (optionsLine f fallback) := by
  simp only [optionsLine, tabFree_append, tabFree_optionsName hf, Json.tabFree_literal, and_true]
  exact ⟨⟨tabFree_ofList (by decide), tabFree_ofList (by decide)⟩, tabFree_ofList (by decide)⟩

theorem tabFree_anOption : TabFree anOption := tabFree_braced.2 (tabFree_ofList (by decide))

theorem allTabFree_optionAttributes : AllTabFree optionAttributes := by
  simp only [optionAttributes, allTabFree_cons, tabFree_append, tabFree_anOption, allTabFree_nil,
    and_true]
  exact ⟨tabFree_ofList (by decide), tabFree_ofList (by decide)⟩

theorem allTabFree_forOptions {item : List String} (hf : f.IsTabFree) (h : AllTabFree item) :
    AllTabFree (forOptions f item) := by
  have hitem := h.prepend (a := "  ") (tabFree_ofList (by decide))
  simp only [forOptions, allTabFree_append, allTabFree_cons, tabFree_append, tabFree_optionsName hf,
    hitem, allTabFree_nil, and_true]
  exact ⟨⟨tabFree_ofList (by decide), tabFree_ofList (by decide)⟩, tabFree_ofList (by decide)⟩

theorem tabFree_asDate (hb : binding.IsTabFree) : TabFree (asDate binding) := by
  simp only [asDate, tabFree_append, hb.value, true_and, and_true]
  exact ⟨tabFree_ofList (by decide), tabFree_ofList (by decide)⟩

theorem tabFree_dateChange (hb : binding.IsTabFree) : TabFree (dateChange binding) :=
  tabFree_changeFrom hb (tabFree_ofList (by decide)) (tabFree_ofList (by decide))

end Attributes

section Controls

variable {f : Field} {binding : Binding}

theorem isTabFree_plain {markup : List String} {imports : List Import} (hmarkup : AllTabFree markup)
    (himports : AllTabFree (imports.map Import.name)) : (plain markup imports).IsTabFree :=
  ⟨hmarkup, himports, allTabFree_nil, allTabFree_nil, allTabFree_nil⟩

theorem isTabFree_ofComponent {component : Import} {attributes : List String}
    (hname : TabFree component.name) (h : AllTabFree attributes) :
    (ofComponent component attributes).IsTabFree :=
  isTabFree_plain (allTabFree_void hname h) (allTabFree_cons.2 ⟨hname, allTabFree_nil⟩)

theorem map_name_importsFrom (source : String) (names : List String) :
    (importsFrom source names).map Import.name = names := by
  rw [importsFrom, List.map_map]
  exact List.map_id names

theorem isTabFree_text {inputType : String} {component : Import} (htype : TabFree inputType)
    (hname : TabFree component.name) (hf : f.IsTabFree) (hb : binding.IsTabFree) :
    (text inputType component f binding).IsTabFree := by
  have htypeAttribute : TabFree (textAttribute "type" inputType) :=
    tabFree_textAttribute (tabFree_ofList (by decide)) htype
  refine isTabFree_ofComponent hname ?_
  simp only [allTabFree_append, allTabFree_idAttribute hb, allTabFree_placeholderAttribute hf,
    allTabFree_blurAttribute hb, allTabFree_closingAttributes hf, true_and, and_true]
  split
  · simp only [allTabFree_cons, htypeAttribute, tabFree_valueAs hb, tabFree_inputChange hb,
      allTabFree_nil, true_and, and_true]
    exact tabFree_ofList (by decide)
  · simp only [allTabFree_cons, tabFree_valueAs hb, tabFree_callbackAs hb, allTabFree_nil, and_true]
    exact ⟨tabFree_ofList (by decide), tabFree_ofList (by decide)⟩

theorem isTabFree_textarea (hf : f.IsTabFree) (hb : binding.IsTabFree) :
    (textarea f binding).IsTabFree := by
  have hclass : TabFree (classOr f "resize-none") := tabFree_classOr hf (tabFree_ofList (by decide))
  refine isTabFree_ofComponent (tabFree_ofList (by decide)) ?_
  simp only [allTabFree_append, allTabFree_cons, allTabFree_nil, allTabFree_idAttribute hb,
    allTabFree_placeholderAttribute hf, allTabFree_blurAttribute hb, allTabFree_disabledAttribute,
    hclass, tabFree_valueAs hb, tabFree_inputChange hb, true_and, and_true]
  exact tabFree_ofList (by decide)

theorem isTabFree_otp (length : Nat) (hf : f.IsTabFree) (hb : binding.IsTabFree) :
    (otp length f binding).IsTabFree := by
  have hslots : AllTabFree ((List.range length).map fun i =>
      "<InputOTPSlot " ++ expression "index" (toString i) ++ " />") := by
    refine List.forall_mem_map.2 fun i _ => ?_
    simp only [tabFree_append, tabFree_expression, tabFree_digits, and_true]
    exact ⟨⟨tabFree_ofList (by decide), tabFree_ofList (by decide)⟩, tabFree_ofList (by decide)⟩
  refine isTabFree_plain (allTabFree_element (tabFree_ofList (by decide)) ?_
    (allTabFree_element (tabFree_ofList (by decide)) allTabFree_nil hslots)) ?_
  · simp only [allTabFree_append, allTabFree_cons, allTabFree_nil, tabFree_expression,
      tabFree_digits, tabFree_valueAs hb, tabFree_callbackAs hb, allTabFree_closingAttributes hf,
      and_true]
    exact ⟨tabFree_ofList (by decide), tabFree_ofList (by decide), tabFree_ofList (by decide)⟩
  · rw [map_name_importsFrom]
    simp only [allTabFree_cons, allTabFree_nil, and_true]
    exact ⟨tabFree_ofList (by decide), tabFree_ofList (by decide), tabFree_ofList (by decide)⟩

theorem isTabFree_signature {component : Import} (canvasRef : Bool) (hname : TabFree component.name)
    (hf : f.IsTabFree) (hb : binding.IsTabFree) :
    (signature component canvasRef f binding).IsTabFree := by
  have hcanvas : TabFree (canvasName f) := tabFree_append.2 ⟨hf.name, tabFree_ofList (by decide)⟩
  cases canvasRef with
  | true =>
    have hattributes : AllTabFree ([expression "canvasRef" (canvasName f),
        callbackAs "onSignatureChange" binding] ++ closingAttributes f) := by
      simp only [allTabFree_append, allTabFree_cons, allTabFree_nil, tabFree_expression, hcanvas,
        tabFree_callbackAs hb, allTabFree_closingAttributes hf, and_true]
      exact ⟨tabFree_ofList (by decide), tabFree_ofList (by decide)⟩
    have hsetup : TabFree ("const " ++ canvasName f ++ " = useRef<HTMLCanvasElement>(null);") := by
      simp only [tabFree_append, hcanvas, and_true]
      exact ⟨tabFree_ofList (by decide), tabFree_ofList (by decide)⟩
    exact { isTabFree_ofComponent hname hattributes with
      frameworkNames := allTabFree_cons.2 ⟨tabFree_ofList (by decide), allTabFree_nil⟩
      componentSetup := allTabFree_cons.2 ⟨hsetup, allTabFree_nil⟩ }
  | false =>
    refine isTabFree_ofComponent hname ?_
    simp only [allTabFree_append, allTabFree_cons, allTabFree_nil, tabFree_valueAs hb,
      tabFree_callbackAs hb, allTabFree_closingAttributes hf, and_true]
    exact ⟨tabFree_ofList (by decide), tabFree_ofList (by decide)⟩

/-! ### Choices -/

theorem allTabFree_select (hf : f.IsTabFree) (hb : binding.IsTabFree) :
    AllTabFree (select f binding) := by
  have hplaceholder : TabFree (placeholderOr f "Select an option") :=
    tabFree_placeholderOr hf (tabFree_ofList (by decide))
  have htrigger : AllTabFree (element "SelectTrigger" []
      ["<SelectValue " ++ placeholderOr f "Select an option" ++ " />"]) := by
    refine allTabFree_element (tabFree_ofList (by decide)) allTabFree_nil ?_
    simp only [allTabFree_cons, tabFree_append, hplaceholder, allTabFree_nil, and_true]
    exact ⟨tabFree_ofList (by decide), tabFree_ofList (by decide)⟩
  have hitem : AllTabFree (element "SelectItem" optionAttributes [anOption]) :=
    allTabFree_element (tabFree_ofList (by decide)) allTabFree_optionAttributes
      (allTabFree_cons.2 ⟨tabFree_anOption, allTabFree_nil⟩)
  have hcontent : AllTabFree (element "SelectContent" []
      (forOptions f (element "SelectItem" optionAttributes [anOption]))) :=
    allTabFree_element (tabFree_ofList (by decide)) allTabFree_nil (allTabFree_forOptions hf hitem)
  refine allTabFree_element (tabFree_ofList (by decide)) ?_
    (allTabFree_append.2 ⟨htrigger, hcontent⟩)
  simp only [allTabFree_append, allTabFree_cons, allTabFree_nil, tabFree_valueAs hb,
    tabFree_callbackAs hb, allTabFree_closingAttributes hf, and_true]
  exact ⟨tabFree_ofList (by decide), tabFree_ofList (by decide)⟩

theorem allTabFree_radio (hf : f.IsTabFree) (hb : binding.IsTabFree) :
    AllTabFree (radio f binding) := by
  have hitem : TabFree ("\"" ++ f.name ++ "-\" + option") := by
    simp only [tabFree_append, hf.name, and_true]
    exact ⟨tabFree_ofList (by decide), tabFree_ofList (by decide)⟩
  have hclass : TabFree (classOr f "flex flex-col space-y-1") :=
    tabFree_classOr hf (tabFree_ofList (by decide))
  refine allTabFree_element (tabFree_ofList (by decide)) ?_ (allTabFree_forOptions hf
    (allTabFree_element (tabFree_ofList (by decide)) ?_ ?_))
  · simp only [allTabFree_append, allTabFree_cons, allTabFree_nil, tabFree_valueAs hb,
      tabFree_callbackAs hb, hclass, allTabFree_disabledAttribute, and_true]
    exact ⟨tabFree_ofList (by decide), tabFree_ofList (by decide)⟩
  · simp only [allTabFree_cons, allTabFree_nil, tabFree_append, tabFree_anOption, and_true]
    exact ⟨tabFree_ofList (by decide), tabFree_ofList (by decide)⟩
  · simp only [allTabFree_cons, allTabFree_nil, tabFree_append, tabFree_expression,
      tabFree_anOption, hitem, and_true]
    and_intros
    all_goals exact tabFree_ofList (by decide)

theorem allTabFree_comboboxButton (f : Field) (hb : binding.IsTabFree) :
    AllTabFree (comboboxButton f binding) := by
  refine allTabFree_element (tabFree_ofList (by decide)) ?_ ?_
  · simp only [allTabFree_cons, allTabFree_nil, tabFree_expression, tabFree_append, hb.value,
      and_true]
    and_intros
    all_goals exact tabFree_ofList (by decide)
  · simp only [allTabFree_cons, allTabFree_nil, tabFree_braced, tabFree_append, hb.value,
      tabFree_textLiteral, true_and, and_true]
    exact ⟨tabFree_ofList (by decide), tabFree_ofList (by decide)⟩

theorem allTabFree_combobox (hf : f.IsTabFree) (hb : binding.IsTabFree) :
    AllTabFree (combobox f binding) := by
  have hselect : TabFree (changeFrom "" "option" binding) :=
    tabFree_changeFrom hb tabFree_empty (tabFree_ofList (by decide))
  have htrigger : AllTabFree (element "PopoverTrigger" ["asChild"] (comboboxButton f binding)) :=
    allTabFree_element (tabFree_ofList (by decide))
      (allTabFree_cons.2 ⟨tabFree_ofList (by decide), allTabFree_nil⟩)
      (allTabFree_comboboxButton f hb)
  refine allTabFree_element (tabFree_ofList (by decide)) allTabFree_nil
    (allTabFree_append.2 ⟨htrigger, allTabFree_element (tabFree_ofList (by decide))
      (allTabFree_cons.2 ⟨tabFree_ofList (by decide), allTabFree_nil⟩) ?_⟩)
  -- the command and its list each begin with a fixed line
  refine allTabFree_element (tabFree_ofList (by decide)) allTabFree_nil
    (allTabFree_cons.2 ⟨tabFree_ofList (by decide), ?_⟩)
  refine allTabFree_element (tabFree_ofList (by decide)) allTabFree_nil
    (allTabFree_cons.2 ⟨tabFree_ofList (by decide), ?_⟩)
  refine allTabFree_element (tabFree_ofList (by decide)) allTabFree_nil
    (allTabFree_forOptions hf (allTabFree_element (tabFree_ofList (by decide)) ?_
      (allTabFree_append.2 ⟨allTabFree_void (tabFree_ofList (by decide)) ?_,
        allTabFree_cons.2 ⟨tabFree_anOption, allTabFree_nil⟩⟩)))
  · simp only [allTabFree_cons, allTabFree_nil, tabFree_append, tabFree_expression,
      tabFree_anOption, hselect, and_true]
    and_intros
    all_goals exact tabFree_ofList (by decide)
  · simp only [allTabFree_cons, allTabFree_nil, tabFree_expression, tabFree_append, hb.value,
      and_true]
    and_intros
    all_goals exact tabFree_ofList (by decide)

theorem isTabFree_choice (style : ChoiceStyle) (fallback : List String) (hf : f.IsTabFree)
    (hb : binding.IsTabFree) : (choice style fallback f binding).IsTabFree := by
  have hsetup : AllTabFree [optionsLine f fallback] :=
    allTabFree_cons.2 ⟨tabFree_optionsLine hf fallback, allTabFree_nil⟩
  refine ⟨?_, ?_, ?_, hsetup, ?_⟩
  · cases style with
    | select => exact allTabFree_select hf hb
    | radio => exact allTabFree_radio hf hb
    | combobox => exact allTabFree_combobox hf hb
  · cases style
    all_goals
      simp only [choice, plain, selectImports, radioImports, comboboxImports, popoverImports,
        List.map_append, List.map_cons, map_name_importsFrom, List.map_nil, allTabFree_append,
        allTabFree_cons, allTabFree_nil, and_true]
      and_intros
      all_goals exact tabFree_ofList (by decide)
  · cases style <;> exact allTabFree_nil
  · cases style <;> exact allTabFree_nil

/-! ### Flags, numbers and lists -/

theorem isTabFree_toggle {component : Import} (hname : TabFree component.name) (hf : f.IsTabFree)
    (hb : binding.IsTabFree) : (toggle component f binding).IsTabFree := by
  refine isTabFree_ofComponent hname ?_
  simp only [allTabFree_append, allTabFree_cons, allTabFree_nil, allTabFree_idAttribute hb,
    tabFree_valueAs hb, tabFree_callbackAs hb, allTabFree_closingAttributes hf, true_and, and_true]
  exact ⟨tabFree_ofList (by decide), tabFree_ofList (by decide)⟩

theorem isTabFree_number (style : NumberStyle) (hf : f.IsTabFree) (hb : binding.IsTabFree) :
    (number style f binding).IsTabFree := by
  cases style with
  | rating =>
    have hmax : AllTabFree (f.max.map fun most => expression "max" most.literal).toList := by
      cases f.max with
      | none => exact allTabFree_nil
      | some most =>
        exact allTabFree_cons.2 ⟨tabFree_expression.2
          ⟨tabFree_ofList (by decide), most.tabFree_literal⟩, allTabFree_nil⟩
    refine isTabFree_ofComponent (tabFree_ofList (by decide)) ?_
    simp only [allTabFree_append, allTabFree_cons, allTabFree_nil, tabFree_valueAs hb,
      tabFree_callbackAs hb, hmax, allTabFree_closingAttributes hf, and_true]
    exact ⟨tabFree_ofList (by decide), tabFree_ofList (by decide)⟩
  | slider =>
    have hchange : TabFree (changeFrom "values" "values[0]" binding) :=
      tabFree_changeFrom hb (tabFree_ofList (by decide)) (tabFree_ofList (by decide))
    refine isTabFree_ofComponent (tabFree_ofList (by decide)) ?_
    simp only [allTabFree_append, allTabFree_cons, allTabFree_nil, boundOr, tabFree_expression,
      tabFree_append, Number.tabFree_literal, hb.value, hchange, allTabFree_closingAttributes hf,
      and_true]
    and_intros
    all_goals exact tabFree_ofList (by decide)

theorem allTabFree_multiSelect (hf : f.IsTabFree) (hb : binding.IsTabFree) :
    AllTabFree (multiSelect f binding) := by
  have hplaceholder : TabFree (placeholderOr f "Select options") :=
    tabFree_placeholderOr hf (tabFree_ofList (by decide))
  have hclass : TabFree (classOr f "max-w-xs") := tabFree_classOr hf (tabFree_ofList (by decide))
  have hitem : AllTabFree (element "MultiSelectorItem" optionAttributes [anOption]) :=
    allTabFree_element (tabFree_ofList (by decide)) allTabFree_optionAttributes
      (allTabFree_cons.2 ⟨tabFree_anOption, allTabFree_nil⟩)
  refine allTabFree_element (tabFree_ofList (by decide)) ?_ (allTabFree_append.2
    ⟨allTabFree_element (tabFree_ofList (by decide)) allTabFree_nil ?_,
      allTabFree_element (tabFree_ofList (by decide)) allTabFree_nil
        (allTabFree_element (tabFree_ofList (by decide)) allTabFree_nil
          (allTabFree_forOptions hf hitem))⟩)
  · simp only [allTabFree_cons, allTabFree_nil, tabFree_valueAs hb, tabFree_callbackAs hb, hclass,
      and_true]
    exact ⟨tabFree_ofList (by decide), tabFree_ofList (by decide), tabFree_ofList (by decide)⟩
  · simp only [allTabFree_cons, allTabFree_nil, tabFree_append, hplaceholder, and_true]
    exact ⟨tabFree_ofList (by decide), tabFree_ofList (by decide)⟩

theorem allTabFree_location (hb : binding.IsTabFree) : AllTabFree (location binding) := by
  have hstate : TabFree ("[" ++ binding.value ++ "?.[0] || \"\", state?.name || \"\"]") := by
    simp only [tabFree_append, hb.value, and_true]
    exact ⟨tabFree_ofList (by decide), tabFree_ofList (by decide)⟩
  refine allTabFree_void (tabFree_ofList (by decide)) ?_
  simp only [allTabFree_cons, allTabFree_nil, tabFree_expression, and_true]
  exact ⟨⟨tabFree_ofList (by decide), tabFree_changeFrom hb (tabFree_ofList (by decide))
    (tabFree_ofList (by decide))⟩, tabFree_ofList (by decide),
    tabFree_changeFrom hb (tabFree_ofList (by decide)) hstate⟩

theorem isTabFree_list (style : ListStyle) (fallback : List String) (hf : f.IsTabFree)
    (hb : binding.IsTabFree) : (list style fallback f binding).IsTabFree := by
  cases style with
  | multiSelect =>
    refine ⟨allTabFree_multiSelect hf hb, ?_, allTabFree_nil,
      allTabFree_cons.2 ⟨tabFree_optionsLine hf fallback, allTabFree_nil⟩, allTabFree_nil⟩
    simp only [list, plain, map_name_importsFrom, allTabFree_cons, allTabFree_nil, and_true]
    and_intros
    all_goals exact tabFree_ofList (by decide)
  | tags =>
    have hplaceholder : TabFree (placeholderOr f "Enter your tags") :=
      tabFree_placeholderOr hf (tabFree_ofList (by decide))
    refine isTabFree_ofComponent (tabFree_ofList (by decide)) ?_
    simp only [allTabFree_append, allTabFree_cons, allTabFree_nil, tabFree_valueAs hb,
      tabFree_callbackAs hb, hplaceholder, allTabFree_closingAttributes hf, and_true]
    exact ⟨tabFree_ofList (by decide), tabFree_ofList (by decide)⟩
  | file =>
    refine isTabFree_ofComponent (tabFree_ofList (by decide)) ?_
    simp only [allTabFree_append, allTabFree_cons, allTabFree_nil, tabFree_valueAs hb,
      tabFree_callbackAs hb, tabFree_expression, fileLimits, tabFree_braced,
      allTabFree_closingAttributes hf, and_true]
    and_intros
    all_goals exact tabFree_ofList (by decide)
  | location =>
    exact isTabFree_plain (allTabFree_location hb)
      (allTabFree_cons.2 ⟨tabFree_ofList (by decide), allTabFree_nil⟩)

/-! ### Dates -/

theorem allTabFree_dateButton (hb : binding.IsTabFree) : AllTabFree (dateButton binding) := by
  refine allTabFree_element (tabFree_ofList (by decide)) ?_ ?_
  · simp only [allTabFree_cons, allTabFree_nil, tabFree_expression, tabFree_append, hb.value,
      and_true]
    and_intros
    all_goals exact tabFree_ofList (by decide)
  · simp only [allTabFree_cons, allTabFree_nil, tabFree_braced, tabFree_append, hb.value, true_and,
      and_true]
    and_intros
    all_goals exact tabFree_ofList (by decide)

theorem isTabFree_calendar (hb : binding.IsTabFree) : (calendar binding).IsTabFree := by
  refine isTabFree_plain (allTabFree_element (tabFree_ofList (by decide)) allTabFree_nil
    (allTabFree_append.2
      ⟨allTabFree_element (tabFree_ofList (by decide)) ?_ (allTabFree_dateButton hb),
        allTabFree_element (tabFree_ofList (by decide)) ?_
          (allTabFree_void (tabFree_ofList (by decide)) ?_)⟩)) ?_
  · exact allTabFree_cons.2 ⟨tabFree_ofList (by decide), allTabFree_nil⟩
  · simp only [allTabFree_cons, allTabFree_nil, and_true]
    exact ⟨tabFree_ofList (by decide), tabFree_ofList (by decide)⟩
  · simp only [allTabFree_cons, allTabFree_nil, tabFree_expression, tabFree_asDate hb,
      tabFree_dateChange hb, and_true]
    and_intros
    all_goals exact tabFree_ofList (by decide)
  · simp only [popoverImports, List.cons_append, List.map_append, List.map_cons, List.map_nil,
      map_name_importsFrom, allTabFree_append, allTabFree_cons, allTabFree_nil, true_and, and_true]
    and_intros
    all_goals exact tabFree_ofList (by decide)

theorem isTabFree_date (style : DateStyle) (hf : f.IsTabFree) (hb : binding.IsTabFree) :
    (date style f binding).IsTabFree := by
  cases style with
  | date => exact isTabFree_calendar hb
  | datetime =>
    have hunits : TabFree (timeUnits f) := by
      unfold timeUnits
      split <;> exact tabFree_ofList (by decide)
    refine isTabFree_ofComponent (tabFree_ofList (by decide)) ?_
    simp only [allTabFree_append, allTabFree_cons, allTabFree_nil, tabFree_expression,
      tabFree_append, tabFree_asDate hb, tabFree_dateChange hb, hunits,
      allTabFree_closingAttributes hf, and_true]
    and_intros
    all_goals exact tabFree_ofList (by decide)
  | smart =>
    have hplaceholder : TabFree (placeholderOr f "e.g. Tomorrow morning 9am") :=
      tabFree_placeholderOr hf (tabFree_ofList (by decide))
    have hlocale : AllTabFree ((Field.given? f.locale).map (textAttribute "locale")).toList :=
      allTabFree_map_textAttribute (tabFree_ofList (by decide)) hf.locale
    have hhalf : AllTabFree (f.hour12.map fun half =>
        expression "hour12" (if half then "true" else "false")).toList := by
      cases f.hour12 with
      | none => exact allTabFree_nil
      | some half =>
        refine allTabFree_cons.2 ⟨tabFree_expression.2 ⟨tabFree_ofList (by decide), ?_⟩,
          allTabFree_nil⟩
        split <;> exact tabFree_ofList (by decide)
    refine isTabFree_ofComponent (tabFree_ofList (by decide)) ?_
    simp only [allTabFree_append, allTabFree_cons, allTabFree_nil, tabFree_expression,
      tabFree_asDate hb, tabFree_dateChange hb, hplaceholder, hlocale, hhalf,
      allTabFree_closingAttributes hf, and_true]
    exact ⟨tabFree_ofList (by decide), tabFree_ofList (by decide)⟩

end Controls

end Snippet

/-- **The code of a control** has no tabs if the raw texts of the field have none. -/
theorem Handler.isTabFree_snippet {handler : Handler} {f : Field} {binding : Binding}
    {snippet : Snippet} (h : handler.snippet? f binding = some snippet)
    (hhandler : handler.IsTabFree) (hf : f.IsTabFree) (hb : binding.IsTabFree) :
    snippet.IsTabFree := by
  cases handler with
  | text inputType component pattern =>
    cases h
    exact Snippet.isTabFree_text hhandler.1 hhandler.2 hf hb
  | textarea =>
    cases h
    exact Snippet.isTabFree_textarea hf hb
  | otp length =>
    cases h
    exact Snippet.isTabFree_otp length hf hb
  | signature component canvasRef =>
    cases h
    exact Snippet.isTabFree_signature canvasRef hhandler hf hb
  | choice style fallback =>
    cases h
    exact Snippet.isTabFree_choice style fallback hf hb
  | toggle component agreement =>
    cases h
    exact Snippet.isTabFree_toggle hhandler hf hb
  | number style =>
    cases h
    exact Snippet.isTabFree_number style hf hb
  | list style most fallback =>
    cases h
    exact Snippet.isTabFree_list style fallback hf hb
  | date style =>
    cases h
    exact Snippet.isTabFree_date style hf hb
  | bare => cases h

theorem Handler.isTabFree_builtin : ∀ entry ∈ builtin, entry.2.IsTabFree := by
  simp only [builtin, List.forall_mem_cons, IsTabFree, inputComponent, true_and]
  and_intros
  all_goals first
    | exact tabFree_ofList (by decide)
    | exact List.forall_mem_nil _

end FormStudio
