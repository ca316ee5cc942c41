import Mathlib.Data.List.TakeWhile
import FormStudio.Proofs.Code.Blocks
import FormStudio.Proofs.Code.Imports

/-!
# What a generated form binds

A source imports what every form does and what its controls do, each name once and from one
statement for each module (`Form.ImportsOnce`); the statements depend on which variants its fields
have, and on nothing else of them. It declares a constant for each choice, which is named for the
field, the validator, and in the component a reference for each canvas. A declaration binds the
identifier that the line goes on with (`Script.declared?`). That is the name that was meant unless
the name of the field ends in a line break (`Script.key_append_eq_iff`), and only then may two
bindings be one (`Form.source_bindsOnce`).
-/
namespace FormStudio

/-! ## Declarations -/

namespace Script

/-- The word that a line goes on with behind an opening. -/
def wordAfter? (opening line : String) : Option String :=
  (opening.toList.isPrefixOf? line.toList).map fun rest => key (String.ofList rest)

/-- The identifier that a line at the outer level declares: a constant, or the component. -/
def declared? (line : String) : Option String :=
  (wordAfter? "const " line).or (wordAfter? "export default function " line)

variable {name suffix word line : String}

theorem wordAfter?_append (opening word rest : String) :
    wordAfter? opening (opening ++ word ++ " = " ++ rest) = some (key word) := by
  have hline : opening.toList.isPrefixOf? (opening ++ word ++ " = " ++ rest).toList =
      some (word.toList ++ ' ' :: ("= " ++ rest).toList) := by
    refine List.isPrefixOf?_eq_some_iff_append_eq.2 ?_
    simp
  have hword : (word.toList ++ ' ' :: ("= " ++ rest).toList).takeWhile isNameChar =
      word.toList.takeWhile isNameChar := by
    rw [List.takeWhile_append]
    split
    · next hall =>
      rw [List.takeWhile_cons_of_neg (by decide), List.append_nil]
      exact ((List.takeWhile_prefix _).eq_of_length hall).symm
    · rfl
  rw [wordAfter?, hline, Option.map_some, key, String.toList_ofList, hword, key]

/-- A constant is bound to what the word in front of the sign is read as. -/
theorem declared?_constant (word rest : String) :
    declared? ("const " ++ word ++ " = " ++ rest) = some (key word) := by
  rw [declared?, wordAfter?_append, Option.some_or]

theorem wordAfter?_eq_none {opening : String} {c : Char} (hopening : opening.toList.head? = some c)
    (h : line.toList.head? ≠ some c) : wordAfter? opening line = none := by
  obtain ⟨more, hmore⟩ := List.head?_eq_some_iff.1 hopening
  rw [wordAfter?, hmore]
  cases hline : line.toList with
  | nil => rfl
  | cons d rest =>
    have hne : c ≠ d := by
      rintro rfl
      exact h (by rw [hline]; rfl)
    simp [List.isPrefixOf?, hne]

/-- A line that begins otherwise declares nothing. -/
theorem declared?_eq_none (hconst : line.toList.head? ≠ some 'c')
    (hexport : line.toList.head? ≠ some 'e') : declared? line = none := by
  rw [declared?, wordAfter?_eq_none (by decide) hconst, wordAfter?_eq_none (by decide) hexport]
  rfl

theorem key_eq_self : key word = word ↔ ∀ c ∈ word.toList, isNameChar c = true := by
  rw [key, ← String.toList_inj, String.toList_ofList, List.takeWhile_eq_self_iff]

/-- **A name with a suffix is one identifier**, unless the name ends in a line break. -/
theorem key_append_eq_iff (h : isFieldName name = true)
    (hsuffix : suffix.toList.all isNameChar = true) :
    key (name ++ suffix) = name ++ suffix ↔ name.toList.getLast? ≠ some '\n' := by
  rw [key_eq_self, String.toList_append, List.forall_mem_append, ← key_eq_self,
    key_eq_self_iff h]
  exact and_iff_left (List.all_eq_true.1 hsuffix)

end Script

/-! ## The lines of a component -/

namespace Component

open Outline Script

variable {component : Component}

/-- A statement that imports declares nothing besides. -/
theorem declared_lines (group : ImportGroup) : group.lines.filterMap declared? = [] := by
  refine List.filterMap_eq_nil_iff.2 fun line hline => ?_
  unfold ImportGroup.lines at hline
  dsimp only at hline
  split at hline
  · obtain rfl := List.mem_singleton.1 hline
    exact declared?_eq_none (by simp) (by simp)
  · simp only [List.mem_append, List.mem_singleton, List.mem_map] at hline
    rcases hline with (rfl | ⟨name, -, rfl⟩) | rfl
    · exact declared?_eq_none (by decide) (by decide)
    · exact declared?_eq_none (by simp) (by simp)
    · exact declared?_eq_none (by simp) (by simp)

theorem declared_imports (groups : List ImportGroup) :
    (groups.flatMap ImportGroup.lines).filterMap declared? = [] := by
  rw [List.filterMap_flatMap, List.flatMap_eq_nil_iff]
  exact fun group _ => declared_lines group

theorem declared_spaced (texts : List String) :
    (spaced texts).filterMap declared? = texts.filterMap declared? := by
  have hempty : [""].filterMap declared? = [] := by decide
  cases texts with
  | nil => rfl
  | cons text rest =>
    show (text :: rest ++ [""]).filterMap declared? = _
    rw [List.filterMap_append, hempty, List.append_nil]

theorem declared_atDepth (depth : Nat) (texts : List String) :
    (atDepth standardUnit (depth + 1) texts).filterMap declared? = [] := by
  refine List.filterMap_eq_nil_iff.2 fun line hline => ?_
  obtain ⟨text, -, rfl⟩ := List.mem_map.1 hline
  unfold lineText
  split
  · decide
  · have hhead : (String.join (List.replicate (depth + 1) standardUnit) ++ text).toList.head? =
        some ' ' := by
      rw [List.replicate_succ]
      simp [standardUnit, String.join_cons]
    exact declared?_eq_none (by rw [hhead]; decide) (by rw [hhead]; decide)

/-- Within the component nothing is declared at the outer level. -/
theorem declared_functionLines : component.functionLines.filterMap declared? = ["MyForm"] := by
  have hopening : declared? "export default function MyForm() \x7b" = some "MyForm" := by
    decide +kernel
  have hempty : declared? "" = none := by decide
  have hreturn : declared? "  return (" = none := declared?_eq_none (by decide) (by decide)
  have hend : declared? "  );" = none := declared?_eq_none (by decide) (by decide)
  have hclosing : declared? "\x7d" = none := declared?_eq_none (by decide) (by decide)
  simp only [functionLines, List.filterMap_cons, List.filterMap_append, List.filterMap_nil,
    declared_atDepth, hopening, hempty, hreturn, hend, hclosing, List.append_nil]

end Component

theorem ZodObject.declared_lines (object : ZodObject) (constant : String) :
    (object.lines constant).filterMap Script.declared? = [Script.key constant] := by
  have hopening : ∀ ending, Script.declared? ("const " ++ constant ++ " = z.object(" ++ ending) =
      some (Script.key constant) := by
    intro ending
    have hsign : " = z.object(" = " = " ++ "z.object(" := by decide
    have hline : "const " ++ constant ++ " = z.object(" ++ ending =
        "const " ++ constant ++ " = " ++ ("z.object(" ++ ending) := by
      simp only [hsign, String.append_assoc]
    rw [hline, Script.declared?_constant]
  have hclosing : Script.declared? "\x7d);" = none :=
    Script.declared?_eq_none (by decide) (by decide)
  cases object with
  | nil =>
    show [_].filterMap Script.declared? = _
    rw [List.filterMap_cons, hopening]
    rfl
  | cons entry rest =>
    have hentries : ((entry :: rest).map fun entry : String × Zod =>
        "  " ++ entry.1 ++ ": " ++ entry.2.text ++ ",").filterMap Script.declared? = [] := by
      refine List.filterMap_eq_nil_iff.2 (List.forall_mem_map.2 fun entry _ => ?_)
      exact Script.declared?_eq_none (by simp) (by simp)
    show ([_] ++ _ ++ [_]).filterMap Script.declared? = _
    rw [List.filterMap_append, List.filterMap_append, hentries, List.append_nil,
      List.filterMap_cons, hopening, List.filterMap_cons, hclosing]
    rfl

/-! ## Fields that declare something -/

namespace Handler

/-- The options to fall back on, where a control offers options. -/
def fallback? : Handler → Option (List String)
  | .choice _ fallback => some fallback
  | .list .multiSelect _ fallback => some fallback
  | _ => none

/-- Whether a control draws on a canvas that the component has to know. -/
def hasCanvas : Handler → Bool
  | .signature _ canvasRef => canvasRef
  | _ => false

end Handler

/-- The line that declares the canvas of a field. -/
def Snippet.canvasLine (f : Field) : String :=
  "const " ++ canvasName f ++ " = useRef<HTMLCanvasElement>(null);"

namespace Field

variable {variants : VariantTable} {wiring : Wiring} {f : Field}

/-- Whether a field is a choice between options. -/
def isChoice (variants : VariantTable) (f : Field) : Bool :=
  (variants.get? f.variant).any fun handler => handler.fallback?.isSome

/-- Whether a field has a canvas. -/
def hasCanvas (variants : VariantTable) (f : Field) : Bool :=
  (variants.get? f.variant).any Handler.hasCanvas

/-- The line that declares the options of a field. -/
def optionsLine (variants : VariantTable) (f : Field) : String :=
  Snippet.optionsLine f (((variants.get? f.variant).bind Handler.fallback?).getD [])

/-- What a field sets up: its options in front of the component if it is a choice, and a canvas at
the start of the component if it is drawn on. -/
theorem setup_snippet? :
    ((f.snippet? variants wiring).elim [] Snippet.moduleSetup =
        if f.isChoice variants then [f.optionsLine variants] else []) ∧
      (f.snippet? variants wiring).elim [] Snippet.componentSetup =
        if f.hasCanvas variants then [Snippet.canvasLine f] else [] := by
  unfold snippet? isChoice optionsLine hasCanvas
  cases variants.get? f.variant with
  | none => exact ⟨rfl, rfl⟩
  | some handler =>
    cases handler with
    | signature _ canvasRef => cases canvasRef <;> exact ⟨rfl, rfl⟩
    | choice style => cases style <;> exact ⟨rfl, rfl⟩
    | number style => cases style <;> exact ⟨rfl, rfl⟩
    | list style => cases style <;> exact ⟨rfl, rfl⟩
    | date style => cases style <;> exact ⟨rfl, rfl⟩
    | _ => exact ⟨rfl, rfl⟩

end Field

theorem Snippet.suffix_optionsName (f : Field) :
    "Options".toList <:+ (optionsName f).toList := by
  rw [optionsName, String.toList_append]
  exact List.suffix_append _ _

theorem Field.declared?_optionsLine (variants : VariantTable) (f : Field) :
    Script.declared? (f.optionsLine variants) = some (Script.key (Snippet.optionsName f)) := by
  unfold optionsLine Snippet.optionsLine
  rw [String.append_assoc, Script.declared?_constant]

theorem Snippet.declared?_canvasLine (f : Field) :
    Script.declared? (canvasLine f) = some (Script.key (canvasName f)) := by
  have hline : canvasLine f =
      "const " ++ canvasName f ++ " = " ++ "useRef<HTMLCanvasElement>(null);" := by
    rw [String.append_assoc]
    rfl
  rw [hline, Script.declared?_constant]

/-- The lines that come of items one by one, where an item has one line or none. -/
theorem flatMap_filterMap_eq_map_filter {α β γ : Type} {g : α → Option β} {h : β → List γ}
    {p : α → Bool} {k : α → γ} (heq : ∀ a, (g a).elim [] h = if p a then [k a] else [])
    (items : List α) : (items.filterMap g).flatMap h = (items.filter p).map k := by
  induction items with
  | nil => rfl
  | cons a rest ih =>
    have ha := heq a
    cases hg : g a with
    | none =>
      rw [hg, Option.elim_none] at ha
      rw [List.filterMap_cons_none hg, ih]
      cases hp : p a with
      | true => simp [hp] at ha
      | false => rw [List.filter_cons_of_neg (by simp [hp])]
    | some b =>
      rw [hg, Option.elim_some] at ha
      rw [List.filterMap_cons_some hg, List.flatMap_cons, ih, ha]
      cases hp : p a <;> simp [hp]

namespace Form

variable {variants : VariantTable} {library : Library} {form : Form} {component : Component}

/-- The choices of a form. -/
def choices (variants : VariantTable) (form : Form) : List Field :=
  form.fields.filter fun f => f.isChoice variants

/-- The fields of a form that have a canvas. -/
def canvases (variants : VariantTable) (form : Form) : List Field :=
  form.fields.filter fun f => f.hasCanvas variants

theorem moduleSetup_of_component (h : form.component variants library = .ok component) :
    component.moduleSetup = (form.choices variants).map fun f => f.optionsLine variants := by
  obtain ⟨validator, -, heq⟩ := bind_eq_ok_iff.1 h
  cases heq
  exact flatMap_filterMap_eq_map_filter (fun f => Field.setup_snippet?.1) form.fields

theorem componentSetup_of_component (h : form.component variants library = .ok component) :
    component.componentSetup = (form.canvases variants).map Snippet.canvasLine := by
  obtain ⟨validator, -, heq⟩ := bind_eq_ok_iff.1 h
  cases heq
  exact flatMap_filterMap_eq_map_filter (fun f => Field.setup_snippet?.2) form.fields

theorem declared_validator (h : form.component variants library = .ok component) :
    component.validator.filterMap Script.declared? = [Spec.standardConstant] := by
  have hkey : Script.key Spec.standardConstant = Spec.standardConstant := by decide
  obtain ⟨validator, hvalidator, heq⟩ := bind_eq_ok_iff.1 h
  cases heq
  obtain ⟨object, -, rfl⟩ := Spec.declaration_eq_ok_iff.1 hvalidator
  rw [object.declared_lines, hkey]

theorem filterMap_declared {line name : Field → String}
    (h : ∀ f, Script.declared? (line f) = some (name f)) (fields : List Field) :
    (fields.map line).filterMap Script.declared? = fields.map name := by
  rw [List.filterMap_map, ← List.filterMap_eq_map]
  exact List.filterMap_congr fun f _ => h f

/-- **What is declared at the outer level**: the options of each choice, the validator and the
component. -/
theorem declared_of_component (h : form.component variants library = .ok component) :
    component.lines.filterMap Script.declared? =
      ((form.choices variants).map fun f => Script.key (Snippet.optionsName f)) ++
        [Spec.standardConstant, "MyForm"] := by
  have hoptions := filterMap_declared (Field.declared?_optionsLine variants) (form.choices variants)
  have hdirective : Script.declared? "\"use client\";" = none :=
    Script.declared?_eq_none (by decide) (by decide)
  have hempty : Script.declared? "" = none := by decide
  rw [← moduleSetup_of_component h] at hoptions
  simp only [Component.lines, List.filterMap_append, List.filterMap_cons, List.filterMap_nil,
    Component.declared_imports, Component.declared_spaced, Component.declared_functionLines,
    hoptions, declared_validator h, hdirective, hempty, List.append_nil]
  simp

/-- What is declared at the start of the component: the canvases. -/
theorem declared_componentSetup (h : form.component variants library = .ok component) :
    component.componentSetup.filterMap Script.declared? =
      (form.canvases variants).map fun f => Script.key (Snippet.canvasName f) := by
  rw [componentSetup_of_component h]
  exact filterMap_declared Snippet.declared?_canvasLine _

end Form

/-! ## Bindings -/

/-- What is bound at the outer level of a source: what is imported, and what is declared. -/
def Component.bindings (component : Component) : List String :=
  component.imports.flatMap ImportGroup.names ++ component.lines.filterMap Script.declared?

/-- What is bound at the start of a component. -/
def Component.references (component : Component) : List String :=
  component.componentSetup.filterMap Script.declared?

/-- Whether a name is one that a form gives to something of its own. -/
def Script.IsOwn (name : String) : Prop :=
  "Options".toList <:+ name.toList ∨ name = Spec.standardConstant ∨ name = "MyForm"

instance (name : String) : Decidable (Script.IsOwn name) := inferInstanceAs (Decidable (_ ∨ _))

theorem Library.not_isOwn (library : Library) :
    ∀ item ∈ library.wiring.baseImports ++ Handler.samples.flatMap Snippet.allImports,
      ¬ Script.IsOwn item.name := by
  cases library <;> decide +kernel

namespace Form

variable {variants : VariantTable} {library : Library} {form : Form} {component : Component}

/-- What is bound in the source of a form. -/
structure BindsOnce (variants : VariantTable) (form : Form) (component : Component) : Prop where
  /-- Besides what is imported there is a constant for each choice, named as the line is read. -/
  bindings : component.bindings = component.imports.flatMap ImportGroup.names ++
    (((form.choices variants).map fun f => Script.key (Snippet.optionsName f)) ++
      [Spec.standardConstant, "MyForm"])
  references : component.references =
    (form.canvases variants).map fun f => Script.key (Snippet.canvasName f)
  /-- The names that are meant differ. -/
  names : ((form.choices variants).map Snippet.optionsName).Nodup ∧
    ((form.canvases variants).map Snippet.canvasName).Nodup
  /-- Constants have the names that are meant, and differ from all else, where names do not end in
  a line break. -/
  bound_iff : ((∀ f ∈ form.choices variants,
      Script.key (Snippet.optionsName f) = Snippet.optionsName f) ∧ component.bindings.Nodup) ↔
    ∀ f ∈ form.choices variants, f.name.toList.getLast? ≠ some '\n'
  drawn_iff : ((∀ f ∈ form.canvases variants,
      Script.key (Snippet.canvasName f) = Snippet.canvasName f) ∧ component.references.Nodup) ↔
    ∀ f ∈ form.canvases variants, f.name.toList.getLast? ≠ some '\n'

theorem nodup_names_append (hnames : form.names.Nodup) (p : Field → Bool) (suffix : String) :
    ((form.fields.filter p).map fun f => f.name ++ suffix).Nodup := by
  have hsome : ((form.fields.filter p).map Field.name).Nodup :=
    hnames.sublist (List.filter_sublist.map Field.name)
  have hinjective : Function.Injective (· ++ suffix) := fun _ _ => (String.append_left_inj _).1
  have happend := hsome.map hinjective
  rwa [List.map_map] at happend

theorem isOwn_of_mem_declared {name : String}
    (h : name ∈ (form.choices variants).map Snippet.optionsName ++
      [Spec.standardConstant, "MyForm"]) : Script.IsOwn name := by
  rcases List.mem_append.1 h with h | h
  · obtain ⟨f, -, rfl⟩ := List.mem_map.1 h
    exact .inl (Snippet.suffix_optionsName f)
  · simpa [Script.IsOwn] using Or.inr h

/-- The names that are meant for constants differ from each other and from the others that are
declared. -/
theorem nodup_declared (hnames : form.names.Nodup) :
    ((form.choices variants).map Snippet.optionsName ++
      [Spec.standardConstant, "MyForm"]).Nodup := by
  refine List.nodup_append'.2 ⟨nodup_names_append hnames _ "Options", by decide, ?_⟩
  intro name hoptions hother
  obtain ⟨f, -, rfl⟩ := List.mem_map.1 hoptions
  have hnone : ∀ other ∈ [Spec.standardConstant, "MyForm"],
      ¬ "Options".toList <:+ other.toList := by
    decide
  exact hnone _ hother (Snippet.suffix_optionsName f)

/-- What is imported has no name that a form gives to something of its own. -/
theorem not_isOwn_of_mem_imports (h : form.component Handler.builtin library = .ok component)
    {name : String} (hname : name ∈ component.imports.flatMap ImportGroup.names) :
    ¬ Script.IsOwn name := by
  obtain ⟨group, hgroup, hname⟩ := List.mem_flatMap.1 hname
  rw [imports_of_component h] at hgroup
  have hholds : ImportGroup.Holds (Component.importsOf library.wiring (form.controls library))
      ⟨group.source, name⟩ := ⟨group, hgroup, rfl, hname⟩
  exact library.not_isOwn _ (areCovered_controls.mem_allImports library hholds)

theorem bindsOnce_of_component (hnames : form.names.Nodup)
    (hread : ∀ f ∈ form.fields, isFieldName f.name = true)
    (h : form.component Handler.builtin library = .ok component) :
    form.BindsOnce Handler.builtin component := by
  have hmeant : ∀ {p : Field → Bool} {suffix : String},
      suffix.toList.all isNameChar = true → ∀ f ∈ form.fields.filter p,
        (Script.key (f.name ++ suffix) = f.name ++ suffix ↔
          f.name.toList.getLast? ≠ some '\n') :=
    fun hsuffix f hf => Script.key_append_eq_iff (hread f (List.mem_filter.1 hf).1) hsuffix
  have hdeclared := declared_of_component h
  have hdrawn := declared_componentSetup h
  refine {
    bindings := congrArg _ hdeclared
    references := hdrawn
    names := ⟨nodup_names_append hnames _ _, nodup_names_append hnames _ _⟩
    bound_iff := ⟨fun hbound f hf => ?_, fun hends => ?_⟩
    drawn_iff := ⟨fun hbound f hf => ?_, fun hends => ?_⟩ }
  · exact (hmeant (by decide) f hf).1 (hbound.1 f hf)
  · have hkeys : ∀ f ∈ form.choices Handler.builtin,
        Script.key (Snippet.optionsName f) = Snippet.optionsName f :=
      fun f hf => (hmeant (by decide) f hf).2 (hends f hf)
    refine ⟨hkeys, ?_⟩
    rw [Component.bindings, hdeclared, List.map_congr_left hkeys]
    refine List.nodup_append'.2 ⟨(importsOnce_of_component h).once.names, nodup_declared hnames, ?_⟩
    exact fun name himported hown =>
      not_isOwn_of_mem_imports h himported (isOwn_of_mem_declared hown)
  · exact (hmeant (by decide) f hf).1 (hbound.1 f hf)
  · have hkeys : ∀ f ∈ form.canvases Handler.builtin,
        Script.key (Snippet.canvasName f) = Snippet.canvasName f :=
      fun f hf => (hmeant (by decide) f hf).2 (hends f hf)
    refine ⟨hkeys, ?_⟩
    rw [Component.references, hdrawn, List.map_congr_left hkeys]
    exact nodup_names_append hnames _ _

/-- **A source binds each name once**, and imports what its controls need. It does so for every form
that is imported and every library, up to names of choices and canvases that end in a line break:
the line breaks off there, and declares something else. -/
theorem source_bindsOnce {text code : String} (himport : ofText text = .ok form)
    (hsource : form.source Handler.builtin library = .ok code) :
    ∃ component, form.IsWrittenFrom Handler.builtin library component code ∧
      form.ImportsOnce library component ∧ form.BindsOnce Handler.builtin component := by
  have hnames := names_nodup_of_ofText himport
  obtain ⟨component, hcomponent, hcode⟩ := bind_eq_ok_iff.1 hsource
  obtain rfl : component.source = code := Except.ok.inj hcode
  exact ⟨component, isWrittenFrom_of_component hnames hcomponent,
    importsOnce_of_component hcomponent,
    bindsOnce_of_component hnames (isFieldName_of_ofText himport) hcomponent⟩

/-- The options of a choice named `z` and a line break take the name of the validator's library. -/
theorem source_bindsOnce_of_line_break :
    let chosen : Field := { Field.named "z\n" with variant := "Select" }
    let form : Form := [.field chosen]
    ∃ component code, form.source Handler.builtin .bringYourOwn = .ok code ∧
      form.IsWrittenFrom Handler.builtin .bringYourOwn component code ∧
        form.ImportsOnce .bringYourOwn component ∧ form.BindsOnce Handler.builtin component ∧
          ¬ component.bindings.Nodup := by
  intro chosen form
  have himport : ofText "[\x7b\"variant\":\"Select\",\"name\":\"z\\n\"\x7d]" = .ok form :=
    toOption_eq_some_iff.1 (by decide +kernel)
  have hsource : Succeeds (form.source Handler.builtin .bringYourOwn) := by
    refine succeeds_source_iff.2 fun f hf => Field.hasShowableBounds_rule ?_
    simp only [form, fields_cons_field, fields_nil] at hf
    cases List.mem_singleton.1 hf
    decide
  obtain ⟨code, hcode⟩ := hsource
  obtain ⟨component, hwritten, himports, hbinds⟩ := source_bindsOnce himport hcode
  refine ⟨component, code, hcode, hwritten, himports, hbinds, fun hnodup => ?_⟩
  rw [hbinds.bindings] at hnodup
  have himported : "z" ∈ component.imports.flatMap ImportGroup.names := by
    obtain ⟨group, hgroup, -, hname⟩ := (himports.holds_iff ⟨"zod", "z"⟩).2 (.inl (by decide))
    exact List.mem_flatMap.2 ⟨group, hgroup, hname⟩
  have hdeclared : "z" ∈ ((form.choices Handler.builtin).map fun f =>
      Script.key (Snippet.optionsName f)) ++ [Spec.standardConstant, "MyForm"] := by
    decide +kernel
  exact (List.nodup_append'.1 hnodup).2.2 himported hdeclared

end Form

end FormStudio
