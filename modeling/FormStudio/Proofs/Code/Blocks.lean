import FormStudio.Proofs.Code.Declaration
import FormStudio.Proofs.Code.Outline

/-!
# The blocks of a generated form

The validator and the values to start with have an entry for each field, and the markup of a form is
a block for each item. The code of the controls is kept in a table under the names of the fields and
looked up there again (`Form.snippets`); as names are distinct, a field finds its own
(`Field.blockFrom_eq`). So its block depends on the field and the library alone, whatever the other
fields are (`Form.source_isLocal`).
-/
namespace FormStudio

/-! ## Code kept by name -/

namespace Form

/-- The code of the controls of a form, under the names of the fields. -/
def snippets (variants : VariantTable) (wiring : Wiring) (form : Form) : Table (Option Snippet) :=
  Table.ofPairs (form.fields.map fun f => (f.name, f.snippet? variants wiring))

end Form

/-- The block of a field, with the code of its control looked up by name. -/
def Field.blockFrom (snippets : Table (Option Snippet)) (wiring : Wiring) (f : Field) :
    List String :=
  match (snippets.get? f.name).join with
  | some snippet => wiring.block f snippet.markup
  | none => Form.placeholder f

/-- The columns of each member of a group. -/
def groupColumns : Nat → Nat
  | 2 => 6
  | 3 => 4
  | _ => 12

/-- The block of an item: of a field its own, of a group a row with a column for each member. -/
def Item.blockFrom (snippets : Table (Option Snippet)) (wiring : Wiring) : Item → List String
  | .field f => f.blockFrom snippets wiring
  | .group members =>
    Markup.element "div" ["className=\"grid grid-cols-12 gap-4\""]
      (members.flatMap fun f =>
        Markup.element "div" [s!"className=\"col-span-{groupColumns members.length}\""]
          (f.blockFrom snippets wiring))

theorem columnSpan_eq (members : Nat) : columnSpan members = groupColumns members := by
  match members with
  | 0 | 1 | 2 | 3 => rfl
  | n + 4 =>
    have htwo : (n + 4 : Nat) ≠ (2 : Int) := by omega
    have hthree : (n + 4 : Nat) ≠ (3 : Int) := by omega
    rw [columnSpan, if_neg htwo, if_neg hthree]
    rfl

section Lookup

variable {variants : VariantTable} {wiring : Wiring} {form : Form} {f : Field}

theorem Form.snippets_eq (h : form.names.Nodup) :
    form.snippets variants wiring = form.fields.map fun f => (f.name, f.snippet? variants wiring) := by
  refine Table.ofPairs_of_nodup ?_
  rwa [Table.keys, List.map_map]

/-- **A field finds its own code** in the table of a form with distinct names. -/
theorem Field.blockFrom_eq (h : form.names.Nodup) (hf : f ∈ form.fields) :
    f.blockFrom (form.snippets variants wiring) wiring = Form.controlLines variants wiring f := by
  have hget : (form.snippets variants wiring).get? f.name = some (f.snippet? variants wiring) := by
    refine Table.get?_of_mem (Table.nodup_keys_ofPairs _) ?_
    show _ ∈ form.snippets variants wiring
    rw [Form.snippets_eq h]
    exact List.mem_map_of_mem (f := fun f : Field => (f.name, f.snippet? variants wiring)) hf
  rw [blockFrom, hget, Form.controlLines]
  rfl

theorem Item.blockFrom_eq (h : form.names.Nodup) {item : Item} (hitem : item ∈ form) :
    item.blockFrom (form.snippets variants wiring) wiring =
      Form.itemLines variants wiring item := by
  have hfields : ∀ f ∈ item.fields, f ∈ form.fields :=
    fun f hf => List.mem_flatMap.2 ⟨item, hitem, hf⟩
  cases item with
  | field f => exact Field.blockFrom_eq h (hfields f (List.mem_singleton_self f))
  | group members =>
    have hcolumns : ∀ f ∈ members,
        Markup.element "div" [s!"className=\"col-span-{groupColumns members.length}\""]
          (f.blockFrom (form.snippets variants wiring) wiring) =
        Markup.element "div" [s!"className=\"col-span-{columnSpan members.length}\""]
          (Form.controlLines variants wiring f) := by
      intro f hf
      rw [Field.blockFrom_eq h (hfields f hf), columnSpan_eq]
    rw [blockFrom, Form.itemLines, List.flatMap_def, List.map_congr_left hcolumns]
    rfl

end Lookup

/-! ## Blocks and placeholders -/

theorem Markup.one_lt_length_element {tag : String} {attributes children : List String}
    (h : children ≠ []) : 1 < (element tag attributes children).length := by
  have hchildren : 0 < children.length := List.length_pos_iff.2 h
  simp only [element, List.length_append, length_indent, List.length_singleton]
  omega

theorem Library.one_lt_length_block (library : Library) (f : Field) (control : List String) :
    1 < (library.wiring.block f control).length := by
  cases library with
  | reactHookForm => simp [wiring, ReactHookForm.wiring, ReactHookForm.block]
  | tanstackForm => simp [wiring, TanstackForm.wiring, TanstackForm.block]
  | bringYourOwn => exact Markup.one_lt_length_element (by simp)

theorem Form.controlLines_eq_placeholder_iff {variants : VariantTable} {library : Library}
    {f : Field} :
    controlLines variants library.wiring f = placeholder f ↔
      f.snippet? variants library.wiring = none := by
  unfold controlLines
  split
  · next snippet hsnippet =>
    -- a placeholder is one line, and no block is
    rw [hsnippet]
    refine iff_of_false (fun heq => ?_) nofun
    have hlength := library.one_lt_length_block f snippet.markup
    rw [heq] at hlength
    exact absurd hlength (by simp [placeholder])
  · next hnone => simp [hnone]

theorem Field.snippet?_eq_none_iff {variants : VariantTable} {wiring : Wiring} {f : Field} :
    f.snippet? variants wiring = none ↔ variants.get? f.variant = none ∨
      ∃ handler, variants.get? f.variant = some handler ∧
        handler.snippet? f (wiring.binding f) = none := by
  unfold snippet?
  cases variants.get? f.variant <;> simp

theorem Handler.snippet?_ne_none_of_builtin {variant : String} {handler : Handler}
    (h : (variant, handler) ∈ builtin) (f : Field) (binding : Binding) :
    handler.snippet? f binding ≠ none := by
  have hbare : ∀ entry ∈ builtin, ∀ pattern least most, entry.2 ≠ .bare pattern least most := by
    simp [builtin]
  rw [Option.ne_none_iff_isSome]
  exact (handler.isSome_snippet? f binding).2 (hbare _ h)

/-! ## Entries -/

theorem Markup.indent_zero (texts : List String) : indent 0 texts = texts := by
  refine (List.map_congr_left fun text _ => ?_).trans (List.map_id texts)
  by_cases h : text = ""
  · rw [indentLine, if_pos h, h]
    rfl
  · rw [indentLine, if_neg h]
    exact String.empty_append

/-- The values that a form starts with stand in one object, between lines that do not depend on
them. -/
theorem Library.setup_eq (library : Library) :
    ∃ before depth beginning ending after, ∀ values, library.wiring.setup values =
      before ++ Markup.indent depth (Wiring.objectLines beginning ending values) ++ after := by
  cases library with
  | reactHookForm => exact ⟨_, 1, "defaultValues: ", ",", _, fun values => rfl⟩
  | tanstackForm =>
    exact ⟨_, 1, "defaultValues: ", " as " ++ Wiring.answersType ++ ",", _, fun values => rfl⟩
  | bringYourOwn =>
    have hsetup : ∀ values, PlainState.setup values =
        [] ++ Markup.indent 0 (Wiring.objectLines
          s!"const [values, setValues] = useState<{Wiring.answersType}>(" ");" values) ++
        (["const [errors, setErrors] = useState<Record<string, string>>(\x7b\x7d);", ""] ++
          PlainState.functionLines) := by
      intro values
      rw [Markup.indent_zero, List.nil_append, ← List.append_assoc]
      rfl
    exact ⟨_, _, _, _, _, hsetup⟩

/-! ## Sources -/

/-- What the source of a form is written from. -/
structure Form.IsWrittenFrom (variants : VariantTable) (library : Library) (form : Form)
    (component : Component) (code : String) : Prop where
  made : form.component variants library = .ok component
  code_eq : code = Layout.format ("\n".intercalate component.lines ++ "\n")
  /-- The validator has an entry for each field, written under its name, in order. -/
  validator : ∃ object, (form.spec variants).zodObject = .ok object ∧
    component.validator = object.lines Spec.standardConstant ∧ object.map Prod.fst = form.names
  /-- So has the object of the values to start with. -/
  state : ∃ before depth beginning ending after,
    (∀ values, library.wiring.setup values =
      before ++ Markup.indent depth (Wiring.objectLines beginning ending values) ++ after) ∧
    component.state = library.wiring.setup
      (form.fields.map fun f => (f.name, (f.startValue variants).toJson))
  /-- The body is a block for each item, and then the button. -/
  body : component.body = Markup.indent library.wiring.bodyDepth
    (form.flatMap (Item.blockFrom (form.snippets variants library.wiring) library.wiring) ++
      [Component.submitButton])

/-- What decides the block of a field in a form. -/
structure Field.IsAlone (variants : VariantTable) (library : Library) (form : Form) (f : Field) :
    Prop where
  /-- It is a placeholder where the variant is unknown, or has no code for the field. -/
  placeholder_iff : f.blockFrom (form.snippets variants library.wiring) library.wiring =
      Form.placeholder f ↔
    variants.get? f.variant = none ∨
      ∃ handler, variants.get? f.variant = some handler ∧
        handler.snippet? f (library.wiring.binding f) = none
  /-- A handler that variants come with has code for the field. -/
  builtin : ∀ handler, (f.variant, handler) ∈ Handler.builtin →
    variants.get? f.variant = some handler →
      f.blockFrom (form.snippets variants library.wiring) library.wiring ≠ Form.placeholder f
  /-- The block is the same in any form that has the field, with any other variants. -/
  same : ∀ (others : VariantTable) (other : Form), other.names.Nodup → f ∈ other.fields →
    others.get? f.variant = variants.get? f.variant →
      f.blockFrom (other.snippets others library.wiring) library.wiring =
        f.blockFrom (form.snippets variants library.wiring) library.wiring

theorem Form.isWrittenFrom_of_component {variants : VariantTable} {library : Library} {form : Form}
    {component : Component} (hnames : form.names.Nodup)
    (h : form.component variants library = .ok component) :
    form.IsWrittenFrom variants library component component.source := by
  have hdraft := draft_of_component h
  have hblocks : form.map (Item.blockFrom (form.snippets variants library.wiring) library.wiring) =
      form.map (itemLines variants library.wiring) :=
    List.map_congr_left fun item hitem => Item.blockFrom_eq hnames hitem
  obtain ⟨validator, hvalidator, heq⟩ := bind_eq_ok_iff.1 h
  obtain ⟨object, hobject, hlines⟩ := Spec.declaration_eq_ok_iff.1 hvalidator
  obtain ⟨before, depth, beginning, ending, after, hsetup⟩ := library.setup_eq
  refine ⟨h, congrArg Layout.format hdraft, ?_, ?_, ?_⟩
  · refine ⟨object, hobject, ?_, ?_⟩
    · cases heq
      exact hlines
    · rw [Spec.names_of_zodObject hobject, spec_fieldNames]
  · refine ⟨before, depth, beginning, ending, after, hsetup, ?_⟩
    rw [← defaults_eq hnames]
    cases heq
    rfl
  · rw [List.flatMap_def, hblocks, ← List.flatMap_def]
    cases heq
    rfl

theorem Field.isAlone_of_mem {variants : VariantTable} (library : Library) {form : Form}
    {f : Field} (hnames : form.names.Nodup) (hf : f ∈ form.fields) :
    f.IsAlone variants library form := by
  have hblock : f.blockFrom (form.snippets variants library.wiring) library.wiring =
      Form.controlLines variants library.wiring f := blockFrom_eq hnames hf
  constructor
  · rw [hblock, Form.controlLines_eq_placeholder_iff, snippet?_eq_none_iff]
  · intro handler hbuiltin hget hplaceholder
    rw [hblock, Form.controlLines_eq_placeholder_iff, snippet?, hget] at hplaceholder
    exact Handler.snippet?_ne_none_of_builtin hbuiltin f _ hplaceholder
  · intro others other hothers hother hget
    rw [hblock, blockFrom_eq hothers hother, Form.controlLines, Form.controlLines, snippet?,
      snippet?, hget]

namespace Form

/-- **The source of an imported form is complete and local.** Its validator and its values to start
with have an entry for each field, in order, and its body is a block for each item. The block of a
field is a placeholder only where its variant has no code, and no other field has a part in it. -/
theorem source_isLocal {text : String} {form : Form} {variants : VariantTable} {library : Library}
    {code : String} (himport : ofText text = .ok form)
    (hsource : form.source variants library = .ok code) :
    (∃ component, form.IsWrittenFrom variants library component code) ∧
      ∀ f ∈ form.fields, f.IsAlone variants library form := by
  have hnames := names_nodup_of_ofText himport
  refine ⟨?_, fun f hf => Field.isAlone_of_mem library hnames hf⟩
  obtain ⟨component, hcomponent, hcode⟩ := bind_eq_ok_iff.1 hsource
  obtain rfl : component.source = code := Except.ok.inj hcode
  exact ⟨component, isWrittenFrom_of_component hnames hcomponent⟩

/-- A field of an unknown variant leaves a placeholder in a column, and the field beside it a
block. -/
theorem source_isLocal_beside_unknown :
    let unknown : Field := { Field.named "b" with variant := "Unknown" }
    let form : Form := [.group [.named "a", unknown]]
    let wiring := Library.wiring .bringYourOwn
    let snippets := form.snippets Handler.builtin wiring
    Succeeds (form.source Handler.builtin .bringYourOwn) ∧
      unknown.blockFrom snippets wiring = placeholder unknown ∧
      (Field.named "a").blockFrom snippets wiring ≠ placeholder (.named "a") := by
  intro unknown form wiring snippets
  have himport : ofText ("[[\x7b\"variant\":\"Input\",\"name\":\"a\"\x7d," ++
      "\x7b\"variant\":\"Unknown\",\"name\":\"b\"\x7d]]") = .ok form :=
    toOption_eq_some_iff.1 (by decide +kernel)
  have hsource : Succeeds (form.source Handler.builtin .bringYourOwn) := by
    refine succeeds_source_iff.2 fun f hf => Field.hasShowableBounds_rule ?_
    simp only [form, fields_cons_group, fields_nil, List.append_nil] at hf
    rcases List.mem_cons.1 hf with rfl | hf
    · decide
    · cases List.mem_singleton.1 hf
      decide
  obtain ⟨code, hcode⟩ := hsource
  obtain ⟨-, halone⟩ := source_isLocal himport hcode
  have hb := halone unknown (List.mem_cons_of_mem _ List.mem_cons_self)
  have ha := halone (.named "a") List.mem_cons_self
  refine ⟨⟨code, hcode⟩, hb.placeholder_iff.2 (.inl rfl), ha.builtin _ ?_ rfl⟩
  simp [Handler.builtin, Field.named]

end Form

end FormStudio
