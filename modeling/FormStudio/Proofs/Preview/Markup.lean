import FormStudio.Proofs.Preview.Layout
import FormStudio.Proofs.Preview.Scanner

/-!
# The markup of a preview

All that a widget takes from a field or a value goes into the text of a leaf or the value of an
attribute; its tags and the names of its attributes are its own (`Widget.isKnown_of_render`). So the
text of a preview is read back as the tree that was made, whatever the texts in it are
(`Preview.html_isMarkupOf`).
-/
namespace FormStudio

namespace Html

@[simp] theorem knowsAttributes_nil : KnowsAttributes [] := List.forall_mem_nil _

@[simp] theorem knowsAttributes_cons {a : HtmlAttribute} {rest : List HtmlAttribute} :
    KnowsAttributes (a :: rest) ↔ attributeName a ∈ attributeNames ∧ KnowsAttributes rest :=
  List.forall_mem_cons

@[simp] theorem knowsAttributes_append {first second : List HtmlAttribute} :
    KnowsAttributes (first ++ second) ↔ KnowsAttributes first ∧ KnowsAttributes second :=
  List.forall_mem_append

theorem attributeName_of_ofProperty? {property : String × Json} {a : HtmlAttribute}
    (h : HtmlAttribute.ofProperty? property = some a) : attributeName a = property.1 := by
  unfold HtmlAttribute.ofProperty? at h
  split at h <;> cases h <;> rfl

theorem knowsAttributes_ofProperties {properties : Members}
    (h : ∀ name ∈ Table.keys properties, name ∈ attributeNames) :
    KnowsAttributes (HtmlAttribute.ofProperties properties) := by
  intro a ha
  obtain ⟨property, hmem, hproperty⟩ := List.mem_filterMap.1 ha
  rw [attributeName_of_ofProperty? hproperty]
  exact h property.1 (List.mem_map_of_mem hmem)

@[simp] theorem isKnown_text (content : String) : IsKnown (.text content) := trivial

@[simp] theorem isKnown_symbol (code : Nat) : IsKnown (.symbol code) := trivial

@[simp] theorem isKnown_void {attributes : List HtmlAttribute} :
    IsKnown (.void "input" attributes) ↔ KnowsAttributes attributes := by
  simp [IsKnown]

@[simp] theorem isKnown_element {tag : String} {attributes : List HtmlAttribute}
    {children : List Html} : IsKnown (.element tag attributes children) ↔
      tag ∈ elementTags ∧ KnowsAttributes attributes ∧ ∀ child ∈ children, IsKnown child := by
  rw [IsKnown, areKnown_iff]

end Html

open Html

namespace Widget

variable {f : Field}

/-! ## Around a control -/

theorem isKnown_requiredMark : ∀ tree ∈ requiredMark f, IsKnown tree := by
  unfold requiredMark
  split
  · simp [elementTags, attributeName, attributeNames]
  · exact List.forall_mem_nil _

theorem isKnown_description : ∀ tree ∈ description f, IsKnown tree := by
  unfold description
  split
  · simp [elementTags, attributeName, attributeNames]
  · exact List.forall_mem_nil _

theorem isKnown_formItem {body : List Html} (h : ∀ tree ∈ body, IsKnown tree) :
    IsKnown (formItem f body) := by
  refine isKnown_element.2 ⟨by decide, ?_, List.forall_mem_append.2 ⟨h, isKnown_description⟩⟩
  simp [attributeName, attributeNames]

theorem isKnown_labelled {control : Html} (h : IsKnown control) : IsKnown (labelled f control) := by
  refine isKnown_formItem (List.forall_mem_cons.2 ⟨isKnown_element.2 ⟨by decide, ?_, ?_⟩, ?_⟩)
  · simp [attributeName, attributeNames]
  · exact List.forall_mem_cons.2 ⟨isKnown_text _, isKnown_requiredMark⟩
  · exact List.forall_mem_singleton.2 h

theorem isKnown_labelledInline {control : Html} (h : IsKnown control) :
    IsKnown (labelledInline f control) := by
  refine isKnown_formItem (List.forall_mem_singleton.2 (isKnown_element.2 ⟨by decide, ?_, ?_⟩))
  · simp [attributeName, attributeNames]
  · refine List.forall_mem_cons.2 ⟨h, List.forall_mem_cons.2 ⟨isKnown_text _, ?_⟩⟩
    exact List.forall_mem_cons.2 ⟨isKnown_text _, isKnown_requiredMark⟩

theorem isKnown_shownByInput {kind : String} {properties : Members}
    (h : ∀ name ∈ Table.keys properties, name ∈ attributeNames) :
    IsKnown (shownByInput kind f properties).html :=
  isKnown_labelled (isKnown_void.2 (knowsAttributes_ofProperties h))

/-! ## Widgets -/

theorem isKnown_renderInput (type : String) (f : Field) (text : String) :
    IsKnown (renderInput type f text).html := by
  apply isKnown_shownByInput
  simp [Table.keys, named, placeholder, disabled, styled, attributeNames]

theorem isKnown_renderTextarea (f : Field) (text : String) :
    IsKnown (renderTextarea f text).html := by
  refine isKnown_labelled (isKnown_element.2 ⟨by decide, knowsAttributes_ofProperties ?_, ?_⟩)
  · simp [Table.keys, named, placeholder, disabled, styled, attributeNames]
  · exact List.forall_mem_singleton.2 (isKnown_text text)

theorem isKnown_renderToggle (kind : String) (role : Json) (f : Field) (value : Json) :
    IsKnown (renderToggle kind role f value).html := by
  refine isKnown_labelledInline (isKnown_void.2 (knowsAttributes_ofProperties ?_))
  simp [Table.keys, named, disabled, styled, attributeNames]

theorem isKnown_renderSlider (f : Field) (text : String) : IsKnown (renderSlider f text).html := by
  apply isKnown_shownByInput
  simp [Table.keys, named, bound, disabled, styled, attributeNames]

theorem isKnown_star (current : Number) (i : Nat) : IsKnown (star current i) := by
  refine isKnown_element.2 ⟨by decide, ?_, List.forall_mem_singleton.2 (isKnown_symbol 9733)⟩
  simp [attributeName, attributeNames]

theorem isKnown_of_renderRating {f : Field} {value : Json} {rendering : Rendering}
    (h : renderRating f value = .ok rendering) : IsKnown rendering.html := by
  unfold renderRating at h
  dsimp only at h
  split at h
  · cases h
    refine isKnown_labelled (isKnown_element.2 ⟨by decide, ?_, ?_⟩)
    · simp [attributeName, attributeNames]
    · exact List.forall_mem_map.2 fun i _ => isKnown_star (rated value) (i + 1)
  · obtain ⟨text, -, rfl⟩ := map_eq_ok_iff.1 h
    apply isKnown_shownByInput
    simp [Table.keys, named, disabled, styled, attributeNames]

theorem isKnown_optionElement (selected : List Json) (option : String) :
    IsKnown (optionElement selected option) := by
  refine isKnown_element.2 ⟨by decide, ?_, List.forall_mem_singleton.2 (isKnown_text option)⟩
  split <;> simp [attributeName, attributeNames]

theorem isKnown_placeholderOption (f : Field) : ∀ tree ∈ placeholderOption f, IsKnown tree := by
  unfold placeholderOption
  split
  · simp [elementTags, attributeName, attributeNames]
  · exact List.forall_mem_nil _

theorem isKnown_renderSelect (fallback : List String) (multiple : Bool) (f : Field) (value : Json) :
    IsKnown (renderSelect fallback multiple f value).html := by
  refine isKnown_labelled (isKnown_element.2 ⟨by decide, knowsAttributes_ofProperties ?_,
    List.forall_mem_append.2 ⟨?_, ?_⟩⟩)
  · simp [Table.keys, named, disabled, styled, attributeNames]
  · split
    · exact List.forall_mem_nil _
    · exact isKnown_placeholderOption f
  · exact List.forall_mem_map.2 fun option _ => isKnown_optionElement (selection value) option

theorem isKnown_radioItem (f : Field) (value : Json) (option : String) :
    IsKnown (radioItem f value option) := by
  refine isKnown_element.2 ⟨by decide, ?_, List.forall_mem_cons.2 ⟨isKnown_void.2 ?_, ?_⟩⟩
  · simp [attributeName, attributeNames]
  · apply knowsAttributes_ofProperties
    simp [Table.keys, disabled, attributeNames]
  · simp

theorem isKnown_renderRadio (fallback : List String) (f : Field) (value : Json) :
    IsKnown (renderRadio fallback f value).html := by
  refine isKnown_labelled (isKnown_element.2 ⟨by decide, ?_, ?_⟩)
  · simp [attributeName, attributeNames]
  · exact List.forall_mem_map.2 fun option _ => isKnown_radioItem f value option

theorem isKnown_tag (text : String) : IsKnown (tag text) := by
  simp [tag, elementTags, attributeName, attributeNames]

theorem isKnown_of_renderTags {f : Field} {value : Json} {rendering : Rendering}
    (h : renderTags f value = .ok rendering) : IsKnown rendering.html := by
  obtain ⟨texts, -, h⟩ := bind_eq_ok_iff.1 h
  cases h
  refine isKnown_labelled (isKnown_element.2 ⟨by decide, ?_, List.forall_mem_append.2 ⟨?_, ?_⟩⟩)
  · simp [attributeName, attributeNames]
  · exact List.forall_mem_map.2 fun text _ => isKnown_tag text
  · refine List.forall_mem_singleton.2 (isKnown_void.2 (knowsAttributes_ofProperties ?_))
    simp [Table.keys, named, disabled, attributeNames]

theorem isKnown_renderDate (withTime : Bool) (f : Field) (text : String) :
    IsKnown (renderDate withTime f text).html := by
  apply isKnown_shownByInput
  simp [Table.keys, named, disabled, styled, attributeNames]

theorem isKnown_renderFile (f : Field) : IsKnown (renderFile f).html := by
  apply isKnown_shownByInput
  simp [Table.keys, named, disabled, attributeNames]

theorem isKnown_otpSlot (text : List Char) (i : Nat) : IsKnown (otpSlot text i) := by
  simp [otpSlot, attributeName, attributeNames]

theorem isKnown_renderOtp (f : Field) (text : String) : IsKnown (renderOtp f text).html := by
  refine isKnown_labelled (isKnown_element.2 ⟨by decide, ?_, ?_⟩)
  · simp [attributeName, attributeNames]
  · exact List.forall_mem_map.2 fun i _ => isKnown_otpSlot text.toList i

theorem isKnown_placeInput (f : Field) (part hint text : String) :
    IsKnown (placeInput f part hint text) := by
  simp [placeInput, attributeName, attributeNames]

theorem isKnown_of_renderLocation {f : Field} {value : Json} {rendering : Rendering}
    (h : renderLocation f value = .ok rendering) : IsKnown rendering.html := by
  obtain ⟨country, -, h⟩ := bind_eq_ok_iff.1 h
  obtain ⟨state, -, h⟩ := bind_eq_ok_iff.1 h
  cases h
  refine isKnown_labelled (isKnown_element.2 ⟨by decide, ?_, ?_⟩)
  · simp [attributeName, attributeNames]
  · refine List.forall_mem_cons.2 ⟨isKnown_placeInput .., ?_⟩
    exact List.forall_mem_singleton.2 (isKnown_placeInput ..)

theorem isKnown_renderSignature (f : Field) (value : Json) :
    IsKnown (renderSignature f value).html := by
  refine isKnown_labelled (isKnown_element.2 ⟨by decide, ?_, List.forall_mem_nil _⟩)
  refine knowsAttributes_append.2 ⟨knowsAttributes_ofProperties ?_, ?_⟩
  · simp [Table.keys, named, attributeNames]
  · simp [attributeName, attributeNames]

/-- **What a widget shows** has names of the vocabulary only. -/
theorem isKnown_of_render {widget : Widget} {f : Field} {value : Json} {rendering : Rendering}
    (h : widget.render f value = .ok rendering) : IsKnown rendering.html := by
  cases widget with
  | input type =>
    obtain ⟨text, -, rfl⟩ := map_eq_ok_iff.1 h
    exact isKnown_renderInput type f text
  | textarea =>
    obtain ⟨text, -, rfl⟩ := map_eq_ok_iff.1 h
    exact isKnown_renderTextarea f text
  | checkbox =>
    cases h
    exact isKnown_renderToggle ..
  | switch =>
    cases h
    exact isKnown_renderToggle ..
  | slider =>
    obtain ⟨text, -, rfl⟩ := map_eq_ok_iff.1 h
    exact isKnown_renderSlider f text
  | rating => exact isKnown_of_renderRating h
  | select fallback multiple =>
    cases h
    exact isKnown_renderSelect fallback multiple f value
  | radio fallback =>
    cases h
    exact isKnown_renderRadio fallback f value
  | tags => exact isKnown_of_renderTags h
  | date withTime =>
    obtain ⟨text, -, rfl⟩ := map_eq_ok_iff.1 h
    exact isKnown_renderDate withTime f text
  | file =>
    cases h
    exact isKnown_renderFile f
  | otp =>
    obtain ⟨text, -, rfl⟩ := map_eq_ok_iff.1 h
    exact isKnown_renderOtp f text
  | location => exact isKnown_of_renderLocation h
  | signature =>
    cases h
    exact isKnown_renderSignature f value

end Widget

/-! ## The whole preview -/

namespace Control

theorem isKnown_notice (f : Field) (fault : ControlFault) : IsKnown (notice f fault) := by
  simp [notice, elementTags, attributeName, attributeNames]

theorem isKnown_html (registry : Registry) (span : Nat) (f : Field) (value : Json) :
    IsKnown (render registry span f value).html := by
  unfold render
  split
  · exact isKnown_notice f .noWidget
  · next widget _ =>
    rw [html]
    cases hrender : widget.render f value with
    | ok rendering => exact Widget.isKnown_of_render hrender
    | error fault => exact isKnown_notice f (.failed fault)

end Control

namespace Row

theorem isKnown_html (registry : Registry) (state : LiveState) (item : Item) :
    IsKnown (render registry state item).html := by
  refine isKnown_element.2 ⟨by decide, ?_, List.forall_mem_map.2 fun control hcontrol => ?_⟩
  · simp [attributeName, attributeNames]
  · obtain ⟨span, f, rfl⟩ := exists_render_of_mem hcontrol
    refine isKnown_element.2 ⟨by decide, ?_, List.forall_mem_singleton.2 (Control.isKnown_html ..)⟩
    simp [attributeName, attributeNames]

end Row

namespace Preview

theorem isKnown_rowLines {rows : List Row} (h : ∀ row ∈ rows, IsKnown row.html) :
    ∀ tree ∈ rowLines rows, IsKnown tree := by
  induction rows with
  | nil => exact List.forall_mem_nil _
  | cons row rest ih =>
    obtain ⟨hrow, hrest⟩ := List.forall_mem_cons.1 h
    cases rest with
    | nil => exact List.forall_mem_singleton.2 hrow
    | cons next rest =>
      refine List.forall_mem_cons.2 ⟨hrow, List.forall_mem_cons.2 ⟨isKnown_text _, ih hrest⟩⟩

theorem isKnown_html (registry : Registry) (state : LiveState) (form : Form) (title : String) :
    IsKnown ((render registry state form).html title) := by
  have hrows : ∀ tree ∈ rowLines (render registry state form).rows, IsKnown tree :=
    isKnown_rowLines (List.forall_mem_map.2 fun item _ => Row.isKnown_html registry state item)
  refine isKnown_element.2 ⟨by decide, ?_, List.forall_mem_append.2
    ⟨List.forall_mem_cons.2 ⟨isKnown_text _, hrows⟩, ?_⟩⟩
  · simp [attributeName, attributeNames]
  · simp [elementTags, attributeName, attributeNames]

end Preview

/-- What it takes for a text to be the well-formed markup of a tree. -/
structure Html.IsMarkupOf (text : String) (tree : Html) : Prop where
  /-- It is read to its end, as the tags of the tree and its texts character for character. -/
  reads : scan (.inside .text) text.toList = some (tree.events, .inside .text)
  /-- Each tag but `input` is closed by its own closing tag, the last one first. -/
  nests : nest [] tree.events = some []
  /-- No text makes a tag or an attribute: all their names are of the vocabulary. -/
  knows : ∀ e ∈ tree.events, e.IsKnown

/-- **The markup of a preview is well formed**, whatever the registry, the live values, the texts of
the fields and the title are. -/
theorem Preview.html_isMarkupOf (registry : Registry) (state : LiveState) (form : Form)
    (title : String) :
    let tree := (Preview.render registry state form).html title
    Html.IsMarkupOf tree.print tree := by
  intro tree
  have hknown : IsKnown tree := isKnown_html registry state form title
  refine ⟨?_, ?_, isKnown_events hknown⟩
  · rw [print, String.toList_ofList]
    exact scan_write hknown
  · have hnest := nest_events hknown [] []
    rwa [List.append_nil] at hnest

end FormStudio
