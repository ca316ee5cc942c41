import FormStudio.Preview.Layout
import FormStudio.Proofs.Form.RoundTrip
import FormStudio.Proofs.Outcome
import FormStudio.Proofs.Table

/-!
# The layout of a preview

A preview is laid out by its form alone: a row for each item, and in it a control for each field,
with the columns that the item gives it (`Item.frame`). Widgets and live values only decide what a
control shows. It shows its field exactly where there is a widget that shows the live value
(`Widget.Shows`); the values that an imported form starts with are shown by every widget
(`Widget.shows_value_start`). So at the start only fields without a widget are missing
(`Preview.render_isLaidOut`).
-/
namespace FormStudio

/-! ## Values that can be shown -/

namespace Json

mutual

/-- A value that is read back from its text can be written as one. -/
theorem isShowable_of_isReadable : ∀ {v : Json}, v.isReadable = true → v.isShowable = true
  | .null, _ => rfl
  | .bool _, _ => rfl
  | .str _, _ => rfl
  | .num (.int _), h => h
  | .num (.float _), _ => rfl
  | .arr _, h => areShowable_of_areReadable h
  | .obj _, h => membersShowable_of_membersReadable (Bool.and_eq_true_iff.1 h).2

theorem areShowable_of_areReadable :
    ∀ {items : List Json}, areReadable items = true → areShowable items = true
  | [], _ => rfl
  | _ :: _, h => by
    obtain ⟨hitem, hitems⟩ := Bool.and_eq_true_iff.1 h
    exact Bool.and_eq_true_iff.2
      ⟨isShowable_of_isReadable hitem, areShowable_of_areReadable hitems⟩

theorem membersShowable_of_membersReadable :
    ∀ {members : Members}, membersReadable members = true → membersShowable members = true
  | [], _ => rfl
  | (_, _) :: _, h => by
    obtain ⟨hvalue, hmembers⟩ := Bool.and_eq_true_iff.1 h
    exact Bool.and_eq_true_iff.2
      ⟨isShowable_of_isReadable hvalue, membersShowable_of_membersReadable hmembers⟩

end

theorem succeeds_shownText_iff {value : Json} :
    Succeeds value.shownText ↔ value.isShowable = true := by
  unfold shownText
  split <;> simp [*]

end Json

namespace Widget

theorem succeeds_textItem_iff {item : Json} : Succeeds (textItem item) ↔ ∃ s, item = .str s := by
  cases item <;> simp [textItem]

/-- Whether a field has a count of stars that can be shown. -/
def HasStars (f : Field) : Prop :=
  let most := (f.max.map wholePart).getD standardStars
  1 ≤ most ∧ most ≤ mostStars

/-- Whether a widget shows a field with a live value. Tags and places are texts, one by one; what is
shown as one text can be written; and all other widgets take what they can use. -/
def Shows (f : Field) (value : Json) : Widget → Prop
  | .tags => ∀ item ∈ listed value, ∃ s, item = .str s
  | .location => ∀ item ∈ (listed value).take 2, ∃ s, item = .str s
  | .rating => HasStars f ∨ value.isShowable = true
  | .input _ | .textarea | .slider | .date _ | .otp => value.isShowable = true
  | .checkbox | .switch | .select .. | .radio _ | .file | .signature => True

theorem succeeds_renderRating_iff {f : Field} {value : Json} :
    Succeeds (renderRating f value) ↔ Shows f value .rating := by
  unfold renderRating
  dsimp only [Shows, HasStars]
  split
  · next hstars => simp [hstars]
  · next hstars => rw [succeeds_map_iff, Json.succeeds_shownText_iff, or_iff_right hstars]

theorem succeeds_renderTags_iff {f : Field} {value : Json} :
    Succeeds (renderTags f value) ↔ Shows f value .tags := by
  refine succeeds_bind_ok_iff.trans (succeeds_mapM_iff.trans ?_)
  simp only [succeeds_textItem_iff, Shows]

theorem succeeds_renderLocation_iff {f : Field} {value : Json} :
    Succeeds (renderLocation f value) ↔ Shows f value .location := by
  refine (succeeds_bind_iff fun _ => succeeds_bind_ok_iff).trans ?_
  simp only [succeeds_textItem_iff, Shows]
  rcases listed value with _ | ⟨country, _ | ⟨state, rest⟩⟩ <;> simp

/-- **A widget fails** exactly on the values that it does not show. -/
theorem succeeds_render_iff {widget : Widget} {f : Field} {value : Json} :
    Succeeds (widget.render f value) ↔ widget.Shows f value := by
  cases widget with
  | rating => exact succeeds_renderRating_iff
  | tags => exact succeeds_renderTags_iff
  | location => exact succeeds_renderLocation_iff
  | input _ => exact succeeds_map_iff.trans Json.succeeds_shownText_iff
  | textarea => exact succeeds_map_iff.trans Json.succeeds_shownText_iff
  | slider => exact succeeds_map_iff.trans Json.succeeds_shownText_iff
  | date _ => exact succeeds_map_iff.trans Json.succeeds_shownText_iff
  | otp => exact succeeds_map_iff.trans Json.succeeds_shownText_iff
  | _ => exact iff_of_true (succeeds_ok _) trivial

/-- A value that can be written, with nothing but texts if it is a list, is shown by any widget. -/
theorem shows_of_isShowable {f : Field} {value : Json} (h : value.isShowable = true)
    (hitems : ∀ item ∈ listed value, ∃ s, item = .str s) (widget : Widget) :
    widget.Shows f value := by
  cases widget with
  | tags => exact hitems
  | location => exact fun item hitem => hitems item (List.mem_of_mem_take hitem)
  | rating => exact .inr h
  | _ => first | exact h | trivial

end Widget

/-! ## Starting values -/

namespace Field

theorem startValue_cases (variants : VariantTable) (f : Field) :
    f.value = some (f.startValue variants) ∨
      f.startValue variants ∈
        [.flag false, .number (f.min.getD .zero), .choices [], .text ""] := by
  unfold startValue
  split
  · unfold Handler.startValue
    split <;> simp_all
  · cases f.value <;> simp

namespace IsRestorable

variable {f : Field}

theorem isReadable_value (h : f.IsRestorable) {value : FieldValue} (hvalue : f.value = some value) :
    value.toJson.isReadable = true := by
  refine (Json.isReadable_obj_iff.1 h.readable).2 ("value", value.toJson) ?_
  simp [toMembers, attributeMembers, hvalue, optionalMember]

theorem isReadable_min (h : f.IsRestorable) : (Json.num (f.min.getD .zero)).isReadable = true := by
  cases hmin : f.min with
  | none => decide
  | some n =>
    refine (Json.isReadable_obj_iff.1 h.readable).2 ("min", .num n) ?_
    simp [toMembers, attributeMembers, hmin, optionalMember]

theorem isReadable_startValue (h : f.IsRestorable) (variants : VariantTable) :
    (f.startValue variants).toJson.isReadable = true := by
  rcases startValue_cases variants f with hvalue | hvalue
  · exact h.isReadable_value hvalue
  · simp only [List.mem_cons, List.not_mem_nil, or_false] at hvalue
    rcases hvalue with hvalue | hvalue | hvalue | hvalue <;> rw [hvalue]
    · rfl
    · exact h.isReadable_min
    · rfl
    · rfl

end IsRestorable

end Field

/-- The items of what a field can hold are texts. -/
theorem FieldValue.exists_of_mem_listed {value : FieldValue} :
    ∀ item ∈ Widget.listed value.toJson, ∃ s, item = .str s := by
  cases value with
  | choices texts =>
    intro item hitem
    obtain ⟨s, -, rfl⟩ := List.mem_map.1 hitem
    exact ⟨s, rfl⟩
  | _ => exact List.forall_mem_nil _

theorem LiveState.value_start (variants : VariantTable) (form : Form) (name : String) :
    (start variants form).value name = .null ∨
      ∃ f ∈ form.fields, (start variants form).value name = (f.startValue variants).toJson := by
  unfold LiveState.value
  cases hget : Table.get? name (start variants form).values with
  | none => exact .inl rfl
  | some value =>
    obtain ⟨f, hf, heq⟩ := List.mem_map.1 (Table.mem_of_mem_ofPairs (Table.mem_of_get? hget))
    cases heq
    exact .inr ⟨f, hf, rfl⟩

/-- **Whatever an imported form starts with** is shown by every widget. -/
theorem Widget.shows_value_start {form : Form} (h : form.IsRestorable) (variants : VariantTable)
    (widget : Widget) (f : Field) (name : String) :
    widget.Shows f ((LiveState.start variants form).value name) := by
  rcases LiveState.value_start variants form name with hvalue | ⟨source, hsource, hvalue⟩
  · rw [hvalue]
    exact shows_of_isShowable rfl (List.forall_mem_nil _) widget
  · rw [hvalue]
    have hreadable := (h.fields source hsource).isReadable_startValue variants
    exact shows_of_isShowable (Json.isShowable_of_isReadable hreadable)
      FieldValue.exists_of_mem_listed widget

/-! ## Controls -/

namespace Control

variable {registry : Registry} {span : Nat} {f : Field} {value : Json}

@[simp] theorem field_render : (render registry span f value).field = f := by
  unfold render
  split <;> rfl

@[simp] theorem span_render : (render registry span f value).span = span := by
  unfold render
  split <;> rfl

theorem fault?_render_eq_noWidget_iff :
    (render registry span f value).fault? = some .noWidget ↔
      Table.get? f.variant registry = none := by
  unfold render
  split
  · next hget => simp [fault?, hget]
  · next widget hget =>
    rw [hget]
    cases widget.render f value <;> simp [fault?]

/-- A field is shown where it has a widget that shows its live value. -/
theorem isSupported_render_iff :
    (render registry span f value).isSupported = true ↔
      ∃ widget, Table.get? f.variant registry = some widget ∧ widget.Shows f value := by
  unfold render
  split
  · next hget => simp [isSupported, fault?, hget]
  · next widget hget =>
    have hshows : Succeeds (widget.render f value) ↔ widget.Shows f value :=
      Widget.succeeds_render_iff
    rw [hget]
    cases hrender : widget.render f value with
    | ok rendering => simpa [hrender, isSupported, fault?] using hshows
    | error fault => simpa [hrender, isSupported, fault?] using hshows

end Control

/-! ## Rows -/

/-- How the fields of an item are laid out: whether they form a group, and the columns of each. -/
def Item.frame : Item → Bool × List (Field × Nat)
  | .field f => (false, [(f, gridColumns)])
  | .group members => (true, members.map fun f => (f, columnSpan members.length))

/-- How the controls of a row are laid out. -/
def Row.frame (row : Row) : Bool × List (Field × Nat) :=
  (row.grouped, row.controls.map fun control => (control.field, control.span))

theorem Item.fields_frame (item : Item) : item.frame.2.map Prod.fst = item.fields := by
  cases item with
  | field f => rfl
  | group members =>
    rw [frame, List.map_map]
    exact List.map_id members

namespace Row

variable {registry : Registry} {state : LiveState} {item : Item}

theorem frame_render : (render registry state item).frame = item.frame := by
  cases item with
  | field f => simp [render, frame, Item.frame]
  | group members => simp [render, frame, Item.frame]

theorem fields_render : (render registry state item).controls.map Control.field = item.fields := by
  calc (render registry state item).controls.map Control.field
      = (render registry state item).frame.2.map Prod.fst := by simp [frame]
    _ = item.fields := by rw [frame_render, Item.fields_frame]

/-- A control of a row shows some field with its live value. -/
theorem exists_render_of_mem {control : Control}
    (h : control ∈ (render registry state item).controls) :
    ∃ span f, control = Control.render registry span f (state.value f.name) := by
  cases item with
  | field f => exact ⟨_, f, List.mem_singleton.1 h⟩
  | group members =>
    obtain ⟨f, -, rfl⟩ := List.mem_map.1 h
    exact ⟨_, f, rfl⟩

end Row

/-! ## The whole preview -/

namespace Preview

variable {registry : Registry} {state : LiveState} {form : Form}

theorem frames_render :
    (render registry state form).rows.map Row.frame = form.map Item.frame := by
  simp only [render, List.map_map, Function.comp_def, Row.frame_render]

theorem fields_render (registry : Registry) (state : LiveState) (form : Form) :
    (render registry state form).controls.map Control.field = form.fields := by
  simp only [controls, render, List.flatMap_map, List.map_flatMap, Row.fields_render, Form.fields]

theorem exists_render_of_mem {control : Control}
    (h : control ∈ (render registry state form).controls) :
    ∃ span f, control = Control.render registry span f (state.value f.name) := by
  obtain ⟨row, hrow, hcontrol⟩ := List.mem_flatMap.1 h
  obtain ⟨item, -, rfl⟩ := List.mem_map.1 hrow
  exact Row.exists_render_of_mem hcontrol

/-- The fields that are missing are known by any condition that says which control is shown. -/
theorem unsupported_eq {isShown : Field → Bool}
    (h : ∀ control ∈ (render registry state form).controls,
      control.isSupported = isShown control.field) :
    (render registry state form).unsupported =
      (form.fields.filter fun f => !isShown f).map Field.name := by
  have hfilter :
      (render registry state form).controls.filter (fun control => !control.isSupported) =
        (render registry state form).controls.filter ((fun f => !isShown f) ∘ Control.field) := by
    refine List.filter_congr fun control hcontrol => ?_
    rw [h control hcontrol, Function.comp_apply]
  rw [unsupported, hfilter, ← fields_render registry state form, List.filter_map, List.map_map]
  rfl

/-- In the state that an imported form starts in, the fields without a widget are missing, and no
others. -/
theorem unsupported_start {text : String} (h : Form.ofText text = .ok form)
    (variants : VariantTable) :
    (render registry (.start variants form) form).unsupported =
      (form.fields.filter fun f => !(Table.get? f.variant registry).isSome).map Field.name := by
  refine unsupported_eq fun control hcontrol => ?_
  obtain ⟨span, f, rfl⟩ := exists_render_of_mem hcontrol
  rw [Control.field_render, Bool.eq_iff_iff, Control.isSupported_render_iff,
    Option.isSome_iff_exists]
  have hshows := Widget.shows_value_start (Form.isRestorable_of_ofText h) variants
  exact exists_congr fun widget => and_iff_left (hshows widget f f.name)

/-- **A preview shows every field it can, each in its place.** For any widgets and live values its
rows are the items of the form and their controls the fields, with the columns of the item. A
control is a notice exactly where its variant has no widget or the widget does not show the live
value; in the state that an imported form starts in, exactly where there is no widget. -/
theorem render_isLaidOut (registry : Registry) (state : LiveState) (form : Form) :
    let preview := render registry state form
    preview.rows.map Row.frame = form.map Item.frame ∧
    (∀ control ∈ preview.controls,
      let f := control.field
      (control.fault? = some .noWidget ↔ Table.get? f.variant registry = none) ∧
      (control.isSupported = true ↔
        ∃ widget, Table.get? f.variant registry = some widget ∧
          widget.Shows f (state.value f.name))) ∧
    ∀ (variants : VariantTable) (text : String), Form.ofText text = .ok form →
      state = .start variants form →
      preview.unsupported =
        (form.fields.filter fun f => !(Table.get? f.variant registry).isSome).map Field.name := by
  refine ⟨frames_render, fun control hcontrol => ?_, fun variants text h hstate => ?_⟩
  · obtain ⟨span, f, rfl⟩ := exists_render_of_mem hcontrol
    rw [Control.field_render]
    exact ⟨Control.fault?_render_eq_noWidget_iff, Control.isSupported_render_iff⟩
  · rw [hstate]
    exact unsupported_start h variants

/-- Of a field without a widget and a slider that is shown as tags, the first one is missing. -/
theorem unsupported_start_of_slider_as_tags :
    let form : Form :=
      [.field (.named "a"), .group [{ Field.named "b" with variant := "Slider" }]]
    Form.ofText ("[\x7b\"variant\":\"Input\",\"name\":\"a\"\x7d," ++
      "[\x7b\"variant\":\"Slider\",\"name\":\"b\"\x7d]]") = .ok form ∧
    (render [("Slider", .tags)] (.start Handler.builtin form) form).unsupported = ["a"] := by
  intro form
  have himport : Form.ofText ("[\x7b\"variant\":\"Input\",\"name\":\"a\"\x7d," ++
      "[\x7b\"variant\":\"Slider\",\"name\":\"b\"\x7d]]") = .ok form :=
    toOption_eq_some_iff.1 (by decide +kernel)
  obtain ⟨-, -, hstart⟩ := render_isLaidOut [("Slider", .tags)] (.start Handler.builtin form) form
  exact ⟨himport, (hstart Handler.builtin _ himport rfl).trans (by decide)⟩

end Preview

end FormStudio
