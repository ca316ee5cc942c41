import FormStudio.Preview.Binding
import FormStudio.Proofs.Preview.Layout

/-!
# Filling in a form

Whatever is done with a form that is being filled in, its live state is the state at the start with
the values entered that were set since (`Filling.state_run`): those that were set by name, and those
that a callback was called with, under the name of the control's field (`Filling.writes`). That is
so because the controls at hand stay wired to their fields (`BoundControl.IsWired`), those of
earlier previews too.

What a control shows depends on its field, on the widget for it, and on the live value, and there is
one attribute of the field that no widget looks at: its own value (`Widget.render_of_value`). So a
preview is the same in any two states in which the fields have the same live values
(`Preview.render_congr`).
-/
namespace FormStudio

/-! ## What a control shows -/

/-- No widget looks at the value that the field itself has. -/
theorem Widget.render_of_value (widget : Widget) (f : Field) (own : Option FieldValue)
    (value : Json) : widget.render { f with value := own } value = widget.render f value := by
  cases widget <;> rfl

namespace Control

/-- Two controls show the same: the same widget with the same properties and markup, or the same
notice. -/
structure ShowsSame (control other : Control) : Prop where
  content : control.content = other.content
  html : control.html = other.html
  isSupported : control.isSupported = other.isSupported

variable {registry : Registry}

theorem content_render_of_value (span span' : Nat) (f : Field) (own : Option FieldValue)
    (value : Json) :
    (render registry span' { f with value := own } value).content =
      (render registry span f value).content := by
  unfold render
  cases Table.get? f.variant registry with
  | none => rfl
  | some widget =>
    exact congrArg (Except.mapError ControlFault.failed) (widget.render_of_value f own value)

/-- The content says all that is shown, but for what a notice says of the field. -/
theorem showsSame_of_content {control other : Control} {own : Option FieldValue}
    (hfield : other.field = { control.field with value := own })
    (hcontent : control.content = other.content) : control.ShowsSame other where
  content := hcontent
  html := by
    unfold html
    rw [hcontent, hfield]
    cases other.content <;> rfl
  isSupported := by rw [isSupported, isSupported, fault?, fault?, hcontent]

end Control

namespace Preview

variable {registry : Registry} {state state' : LiveState} {form form' : Form}

theorem exists_render_of_field {control : Control}
    (h : control ∈ (render registry state form).controls) :
    ∃ span, control = Control.render registry span control.field
      (state.value control.field.name) := by
  obtain ⟨span, f, rfl⟩ := exists_render_of_mem h
  exact ⟨span, by rw [Control.field_render]⟩

/-- **A control depends on its field and on the live value** of this field alone, and not on the
value that the field itself has. -/
theorem showsSame_of_value_eq {control other : Control}
    (h : control ∈ (render registry state form).controls)
    (hother : other ∈ (render registry state' form').controls) {own : Option FieldValue}
    (hfield : other.field = { control.field with value := own })
    (hvalue : state'.value other.field.name = state.value control.field.name) :
    control.ShowsSame other := by
  refine Control.showsSame_of_content hfield ?_
  obtain ⟨span, hcontrol⟩ := exists_render_of_field h
  obtain ⟨span', hother⟩ := exists_render_of_field hother
  rw [hother, hvalue, hfield, Control.content_render_of_value span, ← hcontrol]

theorem render_congr
    (h : ∀ f ∈ form.fields, state.value f.name = state'.value f.name) :
    render registry state form = render registry state' form := by
  refine congrArg Preview.mk (List.map_congr_left fun item hitem => ?_)
  have hfields : ∀ f ∈ item.fields, state.value f.name = state'.value f.name :=
    fun f hf => h f (List.mem_flatMap.2 ⟨item, hitem, hf⟩)
  cases item with
  | field f => simp only [Row.render, hfields f List.mem_cons_self]
  | group members =>
    refine congrArg (Row.mk · true) (List.map_congr_left fun f hf => ?_)
    rw [hfields f hf]

end Preview

/-! ## Values that are set -/

namespace LiveState

/-- Sets values one after the other. -/
def enter (state : LiveState) (writes : Table Json) : LiveState :=
  writes.foldl (fun state (name, value) => state.set name value) state

theorem enter_append (state : LiveState) (writes more : Table Json) :
    state.enter (writes ++ more) = (state.enter writes).enter more := List.foldl_append

theorem values_enter (state : LiveState) (writes : Table Json) :
    (state.enter writes).values = Table.overlay state.values writes := by
  induction writes generalizing state with
  | nil => rfl
  | cons write rest ih => exact ih (state.set write.1 write.2)

theorem get?_enter (state : LiveState) (writes : Table Json) (name : String) :
    Table.get? name (state.enter writes).values =
      (Table.last? name writes).or (Table.get? name state.values) := by
  rw [values_enter, Table.get?_overlay]

theorem mem_touched_enter {state : LiveState} {writes : Table Json} {name : String} :
    name ∈ (state.enter writes).touched ↔ name ∈ writes.keys ∨ name ∈ state.touched := by
  induction writes generalizing state with
  | nil => simp [enter]
  | cons write rest ih =>
    obtain ⟨other, value⟩ := write
    have hset : name ∈ (state.set other value).touched ↔ name = other ∨ name ∈ state.touched :=
      Sorted.mem_insert
    rw [Table.keys_cons, List.mem_cons, or_assoc, or_left_comm, ← hset]
    exact ih

/-- The value that a field starts with. -/
theorem get?_start {form : Form} (hnames : form.names.Nodup) (variants : VariantTable) {f : Field}
    (hf : f ∈ form.fields) :
    Table.get? f.name (start variants form).values = some (f.startValue variants).toJson := by
  have hkeys : (Table.keys (form.fields.map fun f =>
      (f.name, (f.startValue variants).toJson))).Nodup := by
    rwa [Table.keys, List.map_map]
  refine (congrArg (Table.get? f.name) (Table.ofPairs_of_nodup hkeys)).trans ?_
  exact Table.get?_of_mem hkeys (List.mem_map.2 ⟨f, hf, rfl⟩)

theorem get?_start_of_not_mem {form : Form} (variants : VariantTable) {name : String}
    (h : name ∉ form.names) : Table.get? name (start variants form).values = none := by
  refine Table.get?_eq_none_iff.2 fun hkey => ?_
  obtain ⟨entry, hentry, rfl⟩ := List.mem_map.1 hkey
  obtain ⟨f, hf, rfl⟩ := List.mem_map.1 (Table.mem_of_mem_ofPairs hentry)
  exact h (List.mem_map_of_mem hf)

end LiveState

/-! ## Controls at hand -/

namespace BoundControl

variable {form : Form}

/-- The name that a control writes under, if it writes at all. -/
def target? (bound : BoundControl) : Option String :=
  if bound.control.isSupported then some bound.control.field.name else none

/-- A control is wired to its field: it has callbacks where it shows the field, and all of them set
the value of this field. -/
structure IsWired (form : Form) (bound : BoundControl) : Prop where
  mem : bound.control.field ∈ form.fields
  calls : ∀ handle callback,
    (bound.callbacks? handle).map (·.get callback) = bound.target?.map LiveState.setter

theorem isWired_bind {registry : Registry} {state : LiveState} {control : Control}
    (h : control ∈ (Preview.render registry state form).controls) :
    (state.bind control).IsWired form where
  mem := by
    rw [← Preview.fields_render registry state form]
    exact List.mem_map_of_mem h
  calls handle callback := by
    unfold LiveState.bind target?
    cases control.isSupported with
    | false => cases handle <;> rfl
    | true => cases handle <;> exact congrArg some (state.get_callbacks_bindingFor _ callback)

end BoundControl

/-! ## Steps and runs -/

namespace Filling

/-- The name and the value that an interaction sets. -/
def written? (filling : Filling) : Interaction → Option (String × Json)
  | .show _ => none
  | .set name value => some (name, value)
  | .call index _ _ value =>
    (filling.controls[index]?.bind BoundControl.target?).map fun name => (name, value)

/-- All that is set in a run. -/
def writes : Filling → List Interaction → Table Json
  | _, [] => []
  | filling, interaction :: rest =>
    (filling.written? interaction).toList ++ writes (filling.step interaction) rest

/-- All controls at hand are wired. -/
def IsWired (filling : Filling) : Prop := ∀ bound ∈ filling.controls, bound.IsWired filling.form

variable {filling : Filling}

theorem setter?_eq (h : filling.IsWired) (index : Nat) (handle : Handle) (callback : Callback) :
    filling.setter? index handle callback =
      (filling.controls[index]?.bind BoundControl.target?).map LiveState.setter := by
  unfold setter?
  cases hbound : filling.controls[index]? with
  | none => rfl
  | some bound => exact (h bound (List.mem_of_getElem? hbound)).calls handle callback

theorem form_step (filling : Filling) (interaction : Interaction) :
    (filling.step interaction).form = filling.form := by
  cases interaction with
  | «show» registry => rfl
  | set name value => rfl
  | call index handle callback value =>
    rw [step]
    cases filling.setter? index handle callback <;> rfl

theorem isWired_step (h : filling.IsWired) (interaction : Interaction) :
    (filling.step interaction).IsWired := by
  cases interaction with
  | «show» registry =>
    intro bound hbound
    rcases List.mem_append.1 hbound with hold | hnew
    · exact h bound hold
    · obtain ⟨control, hcontrol, rfl⟩ := List.mem_map.1 hnew
      exact BoundControl.isWired_bind hcontrol
  | set name value => exact h
  | call index handle callback value =>
    rw [step]
    cases filling.setter? index handle callback <;> exact h

theorem state_step (h : filling.IsWired) (interaction : Interaction) :
    (filling.step interaction).state =
      filling.state.enter (filling.written? interaction).toList := by
  cases interaction with
  | «show» registry => rfl
  | set name value => rfl
  | call index handle callback value =>
    rw [step, setter?_eq h, written?]
    cases filling.controls[index]?.bind BoundControl.target? <;> rfl

@[simp] theorem run_cons (filling : Filling) (interaction : Interaction) (rest : List Interaction) :
    filling.run (interaction :: rest) = (filling.step interaction).run rest := rfl

theorem form_run (filling : Filling) (interactions : List Interaction) :
    (filling.run interactions).form = filling.form := by
  induction interactions generalizing filling with
  | nil => rfl
  | cons interaction rest ih => rw [run_cons, ih, form_step]

theorem isWired_run (h : filling.IsWired) (interactions : List Interaction) :
    (filling.run interactions).IsWired := by
  induction interactions generalizing filling with
  | nil => exact h
  | cons interaction rest ih => exact ih (isWired_step h interaction)

/-- **The live state after a run** is the state before it with what was set since. -/
theorem state_run (h : filling.IsWired) (interactions : List Interaction) :
    (filling.run interactions).state = filling.state.enter (filling.writes interactions) := by
  induction interactions generalizing filling with
  | nil => rfl
  | cons interaction rest ih =>
    rw [run_cons, ih (isWired_step h interaction), state_step h, writes, LiveState.enter_append]

theorem isWired_start (variants : VariantTable) (form : Form) : (start variants form).IsWired :=
  List.forall_mem_nil _

theorem state_run_start (variants : VariantTable) (form : Form) (interactions : List Interaction) :
    ((start variants form).run interactions).state =
      (LiveState.start variants form).enter ((start variants form).writes interactions) :=
  state_run (isWired_start variants form) interactions

/-- What was set last under each name settles a preview. -/
theorem preview_run_congr {variants : VariantTable} {form : Form}
    {interactions interactions' : List Interaction}
    (h : ∀ name, Table.last? name ((start variants form).writes interactions') =
      Table.last? name ((start variants form).writes interactions)) (registry : Registry) :
    ((start variants form).run interactions').preview registry =
      ((start variants form).run interactions).preview registry := by
  unfold preview
  rw [form_run, form_run]
  refine Preview.render_congr fun f _ => ?_
  rw [LiveState.value, LiveState.value, state_run_start, state_run_start, LiveState.get?_enter,
    LiveState.get?_enter, h]

/-- **Controls follow the live values and nothing else.** Where the names of a form differ, whatever
is done with it while it is filled in:

Under each name stands the value that was set last, by name or by a callback, or else the one that
the field starts with, and the names that are told as touched are those that were set. The fields
stay as they are, in the form and in the controls at hand.

A preview has a control for each field. What it shows is settled by the field, its own value apart,
and by its live value: in any other form that is filled in, a control for such a field with such a
live value shows the same. A run in which each name is given the same values in the same order ends
in the same preview. -/
theorem run_isFaithful (variants : VariantTable) (form : Form) (hnames : form.names.Nodup)
    (interactions : List Interaction) (registry : Registry) :
    let start := Filling.start variants form
    let writes := start.writes interactions
    let filling := start.run interactions
    let preview := filling.preview registry
    (∀ f ∈ form.fields, Table.get? f.name filling.state.values =
      some ((Table.last? f.name writes).getD (f.startValue variants).toJson)) ∧
    (∀ name, name ∉ form.names →
      Table.get? name filling.state.values = Table.last? name writes) ∧
    (∀ name, name ∈ filling.state.touched ↔ name ∈ writes.keys) ∧
    (filling.form = form ∧ ∀ bound ∈ filling.controls, bound.control.field ∈ form.fields) ∧
    preview.controls.map Control.field = form.fields ∧
    (∀ other : Filling, ∀ control ∈ preview.controls,
      ∀ control' ∈ (other.preview registry).controls,
      control'.field = { control.field with value := control'.field.value } →
      other.state.value control'.field.name = filling.state.value control.field.name →
      control.ShowsSame control') ∧
    ∀ interactions' : List Interaction,
      (∀ name, Table.restrict (· == name) (start.writes interactions') =
        Table.restrict (· == name) writes) →
      (start.run interactions').preview registry = preview := by
  intro start writes filling preview
  have hstate : filling.state = (LiveState.start variants form).enter writes :=
    state_run_start variants form interactions
  have hform : filling.form = form := form_run start interactions
  have hwired : filling.IsWired := isWired_run (isWired_start variants form) interactions
  refine ⟨fun f hf => ?_, fun name hname => ?_, fun name => ?_,
    ⟨hform, fun bound hbound => hform ▸ (hwired bound hbound).mem⟩, ?_, ?_, ?_⟩
  · rw [hstate, LiveState.get?_enter, LiveState.get?_start hnames variants hf]
    cases Table.last? f.name writes <;> rfl
  · rw [hstate, LiveState.get?_enter, LiveState.get?_start_of_not_mem variants hname,
      Option.or_none]
  · rw [hstate, LiveState.mem_touched_enter]
    exact or_iff_left (List.not_mem_nil)
  · rw [← hform]
    exact Preview.fields_render registry filling.state filling.form
  · intro other control hcontrol control' hcontrol' hfield hvalue
    exact Preview.showsSame_of_value_eq hcontrol hcontrol' hfield hvalue
  · intro interactions' h
    refine preview_run_congr (fun name => ?_) registry
    have hlast := congrArg (Table.last? name) (h name)
    rwa [Table.last?_restrict, Table.last?_restrict, if_pos (beq_self_eq_true name),
      if_pos (beq_self_eq_true name)] at hlast

/-- A text and a switch: a callback of the first preview still writes, and the same is shown where
the switch is set first, and in a form where the text has another value of its own. -/
theorem run_isFaithful_of_early_control :
    let registry := Registry.standard Handler.builtin
    let text := { Field.named "a" with value := some (.text "static") }
    let form : Form := [.field text, .group [{ Field.named "b" with variant := "Switch" }]]
    let start := Filling.start Handler.builtin form
    let interactions := [.show registry, .call 0 .control .onChange (.str "typed"),
      .set "b" (.bool true), .show registry, .call 0 .field .setValue (.str "set")]
    let interactions' := [.set "b" (.bool true), .set "a" (.str "typed"), .set "a" (.str "set")]
    let filling := start.run interactions
    let other : Filling := ⟨[.field (.named "a")], .ofValues [("a", .str "set")], []⟩
    form.names.Nodup ∧ Table.get? "a" filling.state.values = some (.str "set") ∧
      ("b" ∈ filling.state.touched) ∧
      (start.run interactions').preview registry = filling.preview registry ∧
      ∀ control ∈ (filling.preview registry).controls,
        ∀ control' ∈ (other.preview registry).controls,
        control.field = text → control.ShowsSame control' := by
  intro registry text form start interactions interactions' filling other
  have hnames : form.names.Nodup := by decide
  obtain ⟨hvalues, -, htouched, -, -, hshows, horder⟩ :=
    run_isFaithful Handler.builtin form hnames interactions registry
  have hwrites : start.writes interactions =
      [("a", .str "typed"), ("b", .bool true), ("a", .str "set")] := by decide +kernel
  have hwrites' : start.writes interactions' =
      [("b", .bool true), ("a", .str "typed"), ("a", .str "set")] := rfl
  rw [hwrites] at hvalues htouched horder
  have hvalue : Table.get? "a" filling.state.values = some (.str "set") :=
    hvalues text List.mem_cons_self
  refine ⟨hnames, hvalue, (htouched "b").2 (by decide), horder interactions' fun name => ?_, ?_⟩
  · rw [hwrites']
    by_cases hname : "b" = name
    · subst hname
      rfl
    · simp only [Table.restrict_cons, beq_iff_eq, if_neg hname]
  · intro control hcontrol control' hcontrol' hfield
    have hfield' : control'.field = .named "a" := by
      have hmem := List.mem_map_of_mem (f := Control.field) hcontrol'
      rw [preview, Preview.fields_render] at hmem
      exact List.mem_singleton.1 hmem
    refine hshows other control hcontrol control' hcontrol' ?_ ?_
    · rw [hfield', hfield]
    · rw [hfield', hfield]
      exact (congrArg (Option.getD · Json.null) hvalue).symm

end Filling

end FormStudio
