import FormStudio.Form.Export
import FormStudio.Proofs.Form.Names

/-!
# Exported forms are imported again

A form is restored from its text when each of its fields is read from its own members, these hold
readable values, and no two fields share a name (`Form.IsRestorable`). Every operation with readable
arguments keeps it so, whichever way a field came about: read from the members of its kind, from a
merge or from a text. So every reachable form comes back from its text as it was, with any indent
(`Form.ofText_text_of_reachable`).
-/
namespace FormStudio

/-! ## Readable values are finite -/

namespace Json

theorem nonFiniteNumber?_of_isReadableNumber {n : Number} (h : isReadableNumber n = true) :
    nonFiniteNumber? n = none := by
  cases n with
  | int i => rfl
  | float x => exact if_pos h

mutual

theorem nonFinite?_of_isReadable : ∀ {v : Json}, v.isReadable = true → v.nonFinite? = none
  | .null, _ => rfl
  | .bool _, _ => rfl
  | .str _, _ => rfl
  | .num _, h => nonFiniteNumber?_of_isReadableNumber h
  | .arr _, h => nonFiniteItem?_of_areReadable h
  | .obj _, h => nonFiniteMember?_of_membersReadable (Bool.and_eq_true_iff.1 h).2

theorem nonFiniteItem?_of_areReadable :
    ∀ {items : List Json}, areReadable items = true → nonFiniteItem? items = none
  | [], _ => rfl
  | item :: items, h => by
    obtain ⟨hitem, hitems⟩ := Bool.and_eq_true_iff.1 h
    rw [nonFiniteItem?, nonFinite?_of_isReadable hitem, nonFiniteItem?_of_areReadable hitems]
    rfl

theorem nonFiniteMember?_of_membersReadable :
    ∀ {members : Members}, membersReadable members = true → nonFiniteMember? members = none
  | [], _ => rfl
  | (key, value) :: members, h => by
    obtain ⟨hvalue, hmembers⟩ := Bool.and_eq_true_iff.1 h
    rw [nonFiniteMember?, nonFinite?_of_isReadable hvalue,
      nonFiniteMember?_of_membersReadable hmembers]
    rfl

end

end Json

/-! ## Restorable fields -/

/-- A field that comes back from its own text. -/
structure Field.IsRestorable (f : Field) : Prop where
  read : Field.readMembers .written f.toMembers = .good f
  readable : f.toJson.isReadable = true

/-- A field that was read from a table of readable values comes back from its own text. -/
theorem Field.isRestorable_of_readMembers {spelling : Spelling} {members : Members} {f : Field}
    (h : Field.readMembers spelling members = .good f)
    (hmembers : (Json.obj members).isReadable = true) : f.IsRestorable := by
  have hread := Field.readMembers_eq_good_iff.1 h
  exact ⟨Field.readMembers_eq_good_iff.2 hread.toMembers, hread.isReadable_toJson hmembers⟩

/-- Whether the values of an update are readable. -/
def Update.IsReadable : Update → Prop
  | .members updates => ∀ entry ∈ updates, entry.2.isReadable = true
  | .field source => ∀ entry ∈ source.toMembers, entry.2.isReadable = true

theorem Update.IsReadable.entered {updates : Update} (h : updates.IsReadable) :
    ∀ entry ∈ updates.entered, entry.2.isReadable = true := by
  cases updates with
  | field source => exact h
  | members updates =>
    intro entry hentry
    obtain ⟨⟨key, value⟩, hmem, rfl⟩ := List.mem_map.1 (Table.mem_of_mem_ofPairs hentry)
    exact h (key, value) (List.mem_filter.1 hmem).1

/-- A merge of a readable update into a restorable field gives a restorable one. -/
theorem Field.IsRestorable.merge {current updated : Field} {updates : Update}
    (h : current.IsRestorable) (hupdates : updates.IsReadable)
    (hmerge : current.merge updates = .ok updated) : updated.IsRestorable := by
  refine Field.isRestorable_of_readMembers (Field.merge_eq_ok_iff.1 hmerge) ?_
  obtain ⟨hkeys, hvalues⟩ := Json.isReadable_obj_iff.1 h.readable
  refine Json.isReadable_obj_iff.2 ⟨Table.nodup_keys_overlay hkeys _, fun entry hentry => ?_⟩
  exact (Table.mem_of_mem_overlay hentry).elim (hvalues entry) (hupdates.entered entry)

theorem Field.isRestorable_of_newFieldMembers {variant name : String} {index : Json} {f : Field}
    (h : Field.readMembers .either (newFieldMembers variant index name) = .good f)
    (hindex : index.isReadable = true) : f.IsRestorable := by
  refine Field.isRestorable_of_readMembers h (Json.isReadable_obj_iff.2 ⟨?_, ?_⟩)
  · simp [newFieldMembers]
  · simp [newFieldMembers, hindex]

namespace Form

/-! ## Restorable forms -/

/-- A form that comes back from its own text. -/
structure IsRestorable (form : Form) : Prop where
  fields : ∀ f ∈ form.fields, f.IsRestorable
  names : form.names.Nodup

theorem isReadFrom_toJson {form : Form} (h : ∀ f ∈ form.fields, f.IsRestorable) :
    form.IsReadFrom (form.map Item.toJson) := by
  induction form with
  | nil => exact .nil
  | cons item rest ih =>
    obtain ⟨hitem, hrest⟩ := List.forall_mem_append.1
      (show ∀ f ∈ item.fields ++ Form.fields rest, f.IsRestorable from h)
    refine .cons ?_ (ih hrest)
    cases item with
    | field f => exact .field (hitem f (List.mem_singleton.2 rfl)).read
    | group members =>
      refine .group ?_
      rw [Field.AreReadFrom, List.map_map]
      exact List.map_congr_left fun f hf => (hitem f hf).read

theorem isReadable_toJson {form : Form} (h : ∀ f ∈ form.fields, f.IsRestorable) :
    form.toJson.isReadable = true := by
  refine Json.isReadable_arr_iff.2 fun value hvalue => ?_
  obtain ⟨item, hitem, rfl⟩ := List.mem_map.1 hvalue
  have hfields : ∀ f ∈ item.fields, f.IsRestorable :=
    fun f hf => h f (List.mem_flatMap.2 ⟨item, hitem, hf⟩)
  cases item with
  | field f => exact (hfields f (List.mem_singleton.2 rfl)).readable
  | group members =>
    refine Json.isReadable_arr_iff.2 fun value hvalue => ?_
    obtain ⟨f, hf, rfl⟩ := List.mem_map.1 hvalue
    exact (hfields f hf).readable

/-- A restorable form has a text, and comes back from it. -/
theorem IsRestorable.ofText_text {form : Form} (h : form.IsRestorable) (indent : Option Int) :
    ∃ text, form.text indent = .ok text ∧ ofText text = .ok form := by
  have hreadable := isReadable_toJson h.fields
  refine ⟨_, text_of_isFinite ?_ indent, ?_⟩
  · simp [Json.isFinite, Json.nonFinite?_of_isReadable hreadable]
  · exact ofText_eq_ok_iff.2 ⟨_, Json.read_print _ _ hreadable,
      ofJson_eq_ok_iff.2 ⟨_, rfl, isReadFrom_toJson h.fields, h.names⟩⟩

theorem isRestorable_of_ofText {text : String} {form : Form} (h : ofText text = .ok form) :
    form.IsRestorable := by
  refine ⟨fun f hf => ?_, names_nodup_of_ofText h⟩
  obtain ⟨members, hread, hmembers⟩ := exists_members_of_ofText h hf
  exact Field.isRestorable_of_readMembers hread hmembers

/-! ## Runs -/

/-- Whether the arguments of an operation are readable: the index of a new field, and the values of
an update. -/
def Operation.IsReadable : Operation → Prop
  | .add _ index _ => index.isReadable = true
  | .update _ updates => updates.IsReadable
  | .edit _ updates => updates.IsReadable
  | _ => True

theorem Operation.IsReadable.update {op : Operation} {updates : Update} (h : op.IsReadable)
    (hop : op.update? = some updates) : updates.IsReadable := by
  cases op <;> cases hop <;> exact h

/-- **Every change keeps a form restorable**, if its arguments are readable. -/
theorem Change.isRestorable {form new : Form} {op : Operation} (h : Change form op new)
    (hop : op.IsReadable) (hform : form.IsRestorable) : new.IsRestorable := by
  refine ⟨h.forall_fields hform.fields ?_ ?_ fun h => (isRestorable_of_ofText h).fields,
    h.names_nodup hform.names⟩
  · rintro variant name index digits f rfl hread
    exact Field.isRestorable_of_newFieldMembers hread hop
  · intro updates current updated hupdates hmerge hcurrent
    exact hcurrent.merge (hop.update hupdates) hmerge

theorem isRestorable_of_reachable {form : Form} (h : form.Reachable Operation.IsReadable) :
    form.IsRestorable :=
  h.induction (P := IsRestorable) ⟨by simp, List.nodup_nil⟩ isRestorable_of_ofText
    fun hop hform hchange => hchange.isRestorable hop hform

/-- **A reachable form comes back from its text**, with the same order, groups, attributes and
extras, whatever the indent. So the text of an imported form is canonical: imported and exported
again, it is the same text. -/
theorem ofText_text_of_reachable (indent : Option Int) :
    (∀ form : Form, form.Reachable Operation.IsReadable →
      ∃ text, form.text indent = .ok text ∧ ofText text = .ok form) ∧
    ∀ (source : String) (form : Form), ofText source = .ok form →
      ∃ text, form.text indent = .ok text ∧
        ∃ again, ofText text = .ok again ∧ again.text indent = .ok text := by
  refine ⟨fun form h => (isRestorable_of_reachable h).ofText_text indent, fun source form h => ?_⟩
  obtain ⟨text, htext, hagain⟩ := (isRestorable_of_ofText h).ofText_text indent
  exact ⟨text, htext, form, hagain, htext⟩

theorem ofText_text_after_add :
    let form := after [.field (.named "a")] (.add "Slider" (.int 1) (.ofText "0123456789"))
    form.names = ["a", "name_0123456789"] ∧
      ∃ text, form.text (some 2) = .ok text ∧ ofText text = .ok form := by
  have himport : ofText "[\x7b\"variant\":\"Input\",\"name\":\"a\"\x7d]" =
      .ok [.field (.named "a")] := toOption_eq_some_iff.1 (by decide +kernel)
  refine ⟨by decide +kernel, (ofText_text_of_reachable (some 2)).1 _ (.step (.imported himport) ?_)⟩
  show (Json.int 1).isReadable = true
  decide

end Form

end FormStudio
