import FormStudio.Form.Export
import FormStudio.Proofs.Form.Run
import FormStudio.Proofs.Json.Injective

/-!
# Different forms have different texts

A field that was read from an object is read again from its own members, so the members say which
field it is. Operations make no other fields (`Form.Change.isRead`). Texts of different values
differ, and with them the texts of different forms (`Form.eq_of_text`): a text tells apart an
integer from a binary number, the order of extras, and how the fields are grouped.
-/
namespace FormStudio

/-! ## Fields that were read -/

/-- A field that some object was read as. -/
def Field.IsRead (f : Field) : Prop :=
  ∃ spelling members, Field.readMembers spelling members = .good f

theorem Field.IsRead.readMembers_toMembers {f : Field} (h : f.IsRead) :
    Field.readMembers .written f.toMembers = .good f := by
  obtain ⟨spelling, members, hread⟩ := h
  exact Field.readMembers_eq_good_iff.2 (Field.readMembers_eq_good_iff.1 hread).toMembers

theorem Field.IsRead.eq_of_toMembers {f g : Field} (hf : f.IsRead) (hg : g.IsRead)
    (h : f.toMembers = g.toMembers) : f = g := by
  have hread := hf.readMembers_toMembers
  rw [h, hg.readMembers_toMembers] at hread
  exact (Checked.good.inj hread).symm

theorem Field.eq_of_map_toJson {fs gs : List Field} (hfs : ∀ f ∈ fs, f.IsRead)
    (hgs : ∀ g ∈ gs, g.IsRead) (h : fs.map Field.toJson = gs.map Field.toJson) : fs = gs := by
  induction fs generalizing gs with
  | nil => exact (List.map_eq_nil_iff.1 h.symm).symm
  | cons f fs ih =>
    cases gs with
    | nil => cases h
    | cons g gs =>
      obtain ⟨hf, hfs⟩ := List.forall_mem_cons.1 hfs
      obtain ⟨hg, hgs⟩ := List.forall_mem_cons.1 hgs
      obtain ⟨hhead, htail⟩ := List.cons.inj h
      rw [hf.eq_of_toMembers hg (Json.obj.inj hhead), ih hfs hgs htail]

theorem Item.eq_of_toJson {item other : Item} (hitem : ∀ f ∈ item.fields, f.IsRead)
    (hother : ∀ f ∈ other.fields, f.IsRead) (h : item.toJson = other.toJson) : item = other := by
  cases item with
  | field f =>
    cases other with
    | field g =>
      have hf := hitem f List.mem_cons_self
      have hg := hother g List.mem_cons_self
      rw [hf.eq_of_toMembers hg (Json.obj.inj h)]
    | group members => cases h
  | group members =>
    cases other with
    | field g => cases h
    | group members' =>
      have hmembers : members = members' := Field.eq_of_map_toJson hitem hother (Json.arr.inj h)
      rw [hmembers]

namespace Form

theorem eq_of_toJson {form other : Form} (hform : ∀ f ∈ form.fields, f.IsRead)
    (hother : ∀ f ∈ other.fields, f.IsRead) (h : form.toJson = other.toJson) : form = other := by
  replace h : form.map Item.toJson = other.map Item.toJson := Json.arr.inj h
  induction form generalizing other with
  | nil => exact (List.map_eq_nil_iff.1 h.symm).symm
  | cons item form ih =>
    cases other with
    | nil => cases h
    | cons item' other =>
      obtain ⟨hitem, hform⟩ := List.forall_mem_append.1
        (show ∀ f ∈ item.fields ++ Form.fields form, f.IsRead from hform)
      obtain ⟨hitem', hother⟩ := List.forall_mem_append.1
        (show ∀ f ∈ item'.fields ++ Form.fields other, f.IsRead from hother)
      obtain ⟨hhead, htail⟩ := List.cons.inj h
      rw [Item.eq_of_toJson hitem hitem' hhead, ih hform hother htail]

theorem text_eq_ok {indent : Option Int} {form : Form} {text : String}
    (h : form.text indent = .ok text) : text = Json.print (.ofIndent indent false) form.toJson := by
  unfold Form.text at h
  split at h
  · exact (Except.ok.inj h).symm
  · cases h

/-- **Different forms have different texts**: numbers by their spelling, extras in their order, and
fields by their groups. -/
theorem eq_of_text {indent : Option Int} {form other : Form} {text : String}
    (hform : ∀ f ∈ form.fields, f.IsRead) (hother : ∀ f ∈ other.fields, f.IsRead)
    (h : form.text indent = .ok text) (h' : other.text indent = .ok text) : form = other := by
  have hprint := (text_eq_ok h).symm.trans (text_eq_ok h')
  exact eq_of_toJson hform hother (Json.print_injective _ hprint)

/-- Every change keeps the fields read: new ones and merged ones are read from members, and
imported ones from the text. -/
theorem Change.isRead {form new : Form} {op : Operation} (h : Change form op new)
    (hform : ∀ f ∈ form.fields, f.IsRead) : ∀ f ∈ new.fields, f.IsRead := by
  refine h.forall_fields hform ?_ ?_ ?_
  · intro variant name index digits f _ hread
    exact ⟨_, _, hread⟩
  · intro updates current updated _ hmerge _
    exact ⟨_, _, Field.merge_eq_ok_iff.1 hmerge⟩
  · intro text source hsource f hf
    obtain ⟨members, hread, -⟩ := exists_members_of_ofText hsource hf
    exact ⟨_, _, hread⟩

end Form

end FormStudio
