import FormStudio.Form.Import
import FormStudio.Proofs.Field.Reader

/-!
# What it takes to be imported

A form is imported from an array exactly when each of its fields is read from its place in it, in
the same order and the same groups, and no two fields share a name (`Form.ofJson_eq_ok_iff`). The
table of the names met so far is what carries this from one place to the next: its keys are those
names, and they stay different.
-/
namespace FormStudio

/-- What a group of fields is read from. -/
def Field.AreReadFrom (fs : List Field) (raws : List Json) : Prop :=
  raws.map (Field.read .written) = fs.map .good

/-- What an item is read from: an object for a field, an array for a group. -/
inductive Item.IsReadFrom : Item → Json → Prop
  | field {f : Field} {members : Members} (h : Field.readMembers .written members = .good f) :
    IsReadFrom (.field f) (.obj members)
  | group {fs : List Field} {raws : List Json} (h : Field.AreReadFrom fs raws) :
    IsReadFrom (.group fs) (.arr raws)

/-- What the items of a form are read from, one by one. -/
inductive Form.IsReadFrom : Form → List Json → Prop
  | nil : IsReadFrom [] []
  | cons {item : Item} {raw : Json} {form : Form} {raws : List Json} (hitem : item.IsReadFrom raw)
    (hrest : IsReadFrom form raws) : IsReadFrom (item :: form) (raw :: raws)

/-! ## One field -/

theorem importField_eq_ok_iff {seen seen' : SeenNames} {position : Position} {raw : Json}
    {f : Field} :
    importField seen position raw = .ok (f, seen') ↔
      Field.read .written raw = .good f ∧ f.name ∉ seen.keys ∧
        seen' = seen ++ [(f.name, position)] := by
  unfold importField Field.read
  cases raw with
  | obj members =>
    dsimp only
    cases Field.readMembers .written members with
    | bad issues => simp
    | good g =>
      dsimp only
      cases hget : Table.get? g.name seen with
      | none =>
        have hfresh : g.name ∉ seen.keys := Table.get?_eq_none_iff.1 hget
        constructor
        · intro h
          cases h
          exact ⟨rfl, hfresh, rfl⟩
        · rintro ⟨h, -, rfl⟩
          cases h
          rfl
      | some first =>
        have hmem : g.name ∈ seen.keys := Table.get?_isSome_iff.1 (by rw [hget]; rfl)
        constructor
        · intro h
          cases h
        · rintro ⟨h, hfresh, -⟩
          cases h
          exact absurd hmem hfresh
  | _ => simp [Checked.fault]

/-! ## The names met so far -/

/-- A fresh name keeps the names met so far different. -/
theorem nodup_keys_concat {seen : SeenNames} {name : String} (hseen : seen.keys.Nodup)
    (hfresh : name ∉ seen.keys) (position : Position) :
    (Table.keys (seen ++ [(name, position)])).Nodup := by
  rw [← Table.put_of_not_mem hfresh]
  exact Table.nodup_keys_put hseen _ _

/-- Where all names are different, the next one is fresh. -/
theorem name_not_mem_keys {seen : SeenNames} {name : String} {names : List String}
    (h : (seen.keys ++ name :: names).Nodup) : name ∉ seen.keys := by
  intro hmem
  exact (List.nodup_append.1 h).2.2 _ hmem _ List.mem_cons_self rfl

/-! ## A group -/

theorem of_importMembers {index place : Nat} {seen seen' : SeenNames} {raws : List Json}
    {fs : List Field} (h : importMembers index seen place raws = .ok (fs, seen')) :
    Field.AreReadFrom fs raws ∧ seen'.keys = seen.keys ++ fs.map Field.name ∧
      (seen.keys.Nodup → seen'.keys.Nodup) := by
  induction raws generalizing seen place fs with
  | nil =>
    cases h
    exact ⟨rfl, by simp, id⟩
  | cons raw rest ih =>
    rw [importMembers] at h
    obtain ⟨⟨f, seen₁⟩, hf, h⟩ := bind_eq_ok_iff.1 h
    obtain ⟨⟨more, seen₂⟩, hmore, h⟩ := bind_eq_ok_iff.1 h
    cases h
    obtain ⟨hread, hfresh, rfl⟩ := importField_eq_ok_iff.1 hf
    obtain ⟨hreads, hkeys, hnodup⟩ := ih hmore
    refine ⟨?_, ?_, fun hseen => hnodup (nodup_keys_concat hseen hfresh _)⟩
    · rw [Field.AreReadFrom, List.map_cons, List.map_cons, hread, hreads]
    · rw [hkeys]
      simp

theorem importMembers_ok (index place : Nat) {seen : SeenNames} {raws : List Json}
    {fs : List Field} (hread : Field.AreReadFrom fs raws)
    (hnodup : (seen.keys ++ fs.map Field.name).Nodup) :
    ∃ seen', importMembers index seen place raws = .ok (fs, seen') ∧
      seen'.keys = seen.keys ++ fs.map Field.name := by
  induction raws generalizing seen place fs with
  | nil =>
    obtain rfl : fs = [] := List.map_eq_nil_iff.1 hread.symm
    exact ⟨seen, rfl, by simp⟩
  | cons raw rest ih =>
    cases fs with
    | nil => cases hread
    | cons f fs =>
      obtain ⟨hf, hfs⟩ := List.cons.inj hread
      have hfresh : f.name ∉ seen.keys := name_not_mem_keys hnodup
      have hone : importField seen (.member index place) raw =
          .ok (f, seen ++ [(f.name, .member index place)]) :=
        importField_eq_ok_iff.2 ⟨hf, hfresh, rfl⟩
      have hnext : (Table.keys (seen ++ [(f.name, .member index place)]) ++
          fs.map Field.name).Nodup := by
        simpa using hnodup
      obtain ⟨seen', hmore, hkeys⟩ := ih (place + 1) hfs hnext
      refine ⟨seen', ?_, by simpa using hkeys⟩
      rw [importMembers, hone, ok_bind]
      dsimp only
      rw [hmore, ok_bind]

/-! ## An item -/

theorem of_importItem {index : Nat} {seen seen' : SeenNames} {raw : Json} {item : Item}
    (h : importItem seen index raw = .ok (item, seen')) :
    item.IsReadFrom raw ∧ seen'.keys = seen.keys ++ item.fields.map Field.name ∧
      (seen.keys.Nodup → seen'.keys.Nodup) := by
  cases raw with
  | arr raws =>
    rw [importItem] at h
    obtain ⟨⟨fs, seen₁⟩, hfs, h⟩ := bind_eq_ok_iff.1 h
    cases h
    obtain ⟨hread, hkeys, hnodup⟩ := of_importMembers hfs
    exact ⟨.group hread, hkeys, hnodup⟩
  | obj members =>
    rw [importItem] at h
    obtain ⟨⟨f, seen₁⟩, hf, h⟩ := bind_eq_ok_iff.1 h
    cases h
    obtain ⟨hread, hfresh, rfl⟩ := importField_eq_ok_iff.1 hf
    exact ⟨.field hread, by simp [Item.fields], fun hseen => nodup_keys_concat hseen hfresh _⟩
  | _ => cases h

theorem importItem_ok (index : Nat) {seen : SeenNames} {raw : Json} {item : Item}
    (hread : item.IsReadFrom raw)
    (hnodup : (seen.keys ++ item.fields.map Field.name).Nodup) :
    ∃ seen', importItem seen index raw = .ok (item, seen') ∧
      seen'.keys = seen.keys ++ item.fields.map Field.name := by
  cases hread with
  | field h =>
    next f members =>
    have hfresh : f.name ∉ seen.keys := name_not_mem_keys hnodup
    have hone : importField seen (.item index) (.obj members) = _ :=
      importField_eq_ok_iff.2 ⟨h, hfresh, rfl⟩
    refine ⟨_, by rw [importItem, hone, ok_bind], by simp [Item.fields]⟩
  | group h =>
    obtain ⟨seen', hmembers, hkeys⟩ := importMembers_ok index 0 h hnodup
    exact ⟨seen', by rw [importItem, hmembers, ok_bind], hkeys⟩

/-! ## A form -/

theorem names_cons (item : Item) (form : Form) :
    Form.names (item :: form) = item.fields.map Field.name ++ Form.names form := by
  simp [Form.names, Form.fields]

theorem of_importItems {index : Nat} {seen : SeenNames} {raws : List Json} {form : Form}
    (h : importItems seen index raws = .ok form) :
    form.IsReadFrom raws ∧ (seen.keys.Nodup → (seen.keys ++ form.names).Nodup) := by
  induction raws generalizing seen index form with
  | nil =>
    cases h
    exact ⟨.nil, by simp [Form.names]⟩
  | cons raw rest ih =>
    rw [importItems] at h
    obtain ⟨⟨item, seen₁⟩, hitem, h⟩ := bind_eq_ok_iff.1 h
    obtain ⟨items, hitems, h⟩ := bind_eq_ok_iff.1 h
    cases h
    obtain ⟨hread, hkeys, hseen₁⟩ := of_importItem hitem
    obtain ⟨hreads, hnodup⟩ := ih hitems
    refine ⟨.cons hread hreads, fun hseen => ?_⟩
    rw [names_cons, ← List.append_assoc, ← hkeys]
    exact hnodup (hseen₁ hseen)

theorem importItems_ok (index : Nat) {seen : SeenNames} {raws : List Json} {form : Form}
    (hread : form.IsReadFrom raws) (hnodup : (seen.keys ++ form.names).Nodup) :
    importItems seen index raws = .ok form := by
  induction hread generalizing seen index with
  | nil => rfl
  | @cons item raw form raws hitem hrest ih =>
    rw [names_cons, ← List.append_assoc] at hnodup
    obtain ⟨seen', hone, hkeys⟩ := importItem_ok index hitem (List.nodup_append.1 hnodup).1
    rw [importItems, hone, ok_bind]
    dsimp only
    rw [ih (index + 1) (hkeys ▸ hnodup), ok_bind]

namespace Form

/-- **A form is imported from data** exactly when the data is an array of what its items are read
from and no two of its fields share a name. -/
theorem ofJson_eq_ok_iff {data : Json} {form : Form} :
    ofJson data = .ok form ↔ ∃ raws, data = .arr raws ∧ form.IsReadFrom raws ∧ form.names.Nodup := by
  constructor
  · intro h
    cases data with
    | arr raws =>
      obtain ⟨hread, hnodup⟩ := @of_importItems 0 [] _ _ h
      exact ⟨raws, rfl, hread, hnodup List.nodup_nil⟩
    | _ => cases h
  · rintro ⟨raws, rfl, hread, hnodup⟩
    exact importItems_ok 0 hread hnodup

theorem ofText_eq_ok_iff {text : String} {form : Form} :
    ofText text = .ok form ↔ ∃ data, Json.read .finite text = .ok data ∧ ofJson data = .ok form := by
  unfold ofText ofTextIn
  cases Json.read .finite text <;> simp

theorem ofSource_eq_ok_iff {source : Json} {form : Form} :
    ofSource source = .ok form ↔ ∃ text, source = .str text ∧ ofText text = .ok form := by
  cases source <;> simp [ofSource]

theorem names_nodup_of_ofText {text : String} {form : Form} (h : ofText text = .ok form) :
    form.names.Nodup := by
  obtain ⟨data, -, h⟩ := ofText_eq_ok_iff.1 h
  obtain ⟨raws, -, -, hnodup⟩ := ofJson_eq_ok_iff.1 h
  exact hnodup

/-! ## Where the fields come from -/

end Form

theorem Field.AreReadFrom.exists_members {fs : List Field} {raws : List Json}
    (h : Field.AreReadFrom fs raws) {f : Field} (hf : f ∈ fs) :
    ∃ members, .obj members ∈ raws ∧ Field.readMembers .written members = .good f := by
  have hmem : Checked.good f ∈ raws.map (Field.read .written) := by
    rw [h]
    exact List.mem_map_of_mem hf
  obtain ⟨raw, hraw, hread⟩ := List.mem_map.1 hmem
  cases raw with
  | obj members => exact ⟨members, hraw, hread⟩
  | _ => cases hread

theorem Item.IsReadFrom.exists_members {item : Item} {raw : Json} (h : item.IsReadFrom raw)
    {f : Field} (hf : f ∈ item.fields) :
    ∃ members, Field.readMembers .written members = .good f ∧
      (raw.isReadable = true → (Json.obj members).isReadable = true) := by
  cases h with
  | field h =>
    cases List.mem_singleton.1 hf
    exact ⟨_, h, id⟩
  | group h =>
    obtain ⟨members, hmem, hread⟩ := h.exists_members hf
    exact ⟨members, hread, fun hraw => Json.isReadable_arr_iff.1 hraw _ hmem⟩

namespace Form

/-- Every field of a form is read from some part of what the form is read from. -/
theorem IsReadFrom.exists_members {form : Form} {raws : List Json} (h : form.IsReadFrom raws)
    {f : Field} (hf : f ∈ form.fields) :
    ∃ members, Field.readMembers .written members = .good f ∧
      ((Json.arr raws).isReadable = true → (Json.obj members).isReadable = true) := by
  induction h with
  | nil => cases hf
  | @cons item raw form raws hitem hrest ih =>
    rcases List.mem_append.1 (show f ∈ item.fields ++ Form.fields form from hf) with hf | hf
    · obtain ⟨members, hread, hreadable⟩ := hitem.exists_members hf
      refine ⟨members, hread, fun hall => hreadable ?_⟩
      exact Json.isReadable_arr_iff.1 hall raw List.mem_cons_self
    · obtain ⟨members, hread, hreadable⟩ := ih hf
      refine ⟨members, hread, fun hall => hreadable (Json.isReadable_arr_iff.2 ?_)⟩
      exact (List.forall_mem_cons.1 (Json.isReadable_arr_iff.1 hall)).2

/-- Every field of an imported form is read from an object of readable values. -/
theorem exists_members_of_ofText {text : String} {form : Form} (h : ofText text = .ok form)
    {f : Field} (hf : f ∈ form.fields) :
    ∃ members, Field.readMembers .written members = .good f ∧
      (Json.obj members).isReadable = true := by
  obtain ⟨data, hdata, h⟩ := ofText_eq_ok_iff.1 h
  obtain ⟨raws, rfl, hread, -⟩ := ofJson_eq_ok_iff.1 h
  obtain ⟨members, hf, hreadable⟩ := hread.exists_members hf
  exact ⟨members, hf, hreadable (Json.isReadable_of_read hdata)⟩

end Form

end FormStudio
