import FormStudio.Form.Edit
import FormStudio.Proofs.Form.Import

/-!
# Runs of operations on a form

An operation that is refused leaves the form as it is. What the others do to the fields is said once
(`Form.Change`): a new field comes last, an update replaces one field in its place, a removal takes
fields away, and an import brings its own. Everything that holds of all forms that can be reached
(`Form.Reachable`) follows from that.
-/
namespace FormStudio

namespace Form

/-! ## Operations -/

/-- What can be done to a form. An edit finds its field by the name, an update by a path. -/
inductive Operation where
  | add (variant : String) (index : Json) (digits : DigitSource)
  | update (path : FieldPath) (updates : Update)
  | edit (name : String) (updates : Update)
  | remove (name : String)
  | reset
  | importForm (source : Json)

/-- The form an operation makes; none where it is refused. -/
def perform? (form : Form) : Operation → Option Form
  | .add variant index digits => (form.add variant index digits).1.toOption.map (·.1)
  | .update path updates => (form.update path updates).toOption
  | .edit name updates => (form.find? name).bind fun path => (form.update path updates).toOption
  | .remove name => (form.remove name).toOption
  | .reset => some []
  | .importForm source => (ofSource source).toOption

/-- The form after an operation, whether it is refused or not. -/
def after (form : Form) (op : Operation) : Form := (form.perform? op).getD form

/-- The forms that are reached from an empty or an imported one by admitted operations. -/
inductive Reachable (Admits : Operation → Prop) : Form → Prop
  | empty : Reachable Admits []
  | imported {text : String} {form : Form} (h : ofText text = .ok form) : Reachable Admits form
  | step {form : Form} {op : Operation} (h : Reachable Admits form) (hop : Admits op) :
    Reachable Admits (form.after op)

/-! ## Fields in their places -/

theorem eq_take_append_drop {α : Type} {items : List α} {n : Nat} {item : α}
    (h : items[n]? = some item) : items = items.take n ++ item :: items.drop (n + 1) := by
  obtain ⟨hn, rfl⟩ := List.getElem?_eq_some_iff.1 h
  rw [← List.drop_eq_getElem_cons hn, List.take_append_drop]

theorem set_eq_take_append_drop {α : Type} {items : List α} {n : Nat} {item : α}
    (h : items[n]? = some item) (new : α) :
    items.set n new = items.take n ++ new :: items.drop (n + 1) := by
  obtain ⟨hn, -⟩ := List.getElem?_eq_some_iff.1 h
  rw [List.set_eq_take_append_cons_drop, if_pos hn]

theorem getElem?_of_at? {α : Type} {items : List α} {index : Int} {item : α}
    (h : at? items index = some item) : items[index.toNat]? = some item := by
  unfold at? at h
  split at h
  · cases h
  · exact h

/-- **A path splits the fields** at the field it addresses, and replacing that field leaves the
others where they are. -/
theorem fields_of_get {form : Form} {path : FieldPath} {g : Field} (h : form.get path = .ok g) :
    ∃ pre post, form.fields = pre ++ g :: post ∧
      ∀ f, (form.replace f path).fields = pre ++ f :: post := by
  unfold get at h
  split at h
  · cases h
  · next i =>
    split at h <;> cases h
    next hat =>
    have hitem := getElem?_of_at? hat
    refine ⟨fields (form.take i.toNat), fields (form.drop (i.toNat + 1)), ?_, fun f => ?_⟩
    · rw [← fields_cons_field, ← fields_append, ← eq_take_append_drop hitem]
    · rw [← fields_cons_field, ← fields_append, ← set_eq_take_append_drop hitem]
      rfl
  · next i j =>
    split at h
    · next members hat =>
      split at h <;> cases h
      next hmember =>
      have hitem := getElem?_of_at? hat
      have hplace := getElem?_of_at? hmember
      refine ⟨fields (form.take i.toNat) ++ members.take j.toNat,
        members.drop (j.toNat + 1) ++ fields (form.drop (i.toNat + 1)), ?_, fun f => ?_⟩
      · calc fields form
            = fields (form.take i.toNat) ++ (members ++ fields (form.drop (i.toNat + 1))) := by
              rw [← fields_cons_group, ← fields_append, ← eq_take_append_drop hitem]
          _ = fields (form.take i.toNat) ++ ((members.take j.toNat ++ g :: members.drop (j.toNat + 1))
                ++ fields (form.drop (i.toNat + 1))) := by
              rw [← eq_take_append_drop hplace]
          _ = _ := by simp
      · have hreplace : form.replace f [i, j] =
            form.set i.toNat (.group (members.set j.toNat f)) := by
          simp only [replace, hitem]
        rw [hreplace, set_eq_take_append_drop hitem, fields_append, fields_cons_group,
          set_eq_take_append_drop hplace]
        simp
    · cases h
  · cases h

theorem fields_removeFirst {name : String} {form new : Form}
    (h : removeFirst name form = some new) : new.fields.Sublist form.fields := by
  induction form generalizing new with
  | nil => cases h
  | cons item rest ih =>
    cases item with
    | field f =>
      rw [removeFirst] at h
      split at h
      · cases h
        exact List.sublist_cons_self f (fields rest)
      · obtain ⟨left, hleft, rfl⟩ := Option.map_eq_some_iff.1 h
        exact (ih hleft).cons_cons f
    | group members =>
      rw [removeFirst] at h
      split at h
      · cases h
        have hsub : (members.eraseP (·.name == name)).Sublist members := List.eraseP_sublist
        split
        · exact List.sublist_append_right members (fields rest)
        · exact hsub.append_right (fields rest)
      · obtain ⟨left, hleft, rfl⟩ := Option.map_eq_some_iff.1 h
        exact (ih hleft).append_left members

end Form

/-- The members that an update lays over those of a field. -/
def Update.entered : Update → Members
  | .members updates => Field.updateMembers updates
  | .field source => source.toMembers

/-- A merge reads the field again, from its own members under those of the update. -/
theorem Field.merge_eq_ok_iff {current updated : Field} {updates : Update} :
    current.merge updates = .ok updated ↔
      readMembers .written (Table.overlay current.toMembers updates.entered) = .good updated := by
  have hoverlay : ∀ more, current.overlay more = .ok updated ↔
      readMembers .written (Table.overlay current.toMembers more) = .good updated := by
    intro more
    unfold overlay
    cases readMembers .written (Table.overlay current.toMembers more) <;> simp
  cases updates with
  | members updates =>
    simp only [Update.entered, merge]
    exact hoverlay (updateMembers updates)
  | field source =>
    simp only [Update.entered, merge]
    exact hoverlay source.toMembers

namespace Form

/-! ## What an operation does -/

/-- The update that an operation merges into a field. -/
def Operation.update? : Operation → Option Update
  | .update _ updates => some updates
  | .edit _ updates => some updates
  | _ => none

/-- What an operation does to a form, where it is not refused. -/
inductive Change (form : Form) : Operation → Form → Prop
  /-- A new field is read from the members of its kind, under a fresh name. -/
  | added {variant name : String} {index : Json} {digits : DigitSource} {f : Field}
    (fresh : name ∉ form.names)
    (read : Field.readMembers .either (newFieldMembers variant index name) = .good f) :
    Change form (.add variant index digits) (form ++ [.field f])
  /-- An updated field keeps its place, and its name unless the new one is free. -/
  | updated {op : Operation} {updates : Update} {new : Form} {pre post : List Field}
    {current updated : Field} (merges : op.update? = some updates)
    (before : form.fields = pre ++ current :: post)
    (merge : current.merge updates = .ok updated)
    (name : updated.name = current.name ∨ updated.name ∉ form.names)
    (after : new.fields = pre ++ updated :: post) : Change form op new
  | removed {name : String} {new : Form} (fewer : new.fields.Sublist form.fields) :
    Change form (.remove name) new
  | reset : Change form .reset []
  | imported {text : String} {new : Form} (h : ofText text = .ok new) :
    Change form (.importForm (.str text)) new

/-- A new field comes last, and it is read under a fresh name. -/
theorem exists_name_of_add {form new : Form} {variant : String} {index : Json}
    {digits : DigitSource} {f : Field} (h : (form.add variant index digits).1 = .ok (new, f)) :
    ∃ name, name ∉ form.names ∧
      Field.readMembers .either (newFieldMembers variant index name) = .good f ∧
      new = form ++ [.field f] := by
  unfold add Field.create at h
  have hfresh : ∀ name, (digits.freshName form.names).1 = some name → name ∉ form.names :=
    fun _ => DigitSource.freshName_not_mem
  generalize digits.freshName form.names = drawn at h hfresh
  obtain ⟨name, rest⟩ := drawn
  cases name with
  | none => cases h
  | some name =>
    cases hread : Field.readMembers .either (newFieldMembers variant index name) with
    | bad issues =>
      simp only [hread] at h
      cases h
    | good g =>
      simp only [hread] at h
      cases h
      exact ⟨name, hfresh name rfl, hread, rfl⟩

theorem change_of_add {form new : Form} {variant : String} {index : Json} {digits : DigitSource}
    {f : Field} (h : (form.add variant index digits).1 = .ok (new, f)) :
    Change form (.add variant index digits) new := by
  obtain ⟨name, hfresh, hread, rfl⟩ := exists_name_of_add h
  exact .added hfresh hread

theorem change_of_update {form new : Form} {path : FieldPath} {updates : Update} {op : Operation}
    (hop : op.update? = some updates) (h : form.update path updates = .ok new) :
    Change form op new := by
  unfold update at h
  split at h
  · cases h
  obtain ⟨current, hget, h⟩ := bind_eq_ok_iff.1 h
  obtain ⟨updated, hmerge, h⟩ := bind_eq_ok_iff.1 h
  split at h
  · cases h
  next hname =>
  cases h
  obtain ⟨pre, post, hbefore, hafter⟩ := fields_of_get hget
  refine .updated hop hbefore hmerge ?_ (hafter updated)
  by_cases hsame : updated.name = current.name
  · exact .inl hsame
  · exact .inr fun hmem => hname ⟨hsame, hmem⟩

/-- **What an operation does** to a form. -/
theorem change_of_perform? {form new : Form} {op : Operation} (h : form.perform? op = some new) :
    Change form op new := by
  cases op with
  | add variant index digits =>
    obtain ⟨⟨new, f⟩, hadd, rfl⟩ := Option.map_eq_some_iff.1 h
    exact change_of_add (toOption_eq_some_iff.1 hadd)
  | update path updates => exact change_of_update rfl (toOption_eq_some_iff.1 h)
  | edit name updates =>
    obtain ⟨path, -, h⟩ := Option.bind_eq_some_iff.1 h
    exact change_of_update rfl (toOption_eq_some_iff.1 h)
  | remove name =>
    have hremove := toOption_eq_some_iff.1 h
    unfold remove at hremove
    split at hremove <;> cases hremove
    next hfirst => exact .removed (fields_removeFirst hfirst)
  | reset =>
    cases h
    exact .reset
  | importForm source =>
    obtain ⟨text, rfl, htext⟩ := ofSource_eq_ok_iff.1 (toOption_eq_some_iff.1 h)
    exact .imported htext

/-- What holds of all fields of a form holds of all after a change, if it holds of new fields and
of imported ones and is kept by a merge. -/
theorem Change.forall_fields {P : Field → Prop} {form new : Form} {op : Operation}
    (h : Change form op new) (hform : ∀ f ∈ form.fields, P f)
    (hadd : ∀ {variant name : String} {index : Json} {digits : DigitSource} {f : Field},
      op = .add variant index digits →
        Field.readMembers .either (newFieldMembers variant index name) = .good f → P f)
    (hmerge : ∀ {updates : Update} {current updated : Field}, op.update? = some updates →
      current.merge updates = .ok updated → P current → P updated)
    (himport : ∀ {text : String} {source : Form}, ofText text = .ok source →
      ∀ f ∈ source.fields, P f) : ∀ f ∈ new.fields, P f := by
  cases h with
  | added fresh read =>
    rw [fields_append]
    exact List.forall_mem_append.2 ⟨hform, by simpa using hadd rfl read⟩
  | updated merges before merge name after =>
    rw [before] at hform
    obtain ⟨hpre, hpost⟩ := List.forall_mem_append.1 hform
    obtain ⟨hcurrent, hpost⟩ := List.forall_mem_cons.1 hpost
    rw [after]
    exact List.forall_mem_append.2
      ⟨hpre, List.forall_mem_cons.2 ⟨hmerge merges merge hcurrent, hpost⟩⟩
  | removed fewer => exact fun f hf => hform f (fewer.mem hf)
  | reset => simp
  | imported h => exact himport h

/-- An operation changes the form or leaves it as it is. -/
theorem after_eq_or_change (form : Form) (op : Operation) :
    form.after op = form ∨ Change form op (form.after op) := by
  unfold after
  cases h : form.perform? op with
  | none => exact .inl rfl
  | some new => exact .inr (change_of_perform? h)

/-- **What holds of all reachable forms**: what holds of the empty one and of imported ones, and is
kept by every change. -/
theorem Reachable.induction {Admits : Operation → Prop} {P : Form → Prop}
    (empty : P []) (imported : ∀ {text form}, ofText text = .ok form → P form)
    (change : ∀ {form op new}, Admits op → P form → Change form op new → P new)
    {form : Form} (h : Reachable Admits form) : P form := by
  induction h with
  | empty => exact empty
  | imported h => exact imported h
  | @step form op h hop ih =>
    rcases after_eq_or_change form op with heq | hchange
    · rwa [heq]
    · exact change hop ih hchange

end Form

end FormStudio
