import FormStudio.Proofs.Form.Search

/-!
# Removing a field

What is left of a form without one of its fields is said without names (`Form.Loses`): the field
goes, a group goes with it that held nothing else, and all else stands where it stood. Removing by
name takes the first field with the name (`Form.loses_of_removeFirst`), and there is one exactly
where the name is known. Where names differ that is the only one. A field that was added has a new
name, so it is the one that goes (`Form.remove_of_add`).
-/
namespace FormStudio

namespace Form

/-- A form loses a field: all other fields and groups are left in their places. -/
inductive Loses (f : Field) : Form → Form → Prop
  | item (before after : Form) : Loses f (before ++ .field f :: after) (before ++ after)
  /-- A group goes with its last field. -/
  | group (before after : Form) : Loses f (before ++ .group [f] :: after) (before ++ after)
  | member (before after : Form) {pre post : List Field} (hleft : pre ++ post ≠ []) :
    Loses f (before ++ .group (pre ++ f :: post) :: after) (before ++ .group (pre ++ post) :: after)

variable {form new : Form} {name : String} {f : Field}

theorem Loses.cons (h : form.Loses f new) (first : Item) :
    Loses f (first :: form) (first :: new) := by
  cases h with
  | item before after => exact .item (first :: before) after
  | group before after => exact .group (first :: before) after
  | member before after hleft => exact .member (first :: before) after hleft

/-- The fields are left in their order. -/
theorem Loses.exists_fields (h : form.Loses f new) :
    ∃ pre post, form.fields = pre ++ f :: post ∧ new.fields = pre ++ post := by
  cases h with
  | item before after => exact ⟨fields before, fields after, by simp, by simp⟩
  | group before after => exact ⟨fields before, fields after, by simp, by simp⟩
  | @member before after pre post hleft =>
    exact ⟨fields before ++ pre, post ++ fields after, by simp, by simp⟩

/-- Where names differ, the fields that are left are those of other names. -/
theorem Loses.fields_eq (h : form.Loses f new) (hnames : form.names.Nodup) :
    new.fields = form.fields.filter fun g => g.name != f.name := by
  obtain ⟨pre, post, hfields, hleft⟩ := h.exists_fields
  rw [names, hfields, List.map_append, List.map_cons] at hnames
  obtain ⟨-, hpost, hapart⟩ := List.nodup_append.1 hnames
  have hpre : ∀ g ∈ pre, (g.name != f.name) = true := by
    intro g hg
    exact bne_iff_ne.2 fun heq =>
      hapart _ (List.mem_map_of_mem hg) _ List.mem_cons_self heq
  have hrest : ∀ g ∈ post, (g.name != f.name) = true := by
    intro g hg
    exact bne_iff_ne.2 fun heq => (List.nodup_cons.1 hpost).1 (heq ▸ List.mem_map_of_mem hg)
  rw [hleft, hfields, List.filter_append, List.filter_cons_of_neg (by simp),
    List.filter_eq_self.2 hpre, List.filter_eq_self.2 hrest]

theorem names_of_fields_eq (h : new.fields = form.fields.filter fun g => g.name != name) :
    new.names = form.names.filter (· != name) := by
  rw [names, names, h, List.filter_map]
  rfl

/-! ## Removing by name -/

theorem loses_of_removeFirst (h : removeFirst name form = some new) :
    ∃ f, f.name = name ∧ form.Loses f new := by
  induction form generalizing new with
  | nil => cases h
  | cons item rest ih =>
    cases item with
    | field g =>
      rw [removeFirst] at h
      split at h
      · next hname =>
        cases h
        exact ⟨g, hname, .item [] _⟩
      · obtain ⟨left, hleft, rfl⟩ := Option.map_eq_some_iff.1 h
        obtain ⟨f, hname, hloses⟩ := ih hleft
        exact ⟨f, hname, hloses.cons (.field g)⟩
    | group members =>
      rw [removeFirst] at h
      split at h
      · next hany =>
        obtain ⟨g, hg, hname⟩ := List.any_eq_true.1 hany
        obtain ⟨f, pre, post, -, hfirst, rfl, hleft⟩ :=
          List.exists_of_eraseP (p := (·.name == name)) hg hname
        rw [hleft] at h
        refine ⟨f, by simpa using hfirst, ?_⟩
        cases h
        split
        · next hempty =>
          obtain ⟨rfl, rfl⟩ := List.append_eq_nil_iff.1 (List.isEmpty_iff.1 hempty)
          exact .group [] rest
        · next hempty => exact .member [] rest fun hnil => hempty (List.isEmpty_iff.2 hnil)
      · obtain ⟨left, hleft, rfl⟩ := Option.map_eq_some_iff.1 h
        obtain ⟨f, hname, hloses⟩ := ih hleft
        exact ⟨f, hname, hloses.cons (.group members)⟩

/-! ## Finding the field and taking it out -/

/-- The walk down the path to the first field with a name takes out what removing by name takes.
Before the items that are searched there may be others. -/
theorem map_dropAt_findFrom (before form : Form) :
    (findFrom name before.length form).map (dropAt (before ++ form)) =
      (removeFirst name form).map (before ++ ·) := by
  induction form generalizing before with
  | nil => rfl
  | cons item rest ih =>
    have hrest : (findFrom name (before.length + 1) rest).map (dropAt (before ++ item :: rest)) =
        ((removeFirst name rest).map (item :: ·)).map (before ++ ·) := by
      have hih := ih (before ++ [item])
      rw [List.length_append, List.length_singleton, List.append_assoc] at hih
      rw [Option.map_map]
      exact hih.trans (by simp [Function.comp_def])
    cases item with
    | field g =>
      rw [findFrom, removeFirst]
      split
      · exact congrArg some (dropAt_append before rest _)
      · exact hrest
    | group members =>
      rw [findFrom, removeFirst, findMember_eq, ← List.findIdx?_isSome, List.eraseP_eq_eraseIdx]
      cases hplace : members.findIdx? (·.name == name) with
      | none => exact hrest
      | some place => exact congrArg some (dropAt_append_group before rest members place)

theorem map_dropAt_find? (form : Form) (name : String) :
    (form.find? name).map form.dropAt = removeFirst name form :=
  (map_dropAt_findFrom [] form).trans (by simp)

/-- Nothing is removed where the name is unknown. -/
theorem removeFirst_eq_none_iff : removeFirst name form = none ↔ name ∉ form.names := by
  rw [← map_dropAt_find?, Option.map_eq_none_iff, find?_eq_none_iff]

theorem remove_eq_ok_iff : form.remove name = .ok new ↔ removeFirst name form = some new := by
  unfold remove
  cases removeFirst name form <;> simp

theorem remove_isNotFound_iff :
    (∃ e, form.remove name = .error e ∧ e.isNotFound = true) ↔ name ∉ form.names := by
  rw [← removeFirst_eq_none_iff]
  unfold remove
  cases removeFirst name form <;> simp [EditError.isNotFound]

theorem remove_eq_dropAt (form : Form) (name : String) :
    form.remove name = match form.find? name with
      | some path => .ok (form.dropAt path)
      | none => .error (.noFieldNamed name) := by
  rw [remove, ← map_dropAt_find?]
  cases form.find? name <;> rfl

/-! ## Removing what was added -/

/-- The items in front stay, where the name is not in them. -/
theorem removeFirst_append (h : name ∉ form.names) (more : Form) :
    removeFirst name (form ++ more) = (removeFirst name more).map (form ++ ·) := by
  induction form with
  | nil => simp
  | cons item rest ih =>
    rw [names_cons, List.mem_append, not_or] at h
    obtain ⟨hitem, hrest⟩ := h
    rw [List.cons_append]
    cases item with
    | field g =>
      have hname : g.name ≠ name := fun heq => hitem (by simp [Item.fields, heq])
      rw [removeFirst, if_neg hname, ih hrest, Option.map_map]
      rfl
    | group members =>
      have hany : ¬ (members.any (·.name == name)) = true := by
        intro hany
        obtain ⟨g, hg, hname⟩ := List.any_eq_true.1 hany
        exact hitem (List.mem_map.2 ⟨g, hg, by simpa using hname⟩)
      rw [removeFirst, if_neg hany, ih hrest, Option.map_map]
      rfl

theorem remove_of_add {variant : String} {index : Json} {source : DigitSource}
    (h : (form.add variant index source).1 = .ok (new, f)) : new.remove f.name = .ok form := by
  obtain ⟨name, hfresh, hread, rfl⟩ := exists_name_of_add h
  rw [← name_of_newFieldMembers hread] at hfresh
  rw [remove_eq_ok_iff, removeFirst_append hfresh, removeFirst, if_pos rfl]
  simp

/-- **Removing takes exactly one field.** Where names differ, it fails exactly for names that are
not there; otherwise the form loses the field with the name, the others are left in their order,
and so are the groups, but for one that held nothing else. It is the same to look for the path to
the field and to take out what it leads to. Removing what was added gives the form back. -/
theorem remove_isExact :
    (∀ form : Form, form.names.Nodup → ∀ name,
      ((∃ e, form.remove name = .error e ∧ e.isNotFound = true) ↔ name ∉ form.names) ∧
      (name ∈ form.names → ∃ f new, f.name = name ∧ form.remove name = .ok new ∧
        form.Loses f new ∧ new.fields = (form.fields.filter fun g => g.name != name) ∧
        new.names = form.names.filter (· != name)) ∧
      form.remove name = match form.find? name with
        | some path => .ok (form.dropAt path)
        | none => .error (.noFieldNamed name)) ∧
    ∀ (form new : Form) (variant : String) (index : Json) (source : DigitSource) (f : Field),
      (form.add variant index source).1 = .ok (new, f) → new.remove f.name = .ok form := by
  refine ⟨fun form hnames name =>
    ⟨remove_isNotFound_iff, fun hname => ?_, remove_eq_dropAt form name⟩,
    fun form new variant index source f => remove_of_add⟩
  obtain ⟨new, hnew⟩ : ∃ new, removeFirst name form = some new := by
    rw [← Option.ne_none_iff_exists']
    exact fun hnone => removeFirst_eq_none_iff.1 hnone hname
  obtain ⟨f, rfl, hloses⟩ := loses_of_removeFirst hnew
  have hfields := hloses.fields_eq hnames
  exact ⟨f, new, rfl, remove_eq_ok_iff.2 hnew, hloses, hfields, names_of_fields_eq hfields⟩

/-- A group goes with its last field, and an empty one stays. -/
theorem remove_isExact_of_last_member :
    let form : Form := [.group [], .field (.named "a"), .group [.named "b"]]
    form.names.Nodup ∧ form.remove "b" = .ok [.group [], .field (.named "a")] ∧
      (∃ f new, f.name = "b" ∧ form.remove "b" = .ok new ∧ form.Loses f new ∧
        new.names = ["a"]) ∧
      ∃ new f, (form.add "Slider" (.int 3) (.ofText "0123456789")).1 = .ok (new, f) ∧
        f.name = "name_0123456789" ∧ new.remove f.name = .ok form := by
  intro form
  have hnames : form.names.Nodup := by decide
  obtain ⟨f, new, hname, hremove, hloses, -, hleft⟩ :=
    (remove_isExact.1 form hnames "b").2.1 (by decide)
  have hadd : ∃ new f, (form.add "Slider" (.int 3) (.ofText "0123456789")).1 = .ok (new, f) ∧
      f.name = "name_0123456789" := ⟨_, _, rfl, rfl⟩
  obtain ⟨added, f', hadded, hname'⟩ := hadd
  exact ⟨hnames, rfl, ⟨f, new, hname, hremove, hloses, hleft⟩, added, f', hadded, hname',
    remove_isExact.2 form added "Slider" (.int 3) _ f' hadded⟩

end Form

end FormStudio
