import FormStudio.Field.Reader
import FormStudio.Proofs.Json.RoundTrip

/-!
# What it takes to be read as a field

Members are read as a field exactly when each attribute is (`Field.readMembers_eq_good_iff`). A
reader of one attribute takes a value for what it is, so an attribute that is written out again is
read the same (`Reads`). It follows that a field is read from its own members
(`Field.readMembers_toMembers`), whatever the spelling it was read with at first, and that the
values of these members are readable when those it was read from are
(`Field.isReadable_toJson`).
-/
namespace FormStudio

namespace Checked

variable {α β : Type}

theorem map_eq_good_iff {f : α → β} {a : Checked α} {b : β} :
    (f <$> a) = .good b ↔ ∃ x, a = .good x ∧ f x = b := by
  show apply (.good f) a = .good b ↔ _
  cases a <;> simp [apply]

theorem seq_eq_good_iff {f : Checked (α → β)} {a : Checked α} {b : β} :
    (f <*> a) = .good b ↔ ∃ g, f = .good g ∧ ∃ x, a = .good x ∧ g x = b := by
  show apply f a = .good b ↔ _
  cases f <;> cases a <;> simp [apply]

theorem pure_eq_good_iff {a b : α} : (pure a : Checked α) = .good b ↔ a = b := by
  show Checked.good a = .good b ↔ _
  exact Checked.good.injEq a b ▸ Iff.rfl

end Checked

namespace Field

/-! ## Reading one attribute -/

/-- A reader that takes a value for what it is: what is read is written as the value, wherever it
stood, and nothing is read from `null`. -/
structure Reads {α : Type} (read : List PathStep → Json → Checked α) (toJson : α → Json) :
    Prop where
  exact : ∀ {path value a}, read path value = .good a → value = toJson a
  anywhere : ∀ {path value a}, read path value = .good a → ∀ other, read other value = .good a
  null : ∀ {path a}, read path .null ≠ .good a

namespace Reads

variable {α : Type} {read : List PathStep → Json → Checked α} {toJson : α → Json}

theorem readOptional (h : Reads read toJson) {path other : List PathStep} {value : Json} {a : α}
    (hv : read path value = .good a) :
    Field.readOptional (read other) (toJson a) = .good (some a) := by
  obtain rfl := h.exact hv
  have hother := h.anywhere hv other
  cases hj : toJson a with
  | null => exact absurd (hj ▸ hv) h.null
  | _ =>
    rw [hj] at hother
    show some <$> read other _ = _
    rw [hother]
    rfl

end Reads

theorem reads_text : Reads readText .str where
  exact {path value a} h := by cases value <;> cases h; rfl
  anywhere {path value a} h other := by cases value <;> cases h; rfl
  null h := by cases h

theorem reads_flag : Reads readFlag .bool where
  exact {path value a} h := by cases value <;> cases h; rfl
  anywhere {path value a} h other := by cases value <;> cases h; rfl
  null h := by cases h

theorem reads_integer : Reads readInteger Json.int where
  exact {path value a} h := by
    unfold readInteger at h
    split at h <;> cases h
    rfl
  anywhere {path value a} h other := by
    unfold readInteger at h
    split at h <;> cases h
    rfl
  null h := by cases h

theorem reads_number : Reads readNumber .num where
  exact {path value a} h := by
    unfold readNumber at h
    split at h
    · cases h
      rfl
    · split at h <;> cases h
      rfl
    · cases h
  anywhere {path value a} h other := by
    unfold readNumber at h ⊢
    split at h
    · exact h
    · split at h <;> cases h
      next hx => rw [if_pos hx]
    · cases h
  null h := by cases h

theorem mapM_text?_eq_some {items : List Json} {texts : List String}
    (h : items.mapM Json.text? = some texts) : items = texts.map .str := by
  induction items generalizing texts with
  | nil =>
    cases h
    rfl
  | cons item items ih =>
    rw [List.mapM_cons] at h
    obtain ⟨s, hs, h⟩ := Option.bind_eq_some_iff.1 h
    obtain ⟨more, hmore, h⟩ := Option.bind_eq_some_iff.1 h
    cases h
    cases item <;> cases hs
    rw [ih hmore, List.map_cons]

theorem reads_value : Reads readValue FieldValue.toJson where
  exact {path value a} h := by
    unfold readValue at h
    split at h
    · cases h
      rfl
    · cases h
      rfl
    · cases h
      rfl
    · split at h <;> cases h
      rfl
    · split at h <;> cases h
      next htexts => exact congrArg Json.arr (mapM_text?_eq_some htexts)
    · cases h
  anywhere {path value a} h other := by
    unfold readValue at h ⊢
    split at h
    · exact h
    · exact h
    · exact h
    · split at h <;> cases h
      next hx => rw [if_pos hx]
    · split at h <;> cases h
      rfl
    · cases h
  null h := by cases h

theorem reads_variant : Reads readVariant .str where
  exact {path value a} h := by
    unfold readVariant at h
    split at h
    · split at h <;> cases h
      rfl
    · cases h
  anywhere {path value a} h other := by
    unfold readVariant at h ⊢
    split at h
    · split at h <;> cases h
      next hs => rw [if_neg hs]
    · cases h
  null h := by cases h

theorem reads_name : Reads readName .str where
  exact {path value a} h := by
    unfold readName at h
    split at h
    · split at h <;> cases h
      rfl
    · cases h
  anywhere {path value a} h other := by
    unfold readName at h ⊢
    split at h
    · split at h <;> cases h
      next hs => rw [if_pos hs]
    · cases h
  null h := by cases h

theorem isFieldName_of_readName {path : List PathStep} {value : Json} {name : String}
    (h : readName path value = .good name) : isFieldName name = true := by
  unfold readName at h
  split at h
  · split at h <;> cases h
    assumption
  · cases h

/-! ## Reading an attribute of an object -/

section Attribute

variable {α : Type} {read : List PathStep → Json → Checked α} {toJson : α → Json}
variable {members other : Members} {key : String}

theorem mandatory_eq_good {a : α} (h : mandatory members key read = .good a) :
    ∃ value, Table.get? key members = some value ∧ read [.key key] value = .good a := by
  unfold mandatory at h
  split at h
  · next value hget => exact ⟨value, hget, h⟩
  · cases h

theorem defaulted_eq_good {a fallback : α} (h : defaulted members key fallback read = .good a) :
    (Table.get? key members = none ∧ a = fallback) ∨
      ∃ value, Table.get? key members = some value ∧ read [.key key] value = .good a := by
  unfold defaulted at h
  split at h
  · next value hget => exact .inr ⟨value, hget, h⟩
  · next hget =>
    cases h
    exact .inl ⟨hget, rfl⟩

theorem readOptional_eq_good_some {read : Json → Checked α} {value : Json} {a : α}
    (h : readOptional read value = .good (some a)) : read value = .good a := by
  unfold readOptional at h
  split at h
  · cases h
  · obtain ⟨x, hx, h⟩ := Checked.map_eq_good_iff.1 h
    cases h
    exact hx

theorem optional_eq_good_some {a : α} (h : optional members key read = .good (some a)) :
    ∃ value, Table.get? key members = some value ∧ read [.key key] value = .good a := by
  rcases defaulted_eq_good h with ⟨-, h⟩ | ⟨value, hget, h⟩
  · cases h
  · exact ⟨value, hget, readOptional_eq_good_some h⟩

/-- A mandatory attribute is read again where it is written. -/
theorem Reads.mandatory (hr : Reads read toJson) {a : α}
    (h : Field.mandatory members key read = .good a)
    (hget : Table.get? key other = some (toJson a)) :
    Field.mandatory other key read = .good a := by
  obtain ⟨value, -, hvalue⟩ := mandatory_eq_good h
  obtain rfl := hr.exact hvalue
  rw [Field.mandatory, hget]
  exact hvalue

/-- An attribute with a value to fall back on is read again where it is written. -/
theorem Reads.defaulted (hr : Reads read toJson) {a fallback : α}
    (h : Field.defaulted members key fallback read = .good a)
    (hfallback : read [.key key] (toJson fallback) = .good fallback)
    (hget : Table.get? key other = some (toJson a)) :
    Field.defaulted other key fallback read = .good a := by
  rw [Field.defaulted, hget]
  rcases defaulted_eq_good h with ⟨-, rfl⟩ | ⟨value, -, hvalue⟩
  · exact hfallback
  · obtain rfl := hr.exact hvalue
    exact hvalue

/-- An optional attribute is read again where it is written, or left out where there is none;
the key may be another one. -/
theorem Reads.optional (hr : Reads read toJson) {a : Option α} {written : String}
    (h : Field.optional members key read = .good a)
    (hget : Table.get? written other = a.map toJson) :
    Field.optional other written read = .good a := by
  rw [Field.optional, Field.defaulted, hget]
  cases a with
  | none => rfl
  | some a =>
    obtain ⟨value, -, hvalue⟩ := optional_eq_good_some h
    exact hr.readOptional hvalue

/-- What is read of an optional attribute was there, under some key. -/
theorem Reads.mem_of_optional (hr : Reads read toJson) {a : α}
    (h : Field.optional members key read = .good (some a)) : (key, toJson a) ∈ members := by
  obtain ⟨value, hget, hvalue⟩ := optional_eq_good_some h
  obtain rfl := hr.exact hvalue
  exact Table.mem_of_get? hget

end Attribute

/-! ## Reading a field -/

/-- What it takes to be read as a field: every attribute is read, and the other members are its
extras. -/
structure IsReadFrom (spelling : Spelling) (members : Members) (f : Field) : Prop where
  variant : mandatory members "variant" readVariant = .good f.variant
  name : mandatory members "name" readName = .good f.name
  label : defaulted members "label" "" readText = .good f.label
  type : defaulted members "type" "" readText = .good f.type
  description : optional members "description" readText = .good f.description
  placeholder : optional members "placeholder" readText = .good f.placeholder
  value : optional members "value" readValue = .good f.value
  checked : defaulted members "checked" true readFlag = .good f.checked
  disabled : defaulted members "disabled" false readFlag = .good f.disabled
  required : optional members "required" readFlag = .good f.required
  min : optional members "min" readNumber = .good f.min
  max : optional members "max" readNumber = .good f.max
  step : optional members "step" readNumber = .good f.step
  locale : optional members "locale" readText = .good f.locale
  hour12 : optional members "hour12" readFlag = .good f.hour12
  className : optional members (givenKey spelling members "className" "class_name") readText =
    .good f.className
  rowIndex : optional members (givenKey spelling members "rowIndex" "row_index") readInteger =
    .good f.rowIndex
  extras : extraMembers spelling members = f.extras

/-- **A field is read** exactly when each of its attributes is. -/
theorem readMembers_eq_good_iff {spelling : Spelling} {members : Members} {f : Field} :
    readMembers spelling members = .good f ↔ f.IsReadFrom spelling members := by
  constructor
  · intro h
    simp only [readMembers, Checked.seq_eq_good_iff, Checked.map_eq_good_iff,
      Checked.pure_eq_good_iff] at h
    obtain ⟨_, h, _, hextras, rfl⟩ := h
    obtain ⟨_, h, _, hrowIndex, rfl⟩ := h
    obtain ⟨_, h, _, hclassName, rfl⟩ := h
    obtain ⟨_, h, _, hhour12, rfl⟩ := h
    obtain ⟨_, h, _, hlocale, rfl⟩ := h
    obtain ⟨_, h, _, hstep, rfl⟩ := h
    obtain ⟨_, h, _, hmax, rfl⟩ := h
    obtain ⟨_, h, _, hmin, rfl⟩ := h
    obtain ⟨_, h, _, hrequired, rfl⟩ := h
    obtain ⟨_, h, _, hdisabled, rfl⟩ := h
    obtain ⟨_, h, _, hchecked, rfl⟩ := h
    obtain ⟨_, h, _, hvalue, rfl⟩ := h
    obtain ⟨_, h, _, hplaceholder, rfl⟩ := h
    obtain ⟨_, h, _, hdescription, rfl⟩ := h
    obtain ⟨_, h, _, htype, rfl⟩ := h
    obtain ⟨_, h, _, hlabel, rfl⟩ := h
    obtain ⟨_, h, _, hname, rfl⟩ := h
    obtain ⟨_, hvariant, rfl⟩ := h
    exact ⟨hvariant, hname, hlabel, htype, hdescription, hplaceholder, hvalue, hchecked, hdisabled,
      hrequired, hmin, hmax, hstep, hlocale, hhour12, hclassName, hrowIndex, hextras⟩
  · intro h
    simp only [readMembers, h.variant, h.name, h.label, h.type, h.description, h.placeholder,
      h.value, h.checked, h.disabled, h.required, h.min, h.max, h.step, h.locale, h.hour12,
      h.className, h.rowIndex, h.extras]
    rfl

/-! ## Reading the members of a field -/

theorem get?_optionalMember {α : Type} (key other : String) (toJson : α → Json) (a : Option α) :
    Table.get? key (optionalMember other toJson a) = if other = key then a.map toJson else none := by
  cases a <;> simp [optionalMember]

theorem mem_optionalMember {α : Type} {key : String} {toJson : α → Json} {a : Option α}
    {entry : String × Json} (h : entry ∈ optionalMember key toJson a) :
    ∃ x, a = some x ∧ entry = (key, toJson x) := by
  cases a with
  | none => cases h
  | some x => exact ⟨x, rfl, List.mem_singleton.1 h⟩

theorem keys_optionalMember_sublist {α : Type} (key : String) (toJson : α → Json) (a : Option α) :
    (Table.keys (optionalMember key toJson a)).Sublist [key] := by
  cases a with
  | none => exact List.nil_sublist _
  | some x => exact List.Sublist.refl _

theorem keys_attributeMembers_sublist (f : Field) :
    f.attributeMembers.keys.Sublist attributeKeys := by
  have hkeys : attributeKeys = ["variant", "name", "label", "type"] ++ ["description"] ++
      ["placeholder"] ++ ["value"] ++ ["checked", "disabled"] ++ ["required"] ++ ["min"] ++
      ["max"] ++ ["step"] ++ ["locale"] ++ ["hour12"] ++ ["className"] ++ ["rowIndex"] := rfl
  rw [hkeys]
  simp only [attributeMembers, Table.keys_append]
  repeat' apply List.Sublist.append
  all_goals first
    | exact keys_optionalMember_sublist ..
    | exact List.Sublist.refl _

/-- The keys of extras are not those of attributes or callbacks. -/
theorem IsReadFrom.extras_key {spelling : Spelling} {members : Members} {f : Field}
    (h : f.IsReadFrom spelling members) {key : String} (hkey : key ∈ f.extras.keys) :
    key ∉ attributeKeys ∧ key ∉ callbackKeys := by
  rw [← h.extras] at hkey
  obtain ⟨⟨_, value⟩, hentry, rfl⟩ := List.mem_map.1 hkey
  have hextra := (List.mem_filter.1 hentry).2
  simp only [isExtraKey, Bool.and_eq_true, Bool.not_eq_true', List.contains_eq_mem,
    decide_eq_false_iff_not] at hextra
  exact hextra.1.1

/-- Where each attribute is written. -/
theorem get?_attributeMembers (f : Field) :
    Table.get? "variant" f.attributeMembers = some (.str f.variant) ∧
      Table.get? "name" f.attributeMembers = some (.str f.name) ∧
      Table.get? "label" f.attributeMembers = some (.str f.label) ∧
      Table.get? "type" f.attributeMembers = some (.str f.type) ∧
      Table.get? "description" f.attributeMembers = f.description.map .str ∧
      Table.get? "placeholder" f.attributeMembers = f.placeholder.map .str ∧
      Table.get? "value" f.attributeMembers = f.value.map FieldValue.toJson ∧
      Table.get? "checked" f.attributeMembers = some (.bool f.checked) ∧
      Table.get? "disabled" f.attributeMembers = some (.bool f.disabled) ∧
      Table.get? "required" f.attributeMembers = f.required.map .bool ∧
      Table.get? "min" f.attributeMembers = f.min.map .num ∧
      Table.get? "max" f.attributeMembers = f.max.map .num ∧
      Table.get? "step" f.attributeMembers = f.step.map .num ∧
      Table.get? "locale" f.attributeMembers = f.locale.map .str ∧
      Table.get? "hour12" f.attributeMembers = f.hour12.map .bool ∧
      Table.get? "className" f.attributeMembers = f.className.map .str ∧
      Table.get? "rowIndex" f.attributeMembers = f.rowIndex.map Json.int := by
  simp [attributeMembers, Table.get?_append, get?_optionalMember]

theorem givenKey_written (members : Members) (key second : String) :
    givenKey .written members key second = key := by
  simp [givenKey]

theorem extraMembers_toMembers {f : Field}
    (h : ∀ key ∈ f.extras.keys, key ∉ attributeKeys ∧ key ∉ callbackKeys) :
    extraMembers .written f.toMembers = f.extras := by
  have hattributes : extraMembers .written f.attributeMembers = [] := by
    refine List.filter_eq_nil_iff.2 fun ⟨key, value⟩ hentry => ?_
    have hkey := (keys_attributeMembers_sublist f).mem (Table.mem_keys hentry)
    simp [isExtraKey, hkey]
  have hextras : extraMembers .written f.extras = f.extras := by
    refine List.filter_eq_self.2 fun ⟨key, value⟩ hentry => ?_
    obtain ⟨hattribute, hcallback⟩ := h key (Table.mem_keys hentry)
    have hclass : key ≠ "className" := fun e => hattribute (e ▸ by decide)
    have hrow : key ≠ "rowIndex" := fun e => hattribute (e ▸ by decide)
    simp [isExtraKey, givenKey_written, hattribute, hcallback, hclass, hrow]
  have hfilter : ∀ members more : Members, extraMembers .written (members ++ more) =
      extraMembers .written members ++ extraMembers .written more := by
    intro members more
    simp only [extraMembers, isExtraKey, givenKey_written, List.filter_append]
  rw [toMembers, hfilter, hattributes, hextras, List.nil_append]

/-- The extras hide no attribute. -/
theorem IsReadFrom.get?_toMembers {spelling : Spelling} {members : Members} {f : Field}
    (h : f.IsReadFrom spelling members) {key : String} (hkey : key ∈ attributeKeys) :
    Table.get? key f.toMembers = Table.get? key f.attributeMembers := by
  have hnone : Table.get? key f.extras = none :=
    Table.get?_eq_none_iff.2 fun hmem => (h.extras_key hmem).1 hkey
  rw [Field.toMembers, Table.get?_append, hnone, Option.or_none]

/-- **A field is read from its own members**, whatever it was read from at first. -/
theorem IsReadFrom.toMembers {spelling : Spelling} {members : Members} {f : Field}
    (h : f.IsReadFrom spelling members) : f.IsReadFrom .written f.toMembers := by
  have hextras : ∀ key ∈ f.extras.keys, key ∉ attributeKeys ∧ key ∉ callbackKeys :=
    fun _ => h.extras_key
  have hget : ∀ key ∈ attributeKeys, Table.get? key f.toMembers =
      Table.get? key f.attributeMembers := fun _ => h.get?_toMembers
  have hoptional : ∀ {α : Type} {read : List PathStep → Json → Checked α} {toJson : α → Json}
      {key written : String} {a : Option α}, Reads read toJson →
      optional members key read = .good a → written ∈ attributeKeys →
      Table.get? written f.attributeMembers = a.map toJson →
      optional f.toMembers written read = .good a :=
    fun hr ha hkey hw => hr.optional ha ((hget _ hkey).trans hw)
  obtain ⟨hvariant, hname, hlabel, htype, hdescription, hplaceholder, hvalue, hchecked, hdisabled,
    hrequired, hmin, hmax, hstep, hlocale, hhour12, hclassName, hrowIndex⟩ :=
      get?_attributeMembers f
  constructor
  case variant => exact reads_variant.mandatory h.variant ((hget _ (by decide)).trans hvariant)
  case name => exact reads_name.mandatory h.name ((hget _ (by decide)).trans hname)
  case label => exact reads_text.defaulted h.label rfl ((hget _ (by decide)).trans hlabel)
  case type => exact reads_text.defaulted h.type rfl ((hget _ (by decide)).trans htype)
  case description => exact hoptional reads_text h.description (by decide) hdescription
  case placeholder => exact hoptional reads_text h.placeholder (by decide) hplaceholder
  case value => exact hoptional reads_value h.value (by decide) hvalue
  case checked =>
    exact reads_flag.defaulted h.checked rfl ((hget _ (by decide)).trans hchecked)
  case disabled =>
    exact reads_flag.defaulted h.disabled rfl ((hget _ (by decide)).trans hdisabled)
  case required => exact hoptional reads_flag h.required (by decide) hrequired
  case min => exact hoptional reads_number h.min (by decide) hmin
  case max => exact hoptional reads_number h.max (by decide) hmax
  case step => exact hoptional reads_number h.step (by decide) hstep
  case locale => exact hoptional reads_text h.locale (by decide) hlocale
  case hour12 => exact hoptional reads_flag h.hour12 (by decide) hhour12
  case className =>
    rw [givenKey_written]
    exact hoptional reads_text h.className (by decide) hclassName
  case rowIndex =>
    rw [givenKey_written]
    exact hoptional reads_integer h.rowIndex (by decide) hrowIndex
  case extras => exact extraMembers_toMembers hextras

/-! ## Readable fields -/

/-- The members of a field have readable values when those it was read from have. -/
theorem IsReadFrom.isReadable_members {spelling : Spelling} {members : Members} {f : Field}
    (h : f.IsReadFrom spelling members)
    (hvalues : ∀ entry ∈ members, entry.2.isReadable = true) :
    ∀ entry ∈ f.toMembers, entry.2.isReadable = true := by
  have hoptional : ∀ {α : Type} {read : List PathStep → Json → Checked α} {toJson : α → Json}
      {key written : String} {a : Option α}, Reads read toJson →
      optional members key read = .good a →
      ∀ entry ∈ optionalMember written toJson a, entry.2.isReadable = true := by
    intro α read toJson key written a hr ha entry hentry
    obtain ⟨x, rfl, rfl⟩ := mem_optionalMember hentry
    exact hvalues (key, toJson x) (hr.mem_of_optional ha)
  have hextras : ∀ entry ∈ f.extras, entry.2.isReadable = true := by
    intro entry hentry
    rw [← h.extras] at hentry
    exact hvalues entry (List.mem_filter.1 hentry).1
  simp only [Field.toMembers, attributeMembers, List.forall_mem_append]
  refine ⟨⟨⟨⟨⟨⟨⟨⟨⟨⟨⟨⟨⟨?texts, ?_⟩, ?_⟩, ?_⟩, ?flags⟩, ?_⟩, ?_⟩, ?_⟩, ?_⟩, ?_⟩, ?_⟩, ?_⟩, ?_⟩, hextras⟩
  case texts => simp
  case flags => simp
  · exact hoptional reads_text h.description
  · exact hoptional reads_text h.placeholder
  · exact hoptional reads_value h.value
  · exact hoptional reads_flag h.required
  · exact hoptional reads_number h.min
  · exact hoptional reads_number h.max
  · exact hoptional reads_number h.step
  · exact hoptional reads_text h.locale
  · exact hoptional reads_flag h.hour12
  · exact hoptional reads_text h.className
  · exact hoptional reads_integer h.rowIndex

/-- The keys of a field differ when those it was read from do. -/
theorem IsReadFrom.nodup_keys {spelling : Spelling} {members : Members} {f : Field}
    (h : f.IsReadFrom spelling members) (hkeys : members.keys.Nodup) :
    f.toMembers.keys.Nodup := by
  have hattributes : f.attributeMembers.keys.Nodup :=
    (keys_attributeMembers_sublist f).nodup (by decide)
  have hextras : f.extras.keys.Nodup := by
    rw [← h.extras]
    exact (List.filter_sublist.map _).nodup hkeys
  rw [keys_toMembers]
  refine List.nodup_append.2 ⟨hattributes, hextras, ?_⟩
  rintro key hkey _ hextra rfl
  exact (h.extras_key hextra).1 ((keys_attributeMembers_sublist f).mem hkey)

/-- A field that was read from a table of readable values is readable. -/
theorem IsReadFrom.isReadable_toJson {spelling : Spelling} {members : Members} {f : Field}
    (h : f.IsReadFrom spelling members) (hmembers : (Json.obj members).isReadable = true) :
    f.toJson.isReadable = true := by
  obtain ⟨hkeys, hvalues⟩ := Json.isReadable_obj_iff.1 hmembers
  exact Json.isReadable_obj_iff.2 ⟨h.nodup_keys hkeys, h.isReadable_members hvalues⟩

/-- The name of a field that is read is accepted. -/
theorem IsReadFrom.isFieldName {spelling : Spelling} {members : Members} {f : Field}
    (h : f.IsReadFrom spelling members) : FormStudio.isFieldName f.name = true := by
  obtain ⟨value, -, hvalue⟩ := mandatory_eq_good h.name
  exact isFieldName_of_readName hvalue

/-- The name of a field is the one it was given. -/
theorem IsReadFrom.name_eq {spelling : Spelling} {members : Members} {f : Field} {name : String}
    (h : f.IsReadFrom spelling members) (hget : Table.get? "name" members = some (.str name)) :
    f.name = name := by
  obtain ⟨value, hvalue, hread⟩ := mandatory_eq_good h.name
  obtain rfl := reads_name.exact hread
  rw [hget] at hvalue
  cases hvalue
  rfl

end Field

end FormStudio
