import FormStudio.Proofs.Field.Reader

/-!
# What is kept of a field object

A field that was read from an object is written as what the object gave
(`Field.toMembers_eq`): each attribute with the very value it was given, or with the value it falls
back on, and then the unknown members as they stood. `Field.IsKeptFrom` says the same of the
written members key by key. No value is coerced on the way and none but a callback is lost
(`Field.isKeptFrom_of_read`).
-/
namespace FormStudio

namespace Field

/-! ## What is written -/

/-- The value under a key, where there is one and it is not `null`. -/
def nonNull? (members : Members) (key : String) : Option Json :=
  (Table.get? key members).filter (· != .null)

/-- What an attribute is written as where an object does not give it. -/
def fallback? : String → Option Json
  | "label" => some (.str "")
  | "type" => some (.str "")
  | "checked" => some (.bool true)
  | "disabled" => some (.bool false)
  | _ => none

def kept? (members : Members) (key : String) : Option Json :=
  (nonNull? members key).or (fallback? key)

/-- The members under some keys, without those that have no value. -/
def membersUnder (value? : String → Option Json) (keys : List String) : Members :=
  keys.flatMap fun key => optionalMember key id (value? key)

/-- The members of an object that belong to no attribute and no callback. -/
def otherMembers (members : Members) : Members :=
  members.filter fun (key, _) => !attributeKeys.contains key && !callbackKeys.contains key

/-- What is written of an object, key by key. -/
structure IsKeptFrom (members written : Members) : Prop where
  given : ∀ key ∈ attributeKeys, ∀ value, value ≠ .null → Table.get? key members = some value →
    Table.get? key written = some value
  defaulted : ∀ key ∈ attributeKeys, ∀ value, fallback? key = some value →
    Table.get? key members = none → Table.get? key written = some value
  /-- An optional attribute that is absent or `null` is left out. -/
  absent : ∀ key ∈ attributeKeys, fallback? key = none →
    (Table.get? key members = none ∨ Table.get? key members = some .null) → key ∉ written.keys
  callbacks : ∀ key ∈ callbackKeys, key ∉ written.keys
  /-- All other members stand as they stood, in order, behind the attributes. -/
  others : ∃ attributes : Members, written = attributes ++ otherMembers members ∧
    attributes.keys.Sublist attributeKeys

/-! ## Reading and writing one attribute -/

section Attribute

variable {α : Type} {read : List PathStep → Json → Checked α} {toJson : α → Json}
variable {members : Members} {key : String}

theorem nonNull?_of_get? {value : Json} (hget : Table.get? key members = some value)
    (hvalue : value ≠ .null) : nonNull? members key = some value := by
  simp [nonNull?, hget, hvalue]

theorem nonNull?_eq_none_iff :
    nonNull? members key = none ↔
      Table.get? key members = none ∨ Table.get? key members = some .null := by
  unfold nonNull?
  cases Table.get? key members <;> simp

theorem Reads.ne_null (hr : Reads read toJson) {path : List PathStep} {value : Json} {a : α}
    (h : read path value = .good a) : value ≠ .null := by
  rintro rfl
  exact hr.null h

theorem Reads.nonNull?_mandatory (hr : Reads read toJson) {a : α}
    (h : Field.mandatory members key read = .good a) :
    nonNull? members key = some (toJson a) := by
  obtain ⟨value, hget, hvalue⟩ := mandatory_eq_good h
  rw [nonNull?_of_get? hget (hr.ne_null hvalue), hr.exact hvalue]

theorem Reads.nonNull?_defaulted (hr : Reads read toJson) {a fallback : α}
    (h : Field.defaulted members key fallback read = .good a) :
    (nonNull? members key).or (some (toJson fallback)) = some (toJson a) := by
  rcases defaulted_eq_good h with ⟨hget, rfl⟩ | ⟨value, hget, hvalue⟩
  · rw [nonNull?_eq_none_iff.2 (.inl hget), Option.none_or]
  · rw [nonNull?_of_get? hget (hr.ne_null hvalue), hr.exact hvalue, Option.some_or]

theorem Reads.nonNull?_optional (hr : Reads read toJson) {a : Option α}
    (h : Field.optional members key read = .good a) :
    nonNull? members key = a.map toJson := by
  cases a with
  | some a =>
    obtain ⟨value, hget, hvalue⟩ := optional_eq_good_some h
    rw [nonNull?_of_get? hget (hr.ne_null hvalue), hr.exact hvalue, Option.map_some]
  | none =>
    rw [Option.map_none, nonNull?_eq_none_iff]
    rcases defaulted_eq_good h with ⟨hget, -⟩ | ⟨value, hget, hvalue⟩
    · exact .inl hget
    · -- a reader of a value that is there never gives nothing
      cases value with
      | null => exact .inr hget
      | _ =>
        obtain ⟨x, -, hx⟩ := Checked.map_eq_good_iff.1 hvalue
        cases hx

end Attribute

/-! ## All members -/

theorem membersUnder_cons (value? : String → Option Json) (key : String) (keys : List String) :
    membersUnder value? (key :: keys) =
      optionalMember key id (value? key) ++ membersUnder value? keys := List.flatMap_cons

theorem optionalMember_map {α : Type} (key : String) (toJson : α → Json) (a : Option α) :
    optionalMember key id (a.map toJson) = optionalMember key toJson a := by
  cases a <;> rfl

theorem get?_membersUnder (value? : String → Option Json) (key : String) (keys : List String) :
    Table.get? key (membersUnder value? keys) = if key ∈ keys then value? key else none := by
  induction keys with
  | nil => rfl
  | cons other keys ih =>
    rw [membersUnder_cons, Table.get?_append, get?_optionalMember, ih]
    by_cases h : other = key
    · subst h
      cases value? other <;> simp
    · simp [h, Ne.symm h]

theorem keys_membersUnder_sublist (value? : String → Option Json) (keys : List String) :
    (membersUnder value? keys).keys.Sublist keys := by
  induction keys with
  | nil => exact List.nil_sublist _
  | cons key keys ih =>
    rw [membersUnder_cons, Table.keys_append]
    exact (keys_optionalMember_sublist key id (value? key)).append ih

theorem extraMembers_written (members : Members) :
    extraMembers .written members = otherMembers members := by
  have hkey : ∀ key, isExtraKey .written members key =
      (!attributeKeys.contains key && !callbackKeys.contains key) := by
    intro key
    -- the two keys that have a second spelling are keys of attributes
    by_cases hkey : key ∈ attributeKeys
    · simp [isExtraKey, hkey]
    · have hclass : (key != "className") = true := bne_iff_ne.2 fun heq => hkey (heq ▸ by decide)
      have hrow : (key != "rowIndex") = true := bne_iff_ne.2 fun heq => hkey (heq ▸ by decide)
      simp only [isExtraKey, givenKey_written, hclass, hrow, Bool.and_true]
  simp only [extraMembers, otherMembers, hkey]

variable {members : Members} {f : Field}

/-- The attributes of a field are written as they were given. -/
theorem IsReadFrom.attributeMembers_eq (h : f.IsReadFrom .written members) :
    f.attributeMembers = membersUnder (kept? members) attributeKeys := by
  have hclassName := h.className
  have hrowIndex := h.rowIndex
  rw [givenKey_written] at hclassName hrowIndex
  have hmandatory : ∀ {key : String} {s : String}, fallback? key = none →
      nonNull? members key = some (.str s) → kept? members key = some (.str s) := by
    intro key s hfallback hvalue
    rw [kept?, hfallback, hvalue, Option.or_none]
  have hoptional : ∀ {α : Type} {read : List PathStep → Json → Checked α} {toJson : α → Json}
      {key : String} {a : Option α}, Reads read toJson → optional members key read = .good a →
      fallback? key = none → kept? members key = a.map toJson := by
    intro α read toJson key a hr ha hfallback
    rw [kept?, hfallback, Option.or_none]
    exact hr.nonNull?_optional ha
  have hlabel : kept? members "label" = _ := reads_text.nonNull?_defaulted h.label
  have htype : kept? members "type" = _ := reads_text.nonNull?_defaulted h.type
  have hchecked : kept? members "checked" = _ := reads_flag.nonNull?_defaulted h.checked
  have hdisabled : kept? members "disabled" = _ := reads_flag.nonNull?_defaulted h.disabled
  simp only [attributeKeys, membersUnder_cons, hlabel, htype, hchecked, hdisabled,
    hmandatory rfl (reads_variant.nonNull?_mandatory h.variant),
    hmandatory rfl (reads_name.nonNull?_mandatory h.name),
    hoptional reads_text h.description rfl, hoptional reads_text h.placeholder rfl,
    hoptional reads_value h.value rfl, hoptional reads_flag h.required rfl,
    hoptional reads_number h.min rfl, hoptional reads_number h.max rfl,
    hoptional reads_number h.step rfl, hoptional reads_text h.locale rfl,
    hoptional reads_flag h.hour12 rfl, hoptional reads_text hclassName rfl,
    hoptional reads_integer hrowIndex rfl, optionalMember_map]
  simp [attributeMembers, membersUnder, optionalMember]

/-- **A field is written as what it was read from**: the attributes, and then the other members. -/
theorem toMembers_eq (h : f.IsReadFrom .written members) :
    f.toMembers = membersUnder (kept? members) attributeKeys ++ otherMembers members := by
  rw [toMembers, h.attributeMembers_eq, ← h.extras, extraMembers_written]

theorem get?_otherMembers {key : String} (h : key ∈ attributeKeys ∨ key ∈ callbackKeys) :
    Table.get? key (otherMembers members) = none := by
  rw [Table.get?_eq_none_iff]
  intro hkey
  obtain ⟨⟨_, value⟩, hentry, rfl⟩ := List.mem_map.1 hkey
  have hother := (List.mem_filter.1 hentry).2
  simp only [Bool.and_eq_true, Bool.not_eq_true', List.contains_eq_mem,
    decide_eq_false_iff_not] at hother
  exact h.elim hother.1 hother.2

/-- **Reading and writing a field object coerces nothing and loses nothing.** -/
theorem isKeptFrom_of_read (h : read .written (.obj members) = .good f) :
    IsKeptFrom members f.toMembers := by
  have hwritten := toMembers_eq (readMembers_eq_good_iff.1 h)
  have hattribute : ∀ key ∈ attributeKeys, Table.get? key f.toMembers = kept? members key := by
    intro key hkey
    rw [hwritten, Table.get?_append, get?_membersUnder, if_pos hkey,
      get?_otherMembers (.inl hkey), Option.or_none]
  constructor
  case given =>
    intro key hkey value hvalue hget
    rw [hattribute key hkey, kept?, nonNull?_of_get? hget hvalue, Option.some_or]
  case defaulted =>
    intro key hkey value hfallback hget
    rw [hattribute key hkey, kept?, nonNull?_eq_none_iff.2 (.inl hget), hfallback, Option.none_or]
  case absent =>
    intro key hkey hfallback hget
    rw [← Table.get?_eq_none_iff, hattribute key hkey, kept?, nonNull?_eq_none_iff.2 hget,
      hfallback, Option.none_or]
  case callbacks =>
    intro key hkey
    have hapart : ∀ key ∈ callbackKeys, key ∉ attributeKeys := by decide
    have hnone : key ∉ attributeKeys := hapart key hkey
    rw [← Table.get?_eq_none_iff, hwritten, Table.get?_append, get?_membersUnder, if_neg hnone,
      get?_otherMembers (.inr hkey), Option.or_none]
  case others =>
    exact ⟨_, hwritten, keys_membersUnder_sublist _ _⟩

/-- A field object with a callback, with keys that are spelled like attributes, and with numbers
that could lose their spelling. -/
theorem isKeptFrom_of_spelled_keys :
    let members : Members := [("onChange", .str "save"), ("class_name", .str "wide"),
      ("max", .int (10 ^ 30)), ("min", .num (.float (.ofDecimal false 1 0))), ("name", .str "a"),
      ("row_index", .null), ("step", .null), ("variant", .str "Slider")]
    ∃ f : Field, read .written (.obj members) = .good f ∧ IsKeptFrom members f.toMembers ∧
      f.toMembers.keys = ["variant", "name", "label", "type", "checked", "disabled", "min", "max",
        "class_name", "row_index"] := by
  intro members
  have hread : ∀ x : Binary64, x.isFinite = true →
      ∃ f : Field, read .written (.obj (Table.put "min" (.num (.float x)) members)) = .good f ∧
        f.toMembers.keys = ["variant", "name", "label", "type", "checked", "disabled", "min", "max",
          "class_name", "row_index"]
    | .finite .., _ => ⟨_, rfl, rfl⟩
  obtain ⟨f, hf, hkeys⟩ := hread (.ofDecimal false 1 0) (by decide +kernel)
  exact ⟨f, hf, isKeptFrom_of_read hf, hkeys⟩

end Field

end FormStudio
