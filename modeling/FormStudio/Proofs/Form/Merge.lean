import FormStudio.Form.Callbacks
import FormStudio.Proofs.Field.Kept
import FormStudio.Proofs.Form.Grammar
import FormStudio.Proofs.Form.Names
import FormStudio.Proofs.Form.Text

/-!
# What a merge changes

An update gives values for some keys (`Update.given?`). A merge takes these and keeps all else: the
attributes and extras that are given have the new values, where `null` leaves an attribute absent,
and the others have those they had (`Field.IsUpdatedTo`). It fails exactly where an attribute
refuses what it is given.

Fields are merged through their members, so this rests on two facts: a field of a reachable form is
read from its own members, which have different keys (`Field.IsStored`), and what was entered last
in a table is found there.
-/
namespace FormStudio

/-- What an update gives for a key: its last value for it. Members may give an attribute by its
second spelling. -/
def Update.given? (updates : Update) (key : String) : Option Json :=
  match updates with
  | .members updates =>
    Table.last? key (updates.map fun (spelled, value) => (writtenKey spelled, value))
  | .field source => Table.last? key source.toMembers

/-- Callbacks aside, the members that an update enters are those it gives. -/
theorem Update.last?_entered (updates : Update) {key : String} (hkey : key ∉ callbackKeys) :
    Table.last? key updates.entered = updates.given? key := by
  cases updates with
  | field source => rfl
  | members updates =>
    rw [entered, Field.updateMembers, Table.last?_of_nodup (Table.nodup_keys_ofPairs _),
      Table.get?_ofPairs, given?]
    induction updates with
    | nil => rfl
    | cons entry rest ih =>
      obtain ⟨spelled, value⟩ := entry
      by_cases hcallback : spelled ∈ callbackKeys
      · -- a callback has no second spelling, so it is not the one that is looked for
        have hspelled : writtenKey spelled = spelled := by
          revert spelled
          decide
        have hne : writtenKey spelled ≠ key := fun heq => hkey (heq ▸ hspelled.symm ▸ hcallback)
        rw [List.filter_cons_of_neg (by simpa using hcallback), ih, List.map_cons,
          Table.last?_cons, if_neg hne, Option.or_none]
      · rw [List.filter_cons_of_pos (by simpa using hcallback), List.map_cons, List.map_cons,
          Table.last?_cons, Table.last?_cons, ih]

namespace Field

theorem not_mem_callbackKeys {key : String} (h : key ∈ attributeKeys) : key ∉ callbackKeys := by
  revert key
  decide

/-! ## Stored fields -/

/-- A field as forms hold it: it is read from its own members, and their keys differ. -/
structure IsStored (f : Field) : Prop where
  read : readMembers .written f.toMembers = .good f
  keys : f.toMembers.keys.Nodup

theorem isStored_of_readMembers {spelling : Spelling} {members : Members} {f : Field}
    (h : readMembers spelling members = .good f) (hkeys : members.keys.Nodup) : f.IsStored := by
  have hread := readMembers_eq_good_iff.1 h
  exact ⟨readMembers_eq_good_iff.2 hread.toMembers, hread.nodup_keys hkeys⟩

namespace IsStored

variable {f : Field}

theorem isReadFrom (h : f.IsStored) : f.IsReadFrom .written f.toMembers :=
  readMembers_eq_good_iff.1 h.read

theorem nodup_extras (h : f.IsStored) : f.extras.keys.Nodup := by
  have hkeys := h.keys
  rw [keys_toMembers] at hkeys
  exact (List.nodup_append.1 hkeys).2.1

theorem merge (h : f.IsStored) {updates : Update} {g : Field} (hmerge : f.merge updates = .ok g) :
    g.IsStored :=
  isStored_of_readMembers (merge_eq_ok_iff.1 hmerge) (Table.nodup_keys_overlay h.keys _)

end IsStored

end Field

namespace Form

theorem Change.isStored {form new : Form} {op : Operation} (h : Change form op new)
    (hform : ∀ f ∈ form.fields, f.IsStored) : ∀ f ∈ new.fields, f.IsStored := by
  refine h.forall_fields hform ?_ ?_ ?_
  · intro variant name index digits f _ hread
    exact Field.isStored_of_readMembers hread (by simp [newFieldMembers])
  · intro updates current updated _ hmerge hcurrent
    exact hcurrent.merge hmerge
  · intro text source hsource f hf
    obtain ⟨members, hread, hmembers⟩ := exists_members_of_ofText hsource hf
    exact Field.isStored_of_readMembers hread (Json.isReadable_obj_iff.1 hmembers).1

/-- **The fields of a reachable form** are stored fields. -/
theorem isStored_of_reachable {form : Form} (h : form.Reachable fun _ => True) :
    ∀ f ∈ form.fields, f.IsStored := by
  refine h.induction (P := fun form => ∀ f ∈ form.fields, f.IsStored) (by simp) ?_
    fun _ hform hchange => hchange.isStored hform
  intro text form htext
  have himport : Change [] (.importForm (.str text)) form := .imported htext
  exact himport.isStored (List.forall_mem_nil _)

end Form

namespace Field

/-! ## Members that a field is read from -/

/-- Members are read as a field exactly where they are a field object. -/
theorem isFieldObject_iff_read {members : Members} :
    (Json.obj members).isFieldObject = true ↔ ∃ f, readMembers .written members = .good f := by
  have hfollows := follows_readMembers members
  unfold Follows at hfollows
  rw [Json.isFieldObject_obj_iff, refused?]
  split at hfollows
  · next hnone => exact iff_of_true hnone hfollows
  · next a hsome =>
    obtain ⟨rest, kind, more, hread, -⟩ := hfollows
    rw [hsome, hread]
    simp

/-- Whether a key belongs to no attribute and no callback. -/
def isOtherKey (key : String) : Bool := !attributeKeys.contains key && !callbackKeys.contains key

theorem isOtherKey_iff {key : String} :
    isOtherKey key = true ↔ key ∉ attributeKeys ∧ key ∉ callbackKeys := by
  simp [isOtherKey]

theorem otherMembers_eq (members : Members) :
    otherMembers members = Table.restrict isOtherKey members := rfl

variable {members other : Members} {f g : Field}

/-- Members with the same attributes and the same other members are read as the same field. -/
theorem readMembers_congr
    (hget : ∀ key ∈ attributeKeys, Table.get? key other = Table.get? key members)
    (hothers : otherMembers other = otherMembers members) :
    readMembers .written other = readMembers .written members := by
  simp (disch := decide) only [readMembers, mandatory, defaulted, optional, givenKey_written,
    extraMembers_written, hget, hothers]

theorem IsReadFrom.get?_attributeMembers (h : f.IsReadFrom .written members) {key : String}
    (hkey : key ∈ attributeKeys) : Table.get? key f.attributeMembers = kept? members key := by
  rw [h.attributeMembers_eq, get?_membersUnder, if_pos hkey]

theorem IsReadFrom.extras_eq (h : f.IsReadFrom .written members) :
    f.extras = Table.restrict isOtherKey members := by
  rw [← h.extras, extraMembers_written, otherMembers_eq]

theorem kept?_congr {key : String} (h : Table.get? key other = Table.get? key members) :
    kept? other key = kept? members key := by
  simp only [kept?, nonNull?, h]

theorem get?_attributeMembers_of_not_mem {key : String} (hkey : key ∉ attributeKeys) :
    Table.get? key f.attributeMembers = none :=
  Table.get?_eq_none_iff.2 fun hmem => hkey ((keys_attributeMembers_sublist f).mem hmem)

/-- An attribute may be `null` only where nothing else is written for it. -/
theorem fallback?_of_accepts_null {a : Attribute} (ha : a ∈ attributes)
    (haccepts : a.accepts (some .null) = true) : fallback? a.key = none := by
  revert a
  decide

/-- What is written of an attribute that was given. -/
theorem IsReadFrom.kept?_of_given (h : f.IsReadFrom .written members) {key : String}
    (hkey : key ∈ attributeKeys) {value : Json} (hvalue : Table.get? key members = some value) :
    kept? members key = if value = .null then none else some value := by
  by_cases hnull : value = .null
  · subst hnull
    have hobject := isFieldObject_iff_read.2 ⟨f, readMembers_eq_good_iff.2 h⟩
    rw [← keys_attributes] at hkey
    obtain ⟨a, ha, rfl⟩ := List.mem_map.1 hkey
    have haccepts : a.accepts (some .null) = true := by
      have hall := List.all_eq_true.1 hobject a ha
      rw [Attribute.refuses, hvalue] at hall
      simpa using hall
    rw [kept?, nonNull?_eq_none_iff.2 (.inr hvalue), fallback?_of_accepts_null ha haccepts]
    rfl
  · rw [kept?, nonNull?_of_get? hvalue hnull, Option.some_or, if_neg hnull]

/-! ## Merging -/

/-- The members that a merge reads. -/
def merged (f : Field) (updates : Update) : Members := Table.overlay f.toMembers updates.entered

theorem get?_merged (f : Field) (updates : Update) {key : String} (hkey : key ∉ callbackKeys) :
    Table.get? key (f.merged updates) = (updates.given? key).or (Table.get? key f.toMembers) := by
  rw [merged, Table.get?_overlay, updates.last?_entered hkey]

/-- What a merge of an update makes of a field. -/
structure IsUpdatedTo (f : Field) (updates : Update) (g : Field) : Prop where
  /-- An attribute that is given has the value, and none where that is `null`. -/
  attributes : ∀ key ∈ attributeKeys, ∀ value, updates.given? key = some value →
    Table.get? key g.attributeMembers = if value = .null then none else some value
  /-- Under any other key the value is an extra. -/
  extras : ∀ key, key ∉ attributeKeys → key ∉ callbackKeys → ∀ value,
    updates.given? key = some value → Table.get? key g.extras = some value
  /-- What is not given is kept. -/
  kept : ∀ key, updates.given? key = none →
    Table.get? key g.attributeMembers = Table.get? key f.attributeMembers ∧
      Table.get? key g.extras = Table.get? key f.extras
  /-- Callbacks leave no trace. -/
  callbacks : ∀ key ∈ callbackKeys, key ∉ g.toMembers.keys

variable {updates : Update}

theorem isReadFrom_merged (hmerge : f.merge updates = .ok g) :
    g.IsReadFrom .written (f.merged updates) :=
  readMembers_eq_good_iff.1 (merge_eq_ok_iff.1 hmerge)

/-- The extras of the update are entered behind those of the field. -/
theorem IsStored.extras_merge (h : f.IsStored) (hmerge : f.merge updates = .ok g) :
    g.extras = Table.overlay f.extras (Table.restrict isOtherKey updates.entered) := by
  rw [(isReadFrom_merged hmerge).extras_eq, merged, Table.restrict_overlay,
    ← h.isReadFrom.extras_eq]

theorem IsStored.get?_extras_merge (h : f.IsStored) (hmerge : f.merge updates = .ok g)
    {key : String} (hkey : isOtherKey key = true) :
    Table.get? key g.extras = (updates.given? key).or (Table.get? key f.extras) := by
  rw [h.extras_merge hmerge, Table.get?_overlay, Table.last?_restrict, if_pos hkey,
    updates.last?_entered (isOtherKey_iff.1 hkey).2]

theorem get?_extras_of_not_other {members : Members} (h : f.IsReadFrom .written members)
    {key : String} (hkey : ¬ isOtherKey key = true) : Table.get? key f.extras = none :=
  Table.get?_eq_none_iff.2 fun hmem => hkey (isOtherKey_iff.2 (h.extras_key hmem))

/-- **A merge changes what the update gives**, and nothing else. -/
theorem IsStored.isUpdatedTo (h : f.IsStored) (hmerge : f.merge updates = .ok g) :
    f.IsUpdatedTo updates g := by
  have hread := isReadFrom_merged hmerge
  constructor
  case attributes =>
    intro key hkey value hvalue
    rw [hread.get?_attributeMembers hkey]
    refine hread.kept?_of_given hkey ?_
    rw [get?_merged f updates (not_mem_callbackKeys hkey), hvalue, Option.some_or]
  case extras =>
    intro key hattribute hcallback value hvalue
    rw [h.get?_extras_merge hmerge (isOtherKey_iff.2 ⟨hattribute, hcallback⟩), hvalue,
      Option.some_or]
  case kept =>
    intro key hnone
    constructor
    · by_cases hkey : key ∈ attributeKeys
      · rw [hread.get?_attributeMembers hkey, h.isReadFrom.get?_attributeMembers hkey]
        refine kept?_congr ?_
        rw [get?_merged f updates (not_mem_callbackKeys hkey), hnone, Option.none_or]
      · rw [get?_attributeMembers_of_not_mem hkey, get?_attributeMembers_of_not_mem hkey]
    · by_cases hkey : isOtherKey key = true
      · rw [h.get?_extras_merge hmerge hkey, hnone, Option.none_or]
      · rw [get?_extras_of_not_other hread hkey, get?_extras_of_not_other h.isReadFrom hkey]
  case callbacks => exact (isKeptFrom_of_read (merge_eq_ok_iff.1 hmerge)).callbacks

/-- Merging again changes nothing. -/
theorem IsStored.merge_merge (h : f.IsStored) (hmerge : f.merge updates = .ok g) :
    g.merge updates = .ok g := by
  have hupdated := h.isUpdatedTo hmerge
  refine merge_eq_ok_iff.2 ?_
  rw [← merge_eq_ok_iff.1 hmerge]
  refine readMembers_congr ?_ ?_
  · intro key hkey
    have hcallback := not_mem_callbackKeys hkey
    show Table.get? key (g.merged updates) = Table.get? key (f.merged updates)
    rw [get?_merged g updates hcallback, get?_merged f updates hcallback]
    cases hgiven : updates.given? key with
    | some value => rw [Option.some_or, Option.some_or]
    | none =>
      rw [(isReadFrom_merged hmerge).get?_toMembers hkey, (hupdated.kept key hgiven).1,
        h.isReadFrom.get?_toMembers hkey]
  · rw [otherMembers_eq, otherMembers_eq, Table.restrict_overlay, Table.restrict_overlay,
      ← (h.merge hmerge).isReadFrom.extras_eq, ← h.isReadFrom.extras_eq, h.extras_merge hmerge,
      Table.overlay_overlay h.nodup_extras]

theorem IsStored.merge_nothing (h : f.IsStored) : f.merge (.members []) = .ok f :=
  merge_eq_ok_iff.2 h.read

theorem IsStored.merge_self (h : f.IsStored) : f.merge (.field f) = .ok f := by
  refine merge_eq_ok_iff.2 ?_
  rw [Update.entered, Table.overlay_self h.keys, h.read]

theorem merge_without_callbacks (f : Field) (updates : Members) :
    f.merge (.members (updates.filter fun (key, _) => !callbackKeys.contains key)) =
      f.merge (.members updates) := by
  simp only [merge, updateMembers, List.filter_filter, Bool.and_self]

/-! ## Failing to merge -/

theorem succeeds_merge_iff : Succeeds (f.merge updates) ↔
    (Json.obj (f.merged updates)).isFieldObject = true := by
  rw [isFieldObject_iff_read]
  exact exists_congr fun g => merge_eq_ok_iff

theorem merge_eq_error {e : EditError} (h : f.merge updates = .error e) :
    ∃ issues, e = .invalid f.name issues := by
  have hoverlay : ∀ members, f.overlay members = .error e →
      ∃ issues, e = .invalid f.name issues := by
    intro members hmembers
    unfold overlay at hmembers
    split at hmembers
    · cases hmembers
    · cases hmembers
      exact ⟨_, rfl⟩
  cases updates with
  | members updates => exact hoverlay (updateMembers updates) h
  | field source => exact hoverlay source.toMembers h

/-- A merge into a stored field fails exactly where an attribute refuses what it is given. -/
theorem IsStored.succeeds_merge_iff (h : f.IsStored) : Succeeds (f.merge updates) ↔
    ∀ a ∈ attributes, ∀ value, updates.given? a.key = some value →
      a.accepts (some value) = true := by
  have hself := isFieldObject_iff_read.2 ⟨f, h.read⟩
  rw [Field.succeeds_merge_iff, Json.isFieldObject, List.all_eq_true]
  refine forall₂_congr fun a ha => ?_
  have hkey : a.key ∈ attributeKeys := keys_attributes ▸ List.mem_map_of_mem ha
  have hown : a.accepts (Table.get? a.key f.toMembers) = true := by
    simpa [Attribute.refuses] using List.all_eq_true.1 hself a ha
  rw [Attribute.refuses, Bool.not_not, get?_merged f updates (not_mem_callbackKeys hkey)]
  cases updates.given? a.key with
  | none => simpa using hown
  | some value => simp

end Field

namespace Form

/-- **A merge changes exactly what the update gives.** In a field of a reachable form, attributes
and extras that are given have their new values and the others those they had; callbacks in the
update have no part in it, and those of the field stay. A merge fails only where the field would be
invalid, with an attribute that refuses what it is given. Nothing and the field itself change
nothing, and neither does an update that was merged before. -/
theorem merge_isExact {form : Form} (h : form.Reachable fun _ => True) {f : Field}
    (hf : f ∈ form.fields) :
    (∀ updates g, f.merge updates = .ok g → f.IsUpdatedTo updates g ∧ g.merge updates = .ok g) ∧
    (∀ updates e, f.merge updates = .error e →
      (∃ issues, e = .invalid f.name issues) ∧
      (Json.obj (f.merged updates)).isFieldObject = false ∧
      ∃ a ∈ Field.attributes, ∃ value, updates.given? a.key = some value ∧
        a.accepts (some value) = false) ∧
    f.merge (.members []) = .ok f ∧ f.merge (.field f) = .ok f ∧
    (∀ updates : Members,
      f.merge (.members (updates.filter fun (key, _) => !callbackKeys.contains key)) =
        f.merge (.members updates)) ∧
    ∀ (α : Type) (callbacks : Callbacks α) (updates : Update) (g : BoundField α),
      BoundField.merge ⟨f, callbacks⟩ updates = .ok g ↔
        f.merge updates = .ok g.field ∧ g.callbacks = callbacks := by
  have hstored := isStored_of_reachable h f hf
  refine ⟨fun updates g hmerge => ⟨hstored.isUpdatedTo hmerge, hstored.merge_merge hmerge⟩, ?fails,
    hstored.merge_nothing, hstored.merge_self, f.merge_without_callbacks, ?callbacks⟩
  case fails =>
    intro updates e he
    have hnot : ¬ Succeeds (f.merge updates) := by
      rw [he]
      exact not_succeeds_error e
    refine ⟨Field.merge_eq_error he, ?_, ?_⟩
    · simpa [Field.succeeds_merge_iff] using hnot
    · simpa [hstored.succeeds_merge_iff] using hnot
  case callbacks =>
    intro α callbacks updates g
    rw [BoundField.merge, map_eq_ok_iff]
    constructor
    · rintro ⟨f', hmerge, rfl⟩
      exact ⟨hmerge, rfl⟩
    · rintro ⟨hmerge, rfl⟩
      exact ⟨g.field, hmerge, rfl⟩

/-- Of two spellings the later one counts, and an extra that is spelled like an attribute stays. -/
theorem merge_isExact_of_two_spellings :
    let f : Field := { Field.named "a" with
      description := some "d", extras := [("class_name", .str "x")] }
    let g : Field := { f with description := none, className := some "c" }
    let updates : Update := .members [("className", .str "b"), ("class_name", .str "c"),
      ("description", .null), ("onChange", .bool true)]
    f.merge updates = .ok g ∧ f.IsUpdatedTo updates g ∧ g.merge updates = .ok g := by
  intro f g updates
  have himport : ofText ("[\x7b\"variant\":\"Input\",\"name\":\"a\",\"description\":\"d\"," ++
      "\"class_name\":\"x\"\x7d]") = .ok [.field f] := toOption_eq_some_iff.1 (by decide +kernel)
  have hmerge : f.merge updates = .ok g := toOption_eq_some_iff.1 (by decide +kernel)
  have hexact := merge_isExact (.imported himport) (f := f) (by simp)
  exact ⟨hmerge, hexact.1 updates g hmerge⟩

end Form

end FormStudio
