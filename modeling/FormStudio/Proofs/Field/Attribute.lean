import FormStudio.Proofs.Field.Reader

/-!
# The attributes of a field object

`Field.attributes` lists what a field object may give under each attribute key, in the order of the
attributes: whether the attribute may be left out or be `null`, and the data it takes otherwise.
`Field.refused?` is the first attribute that does not take what is given. The reader of fields
follows this table (`Field.follows_readMembers`): it reads a field where no attribute refuses, and
otherwise its first issue stands at the first one that does.
-/
namespace FormStudio

/-! ## Data of one type -/

namespace Json

def isText : Json → Bool
  | .str _ => true
  | _ => false

def isFlag : Json → Bool
  | .bool _ => true
  | _ => false

def isInteger : Json → Bool
  | .num (.int _) => true
  | _ => false

/-- A finite number; a flag is none. -/
def isNumber : Json → Bool
  | .num (.int _) => true
  | .num (.float x) => x.isFinite
  | _ => false

/-- A text, a flag, a finite number or an array of texts. -/
def isFieldValue : Json → Bool
  | .arr items => items.all isText
  | value => value.isText || value.isFlag || value.isNumber

def isVariant : Json → Bool
  | .str s => s != ""
  | _ => false

def isName : Json → Bool
  | .str s => isFieldName s
  | _ => false

theorem isSome_mapM_text? (items : List Json) :
    (items.mapM Json.text?).isSome = items.all isText := by
  induction items with
  | nil => rfl
  | cons item items ih =>
    rw [List.mapM_cons, List.all_cons, ← ih]
    cases item with
    | str s => cases items.mapM Json.text? <;> simp [text?, isText]
    | _ => rfl

end Json

namespace Field

/-! ## The table of attributes -/

/-- What may stand for an attribute besides its data. -/
inductive Presence where
  | mandatory
  /-- It may be left out. -/
  | defaulted
  /-- It may be left out, or be `null`. -/
  | optional
  deriving DecidableEq, Repr

structure Attribute where
  key : String
  presence : Presence
  /-- The data it takes. -/
  takes : Json → Bool

/-- The attributes of a field object, in order. -/
def attributes : List Attribute := [
  ⟨"variant", .mandatory, Json.isVariant⟩,
  ⟨"name", .mandatory, Json.isName⟩,
  ⟨"label", .defaulted, Json.isText⟩,
  ⟨"type", .defaulted, Json.isText⟩,
  ⟨"description", .optional, Json.isText⟩,
  ⟨"placeholder", .optional, Json.isText⟩,
  ⟨"value", .optional, Json.isFieldValue⟩,
  ⟨"checked", .defaulted, Json.isFlag⟩,
  ⟨"disabled", .defaulted, Json.isFlag⟩,
  ⟨"required", .optional, Json.isFlag⟩,
  ⟨"min", .optional, Json.isNumber⟩,
  ⟨"max", .optional, Json.isNumber⟩,
  ⟨"step", .optional, Json.isNumber⟩,
  ⟨"locale", .optional, Json.isText⟩,
  ⟨"hour12", .optional, Json.isFlag⟩,
  ⟨"className", .optional, Json.isText⟩,
  ⟨"rowIndex", .optional, Json.isInteger⟩]

theorem keys_attributes : attributes.map Attribute.key = attributeKeys := rfl

/-- Whether an attribute accepts what is given under its key, which may be nothing. -/
def Attribute.accepts (a : Attribute) : Option Json → Bool
  | none => a.presence != .mandatory
  | some .null => a.presence == .optional
  | some value => a.takes value

/-- Whether an attribute refuses what an object gives for it. -/
def Attribute.refuses (a : Attribute) (members : Members) : Bool :=
  !a.accepts (Table.get? a.key members)

/-- The first attribute that refuses what an object gives for it. -/
def refused? (members : Members) : Option Attribute :=
  attributes.find? fun a => a.refuses members

/-! ## Following the table -/

/-- An outcome follows a list of attributes: it is good where none of them refuses, and otherwise
its first issue is at the first one that does, and is that it is missing exactly where it is. -/
def Follows {α : Type} (members : Members) (as : List Attribute) (outcome : Checked α) : Prop :=
  match as.find? fun a => a.refuses members with
  | none => ∃ value, outcome = .good value
  | some a => ∃ rest kind more, outcome = .bad (⟨.key a.key :: rest, kind⟩ :: more) ∧
      (kind = .missing ↔ Table.get? a.key members = none)

namespace Follows

variable {α β : Type} {members : Members} {as bs : List Attribute}

theorem map {outcome : Checked α} (h : Follows members as outcome) (f : α → β) :
    Follows members as (f <$> outcome) := by
  unfold Follows at h ⊢
  split at h
  · obtain ⟨value, rfl⟩ := h
    exact ⟨f value, rfl⟩
  · obtain ⟨rest, kind, more, rfl, hkind⟩ := h
    exact ⟨rest, kind, more, rfl, hkind⟩

/-- Two parts in sequence follow the attributes of both, the first part's first. -/
theorem seq {f : Checked (α → β)} {a : Checked α} (hf : Follows members as f)
    (ha : Follows members bs a) : Follows members (as ++ bs) (f <*> a) := by
  unfold Follows at hf ha ⊢
  rw [List.find?_append]
  cases has : as.find? fun a => a.refuses members with
  | some first =>
    rw [has] at hf
    obtain ⟨rest, kind, more, rfl, hkind⟩ := hf
    cases a with
    | good value => exact ⟨rest, kind, more, rfl, hkind⟩
    | bad issues => exact ⟨rest, kind, more ++ issues, rfl, hkind⟩
  | none =>
    rw [has] at hf
    obtain ⟨g, rfl⟩ := hf
    rw [Option.none_or]
    cases hbs : bs.find? fun a => a.refuses members with
    | some first =>
      rw [hbs] at ha
      obtain ⟨rest, kind, more, rfl, hkind⟩ := ha
      exact ⟨rest, kind, more, rfl, hkind⟩
    | none =>
      rw [hbs] at ha
      obtain ⟨value, rfl⟩ := ha
      exact ⟨g value, rfl⟩

theorem pure (value : α) : Follows members [] (Pure.pure value) := ⟨value, rfl⟩

end Follows

/-! ## Reading one attribute -/

/-- The first issue of an outcome stands at a place or below it, and is about what is there. -/
def Blames {α : Type} (path : List PathStep) (outcome : Checked α) : Prop :=
  ∃ rest kind more, outcome = .bad (⟨path ++ rest, kind⟩ :: more) ∧ kind ≠ .missing

theorem blames_fault {α : Type} (path : List PathStep) {kind : IssueKind} (h : kind ≠ .missing) :
    Blames path (Checked.fault path kind : Checked α) :=
  ⟨[], kind, [], by rw [List.append_nil]; rfl, h⟩

/-- A reader is good on data of a type, and blames other data. -/
structure Tests {α : Type} (read : List PathStep → Json → Checked α) (takes : Json → Bool) :
    Prop where
  good : ∀ {value}, takes value = true → ∀ path, ∃ a, read path value = .good a
  bad : ∀ {value}, takes value = false → ∀ path, Blames path (read path value)
  null : takes .null = false

theorem tests_text : Tests readText Json.isText where
  good {value} h path := by cases value <;> first | exact ⟨_, rfl⟩ | cases h
  bad {value} h path := by cases value <;> first | exact blames_fault path (by simp) | cases h
  null := rfl

theorem tests_flag : Tests readFlag Json.isFlag where
  good {value} h path := by cases value <;> first | exact ⟨_, rfl⟩ | cases h
  bad {value} h path := by cases value <;> first | exact blames_fault path (by simp) | cases h
  null := rfl

theorem tests_integer : Tests readInteger Json.isInteger where
  good {value} h path := by
    unfold Json.isInteger at h
    split at h
    · exact ⟨_, rfl⟩
    · cases h
  bad {value} h path := by
    unfold readInteger
    split
    · cases h
    · exact blames_fault path (by simp)
  null := rfl

theorem tests_variant : Tests readVariant Json.isVariant where
  good {value} h path := by
    cases value with
    | str s =>
      have hs : s ≠ "" := by simpa [Json.isVariant] using h
      exact ⟨s, if_neg hs⟩
    | _ => cases h
  bad {value} h path := by
    cases value with
    | str s =>
      have hs : s = "" := by simpa [Json.isVariant] using h
      rw [readVariant, if_pos hs]
      exact blames_fault path (by simp)
    | _ => exact blames_fault path (by simp)
  null := rfl

theorem tests_name : Tests readName Json.isName where
  good {value} h path := by
    cases value with
    | str s => exact ⟨s, if_pos h⟩
    | _ => cases h
  bad {value} h path := by
    cases value with
    | str s =>
      have hs : ¬ isFieldName s = true := by simpa [Json.isName] using h
      rw [readName, if_neg hs]
      exact blames_fault path (by simp)
    | _ => exact blames_fault path (by simp)
  null := rfl

theorem tests_number : Tests readNumber Json.isNumber where
  good {value} h path := by
    unfold Json.isNumber at h
    split at h
    · exact ⟨_, rfl⟩
    · exact ⟨_, if_pos h⟩
    · cases h
  bad {value} h path := by
    unfold readNumber
    split
    · cases h
    · next x =>
      rw [if_neg (by simpa [Json.isNumber] using h)]
      exact ⟨[.key "int"], _, _, rfl, by simp⟩
    · next hint hfloat =>
      -- whatever else it is, the first spelling tried is an integer
      refine ⟨[.key "int"], .notInteger, [⟨path ++ [.key "float"], .notNumber⟩], ?_,
        by simp⟩
      unfold numberIssues
      split
      · exact absurd rfl (hfloat _)
      · rfl
  null := rfl

theorem tests_value : Tests readValue Json.isFieldValue where
  good {value} h path := by
    cases value with
    | null => cases h
    | bool b => exact ⟨_, rfl⟩
    | str s => exact ⟨_, rfl⟩
    | num n =>
      cases n with
      | int i => exact ⟨_, rfl⟩
      | float x =>
        have hx : x.isFinite = true := by
          simpa [Json.isFieldValue, Json.isText, Json.isFlag, Json.isNumber] using h
        exact ⟨_, if_pos hx⟩
    | arr items =>
      have hitems : (Json.arr items).texts?.isSome = true :=
        (Json.isSome_mapM_text? items).trans h
      obtain ⟨texts, htexts⟩ := Option.isSome_iff_exists.1 hitems
      exact ⟨.choices texts, by rw [readValue, htexts]⟩
    | obj members => cases h
  bad {value} h path := by
    have hbad : readValue path value = .bad (valueIssues path value) := by
      cases value with
      | null => rfl
      | bool b => cases h
      | str s => cases h
      | num n =>
        cases n with
        | int i => cases h
        | float x =>
          refine if_neg ?_
          simpa [Json.isFieldValue, Json.isText, Json.isFlag, Json.isNumber] using h
      | arr items =>
        have hitems : (Json.arr items).texts?.isSome = false :=
          (Json.isSome_mapM_text? items).trans h
        have hnone : (Json.arr items).texts? = none := by simpa using hitems
        rw [readValue, hnone]
      | obj members => rfl
    exact ⟨[.key "str"], .notText, _, hbad, by simp⟩
  null := rfl

namespace Tests

variable {α : Type} {read : List PathStep → Json → Checked α} {takes : Json → Bool}

/-- What is given and is not `null` is judged by its type alone. -/
theorem follows_given (h : Tests read takes) {members : Members} {key : String} {value : Json}
    (hget : Table.get? key members = some value) (hnull : value ≠ .null) (presence : Presence) :
    Follows members [⟨key, presence, takes⟩] (read [.key key] value) := by
  have haccepts : (Attribute.mk key presence takes).refuses members = !takes value := by
    rw [Attribute.refuses, hget]
    cases value with
    | null => exact absurd rfl hnull
    | _ => rfl
  unfold Follows
  rw [List.find?_singleton, haccepts]
  cases htakes : takes value with
  | true => exact h.good htakes _
  | false =>
    obtain ⟨rest, kind, more, hread, hkind⟩ := h.bad htakes [.key key]
    exact ⟨rest, kind, more, hread, by simp [hkind, hget]⟩

/-- `null` is refused by an attribute that must not be `null`. -/
theorem follows_null (h : Tests read takes) {members : Members} {key : String}
    (hget : Table.get? key members = some .null) {presence : Presence}
    (hpresence : presence ≠ .optional) :
    Follows members [⟨key, presence, takes⟩] (read [.key key] .null) := by
  have hrefuses : (Attribute.mk key presence takes).refuses members = true := by
    rw [Attribute.refuses, hget]
    simpa [Attribute.accepts] using hpresence
  unfold Follows
  rw [List.find?_singleton, hrefuses]
  obtain ⟨rest, kind, more, hread, hkind⟩ := h.bad h.null [.key key]
  exact ⟨rest, kind, more, hread, by simp [hkind, hget]⟩

theorem follows_mandatory (h : Tests read takes) (members : Members) (key : String) :
    Follows members [⟨key, .mandatory, takes⟩] (mandatory members key read) := by
  unfold mandatory
  split
  · next value hget =>
    by_cases hnull : value = .null
    · subst hnull
      exact h.follows_null hget nofun
    · exact h.follows_given hget hnull _
  · next hget =>
    have hrefuses : (Attribute.mk key .mandatory takes).refuses members = true := by
      rw [Attribute.refuses, hget]
      rfl
    unfold Follows
    rw [List.find?_singleton, hrefuses]
    exact ⟨[], .missing, [], rfl, by simp [hget]⟩

theorem follows_defaulted (h : Tests read takes) (members : Members) (key : String)
    (fallback : α) :
    Follows members [⟨key, .defaulted, takes⟩] (defaulted members key fallback read) := by
  unfold defaulted
  split
  · next value hget =>
    by_cases hnull : value = .null
    · subst hnull
      exact h.follows_null hget nofun
    · exact h.follows_given hget hnull _
  · next hget =>
    have hrefuses : (Attribute.mk key .defaulted takes).refuses members = false := by
      rw [Attribute.refuses, hget]
      rfl
    unfold Follows
    rw [List.find?_singleton, hrefuses]
    exact ⟨fallback, rfl⟩

theorem follows_optional (h : Tests read takes) (members : Members) (key : String) :
    Follows members [⟨key, .optional, takes⟩] (optional members key read) := by
  have hnone : ∀ {given : Option Json}, Table.get? key members = given →
      (given = none ∨ given = some .null) →
      Follows members [⟨key, .optional, takes⟩] (.good (none : Option α)) := by
    intro given hget hgiven
    have hrefuses : (Attribute.mk key .optional takes).refuses members = false := by
      rw [Attribute.refuses, hget]
      rcases hgiven with rfl | rfl <;> rfl
    unfold Follows
    rw [List.find?_singleton, hrefuses]
    exact ⟨none, rfl⟩
  unfold optional defaulted
  split
  · next value hget =>
    by_cases hnull : value = .null
    · subst hnull
      exact hnone hget (.inr rfl)
    · have hread : readOptional (read [.key key]) value = some <$> read [.key key] value := by
        cases value with
        | null => exact absurd rfl hnull
        | _ => rfl
      dsimp only
      rw [hread]
      exact (h.follows_given hget hnull _).map some
  · next hget => exact hnone hget (.inl rfl)

end Tests

/-! ## Reading all attributes -/

/-- **The reader of fields follows the table of attributes.** -/
theorem follows_readMembers (members : Members) :
    Follows members attributes (readMembers .written members) := by
  have h := (tests_variant.follows_mandatory members "variant").map Field.mk
  have h := h.seq (tests_name.follows_mandatory members "name")
  have h := h.seq (tests_text.follows_defaulted members "label" "")
  have h := h.seq (tests_text.follows_defaulted members "type" "")
  have h := h.seq (tests_text.follows_optional members "description")
  have h := h.seq (tests_text.follows_optional members "placeholder")
  have h := h.seq (tests_value.follows_optional members "value")
  have h := h.seq (tests_flag.follows_defaulted members "checked" true)
  have h := h.seq (tests_flag.follows_defaulted members "disabled" false)
  have h := h.seq (tests_flag.follows_optional members "required")
  have h := h.seq (tests_number.follows_optional members "min")
  have h := h.seq (tests_number.follows_optional members "max")
  have h := h.seq (tests_number.follows_optional members "step")
  have h := h.seq (tests_text.follows_optional members "locale")
  have h := h.seq (tests_flag.follows_optional members "hour12")
  have h := h.seq (tests_text.follows_optional members "className")
  have h := h.seq (tests_integer.follows_optional members "rowIndex")
  have h := h.seq (Follows.pure (extraMembers .written members))
  rw [readMembers, givenKey_written, givenKey_written]
  exact h

end Field

end FormStudio
