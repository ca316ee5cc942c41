import FormStudio.Proofs.Rule.Acceptance
import FormStudio.Proofs.Table
import FormStudio.Rule.Export

/-!
# The answers that a rule accepts

`Rule.Accepts` says what a rule asks of an answer, kind by kind, and `Rule.Admits` what it asks of
an answer that may be absent. The schema of a rule accepts just these answers
(`Rule.accepts_toSchema_iff`). So the schema of a form, whose rules have different names, accepts
those answers that each rule admits (`Spec.accepts_toSchema_iff`).
-/
namespace FormStudio

namespace Rule

/-! ## Answers of a kind -/

/-- A text of the length and with the patterns that a rule asks for. -/
structure HasShape (rule : Rule) (s : String) : Prop where
  least : ∀ bound ∈ rule.minLength, bound ≤ s.length
  most : ∀ bound ∈ rule.maxLength, (s.length : Int) ≤ bound
  patterns : ∀ written ∈ rule.patterns, Pattern.find written s = .ok true

/-- A number within the bounds of a rule and on its steps. -/
structure HasSize (rule : Rule) (n : Number) : Prop where
  least : ∀ bound ∈ rule.minimum, bound.le n = true
  most : ∀ bound ∈ rule.maximum, n.le bound = true
  step : ∀ step ∈ rule.effectiveStep, n.isMultipleOf? step = some true

/-- A list of texts with the count of items that a rule asks for. -/
structure HasItems (rule : Rule) (entries : List Json) : Prop where
  texts : ∀ entry ∈ entries, ∃ s, entry = .str s
  least : ∀ bound ∈ rule.leastItems, bound ≤ entries.length
  most : ∀ bound ∈ rule.maxItems, (entries.length : Int) ≤ bound

/-- Whether a rule accepts an answer. Where none is required, the empty text passes for none. -/
def Accepts (rule : Rule) (value : Json) : Prop :=
  match rule.kind with
  | .string | .date =>
    ∃ s, value = .str s ∧
      (rule.HasShape s ∨ rule.required = false ∧ rule.hasShapeConstraints = true ∧ s = "")
  | .number => ∃ n, value = .num n ∧ rule.HasSize n
  | .boolean => ∃ b, value = .bool b ∧ (rule.mustBeTrue = true → b = true)
  | .array => ∃ entries, value = .arr entries ∧ rule.HasItems entries
  | .any => rule.required = true → value ≠ .null ∧ value ≠ .str "" ∧ value ≠ .arr []

/-- Whether a rule accepts an answer, or that there is none. -/
def Admits (rule : Rule) : Option Json → Prop
  | none => rule.required = false
  | some value => rule.Accepts value

end Rule

/-! ## The schema of a rule -/

namespace Schema

variable {schema other : Schema} {value : Json}

theorem accepts_append :
    Schema.Accepts (schema ++ other) value ↔
      Schema.Accepts schema value ∧ Schema.Accepts other value := by
  induction schema with
  | nil => simp [Schema.Accepts]
  | cons keyword rest ih => simp [Schema.Accepts, ih, and_assoc]

theorem accepts_singleton {keyword : Keyword} :
    Schema.Accepts [keyword] value ↔ keyword.Accepts value := by
  simp [Schema.Accepts]

theorem accepts_boundKeyword {α : Type} {keyword : α → Keyword} {bound : Option α} :
    Schema.Accepts (boundKeyword keyword bound) value ↔ ∀ b ∈ bound, (keyword b).Accepts value := by
  cases bound <;> simp [boundKeyword, Schema.Accepts]

end Schema

namespace Rule

variable {rule : Rule} {value : Json}

theorem accepts_patternKeywords {written : List String} {s : String} :
    Schema.Accepts (patternKeywords written) (.str s) ↔
      ∀ w ∈ written, Pattern.find w s = .ok true := by
  have hall : ∀ several : List String,
      Schema.AllAccept (several.map fun w => [.pattern w]) (.str s) ↔
        ∀ w ∈ several, Pattern.find w s = .ok true := by
    intro several
    induction several with
    | nil => simp [Schema.AllAccept]
    | cons w rest ih =>
      simp [Schema.AllAccept, Schema.Accepts, Keyword.Accepts, Keyword.PlainlyAccepts, ih]
  unfold patternKeywords
  split
  · simp [Schema.Accepts]
  · simp [Schema.Accepts, Keyword.Accepts, Keyword.PlainlyAccepts]
  · rw [Schema.accepts_singleton, Keyword.Accepts, hall]

theorem accepts_ofType {type : SchemaType} :
    Schema.Accepts [.ofType type] value ↔ type.holds value = true := by
  simp [Schema.Accepts, Keyword.Accepts, Keyword.PlainlyAccepts]

theorem accepts_fullTextSchema :
    Schema.Accepts ([.ofType .string] ++ boundKeyword .minLength rule.minLength ++
      boundKeyword .maxLength rule.maxLength ++ patternKeywords rule.patterns) value ↔
        ∃ s, value = .str s ∧ rule.HasShape s := by
  simp only [Schema.accepts_append, Schema.accepts_boundKeyword, accepts_ofType]
  cases value with
  | str s =>
    simp only [accepts_patternKeywords, Keyword.Accepts, Keyword.PlainlyAccepts, SchemaType.holds,
      true_and, Json.str.injEq, exists_eq_left']
    constructor
    · rintro ⟨⟨hleast, hmost⟩, hpatterns⟩
      exact ⟨hleast, hmost, hpatterns⟩
    · intro h
      exact ⟨⟨h.least, h.most⟩, h.patterns⟩
  | _ => simp [SchemaType.holds]

theorem accepts_textSchema :
    Schema.Accepts rule.textSchema value ↔ ∃ s, value = .str s ∧
      (rule.HasShape s ∨ rule.required = false ∧ rule.hasShapeConstraints = true ∧ s = "") := by
  unfold textSchema
  dsimp only
  split
  · next h =>
    rw [Bool.and_eq_true, Bool.not_eq_true'] at h
    simp only [Schema.accepts_singleton, Keyword.Accepts, Schema.AnyAccepts, accepts_fullTextSchema,
      Keyword.PlainlyAccepts, h, true_and, or_false]
    constructor
    · rintro (rfl | ⟨s, rfl, hs⟩)
      · exact ⟨"", rfl, .inr rfl⟩
      · exact ⟨s, rfl, .inl hs⟩
    · rintro ⟨s, rfl, hs | rfl⟩
      · exact .inr ⟨s, rfl, hs⟩
      · exact .inl rfl
  · next h =>
    have hno : ∀ {s : String},
        ¬ (rule.required = false ∧ rule.hasShapeConstraints = true ∧ s = "") := by
      rintro s ⟨hrequired, hshape, -⟩
      exact h (by rw [hrequired, hshape]; rfl)
    simp only [accepts_fullTextSchema, hno, or_false]

theorem accepts_numberSchema :
    Schema.Accepts rule.numberSchema value ↔ ∃ n, value = .num n ∧ rule.HasSize n := by
  simp only [numberSchema, Schema.accepts_append, Schema.accepts_boundKeyword, accepts_ofType]
  cases value with
  | num n =>
    simp only [Keyword.Accepts, Keyword.PlainlyAccepts, SchemaType.holds, true_and,
      Json.num.injEq, exists_eq_left']
    constructor
    · rintro ⟨⟨hleast, hmost⟩, hstep⟩
      exact ⟨hleast, hmost, hstep⟩
    · intro h
      exact ⟨⟨h.least, h.most⟩, h.step⟩
  | _ => simp [SchemaType.holds]

theorem accepts_arraySchema :
    Schema.Accepts rule.arraySchema value ↔
      ∃ entries, value = .arr entries ∧ rule.HasItems entries := by
  have htext : ∀ entry : Json, Schema.Accepts [.ofType .string] entry ↔ ∃ s, entry = .str s := by
    intro entry
    rw [accepts_ofType]
    cases entry <;> simp [SchemaType.holds]
  simp only [arraySchema, Schema.accepts_append, Schema.accepts_boundKeyword]
  rw [Schema.Accepts, Schema.accepts_singleton]
  cases value with
  | arr entries =>
    simp only [Keyword.Accepts, Keyword.PlainlyAccepts, SchemaType.holds, true_and,
      Json.arr.injEq, exists_eq_left', forall_eq', htext]
    constructor
    · rintro ⟨⟨htexts, hleast⟩, hmost⟩
      exact ⟨htexts, hleast, hmost⟩
    · intro h
      exact ⟨⟨h.texts, h.least⟩, h.most⟩
  | _ => simp [SchemaType.holds, Keyword.Accepts, Keyword.PlainlyAccepts]

/-- **The schema of a rule** accepts what the rule accepts. -/
theorem accepts_toSchema_iff : Schema.Accepts rule.toSchema value ↔ rule.Accepts value := by
  have htitle : Schema.Accepts rule.toSchema value ↔ Schema.Accepts rule.answerSchema value := by
    simp [toSchema, Schema.Accepts, Keyword.Accepts, Keyword.PlainlyAccepts]
  rw [htitle, answerSchema, Accepts]
  cases rule.kind with
  | string => exact accepts_textSchema
  | date => exact accepts_textSchema
  | number => exact accepts_numberSchema
  | array => exact accepts_arraySchema
  | boolean =>
    dsimp only
    rw [Schema.accepts_append, accepts_ofType]
    cases value with
    | bool b =>
      split
      · next h => simp [h, Schema.Accepts, Keyword.Accepts, Keyword.PlainlyAccepts, SchemaType.holds]
      · next h => simp [h, Schema.Accepts, SchemaType.holds]
    | _ => simp [SchemaType.holds]
  | any =>
    dsimp only
    split
    · next h => simp [h, Schema.Accepts, Keyword.Accepts, Keyword.PlainlyAccepts]
    · next h => simp [h, Schema.Accepts]

end Rule

/-! ## The schema of a form -/

theorem Schema.membersAccepted_iff {schemas : List (String × List Keyword)} {members : Members} :
    Schema.MembersAccepted schemas members ↔
      ∀ entry ∈ schemas, ∀ value, Table.get? entry.1 members = some value →
        Schema.Accepts entry.2 value := by
  induction schemas with
  | nil => simp [Schema.MembersAccepted]
  | cons entry rest ih =>
    obtain ⟨name, schema⟩ := entry
    rw [Schema.MembersAccepted, ih, List.forall_mem_cons]

/-- **The schema of a form** accepts the answers that each rule admits. -/
theorem Spec.accepts_toSchema_iff {spec : Spec} {title : String} {data : Members}
    (h : spec.fieldNames.Nodup) :
    Schema.Accepts (spec.toSchema title) (.obj data) ↔
      ∀ rule ∈ spec.rules, rule.Admits (data.get? rule.name) := by
  have hpairs : Table.ofPairs (spec.rules.map fun r => (r.name, r.toSchema)) =
      spec.rules.map fun r => (r.name, r.toSchema) :=
    Table.ofPairs_of_nodup (by simpa [Table.keys, fieldNames, Function.comp_def] using h)
  simp only [toSchema, Schema.Accepts, Keyword.Accepts, Keyword.PlainlyAccepts, SchemaType.holds,
    Json.obj.injEq, forall_eq', hpairs, Schema.membersAccepted_iff, List.forall_mem_map,
    List.mem_filter, and_imp, true_and, and_true, Rule.accepts_toSchema_iff]
  rw [← forall₂_and]
  refine forall₂_congr fun rule hrule => ?_
  unfold Rule.Admits
  cases hvalue : Table.get? rule.name data with
  | none =>
    have hmissing := Table.get?_eq_none_iff.1 hvalue
    simp [hmissing]
  | some value =>
    have hthere : rule.name ∈ Table.keys data := Table.get?_isSome_iff.1 (by rw [hvalue]; rfl)
    simp [hthere]

end FormStudio
