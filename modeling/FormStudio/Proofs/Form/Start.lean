import FormStudio.Proofs.Form.Told

/-!
# The values that a form starts with

What a field may hold is settled twice: by the rule for its answers, which names a type, and by the
handler of its variant, which looks at the value and puts an empty one in its place. The two agree.
A field starts with its own value exactly where that is of the type that its rule demands
(`Field.startValue_eq_iff`), and with a value of this type otherwise (`Field.type_startValue`). So a
form checked against the values that it starts with finds none of a wrong type, and none missing
(`Form.defaults_fit`).
-/
namespace FormStudio

/-! ## Types of values -/

namespace FieldValue

def type : FieldValue → SchemaType
  | .text _ => .string
  | .flag _ => .boolean
  | .number _ => .number
  | .choices _ => .array

theorem holds_toJson_iff {value : FieldValue} {type : SchemaType} :
    type.holds value.toJson = true ↔ value.type = type := by
  cases value <;> cases type <;> simp [FieldValue.type, FieldValue.toJson, SchemaType.holds]

end FieldValue

/-- The type of the values of a kind, unless it is any. -/
def RuleKind.type? : RuleKind → Option SchemaType
  | .string | .date => some .string
  | .number => some .number
  | .boolean => some .boolean
  | .array => some .array
  | .any => none

namespace Rule

variable {rule : Rule} {type : SchemaType}

/-- Whether a rule demands a type: the schema of the answers names it, or the branch of that schema
for answers that are not empty does. -/
def Demands (rule : Rule) (type : SchemaType) : Prop :=
  .ofType type ∈ rule.answerSchema ∨
    ∃ empty filled, .anyOf [empty, filled] ∈ rule.answerSchema ∧ .ofType type ∈ filled

/-- A bound is no keyword of another kind. -/
theorem not_mem_boundKeyword {α : Type} {keyword : α → Keyword} {bound : Option α} {k : Keyword}
    (h : ∀ b, keyword b ≠ k) : k ∉ boundKeyword keyword bound := by
  intro hk
  cases bound with
  | none => cases hk
  | some b => exact h b (List.mem_singleton.1 hk).symm

theorem not_mem_patternKeywords {written : List String} {k : Keyword}
    (hpattern : ∀ text, .pattern text ≠ k) (hall : ∀ branches, .allOf branches ≠ k) :
    k ∉ patternKeywords written := by
  intro hk
  unfold patternKeywords at hk
  split at hk
  · cases hk
  · exact hpattern _ (List.mem_singleton.1 hk).symm
  · exact hall _ (List.mem_singleton.1 hk).symm

theorem ofType_mem_shapeSchema_iff : .ofType type ∈ rule.shapeSchema ↔ type = .string := by
  have hleast : Keyword.ofType type ∉ boundKeyword .minLength rule.minLength :=
    not_mem_boundKeyword (by simp)
  have hmost : Keyword.ofType type ∉ boundKeyword .maxLength rule.maxLength :=
    not_mem_boundKeyword (by simp)
  have hpatterns : Keyword.ofType type ∉ patternKeywords rule.patterns :=
    not_mem_patternKeywords (by simp) (by simp)
  simp [shapeSchema, hleast, hmost, hpatterns]

theorem anyOf_not_mem_shapeSchema {branches : List Schema} :
    .anyOf branches ∉ rule.shapeSchema := by
  have hleast : Keyword.anyOf branches ∉ boundKeyword .minLength rule.minLength :=
    not_mem_boundKeyword (by simp)
  have hmost : Keyword.anyOf branches ∉ boundKeyword .maxLength rule.maxLength :=
    not_mem_boundKeyword (by simp)
  have hpatterns : Keyword.anyOf branches ∉ patternKeywords rule.patterns :=
    not_mem_patternKeywords (by simp) (by simp)
  simp [shapeSchema, hleast, hmost, hpatterns]

/-- A text is demanded by its schema, be it the whole schema or a branch. -/
theorem demands_text_iff (hkind : rule.kind = .string ∨ rule.kind = .date) :
    rule.Demands type ↔ type = .string := by
  have hschema : rule.answerSchema = rule.textSchema := by
    rcases hkind with hkind | hkind <;> rw [answerSchema, hkind]
  have hopen : rule.textSchema =
      if !rule.required && rule.hasShapeConstraints then
        [.anyOf [[.const (.str "")], rule.shapeSchema]]
      else rule.shapeSchema := rfl
  rw [Demands, hschema, hopen]
  split
  · simp [ofType_mem_shapeSchema_iff]
  · simp [ofType_mem_shapeSchema_iff, anyOf_not_mem_shapeSchema]

theorem demands_number_iff (hkind : rule.kind = .number) :
    rule.Demands type ↔ type = .number := by
  have hnone : ∀ k : Keyword, (∀ b, .minimum b ≠ k) → (∀ b, .maximum b ≠ k) →
      (∀ b, .multipleOf b ≠ k) → (k ∈ rule.answerSchema ↔ k = .ofType .number) := by
    intro k hleast hmost hstep
    rw [answerSchema, hkind]
    simp [numberSchema, not_mem_boundKeyword hleast, not_mem_boundKeyword hmost,
      not_mem_boundKeyword hstep]
  rw [Demands, hnone _ (by simp) (by simp) (by simp)]
  simp [hnone]

theorem demands_array_iff (hkind : rule.kind = .array) : rule.Demands type ↔ type = .array := by
  have hnone : ∀ k : Keyword, (∀ b, .minItems b ≠ k) → (∀ b, .maxItems b ≠ k) →
      (k ∈ rule.answerSchema ↔ k = .ofType .array ∨ k = .items [.ofType .string]) := by
    intro k hleast hmost
    rw [answerSchema, hkind]
    simp [arraySchema, not_mem_boundKeyword hleast, not_mem_boundKeyword hmost]
  rw [Demands, hnone _ (by simp) (by simp)]
  simp [hnone]

/-- **The type that a rule demands** is that of its kind. -/
theorem demands_iff : rule.Demands type ↔ rule.kind.type? = some type := by
  cases hkind : rule.kind with
  | string => rw [demands_text_iff (.inl hkind), RuleKind.type?, Option.some_inj, eq_comm]
  | date => rw [demands_text_iff (.inr hkind), RuleKind.type?, Option.some_inj, eq_comm]
  | number => rw [demands_number_iff hkind, RuleKind.type?, Option.some_inj, eq_comm]
  | array => rw [demands_array_iff hkind, RuleKind.type?, Option.some_inj, eq_comm]
  | boolean =>
    rw [Demands, answerSchema, hkind, RuleKind.type?, Option.some_inj, @eq_comm _ _ type]
    cases rule.mustBeTrue <;> simp
  | any =>
    rw [Demands, answerSchema, hkind]
    cases rule.required <;> simp [RuleKind.type?]

/-! ## Values of the demanded type -/

theorem errorType_pattern_ne {written : String} {given : Json} :
    rule.errorType (.pattern written) given ≠ .wrongType := by
  rw [errorType]
  split
  · simp
  · split <;> simp

theorem errorType_minItems_ne {bound : Int} {given : Json} :
    rule.errorType (.minItems bound) given ≠ .wrongType := by
  rw [errorType]
  split <;> simp

theorem not_finds_wrongType_text (hkind : rule.kind = .string ∨ rule.kind = .date) (s : String) :
    ¬ rule.Finds (.str s) .wrongType := by
  intro hfinds
  rw [finds_text_iff hkind] at hfinds
  rcases hfinds with ⟨-, ⟨hnot, -⟩ | ⟨_, -, ⟨_, -, -, htype⟩ | ⟨_, -, -, htype⟩ | ⟨_, -, -, htype⟩⟩⟩
  · exact hnot rfl
  · cases htype
  · cases htype
  · exact errorType_pattern_ne htype

theorem not_finds_wrongType_texts (hkind : rule.kind = .array) (texts : List String) :
    ¬ rule.Finds (.arr (texts.map Json.str)) .wrongType := by
  intro hfinds
  rw [finds_array_iff hkind] at hfinds
  rcases hfinds with ⟨hnot, -⟩ | ⟨entries, heq, ⟨entry, hentry, hnot, -⟩ | ⟨_, -, -, htype⟩ |
    ⟨_, -, -, htype⟩⟩
  · exact hnot rfl
  · cases heq
    obtain ⟨text, -, rfl⟩ := List.mem_map.1 hentry
    exact hnot rfl
  · exact errorType_minItems_ne htype
  · cases htype

/-- **A value of the demanded type** is not told to be of a wrong one. -/
theorem not_finds_wrongType {value : FieldValue}
    (h : ∀ type, rule.Demands type → value.type = type) :
    ¬ rule.Finds value.toJson .wrongType := by
  have htype : ∀ type, rule.kind.type? = some type → value.type = type :=
    fun type hkind => h type (demands_iff.2 hkind)
  cases hkind : rule.kind with
  | string | date =>
    have htext : value.type = .string := htype .string (by rw [hkind]; rfl)
    cases value with
    | text s => exact not_finds_wrongType_text (by simp [hkind]) s
    | _ => cases htext
  | number =>
    have hnumber : value.type = .number := htype .number (by rw [hkind]; rfl)
    rw [finds_number_iff hkind]
    simp [FieldValue.holds_toJson_iff.2 hnumber]
  | boolean =>
    have hflag : value.type = .boolean := htype .boolean (by rw [hkind]; rfl)
    rw [finds_boolean_iff hkind]
    simp [FieldValue.holds_toJson_iff.2 hflag]
  | array =>
    have hlist : value.type = .array := htype .array (by rw [hkind]; rfl)
    cases value with
    | choices texts => exact not_finds_wrongType_texts hkind texts
    | _ => cases hlist
  | any =>
    rw [finds_any_iff hkind]
    simp

end Rule

/-! ## The value of a field -/

namespace Handler

variable {handler : Handler} {f : Field} {own : FieldValue}

theorem kind_ne_any : handler.kind ≠ .any := by
  cases handler <;> simp [kind]

/-- A handler puts a value of its kind into every field. -/
theorem type?_kind : handler.kind.type? = some (handler.startValue f).type := by
  unfold startValue
  cases hkind : handler.kind with
  | any => exact absurd hkind kind_ne_any
  | _ => cases f.value with
    | none => simp [RuleKind.type?, FieldValue.type]
    | some own => cases own <;> simp [RuleKind.type?, FieldValue.type]

/-- A handler keeps the value of a field where it is of its kind. -/
theorem startValue_of_type (hvalue : f.value = some own)
    (htype : handler.kind.type? = some own.type) : handler.startValue f = own := by
  unfold startValue
  rw [hvalue]
  cases hkind : handler.kind <;> cases own <;>
    simp [hkind, RuleKind.type?, FieldValue.type] at htype ⊢

end Handler

namespace Field

variable {variants : VariantTable} {f : Field} {own : FieldValue} {type : SchemaType}

/-- **A field starts with a value** of the type that its rule demands. -/
theorem type_startValue (h : (f.rule variants).Demands type) :
    (f.startValue variants).type = type := by
  rw [Rule.demands_iff] at h
  unfold startValue
  unfold Field.rule at h
  cases hget : variants.get? f.variant with
  | none =>
    rw [hget] at h
    cases h
  | some handler =>
    rw [hget] at h
    dsimp only at h ⊢
    rw [Handler.kind_rule, Handler.type?_kind (f := f), Option.some_inj] at h
    exact h

/-- **A field starts with its own value** exactly where that is of the type that its rule
demands. -/
theorem startValue_eq_iff (hvalue : f.value = some own) :
    f.startValue variants = own ↔ ∀ type, (f.rule variants).Demands type → own.type = type := by
  constructor
  · rintro rfl type htype
    exact type_startValue htype
  · intro htype
    simp only [Rule.demands_iff] at htype
    unfold startValue
    unfold Field.rule at htype
    cases hget : variants.get? f.variant with
    | none => simp [hvalue]
    | some handler =>
      rw [hget] at htype
      dsimp only at htype ⊢
      rw [Handler.kind_rule] at htype
      refine Handler.startValue_of_type hvalue ?_
      rw [Handler.type?_kind (f := f), htype _ Handler.type?_kind]

end Field

/-! ## The values of a form -/

namespace Rule

variable {rule : Rule} {value : Json}

/-- The errors of an answer that is there are found in it and report it. -/
theorem of_mem_answerErrors {errors : List FieldError}
    (h : rule.answerErrors (some value) = .ok errors) {e : FieldError} (he : e ∈ errors) :
    e.received = value ∧ rule.Finds value e.errorType := by
  refine ⟨?_, (exists_errorType_iff h).1 ⟨e, he, rfl⟩⟩
  obtain ⟨found, -, -, hfrom⟩ := Findings.of_collect h
  obtain ⟨v, -, es, hes, hmem⟩ := hfrom e he
  obtain ⟨leaf, -, hleaf⟩ := (of_mapM_eq_ok hes).2 e hmem
  obtain ⟨message, -, hleaf⟩ := bind_eq_ok_iff.1 hleaf
  cases hleaf
  simp

end Rule

namespace Spec

variable {spec : Spec} {data : Members} {result : Validation}

/-- Where every field has an answer, each error is found in one of them and reports it. -/
theorem exists_rule_of_mem_errors (hnames : spec.fieldNames.Nodup)
    (h : spec.validate data = .ok result) (hdata : ∀ rule ∈ spec.rules, rule.name ∈ data.keys)
    {e : FieldError} (he : e ∈ result.errors) :
    ∃ rule ∈ spec.rules, e.fieldName = rule.name ∧ data.get? rule.name = some e.received ∧
      rule.Finds e.received e.errorType := by
  rw [validate_eq hnames] at h
  obtain ⟨found, hfound, h⟩ := bind_eq_ok_iff.1 h
  cases h
  obtain ⟨errors, herrors, hmem⟩ := List.mem_flatMap.1 he
  obtain ⟨rule, hrule, hanswer⟩ := (of_mapM_eq_ok hfound).2 errors herrors
  obtain ⟨value, hvalue⟩ := Option.isSome_iff_exists.1 (Table.get?_isSome_iff.2 (hdata rule hrule))
  have hmem : e ∈ errors := mem_of_mem_firstOfEach ((told_sublist _).subset hmem)
  rw [hvalue] at hanswer
  obtain ⟨hreceived, hfinds⟩ := Rule.of_mem_answerErrors hanswer hmem
  refine ⟨rule, hrule, Rule.fieldName_of_mem_answerErrors hanswer hmem, ?_, ?_⟩
  · rw [hvalue, hreceived]
  · rw [hreceived]
    exact hfinds

end Spec

namespace Form

variable {text : String} {form : Form} {variants : VariantTable}

/-- **A form starts with a value for each of its fields**, in order: the field's own, exactly where
that is of the type that the rule for its answers demands, and else one that is. Checked against
the answers that it starts with, a form misses none of them and finds none of a wrong type: what it
tells a field is found in the value that the field starts with. -/
theorem defaults_fit (himport : ofText text = .ok form) (variants : VariantTable) :
    (form.defaults variants).keys = form.names ∧
      (∀ f ∈ form.fields, ∃ value : FieldValue,
        (form.defaults variants).get? f.name = some value.toJson ∧
          (∀ type, (f.rule variants).Demands type → type.holds value.toJson = true) ∧
          ∀ own, f.value = some own → (value = own ↔
            ∀ type, (f.rule variants).Demands type → type.holds own.toJson = true)) ∧
      (form.spec variants).missingNames (form.defaults variants) = [] ∧
      ∀ result, (form.spec variants).validate (form.defaults variants) = .ok result →
        ∀ e ∈ result.errors, e.errorType ≠ .wrongType ∧
          ∃ f ∈ form.fields, e.fieldName = f.name ∧
            (form.defaults variants).get? f.name = some e.received ∧
              (f.rule variants).Finds e.received e.errorType := by
  have hnames : form.names.Nodup := names_nodup_of_ofText himport
  have hdefaults : form.defaults variants =
      form.fields.map fun f => (f.name, (f.startValue variants).toJson) := defaults_eq hnames
  have hkeys : (form.defaults variants).keys = form.names := by
    rw [hdefaults, Table.keys, List.map_map]
    rfl
  have hget : ∀ f ∈ form.fields,
      (form.defaults variants).get? f.name = some (f.startValue variants).toJson := by
    intro f hf
    refine Table.get?_of_mem (hkeys ▸ hnames) ?_
    rw [hdefaults]
    exact List.mem_map.2 ⟨f, hf, rfl⟩
  have hspec : (form.spec variants).fieldNames.Nodup := by
    rw [spec_fieldNames]
    exact hnames
  have hall : ∀ rule ∈ (form.spec variants).rules, rule.name ∈ (form.defaults variants).keys := by
    intro rule hrule
    rw [hkeys, ← spec_fieldNames variants]
    exact List.mem_map_of_mem hrule
  refine ⟨hkeys, fun f hf => ⟨f.startValue variants, hget f hf, fun type htype => ?_,
    fun own hown => ?_⟩, ?_, fun result hresult e he => ?_⟩
  · exact FieldValue.holds_toJson_iff.2 (Field.type_startValue htype)
  · simp only [FieldValue.holds_toJson_iff]
    exact Field.startValue_eq_iff hown
  · refine List.filter_eq_nil_iff.2 fun name hname => ?_
    obtain ⟨rule, hrule, rfl⟩ := List.mem_map.1 hname
    simp [Table.has, Table.get?_isSome_iff.2 (hall rule (List.mem_filter.1 hrule).1)]
  · obtain ⟨rule, hrule, hname, hreceived, hfinds⟩ :=
      Spec.exists_rule_of_mem_errors hspec hresult hall he
    obtain ⟨f, hf, rfl⟩ := List.mem_map.1 hrule
    rw [Field.name_rule] at hname hreceived
    refine ⟨?_, f, hf, hname, hreceived, hfinds⟩
    rw [hget f hf, Option.some_inj] at hreceived
    rw [← hreceived] at hfinds
    intro htype
    rw [htype] at hfinds
    exact Rule.not_finds_wrongType (fun type htype => Field.type_startValue htype) hfinds

/-- A flag in a slider, a text that has to be given, and a number under an unknown variant. -/
theorem defaults_fit_of_flag_in_slider :
    let text := "[\x7b\"variant\":\"Slider\",\"name\":\"a\",\"value\":true,\"min\":2\x7d," ++
      "[\x7b\"variant\":\"Input\",\"name\":\"b\",\"required\":true\x7d]," ++
      "\x7b\"variant\":\"Dial\",\"name\":\"c\",\"value\":5\x7d]"
    ∃ form, ofText text = .ok form ∧ form.names = ["a", "b", "c"] ∧
      form.defaults Handler.builtin = [("a", .num (.int 2)), ("b", .str ""), ("c", .num (.int 5))] ∧
        (form.defaults Handler.builtin).keys = form.names := by
  intro text
  have hstart : (ofText text).toOption.map (fun form =>
      (form.names, form.defaults Handler.builtin)) =
        some (["a", "b", "c"], [("a", .num (.int 2)), ("b", .str ""), ("c", .num (.int 5))]) := by
    decide +kernel
  obtain ⟨form, himport, hstart⟩ := Option.map_eq_some_iff.1 hstart
  replace himport := toOption_eq_some_iff.1 himport
  obtain ⟨hnames, hdefaults⟩ := Prod.mk.inj hstart
  exact ⟨form, himport, hnames, hdefaults, (defaults_fit himport Handler.builtin).1⟩

end Form

end FormStudio
