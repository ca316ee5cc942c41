import Mathlib.Data.Set.List
import FormStudio.Proofs.Code.Declaration
import FormStudio.Proofs.Form.RoundTrip
import FormStudio.Proofs.Review
import FormStudio.Proofs.Rule.Answer
import FormStudio.Proofs.Rule.Translation

/-!
# What a form asks of its answers

`Field.IsAnswered` says what answers a field asks for, in terms of the field and of the handler of
its variant alone: no rule, no schema and no list of errors comes in. The check of answers finds
valid what all fields ask for (`Form.isValid_iff_isAnswered`), for every imported form, every table
of variants and all answers that it gets through.

How numbers are divided by a step is a parameter of that meaning. `Number.IsMultipleOf` is the
division of the check. Between two integers it is exact, and by a binary step it goes by the rounded
quotient; but a binary number by an integer step is divided in a third way, by the binary number
nearest to the step. So it is not enough to say which divisions are exact
(`Form.not_validMeansAnswered_isMultipleWhere`).
-/
namespace FormStudio

/-! ## Division by a step -/

namespace Number

/-- Whether the quotient by a binary step is a whole number when it is rounded. A quotient past the
largest number is worked out without rounding, unless it is that of an infinite number. -/
def HasWholeQuotient (n : Number) (y : Binary64) : Prop :=
  ∃ x, n.toBinary? = some x ∧
    match x.quotient y with
    | .infinite _ => n.isFinite = true ∧ y.units ∣ n.units
    | q => q.isWhole = true

/-- Whether a number is a multiple of a step that is not zero. -/
def IsMultipleOf : Number → Number → Prop
  | .int i, .int k => k ∣ i
  | .float x, .int k => ∃ y, Binary64.ofInt? k = some y ∧ x.isFinite = true ∧ y.units ∣ x.units
  | n, .float y => n.HasWholeQuotient y

/-- The multiples of a step where some divisions are exact and all others go by the rounded
quotient. -/
structure IsMultipleWhere (exact : Number → Number → Prop) (n step : Number) : Prop where
  exactly : exact n step → step.units ∣ n.units
  rounded : ¬ exact n step → ∃ y, step.toBinary? = some y ∧ n.HasWholeQuotient y

theorem hasWholeQuotient_iff {n : Number} {y : Binary64} :
    n.HasWholeQuotient y ↔ n.isMultipleOf? (.float y) = some true := by
  rw [isMultipleOf?_float, Option.bind_eq_some_iff]
  refine exists_congr fun x => and_congr_right fun _ => ?_
  cases x.quotient y with
  | infinite _ => cases n.isFinite <;> simp [divides_iff]
  | finite _ _ _ _ => exact Option.some_inj.symm
  | nan => simp [Binary64.isWhole]

theorem isMultipleOf_iff {n step : Number} :
    n.IsMultipleOf step ↔ n.isMultipleOf? step = some true := by
  cases step with
  | float y => cases n <;> exact hasWholeQuotient_iff
  | int k =>
    cases n with
    | int i =>
      rw [isMultipleOf?, Option.some_inj]
      exact divides_iff.symm
    | float x =>
      rw [isMultipleOf?, Option.map_eq_some_iff]
      refine exists_congr fun y => and_congr_right fun _ => ?_
      rw [Bool.and_eq_true, divides_iff]

end Number

/-! ## The meaning of a field -/

/-- A text that fits the bounds of a variant. Its length is counted in characters. -/
structure Handler.Fits (handler : Handler) (s : String) : Prop where
  least : ∀ bound ∈ handler.lengths.1, bound ≤ s.length
  most : ∀ bound ∈ handler.lengths.2, (s.length : Int) ≤ bound
  pattern : ∀ written ∈ handler.pattern, Pattern.find written s = .ok true
  date : handler.kind = .date → Pattern.find datePattern s = .ok true

namespace Field

/-- A text that answers a field: with a character that is not blank where there has to be an answer,
and fitting the variant unless it stands for no answer. -/
structure IsText (f : Field) (handler : Handler) (s : String) : Prop where
  given : f.isRequired = true → ∃ c ∈ s.toList, isBlank c = false
  fits : (f.isRequired = false ∧ s = "") ∨ handler.Fits s

/-- A number that answers a field: within the bounds, and on the steps if there are any. -/
structure IsSize (f : Field) (multiple : Number → Number → Prop) (n : Number) : Prop where
  least : ∀ bound ∈ f.min, bound.le n = true
  most : ∀ bound ∈ f.max, n.le bound = true
  step : ∀ step ∈ f.step, step.isZero = false → multiple n step

/-- Texts that answer a field. -/
structure IsChoice (f : Field) (maxItems : Option Int) (texts : List String) : Prop where
  given : f.isRequired = true → texts ≠ []
  most : ∀ bound ∈ maxItems, (texts.length : Int) ≤ bound

/-- What a variant asks of a value. -/
def IsValue (f : Field) (multiple : Number → Number → Prop) : Option Handler → Json → Prop
  | none, value => f.isRequired = true → value ≠ .null ∧ value ≠ .str "" ∧ value ≠ .arr []
  | some (.toggle _ agreement), value =>
    ∃ b, value = .bool b ∧ (agreement = true → f.isRequired = true → b = true)
  | some (.number _), value => ∃ n, value = .num n ∧ f.IsSize multiple n
  | some (.list _ maxItems _), value =>
    ∃ texts, value = .arr (texts.map Json.str) ∧ f.IsChoice maxItems texts
  | some handler, value => ∃ s, value = .str s ∧ f.IsText handler s

/-- What a field asks of an answer, which may be absent. -/
def IsAnswered (f : Field) (multiple : Number → Number → Prop) (variants : VariantTable) :
    Option Json → Prop
  | none => f.isRequired = false
  | some value => f.IsValue multiple (variants.get? f.variant) value

end Field

/-! ## Texts -/

theorem Place.exists_onward_after {p : Place} {c : Char} :
    (∃ q ∈ p.onward, ∃ rest, q.after = c :: rest) ↔ c ∈ p.after := by
  obtain ⟨before, after, index, hindex⟩ := p
  show (∃ q ∈ onward.go before after index hindex, _) ↔ c ∈ after
  induction after generalizing before index with
  | nil => simp [onward.go]
  | cons d after ih =>
    have htail := ih (d :: before) (index + 1) (by simp [hindex])
    simp only [onward.go, List.mem_cons, exists_eq_or_imp, htail]
    simp [eq_comm]

/-- A text has a character that is not blank exactly where the pattern for one is found. -/
theorem Pattern.find_nonBlank_iff {s : String} :
    Pattern.find nonBlankPattern s = .ok true ↔ ∃ c ∈ s.toList, isBlank c = false := by
  have hread : Pattern.read nonBlankPattern =
      .ok (.set ⟨.exact, false, [.named .every .blank true]⟩) := rfl
  have hholds : ∀ c, CharSet.holds ⟨.exact, false, [.named .every .blank true]⟩ c = !isBlank c := by
    intro c
    simp [CharSet.holds, CharItem.holds, CharClass.holds]
  rw [find_of_read hread, Except.ok.injEq, Pattern.search_iff]
  constructor
  · rintro ⟨place, hplace, t, ht⟩
    cases hafter : place.after with
    | nil => simp [outcomes, run, Place.next?, hafter, Search.toList] at ht
    | cons c rest =>
      refine ⟨c, Place.exists_onward_after.1 ⟨place, hplace, rest, hafter⟩, ?_⟩
      cases hblank : isBlank c with
      | false => rfl
      | true => simp [outcomes, run, Place.next?, hafter, hholds, hblank, Search.toList] at ht
  · rintro ⟨c, hc, hblank⟩
    obtain ⟨place, hplace, rest, hafter⟩ :=
      (Place.exists_onward_after (p := Place.start s)).2 hc
    refine ⟨place, hplace, ?_⟩
    simp [outcomes, run, Place.next?, hafter, hholds, hblank, Search.toList]

namespace Field

variable {f : Field} {handler : Handler} {variants : VariantTable} {rule : Rule} {value : Json}

/-- A text is held against a rule with the bounds of the variant. An optional empty text skips the
bounds, and where there are none it fits. -/
theorem isText_iff {s : String} (hrequired : rule.required = f.isRequired)
    (hleast : rule.minLength = handler.lengths.1) (hmost : rule.maxLength = handler.lengths.2)
    (hpattern : rule.pattern = handler.pattern) (hkind : rule.kind = handler.kind) :
    (rule.HasShape s ∨ rule.required = false ∧ rule.hasShapeConstraints = true ∧ s = "") ↔
      f.IsText handler s := by
  have hpatterns : (∀ written ∈ rule.patterns, Pattern.find written s = .ok true) ↔ _ :=
    Rule.forall_patterns_iff
  rw [hrequired, hpattern, hkind, Pattern.find_nonBlank_iff] at hpatterns
  have hshape : rule.HasShape s ↔
      (f.isRequired = true → ∃ c ∈ s.toList, isBlank c = false) ∧ handler.Fits s := by
    constructor
    · intro h
      obtain ⟨hgiven, hwritten, hdate⟩ := hpatterns.1 h.patterns
      exact ⟨hgiven, hleast ▸ h.least, hmost ▸ h.most, hwritten, hdate⟩
    · rintro ⟨hgiven, h⟩
      exact ⟨hleast ▸ h.least, hmost ▸ h.most, hpatterns.2 ⟨hgiven, h.pattern, h.date⟩⟩
  rw [hrequired, hshape]
  constructor
  · rintro (⟨hgiven, h⟩ | ⟨hoptional, -, hempty⟩)
    · exact ⟨hgiven, .inr h⟩
    · refine ⟨fun hgiven => ?_, .inl ⟨hoptional, hempty⟩⟩
      rw [hoptional] at hgiven
      cases hgiven
  · rintro ⟨hgiven, ⟨hoptional, hempty⟩ | h⟩
    · by_cases hconstraints : rule.hasShapeConstraints = true
      · exact .inr ⟨hoptional, hconstraints, hempty⟩
      · -- without bounds every text fits
        simp only [Rule.hasShapeConstraints, hleast, hmost, hpattern, hkind, Bool.or_eq_true,
          not_or, Bool.not_eq_true, Option.isSome_eq_false_iff, Option.isNone_iff_eq_none,
          beq_eq_false_iff_ne] at hconstraints
        obtain ⟨⟨⟨h1, h2⟩, h3⟩, h4⟩ := hconstraints
        refine .inl ⟨hgiven, ?_, ?_, ?_, fun hdate => absurd hdate h4⟩
        · rw [h1]
          nofun
        · rw [h2]
          nofun
        · rw [h3]
          nofun
    · exact .inl ⟨hgiven, h⟩

theorem isSize_iff {n : Number} (hmin : rule.minimum = f.min) (hmax : rule.maximum = f.max)
    (hstep : rule.step = f.step) : rule.HasSize n ↔ f.IsSize Number.IsMultipleOf n := by
  have hsteps : (∀ step ∈ rule.effectiveStep, n.isMultipleOf? step = some true) ↔
      ∀ step ∈ f.step, step.isZero = false → n.IsMultipleOf step := by
    simp only [Rule.effectiveStep, hstep, Option.mem_def, Option.filter_eq_some_iff, and_imp,
      Bool.not_eq_true', Number.isMultipleOf_iff]
  constructor
  · intro h
    exact ⟨hmin ▸ h.least, hmax ▸ h.most, hsteps.1 h.step⟩
  · intro h
    exact ⟨hmin ▸ h.least, hmax ▸ h.most, hsteps.2 h.step⟩

theorem isChoice_iff {maxItems : Option Int} (hrequired : rule.required = f.isRequired)
    (hleast : rule.minItems = none) (hmost : rule.maxItems = maxItems) :
    (∃ entries, value = .arr entries ∧ rule.HasItems entries) ↔
      ∃ texts, value = .arr (texts.map Json.str) ∧ f.IsChoice maxItems texts := by
  have hcount : ∀ texts : List String,
      (∀ bound ∈ rule.leastItems, bound ≤ ((texts.map Json.str).length : Int)) ↔
        (f.isRequired = true → texts ≠ []) := by
    intro texts
    rw [Rule.leastItems, hrequired, hleast, List.length_map, ← List.length_pos_iff]
    cases f.isRequired with
    | false => simp
    | true =>
      simp only [↓reduceIte, Option.mem_def, Option.some.injEq, forall_eq', forall_const,
        Option.getD_none]
      omega
  constructor
  · rintro ⟨entries, rfl, hentries⟩
    obtain ⟨texts, rfl⟩ : entries ∈ Set.range (List.map Json.str) := by
      rw [Set.range_list_map]
      intro entry hentry
      obtain ⟨s, hs⟩ := hentries.texts entry hentry
      exact ⟨s, hs.symm⟩
    refine ⟨texts, rfl, (hcount texts).1 hentries.least, ?_⟩
    simpa [hmost] using hentries.most
  · rintro ⟨texts, rfl, h⟩
    refine ⟨_, rfl, ?_, (hcount texts).2 h.given, ?_⟩
    · simp
    · simpa [hmost] using h.most

/-- **A rule accepts what its field asks for.** -/
theorem accepts_rule_iff :
    (f.rule variants).Accepts value ↔
      f.IsValue Number.IsMultipleOf (variants.get? f.variant) value := by
  unfold Field.rule
  cases variants.get? f.variant with
  | none => exact Iff.rfl
  | some handler =>
    cases handler with
    | toggle component agreement =>
      refine exists_congr fun b => and_congr_right fun _ => ?_
      show ((agreement && f.isRequired) = true → b = true) ↔ _
      rw [Bool.and_eq_true, and_imp]
    | number style =>
      exact exists_congr fun n => and_congr_right fun _ => isSize_iff rfl rfl rfl
    | list style maxItems fallback => exact isChoice_iff rfl rfl rfl
    | _ => exact exists_congr fun s => and_congr_right fun _ => isText_iff rfl rfl rfl rfl rfl

theorem required_rule : (f.rule variants).required = f.isRequired := by
  unfold Field.rule
  split
  · next handler _ => cases handler <;> rfl
  · rfl

theorem admits_rule_iff {answer : Option Json} :
    (f.rule variants).Admits answer ↔ f.IsAnswered Number.IsMultipleOf variants answer := by
  cases answer with
  | none => rw [Rule.Admits, IsAnswered, required_rule]
  | some value => exact accepts_rule_iff

end Field

/-! ## The meaning of a form -/

namespace Form

variable {text : String} {form : Form} {variants : VariantTable} {data : Members}
  {result : Validation}

/-- **What the check finds valid** is what every field asks for. -/
theorem isValid_iff_isAnswered (himport : ofText text = .ok form)
    (hvalidate : (form.spec variants).validate data = .ok result) :
    result.isValid = true ↔
      ∀ f ∈ form.fields, f.IsAnswered Number.IsMultipleOf variants (data.get? f.name) := by
  have hnames : (form.spec variants).fieldNames.Nodup := by
    rw [spec_fieldNames]
    exact names_nodup_of_ofText himport
  rw [Spec.isValid_iff_accepts hvalidate, Spec.accepts_toSchema_iff hnames]
  simp only [spec, List.forall_mem_map, Field.name_rule, Field.admits_rule_iff]

theorem isValid_iff_isAnswered_optional_code :
    let text := "[\x7b\"variant\":\"Input OTP\",\"name\":\"a\"\x7d," ++
      "\x7b\"variant\":\"Tags Input\",\"name\":\"b\",\"required\":true\x7d]"
    let data : Members := [("a", .str ""), ("b", .arr [.str "x"])]
    ∃ form result, ofText text = .ok form ∧
      (form.spec Handler.builtin).validate data = .ok result ∧ result.isValid = true ∧
        ∀ f ∈ form.fields, f.IsAnswered Number.IsMultipleOf Handler.builtin (data.get? f.name) := by
  intro text data
  have hvalid : ((ofText text).toOption.bind fun form =>
      ((form.spec Handler.builtin).validate data).toOption.map Validation.isValid) =
        some true := by decide +kernel
  obtain ⟨form, himport, hvalid⟩ := Option.bind_eq_some_iff.1 hvalid
  obtain ⟨result, hresult, hvalid⟩ := Option.map_eq_some_iff.1 hvalid
  replace himport := toOption_eq_some_iff.1 himport
  replace hresult := toOption_eq_some_iff.1 hresult
  exact ⟨form, result, himport, hresult, hvalid,
    (isValid_iff_isAnswered himport hresult).1 hvalid⟩

/-- Whether the valid answers of imported forms are those that all fields ask for, with numbers
divided in some way. -/
def ValidMeansAnswered (multiple : Number → Number → Prop) : Prop :=
  ∀ (text : String) (form : Form) (variants : VariantTable) (data : Members) (result : Validation),
    ofText text = .ok form → (form.spec variants).validate data = .ok result →
      (result.isValid = true ↔
        ∀ f ∈ form.fields, f.IsAnswered multiple variants (data.get? f.name))

/-- Where the valid answers are those that all fields ask for, the answer to a lone slider with a
step is valid just where it is a multiple. -/
theorem ValidMeansAnswered.slider {multiple : Number → Number → Prop}
    (h : ValidMeansAnswered multiple) (step n : Number) (text : String) (valid : Bool)
    (himport : ofText text = .ok [.field (.stepped step)]) (hzero : step.isZero = false)
    (hvalid : ((spec Handler.builtin [.field (.stepped step)]).validate
      [("a", .num n)]).toOption.map Validation.isValid = some valid) :
    valid = true ↔ multiple n step := by
  obtain ⟨result, hresult, rfl⟩ := Option.map_eq_some_iff.1 hvalid
  rw [h _ _ _ _ _ himport (toOption_eq_some_iff.1 hresult)]
  show (∀ f ∈ [Field.stepped step], _) ↔ _
  rw [List.forall_mem_singleton]
  show (∃ m, Json.num n = .num m ∧ (Field.stepped step).IsSize multiple m) ↔ _
  simp only [Json.num.injEq, exists_eq_left']
  constructor
  · intro hsize
    exact hsize.step step rfl hzero
  · intro hmultiple
    refine ⟨nofun, nofun, fun s hs _ => ?_⟩
    cases hs
    exact hmultiple

/-- **It is not enough to say which divisions are exact** and to leave the others to the rounded
quotient, if all divisions of a binary number by an integer are treated alike: `1e17` is no answer
where the step is `3`, but the quotient rounds to a whole number, and `2 ^ 53` is one where the step
is the integer after it, the nearest binary number of which is `2 ^ 53`. -/
theorem not_validMeansAnswered_isMultipleWhere :
    ¬ ∃ exact : Number → Number → Prop,
      (exact (.float (.ofDecimal false 1 17)) (.int 3) ↔
        exact (.float (.ofDecimal false 9007199254740992 0)) (.int 9007199254740993)) ∧
      ValidMeansAnswered (Number.IsMultipleWhere exact) := by
  rintro ⟨exact, halike, hmeans⟩
  have hfirst := hmeans.slider (.int 3) (.float (.ofDecimal false 1 17))
    "[\x7b\"variant\":\"Slider\",\"name\":\"a\",\"step\":3\x7d]" false
    (toOption_eq_some_iff.1 (by decide +kernel)) (by decide +kernel) (by decide +kernel)
  have hsecond := hmeans.slider (.int 9007199254740993)
    (.float (.ofDecimal false 9007199254740992 0))
    "[\x7b\"variant\":\"Slider\",\"name\":\"a\",\"step\":9007199254740993\x7d]" true
    (toOption_eq_some_iff.1 (by decide +kernel)) (by decide +kernel) (by decide +kernel)
  by_cases hexact : exact (.float (.ofDecimal false 1 17)) (.int 3)
  · have hdvd := (hsecond.1 rfl).exactly (halike.1 hexact)
    exact absurd hdvd (by decide +kernel)
  · have hwhole : (Number.float (.ofDecimal false 1 17)).IsMultipleWhere exact (.int 3) := by
      refine ⟨fun h => absurd h hexact, fun _ => ⟨.ofDecimal false 3 0, ?_, ?_⟩⟩
      · decide +kernel
      · rw [Number.hasWholeQuotient_iff]
        decide +kernel
    exact Bool.false_ne_true (hfirst.2 hwhole)

end Form

end FormStudio
