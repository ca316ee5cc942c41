import FormStudio.Proofs.Rule.Answer
import FormStudio.Proofs.Rule.FieldByField

/-!
# The keywords that an answer violates

What a check finds can be said without it, where it goes through: a schema without alternatives
faults the keywords that do not accept the answer or an item of it, each with what it does not
accept (`Schema.blames_violations_iff`). So the types of error in an answer are those of the
keywords at fault (`Rule.exists_errorType_iff`), and a field is told all of them, or only that it is
required where that is one of them (`Spec.tells_iff`).
-/
namespace FormStudio

/-! ## What findings blame -/

namespace Findings

variable {α : Type} {findings first second : Findings α}

/-- Whether a check goes through. -/
def Completes (findings : Findings α) : Prop := findings.All fun _ => True

theorem completes_append : (first ++ second).Completes ↔ first.Completes ∧ second.Completes :=
  all_append

theorem completes_of_toDerived {items : List α} (h : findings.toDerived = .ok items) :
    findings.Completes := by
  induction findings generalizing items with
  | done => trivial
  | brokenOff e => cases h
  | found a rest ih =>
    obtain ⟨others, hothers, -⟩ := bind_eq_ok_iff.1 h
    exact ⟨trivial, ih hothers⟩

theorem found_append_iff (h : first.Completes) {a : α} :
    (first ++ second).Found a ↔ first.Found a ∨ second.Found a := by
  change (append first second).Found a ↔ _
  induction first with
  | done => simp [append, Found]
  | brokenOff e => exact h.elim
  | found b rest ih => simp [append, Found, ih h.2, or_assoc]

theorem mem_toDerived_iff {items : List α} (h : findings.toDerived = .ok items) {a : α} :
    a ∈ items ↔ findings.Found a := by
  refine ⟨found_of_toDerived h, fun ha => ?_⟩
  induction findings generalizing items with
  | done => exact ha.elim
  | brokenOff e => exact ha.elim
  | found b rest ih =>
    obtain ⟨others, hothers, h⟩ := bind_eq_ok_iff.1 h
    cases h
    rcases ha with rfl | ha
    · exact List.mem_cons_self
    · exact List.mem_cons_of_mem b (ih hothers ha)

variable {findings first second : Findings Violation} {leaf : Keyword × Json}

/-- Whether a check finds that a value violates a keyword. -/
def Blames (findings : Findings Violation) (leaf : Keyword × Json) : Prop :=
  ∃ v, findings.Found v ∧ leaf ∈ v.leaves

theorem not_blames_done : ¬ (done : Findings Violation).Blames leaf := by
  rintro ⟨v, hv, -⟩
  exact hv

theorem blames_append (h : first.Completes) :
    (first ++ second).Blames leaf ↔ first.Blames leaf ∨ second.Blames leaf := by
  simp only [Blames, found_append_iff h, or_and_right, exists_or]

theorem blames_leaf {path : List PathStep} {keyword : Keyword} {value : Json} :
    (found (.leaf path keyword value) .done).Blames leaf ↔ leaf = (keyword, value) := by
  simp [Blames, Found, Violation.leaves]

end Findings

/-! ## Keywords at fault -/

mutual

/-- Whether a keyword, or one inside it, is at fault: it does not accept a value, or an item of
it. Keywords with alternatives or members are left out. -/
def Keyword.Faults : Keyword → Json → Keyword × Json → Prop
  | .items schema, value, leaf =>
    ∃ entries, value = .arr entries ∧ ∃ entry ∈ entries, Schema.Faults schema entry leaf
  | .allOf branches, value, leaf => Schema.FaultsOne branches value leaf
  | .not schema, value, leaf => leaf = (.not schema, value) ∧ Schema.Accepts schema value
  | keyword, value, leaf => leaf = (keyword, value) ∧ ¬ keyword.PlainlyAccepts value

/-- Whether a keyword of a schema is at fault. -/
def Schema.Faults : List Keyword → Json → Keyword × Json → Prop
  | [], _, _ => False
  | keyword :: rest, value, leaf => keyword.Faults value leaf ∨ Schema.Faults rest value leaf

/-- Whether a keyword of one of several schemas is at fault. -/
def Schema.FaultsOne : List (List Keyword) → Json → Keyword × Json → Prop
  | [], _, _ => False
  | schema :: rest, value, leaf =>
    Schema.Faults schema value leaf ∨ Schema.FaultsOne rest value leaf

end

/-- Whether a keyword is about a value and has no schemas inside. -/
def Keyword.isPlain : Keyword → Bool
  | .items _ | .anyOf _ | .allOf _ | .not _ | .properties _ | .required _ => false
  | _ => true

variable {path : List PathStep} {value : Json} {leaf : Keyword × Json}

theorem Keyword.faults_iff {keyword : Keyword} (h : keyword.isPlain = true) :
    keyword.Faults value leaf ↔ leaf = (keyword, value) ∧ ¬ keyword.PlainlyAccepts value := by
  cases keyword with
  | items _ | anyOf _ | allOf _ | not _ | properties _ | required _ => cases h
  | _ => simp only [Faults]

theorem Keyword.blames_demand {keyword : Keyword} {holds : Bool} :
    (keyword.demand path value holds).Blames leaf ↔ leaf = (keyword, value) ∧ holds = false := by
  cases holds with
  | true => simp [demand, Findings.not_blames_done]
  | false => simp [demand, Findings.blames_leaf]

/-- A keyword without schemas inside demands one thing, unless it breaks off. -/
theorem Keyword.plainViolations_eq (keyword : Keyword) (path : List PathStep) (value : Json) :
    (∃ e, keyword.plainViolations path value = .brokenOff e) ∨
      ∃ holds, keyword.plainViolations path value = keyword.demand path value holds := by
  unfold plainViolations
  dsimp only
  split
  case h_4 written s =>
    cases Pattern.find written s with
    | error e => exact .inl ⟨_, rfl⟩
    | ok isFound => exact .inr ⟨isFound, rfl⟩
  case h_7 step n =>
    cases n.isMultipleOf? step with
    | none => exact .inl ⟨_, rfl⟩
    | some divides => exact .inr ⟨divides, rfl⟩
  case h_12 => exact .inr ⟨true, rfl⟩
  all_goals exact .inr ⟨_, rfl⟩

/-- A keyword without schemas inside finds nothing but itself. -/
theorem Keyword.blames_plainViolations {keyword : Keyword}
    (h : (keyword.plainViolations path value).Completes) :
    (keyword.plainViolations path value).Blames leaf ↔
      leaf = (keyword, value) ∧ ¬ keyword.PlainlyAccepts value := by
  have hdecides := decides_plainViolations keyword path value
  rcases plainViolations_eq keyword path value with ⟨e, heq⟩ | ⟨holds, heq⟩
  · rw [heq] at h
    exact h.elim
  · rw [heq] at hdecides ⊢
    rw [blames_demand]
    cases holds with
    | true => exact iff_of_false (fun h => nomatch h.2) fun h => h.2 hdecides
    | false => exact and_congr_right fun _ => iff_of_true rfl hdecides

theorem blames_eachItem {check : List PathStep → Json → Findings Violation} {P : Json → Prop}
    (hcheck : ∀ path value, (check path value).Completes →
      ((check path value).Blames leaf ↔ P value))
    {position : Nat} {entries : List Json}
    (h : (eachItem check path position entries).Completes) :
    (eachItem check path position entries).Blames leaf ↔ ∃ entry ∈ entries, P entry := by
  induction entries generalizing position with
  | nil => exact iff_of_false Findings.not_blames_done (by simp)
  | cons entry rest ih =>
    rw [eachItem, Findings.completes_append] at h
    rw [eachItem, Findings.blames_append h.1, hcheck _ _ h.1, ih h.2, List.exists_mem_cons_iff]

mutual

theorem Keyword.blames_violations_iff : ∀ (keyword : Keyword), keyword.isDirect = true →
    ∀ (path : List PathStep) (value : Json), (keyword.violations path value).Completes →
      ((keyword.violations path value).Blames leaf ↔ keyword.Faults value leaf)
  | .items schema, hdirect, path, value, h => by
    rw [Keyword.Faults]
    cases value with
    | arr entries =>
      simp only [Keyword.violations] at h ⊢
      rw [blames_eachItem (Schema.blames_violations_iff schema hdirect) h]
      simp
    | _ => simpa [Keyword.violations] using Findings.not_blames_done
  | .allOf branches, hdirect, path, value, h => by
    rw [Keyword.violations] at h ⊢
    rw [Keyword.Faults]
    exact Schema.blames_allBranches_iff branches hdirect path value h
  | .not schema, _, path, value, h => by
    have hdecides := Schema.decides_violations schema path value
    rw [Keyword.violations] at h ⊢
    rw [Keyword.Faults]
    cases hfound : Schema.violations schema path value with
    | done =>
      rw [hfound] at hdecides
      rw [Findings.blames_leaf]
      exact (and_iff_left hdecides).symm
    | brokenOff e =>
      rw [hfound] at h
      exact h.elim
    | found v rest =>
      rw [hfound] at hdecides
      exact iff_of_false Findings.not_blames_done fun hleaf => hdecides hleaf.2
  | .dialect _, _, path, value, h | .title _, _, path, value, h
  | .ofType _, _, path, value, h | .minLength _, _, path, value, h
  | .maxLength _, _, path, value, h | .pattern _, _, path, value, h
  | .minimum _, _, path, value, h | .maximum _, _, path, value, h
  | .multipleOf _, _, path, value, h | .const _, _, path, value, h
  | .enum _, _, path, value, h | .minItems _, _, path, value, h
  | .maxItems _, _, path, value, h => by
    simp only [Keyword.violations, Keyword.Faults] at h ⊢
    exact Keyword.blames_plainViolations h

/-- **Going through a schema without alternatives** finds the keywords that are at fault. -/
theorem Schema.blames_violations_iff : ∀ (schema : List Keyword), Schema.isDirect schema = true →
    ∀ (path : List PathStep) (value : Json), (Schema.violations schema path value).Completes →
      ((Schema.violations schema path value).Blames leaf ↔ Schema.Faults schema value leaf)
  | [], _, path, value, _ => by
    rw [Schema.violations_nil, Schema.Faults]
    exact iff_of_false Findings.not_blames_done id
  | keyword :: rest, hdirect, path, value, h => by
    obtain ⟨hkeyword, hrest⟩ := Bool.and_eq_true_iff.1 hdirect
    rw [Schema.violations, Findings.completes_append] at h
    rw [Schema.violations, Schema.Faults, Findings.blames_append h.1,
      Keyword.blames_violations_iff keyword hkeyword path value h.1,
      Schema.blames_violations_iff rest hrest path value h.2]

theorem Schema.blames_allBranches_iff : ∀ (branches : List (List Keyword)),
    Schema.areDirect branches = true → ∀ (path : List PathStep) (value : Json),
      (Schema.allBranches branches path value).Completes →
        ((Schema.allBranches branches path value).Blames leaf ↔
          Schema.FaultsOne branches value leaf)
  | [], _, path, value, _ => by
    rw [Schema.allBranches, Schema.FaultsOne]
    exact iff_of_false Findings.not_blames_done id
  | branch :: rest, hdirect, path, value, h => by
    obtain ⟨hbranch, hrest⟩ := Bool.and_eq_true_iff.1 hdirect
    rw [Schema.allBranches, Findings.completes_append] at h
    rw [Schema.allBranches, Schema.FaultsOne, Findings.blames_append h.1,
      Schema.blames_violations_iff branch hbranch path value h.1,
      Schema.blames_allBranches_iff rest hrest path value h.2]

end

/-- Where neither of two alternatives holds, the leaves are those of the second. -/
theorem Violation.mem_leaves_noBranch_iff {first second : List Violation}
    (h : ∀ v ∈ second, v.IsLeafBelow path) :
    leaf ∈ (noBranch path [first, second]).leaves ↔ ∃ v ∈ second, leaf ∈ v.leaves := by
  refine List.mem_filterMap.trans ?_
  refine exists_congr fun v => and_congr_right fun hv => ?_
  obtain ⟨rest, keyword, value, rfl, -⟩ := h v hv
  simp [leaves, eq_comm]

/-- Where no alternative of two holds, the keywords of the second are blamed. -/
theorem Keyword.blames_anyOf_iff {first second : Schema} (hsecond : Schema.isDirect second = true)
    (h : (Keyword.violations (.anyOf [first, second]) path value).Completes) :
    (Keyword.violations (.anyOf [first, second]) path value).Blames leaf ↔
      ¬ Schema.Accepts first value ∧ Schema.Faults second value leaf := by
  rw [Keyword.violations, Schema.eachBranch] at h ⊢
  cases hfirst : (Schema.violations first path value).toDerived with
  | error e =>
    rw [hfirst] at h
    exact h.elim
  | ok as =>
  rw [← (Schema.decides_violations first path value).of_toDerived hfirst]
  rw [hfirst, ok_bind] at h
  rw [ok_bind]
  cases as with
  | nil => exact iff_of_false Findings.not_blames_done fun hleaf => hleaf.1 rfl
  | cons a as =>
  rw [List.isEmpty_cons, if_neg Bool.false_ne_true, Schema.eachBranch] at h ⊢
  rw [and_iff_right (List.cons_ne_nil a as)]
  cases hfound : (Schema.violations second path value).toDerived with
  | error e =>
    rw [hfound] at h
    exact h.elim
  | ok bs =>
  have hblames : (Schema.violations second path value).Blames leaf ↔ ∃ v ∈ bs, leaf ∈ v.leaves :=
    exists_congr fun v => and_congr_left fun _ => (Findings.mem_toDerived_iff hfound).symm
  rw [← Schema.blames_violations_iff second hsecond path value
    (Findings.completes_of_toDerived hfound), hblames]
  cases bs with
  | nil => exact iff_of_false Findings.not_blames_done (by simp)
  | cons b rest =>
  have hleaves : leaf ∈ (Violation.noBranch path [a :: as, b :: rest]).leaves ↔
      ∃ v ∈ b :: rest, leaf ∈ v.leaves :=
    Violation.mem_leaves_noBranch_iff fun v hv => Schema.isLeafBelow_violations second hsecond path
      value v (Findings.found_of_toDerived hfound hv)
  rw [← hleaves]
  simp [Schema.eachBranch, ok_bind, Findings.Blames, Findings.Found]

namespace Schema

theorem faults_append {first second : Schema} :
    Schema.Faults (first ++ second) value leaf ↔
      Schema.Faults first value leaf ∨ Schema.Faults second value leaf := by
  induction first with
  | nil => simp [Schema.Faults]
  | cons keyword rest ih => simp [Schema.Faults, ih, or_assoc]

theorem faults_singleton {keyword : Keyword} :
    Schema.Faults [keyword] value leaf ↔ keyword.Faults value leaf := by
  simp [Schema.Faults]

end Schema

/-! ## Errors of a rule -/

namespace Rule

variable {rule : Rule}

theorem faults_patternKeywords {written : List String} :
    Schema.Faults (patternKeywords written) value leaf ↔
      ∃ w ∈ written, (Keyword.pattern w).Faults value leaf := by
  have hall : ∀ several : List String,
      Schema.FaultsOne (several.map fun w => [.pattern w]) value leaf ↔
        ∃ w ∈ several, (Keyword.pattern w).Faults value leaf := by
    intro several
    induction several with
    | nil => simp [Schema.FaultsOne]
    | cons w rest ih => simp [Schema.FaultsOne, Schema.faults_singleton, ih]
  unfold patternKeywords
  split
  · simp [Schema.Faults]
  · simp [Schema.faults_singleton]
  · rw [Schema.faults_singleton, Keyword.Faults, hall]

/-- The schema of a text, where an empty answer is checked too. -/
def shapeSchema (rule : Rule) : Schema :=
  [.ofType .string] ++ boundKeyword .minLength rule.minLength ++
    boundKeyword .maxLength rule.maxLength ++ patternKeywords rule.patterns

/-- Whether an empty text passes for no answer. -/
def Skips (rule : Rule) (value : Json) : Prop :=
  rule.required = false ∧ rule.hasShapeConstraints = true ∧ value = .str ""

/-- Whether a keyword of a rule is at fault. -/
def Faults (rule : Rule) (value : Json) (leaf : Keyword × Json) : Prop :=
  match rule.kind with
  | .string | .date => ¬ rule.Skips value ∧ Schema.Faults rule.shapeSchema value leaf
  | _ => Schema.Faults rule.answerSchema value leaf

theorem blames_textSchema_iff (h : (Schema.violations rule.textSchema path value).Completes) :
    (Schema.violations rule.textSchema path value).Blames leaf ↔
      ¬ rule.Skips value ∧ Schema.Faults rule.shapeSchema value leaf := by
  revert h
  unfold textSchema
  dsimp only
  split <;> intro h
  · next hskips =>
    rw [Bool.and_eq_true, Bool.not_eq_true'] at hskips
    rw [Schema.violations, Findings.completes_append] at h
    rw [Schema.violations, Findings.blames_append h.1,
      Keyword.blames_anyOf_iff isDirect_fullTextSchema h.1, Schema.violations_nil,
      or_iff_left Findings.not_blames_done, Schema.accepts_singleton]
    simp only [Skips, hskips, true_and]
    exact Iff.rfl
  · next hskips =>
    have hnot : ¬ rule.Skips value := by
      rintro ⟨hrequired, hshape, -⟩
      exact hskips (by rw [hrequired, hshape]; rfl)
    rw [Schema.blames_violations_iff _ isDirect_fullTextSchema path value h, and_iff_right hnot]
    exact Iff.rfl

/-- **The check of an answer** blames the keywords of the rule that are at fault. -/
theorem blames_toSchema_iff (h : (Schema.violations rule.toSchema path value).Completes) :
    (Schema.violations rule.toSchema path value).Blames leaf ↔ rule.Faults value leaf := by
  have hdirect : ∀ {schema : Schema}, Schema.isDirect schema = true →
      (Schema.violations schema path value).Completes →
        ((Schema.violations schema path value).Blames leaf ↔ Schema.Faults schema value leaf) :=
    fun hschema hcompletes => Schema.blames_violations_iff _ hschema path value hcompletes
  rw [toSchema, Schema.violations, Findings.completes_append] at h
  obtain ⟨htitle, h⟩ := h
  have hnone : ¬ ((Keyword.title rule.displayName).violations path value).Blames leaf := by
    simpa [Keyword.violations, Keyword.plainViolations] using Findings.not_blames_done
  rw [toSchema, Schema.violations, Findings.blames_append htitle, or_iff_right hnone, Faults]
  revert h
  rw [answerSchema]
  cases rule.kind with
  | string => exact blames_textSchema_iff
  | date => exact blames_textSchema_iff
  | number => exact hdirect isDirect_numberSchema
  | boolean => cases rule.mustBeTrue <;> exact hdirect rfl
  | array => exact hdirect isDirect_arraySchema
  | any => cases rule.required <;> exact hdirect rfl

/-- Whether a rule finds an error of some type in an answer. -/
def Finds (rule : Rule) (value : Json) (type : ErrorType) : Prop :=
  ∃ leaf, rule.Faults value leaf ∧ rule.errorType leaf.1 leaf.2 = type

/-- **The types of the errors** in an answer are those of the keywords at fault. -/
theorem exists_errorType_iff {errors : List FieldError}
    (h : rule.answerErrors (some value) = .ok errors) {type : ErrorType} :
    (∃ e ∈ errors, e.errorType = type) ↔ rule.Finds value type := by
  obtain ⟨found, hfound, hall, hfrom⟩ := Findings.of_collect h
  have hcompletes := Findings.completes_of_toDerived hfound
  constructor
  · rintro ⟨e, he, rfl⟩
    obtain ⟨v, hv, es, hes, hmem⟩ := hfrom e he
    obtain ⟨leaf, hleaf, herror⟩ := (of_mapM_eq_ok hes).2 e hmem
    refine ⟨leaf, (blames_toSchema_iff hcompletes).1 ⟨v, Findings.found_of_toDerived hfound hv,
      hleaf⟩, ?_⟩
    obtain ⟨message, -, herror⟩ := bind_eq_ok_iff.1 herror
    cases herror
    rfl
  · rintro ⟨leaf, hfaults, rfl⟩
    obtain ⟨v, hv, hleaf⟩ := (blames_toSchema_iff hcompletes).2 hfaults
    obtain ⟨es, hes, hmem⟩ := hall v ((Findings.mem_toDerived_iff hfound).2 hv)
    obtain ⟨e, he, herror⟩ := (of_mapM_eq_ok hes).1 leaf hleaf
    refine ⟨e, hmem e he, ?_⟩
    obtain ⟨message, -, herror⟩ := bind_eq_ok_iff.1 herror
    cases herror
    rfl

/-! ## The errors of each kind of rule -/

section Kinds

variable {rule : Rule} {type : ErrorType}

/-- An answer of the wrong type is held to be missing where it is `null`. -/
theorem required_of_type_iff {holds : SchemaType} :
    (¬ SchemaType.holds holds value = true ∧ rule.errorType (.ofType holds) value = .required) ↔
      value = .null ∧ rule.required = true := by
  have herror : rule.errorType (.ofType holds) value = .required ↔
      value = .null ∧ rule.required = true := by simp [errorType, Json.same_iff]
  rw [herror, and_iff_right_of_imp]
  rintro ⟨rfl, -⟩
  cases holds <;> exact Bool.false_ne_true

theorem errorType_ofType_of_not {holds : SchemaType}
    (h : ¬ (value = .null ∧ rule.required = true)) :
    rule.errorType (.ofType holds) value = .wrongType := by
  rw [← Json.same_iff, ← Bool.and_eq_true] at h
  rw [errorType, if_neg h]

theorem errorType_minItems_iff {bound : Int} :
    rule.errorType (.minItems bound) value = .required ↔
      value = .arr [] ∧ rule.required = true := by
  simp [errorType, Json.same_iff]

/-- Whether a rule finds an error of some type by a schema. -/
def FindsBy (rule : Rule) (schema : Schema) (value : Json) (type : ErrorType) : Prop :=
  ∃ leaf, Schema.Faults schema value leaf ∧ rule.errorType leaf.1 leaf.2 = type

theorem findsBy_append {first second : Schema} :
    rule.FindsBy (first ++ second) value type ↔
      rule.FindsBy first value type ∨ rule.FindsBy second value type := by
  simp only [FindsBy, Schema.faults_append, or_and_right, exists_or]

theorem findsBy_singleton {keyword : Keyword} (h : keyword.isPlain = true) :
    rule.FindsBy [keyword] value type ↔
      ¬ keyword.PlainlyAccepts value ∧ rule.errorType keyword value = type := by
  simp only [FindsBy, Schema.faults_singleton, Keyword.faults_iff h, and_assoc, exists_eq_left]

theorem findsBy_boundKeyword {α : Type} {keyword : α → Keyword} {bound : Option α}
    (h : ∀ b, (keyword b).isPlain = true) :
    rule.FindsBy (boundKeyword keyword bound) value type ↔
      ∃ b ∈ bound,
        ¬ (keyword b).PlainlyAccepts value ∧ rule.errorType (keyword b) value = type := by
  cases bound with
  | none => simp [boundKeyword, FindsBy, Schema.Faults]
  | some b => simp [boundKeyword, findsBy_singleton (h b)]

theorem finds_iff_findsBy (hstring : rule.kind ≠ .string) (hdate : rule.kind ≠ .date) :
    rule.Finds value type ↔ rule.FindsBy rule.answerSchema value type := by
  refine exists_congr fun leaf => and_congr_left fun _ => ?_
  unfold Faults
  split
  · contradiction
  · contradiction
  · exact Iff.rfl

theorem finds_boolean_iff (hkind : rule.kind = .boolean) :
    rule.Finds value type ↔
      (¬ SchemaType.holds .boolean value = true ∧ rule.errorType (.ofType .boolean) value = type) ∨
        rule.mustBeTrue = true ∧ value ≠ .bool true ∧ type = .mustBeTrue := by
  have hconst : rule.FindsBy [.const (.bool true)] value type ↔
      value ≠ .bool true ∧ type = .mustBeTrue := by
    rw [findsBy_singleton rfl]
    simp only [Keyword.PlainlyAccepts, errorType, eq_comm, ne_eq]
  rw [finds_iff_findsBy (by simp [hkind]) (by simp [hkind]), answerSchema, hkind]
  dsimp only
  rw [findsBy_append, findsBy_singleton rfl, Keyword.PlainlyAccepts]
  refine or_congr_right ?_
  cases rule.mustBeTrue with
  | false => simp [FindsBy, Schema.Faults]
  | true => simp [hconst]

theorem finds_number_iff (hkind : rule.kind = .number) :
    rule.Finds value type ↔
      (¬ SchemaType.holds .number value = true ∧ rule.errorType (.ofType .number) value = type) ∨
        ∃ n, value = .num n ∧
          ((∃ bound ∈ rule.minimum, ¬ bound.le n = true ∧ type = .minimum) ∨
            (∃ bound ∈ rule.maximum, ¬ n.le bound = true ∧ type = .maximum) ∨
              ∃ step ∈ rule.effectiveStep, ¬ n.isMultipleOf? step = some true ∧ type = .step) := by
  rw [finds_iff_findsBy (by simp [hkind]) (by simp [hkind]), answerSchema, hkind]
  dsimp only [numberSchema]
  rw [findsBy_append, findsBy_append, findsBy_append, findsBy_singleton rfl,
    findsBy_boundKeyword fun _ => rfl, findsBy_boundKeyword fun _ => rfl,
    findsBy_boundKeyword fun _ => rfl, or_assoc, or_assoc, Keyword.PlainlyAccepts]
  refine or_congr_right ?_
  cases value with
  | num n =>
    simp only [Keyword.PlainlyAccepts, errorType, Json.num.injEq, exists_eq_left', eq_comm]
  | _ => simp [Keyword.PlainlyAccepts]

theorem finds_array_iff (hkind : rule.kind = .array) :
    rule.Finds value type ↔
      (¬ SchemaType.holds .array value = true ∧ rule.errorType (.ofType .array) value = type) ∨
        ∃ entries, value = .arr entries ∧
          ((∃ entry ∈ entries, ¬ SchemaType.holds .string entry = true ∧
              rule.errorType (.ofType .string) entry = type) ∨
            (∃ bound ∈ rule.leastItems, ¬ bound ≤ entries.length ∧
              rule.errorType (.minItems bound) value = type) ∨
            ∃ bound ∈ rule.maxItems, ¬ (entries.length : Int) ≤ bound ∧ type = .maxItems) := by
  have hitems : rule.FindsBy [.items [.ofType .string]] value type ↔
      ∃ entries, value = .arr entries ∧ ∃ entry ∈ entries,
        ¬ SchemaType.holds .string entry = true ∧
          rule.errorType (.ofType .string) entry = type := by
    simp only [FindsBy, Schema.faults_singleton, Keyword.Faults, Keyword.PlainlyAccepts]
    constructor
    · rintro ⟨leaf, ⟨entries, rfl, entry, hentry, rfl, hnot⟩, htype⟩
      exact ⟨entries, rfl, entry, hentry, hnot, htype⟩
    · rintro ⟨entries, rfl, entry, hentry, hnot, htype⟩
      exact ⟨_, ⟨entries, rfl, entry, hentry, rfl, hnot⟩, htype⟩
  rw [finds_iff_findsBy (by simp [hkind]) (by simp [hkind]), answerSchema, hkind]
  dsimp only [arraySchema]
  rw [← List.singleton_append, findsBy_append, findsBy_append, findsBy_append,
    findsBy_singleton rfl, hitems, findsBy_boundKeyword fun _ => rfl,
    findsBy_boundKeyword fun _ => rfl, or_assoc, or_assoc, Keyword.PlainlyAccepts]
  refine or_congr_right ?_
  cases value with
  | arr entries =>
    simp only [Keyword.PlainlyAccepts, errorType, Json.arr.injEq, exists_eq_left', eq_comm]
  | _ => simp [Keyword.PlainlyAccepts]

theorem finds_any_iff (hkind : rule.kind = .any) :
    rule.Finds value type ↔ (rule.required = true ∧
      (value = .null ∨ value = .str "" ∨ value = .arr [])) ∧ type = .required := by
  rw [finds_iff_findsBy (by simp [hkind]) (by simp [hkind]), answerSchema, hkind]
  have hnone : rule.FindsBy [.not [.enum [.null, .str "", .arr []]]] value type ↔
      (value = .null ∨ value = .str "" ∨ value = .arr []) ∧ type = .required := by
    unfold FindsBy
    simp only [Schema.faults_singleton, Keyword.Faults, Schema.accepts_singleton, Keyword.Accepts,
      Keyword.PlainlyAccepts, and_assoc, exists_eq_left, List.mem_cons, List.not_mem_nil, or_false]
    exact and_congr_right fun _ => eq_comm
  cases rule.required with
  | false => simp [FindsBy, Schema.Faults]
  | true => simpa using hnone

theorem exists_mem_patterns_iff {P : String → Prop} :
    (∃ written ∈ rule.patterns, P written) ↔
      (rule.required = true ∧ P nonBlankPattern) ∨
        (∃ written ∈ rule.pattern, written ≠ "" ∧ P written) ∨
          rule.kind = .date ∧ P datePattern := by
  simp only [patterns, List.mem_append, Option.mem_toList, Option.mem_def,
    Option.filter_eq_some_iff, or_and_right, exists_or, or_assoc, bne_iff_ne, and_assoc]
  refine or_congr ?_ (or_congr_right ?_)
  · cases rule.required <;> simp
  · split <;> simp_all

theorem finds_text_iff (hkind : rule.kind = .string ∨ rule.kind = .date) :
    rule.Finds value type ↔ ¬ rule.Skips value ∧
      ((¬ SchemaType.holds .string value = true ∧ rule.errorType (.ofType .string) value = type) ∨
        ∃ s, value = .str s ∧
          ((∃ bound ∈ rule.minLength, ¬ bound ≤ s.length ∧ type = .minLength) ∨
            (∃ bound ∈ rule.maxLength, ¬ (s.length : Int) ≤ bound ∧ type = .maxLength) ∨
            ∃ written ∈ rule.patterns, ¬ Pattern.find written s = .ok true ∧
              rule.errorType (.pattern written) value = type)) := by
  have hfinds : rule.Finds value type ↔
      ¬ rule.Skips value ∧ rule.FindsBy rule.shapeSchema value type := by
    unfold Finds FindsBy Faults
    rcases hkind with hkind | hkind <;> simp only [hkind, and_assoc, exists_and_left]
  have hpatterns : rule.FindsBy (patternKeywords rule.patterns) value type ↔
      ∃ written ∈ rule.patterns, ¬ (Keyword.pattern written).PlainlyAccepts value ∧
        rule.errorType (.pattern written) value = type := by
    have hplain : ∀ written leaf, (Keyword.pattern written).Faults value leaf ↔
        leaf = (.pattern written, value) ∧ ¬ (Keyword.pattern written).PlainlyAccepts value :=
      fun _ _ => Keyword.faults_iff rfl
    simp only [FindsBy, faults_patternKeywords, hplain]
    constructor
    · rintro ⟨leaf, ⟨written, hwritten, rfl, hnot⟩, htype⟩
      exact ⟨written, hwritten, hnot, htype⟩
    · rintro ⟨written, hwritten, hnot, htype⟩
      exact ⟨_, ⟨written, hwritten, rfl, hnot⟩, htype⟩
  rw [hfinds, shapeSchema, findsBy_append, findsBy_append, findsBy_append, findsBy_singleton rfl,
    findsBy_boundKeyword fun _ => rfl, findsBy_boundKeyword fun _ => rfl, hpatterns, or_assoc,
    or_assoc, Keyword.PlainlyAccepts]
  refine and_congr_right fun _ => or_congr_right ?_
  cases value with
  | str s => simp only [Keyword.PlainlyAccepts, errorType, Json.str.injEq, exists_eq_left', eq_comm]
  | _ => simp [Keyword.PlainlyAccepts]

end Kinds

end Rule

/-! ## What a form tells of a field -/

/-- Whether a check tells a field of an error of some type. -/
def Validation.Tells (result : Validation) (name : String) (type : ErrorType) : Prop :=
  ∃ e ∈ result.errors, e.fieldName = name ∧ e.errorType = type

namespace Spec

/-- A field is told all its errors, unless one of them is that it is required. -/
theorem exists_mem_told_iff {errors : List FieldError} {type : ErrorType} :
    (∃ e ∈ told (firstOfEach errors), e.errorType = type) ↔
      (∃ e ∈ errors, e.errorType = type) ∧
        (type = .required ∨ ¬ ∃ e ∈ errors, e.errorType = .required) := by
  have hfirst : ∀ {type : ErrorType}, (∃ e ∈ firstOfEach errors, e.errorType = type) ↔
      ∃ e ∈ errors, e.errorType = type := by
    intro type
    constructor
    · rintro ⟨e, he, htype⟩
      exact ⟨e, mem_of_mem_firstOfEach he, htype⟩
    · rintro ⟨e, he, rfl⟩
      obtain ⟨d, hd, -, htype⟩ := exists_mem_firstOfEach he
      exact ⟨d, hd, htype⟩
  rw [← hfirst, ← hfirst]
  unfold told
  dsimp only
  split
  · next hnone =>
    have hno : ¬ ∃ e ∈ firstOfEach errors, e.errorType = .required := by
      rintro ⟨e, he, htype⟩
      rw [List.isEmpty_iff, List.filter_eq_nil_iff] at hnone
      exact hnone e he (by simp [htype])
    exact (and_iff_left (.inr hno)).symm
  · next hsome =>
    obtain ⟨d, hd⟩ := List.exists_mem_of_ne_nil _ fun hnil => hsome (List.isEmpty_iff.2 hnil)
    have hrequired : ∃ e ∈ firstOfEach errors, e.errorType = .required :=
      ⟨d, (List.mem_filter.1 hd).1, by simpa using (List.mem_filter.1 hd).2⟩
    rw [or_iff_left (not_not_intro hrequired)]
    constructor
    · rintro ⟨e, he, rfl⟩
      obtain ⟨hmem, htype⟩ := List.mem_filter.1 he
      exact ⟨⟨e, hmem, rfl⟩, by simpa using htype⟩
    · rintro ⟨⟨e, he, htype⟩, rfl⟩
      exact ⟨e, List.mem_filter.2 ⟨he, by simp [htype]⟩, htype⟩

variable {spec : Spec} {data : Members} {result : Validation} {rule : Rule}

/-- **What a form tells of a field** is what the rule for it finds in its answer. -/
theorem tells_iff (hnames : spec.fieldNames.Nodup) (h : spec.validate data = .ok result)
    (hrule : rule ∈ spec.rules) :
    ∃ errors, rule.answerErrors (data.get? rule.name) = .ok errors ∧ ∀ type,
      result.Tells rule.name type ↔ (∃ e ∈ errors, e.errorType = type) ∧
        (type = .required ∨ ¬ ∃ e ∈ errors, e.errorType = .required) := by
  rw [validate_eq hnames] at h
  obtain ⟨found, hfound, h⟩ := bind_eq_ok_iff.1 h
  cases h
  obtain ⟨hall, hfrom⟩ := of_mapM_eq_ok hfound
  obtain ⟨errors, hmem, herrors⟩ := hall rule hrule
  refine ⟨errors, herrors, fun type => ?_⟩
  rw [← exists_mem_told_iff]
  constructor
  · rintro ⟨e, he, hname, htype⟩
    obtain ⟨others, hothers, he⟩ := List.mem_flatMap.1 he
    obtain ⟨r, hr, hrerrors⟩ := hfrom others hothers
    have hsame : r.name = rule.name := by
      rw [← hname, Rule.fieldName_of_mem_answerErrors hrerrors
        (mem_of_mem_firstOfEach ((told_sublist _).subset he))]
    obtain rfl : r = rule := List.inj_on_of_nodup_map hnames hr hrule hsame
    rw [herrors] at hrerrors
    cases hrerrors
    exact ⟨e, he, htype⟩
  · rintro ⟨e, he, htype⟩
    have hname := Rule.fieldName_of_mem_answerErrors herrors
      (mem_of_mem_firstOfEach ((told_sublist _).subset he))
    exact ⟨e, List.mem_flatMap.2 ⟨errors, hmem, he⟩, hname, htype⟩

/-- What a form tells of a field with an answer. -/
theorem tells_some_iff (hnames : spec.fieldNames.Nodup) (h : spec.validate data = .ok result)
    (hrule : rule ∈ spec.rules) {value : Json} (hvalue : data.get? rule.name = some value)
    (type : ErrorType) :
    result.Tells rule.name type ↔
      rule.Finds value type ∧ (type = .required ∨ ¬ rule.Finds value .required) := by
  obtain ⟨errors, herrors, htells⟩ := tells_iff hnames h hrule
  rw [hvalue] at herrors
  rw [htells, Rule.exists_errorType_iff herrors, Rule.exists_errorType_iff herrors]

/-- What a form tells of a field without an answer. -/
theorem tells_none_iff (hnames : spec.fieldNames.Nodup) (h : spec.validate data = .ok result)
    (hrule : rule ∈ spec.rules) (hvalue : data.get? rule.name = none) (type : ErrorType) :
    result.Tells rule.name type ↔ rule.required = true ∧ type = .required := by
  obtain ⟨errors, herrors, htells⟩ := tells_iff hnames h hrule
  rw [hvalue] at herrors
  cases herrors
  rw [htells]
  cases rule.required with
  | false => simp
  | true => simp [Rule.absence, eq_comm]

end Spec

namespace Rule

variable {rule : Rule} {value : Json}

/-- A number that a rule accepts gets through its bounds: what cannot be said need not be. -/
theorem HasSize.judges {n : Number} (h : rule.HasSize n) : rule.Judges n :=
  ⟨fun m hm _ => h.least m hm, fun m hm _ => h.most m hm, fun s hs => .inl (h.step s hs)⟩

/-- Answers that are no numbers are always checked. -/
theorem succeeds_check (hkind : rule.kind ≠ .number) (hpatterns : rule.HasReadablePatterns) :
    Succeeds (rule.check (some value)) := by
  have hnames : (Spec.mk [rule]).fieldNames.Nodup := List.nodup_singleton rule.name
  refine succeeds_bind_ok_iff.2 ?_
  rw [Spec.succeeds_validate_iff hnames fun r hr _ => List.mem_singleton.1 hr ▸ hpatterns]
  intro r hr n hnumber _
  exact absurd (List.mem_singleton.1 hr ▸ hnumber) hkind

/-- **A rule finds nothing wrong** with the answers that it accepts. -/
theorem check_eq_nil_iff (hpatterns : rule.kind ≠ .number → rule.HasReadablePatterns) :
    rule.check (some value) = .ok [] ↔ rule.Accepts value := by
  have hnames : (Spec.mk [rule]).fieldNames.Nodup := List.nodup_singleton rule.name
  have hvalid : ∀ {result}, (Spec.mk [rule]).validate [(rule.name, value)] = .ok result →
      (result.errors = [] ↔ rule.Accepts value) := by
    intro result hresult
    rw [← Validation.isValid_iff, Spec.isValid_iff_accepts hresult,
      Spec.accepts_toSchema_iff hnames]
    simp [Admits]
  constructor
  · intro h
    obtain ⟨result, hresult, herrors⟩ := bind_eq_ok_iff.1 h
    exact (hvalid hresult).1 (Except.ok.inj herrors)
  · intro h
    have hsucceeds : Succeeds ((Spec.mk [rule]).validate [(rule.name, value)]) := by
      rw [Spec.succeeds_validate_iff hnames fun r hr => List.mem_singleton.1 hr ▸ hpatterns]
      intro r hr n hkind hget
      obtain rfl := List.mem_singleton.1 hr
      obtain rfl : value = .num n := by simpa using hget
      rw [Accepts, hkind] at h
      obtain ⟨_, ⟨⟩, hsize⟩ := h
      exact hsize.judges
    obtain ⟨result, hresult⟩ := hsucceeds
    exact bind_eq_ok_iff.2 ⟨result, hresult, congrArg Except.ok ((hvalid hresult).2 h)⟩

end Rule

end FormStudio
