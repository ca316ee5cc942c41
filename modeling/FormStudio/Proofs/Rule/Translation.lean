import FormStudio.Proofs.Rule.Acceptance
import FormStudio.Proofs.Table
import FormStudio.Rule.Validation

/-!
# Errors of fields and violations of the schema

The check of answers turns violations of the schema into errors of fields, drops those that name no
field, reports each type of error once, and lets a missing answer hide what else is wrong with it.
Nothing is lost or invented by that: every violation is that of a field, and leads to an error
(`Spec.violationErrors_of_found`), and of the errors of a field one is always left
(`Spec.exists_mem_errorsFor`). So the check accepts exactly what the schema accepts
(`Spec.validate_accepts`).
-/
namespace FormStudio

/-! ## What a check found -/

namespace Findings

variable {α β : Type}

/-- What a check found, before it went through or broke off. -/
def Found (a : α) : Findings α → Prop
  | .done => False
  | .brokenOff _ => False
  | .found b rest => a = b ∨ rest.Found a

theorem found_append {a : α} {first second : Findings α} (h : (first ++ second).Found a) :
    first.Found a ∨ second.Found a := by
  change (append first second).Found a at h
  induction first with
  | done => exact .inr h
  | brokenOff e => exact h.elim
  | found b rest ih =>
    rcases h with rfl | h
    · exact .inl (.inl rfl)
    · exact (ih h).imp_left .inr

theorem found_ofList {a : α} {items : List α} (h : (ofList items).Found a) : a ∈ items := by
  induction items with
  | nil => exact h.elim
  | cons b rest ih =>
    rcases h with rfl | h
    · exact List.mem_cons_self
    · exact List.mem_cons_of_mem b (ih h)

theorem found_of_toDerived {findings : Findings α} {items : List α}
    (h : findings.toDerived = .ok items) {a : α} (ha : a ∈ items) : findings.Found a := by
  induction findings generalizing items with
  | done =>
    cases h
    cases ha
  | brokenOff e => cases h
  | found b rest ih =>
    obtain ⟨others, hothers, h⟩ := bind_eq_ok_iff.1 h
    cases h
    rcases List.mem_cons.1 ha with rfl | ha
    · exact .inl rfl
    · exact .inr (ih hothers ha)

/-- What comes of findings comes of one of them, and what each of them turns into is there. -/
theorem of_collect {f : α → Derived (List β)} {findings : Findings α} {bs : List β}
    (h : findings.collect f = .ok bs) :
    ∃ items, findings.toDerived = .ok items ∧
      (∀ a ∈ items, ∃ cs, f a = .ok cs ∧ ∀ c ∈ cs, c ∈ bs) ∧
      ∀ b ∈ bs, ∃ a ∈ items, ∃ cs, f a = .ok cs ∧ b ∈ cs := by
  induction findings generalizing bs with
  | done =>
    cases h
    exact ⟨[], rfl, nofun, nofun⟩
  | brokenOff e => cases h
  | found a rest ih =>
    obtain ⟨first, hfirst, h⟩ := bind_eq_ok_iff.1 h
    obtain ⟨others, hothers, h⟩ := bind_eq_ok_iff.1 h
    cases h
    obtain ⟨items, hitems, hall, hfrom⟩ := ih hothers
    refine ⟨a :: items, by rw [toDerived, hitems, ok_bind], ?_, fun b hb => ?_⟩
    · refine List.forall_mem_cons.2 ⟨⟨first, hfirst, fun c => List.mem_append_left _⟩, ?_⟩
      intro a' ha'
      obtain ⟨cs, hcs, hmem⟩ := hall a' ha'
      exact ⟨cs, hcs, fun c hc => List.mem_append_right _ (hmem c hc)⟩
    · rcases List.mem_append.1 hb with hb | hb
      · exact ⟨a, List.mem_cons_self, first, hfirst, hb⟩
      · obtain ⟨a', ha', hfound⟩ := hfrom b hb
        exact ⟨a', List.mem_cons_of_mem a ha', hfound⟩

end Findings

/-! ## Violations of one answer -/

/-- A violation that is turned into errors of a field: it stands at a place or below it, it has
leaves, and it is not that a member is missing. -/
structure Violation.IsReported (path : List PathStep) (v : Violation) : Prop where
  below : path <+: v.path
  leaves : v.leaves ≠ []
  present : ∀ {other names value}, v ≠ .leaf other (.required names) value

/-- A leaf at a place or below it, which is not that a member is missing. -/
def Violation.IsLeafBelow (path : List PathStep) (v : Violation) : Prop :=
  ∃ rest keyword value, v = .leaf (path ++ rest) keyword value ∧ ∀ names, keyword ≠ .required names

theorem Violation.IsLeafBelow.isReported {path : List PathStep} {v : Violation}
    (h : v.IsLeafBelow path) : v.IsReported path := by
  obtain ⟨rest, keyword, value, rfl, hkeyword⟩ := h
  refine ⟨List.prefix_append path rest, nofun, ?_⟩
  rintro _ names _ ⟨⟩
  exact hkeyword names rfl

theorem Violation.IsLeafBelow.of_append {path more : List PathStep} {v : Violation}
    (h : v.IsLeafBelow (path ++ more)) : v.IsLeafBelow path := by
  obtain ⟨rest, keyword, value, rfl, hkeyword⟩ := h
  exact ⟨more ++ rest, keyword, value, by rw [List.append_assoc], hkeyword⟩

mutual

/-- Whether a keyword is about the value or its items, without alternatives. -/
def Keyword.isDirect : Keyword → Bool
  | .items schema => Schema.isDirect schema
  | .allOf branches => Schema.areDirect branches
  | .anyOf _ => false
  | .properties _ => false
  | .required _ => false
  | _ => true

def Schema.isDirect : List Keyword → Bool
  | [] => true
  | keyword :: rest => keyword.isDirect && Schema.isDirect rest

def Schema.areDirect : List (List Keyword) → Bool
  | [] => true
  | schema :: rest => Schema.isDirect schema && Schema.areDirect rest

end

theorem Keyword.isLeafBelow_demand {keyword : Keyword} {path : List PathStep} {value : Json}
    {holds : Bool} {v : Violation} (h : (keyword.demand path value holds).Found v)
    (hkeyword : ∀ names, keyword ≠ .required names) : v.IsLeafBelow path := by
  unfold demand at h
  split at h
  · exact h.elim
  · rcases h with rfl | h
    · exact ⟨[], keyword, value, by rw [List.append_nil], hkeyword⟩
    · exact h.elim

theorem Keyword.isLeafBelow_plainViolations {keyword : Keyword} {path : List PathStep}
    {value : Json} {v : Violation} (h : (keyword.plainViolations path value).Found v) :
    v.IsLeafBelow path := by
  unfold plainViolations at h
  dsimp only at h
  split at h
  case h_4 =>
    split at h
    · exact isLeafBelow_demand h nofun
    · exact h.elim
  case h_7 =>
    split at h
    · exact isLeafBelow_demand h nofun
    · exact h.elim
  case h_12 => exact h.elim
  all_goals exact isLeafBelow_demand h nofun

theorem isLeafBelow_eachItem {check : List PathStep → Json → Findings Violation}
    (hcheck : ∀ path value v, (check path value).Found v → v.IsLeafBelow path)
    {path : List PathStep} {position : Nat} {entries : List Json} {v : Violation}
    (h : (eachItem check path position entries).Found v) : v.IsLeafBelow path := by
  induction entries generalizing position with
  | nil => exact h.elim
  | cons entry rest ih =>
    rcases Findings.found_append h with h | h
    · exact (hcheck _ _ _ h).of_append
    · exact ih h

mutual

theorem Keyword.isLeafBelow_violations : ∀ (keyword : Keyword), keyword.isDirect = true →
    ∀ (path : List PathStep) (value : Json) (v : Violation),
      (keyword.violations path value).Found v → v.IsLeafBelow path
  | .items schema, hdirect, path, value, v, h => by
    cases value with
    | arr entries =>
      rw [Keyword.violations] at h
      exact isLeafBelow_eachItem (Schema.isLeafBelow_violations schema hdirect) h
    | _ =>
      simp only [Keyword.violations] at h
      exact h.elim
  | .allOf branches, hdirect, path, value, v, h => by
    rw [Keyword.violations] at h
    exact Schema.isLeafBelow_allBranches branches hdirect path value v h
  | .not schema, _, path, value, v, h => by
    rw [Keyword.violations] at h
    split at h
    · rcases h with rfl | h
      · exact ⟨[], .not schema, value, by rw [List.append_nil], nofun⟩
      · exact h.elim
    · exact h.elim
    · exact h.elim
  | .dialect _, _, path, value, v, h | .title _, _, path, value, v, h
  | .ofType _, _, path, value, v, h | .minLength _, _, path, value, v, h
  | .maxLength _, _, path, value, v, h | .pattern _, _, path, value, v, h
  | .minimum _, _, path, value, v, h | .maximum _, _, path, value, v, h
  | .multipleOf _, _, path, value, v, h | .const _, _, path, value, v, h
  | .enum _, _, path, value, v, h | .minItems _, _, path, value, v, h
  | .maxItems _, _, path, value, v, h => by
    simp only [Keyword.violations] at h
    exact Keyword.isLeafBelow_plainViolations h

/-- A schema without alternatives finds leaves at the place that is checked, or below it. -/
theorem Schema.isLeafBelow_violations : ∀ (schema : List Keyword), Schema.isDirect schema = true →
    ∀ (path : List PathStep) (value : Json) (v : Violation),
      (Schema.violations schema path value).Found v → v.IsLeafBelow path
  | [], _, path, value, v, h => by
    rw [Schema.violations_nil] at h
    exact h.elim
  | keyword :: rest, hdirect, path, value, v, h => by
    obtain ⟨hkeyword, hrest⟩ := Bool.and_eq_true_iff.1 hdirect
    rw [Schema.violations] at h
    rcases Findings.found_append h with h | h
    · exact Keyword.isLeafBelow_violations keyword hkeyword path value v h
    · exact Schema.isLeafBelow_violations rest hrest path value v h

theorem Schema.isLeafBelow_allBranches : ∀ (branches : List (List Keyword)),
    Schema.areDirect branches = true → ∀ (path : List PathStep) (value : Json) (v : Violation),
      (Schema.allBranches branches path value).Found v → v.IsLeafBelow path
  | [], _, path, value, v, h => by
    rw [Schema.allBranches] at h
    exact h.elim
  | branch :: rest, hdirect, path, value, v, h => by
    obtain ⟨hbranch, hrest⟩ := Bool.and_eq_true_iff.1 hdirect
    rw [Schema.allBranches] at h
    rcases Findings.found_append h with h | h
    · exact Schema.isLeafBelow_violations branch hbranch path value v h
    · exact Schema.isLeafBelow_allBranches rest hrest path value v h

end

theorem Schema.isDirect_append {first second : Schema} :
    Schema.isDirect (first ++ second) = (Schema.isDirect first && Schema.isDirect second) := by
  induction first with
  | nil => rfl
  | cons keyword rest ih =>
    rw [List.cons_append, Schema.isDirect, Schema.isDirect, ih, Bool.and_assoc]

theorem Schema.isDirect_boundKeyword {α : Type} (keyword : α → Keyword) (bound : Option α)
    (h : ∀ b, (keyword b).isDirect = true) : Schema.isDirect (boundKeyword keyword bound) = true := by
  cases bound <;> simp [boundKeyword, Schema.isDirect, h]

/-- Where no alternative of two holds, the violation has those of the second. -/
theorem Violation.isReported_noBranch {first second : Schema} {path : List PathStep} {value : Json}
    (hsecond : Schema.isDirect second = true) {v : Violation}
    (h : (Keyword.violations (.anyOf [first, second]) path value).Found v) : v.IsReported path := by
  rw [Keyword.violations] at h
  cases hbranches : Schema.eachBranch [first, second] path value with
  | error e =>
    rw [hbranches] at h
    exact h.elim
  | ok found =>
    rw [hbranches] at h
    cases found with
    | none => exact h.elim
    | some branches =>
      obtain rfl : v = .noBranch path branches := h.resolve_right id
      -- a branch that finds nothing ends the search without a violation, so neither does here
      rw [Schema.eachBranch] at hbranches
      obtain ⟨as, -, hbranches⟩ := bind_eq_ok_iff.1 hbranches
      split at hbranches
      · cases hbranches
      obtain ⟨others, hothers, hbranches⟩ := bind_eq_ok_iff.1 hbranches
      rw [Schema.eachBranch] at hothers
      obtain ⟨bs, hbs, hothers⟩ := bind_eq_ok_iff.1 hothers
      split at hothers
      · cases hothers
        cases hbranches
      next hne =>
      rw [Schema.eachBranch, ok_bind] at hothers
      cases hothers
      cases hbranches
      obtain ⟨b, rest, rfl⟩ := List.exists_cons_of_ne_nil fun hnil => hne (List.isEmpty_iff.2 hnil)
      obtain ⟨more, keyword, value', rfl, -⟩ := Schema.isLeafBelow_violations second hsecond path value
        b (Findings.found_of_toDerived hbs List.mem_cons_self)
      exact ⟨List.prefix_rfl, nofun, nofun⟩

namespace Rule

variable {rule : Rule}

theorem isDirect_patternKeywords (written : List String) :
    Schema.isDirect (patternKeywords written) = true := by
  have hall : ∀ several : List String,
      Schema.areDirect (several.map fun w => [.pattern w]) = true := by
    intro several
    induction several with
    | nil => rfl
    | cons w rest ih => simpa [Schema.areDirect, Schema.isDirect, Keyword.isDirect] using ih
  unfold patternKeywords
  split
  · rfl
  · rfl
  · simp [Schema.isDirect, Keyword.isDirect, hall]

theorem isDirect_numberSchema : Schema.isDirect rule.numberSchema = true := by
  have hleast := Schema.isDirect_boundKeyword .minimum rule.minimum fun _ => rfl
  have hmost := Schema.isDirect_boundKeyword .maximum rule.maximum fun _ => rfl
  have hstep := Schema.isDirect_boundKeyword .multipleOf rule.effectiveStep fun _ => rfl
  simp only [numberSchema, Schema.isDirect_append, hleast, hmost, hstep]
  rfl

theorem isDirect_arraySchema : Schema.isDirect rule.arraySchema = true := by
  have hleast := Schema.isDirect_boundKeyword .minItems rule.leastItems fun _ => rfl
  have hmost := Schema.isDirect_boundKeyword .maxItems rule.maxItems fun _ => rfl
  simp only [arraySchema, Schema.isDirect_append, hleast, hmost]
  rfl

/-- The schema of a text, where an empty answer is checked too. -/
theorem isDirect_fullTextSchema : Schema.isDirect ([.ofType .string] ++
    boundKeyword .minLength rule.minLength ++ boundKeyword .maxLength rule.maxLength ++
      patternKeywords rule.patterns) = true := by
  have hleast := Schema.isDirect_boundKeyword .minLength rule.minLength fun _ => rfl
  have hmost := Schema.isDirect_boundKeyword .maxLength rule.maxLength fun _ => rfl
  simp only [Schema.isDirect_append, hleast, hmost, isDirect_patternKeywords]
  rfl

variable {path : List PathStep} {value : Json} {v : Violation}

theorem isReported_textSchema (h : (Schema.violations rule.textSchema path value).Found v) :
    v.IsReported path := by
  unfold textSchema at h
  dsimp only at h
  split at h
  · rw [Schema.violations] at h
    rcases Findings.found_append h with h | h
    · exact Violation.isReported_noBranch isDirect_fullTextSchema h
    · rw [Schema.violations_nil] at h
      exact h.elim
  · exact (Schema.isLeafBelow_violations _ isDirect_fullTextSchema path value v h).isReported

/-- **Every violation of an answer is reported.** -/
theorem isReported_of_found (h : (Schema.violations rule.toSchema path value).Found v) :
    v.IsReported path := by
  have hdirect : ∀ {schema : Schema}, Schema.isDirect schema = true →
      (Schema.violations schema path value).Found v → v.IsReported path :=
    fun hschema hfound => (Schema.isLeafBelow_violations _ hschema path value v hfound).isReported
  rw [toSchema, Schema.violations] at h
  rcases Findings.found_append h with h | h
  · simp only [Keyword.violations] at h
    exact h.elim
  unfold answerSchema at h
  split at h
  · exact isReported_textSchema h
  · exact isReported_textSchema h
  · exact hdirect isDirect_numberSchema h
  · split at h <;> exact hdirect rfl h
  · exact hdirect isDirect_arraySchema h
  · split at h <;> exact hdirect rfl h

end Rule

/-! ## Violations of the answers of a form -/

theorem Schema.found_propertyViolations {schemas : List (String × List Keyword)}
    {path : List PathStep} {members : Members} {v : Violation}
    (h : (Schema.propertyViolations schemas path members).Found v) :
    ∃ name schema value, (name, schema) ∈ schemas ∧
      (Schema.violations schema (path ++ [.key name]) value).Found v := by
  induction schemas with
  | nil =>
    rw [Schema.propertyViolations] at h
    exact h.elim
  | cons entry rest ih =>
    obtain ⟨name, schema⟩ := entry
    rw [Schema.propertyViolations] at h
    rcases Findings.found_append h with h | h
    · split at h
      · next value _ => exact ⟨name, schema, value, List.mem_cons_self, h⟩
      · exact h.elim
    · obtain ⟨name', schema', value, hmem, hfound⟩ := ih h
      exact ⟨name', schema', value, List.mem_cons_of_mem _ hmem, hfound⟩

namespace Spec

variable {spec : Spec} {data : Members} {v : Violation}

/-- **What is found in the answers of a form**: a violation of an answer that has a rule, or that a
mandatory answer is missing. -/
theorem cases_of_found {title : String}
    (h : (Schema.violations (spec.toSchema title) [] (.obj data)).Found v) :
    (∃ rule ∈ spec.rules, v.IsReported [.key rule.name]) ∨
      ∃ names, v = .leaf [] (.required names) (.obj data) ∧
        (∀ name ∈ names, name ∈ spec.fieldNames) ∧ ∃ name ∈ names, data.has name = false := by
  simp only [toSchema, Schema.violations] at h
  have hplain : ∀ {keyword : Keyword}, keyword.violations [] (.obj data) = .done →
      ¬ (keyword.violations [] (.obj data)).Found v := by
    intro keyword hdone hfound
    rw [hdone] at hfound
    exact hfound
  -- the dialect, the title and the type of an object find nothing in one
  rcases Findings.found_append h with h | h
  · exact absurd h (hplain (by simp only [Keyword.violations]; rfl))
  rcases Findings.found_append h with h | h
  · exact absurd h (hplain (by simp only [Keyword.violations]; rfl))
  rcases Findings.found_append h with h | h
  · exact absurd h (hplain (by simp only [Keyword.violations]; rfl))
  rcases Findings.found_append h with h | h
  · rw [Keyword.violations] at h
    obtain ⟨name, schema, value, hmem, hfound⟩ := Schema.found_propertyViolations h
    obtain ⟨rule, hrule, heq⟩ := List.mem_map.1 (Table.mem_of_mem_ofPairs hmem)
    cases heq
    exact .inl ⟨rule, hrule, rule.isReported_of_found hfound⟩
  rcases Findings.found_append h with h | h
  · rw [Keyword.violations] at h
    obtain ⟨name, hname, rfl⟩ := List.mem_map.1 (Findings.found_ofList h)
    obtain ⟨hname, hmissing⟩ := List.mem_filter.1 hname
    refine .inr ⟨_, rfl, fun other hother => ?_, name, hname, by simpa using hmissing⟩
    obtain ⟨rule, hrule, rfl⟩ := List.mem_map.1 hother
    exact List.mem_map_of_mem (List.mem_filter.1 hrule).1
  · exact h.elim

/-! ## Errors of fields -/

theorem fieldName_of_leafError {rule : Rule} {keyword : Keyword} {value : Json} {e : FieldError}
    (h : leafError rule data keyword value = .ok e) : e.fieldName = rule.name := by
  obtain ⟨message, -, h⟩ := bind_eq_ok_iff.1 h
  cases h
  rfl

theorem fieldName_of_missingError {rule : Rule} {e : FieldError}
    (h : missingError rule = .ok e) : e.fieldName = rule.name := by
  obtain ⟨message, -, h⟩ := bind_eq_ok_iff.1 h
  cases h
  rfl

theorem rule?_eq_some {name : String} {rule : Rule} (h : spec.rule? name = some rule) :
    rule.name = name ∧ name ∈ spec.fieldNames := by
  have hname : rule.name = name := by simpa using List.find?_some h
  exact ⟨hname, hname ▸ List.mem_map_of_mem (List.mem_of_find?_eq_some h)⟩

theorem exists_rule? {name : String} (h : name ∈ spec.fieldNames) :
    ∃ rule, spec.rule? name = some rule := by
  obtain ⟨rule, hrule, rfl⟩ := List.mem_map.1 h
  exact Option.isSome_iff_exists.1 (List.find?_isSome.2 ⟨rule, hrule, by simp⟩)

/-- **No violation is lost**: it is turned into errors of fields, at least into one. -/
theorem violationErrors_of_found {title : String}
    (h : (Schema.violations (spec.toSchema title) [] (.obj data)).Found v) {es : List FieldError}
    (hes : spec.violationErrors data v = .ok es) :
    es ≠ [] ∧ ∀ e ∈ es, e.fieldName ∈ spec.fieldNames := by
  rcases cases_of_found h with ⟨rule, hrule, hreported⟩ | ⟨names, rfl, hnames, hmissing⟩
  · -- an answer: its errors are those of the leaves, under the name of the first rule for it
    obtain ⟨more, hpath⟩ := hreported.below
    obtain ⟨first, hfirst⟩ := exists_rule? (List.mem_map_of_mem (f := Rule.name) hrule)
    obtain ⟨hname, hmem⟩ := rule?_eq_some hfirst
    have herrors : v.leaves.mapM (fun leaf => leafError first data leaf.1 leaf.2) = .ok es := by
      unfold violationErrors at hes
      split at hes
      · exact absurd rfl hreported.present
      · simpa [← hpath, hfirst] using hes
    obtain ⟨hall, hfrom⟩ := of_mapM_eq_ok herrors
    obtain ⟨leaf, hleaf⟩ := List.exists_mem_of_ne_nil _ hreported.leaves
    obtain ⟨e, he, -⟩ := hall leaf hleaf
    refine ⟨List.ne_nil_of_mem he, fun e he => ?_⟩
    obtain ⟨leaf, -, hleaf⟩ := hfrom e he
    rw [fieldName_of_leafError hleaf, hname]
    exact hmem
  · -- a missing answer: each name that is missing has a rule
    obtain ⟨hall, hfrom⟩ := of_mapM_eq_ok (f := missingError) hes
    obtain ⟨name, hname, hmissing⟩ := hmissing
    obtain ⟨rule, hrule⟩ := exists_rule? (hnames name hname)
    have hmem : rule ∈ (names.filter fun name => !data.has name).filterMap spec.rule? :=
      List.mem_filterMap.2 ⟨name, List.mem_filter.2 ⟨hname, by simp [hmissing]⟩, hrule⟩
    obtain ⟨e, he, -⟩ := hall rule hmem
    refine ⟨List.ne_nil_of_mem he, fun e he => ?_⟩
    obtain ⟨rule', hrule', herror⟩ := hfrom e he
    obtain ⟨name', -, hfound⟩ := List.mem_filterMap.1 hrule'
    obtain ⟨hname', hmem'⟩ := rule?_eq_some hfound
    rw [fieldName_of_missingError herror, hname']
    exact hmem'

theorem mem_of_mem_firstOfEach {errors : List FieldError} {e : FieldError}
    (h : e ∈ firstOfEach errors) : e ∈ errors := by
  induction errors with
  | nil => cases h
  | cons first rest ih =>
    rcases List.mem_cons.1 h with rfl | h
    · exact List.mem_cons_self
    · exact List.mem_cons_of_mem first (ih (List.mem_filter.1 h).1)

/-- Of each field and type an error is kept. -/
theorem exists_mem_firstOfEach {errors : List FieldError} {e : FieldError} (h : e ∈ errors) :
    ∃ d ∈ firstOfEach errors, d.fieldName = e.fieldName ∧ d.errorType = e.errorType := by
  induction errors with
  | nil => cases h
  | cons first rest ih =>
    by_cases hsame : first.fieldName = e.fieldName ∧ first.errorType = e.errorType
    · exact ⟨first, List.mem_cons_self, hsame⟩
    · rcases List.mem_cons.1 h with rfl | h
      · exact absurd ⟨rfl, rfl⟩ hsame
      · obtain ⟨d, hd, hname, htype⟩ := ih h
        refine ⟨d, List.mem_cons_of_mem first (List.mem_filter.2 ⟨hd, ?_⟩), hname, htype⟩
        simp only [Bool.not_eq_true', Bool.and_eq_false_iff, beq_eq_false_iff_ne]
        rw [hname, htype]
        by_cases hfield : e.fieldName = first.fieldName
        · exact .inr fun ht => hsame ⟨hfield.symm, ht.symm⟩
        · exact .inl hfield

theorem mem_of_mem_errorsFor {errors : List FieldError} {name : String} {e : FieldError}
    (h : e ∈ errorsFor errors name) : e ∈ errors := by
  unfold errorsFor at h
  dsimp only at h
  split at h
  · exact (List.mem_filter.1 h).1
  · exact (List.mem_filter.1 (List.mem_filter.1 h).1).1

/-- An error of a field is reported, or that an answer is required. -/
theorem exists_mem_errorsFor {errors : List FieldError} {e : FieldError} (h : e ∈ errors) :
    ∃ d ∈ errorsFor errors e.fieldName, d.fieldName = e.fieldName ∧
      (d.errorType = e.errorType ∨ d.errorType = .required) := by
  have hown : e ∈ errors.filter fun d => d.fieldName == e.fieldName :=
    List.mem_filter.2 ⟨h, by simp⟩
  unfold errorsFor
  dsimp only
  split
  · exact ⟨e, hown, rfl, .inl rfl⟩
  · next hrequired =>
    obtain ⟨d, hd⟩ := List.exists_mem_of_ne_nil _ fun hnil => hrequired (List.isEmpty_iff.2 hnil)
    obtain ⟨hfield, htype⟩ := List.mem_filter.1 hd
    exact ⟨d, hd, by simpa using (List.mem_filter.1 hfield).2, .inr (by simpa using htype)⟩

/-! ## The check -/

/-- What a violation leads to in the outcome of a check. -/
def IsTold (spec : Spec) (data : Members) (result : Validation) (v : Violation) : Prop :=
  ∃ es, spec.violationErrors data v = .ok es ∧ es ≠ [] ∧ ∀ e ∈ es, ∃ d ∈ result.errors,
    d.fieldName = e.fieldName ∧ (d.errorType = e.errorType ∨ d.errorType = .required)

/-- **Nothing is lost and nothing is invented**: the errors of a check are told by the violations
of the schema, and each violation is told. -/
theorem violations_of_validate {result : Validation} (h : spec.validate data = .ok result) :
    ∃ found, (Schema.violations (spec.toSchema standardTitle) [] (.obj data)).toDerived = .ok found ∧
      (∀ v ∈ found, spec.IsTold data result v) ∧
      ∀ d ∈ result.errors, ∃ v ∈ found, ∃ es, spec.violationErrors data v = .ok es ∧ d ∈ es := by
  obtain ⟨errors, hcollect, h⟩ := bind_eq_ok_iff.1 h
  cases h
  obtain ⟨found, hfound, hall, hfrom⟩ := Findings.of_collect hcollect
  refine ⟨found, hfound, fun v hv => ?_, fun d hd => ?_⟩
  · obtain ⟨es, hes, hmem⟩ := hall v hv
    obtain ⟨hne, hnames⟩ := violationErrors_of_found (Findings.found_of_toDerived hfound hv) hes
    refine ⟨es, hes, hne, fun e he => ?_⟩
    obtain ⟨first, hfirst, hname, htype⟩ := exists_mem_firstOfEach (hmem e he)
    obtain ⟨d, hd, hdname, hdtype⟩ := exists_mem_errorsFor hfirst
    rw [hname] at hd hdname
    rw [htype] at hdtype
    exact ⟨d, List.mem_flatMap.2 ⟨e.fieldName, hnames e he, hd⟩, hdname, hdtype⟩
  · obtain ⟨name, -, hd⟩ := List.mem_flatMap.1 hd
    exact hfrom d (mem_of_mem_firstOfEach (mem_of_mem_errorsFor hd))

theorem isValid_iff_accepts {result : Validation} (h : spec.validate data = .ok result) :
    result.isValid = true ↔ Schema.Accepts (spec.toSchema standardTitle) (.obj data) := by
  obtain ⟨found, hfound, htold, hfrom⟩ := violations_of_validate h
  have hdecides := Schema.decides_violations (spec.toSchema standardTitle) [] (.obj data)
  rw [Validation.isValid_iff, ← hdecides.of_toDerived hfound]
  constructor
  · intro hnil
    refine List.eq_nil_iff_forall_not_mem.2 fun v hv => ?_
    obtain ⟨es, -, hne, hmem⟩ := htold v hv
    obtain ⟨e, he⟩ := List.exists_mem_of_ne_nil _ hne
    obtain ⟨d, hd, -⟩ := hmem e he
    rw [hnil] at hd
    cases hd
  · rintro rfl
    refine List.eq_nil_iff_forall_not_mem.2 fun d hd => ?_
    obtain ⟨v, hv, -⟩ := hfrom d hd
    cases hv

/-- **The check accepts exactly what the schema accepts**, for every list of rules and all answers
that it gets through; each violation of the schema leads to an error of a field, and each error
comes of a violation. -/
theorem validate_accepts {result : Validation} (h : spec.validate data = .ok result) :
    (result.isValid = true ↔ Schema.Accepts (spec.toSchema standardTitle) (.obj data)) ∧
      ∃ found,
        (Schema.violations (spec.toSchema standardTitle) [] (.obj data)).toDerived = .ok found ∧
        (∀ v ∈ found, spec.IsTold data result v) ∧
        ∀ d ∈ result.errors, ∃ v ∈ found, ∃ es, spec.violationErrors data v = .ok es ∧ d ∈ es :=
  ⟨isValid_iff_accepts h, violations_of_validate h⟩

theorem validate_accepts_no_blank :
    let spec : Spec := ⟨[.plain "user" "Input" "User" .string true]⟩
    ∃ result, spec.validate [("user", .str " ")] = .ok result ∧ result.isValid = false ∧
      ¬ Schema.Accepts (spec.toSchema standardTitle) (.obj [("user", .str " ")]) := by
  intro spec
  have hinvalid : (spec.validate [("user", .str " ")]).toOption.map Validation.isValid =
      some false := by decide +kernel
  obtain ⟨result, hsome, hresult⟩ := Option.map_eq_some_iff.1 hinvalid
  have h := toOption_eq_some_iff.1 hsome
  refine ⟨result, h, hresult, fun haccepts => ?_⟩
  rw [(validate_accepts h).1.2 haccepts] at hresult
  cases hresult

end Spec

end FormStudio
