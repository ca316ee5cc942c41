import Mathlib.Logic.Basic
import FormStudio.Proofs.Rule.Generation
import FormStudio.Proofs.Table
import FormStudio.Rule.Validation

/-!
# When answers are checked

A check breaks off where a number cannot be divided or a pattern cannot be read, and it fails where
an error has no sentence. Schemas without bounds on numbers do neither (`Schema.isCalm`), whatever
they are nested in. So the answers of a form are checked exactly when each number among them gets
through the bounds of its own rule (`Spec.succeeds_validate_iff`).
-/
namespace FormStudio

/-! ## Findings -/

namespace Findings

variable {α β : Type}

/-- Whether a check goes through and all it finds has a property. -/
def All (P : α → Prop) : Findings α → Prop
  | .done => True
  | .brokenOff _ => False
  | .found a rest => P a ∧ rest.All P

variable {P Q : α → Prop}

theorem all_append {first second : Findings α} :
    (first ++ second).All P ↔ first.All P ∧ second.All P := by
  show (append first second).All P ↔ _
  induction first with
  | done => simp [append, All]
  | brokenOff e => simp [append, All]
  | found a rest ih => simp [append, All, ih, and_assoc]

theorem all_ofList {items : List α} : (ofList items).All P ↔ ∀ a ∈ items, P a := by
  induction items with
  | nil => simp [ofList, All]
  | cons a rest ih => simp [ofList, All, ih]

theorem All.imp {findings : Findings α} (h : findings.All P) (himp : ∀ a, P a → Q a) :
    findings.All Q := by
  induction findings with
  | done => trivial
  | brokenOff e => exact h
  | found a rest ih => exact ⟨himp a h.1, ih h.2⟩

theorem All.toDerived {findings : Findings α} (h : findings.All P) :
    ∃ items, findings.toDerived = .ok items ∧ ∀ a ∈ items, P a := by
  induction findings with
  | done => exact ⟨[], rfl, by simp⟩
  | brokenOff e => exact h.elim
  | found a rest ih =>
    obtain ⟨items, hitems, hall⟩ := ih h.2
    refine ⟨a :: items, ?_, List.forall_mem_cons.2 ⟨h.1, hall⟩⟩
    rw [Findings.toDerived, hitems, ok_bind]

/-- Going through findings succeeds when the check goes through and each finding does. -/
theorem succeeds_collect_iff {f : α → Derived (List β)} {findings : Findings α} :
    Succeeds (findings.collect f) ↔ findings.All fun a => Succeeds (f a) := by
  induction findings with
  | done => simp [collect, All]
  | brokenOff e => simp [collect, All]
  | found a rest ih =>
    rw [collect, All, ← ih]
    exact succeeds_bind_iff fun _ => succeeds_bind_ok_iff

end Findings

/-! ## Schemas without bounds on numbers -/

mutual

/-- Whether a keyword sets no bound on a number and its patterns can be read. -/
def Keyword.isCalm : Keyword → Bool
  | .minimum _ => false
  | .maximum _ => false
  | .multipleOf _ => false
  | .pattern written => (Pattern.read written).isOk
  | .items schema => Schema.isCalm schema
  | .anyOf branches => Schema.areCalm branches
  | .allOf branches => Schema.areCalm branches
  | .not schema => Schema.isCalm schema
  | .properties schemas => Schema.propertiesCalm schemas
  | _ => true

/-- Whether all keywords of a schema are calm. -/
def Schema.isCalm : List Keyword → Bool
  | [] => true
  | keyword :: rest => keyword.isCalm && Schema.isCalm rest

/-- Whether all schemas of a list are calm. -/
def Schema.areCalm : List (List Keyword) → Bool
  | [] => true
  | schema :: rest => Schema.isCalm schema && Schema.areCalm rest

/-- Whether the schemas of all properties are calm. -/
def Schema.propertiesCalm : List (String × List Keyword) → Bool
  | [] => true
  | (_, schema) :: rest => Schema.isCalm schema && Schema.propertiesCalm rest

end

/-- Whether a keyword asks for a bound of a number. -/
def Keyword.isNumeric : Keyword → Bool
  | .minimum _ => true
  | .maximum _ => true
  | .multipleOf _ => true
  | _ => false

/-- A violation whose leaves have nothing to do with bounds of numbers. -/
def Violation.IsCalm (v : Violation) : Prop := ∀ leaf ∈ v.leaves, leaf.1.isNumeric = false

theorem Violation.isCalm_leaf {path : List PathStep} {keyword : Keyword} {value : Json}
    (h : keyword.isNumeric = false) : (Violation.leaf path keyword value).IsCalm := by
  simpa [IsCalm, leaves] using h

theorem Violation.isCalm_noBranch {path : List PathStep} {branches : List (List Violation)}
    (h : ∀ branch ∈ branches, ∀ v ∈ branch, v.IsCalm) :
    (Violation.noBranch path branches).IsCalm := by
  intro leaf hleaf
  obtain ⟨v, hv, hfound⟩ := List.mem_filterMap.1 hleaf
  have hbranch : v.IsCalm := by
    cases hget : branches[1]? with
    | none =>
      rw [hget] at hv
      cases hv
    | some branch =>
      rw [hget] at hv
      exact h branch (List.mem_of_getElem? hget) v hv
  cases v with
  | leaf path keyword value =>
    cases hfound
    exact hbranch (keyword, value) List.mem_cons_self
  | noBranch path branches => cases hfound

theorem Keyword.all_demand {keyword : Keyword} {path : List PathStep} {value : Json} {holds : Bool}
    (h : keyword.isNumeric = false) :
    (keyword.demand path value holds).All Violation.IsCalm := by
  unfold demand
  split
  · trivial
  · exact ⟨Violation.isCalm_leaf h, trivial⟩

theorem all_eachItem {P : Violation → Prop} {check : List PathStep → Json → Findings Violation}
    (h : ∀ path value, (check path value).All P) (path : List PathStep) (position : Nat)
    (items : List Json) : (eachItem check path position items).All P := by
  induction items generalizing position with
  | nil => trivial
  | cons item rest ih => exact Findings.all_append.2 ⟨h _ _, ih (position + 1)⟩

theorem all_missingMembers {P : Violation → Prop} {names : List String} {path : List PathStep}
    {value : Json} (h : P (.leaf path (.required names) value)) :
    (missingMembers names path value).All P := by
  unfold missingMembers
  split
  · refine Findings.all_ofList.2 fun v hv => ?_
    obtain ⟨name, -, rfl⟩ := List.mem_map.1 hv
    exact h
  · trivial

theorem Keyword.all_plainViolations {keyword : Keyword} (h : keyword.isCalm = true)
    (path : List PathStep) (value : Json) :
    (keyword.plainViolations path value).All Violation.IsCalm := by
  unfold plainViolations
  dsimp only
  split
  case h_4 written s =>
    obtain ⟨pattern, hpattern⟩ : ∃ pattern, Pattern.read written = .ok pattern := by
      cases hread : Pattern.read written with
      | ok pattern => exact ⟨pattern, rfl⟩
      | error e =>
        rw [isCalm, hread] at h
        cases h
    rw [Pattern.find_of_read hpattern]
    exact all_demand rfl
  case h_5 => cases h
  case h_6 => cases h
  case h_7 => cases h
  case h_12 => trivial
  all_goals exact all_demand rfl

mutual

theorem Keyword.all_violations : ∀ (keyword : Keyword), keyword.isCalm = true →
    ∀ (path : List PathStep) (value : Json), (keyword.violations path value).All Violation.IsCalm
  | .items schema, h, path, value => by
    cases value with
    | arr items =>
      rw [Keyword.violations]
      exact all_eachItem (Schema.all_violations schema h) path 0 items
    | _ => simp only [Keyword.violations, Findings.All]
  | .anyOf branches, h, path, value => by
    obtain ⟨found, hfound, hall⟩ := Schema.all_eachBranch branches h path value
    rw [Keyword.violations, hfound]
    cases found with
    | none => trivial
    | some found => exact ⟨Violation.isCalm_noBranch (hall found rfl), trivial⟩
  | .allOf branches, h, path, value => by
    rw [Keyword.violations]
    exact Schema.all_allBranches branches h path value
  | .not schema, h, path, value => by
    have hall := Schema.all_violations schema h path value
    rw [Keyword.violations]
    split
    · exact ⟨Violation.isCalm_leaf rfl, trivial⟩
    · next e he =>
      rw [he] at hall
      exact hall
    · trivial
  | .properties schemas, h, path, value => by
    cases value with
    | obj members =>
      rw [Keyword.violations]
      exact Schema.all_propertyViolations schemas h path members
    | _ => simp only [Keyword.violations, Findings.All]
  | .required names, _, path, value => by
    rw [Keyword.violations]
    exact all_missingMembers (Violation.isCalm_leaf rfl)
  | .dialect _, h, path, value | .title _, h, path, value | .ofType _, h, path, value
  | .minLength _, h, path, value | .maxLength _, h, path, value | .pattern _, h, path, value
  | .minimum _, h, path, value | .maximum _, h, path, value | .multipleOf _, h, path, value
  | .const _, h, path, value | .enum _, h, path, value | .minItems _, h, path, value
  | .maxItems _, h, path, value => by
    simpa only [Keyword.violations] using Keyword.all_plainViolations h path value

theorem Schema.all_violations : ∀ (schema : List Keyword), Schema.isCalm schema = true →
    ∀ (path : List PathStep) (value : Json), (Schema.violations schema path value).All Violation.IsCalm
  | [], _, path, value => by
    rw [Schema.violations_nil]
    trivial
  | keyword :: rest, h, path, value => by
    obtain ⟨hkeyword, hrest⟩ := Bool.and_eq_true_iff.1 h
    rw [Schema.violations]
    exact Findings.all_append.2
      ⟨Keyword.all_violations keyword hkeyword path value, Schema.all_violations rest hrest path value⟩

theorem Schema.all_eachBranch : ∀ (branches : List (List Keyword)), Schema.areCalm branches = true →
    ∀ (path : List PathStep) (value : Json), ∃ found,
      Schema.eachBranch branches path value = .ok found ∧
        ∀ violations, found = some violations → ∀ branch ∈ violations, ∀ v ∈ branch, v.IsCalm
  | [], _, path, value => ⟨some [], by rw [Schema.eachBranch], by rintro _ ⟨⟩ _ ⟨⟩⟩
  | branch :: rest, h, path, value => by
    obtain ⟨hbranch, hrest⟩ := Bool.and_eq_true_iff.1 h
    obtain ⟨first, hfirst, hall⟩ := (Schema.all_violations branch hbranch path value).toDerived
    obtain ⟨others, hothers, hmore⟩ := Schema.all_eachBranch rest hrest path value
    rw [Schema.eachBranch, hfirst, ok_bind]
    split
    · exact ⟨none, rfl, fun _ h => nomatch h⟩
    · rw [hothers, ok_bind]
      refine ⟨_, rfl, fun violations hv => ?_⟩
      obtain ⟨more, rfl, rfl⟩ := Option.map_eq_some_iff.1 hv
      exact List.forall_mem_cons.2 ⟨hall, hmore more rfl⟩

theorem Schema.all_allBranches : ∀ (branches : List (List Keyword)), Schema.areCalm branches = true →
    ∀ (path : List PathStep) (value : Json),
      (Schema.allBranches branches path value).All Violation.IsCalm
  | [], _, path, value => by
    rw [Schema.allBranches]
    trivial
  | branch :: rest, h, path, value => by
    obtain ⟨hbranch, hrest⟩ := Bool.and_eq_true_iff.1 h
    rw [Schema.allBranches]
    exact Findings.all_append.2
      ⟨Schema.all_violations branch hbranch path value, Schema.all_allBranches rest hrest path value⟩

theorem Schema.all_propertyViolations : ∀ (schemas : List (String × List Keyword)),
    Schema.propertiesCalm schemas = true → ∀ (path : List PathStep) (members : Members),
      (Schema.propertyViolations schemas path members).All Violation.IsCalm
  | [], _, path, members => by
    rw [Schema.propertyViolations]
    trivial
  | (name, schema) :: rest, h, path, members => by
    obtain ⟨hschema, hrest⟩ := Bool.and_eq_true_iff.1 h
    rw [Schema.propertyViolations]
    refine Findings.all_append.2 ⟨?_, Schema.all_propertyViolations rest hrest path members⟩
    split
    · exact Schema.all_violations schema hschema _ _
    · trivial

end

/-! ## Errors of violations -/

namespace Rule

theorem isNumeric_errorType (rule : Rule) (keyword : Keyword) (value : Json) :
    (rule.errorType keyword value).isNumeric = keyword.isNumeric := by
  cases keyword with
  | pattern written =>
    unfold errorType
    dsimp only
    split
    · rfl
    · split <;> rfl
  | ofType type =>
    unfold errorType
    dsimp only
    split <;> rfl
  | minItems bound =>
    unfold errorType
    dsimp only
    split <;> rfl
  | _ => rfl

end Rule

namespace Spec

variable {spec : Spec} {data : Members}

theorem succeeds_leafError_iff {rule : Rule} {keyword : Keyword} {value : Json} :
    Succeeds (leafError rule data keyword value) ↔
      Succeeds (rule.message (rule.errorType keyword value)) :=
  succeeds_bind_ok_iff

theorem succeeds_missing (names : List String) :
    Succeeds (((names.filter fun name => !data.has name).filterMap spec.rule?).mapM missingError) :=
  succeeds_mapM_iff.2 fun _ _ => succeeds_bind_ok_iff.2 (Rule.succeeds_message rfl)

/-- A violation that has nothing to do with bounds of numbers is turned into errors. -/
theorem succeeds_violationErrors {v : Violation} (h : v.IsCalm) :
    Succeeds (spec.violationErrors data v) := by
  unfold violationErrors
  split
  · exact succeeds_missing _
  · split
    · split
      · refine succeeds_mapM_iff.2 fun leaf hleaf => succeeds_leafError_iff.2 ?_
        exact Rule.succeeds_message ((Rule.isNumeric_errorType _ _ _).trans (h leaf hleaf))
      · exact succeeds_ok _
    · exact succeeds_ok _

/-- The violation of a bound by the answer of a field is turned into an error exactly when the
sentence can be said. -/
theorem succeeds_violationErrors_iff {rule : Rule} {keyword : Keyword} {value : Json}
    (hrule : spec.rule? rule.name = some rule) (hkeyword : keyword.isNumeric = true) :
    Succeeds (spec.violationErrors data (.leaf [.key rule.name] keyword value)) ↔
      Succeeds (rule.message (rule.errorType keyword value)) := by
  unfold violationErrors
  split
  · next h =>
    cases h
    cases hkeyword
  · simp only [Violation.path, hrule, Violation.leaves, succeeds_mapM_iff, List.mem_singleton,
      forall_eq, succeeds_leafError_iff]

end Spec

/-! ## The schema of a rule -/

theorem Schema.isCalm_append {first second : Schema} :
    Schema.isCalm (first ++ second) = (Schema.isCalm first && Schema.isCalm second) := by
  induction first with
  | nil => rfl
  | cons keyword rest ih =>
    rw [List.cons_append, Schema.isCalm, Schema.isCalm, ih, Bool.and_assoc]

theorem Schema.isCalm_boundKeyword {α : Type} (keyword : α → Keyword) (bound : Option α)
    (h : ∀ b, (keyword b).isCalm = true) : Schema.isCalm (boundKeyword keyword bound) = true := by
  cases bound <;> simp [boundKeyword, Schema.isCalm, h]

namespace Rule

/-- Whether the patterns of a rule can be read. -/
def HasReadablePatterns (rule : Rule) : Prop :=
  ∀ written ∈ rule.patterns, (Pattern.read written).isOk = true

theorem isCalm_patternKeywords {written : List String}
    (h : ∀ w ∈ written, (Pattern.read w).isOk = true) :
    Schema.isCalm (patternKeywords written) = true := by
  have hall : ∀ several : List String, (∀ w ∈ several, (Pattern.read w).isOk = true) →
      Schema.areCalm (several.map fun w => [.pattern w]) = true := by
    intro several hseveral
    induction several with
    | nil => rfl
    | cons w rest ih =>
      obtain ⟨hw, hrest⟩ := List.forall_mem_cons.1 hseveral
      simp [Schema.areCalm, Schema.isCalm, Keyword.isCalm, hw, ih hrest]
  unfold patternKeywords
  split
  · rfl
  · simpa [Schema.isCalm, Keyword.isCalm] using h
  · simp [Schema.isCalm, Keyword.isCalm, hall _ h]

theorem isCalm_textSchema {rule : Rule} (h : rule.HasReadablePatterns) :
    Schema.isCalm rule.textSchema = true := by
  have hschema : Schema.isCalm ([.ofType .string] ++ boundKeyword .minLength rule.minLength ++
      boundKeyword .maxLength rule.maxLength ++ patternKeywords rule.patterns) = true := by
    have hleast := Schema.isCalm_boundKeyword .minLength rule.minLength fun _ => rfl
    have hmost := Schema.isCalm_boundKeyword .maxLength rule.maxLength fun _ => rfl
    simp only [Schema.isCalm_append, hleast, hmost, isCalm_patternKeywords h]
    rfl
  unfold textSchema
  dsimp only
  split
  · simp only [Schema.isCalm, Keyword.isCalm, Schema.areCalm, hschema]
    rfl
  · exact hschema

/-- The schema of a rule that is not for numbers sets no bound on a number. -/
theorem isCalm_answerSchema {rule : Rule} (hkind : rule.kind ≠ .number)
    (h : rule.HasReadablePatterns) : Schema.isCalm rule.answerSchema = true := by
  unfold answerSchema
  split
  · exact isCalm_textSchema h
  · exact isCalm_textSchema h
  · contradiction
  · split <;> rfl
  · have hleast := Schema.isCalm_boundKeyword .minItems rule.leastItems fun _ => rfl
    have hmost := Schema.isCalm_boundKeyword .maxItems rule.maxItems fun _ => rfl
    simp only [arraySchema, Schema.isCalm_append, hleast, hmost]
    rfl
  · split <;> rfl

/-- Whether a number gets through the bounds of a rule: it meets those that cannot be shown, and
gets through the step. -/
structure Judges (rule : Rule) (n : Number) : Prop where
  minimum : ∀ m, rule.minimum = some m → m.IsPastRange → m.le n = true
  maximum : ∀ m, rule.maximum = some m → m.IsPastRange → n.le m = true
  step : ∀ s, rule.effectiveStep = some s → n.PassesStep s

end Rule

/-! ## The bounds of a number -/

theorem Schema.all_violations_append_iff {P : Violation → Prop} {first second : Schema}
    {path : List PathStep} {value : Json} :
    (Schema.violations (first ++ second) path value).All P ↔
      (Schema.violations first path value).All P ∧ (Schema.violations second path value).All P := by
  induction first with
  | nil => simp [Schema.violations, Findings.All]
  | cons keyword rest ih =>
    rw [List.cons_append, Schema.violations, Schema.violations, Findings.all_append,
      Findings.all_append, ih, and_assoc]

theorem Schema.all_violations_boundKeyword_iff {α : Type} {P : Violation → Prop}
    {keyword : α → Keyword} {bound : Option α} {path : List PathStep} {value : Json} :
    (Schema.violations (boundKeyword keyword bound) path value).All P ↔
      ∀ b, bound = some b → ((keyword b).violations path value).All P := by
  cases bound with
  | none => simp [boundKeyword, Schema.violations, Findings.All]
  | some b => simp [boundKeyword, Schema.violations, Findings.all_append, Findings.All]

theorem Keyword.all_demand_iff {P : Violation → Prop} {keyword : Keyword} {path : List PathStep}
    {value : Json} {holds : Bool} :
    (keyword.demand path value holds).All P ↔ holds = true ∨ P (.leaf path keyword value) := by
  cases holds <;> simp [demand, Findings.All]

section Number

variable {spec : Spec} {data : Members} {rule : Rule}

/-- The check of a number against a rule for numbers goes through, and all that it finds is turned
into errors, exactly when the number gets through the bounds of the rule. -/
theorem Rule.all_violations_num_iff (hrule : spec.rule? rule.name = some rule) (n : Number) :
    (Schema.violations rule.numberSchema [.key rule.name] (.num n)).All
        (fun v => Succeeds (spec.violationErrors data v)) ↔ rule.Judges n := by
  have hbound : ∀ {keyword : Keyword} {holds : Bool}, keyword.isNumeric = true →
      ((keyword.demand [.key rule.name] (.num n) holds).All
          (fun v => Succeeds (spec.violationErrors data v)) ↔
        holds = true ∨ Succeeds (rule.message (rule.errorType keyword (.num n)))) := by
    intro keyword holds hkeyword
    rw [Keyword.all_demand_iff, Spec.succeeds_violationErrors_iff hrule hkeyword]
  have hmin : ∀ m, rule.minimum = some m → ((Keyword.violations (.minimum m) [.key rule.name]
      (.num n)).All (fun v => Succeeds (spec.violationErrors data v)) ↔
        (m.IsPastRange → m.le n = true)) := by
    intro m hm
    simp only [Keyword.violations, Keyword.plainViolations]
    rw [hbound rfl, Rule.errorType, Rule.succeeds_message_minimum_iff, hm]
    simp [imp_iff_or_not]
  have hmax : ∀ m, rule.maximum = some m → ((Keyword.violations (.maximum m) [.key rule.name]
      (.num n)).All (fun v => Succeeds (spec.violationErrors data v)) ↔
        (m.IsPastRange → n.le m = true)) := by
    intro m hm
    simp only [Keyword.violations, Keyword.plainViolations]
    rw [hbound rfl, Rule.errorType, Rule.succeeds_message_maximum_iff, hm]
    simp [imp_iff_or_not]
  have hstep : ∀ s, rule.effectiveStep = some s → ((Keyword.violations (.multipleOf s)
      [.key rule.name] (.num n)).All (fun v => Succeeds (spec.violationErrors data v)) ↔
        n.PassesStep s) := by
    intro s hs
    simp only [Keyword.violations, Keyword.plainViolations, Number.PassesStep]
    cases hdivides : n.isMultipleOf? s with
    | none => simp [Findings.All]
    | some divides =>
      dsimp only
      rw [hbound rfl, Rule.errorType, Rule.succeeds_message_step_iff, Rule.effectiveStep_eq_some hs]
      cases divides <;> simp
  have htype : (Schema.violations [.ofType .number] [.key rule.name] (.num n)).All
      (fun v => Succeeds (spec.violationErrors data v)) :=
    (Schema.all_violations _ rfl _ _).imp fun _ h => Spec.succeeds_violationErrors h
  simp only [Rule.numberSchema, Schema.all_violations_append_iff,
    Schema.all_violations_boundKeyword_iff, htype, true_and]
  constructor
  · rintro ⟨⟨hleast, hmost⟩, hstepped⟩
    exact ⟨fun m hm => (hmin m hm).1 (hleast m hm), fun m hm => (hmax m hm).1 (hmost m hm),
      fun s hs => (hstep s hs).1 (hstepped s hs)⟩
  · rintro ⟨hleast, hmost, hstepped⟩
    exact ⟨⟨fun m hm => (hmin m hm).2 (hleast m hm), fun m hm => (hmax m hm).2 (hmost m hm)⟩,
      fun s hs => (hstep s hs).2 (hstepped s hs)⟩

/-- A value that is no number is told so, and no bound looks at it. -/
theorem Rule.all_violations_of_ne_num {value : Json} (hvalue : ∀ n, value ≠ .num n)
    (path : List PathStep) :
    (Schema.violations rule.numberSchema path value).All Violation.IsCalm := by
  have hnone : ∀ keyword : Keyword, keyword.isNumeric = true →
      (keyword.violations path value).All Violation.IsCalm := by
    intro keyword hkeyword
    cases value with
    | num n => exact absurd rfl (hvalue n)
    | _ => cases keyword <;> cases hkeyword <;>
      simp only [Keyword.violations, Keyword.plainViolations, Findings.All]
  have htype : (Schema.violations [.ofType .number] path value).All Violation.IsCalm :=
    Schema.all_violations _ rfl _ _
  simp only [Rule.numberSchema, Schema.all_violations_append_iff,
    Schema.all_violations_boundKeyword_iff]
  exact ⟨⟨⟨htype, fun _ _ => hnone _ rfl⟩, fun _ _ => hnone _ rfl⟩, fun _ _ => hnone _ rfl⟩

/-- **One answer is checked** exactly when it is no number, or gets through the bounds of its
rule. -/
theorem Rule.all_violations_iff (hrule : spec.rule? rule.name = some rule)
    (hpatterns : rule.kind ≠ .number → rule.HasReadablePatterns) {value : Json} :
    (Schema.violations rule.toSchema [.key rule.name] value).All
        (fun v => Succeeds (spec.violationErrors data v)) ↔
      ∀ n, rule.kind = .number → value = .num n → rule.Judges n := by
  have htitle : ∀ P : Violation → Prop, (Schema.violations rule.toSchema [.key rule.name] value).All P ↔
      (Schema.violations rule.answerSchema [.key rule.name] value).All P := by
    intro P
    rw [Rule.toSchema, Schema.violations, Findings.all_append]
    simp [Keyword.violations, Keyword.plainViolations, Findings.All]
  rw [htitle]
  by_cases hkind : rule.kind = .number
  · rw [Rule.answerSchema, hkind]
    by_cases hvalue : ∃ n, value = .num n
    · obtain ⟨n, rfl⟩ := hvalue
      rw [Rule.all_violations_num_iff hrule]
      simp
    · have hne : ∀ n, value ≠ .num n := fun n h => hvalue ⟨n, h⟩
      exact ⟨fun _ n _ h => absurd h (hne n), fun _ => (Rule.all_violations_of_ne_num hne _).imp
        fun _ h => Spec.succeeds_violationErrors h⟩
  · refine ⟨fun _ n h => absurd h hkind, fun _ => ?_⟩
    exact (Schema.all_violations _ (Rule.isCalm_answerSchema hkind (hpatterns hkind)) _ _).imp
      fun _ h => Spec.succeeds_violationErrors h

end Number

/-! ## The answers of a form -/

namespace Spec

theorem find?_name_eq_some {rules : List Rule} (h : (rules.map Rule.name).Nodup) {rule : Rule}
    (hmem : rule ∈ rules) : (rules.find? fun r => r.name == rule.name) = some rule := by
  induction rules with
  | nil => cases hmem
  | cons first rest ih =>
    obtain ⟨hfirst, hrest⟩ := List.nodup_cons.1 h
    rcases List.mem_cons.1 hmem with rfl | hmem
    · simp
    · have hne : first.name ≠ rule.name := by
        intro he
        exact hfirst (he ▸ List.mem_map_of_mem hmem)
      simpa [hne] using ih hrest hmem

theorem all_propertyViolations_iff {P : Violation → Prop} {rules : List Rule} {data : Members} :
    (Schema.propertyViolations (rules.map fun r => (r.name, r.toSchema)) [] data).All P ↔
      ∀ rule ∈ rules, ∀ value, Table.get? rule.name data = some value →
        (Schema.violations rule.toSchema [.key rule.name] value).All P := by
  induction rules with
  | nil => simp [Schema.propertyViolations, Findings.All]
  | cons rule rest ih =>
    rw [List.map_cons, Schema.propertyViolations, Findings.all_append, ih, List.forall_mem_cons]
    refine and_congr_left fun _ => ?_
    cases Table.get? rule.name data with
    | none => simp [Findings.All]
    | some value => simp

/-- **The answers of a form are checked** exactly when each number among them gets through the
bounds of the rule for it. -/
theorem succeeds_validate_iff {spec : Spec} (hnames : spec.fieldNames.Nodup)
    (hpatterns : ∀ rule ∈ spec.rules, rule.kind ≠ .number → rule.HasReadablePatterns)
    (data : Members) :
    Succeeds (spec.validate data) ↔ ∀ rule ∈ spec.rules, ∀ n, rule.kind = .number →
      Table.get? rule.name data = some (.num n) → rule.Judges n := by
  have hkeys : Table.keys (spec.rules.map fun r => (r.name, r.toSchema)) = spec.fieldNames := by
    simp [Table.keys, fieldNames]
  have hmissing : ∀ names, (Keyword.violations (.required names) [] (.obj data)).All
      (fun v => Succeeds (spec.violationErrors data v)) := fun names => by
    rw [Keyword.violations]
    exact all_missingMembers (succeeds_missing names)
  have hvalidate : Succeeds (spec.validate data) ↔
      (Schema.violations (spec.toSchema standardTitle) [] (.obj data)).All
        (fun v => Succeeds (spec.violationErrors data v)) :=
    succeeds_bind_ok_iff.trans Findings.succeeds_collect_iff
  have hproperties : ∀ P : Violation → Prop, (∀ names, (Keyword.violations (.required names) []
      (.obj data)).All P) → ((Schema.violations (spec.toSchema standardTitle) [] (.obj data)).All P ↔
        (Schema.propertyViolations (spec.rules.map fun r => (r.name, r.toSchema)) [] data).All P) := by
    intro P hP
    simp only [toSchema, Schema.violations, Findings.all_append, hP, Findings.All, and_true,
      Table.ofPairs_of_nodup (hkeys ▸ hnames)]
    simp [Keyword.violations, Keyword.plainViolations, Keyword.demand, SchemaType.holds, Findings.All]
  rw [hvalidate, hproperties _ hmissing, all_propertyViolations_iff]
  refine forall_congr' fun rule => imp_congr_right fun hrule => ?_
  have hfind : spec.rule? rule.name = some rule := find?_name_eq_some hnames hrule
  constructor
  · intro h n hkind hget
    exact (Rule.all_violations_iff hfind (hpatterns rule hrule)).1 (h _ hget) n hkind rfl
  · intro h value hget
    refine (Rule.all_violations_iff hfind (hpatterns rule hrule)).2 ?_
    rintro n hkind rfl
    exact h n hkind hget

end Spec

end FormStudio
