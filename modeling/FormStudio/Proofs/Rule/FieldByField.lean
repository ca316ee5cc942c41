import Mathlib.Data.List.Nodup
import FormStudio.Proofs.Rule.Check
import FormStudio.Proofs.Rule.Translation

/-!
# Answers are checked field by field

The check of a whole form goes through one stream of violations, and every answer that is missing
comes with the names of all that are. Still it tells of each field what the field's own rule tells
of the field's own answer (`Spec.validate_eq`): rules with different names do not hear of each
other. So the errors of a form are those of its rules, one rule after the other, and no field is
told one thing twice, or anything beside that an answer is required
(`Spec.validate_isConcatenation`).
-/
namespace FormStudio

/-! ## Steps that fail together -/

section Outcome

variable {ε α β γ : Type}

theorem mapM_congr {f g : α → Except ε β} {items : List α} (h : ∀ a ∈ items, f a = g a) :
    items.mapM f = items.mapM g := by
  induction items with
  | nil => rfl
  | cons a rest ih =>
    obtain ⟨ha, hrest⟩ := List.forall_mem_cons.1 h
    rw [List.mapM_cons, List.mapM_cons, ha, ih hrest]

theorem mapM_ok (g : α → β) (items : List α) :
    items.mapM (fun a => (Except.ok (g a) : Except ε β)) = .ok (items.map g) := by
  induction items with
  | nil => rfl
  | cons a rest ih =>
    rw [List.mapM_cons, ih]
    rfl

/-- Two sequences whose steps fail for the same items and reasons fail for the same reason. -/
theorem mapM_eq_error {f : α → Except ε β} {g : α → Except ε γ} {items : List α} {e : ε}
    (herror : ∀ a ∈ items, ∀ e, f a = .error e → g a = .error e)
    (hok : ∀ a ∈ items, Succeeds (f a) → Succeeds (g a)) (h : items.mapM f = .error e) :
    items.mapM g = .error e := by
  induction items with
  | nil => cases h
  | cons a rest ih =>
    obtain ⟨ha, hrest⟩ := List.forall_mem_cons.1 herror
    obtain ⟨hoka, hokrest⟩ := List.forall_mem_cons.1 hok
    rw [List.mapM_cons] at h ⊢
    cases hf : f a with
    | error e' =>
      rw [hf, error_bind] at h
      cases h
      rw [ha _ hf, error_bind]
    | ok b =>
      obtain ⟨c, hc⟩ := hoka ⟨b, hf⟩
      rw [hf, ok_bind] at h
      rw [hc, ok_bind]
      have hrestError : rest.mapM f = .error e := by
        cases hmap : rest.mapM f with
        | error e' =>
          rw [hmap, error_bind] at h
          exact h
        | ok bs =>
          rw [hmap, ok_bind] at h
          cases h
      rw [ih hrest hokrest hrestError, error_bind]

end Outcome

/-! ## Going through findings -/

namespace Findings

variable {α β : Type}

theorem collect_append (f : α → Derived (List β)) (first second : Findings α) :
    (first ++ second).collect f =
      first.collect f >>= fun bs => second.collect f >>= fun cs => .ok (bs ++ cs) := by
  change (append first second).collect f = _
  induction first with
  | done =>
    rw [append, collect, ok_bind]
    cases second.collect f <;> rfl
  | brokenOff e => rfl
  | found a rest ih =>
    rw [append, collect, collect, ih]
    cases f a with
    | error e => rfl
    | ok bs =>
      simp only [ok_bind]
      cases rest.collect f with
      | error e => rfl
      | ok cs =>
        simp only [ok_bind]
        cases second.collect f with
        | error e => rfl
        | ok ds => simp only [ok_bind, List.append_assoc]

theorem collect_congr {f g : α → Derived (List β)} {findings : Findings α}
    (h : ∀ a, findings.Found a → f a = g a) : findings.collect f = findings.collect g := by
  induction findings with
  | done => rfl
  | brokenOff e => rfl
  | found a rest ih => rw [collect, collect, h a (.inl rfl), ih fun b hb => h b (.inr hb)]

/-- One finding, as often as there are items. -/
theorem collect_ofList_const {γ : Type} {f : α → Derived (List β)} {a : α} {bs : List β}
    (h : f a = .ok bs) (items : List γ) :
    (ofList (items.map fun _ => a)).collect f = .ok (items.flatMap fun _ => bs) := by
  induction items with
  | nil => rfl
  | cons item rest ih =>
    rw [List.map_cons, ofList, collect, h, ih]
    rfl

end Findings

/-! ## Errors of one field -/

namespace Spec

/-- What a field is told of its errors: only that it is required, if that is one of them. -/
def told (errors : List FieldError) : List FieldError :=
  let required := errors.filter fun e => e.errorType == .required
  if required.isEmpty then errors else required

theorem told_sublist (errors : List FieldError) : (told errors).Sublist errors := by
  unfold told
  dsimp only
  split
  · exact .refl _
  · exact List.filter_sublist

theorem fieldName_of_mem_errorsFor {errors : List FieldError} {name : String} {e : FieldError}
    (h : e ∈ errorsFor errors name) : e.fieldName = name := by
  have hmem : e ∈ errors.filter fun e => e.fieldName == name := (told_sublist _).subset h
  simpa using (List.mem_filter.1 hmem).2

/-- A field that is told to be required is told nothing else. -/
theorem errorType_of_mem_told {errors : List FieldError} {e d : FieldError} (he : e ∈ told errors)
    (hrequired : e.errorType = .required) (hd : d ∈ told errors) : d.errorType = .required := by
  unfold told at he hd
  dsimp only at he hd
  split at hd
  · next hnone =>
    rw [if_pos hnone] at he
    have hmem : e ∈ errors.filter fun e => e.errorType == .required :=
      List.mem_filter.2 ⟨he, by simp [hrequired]⟩
    rw [List.isEmpty_iff.1 hnone] at hmem
    cases hmem
  · simpa using (List.mem_filter.1 hd).2

/-- What a field and a type of error have in common. -/
def label (e : FieldError) : String × ErrorType := (e.fieldName, e.errorType)

theorem firstOfEach_filter {errors : List FieldError} (p : String × ErrorType → Bool) :
    (firstOfEach errors).filter (fun e => p (label e)) =
      firstOfEach (errors.filter fun e => p (label e)) := by
  induction errors with
  | nil => rfl
  | cons first rest ih =>
    rw [firstOfEach, List.filter_cons, List.filter_cons]
    have hrest : ((firstOfEach rest).filter fun d => !(d.fieldName == first.fieldName &&
        d.errorType == first.errorType)).filter (fun e => p (label e)) =
          (firstOfEach (rest.filter fun e => p (label e))).filter fun d =>
            !(d.fieldName == first.fieldName && d.errorType == first.errorType) := by
      rw [← ih, List.filter_filter, List.filter_filter]
      exact List.filter_congr fun d _ => Bool.and_comm _ _
    split
    · rw [firstOfEach, hrest]
    · next hp =>
      -- what the dropped error would have hidden is dropped itself
      rw [hrest, List.filter_eq_self]
      intro d hd
      have hpd : p (label d) = true := (List.mem_filter.1 (mem_of_mem_firstOfEach hd)).2
      rw [Bool.not_eq_true', Bool.and_eq_false_iff, beq_eq_false_iff_ne, beq_eq_false_iff_ne]
      by_contra hsame
      rw [not_or, not_not, not_not] at hsame
      exact hp (by rwa [← show label d = label first from Prod.ext hsame.1 hsame.2])

theorem errorsFor_firstOfEach (errors : List FieldError) (name : String) :
    errorsFor (firstOfEach errors) name =
      told (firstOfEach (errors.filter fun e => e.fieldName == name)) :=
  congrArg told (firstOfEach_filter fun l => l.1 == name)

theorem nodup_firstOfEach (errors : List FieldError) :
    ((firstOfEach errors).map label).Nodup := by
  induction errors with
  | nil => exact List.nodup_nil
  | cons first rest ih =>
    rw [firstOfEach, List.map_cons, List.nodup_cons]
    refine ⟨fun hmem => ?_, ih.sublist (List.filter_sublist.map label)⟩
    obtain ⟨d, hd, hlabel⟩ := List.mem_map.1 hmem
    obtain ⟨hname, htype⟩ := Prod.ext_iff.1 hlabel
    simp only [label] at hname htype
    simp [hname, htype] at hd

theorem firstOfEach_replicate (count : Nat) (e : FieldError) :
    firstOfEach (List.replicate (count + 1) e) = [e] := by
  induction count with
  | zero => rfl
  | succ count ih =>
    rw [List.replicate_succ, firstOfEach, ih]
    simp

end Spec

/-! ## The errors of one rule -/

namespace Rule

/-- The error for an answer that is missing. -/
def absence (rule : Rule) : FieldError :=
  ⟨rule.name, .required, rule.displayName ++ " is required", .null, .null⟩

/-- The errors of the violations of an answer, which may be absent, one after the other. -/
def answerErrors (rule : Rule) : Option Json → Derived (List FieldError)
  | none => .ok (if rule.required then [rule.absence] else [])
  | some value =>
    (Schema.violations rule.toSchema [.key rule.name] value).collect fun v =>
      v.leaves.mapM fun leaf => Spec.leafError rule [(rule.name, value)] leaf.1 leaf.2

variable {rule : Rule} {answer : Option Json}

theorem fieldName_of_mem_answerErrors {errors : List FieldError}
    (h : rule.answerErrors answer = .ok errors) {e : FieldError} (he : e ∈ errors) :
    e.fieldName = rule.name := by
  cases answer with
  | none =>
    cases h
    split at he
    · rw [List.mem_singleton.1 he]
      rfl
    · cases he
  | some value =>
    obtain ⟨found, -, -, hfrom⟩ := Findings.of_collect h
    obtain ⟨v, -, es, hes, hmem⟩ := hfrom e he
    obtain ⟨leaf, -, hleaf⟩ := (of_mapM_eq_ok hes).2 e hmem
    exact Spec.fieldName_of_leafError hleaf

end Rule

/-! ## The errors of a form -/

namespace Spec

variable {spec : Spec} {data other : Members} {rule : Rule} {v : Violation}

theorem leafError_congr (h : data.get? rule.name = other.get? rule.name) (keyword : Keyword)
    (value : Json) : leafError rule data keyword value = leafError rule other keyword value := by
  unfold leafError
  rw [h]

/-- The violation of an answer is turned into errors by the rule for it alone. -/
theorem violationErrors_of_isReported (hrule : spec.rule? rule.name = some rule)
    (hreported : v.IsReported [.key rule.name]) :
    spec.violationErrors data v =
      v.leaves.mapM fun leaf => leafError rule data leaf.1 leaf.2 := by
  obtain ⟨more, hpath⟩ := hreported.below
  unfold violationErrors
  split
  · exact absurd rfl hreported.present
  · rw [← hpath]
    simp [hrule]

/-- The errors of a rule in the answers of a form, without that an answer is missing. -/
def givenErrors (data : Members) (rule : Rule) : Derived (List FieldError) :=
  match data.get? rule.name with
  | none => .ok []
  | some value => rule.answerErrors (some value)

/-- That an answer is missing, if it is. -/
def absences (data : Members) (rule : Rule) : List FieldError :=
  if rule.required && !data.has rule.name then [rule.absence] else []

theorem answerErrors_eq (data : Members) (rule : Rule) :
    rule.answerErrors (data.get? rule.name) =
      givenErrors data rule >>= fun errors => .ok (errors ++ absences data rule) := by
  unfold givenErrors absences Table.has
  cases data.get? rule.name with
  | none => simp [Rule.answerErrors, ok_bind]
  | some value =>
    cases h : rule.answerErrors (some value) with
    | error e => simp [h, error_bind]
    | ok errors => simp [h, ok_bind]

theorem fieldName_of_mem_givenErrors {errors : List FieldError}
    (h : givenErrors data rule = .ok errors) {e : FieldError} (he : e ∈ errors) :
    e.fieldName = rule.name := by
  unfold givenErrors at h
  split at h
  · cases h
    cases he
  · exact Rule.fieldName_of_mem_answerErrors h he

theorem fieldName_of_mem_absences {e : FieldError} (he : e ∈ absences data rule) :
    e.fieldName = rule.name := by
  unfold absences at he
  split at he
  · rw [List.mem_singleton.1 he]
    rfl
  · cases he

/-- The violations of one answer of a form are told by the rule for it alone. -/
theorem collect_violations (hnames : spec.fieldNames.Nodup) (hrule : rule ∈ spec.rules)
    {value : Json} (hvalue : data.get? rule.name = some value) :
    (Schema.violations rule.toSchema [.key rule.name] value).collect (spec.violationErrors data) =
      rule.answerErrors (some value) := by
  refine Findings.collect_congr fun v hv => ?_
  rw [violationErrors_of_isReported (find?_name_eq_some hnames hrule) (rule.isReported_of_found hv)]
  refine mapM_congr fun leaf _ => leafError_congr ?_ _ _
  rw [hvalue]
  simp

theorem collect_propertyViolations (hnames : spec.fieldNames.Nodup) (data : Members)
    {rules : List Rule} (hrules : ∀ r ∈ rules, r ∈ spec.rules) :
    (Schema.propertyViolations (rules.map fun r => (r.name, r.toSchema)) [] data).collect
        (spec.violationErrors data) =
      rules.mapM (givenErrors data) >>= fun found => .ok found.flatten := by
  induction rules with
  | nil =>
    rw [List.map_nil, Schema.propertyViolations]
    rfl
  | cons rule rest ih =>
    obtain ⟨hrule, hrest⟩ := List.forall_mem_cons.1 hrules
    rw [List.map_cons, Schema.propertyViolations, Findings.collect_append, ih hrest,
      List.mapM_cons, givenErrors]
    cases hvalue : data.get? rule.name with
    | none => cases rest.mapM (givenErrors data) <;> rfl
    | some value =>
      dsimp only
      rw [List.nil_append, collect_violations hnames hrule hvalue]
      cases rule.answerErrors (some value) with
      | error e => rfl
      | ok errors => cases rest.mapM (givenErrors data) <;> rfl

/-- The names under which an answer is required and missing. -/
def missingNames (spec : Spec) (data : Members) : List String :=
  ((spec.rules.filter Rule.required).map Rule.name).filter fun name => !data.has name

theorem name_mem_missingNames (hrule : rule ∈ spec.rules) (hrequired : rule.required = true)
    (hmissing : data.has rule.name = false) : rule.name ∈ spec.missingNames data :=
  List.mem_filter.2 ⟨List.mem_map_of_mem (List.mem_filter.2 ⟨hrule, hrequired⟩),
    by rw [hmissing]; rfl⟩

/-- The rules for the names that are missing. -/
theorem filterMap_rule?_missingNames (hnames : spec.fieldNames.Nodup) (data : Members) :
    (spec.missingNames data).filterMap spec.rule? =
      spec.rules.filter fun r => r.required && !data.has r.name := by
  have hsome : ∀ rules : List Rule, (∀ r ∈ rules, r ∈ spec.rules) →
      (rules.map Rule.name).filterMap spec.rule? = rules := by
    intro rules hrules
    rw [List.filterMap_map]
    refine (List.filterMap_congr fun r hr => ?_).trans List.filterMap_some
    exact find?_name_eq_some hnames (hrules r hr)
  rw [missingNames, List.filter_map, List.filter_filter,
    hsome _ fun r hr => (List.mem_filter.1 hr).1]
  exact List.filter_congr fun r _ => Bool.and_comm _ _

theorem collect_missingMembers (hnames : spec.fieldNames.Nodup) (data : Members) :
    (missingMembers ((spec.rules.filter Rule.required).map Rule.name) [] (.obj data)).collect
        (spec.violationErrors data) =
      .ok ((spec.missingNames data).flatMap fun _ => spec.rules.flatMap (absences data)) := by
  refine Findings.collect_ofList_const ?_ _
  show ((spec.missingNames data).filterMap spec.rule?).mapM missingError = _
  have habsences : (spec.rules.filter fun r => r.required && !data.has r.name).map Rule.absence =
      spec.rules.flatMap (absences data) := by
    induction spec.rules with
    | nil => rfl
    | cons rule rest ih =>
      rw [List.filter_cons, List.flatMap_cons, ← ih, absences]
      split <;> rfl
  rw [filterMap_rule?_missingNames hnames, ← habsences]
  exact mapM_ok Rule.absence _

theorem collect_toSchema (hnames : spec.fieldNames.Nodup) (data : Members) :
    (Schema.violations (spec.toSchema standardTitle) [] (.obj data)).collect
        (spec.violationErrors data) =
      spec.rules.mapM (givenErrors data) >>= fun found =>
        .ok (found.flatten ++
          (spec.missingNames data).flatMap fun _ => spec.rules.flatMap (absences data)) := by
  have hpairs : Table.ofPairs (spec.rules.map fun r => (r.name, r.toSchema)) =
      spec.rules.map fun r => (r.name, r.toSchema) :=
    Table.ofPairs_of_nodup (by simpa [Table.keys, fieldNames, Function.comp_def] using hnames)
  have hproperties := collect_propertyViolations hnames data fun r (h : r ∈ spec.rules) => h
  -- the dialect, the type of an object and the title find nothing in one
  have hdone : ∀ {keyword : Keyword}, keyword.violations [] (.obj data) = .done →
      ∀ rest, (Schema.violations (keyword :: rest) [] (.obj data)).collect
        (spec.violationErrors data) =
          (Schema.violations rest [] (.obj data)).collect (spec.violationErrors data) := by
    intro keyword h rest
    rw [Schema.violations, h]
    rfl
  rw [toSchema, hpairs, hdone (by simp only [Keyword.violations]; rfl),
    hdone (by simp only [Keyword.violations]; rfl), hdone (by simp only [Keyword.violations]; rfl)]
  simp only [Schema.violations, Keyword.violations, Findings.collect_append, hproperties,
    collect_missingMembers hnames data]
  cases spec.rules.mapM (givenErrors data) with
  | error e => rfl
  | ok found =>
    simp only [ok_bind, Findings.collect, List.append_nil]

/-- Of what is listed rule by rule, a name picks out what its own rule lists. -/
theorem filter_flatMap_name {rules : List Rule} (hnames : (rules.map Rule.name).Nodup)
    {list : Rule → List FieldError} (hlist : ∀ r ∈ rules, ∀ e ∈ list r, e.fieldName = r.name)
    (hrule : rule ∈ rules) :
    (rules.flatMap list).filter (fun e => e.fieldName == rule.name) = list rule := by
  induction rules with
  | nil => cases hrule
  | cons first rest ih =>
    obtain ⟨hfirst, hrest⟩ := List.nodup_cons.1 hnames
    obtain ⟨hown, hothers⟩ := List.forall_mem_cons.1 hlist
    rw [List.flatMap_cons, List.filter_append]
    rcases List.mem_cons.1 hrule with rfl | hmem
    · have hself : (list rule).filter (fun e => e.fieldName == rule.name) = list rule := by
        rw [List.filter_eq_self]
        intro e he
        simp [hown e he]
      have hnil : (rest.flatMap list).filter (fun e => e.fieldName == rule.name) = [] := by
        rw [List.filter_eq_nil_iff]
        intro e he
        obtain ⟨r, hr, he⟩ := List.mem_flatMap.1 he
        have hne : r.name ≠ rule.name := fun hname => hfirst (hname ▸ List.mem_map_of_mem hr)
        simp [hothers r hr e he, hne]
      rw [hself, hnil, List.append_nil]
    · have hnil : (list first).filter (fun e => e.fieldName == rule.name) = [] := by
        rw [List.filter_eq_nil_iff]
        intro e he
        have hne : first.name ≠ rule.name := fun hname =>
          hfirst (hname ▸ List.mem_map_of_mem hmem)
        simp [hown e he, hne]
      rw [hnil, List.nil_append, ih hrest hothers hmem]

/-- However often a missing answer is reported, it is told once. -/
theorem firstOfEach_absences {given : List FieldError} (hgiven : givenErrors data rule = .ok given)
    {names : List String} (hnames : rule.required = true → data.has rule.name = false →
      rule.name ∈ names) :
    firstOfEach (given ++ names.flatMap fun _ => absences data rule) =
      firstOfEach (given ++ absences data rule) := by
  unfold absences
  split
  · next hmissing =>
    rw [Bool.and_eq_true, Bool.not_eq_true'] at hmissing
    obtain ⟨hrequired, hmissing⟩ := hmissing
    have hgiven : given = [] := by
      unfold givenErrors at hgiven
      rw [Table.has, Option.isSome_eq_false_iff, Option.isNone_iff_eq_none] at hmissing
      rw [hmissing] at hgiven
      cases hgiven
      rfl
    obtain ⟨count, hcount⟩ : ∃ count, names.length = count + 1 :=
      Nat.exists_eq_add_one.2 (List.length_pos_of_mem (hnames hrequired hmissing))
    have hreplicate : (names.flatMap fun _ => [rule.absence]) =
        List.replicate (count + 1) rule.absence := by
      rw [← List.map_eq_flatMap, List.map_const', hcount]
    rw [hgiven, hreplicate, List.nil_append, firstOfEach_replicate]
    rfl
  · rw [List.flatMap_eq_nil_iff.2 fun _ _ => rfl]

/-- Of all errors of a form, a field is told those that its own rule lists. -/
theorem errorsFor_form (hnames : spec.fieldNames.Nodup) {given : Rule → List FieldError}
    (hgiven : ∀ r ∈ spec.rules, givenErrors data r = .ok (given r)) (hrule : rule ∈ spec.rules) :
    errorsFor (firstOfEach (spec.rules.flatMap given ++
        (spec.missingNames data).flatMap fun _ => spec.rules.flatMap (absences data))) rule.name =
      told (firstOfEach (given rule ++ absences data rule)) := by
  have hown : (spec.rules.flatMap given).filter (fun e => e.fieldName == rule.name) = given rule :=
    filter_flatMap_name hnames (fun r hr _ he => fieldName_of_mem_givenErrors (hgiven r hr) he)
      hrule
  have habsent : (spec.rules.flatMap (absences data)).filter (fun e => e.fieldName == rule.name) =
      absences data rule :=
    filter_flatMap_name hnames (fun _ _ _ he => fieldName_of_mem_absences he) hrule
  rw [errorsFor_firstOfEach, List.filter_append, hown, List.filter_flatMap, habsent,
    firstOfEach_absences (hgiven rule hrule) (name_mem_missingNames hrule)]

/-- **The check of a form** checks each answer by its own rule. -/
theorem validate_eq (hnames : spec.fieldNames.Nodup) (data : Members) :
    spec.validate data =
      spec.rules.mapM (fun r => r.answerErrors (data.get? r.name)) >>= fun found =>
        .ok ⟨found.flatMap fun errors => told (firstOfEach errors), data⟩ := by
  have hanswers : spec.rules.mapM (fun r => r.answerErrors (data.get? r.name)) =
      spec.rules.mapM fun r => givenErrors data r >>= fun errors =>
        .ok (errors ++ absences data r) :=
    mapM_congr fun r _ => answerErrors_eq data r
  unfold validate
  rw [collect_toSchema hnames, hanswers]
  cases hfound : spec.rules.mapM (givenErrors data) with
  | error e =>
    rw [mapM_eq_error (fun r _ e he => ?_) (fun r _ hr => ?_) hfound]
    · rfl
    · rw [he, error_bind]
    · obtain ⟨errors, herrors⟩ := hr
      rw [herrors, ok_bind]
      exact succeeds_ok _
  | ok found =>
    obtain ⟨given, hgiven⟩ : ∃ given : Rule → List FieldError,
        ∀ r ∈ spec.rules, givenErrors data r = .ok (given r) := by
      refine ⟨fun r => ((givenErrors data r).toOption).getD [], fun r hr => ?_⟩
      obtain ⟨errors, -, herrors⟩ := (of_mapM_eq_ok hfound).1 r hr
      simp [herrors, Except.toOption]
    have hlists : found = spec.rules.map given := by
      rw [mapM_congr hgiven, mapM_ok] at hfound
      cases hfound
      rfl
    have hboth : (spec.rules.mapM fun r => givenErrors data r >>= fun errors =>
        (.ok (errors ++ absences data r) : Derived (List FieldError))) =
          .ok (spec.rules.map fun r => given r ++ absences data r) := by
      rw [← mapM_ok]
      refine mapM_congr fun r hr => ?_
      rw [hgiven r hr, ok_bind]
    rw [hboth, ok_bind, ok_bind, ok_bind, hlists, ← List.flatMap_def]
    dsimp only
    rw [fieldNames, List.flatMap_map, List.flatMap_map,
      List.flatMap_congr fun r hr => errorsFor_form hnames hgiven hr]

end Spec

namespace Rule

variable {rule : Rule} {answer : Option Json}

/-- **A rule that stands alone** tells of an answer what it tells of it in a form. -/
theorem check_eq (rule : Rule) (answer : Option Json) :
    rule.check answer =
      rule.answerErrors answer >>= fun errors => .ok (Spec.told (Spec.firstOfEach errors)) := by
  have hnames : (Spec.mk [rule]).fieldNames.Nodup := List.nodup_singleton rule.name
  have hget : ∀ data : Members, data.get? rule.name = answer →
      ((Spec.mk [rule]).validate data >>= fun result => .ok result.errors) =
        rule.answerErrors answer >>= fun errors => .ok (Spec.told (Spec.firstOfEach errors)) := by
    intro data hdata
    rw [Spec.validate_eq hnames, List.mapM_cons, List.mapM_nil, hdata]
    cases rule.answerErrors answer with
    | error e => rfl
    | ok errors => exact congrArg Except.ok (List.append_nil _)
  cases answer with
  | none => exact hget [] rfl
  | some value => exact hget [(rule.name, value)] (by simp)

end Rule

namespace Spec

variable {spec : Spec} {data : Members} {result : Validation}

/-- What is told of a form is what its rules tell, one after the other. -/
theorem errors_validate (hnames : spec.fieldNames.Nodup) (data : Members) :
    (spec.validate data).map Validation.errors =
      (spec.rules.mapM fun r : Rule => r.check (data.get? r.name)).map List.flatten := by
  simp only [validate_eq hnames, Rule.check_eq, mapM_bind_ok]
  cases spec.rules.mapM fun r : Rule => r.answerErrors (data.get? r.name) with
  | error e => rfl
  | ok found => exact congrArg Except.ok List.flatMap_def

/-- No field is told the same type of error twice. -/
theorem nodup_labels (hnames : spec.fieldNames.Nodup) (h : spec.validate data = .ok result) :
    (result.errors.map label).Nodup := by
  obtain ⟨found, -, h⟩ := bind_eq_ok_iff.1 h
  cases h
  rw [List.map_flatMap, List.nodup_flatMap]
  refine ⟨fun name _ => ?_, hnames.imp fun {name other} hne => ?_⟩
  · refine (nodup_firstOfEach found).sublist (List.Sublist.map label ?_)
    exact (told_sublist _).trans List.filter_sublist
  · intro l hl hl'
    obtain ⟨e, he, rfl⟩ := List.mem_map.1 hl
    obtain ⟨d, hd, hlabel⟩ := List.mem_map.1 hl'
    have hname : d.fieldName = e.fieldName := congrArg Prod.fst hlabel
    rw [fieldName_of_mem_errorsFor he, fieldName_of_mem_errorsFor hd] at hname
    exact hne hname.symm

/-- A field that is told to be required is told nothing else. -/
theorem eq_of_required (hnames : spec.fieldNames.Nodup) (h : spec.validate data = .ok result)
    {e d : FieldError} (he : e ∈ result.errors) (hrequired : e.errorType = .required)
    (hd : d ∈ result.errors) (hname : d.fieldName = e.fieldName) : d = e := by
  have hnodup := nodup_labels hnames h
  refine List.inj_on_of_nodup_map hnodup hd he (Prod.ext hname ?_)
  show d.errorType = e.errorType
  rw [hrequired]
  obtain ⟨found, -, h⟩ := bind_eq_ok_iff.1 h
  cases h
  obtain ⟨name, -, he⟩ := List.mem_flatMap.1 he
  obtain ⟨other, -, hd⟩ := List.mem_flatMap.1 hd
  rw [fieldName_of_mem_errorsFor he, fieldName_of_mem_errorsFor hd] at hname
  rw [hname] at hd
  exact errorType_of_mem_told he hrequired hd

/-- **The check of a form is the concatenation of the checks of its answers**, in the order of the
rules and also where one of them fails: the same types, sentences, expected and received values. No
field is told a type of error twice, one that is told to be required is told nothing else, and
answers for which there is no rule change nothing. -/
theorem validate_isConcatenation (hnames : spec.fieldNames.Nodup) (data : Members) :
    (spec.validate data).map Validation.errors =
        (spec.rules.mapM fun r : Rule => r.check (data.get? r.name)).map List.flatten ∧
      (∀ result, spec.validate data = .ok result →
        (result.errors.map fun e => (e.fieldName, e.errorType)).Nodup ∧
        ∀ e ∈ result.errors, e.errorType = .required →
          ∀ d ∈ result.errors, d.fieldName = e.fieldName → d = e) ∧
      ∀ other : Members, (∀ name ∈ spec.fieldNames, other.get? name = data.get? name) →
        (spec.validate other).map Validation.errors =
          (spec.validate data).map Validation.errors := by
  refine ⟨errors_validate hnames data, fun result h => ⟨nodup_labels hnames h, ?_⟩, ?_⟩
  · intro e he hrequired d hd hname
    exact eq_of_required hnames h he hrequired hd hname
  · intro other hother
    rw [errors_validate hnames, errors_validate hnames]
    refine congrArg (Except.map List.flatten) (mapM_congr fun r hr => ?_)
    rw [hother r.name (List.mem_map_of_mem hr)]

theorem validate_isConcatenation_of_missing_answer :
    let spec : Spec := ⟨[.plain "a" "Input" "" .string true,
      { Rule.plain "b" "Slider" "" .number false with maximum := some (.int 3) }]⟩
    let data : Members := [("x", .null), ("b", .num (.int 4))]
    spec.fieldNames.Nodup ∧
      (∃ result, spec.validate data = .ok result ∧
        result.errors.map label = [("a", .required), ("b", .maximum)] ∧
        (result.errors.map label).Nodup) ∧
      (spec.validate [("b", .num (.int 4))]).map Validation.errors =
        (spec.rules.mapM fun r : Rule => r.check (data.get? r.name)).map List.flatten := by
  intro spec data
  have hnames : spec.fieldNames.Nodup := by decide
  obtain ⟨hall, hresult, hother⟩ := validate_isConcatenation hnames data
  have hlabels : (spec.validate data).toOption.map (fun result => result.errors.map label) =
      some [("a", .required), ("b", .maximum)] := by decide +kernel
  obtain ⟨result, hsome, hlabels⟩ := Option.map_eq_some_iff.1 hlabels
  have h := toOption_eq_some_iff.1 hsome
  refine ⟨hnames, ⟨result, h, hlabels, (hresult result h).1⟩, ?_⟩
  rw [hother _ (by decide), hall]

end Spec

end FormStudio
