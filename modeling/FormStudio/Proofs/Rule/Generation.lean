import FormStudio.Code.Component
import FormStudio.Proofs.Number.Range
import FormStudio.Proofs.Outcome

/-!
# When code is generated

Generation fails in one way alone: a sentence about a bound cannot show an integer that is past the
largest binary number. So a form has a source, for every library, exactly when its rules have
bounds that can be shown (`Form.succeeds_source_iff`). A control without code never stands in the
way; it leaves a comment in its place.
-/
namespace FormStudio

/-- Whether the sentence of an error type speaks of a number. -/
def ErrorType.isNumeric : ErrorType → Bool
  | .minimum => true
  | .maximum => true
  | .step => true
  | _ => false

namespace Rule

/-- Whether all bounds of a rule can be shown in short. -/
structure HasShowableBounds (rule : Rule) : Prop where
  minimum : ∀ n, rule.minimum = some n → ¬ n.IsPastRange
  maximum : ∀ n, rule.maximum = some n → ¬ n.IsPastRange
  step : ∀ n, rule.effectiveStep = some n → ¬ n.IsPastRange

/-! ## Sentences -/

theorem succeeds_boundText_iff {bound : Option Number} :
    Succeeds (boundText bound) ↔ ∃ n, bound = some n ∧ ¬ n.IsPastRange := by
  cases bound with
  | none => simp [boundText]
  | some n =>
    have hnone := Number.toBinary?_eq_none_iff (n := n)
    cases h : n.toBinary? <;>
      simp [boundText, Number.compactText?, Derived.ofOption, ← hnone, h]

theorem succeeds_message {rule : Rule} {type : ErrorType} (h : type.isNumeric = false) :
    Succeeds (rule.message type) := by
  cases type <;> first | exact ⟨_, rfl⟩ | cases h

theorem succeeds_message_minimum_iff {rule : Rule} :
    Succeeds (rule.message .minimum) ↔ ∃ n, rule.minimum = some n ∧ ¬ n.IsPastRange :=
  succeeds_bind_ok_iff.trans succeeds_boundText_iff

theorem succeeds_message_maximum_iff {rule : Rule} :
    Succeeds (rule.message .maximum) ↔ ∃ n, rule.maximum = some n ∧ ¬ n.IsPastRange :=
  succeeds_bind_ok_iff.trans succeeds_boundText_iff

theorem succeeds_message_step_iff {rule : Rule} :
    Succeeds (rule.message .step) ↔ ∃ n, rule.step = some n ∧ ¬ n.IsPastRange :=
  succeeds_bind_ok_iff.trans succeeds_boundText_iff

/-! ## Validators -/

theorem succeeds_boundCheck_iff {α : Type} {rule : Rule} {bound : Option α} {type : ErrorType}
    {check : α → String → ZodCheck} :
    Succeeds (rule.boundCheck bound type check) ↔ ∀ b, bound = some b → Succeeds (rule.message type) := by
  cases bound with
  | none => simp [boundCheck]
  | some b => simpa [boundCheck] using succeeds_bind_ok_iff

theorem succeeds_boundCheck {α : Type} {rule : Rule} {bound : Option α} {type : ErrorType}
    {check : α → String → ZodCheck} (h : type.isNumeric = false) :
    Succeeds (rule.boundCheck bound type check) :=
  succeeds_boundCheck_iff.2 fun _ _ => succeeds_message h

theorem effectiveStep_eq_some {rule : Rule} {s : Number} (h : rule.effectiveStep = some s) :
    rule.step = some s := (Option.filter_eq_some_iff.1 h).1

theorem succeeds_numberZod_iff {rule : Rule} :
    Succeeds rule.numberZod ↔ rule.HasShowableBounds := by
  have hzod : Succeeds rule.numberZod ↔
      (∀ n, rule.minimum = some n → ¬ n.IsPastRange) ∧ (∀ n, rule.maximum = some n → ¬ n.IsPastRange) ∧
        ∀ n, rule.effectiveStep = some n → ¬ n.IsPastRange := by
    unfold numberZod
    refine (succeeds_bind_iff fun _ => succeeds_bind_iff fun _ => succeeds_bind_ok_iff).trans ?_
    refine and_congr ?_ (and_congr ?_ ?_) <;>
      refine succeeds_boundCheck_iff.trans (forall_congr' fun n => imp_congr_right fun hn => ?_)
    · rw [succeeds_message_minimum_iff, hn]
      simp
    · rw [succeeds_message_maximum_iff, hn]
      simp
    · rw [succeeds_message_step_iff, effectiveStep_eq_some hn]
      simp
  rw [hzod]
  exact ⟨fun ⟨hmin, hmax, hstep⟩ => ⟨hmin, hmax, hstep⟩, fun ⟨hmin, hmax, hstep⟩ => ⟨hmin, hmax, hstep⟩⟩

/-- A validator that speaks of no number is always there. -/
theorem succeeds_zod_of_ne_number {rule : Rule} (h : rule.kind ≠ .number) : Succeeds rule.zod := by
  have hcheck : ∀ {condition : Bool} {type : ErrorType} {check : String → ZodCheck},
      type.isNumeric = false → Succeeds (rule.checkIf condition type check) :=
    fun htype => succeeds_boundCheck htype
  have htext : Succeeds rule.textZod := by
    refine succeeds_bind (hcheck rfl) fun _ => succeeds_bind (succeeds_boundCheck rfl) fun _ => ?_
    refine succeeds_bind (succeeds_boundCheck rfl) fun _ => ?_
    exact succeeds_bind (succeeds_boundCheck rfl) fun _ => succeeds_bind_ok_iff.2 (hcheck rfl)
  unfold zod
  cases hkind : rule.kind with
  | number => exact absurd hkind h
  | string => exact htext
  | date => exact htext
  | boolean => exact succeeds_bind_ok_iff.2 (hcheck rfl)
  | array =>
    refine succeeds_bind (hcheck rfl) fun _ => succeeds_bind (succeeds_boundCheck rfl) fun _ => ?_
    exact succeeds_bind_ok_iff.2 (succeeds_boundCheck rfl)
  | any => exact succeeds_bind_ok_iff.2 (hcheck rfl)

/-- **A rule has a validator** exactly when its bounds can be shown; only a number has such
bounds. -/
theorem succeeds_zod_iff {rule : Rule} :
    Succeeds rule.zod ↔ (rule.kind = .number → rule.HasShowableBounds) := by
  by_cases hkind : rule.kind = .number
  · rw [zod, hkind]
    simpa using succeeds_numberZod_iff
  · simpa [hkind] using succeeds_zod_of_ne_number hkind

theorem succeeds_declarationLine_iff {rule : Rule} :
    Succeeds rule.declarationLine ↔ (rule.kind = .number → rule.HasShowableBounds) :=
  succeeds_bind_ok_iff.trans (succeeds_bind_ok_iff.trans succeeds_zod_iff)

end Rule

theorem Spec.succeeds_declaration_iff {spec : Spec} {constant : String} :
    Succeeds (spec.declaration constant) ↔
      ∀ rule ∈ spec.rules, rule.kind = .number → rule.HasShowableBounds := by
  unfold Spec.declaration
  dsimp only
  split
  · next h => simp [h]
  · refine succeeds_bind_ok_iff.trans (succeeds_mapM_iff.trans ?_)
    simp only [Rule.succeeds_declarationLine_iff]

/-! ## The rules of a form -/

/-- Only the rule of a number has bounds that are numbers. -/
theorem Field.hasShowableBounds_rule {variants : VariantTable} {f : Field}
    (h : (f.rule variants).kind ≠ .number) : (f.rule variants).HasShowableBounds := by
  unfold Field.rule at h ⊢
  split at h
  · next handler _ =>
    cases handler with
    | number style => exact absurd rfl h
    | _ => constructor <;> exact fun _ h => nomatch h
  · constructor <;> exact fun _ h => nomatch h

/-- **A form has a source** exactly when the bounds of its rules can be shown. -/
theorem Form.succeeds_source_iff {variants : VariantTable} {library : Library} {form : Form} :
    Succeeds (form.source variants library) ↔
      ∀ f ∈ form.fields, (f.rule variants).HasShowableBounds := by
  have hdeclaration : Succeeds (form.source variants library) ↔
      Succeeds ((form.spec variants).declaration Spec.standardConstant) :=
    succeeds_bind_ok_iff.trans succeeds_bind_ok_iff
  rw [hdeclaration, Spec.succeeds_declaration_iff]
  simp only [Form.spec, List.forall_mem_map]
  refine forall_congr' fun f => imp_congr_right fun _ => ?_
  by_cases hkind : (f.rule variants).kind = .number
  · simp [hkind]
  · simpa [hkind] using Field.hasShowableBounds_rule hkind

end FormStudio
