import FormStudio.Proofs.Form.RoundTrip
import FormStudio.Proofs.Rule.Check
import FormStudio.Review

/-!
# When derivation fails

Integers past the range of binary numbers are what stands between an imported form and what is
derived from it: a bound of a number that no sentence can show, or an answer that no step can
divide. A form with such a bound has no source at all, whatever its other fields are, and its review
fails; a review also fails where half of a surrogate pair is left in the form, since there are no
bytes to take a fingerprint of (`Review.notDerived_iff`). A control without code only leaves a
comment in its place.
-/
namespace FormStudio

/-! ## The rule of a field -/

namespace Field

variable {variants : VariantTable} {f : Field}

/-- Whether the answers to a field are numbers. -/
def AsksForNumber (variants : VariantTable) (f : Field) : Prop := (f.rule variants).kind = .number

/-- Whether no bound of a field is past the range. -/
structure IsInRange (f : Field) : Prop where
  min : ∀ m, f.min = some m → ¬ m.IsPastRange
  max : ∀ m, f.max = some m → ¬ m.IsPastRange
  step : ∀ s, f.step = some s → ¬ s.IsPastRange

/-- Whether a number gets through the bounds of a field: those past the range are met by it, and it
is itself finite and in the range where the step is a binary number. -/
structure Judges (f : Field) (n : Number) : Prop where
  min : ∀ m, f.min = some m → m.IsPastRange → m.le n = true
  max : ∀ m, f.max = some m → m.IsPastRange → n.le m = true
  step : ∀ k, f.step = some (.int k) → (Number.int k).IsPastRange → ∃ i, n = .int i ∧ i % k = 0
  answer : ∀ x, f.step = some (.float x) → (Number.float x).isZero = false →
    ¬ n.IsPastRange ∧ n.isFinite = true ∧ x ≠ .nan

@[simp] theorem name_rule : (f.rule variants).name = f.name := by
  unfold Field.rule
  split
  · next handler _ => cases handler <;> rfl
  · rfl

theorem bounds_rule (h : f.AsksForNumber variants) :
    (f.rule variants).minimum = f.min ∧ (f.rule variants).maximum = f.max ∧
      (f.rule variants).step = f.step := by
  unfold AsksForNumber at h
  unfold Field.rule at h ⊢
  split at h
  · next handler _ =>
    cases handler with
    | number style => exact ⟨rfl, rfl, rfl⟩
    | _ => cases h
  · cases h

theorem effectiveStep_rule (h : f.AsksForNumber variants) :
    (f.rule variants).effectiveStep = f.step.filter fun s => !s.isZero := by
  rw [Rule.effectiveStep, (bounds_rule h).2.2]

theorem hasShowableBounds_rule_iff (h : f.AsksForNumber variants) :
    (f.rule variants).HasShowableBounds ↔ f.IsInRange := by
  obtain ⟨hmin, hmax, -⟩ := bounds_rule h
  constructor
  · rintro ⟨hleast, hmost, hstep⟩
    refine ⟨hmin ▸ hleast, hmax ▸ hmost, fun s hs hpast => hstep s ?_ hpast⟩
    rw [effectiveStep_rule h, hs]
    simp [Number.isZero_of_isPastRange hpast]
  · rintro ⟨hleast, hmost, hstep⟩
    refine ⟨hmin ▸ hleast, hmax ▸ hmost, fun s hs => hstep s ?_⟩
    rw [effectiveStep_rule h] at hs
    exact (Option.filter_eq_some_iff.1 hs).1

theorem judges_rule_iff (h : f.AsksForNumber variants) {n : Number} :
    (f.rule variants).Judges n ↔ f.Judges n := by
  obtain ⟨hmin, hmax, -⟩ := bounds_rule h
  have hstep : (∀ s, (f.rule variants).effectiveStep = some s → n.PassesStep s) ↔
      ∀ s, f.step = some s → s.isZero = false → n.PassesStep s := by
    rw [effectiveStep_rule h]
    simp [Option.filter_eq_some_iff]
  constructor
  · rintro ⟨hleast, hmost, hpasses⟩
    refine ⟨hmin ▸ hleast, hmax ▸ hmost, fun k hk hpast => ?_, fun x hx hzero => ?_⟩
    · have hpass := hstep.1 hpasses _ hk (Number.isZero_of_isPastRange hpast)
      exact Number.passesStep_int_iff.1 hpass hpast
    · exact Number.passesStep_float_iff.1 (hstep.1 hpasses _ hx hzero)
  · rintro ⟨hleast, hmost, hdivided, hanswer⟩
    refine ⟨hmin ▸ hleast, hmax ▸ hmost, hstep.2 fun s hs hzero => ?_⟩
    cases s with
    | int k => exact Number.passesStep_int_iff.2 (hdivided k hs)
    | float x => exact Number.passesStep_float_iff.2 (hanswer x hs hzero)

end Field

/-! ## The patterns of a form -/

theorem Handler.isOk_read_pattern : ∀ entry ∈ Handler.builtin,
    ∀ written, entry.2.pattern = some written → (Pattern.read written).isOk = true := by
  decide +kernel

theorem Field.hasReadablePatterns_rule (f : Field) :
    (f.rule Handler.builtin).HasReadablePatterns := by
  have hpattern : ∀ written, (f.rule Handler.builtin).pattern = some written →
      (Pattern.read written).isOk = true := by
    intro written h
    unfold Field.rule at h
    split at h
    · next handler hget =>
      have hhandler : handler.pattern = some written := by
        cases handler <;> exact h
      exact Handler.isOk_read_pattern _ (Table.mem_of_get? hget) written hhandler
    · cases h
  have hblank : (Pattern.read nonBlankPattern).isOk = true := by decide +kernel
  have hdate : (Pattern.read datePattern).isOk = true := by decide +kernel
  intro written hwritten
  simp only [Rule.patterns, List.mem_append, Option.mem_toList, Option.filter_eq_some_iff] at hwritten
  obtain (h | ⟨h, -⟩) | h := hwritten
  · split at h
    · cases List.mem_singleton.1 h
      exact hblank
    · cases h
  · exact hpattern written h
  · split at h
    · cases List.mem_singleton.1 h
      exact hdate
    · cases h

/-! ## Forms -/

namespace Form

/-- Whether no bound of a number field is past the range. -/
def IsInRange (variants : VariantTable) (form : Form) : Prop :=
  ∀ f ∈ form.fields, f.AsksForNumber variants → f.IsInRange

variable {variants : VariantTable}

theorem defaults_eq {form : Form} (hnames : form.names.Nodup) :
    form.defaults variants = form.fields.map fun f => (f.name, (f.startValue variants).toJson) := by
  refine Table.ofPairs_of_nodup ?_
  rwa [Table.keys, List.map_map]

theorem succeeds_source_iff_isInRange {library : Library} {form : Form} :
    Succeeds (form.source variants library) ↔ form.IsInRange variants := by
  rw [succeeds_source_iff]
  refine forall_congr' fun f => imp_congr_right fun _ => ?_
  by_cases h : f.AsksForNumber variants
  · simpa [h] using Field.hasShowableBounds_rule_iff h
  · simpa [h] using Field.hasShowableBounds_rule h

theorem succeeds_validate_iff {form : Form} (hnames : form.names.Nodup) (data : Members) :
    Succeeds ((form.spec Handler.builtin).validate data) ↔
      ∀ f ∈ form.fields, f.AsksForNumber Handler.builtin →
        ∀ n, Table.get? f.name data = some (.num n) → f.Judges n := by
  rw [Spec.succeeds_validate_iff]
  · simp only [spec, List.forall_mem_map, Field.name_rule]
    refine forall_congr' fun f => imp_congr_right fun _ => ?_
    constructor
    · intro h hnumber n hget
      exact (Field.judges_rule_iff hnumber).1 (h n hnumber hget)
    · intro h n hnumber hget
      exact (Field.judges_rule_iff hnumber).2 (h hnumber n hget)
  · rw [spec_fieldNames]
    exact hnames
  · simp only [spec, List.forall_mem_map]
    exact fun f _ _ => f.hasReadablePatterns_rule

end Form

namespace Review

theorem succeeds_build_iff (studio : Studio) (library : Library) {form : Form}
    (h : form.IsRestorable) :
    Succeeds (Artifacts.build studio library form) ↔ form.IsInRange studio.variants := by
  obtain ⟨text, htext, -⟩ := h.ofText_text studio.config.indent
  unfold Artifacts.build
  rw [htext, ok_bind]
  exact succeeds_bind_ok_iff.trans Form.succeeds_source_iff_isInRange

theorem build_eq_error_iff (studio : Studio) (library : Library) {text : String} {form : Form}
    (h : Form.ofText text = .ok form) :
    (∃ e, build studio library text form = .error e) ↔
      Form.HoldsHalf text ∨ ¬ form.IsInRange studio.variants := by
  rw [← succeeds_build_iff studio library (Form.isRestorable_of_ofText h)]
  unfold build
  by_cases hhalf : Form.HoldsHalf text
  · simp [hhalf]
  · simp only [hhalf, if_false, false_or]
    cases Artifacts.build studio library form <;> simp

/-- **A review fails to be derived** exactly when its text is imported, and half of a surrogate pair
is left in the form or a bound is past the range. -/
theorem notDerived_iff {studio : Studio} {text : String} {choice : Option String} :
    (∃ e, ofText studio text choice = .error (.notDerived e)) ↔
      ∃ form, Form.ofText (trimText text) = .ok form ∧
        (Form.HoldsHalf (trimText text) ∨ ¬ form.IsInRange studio.variants) := by
  unfold ofText
  dsimp only
  split
  · next hempty =>
    have hnone : ∀ form, Form.ofText "" ≠ .ok form := by
      intro form h
      have hread : (Form.ofText "").toOption = none := by decide +kernel
      rw [h] at hread
      cases hread
    simp [hempty, hnone]
  · cases himport : Form.ofText (trimText text) with
    | error e => simp
    | ok form =>
      simp only [Except.ok.injEq, exists_eq_left']
      rw [← build_eq_error_iff studio (Library.resolve studio.config choice) himport]
      cases build studio (Library.resolve studio.config choice) (trimText text) form <;> simp

end Review

end FormStudio
