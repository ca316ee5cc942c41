import FormStudio.Preview.Widget
import FormStudio.Proofs.Form.Told

/-!
# Positions of a slider

A slider counts its steps from its least number, while the rule for its answer counts them from
zero. So the rule accepts the positions of a slider where the least number is a multiple of the
step, and otherwise none of them, the one that the field starts with included
(`Field.check_position_iff`).
-/
namespace FormStudio

/-- The integers that an input offers: whole steps behind its least one, up to its greatest. -/
def Rendering.Offers (shown : Rendering) (i : Int) : Prop :=
  ∃ (least most step : Int) (k : Nat),
    Table.get? "min" shown.properties = some (.int least) ∧
      Table.get? "max" shown.properties = some (.int most) ∧
      Table.get? "step" shown.properties = some (.int step) ∧ i = least + k * step ∧ i ≤ most

theorem Number.isZero_int_iff {i : Int} : (Number.int i).isZero = true ↔ i = 0 := by
  have hunit : (binaryUnit : Int) ≠ 0 := Int.natCast_ne_zero.2 binaryUnit_pos.ne'
  rw [isZero, decide_eq_true_iff, place?, Option.some.injEq, Place.point.injEq, Int.mul_eq_zero,
    or_iff_left hunit]

namespace Field

variable {f : Field} {least most step : Int}

/-- The input for a slider offers what its bounds and its step say. -/
theorem offers_renderSlider_iff (hmin : f.min = some (.int least)) (hmax : f.max = some (.int most))
    (hstep : f.step = some (.int step)) {value : Json} {shown : Rendering}
    (h : Widget.slider.render f value = .ok shown) (i : Int) :
    shown.Offers i ↔ ∃ k : Nat, i = least + k * step ∧ i ≤ most := by
  obtain ⟨text, -, rfl⟩ :
      ∃ text, value.shownText = .ok text ∧ Widget.renderSlider f text = shown := by
    cases htext : value.shownText with
    | error e =>
      rw [Widget.render, htext] at h
      cases h
    | ok text =>
      rw [Widget.render, htext] at h
      cases h
      exact ⟨text, rfl, rfl⟩
  generalize hshown : (Widget.renderSlider f text).properties = properties
  have hminimum : Table.get? "min" properties = some (.int least) := by
    simp [← hshown, Widget.renderSlider, Widget.shownByInput, Widget.named, Widget.bound, hmin,
      Json.int]
  have hmaximum : Table.get? "max" properties = some (.int most) := by
    simp [← hshown, Widget.renderSlider, Widget.shownByInput, Widget.named, Widget.bound, hmax,
      Json.int]
  have hstepping : Table.get? "step" properties = some (.int step) := by
    simp [← hshown, Widget.renderSlider, Widget.shownByInput, Widget.named, Widget.bound, hstep,
      Json.int]
  have hunique : ∀ bound j : Int, some (Json.int bound) = some (.int j) ↔ j = bound := by
    simp [Json.int, eq_comm]
  simp [Rendering.Offers, hshown, hminimum, hmaximum, hstepping, hunique]

theorem handler_of_slider (hvariant : f.variant = "Slider") :
    Handler.builtin.get? f.variant = some (.number .slider) := by
  rw [hvariant]
  rfl

/-- A slider without a number of its own starts at its least one. -/
theorem startValue_slider (hvariant : f.variant = "Slider") (hmin : f.min = some (.int least))
    (hvalue : ∀ n, f.value ≠ some (.number n)) :
    f.startValue Handler.builtin = .number (.int least) := by
  rw [startValue, handler_of_slider hvariant]
  unfold Handler.startValue
  cases hown : f.value with
  | none => simp [Handler.kind, hmin]
  | some own =>
    cases own with
    | number n => exact absurd hown (hvalue n)
    | _ => simp [Handler.kind, hmin]

/-- A rule for a slider accepts the integers between its bounds that are multiples of the step. -/
theorem check_int_iff (hvariant : f.variant = "Slider") (hmin : f.min = some (.int least))
    (hmax : f.max = some (.int most)) (hstep : f.step = some (.int step)) (hpos : 0 < step)
    (i : Int) :
    (f.rule Handler.builtin).check (some (.num (.int i))) = .ok [] ↔
      (least ≤ i ∧ i ≤ most) ∧ step ∣ i := by
  have hzero : (Number.int step).isZero = false := by
    rw [← Bool.not_eq_true, Number.isZero_int_iff]
    exact hpos.ne'
  rw [check_eq_nil_iff, handler_of_slider hvariant]
  show (∃ n, Json.num (.int i) = .num n ∧ f.IsSize Number.IsMultipleOf n) ↔ _
  simp only [Json.num.injEq, exists_eq_left']
  constructor
  · intro h
    have hleast := h.least _ hmin
    have hmost := h.most _ hmax
    exact ⟨⟨(Number.le_int_iff _ _).1 hleast, (Number.le_int_iff _ _).1 hmost⟩,
      h.step _ hstep hzero⟩
  · rintro ⟨⟨hleast, hmost⟩, hdvd⟩
    refine ⟨?_, ?_, ?_⟩
    · intro bound hbound
      rw [hmin] at hbound
      cases hbound
      exact (Number.le_int_iff _ _).2 hleast
    · intro bound hbound
      rw [hmax] at hbound
      cases hbound
      exact (Number.le_int_iff _ _).2 hmost
    · intro s hs _
      rw [hstep] at hs
      cases hs
      exact hdvd

/-- **A rule for a slider counts from zero.** The positions of the slider are counted from its least
number: the rule accepts them where that is a multiple of the step, and else not even the one that
the field starts with. -/
theorem check_position_iff (hvariant : f.variant = "Slider") (hmin : f.min = some (.int least))
    (hmax : f.max = some (.int most)) (hstep : f.step = some (.int step)) (hpos : 0 < step)
    (hle : least ≤ most) :
    (∀ value shown, Widget.slider.render f value = .ok shown →
        ∀ i, shown.Offers i ↔ ∃ k : Nat, i = least + k * step ∧ i ≤ most) ∧
      (∀ k : Nat, least + k * step ≤ most →
        ((f.rule Handler.builtin).check (some (.num (.int (least + k * step)))) = .ok [] ↔
          step ∣ least)) ∧
      ((∀ n, f.value ≠ some (.number n)) →
        ((f.rule Handler.builtin).check (some (f.startValue Handler.builtin).toJson) = .ok [] ↔
          step ∣ least)) := by
  have hposition : ∀ k : Nat, least + k * step ≤ most →
      ((f.rule Handler.builtin).check (some (.num (.int (least + k * step)))) = .ok [] ↔
        step ∣ least) := by
    intro k hk
    have hleast : least ≤ least + k * step :=
      Int.le_add_of_nonneg_right (Int.mul_nonneg (Int.natCast_nonneg k) hpos.le)
    rw [check_int_iff hvariant hmin hmax hstep hpos, and_iff_right ⟨hleast, hk⟩,
      Int.dvd_add_left (Int.dvd_mul_left _ _)]
  refine ⟨fun value shown h => offers_renderSlider_iff hmin hmax hstep h, hposition,
    fun hvalue => ?_⟩
  rw [startValue_slider hvariant hmin hvalue]
  simpa [FieldValue.toJson] using hposition 0 (by simpa using hle)

/-- A slider from one to ten with steps of two starts at a position that its rule refuses. -/
theorem check_position_of_odd_least :
    let f : Field := { stepped (.int 2) with min := some (.int 1), max := some (.int 10) }
    Form.ofText ("[\x7b\"variant\":\"Slider\",\"name\":\"a\"," ++
        "\"min\":1,\"max\":10,\"step\":2\x7d]") = .ok [.field f] ∧
      (0 < (2 : Int) ∧ (1 : Int) ≤ 10) ∧
      (1 : Int) + (1 : Nat) * 2 ≤ 10 ∧ (∀ n, f.value ≠ some (.number n)) ∧
      (f.rule Handler.builtin).check (some (.int (1 + (1 : Nat) * 2))) ≠ .ok [] ∧
      (f.rule Handler.builtin).check (some (f.startValue Handler.builtin).toJson) ≠ .ok [] := by
  intro f
  have hodd : ¬ (2 : Int) ∣ 1 := by decide
  have hvalue : ∀ n, f.value ≠ some (.number n) := nofun
  obtain ⟨-, hposition, hstart⟩ :=
    check_position_iff (f := f) rfl rfl rfl rfl (by decide) (by decide)
  exact ⟨toOption_eq_some_iff.1 (by decide +kernel), by decide, by decide, hvalue,
    fun h => hodd ((hposition 1 (by decide)).1 h), fun h => hodd ((hstart hvalue).1 h)⟩

end Field

end FormStudio
