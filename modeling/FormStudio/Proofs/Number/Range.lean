import FormStudio.Number.Basic

/-!
# The range of binary numbers

An integer has a nearest binary number exactly when its magnitude stays below the middle between the
largest binary number and the next power of two (`Number.toBinary?_eq_none_iff`). Past that, it is
divided by integers alone and cannot be shown in short.
-/
namespace FormStudio

namespace Binary64

theorem exponentFor_le_iff {whole k : Nat} : exponentFor whole ≤ k ↔ whole < 2 ^ 53 * 2 ^ k := by
  unfold exponentFor
  rw [← Nat.pow_add]
  by_cases hz : whole = 0
  · subst hz
    exact iff_of_true (by simp) (Nat.two_pow_pos (53 + k))
  · rw [← Nat.log2_lt hz]
    omega

/-- At the largest exponent a magnitude is rounded past the largest mantissa from the middle on. -/
theorem roundHalfEven_eq_two_pow_iff {num half : Nat} (hhalf : 0 < half)
    (h : num < 2 ^ 54 * half) :
    roundHalfEven num (half * 2) = 2 ^ 53 ↔ (2 ^ 54 - 1) * half ≤ num := by
  have hdiv := Nat.div_add_mod num (half * 2)
  have hmod := Nat.mod_lt num (Nat.mul_pos hhalf (by decide : 0 < 2))
  have hq : num / (half * 2) < 2 ^ 53 := by
    rw [Nat.div_lt_iff_lt_mul (by omega)]
    omega
  unfold roundHalfEven
  generalize num / (half * 2) = q at hdiv hq
  generalize num % (half * 2) = r at hdiv hmod
  by_cases hlast : q = 2 ^ 53 - 1
  · subst hlast
    dsimp only
    split <;> omega
  · -- one step below the last quotient there is room for a whole step
    have hmul : half * 2 * q + half * 2 * 2 ≤ half * 2 * 2 ^ 53 := by
      rw [← Nat.mul_add]
      exact Nat.mul_le_mul_left _ (by omega)
    dsimp only
    split <;> omega

theorem ofUnits_eq_infinite_iff {negative : Bool} {num : Nat} :
    (∃ sign, ofUnits negative num 1 = .infinite sign) ↔ (2 ^ 54 - 1) * 2 ^ 2044 ≤ num := by
  -- the exponent of half a step is kept apart from its value, which no step here computes
  generalize hk : 2044 = k
  have hlt : exponentFor num ≤ k ↔ num < 2 ^ 53 * 2 ^ k := exponentFor_le_iff
  have hle : exponentFor num ≤ k + 1 ↔ num < 2 ^ 54 * 2 ^ k := by
    rw [exponentFor_le_iff, Nat.pow_succ]
    omega
  have hlast : exponentFor num = 2045 → 2 ^ exponentFor num = 2 ^ k * 2 := by
    intro h
    rw [h, show 2045 = k + 1 by omega, Nat.pow_succ]
  have hhalf : 0 < 2 ^ k := Nat.two_pow_pos k
  generalize 2 ^ k = half at hle hlt hlast hhalf ⊢
  have hround : exponentFor num = 2045 →
      (roundHalfEven num (2 ^ exponentFor num) = 2 ^ 53 ↔ (2 ^ 54 - 1) * half ≤ num) := by
    intro h
    rw [hlast h]
    exact roundHalfEven_eq_two_pow_iff hhalf (hle.1 (by omega))
  have hfinite : ∀ {mantissa exponent canonical},
      ¬ ∃ sign, Binary64.finite negative mantissa exponent canonical = .infinite sign := by
    rintro _ _ _ ⟨sign, h⟩
    cases h
  unfold ofUnits
  simp only [Nat.div_one, Nat.one_mul]
  by_cases hmantissa : roundHalfEven num (2 ^ exponentFor num) = 2 ^ 53
  · simp only [hmantissa, dite_true]
    split
    · next he => exact iff_of_false hfinite (by omega)
    · next he =>
      refine iff_of_true ⟨negative, rfl⟩ ?_
      by_cases heq : exponentFor num = 2045
      · exact (hround heq).1 hmantissa
      · omega
  · simp only [hmantissa, dite_false]
    split
    · next he =>
      refine iff_of_false hfinite fun hnum => ?_
      by_cases heq : exponentFor num = 2045
      · exact hmantissa ((hround heq).2 hnum)
      · omega
    · next he => exact iff_of_true ⟨negative, rfl⟩ (by omega)

end Binary64

/-- The least magnitude of an integer without a nearest binary number, `2 ^ 1024 - 2 ^ 970`: the
middle between the largest binary number and the next power of two. -/
def integerBound : Nat := (2 ^ 54 - 1) * 2 ^ 970

theorem integerBound_pos : 0 < integerBound := by
  unfold integerBound
  generalize 970 = k
  exact Nat.mul_pos (by decide) (Nat.two_pow_pos k)

theorem integerBound_mul_binaryUnit : integerBound * binaryUnit = (2 ^ 54 - 1) * 2 ^ 2044 := by
  unfold integerBound binaryUnit
  generalize hk : 970 = k
  rw [show 2044 = k + 1074 by omega, Nat.pow_add, Nat.mul_assoc]

theorem Binary64.ofInt?_eq_none_iff_infinite {i : Int} :
    ofInt? i = none ↔ ∃ sign, ofRatio (decide (i < 0)) i.natAbs 1 = .infinite sign := by
  -- opened as a function: opened at a number, the quotient would be computed
  have hdef : ofInt? = ofInt? := rfl
  conv at hdef => rhs; delta ofInt?
  rw [hdef]
  dsimp only
  generalize ofRatio (decide (i < 0)) i.natAbs 1 = x
  cases x <;> simp

theorem Binary64.ofRatio_ne_nan (negative : Bool) (num den : Nat) :
    ofRatio negative num den ≠ .nan := by
  unfold ofRatio ofUnits
  dsimp only
  split <;> split <;> exact nofun

theorem Binary64.isFinite_of_ofInt? {i : Int} {x : Binary64} (h : ofInt? i = some x) :
    x.isFinite = true := by
  have hnan := ofRatio_ne_nan (decide (i < 0)) i.natAbs 1
  have hdef : ofInt? = ofInt? := rfl
  conv at hdef => rhs; delta ofInt?
  rw [hdef] at h
  dsimp only at h
  generalize ofRatio (decide (i < 0)) i.natAbs 1 = y at h hnan
  cases y with
  | finite =>
    cases h
    rfl
  | infinite => cases h
  | nan => exact absurd rfl hnan

/-- **An integer past the range** has no nearest binary number. -/
theorem Binary64.ofInt?_eq_none_iff {i : Int} : ofInt? i = none ↔ integerBound ≤ i.natAbs := by
  rw [ofInt?_eq_none_iff_infinite, ofRatio, ofUnits_eq_infinite_iff, ← integerBound_mul_binaryUnit]
  exact Nat.mul_le_mul_right_iff binaryUnit_pos

namespace Number

/-! ## Integers past the range -/

/-- Whether a number is an integer past the range of binary numbers. -/
def IsPastRange (n : Number) : Prop := ∃ i, n = .int i ∧ integerBound ≤ i.natAbs

theorem not_isPastRange_float {x : Binary64} : ¬ (float x).IsPastRange := by
  rintro ⟨i, h, -⟩
  cases h

theorem isZero_of_isPastRange {n : Number} (h : n.IsPastRange) : n.isZero = false := by
  obtain ⟨i, rfl, hi⟩ := h
  have hbound := integerBound_pos
  have hne : i * (binaryUnit : Int) ≠ 0 :=
    Int.mul_ne_zero (by omega) (Int.natCast_ne_zero.2 (Nat.ne_of_gt binaryUnit_pos))
  simp only [isZero, place?, Option.some.injEq, Place.point.injEq, hne, decide_false]

/-- Every number has a nearest binary number but the integers past the range. -/
theorem toBinary?_eq_none_iff {n : Number} : n.toBinary? = none ↔ n.IsPastRange := by
  cases n with
  | int i => simpa [toBinary?, IsPastRange] using Binary64.ofInt?_eq_none_iff
  | float x => simp [toBinary?, IsPastRange]

theorem isFinite_of_toBinary? {n : Number} {x : Binary64} (h : n.toBinary? = some x) :
    x.isFinite = n.isFinite := by
  cases n with
  | float y =>
    cases h
    rfl
  | int i => exact Binary64.isFinite_of_ofInt? h

/-! ## Division by a step -/

/-- Whether a number gets through a step: it can be divided, and a step that leaves a rest can be
shown. -/
def PassesStep (n step : Number) : Prop :=
  n.isMultipleOf? step = some true ∨ n.isMultipleOf? step = some false ∧ ¬ step.IsPastRange

/-- An integer step past the range lets only its integer multiples through. -/
theorem passesStep_int_iff {n : Number} {k : Int} :
    n.PassesStep (.int k) ↔ ((int k).IsPastRange → ∃ i, n = .int i ∧ i % k = 0) := by
  have hpast := toBinary?_eq_none_iff (n := .int k)
  unfold PassesStep
  cases n with
  | int i =>
    have hint : (∃ j, int i = int j ∧ j % k = 0) ↔ i % k = 0 := by simp
    rw [isMultipleOf?_int, hint]
    generalize i % k = rest
    by_cases hrest : rest = 0 <;> simp [hrest]
  | float x =>
    rw [← hpast]
    cases h : Binary64.ofInt? k <;> simp [isMultipleOf?, toBinary?, h]

theorem isMultipleOf?_float (n : Number) (y : Binary64) :
    n.isMultipleOf? (.float y) = n.toBinary?.bind fun x =>
      match x.quotient y with
      | .infinite _ => if n.isFinite then some (divides y.units n.units) else none
      | .nan => none
      | q => some q.isWhole := by
  cases n <;> rfl

/-- A quotient by a binary step is there for the finite numbers in the range, where the step is a
number. -/
theorem isMultipleOf?_float_eq_none_iff {n : Number} {y : Binary64} :
    n.isMultipleOf? (.float y) = none ↔ n.IsPastRange ∨ n.isFinite = false ∨ y = .nan := by
  rw [← toBinary?_eq_none_iff, isMultipleOf?_float]
  cases hbinary : n.toBinary? with
  | none => simp
  | some x =>
    rw [Option.bind_some, ← isFinite_of_toBinary? hbinary]
    cases x with
    | finite sign mantissa exponent canonical =>
      cases y with
      | finite sign' mantissa' exponent' canonical' =>
        have hquotient := Binary64.ofRatio_ne_nan (sign != sign') (mantissa * 2 ^ exponent)
          (mantissa' * 2 ^ exponent')
        rw [Binary64.quotient]
        split <;> simp_all [Binary64.isFinite]
      | infinite sign' => simp [Binary64.quotient, Binary64.signedZero, Binary64.isFinite]
      | nan => simp [Binary64.quotient]
    | infinite sign => cases y <;> simp [Binary64.quotient, Binary64.isFinite]
    | nan => simp [Binary64.quotient, Binary64.isFinite]

/-- A binary step that is a number lets every finite number through but the integers past the
range. -/
theorem passesStep_float_iff {n : Number} {y : Binary64} :
    n.PassesStep (.float y) ↔ ¬ n.IsPastRange ∧ n.isFinite = true ∧ y ≠ .nan := by
  have hnone : n.isMultipleOf? (.float y) ≠ none ↔
      ¬ n.IsPastRange ∧ n.isFinite = true ∧ y ≠ .nan := by
    rw [ne_eq, isMultipleOf?_float_eq_none_iff, not_or, not_or, Bool.not_eq_false]
  rw [← hnone]
  unfold PassesStep
  cases n.isMultipleOf? (.float y) with
  | none => simp
  | some divided => simp [not_isPastRange_float]

end Number

end FormStudio
