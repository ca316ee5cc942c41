import FormStudio.Number.Decimal

/-!
# Decimal numerals read back

Which binary number a decimal numeral is read as depends on its value alone: a factor of ten may
move between the coefficient and the exponent (`Binary64.ofDecimal_mul_ten`). Every finite number is
read from the numeral of all its digits (`Binary64.ofDecimal_exact`), so the search for the shortest
numeral ends with one that is read as the number, whether it finds a short one or not
(`Decimal.ofDecimal_shortest`).
-/
namespace FormStudio

/-! ## Rounding a quotient -/

theorem roundHalfEven_mul_mul (num den : Nat) {k : Nat} (hk : 0 < k) :
    roundHalfEven (num * k) (den * k) = roundHalfEven num den := by
  have hlt : 2 * (num % den * k) < den * k ↔ 2 * (num % den) < den := by
    rw [← Nat.mul_assoc]
    exact Nat.mul_lt_mul_right hk
  have heq : 2 * (num % den * k) = den * k ↔ 2 * (num % den) = den := by
    rw [← Nat.mul_assoc]
    exact Nat.mul_left_inj (Nat.ne_of_gt hk)
  simp only [roundHalfEven, Nat.mul_div_mul_right _ _ hk, Nat.mul_mod_mul_right, hlt, heq]

namespace Binary64

theorem ofUnits_mul_mul (negative : Bool) (num den : Nat) {k : Nat} (hk : 0 < k) :
    ofUnits negative (num * k) (den * k) = ofUnits negative num den := by
  have hround : ∀ e : Nat,
      roundHalfEven (num * k) (den * k * 2 ^ e) = roundHalfEven num (den * 2 ^ e) := by
    intro e
    rw [Nat.mul_right_comm, roundHalfEven_mul_mul _ _ hk]
  simp only [ofUnits, Nat.mul_div_mul_right _ _ hk, hround]

theorem ofRatio_mul_mul (negative : Bool) (num den : Nat) {k : Nat} (hk : 0 < k) :
    ofRatio negative (num * k) (den * k) = ofRatio negative num den := by
  rw [ofRatio, Nat.mul_right_comm, ofUnits_mul_mul _ _ _ hk, ofRatio]

theorem exponentFor_mul_two_pow {mantissa exponent : Nat} (hm : mantissa < 2 ^ 53)
    (he : exponent = 0 ∨ 2 ^ 52 ≤ mantissa) :
    exponentFor (mantissa * 2 ^ exponent) = exponent := by
  unfold exponentFor
  rcases he with rfl | he
  · by_cases hz : mantissa = 0
    · simp [hz]
    · have : Nat.log2 mantissa < 53 := (Nat.log2_lt hz).2 hm
      simpa using Nat.sub_eq_zero_of_le (Nat.le_of_lt_succ this)
  · have hz : mantissa ≠ 0 := by
      rintro rfl
      exact absurd he (by decide)
    have hlog : Nat.log2 mantissa = 52 := (Nat.log2_eq_iff hz).2 ⟨he, hm⟩
    have hmul : Nat.log2 (mantissa * 2 ^ exponent) = 52 + exponent := by
      refine (Nat.log2_eq_iff (Nat.mul_ne_zero hz (Nat.ne_of_gt (Nat.two_pow_pos _)))).2 ⟨?_, ?_⟩
      · rw [Nat.pow_add]
        exact Nat.mul_le_mul_right _ he
      · rw [Nat.add_right_comm, Nat.pow_add]
        exact Nat.mul_lt_mul_of_pos_right hm (Nat.two_pow_pos _)
    omega

/-- A quotient that is a number is rounded to it. -/
theorem ofUnits_of_eq_mul (negative : Bool) (mantissa exponent : Nat)
    (canonical : mantissa < 2 ^ 53 ∧ exponent ≤ 2045 ∧ (exponent = 0 ∨ 2 ^ 52 ≤ mantissa))
    {num den : Nat} (hden : 0 < den) (hnum : num = mantissa * 2 ^ exponent * den) :
    ofUnits negative num den = .finite negative mantissa exponent canonical := by
  subst hnum
  have hexp : exponentFor (mantissa * 2 ^ exponent * den / den) = exponent := by
    rw [Nat.mul_div_cancel _ hden, exponentFor_mul_two_pow canonical.1 canonical.2.2]
  have hround : roundHalfEven (mantissa * 2 ^ exponent * den) (den * 2 ^ exponent) = mantissa := by
    rw [Nat.mul_assoc, Nat.mul_comm den, roundHalfEven_mul _ (Nat.mul_pos (Nat.two_pow_pos _) hden)]
  have hne : mantissa ≠ 2 ^ 53 := Nat.ne_of_lt canonical.1
  simp only [ofUnits, hexp, hround, hne, canonical.2.1, dite_true, dite_false]

/-! ## Counting digits -/

theorem digitCount_le_iff {n k : Nat} (hk : 0 < k) : digitCount n ≤ k ↔ n < 10 ^ k :=
  Nat.length_toDigits_le_iff (by decide) hk

theorem digitCount_mul_ten {n : Nat} (hn : n ≠ 0) : digitCount (n * 10) = digitCount n + 1 := by
  have h := Nat.toDigits_append_toDigits (b := 10) (n := n) (d := 0) (by decide)
    (Nat.pos_of_ne_zero hn) (by decide)
  have hlen := congrArg List.length h
  rw [List.length_append, Nat.toDigits_zero, Nat.add_zero, Nat.mul_comm] at hlen
  exact hlen.symm

/-! ## Reading a numeral -/

/-- **A factor of ten** may stand in the coefficient or in the exponent. -/
theorem ofDecimal_mul_ten (negative : Bool) (coefficient : Nat) (exponent : Int) :
    ofDecimal negative (coefficient * 10) exponent =
      ofDecimal negative coefficient (exponent + 1) := by
  by_cases hc : coefficient = 0
  · simp [ofDecimal, hc]
  have hsize : ((digitCount (coefficient * 10) : Nat) : Int) + exponent =
      (digitCount coefficient : Int) + (exponent + 1) := by
    rw [digitCount_mul_ten hc]
    omega
  simp only [ofDecimal, hsize, Nat.mul_eq_zero, hc, Nat.reduceEqDiff, false_or, or_self]
  -- the sizes agree, so both numerals are settled by them or both are rounded
  split
  · rfl
  split
  · rfl
  rcases Int.lt_trichotomy exponent (-1) with h | rfl | h
  · obtain ⟨n, rfl⟩ : ∃ n : Nat, exponent = -((n + 2 : Nat) : Int) :=
      ⟨(-exponent - 2).toNat, by omega⟩
    have hpow : 10 ^ (n + 2) = 10 ^ (n + 1) * 10 := Nat.pow_succ ..
    rw [if_pos (by omega), if_pos (by omega), Int.natAbs_neg, Int.natAbs_natCast,
      show (-((n + 2 : Nat) : Int) + 1).natAbs = n + 1 by omega, hpow,
      ofRatio_mul_mul _ _ _ (by decide)]
  · simpa using ofRatio_mul_mul negative coefficient 1 (k := 10) (by decide)
  · rw [if_neg (by omega), if_neg (by omega),
      show (exponent + 1).toNat = exponent.toNat + 1 by omega, Nat.pow_succ, Nat.mul_assoc,
      Nat.mul_comm 10]

theorem ofDecimal_mul_ten_pow (negative : Bool) (coefficient : Nat) (exponent : Int) (k : Nat) :
    ofDecimal negative (coefficient * 10 ^ k) exponent =
      ofDecimal negative coefficient (exponent + k) := by
  induction k generalizing exponent with
  | zero => simp
  | succ k ih =>
    rw [Nat.pow_succ, ← Nat.mul_assoc, ofDecimal_mul_ten, ih, Int.add_assoc]
    congr 2
    omega

/-! ## The numeral of all digits -/

theorem mul_two_pow_lt {mantissa exponent width most : Nat} (hm : mantissa < 2 ^ width)
    (he : exponent ≤ most) : mantissa * 2 ^ exponent < 2 ^ (width + most) :=
  calc mantissa * 2 ^ exponent
      < 2 ^ width * 2 ^ exponent := Nat.mul_lt_mul_of_pos_right hm (Nat.two_pow_pos _)
    _ ≤ 2 ^ width * 2 ^ most := Nat.mul_le_mul_left _ (Nat.pow_le_pow_right (by decide) he)
    _ = 2 ^ (width + most) := (Nat.pow_add 2 width most).symm

theorem five_pow_mul_two_pow (n : Nat) : 5 ^ n * 2 ^ n = 10 ^ n := by
  rw [← Nat.mul_pow]

theorem five_pow_mul_binaryUnit : 5 ^ 1074 * binaryUnit = 10 ^ 1074 := by
  unfold binaryUnit
  generalize 1074 = n
  exact five_pow_mul_two_pow n

/-- The size of the numeral of all digits is in the range that is rounded. -/
theorem digitCount_exact_bounds {units : Nat} (hpos : 0 < units) (hlt : units < 2 ^ (53 + 2045)) :
    744 ≤ digitCount (units * 5 ^ 1074) ∧ digitCount (units * 5 ^ 1074) ≤ 1384 := by
  have hfive : 0 < 5 ^ 1074 := by decide +kernel
  have hlow : 10 ^ 743 ≤ 5 ^ 1074 := by decide +kernel
  have hhigh : 2 ^ (53 + 2045) * 5 ^ 1074 ≤ 10 ^ 1384 := by decide +kernel
  generalize 5 ^ 1074 = five at hfive hlow hhigh ⊢
  constructor
  · refine Nat.lt_of_not_le fun h => ?_
    have hsmall := (digitCount_le_iff (k := 743) (by decide)).1 h
    exact Nat.not_le.2 (Nat.lt_of_lt_of_le hsmall hlow) (Nat.le_mul_of_pos_left five hpos)
  · refine (digitCount_le_iff (by decide)).2 ?_
    exact Nat.lt_of_lt_of_le (Nat.mul_lt_mul_of_pos_right hlt hfive) hhigh

/-- **Every finite number is read from all its digits.** -/
theorem ofDecimal_exact (negative : Bool) (mantissa exponent : Nat)
    (canonical : mantissa < 2 ^ 53 ∧ exponent ≤ 2045 ∧ (exponent = 0 ∨ 2 ^ 52 ≤ mantissa))
    (hm : mantissa ≠ 0) :
    ofDecimal negative (mantissa * 2 ^ exponent * 5 ^ 1074) (-1074) =
      .finite negative mantissa exponent canonical := by
  have hpos : 0 < mantissa * 2 ^ exponent :=
    Nat.mul_pos (Nat.pos_of_ne_zero hm) (Nat.two_pow_pos _)
  have hlt := mul_two_pow_lt canonical.1 canonical.2.1
  obtain ⟨hlow, hhigh⟩ := digitCount_exact_bounds hpos hlt
  have hc : mantissa * 2 ^ exponent * 5 ^ 1074 ≠ 0 :=
    Nat.ne_of_gt (Nat.mul_pos hpos (by decide +kernel))
  have hnum : mantissa * 2 ^ exponent * 5 ^ 1074 * binaryUnit =
      mantissa * 2 ^ exponent * 10 ^ 1074 :=
    (Nat.mul_assoc ..).trans (congrArg _ five_pow_mul_binaryUnit)
  have habs : (-1074 : Int).natAbs = 1074 := rfl
  simp only [ofDecimal, hc, false_or]
  rw [if_neg (by omega), if_neg (by omega), if_pos (by decide), habs, ofRatio]
  exact ofUnits_of_eq_mul negative mantissa exponent canonical (by decide +kernel) hnum

end Binary64

namespace Decimal

open Binary64

/-! ## The shortest numeral -/

theorem ofDecimal_dropZeros (negative : Bool) (fuel : Nat) (d : Decimal) :
    ofDecimal negative (dropZeros fuel d).coefficient (dropZeros fuel d).exponent =
      ofDecimal negative d.coefficient d.exponent := by
  induction fuel generalizing d with
  | zero => rfl
  | succ fuel ih =>
    unfold dropZeros
    split
    · next h =>
      rw [ih, ← ofDecimal_mul_ten, Nat.div_mul_cancel (Nat.dvd_of_mod_eq_zero h.2)]
    · rfl

/-- **The shortest numeral is read as the number.** -/
theorem ofDecimal_shortest (negative : Bool) (mantissa exponent : Nat)
    (canonical : mantissa < 2 ^ 53 ∧ exponent ≤ 2045 ∧ (exponent = 0 ∨ 2 ^ 52 ≤ mantissa))
    (hm : mantissa ≠ 0) :
    let x := Binary64.finite negative mantissa exponent canonical
    let d := shortest negative x (mantissa * 2 ^ exponent)
    ofDecimal negative d.coefficient d.exponent = x := by
  intro x d
  have hread : ∀ found : Option Decimal, (∀ e, found = some e → readsAs negative x e = true) →
      ofDecimal negative (found.getD (exact (mantissa * 2 ^ exponent))).coefficient
        (found.getD (exact (mantissa * 2 ^ exponent))).exponent = x := by
    intro found h
    cases found with
    | none => exact ofDecimal_exact negative mantissa exponent canonical hm
    | some e => simpa [readsAs] using h e rfl
  show ofDecimal negative (reduced _).coefficient (reduced _).exponent = x
  rw [reduced, ofDecimal_dropZeros]
  refine hread _ fun e h => ?_
  obtain ⟨n, -, hn⟩ := List.exists_of_findSome?_eq_some h
  exact List.find?_some hn

theorem coefficient_shortest_ne_zero (negative : Bool) (mantissa exponent : Nat)
    (canonical : mantissa < 2 ^ 53 ∧ exponent ≤ 2045 ∧ (exponent = 0 ∨ 2 ^ 52 ≤ mantissa))
    (hm : mantissa ≠ 0) :
    (shortest negative (.finite negative mantissa exponent canonical)
      (mantissa * 2 ^ exponent)).coefficient ≠ 0 := by
  intro h
  have hread := ofDecimal_shortest negative mantissa exponent canonical hm
  simp only [h, ofDecimal, true_or, if_true, signedZero] at hread
  exact hm (Binary64.finite.inj hread).2.1.symm

end Decimal

end FormStudio
