import FormStudio.Proofs.Number.Decimal
import FormStudio.Proofs.Number.Range

/-!
# Division by whole numbers

Whether a number is a multiple of a whole binary number is told by the rounded quotient, and of the
integer with the same value by exact division. Both say the same of a number that is neither too
large nor too close to zero (`Number.IsModerate`): the rest of such a number is not smaller than
what its mantissa leaves out of a quotient, so that rounding cannot hide it
(`dvd_of_rounded`). Of other numbers they need not say the same.
-/
namespace FormStudio

/-! ## A rounded quotient and the rest -/

/-- Rounding moves a quotient by half a step at most. -/
theorem roundHalfEven_near (num : Nat) {den : Nat} (hden : 0 < den) :
    2 * num ≤ 2 * (den * roundHalfEven num den) + den ∧
      2 * (den * roundHalfEven num den) ≤ 2 * num + den := by
  have hdiv := Nat.div_add_mod num den
  have hmod := Nat.mod_lt num hden
  unfold roundHalfEven
  generalize num / den = q at hdiv
  generalize num % den = r at hdiv hmod
  dsimp only
  split
  · omega
  · rw [Nat.mul_succ]
    omega

section Rest

variable {num den unit e k : Nat}

/-- The rounded quotient, multiplied by the divisor, where it is a whole number of units. -/
theorem mul_rounded (h : roundHalfEven (unit * num) (den * 2 ^ e) * 2 ^ e = unit * k) :
    den * 2 ^ e * roundHalfEven (unit * num) (den * 2 ^ e) = unit * (k * den) := by
  rw [Nat.mul_assoc, Nat.mul_comm (2 ^ e), h, Nat.mul_left_comm, Nat.mul_comm den]

/-- Where the quotient has a full mantissa, the rest is no more than what the mantissa leaves out,
which is less by one step if the quotient was rounded up. -/
theorem rest_le_of_rounded (hden : 0 < den) (hunit : 0 < unit)
    (hfull : 2 ^ 52 ≤ unit * num / (den * 2 ^ e))
    (h : roundHalfEven (unit * num) (den * 2 ^ e) * 2 ^ e = unit * k) :
    (∀ rest, num = k * den + rest → 2 ^ 53 * rest ≤ k * den) ∧
      ∀ rest, 0 < rest → k * den = num + rest → (2 ^ 53 + 2) * rest ≤ k * den := by
  have hstep : 0 < den * 2 ^ e := Nat.mul_pos hden (Nat.two_pow_pos e)
  have hmul := mul_rounded h
  obtain ⟨hlow, hhigh⟩ := roundHalfEven_near (unit * num) hstep
  have hquotient := (roundHalfEven_bounds (unit * num) (den * 2 ^ e)).1
  have hfloor := Nat.mul_div_le (unit * num) (den * 2 ^ e)
  generalize roundHalfEven (unit * num) (den * 2 ^ e) = m at *
  generalize unit * num / (den * 2 ^ e) = q at *
  generalize den * 2 ^ e = step at *
  have hmantissa : ∀ {least : Nat}, least ≤ m → step * least ≤ unit * (k * den) :=
    fun hle => hmul ▸ Nat.mul_le_mul_left step hle
  constructor
  · -- rounded down: the rest is at most half a step
    intro rest hrest
    have hfull := hmantissa (Nat.le_trans hfull hquotient)
    rw [hmul, hrest, Nat.mul_add] at hlow
    refine Nat.le_of_mul_le_mul_left ?_ hunit
    rw [Nat.mul_left_comm]
    omega
  · -- rounded up: then the mantissa is not the smallest full one
    intro rest hpos hrest
    have hup : q < m := by
      refine Nat.lt_of_mul_lt_mul_left (a := step) ?_
      rw [hmul, hrest, Nat.mul_add]
      exact Nat.lt_of_le_of_lt hfloor (Nat.lt_add_of_pos_right (Nat.mul_pos hunit hpos))
    have hfull := hmantissa (Nat.lt_of_le_of_lt hfull hup)
    rw [hmul, hrest, Nat.mul_add] at hhigh
    refine Nat.le_of_mul_le_mul_left ?_ hunit
    rw [Nat.mul_left_comm]
    rw [hrest, Nat.mul_add] at hfull ⊢
    omega

/-- **A rest is not rounded away**: where the dividend has fewer than 53 bits above a common divisor
and the quotient has a full mantissa, only a whole quotient is rounded to a whole number. -/
theorem dvd_of_rounded {common : Nat} (hden : 0 < den) (hunit : 0 < unit)
    (hnum : common ∣ num) (hcommon : common ∣ den) (hlt : num < 2 ^ 53 * common)
    (hfull : 2 ^ 52 ≤ unit * num / (den * 2 ^ e))
    (h : roundHalfEven (unit * num) (den * 2 ^ e) * 2 ^ e = unit * k) : den ∣ num := by
  obtain ⟨hbelow, habove⟩ := rest_le_of_rounded hden hunit hfull h
  have hmultiple : common ∣ k * den := Nat.dvd_mul_left_of_dvd hcommon k
  rcases Nat.lt_trichotomy num (k * den) with hless | heq | hmore
  · have hpos : 0 < k * den - num := Nat.sub_pos_of_lt hless
    have hrest := Nat.le_of_dvd hpos (Nat.dvd_sub hmultiple hnum)
    have hle := habove _ hpos (Nat.add_sub_of_le (Nat.le_of_lt hless)).symm
    omega
  · exact ⟨k, heq.trans (Nat.mul_comm k den)⟩
  · have hrest := Nat.le_of_dvd (Nat.sub_pos_of_lt hmore) (Nat.dvd_sub hnum hmultiple)
    have hle := hbelow _ (Nat.add_sub_of_le (Nat.le_of_lt hmore)).symm
    omega

end Rest

/-! ## Rounded quotients of binary numbers -/

namespace Binary64

/-- A rounded quotient is a mantissa and an exponent, if it is not past the largest number. -/
theorem ofUnits_cases (negative : Bool) (num den : Nat) :
    (∃ mantissa exponent canonical,
      ofUnits negative num den = .finite negative mantissa exponent canonical ∧
        mantissa * 2 ^ exponent =
          roundHalfEven num (den * 2 ^ exponentFor (num / den)) * 2 ^ exponentFor (num / den)) ∨
      ofUnits negative num den = .infinite negative ∧ 2045 ≤ exponentFor (num / den) := by
  unfold ofUnits
  dsimp only
  split
  · next hm =>
    split
    · next he =>
      refine .inl ⟨2 ^ 52, exponentFor (num / den) + 1, ⟨by decide, he, by simp⟩, rfl, ?_⟩
      generalize exponentFor (num / den) = e at hm ⊢
      rw [hm, Nat.pow_succ 2 e, Nat.mul_comm (2 ^ e), ← Nat.mul_assoc]
    · next he => exact .inr ⟨rfl, by omega⟩
  · next hm =>
    obtain ⟨hmost, hleast⟩ := mantissa_bounds num den
    split
    · next he => exact .inl ⟨_, _, ⟨Nat.lt_of_le_of_ne hmost hm, he, hleast⟩, rfl, rfl⟩
    · next he => exact .inr ⟨rfl, by omega⟩

theorem exponentFor_mul_binaryUnit_le {k : Nat} (hk : k < 2 ^ 53) :
    exponentFor (k * binaryUnit) ≤ 1074 := by
  unfold binaryUnit
  generalize 1074 = n
  exact exponentFor_le_iff.2 (Nat.mul_lt_mul_of_pos_right hk (Nat.two_pow_pos n))

/-- A whole number below `2 ^ 53` leaves nothing out at its exponent. -/
theorem two_pow_exponentFor_dvd {k : Nat} (hk : k < 2 ^ 53) :
    2 ^ exponentFor (k * binaryUnit) ∣ k * binaryUnit := by
  have hle := exponentFor_mul_binaryUnit_le hk
  generalize exponentFor (k * binaryUnit) = e at *
  unfold binaryUnit
  generalize 1074 = n at *
  exact Nat.dvd_mul_left_of_dvd (Nat.pow_dvd_pow 2 hle) k

/-- A quotient that is a whole number below `2 ^ 53` is kept as it is. -/
theorem ofUnits_whole (negative : Bool) {k den : Nat} (hk : k < 2 ^ 53) (hden : 0 < den) :
    ∃ mantissa exponent canonical,
      ofUnits negative (k * binaryUnit * den) den = .finite negative mantissa exponent canonical ∧
        mantissa * 2 ^ exponent = k * binaryUnit := by
  have hle := exponentFor_mul_binaryUnit_le hk
  obtain ⟨more, hmore⟩ := two_pow_exponentFor_dvd hk
  have hcases := ofUnits_cases negative (k * binaryUnit * den) den
  rw [Nat.mul_div_cancel _ hden] at hcases
  rcases hcases with ⟨mantissa, exponent, canonical, heq, hmagnitude⟩ | ⟨-, hlarge⟩
  · refine ⟨mantissa, exponent, canonical, heq, hmagnitude.trans ?_⟩
    generalize exponentFor (k * binaryUnit) = e at *
    have hnum : k * binaryUnit * den = more * (den * 2 ^ e) := by
      rw [hmore, Nat.mul_comm (2 ^ e), Nat.mul_assoc, Nat.mul_comm (2 ^ e)]
    rw [hnum, roundHalfEven_mul _ (Nat.mul_pos hden (Nat.two_pow_pos e)), Nat.mul_comm, ← hmore]
  · omega

theorem isWhole_finite_iff {negative : Bool} {mantissa exponent : Nat} {canonical} :
    (finite negative mantissa exponent canonical).isWhole = true ↔
      binaryUnit ∣ mantissa * 2 ^ exponent :=
  beq_iff_eq.trans Nat.dvd_iff_mod_eq_zero.symm

theorem two_pow_lt_binaryUnit : 2 ^ 53 < binaryUnit := by
  unfold binaryUnit
  generalize h : 1074 = n
  exact Nat.pow_lt_pow_right (by decide) (by omega)

/-- A magnitude below `2 ^ 53` has fewer than 53 bits above what it shares with a whole number. -/
theorem exists_common {mantissa exponent : Nat} (hmantissa : mantissa < 2 ^ 53)
    (hlt : mantissa * 2 ^ exponent < 2 ^ 53 * binaryUnit) :
    ∃ common, common ∣ mantissa * 2 ^ exponent ∧ common ∣ binaryUnit ∧
      mantissa * 2 ^ exponent < 2 ^ 53 * common := by
  unfold binaryUnit at *
  generalize 1074 = n at *
  rcases Nat.le_total exponent n with h | h
  · exact ⟨2 ^ exponent, Nat.dvd_mul_left .., Nat.pow_dvd_pow 2 h,
      Nat.mul_lt_mul_of_pos_right hmantissa (Nat.two_pow_pos exponent)⟩
  · exact ⟨2 ^ n, Nat.dvd_mul_left_of_dvd (Nat.pow_dvd_pow 2 h) mantissa, Nat.dvd_refl _, hlt⟩

section Quotient

variable {negative : Bool} {num den common : Nat}

/-- A quotient without a rest is kept. -/
theorem isWhole_ofRatio_of_dvd (hden : 0 < den) (hwhole : binaryUnit ∣ den)
    (hlt : num < 2 ^ 53 * binaryUnit) (h : den ∣ num) :
    (ofRatio negative num den).isWhole = true := by
  obtain ⟨k, rfl⟩ := h
  have hk : k < 2 ^ 53 := by
    refine Nat.lt_of_mul_lt_mul_right (a := binaryUnit) (Nat.lt_of_le_of_lt ?_ hlt)
    rw [Nat.mul_comm den]
    exact Nat.mul_le_mul_left k (Nat.le_of_dvd hden hwhole)
  obtain ⟨mantissa, exponent, canonical, heq, hmagnitude⟩ := ofUnits_whole negative hk hden
  rw [ofRatio, Nat.mul_comm den, Nat.mul_right_comm, heq, isWhole_finite_iff, hmagnitude]
  exact Nat.dvd_mul_left binaryUnit k

/-- A quotient with a rest is not rounded to a whole number. -/
theorem dvd_of_isWhole_ofRatio (hden : 0 < den) (hnum : common ∣ num) (hcommon : common ∣ den)
    (hlt : num < 2 ^ 53 * common) (hsmall : num = 0 ∨ den < 2 * (binaryUnit * num))
    (h : (ofRatio negative num den).isWhole = true) : den ∣ num := by
  rw [ofRatio, Nat.mul_comm] at h
  rcases ofUnits_cases negative (binaryUnit * num) den with
    ⟨mantissa, exponent, canonical, heq, hmagnitude⟩ | ⟨heq, -⟩
  · rw [heq, isWhole_finite_iff, hmagnitude] at h
    obtain ⟨k, hk⟩ := h
    by_cases he : exponentFor (binaryUnit * num / den) = 0
    · -- no whole number but zero has the smallest exponent
      have hle := (mantissa_bounds (binaryUnit * num) den).1
      rw [he, Nat.pow_zero, Nat.mul_one] at hk hle
      rw [Nat.mul_one] at hk
      have hzero : roundHalfEven (binaryUnit * num) den = 0 := by
        rcases Nat.eq_zero_or_pos k with rfl | hpos
        · exact hk.trans (Nat.mul_zero binaryUnit)
        · have hunit := Nat.le_mul_of_pos_right binaryUnit hpos
          exact absurd two_pow_lt_binaryUnit (Nat.not_lt.2 (Nat.le_trans hunit (hk ▸ hle)))
      have hnear := (roundHalfEven_near (binaryUnit * num) hden).1
      rw [hzero, Nat.mul_zero, Nat.mul_zero, Nat.zero_add] at hnear
      rcases hsmall with rfl | hsmall
      · exact Nat.dvd_zero den
      · exact absurd hsmall (Nat.not_lt.2 hnear)
    · have hfull := le_div_exponentFor he
      rw [Nat.div_div_eq_div_mul] at hfull
      exact dvd_of_rounded hden binaryUnit_pos hnum hcommon hlt hfull hk
  · rw [heq] at h
    cases h

end Quotient

/-! ## Whole numbers -/

/-- The magnitude of a number in units is its mantissa at its exponent. -/
theorem natAbs_units {negative : Bool} {mantissa exponent : Nat} {canonical} :
    (finite negative mantissa exponent canonical).units.natAbs = mantissa * 2 ^ exponent := by
  rw [units]
  cases negative with
  | false => exact Int.natAbs_natCast _
  | true => exact (Int.natAbs_neg _).trans (Int.natAbs_natCast _)

theorem units_finite (negative : Bool) (mantissa exponent : Nat) (canonical) :
    (finite negative mantissa exponent canonical).units =
      if negative then -((mantissa * 2 ^ exponent : Nat) : Int) else (mantissa * 2 ^ exponent : Nat) :=
  rfl

/-- A whole number has the units of its whole part. -/
theorem truncate_mul_binaryUnit {x : Binary64} (h : x.isWhole = true) :
    x.truncate * binaryUnit = x.units := by
  cases x with
  | finite negative mantissa exponent canonical =>
    refine Int.tdiv_mul_cancel (Int.ofNat_dvd_left.2 ?_)
    rw [natAbs_units]
    exact isWhole_finite_iff.1 h
  | infinite negative => cases h
  | nan => cases h

/-- An integer that is rounded to its own magnitude has its own units. -/
theorem ofInt?_of_ofRatio {i : Int} {mantissa exponent : Nat} {canonical}
    (h : ofRatio (decide (i < 0)) i.natAbs 1 =
      finite (decide (i < 0)) mantissa exponent canonical)
    (hmagnitude : mantissa * 2 ^ exponent = i.natAbs * binaryUnit) :
    ∃ x, ofInt? i = some x ∧ x.isFinite = true ∧ x.units = i * binaryUnit := by
  refine ⟨finite (decide (i < 0)) mantissa exponent canonical, ?_, rfl, ?_⟩
  · -- opened as a function: opened at a number, the quotient would be computed
    have hdef : ofInt? = ofInt? := rfl
    conv at hdef => rhs; delta ofInt?
    rw [hdef]
    dsimp only
    rw [h]
  · rw [units_finite, hmagnitude, Int.natCast_mul]
    by_cases hi : i < 0
    · rw [decide_eq_true hi, if_pos rfl, Int.ofNat_natAbs_of_nonpos (Int.le_of_lt hi), Int.neg_mul,
        Int.neg_neg]
    · rw [decide_eq_false hi, if_neg Bool.false_ne_true, Int.natAbs_of_nonneg (Int.not_lt.1 hi)]

theorem exists_ofInt?_of_lt {i : Int} (h : i.natAbs < 2 ^ 53) :
    ∃ x, ofInt? i = some x ∧ x.isFinite = true ∧ x.units = i * binaryUnit := by
  obtain ⟨mantissa, exponent, canonical, heq, hmagnitude⟩ :=
    ofUnits_whole (decide (i < 0)) h Nat.one_pos
  rw [Nat.mul_one] at heq
  exact ofInt?_of_ofRatio heq hmagnitude

theorem exists_ofInt?_truncate {y : Binary64} (h : y.isWhole = true) :
    ∃ x, ofInt? y.truncate = some x ∧ x.units = y.units := by
  have hunits := truncate_mul_binaryUnit h
  cases y with
  | finite negative mantissa exponent canonical =>
    generalize (finite negative mantissa exponent canonical).truncate = i at hunits ⊢
    have hmagnitude : mantissa * 2 ^ exponent = i.natAbs * binaryUnit := by
      have habs : (finite negative mantissa exponent canonical).units.natAbs =
          mantissa * 2 ^ exponent := natAbs_units
      rw [← habs, ← hunits, Int.natAbs_mul, Int.natAbs_natCast]
    have heq := ofUnits_of_eq_mul (decide (i < 0)) mantissa exponent canonical Nat.one_pos
      (Nat.mul_one _).symm
    rw [hmagnitude] at heq
    obtain ⟨x, hx, -, hvalue⟩ := ofInt?_of_ofRatio heq hmagnitude
    exact ⟨x, hx, hvalue.trans hunits⟩
  | infinite negative => cases h
  | nan => cases h

end Binary64

namespace Number

/-! ## Whole steps -/

/-- A number that is neither too large nor too close to zero to be divided by a whole number in
binary: zero, or a magnitude from `2 ^ -51` up to but not including `2 ^ 53`. -/
structure IsModerate (n : Number) : Prop where
  finite : n.isFinite = true
  lt : n.units.natAbs < 2 ^ 53 * binaryUnit
  le : n.units = 0 ∨ binaryUnit ≤ 2 ^ 51 * n.units.natAbs

theorem isModerate_int {i : Int} (h : i.natAbs < 2 ^ 53) : (int i).IsModerate where
  finite := rfl
  lt := by
    rw [units, Int.natAbs_mul, Int.natAbs_natCast]
    exact Nat.mul_lt_mul_of_pos_right h binaryUnit_pos
  le := by
    rw [units, Int.natAbs_mul, Int.natAbs_natCast]
    by_cases hi : i = 0
    · exact .inl (by rw [hi, Int.zero_mul])
    · rw [← Nat.mul_assoc]
      exact .inr (Nat.le_mul_of_pos_left _ (Nat.mul_pos (Nat.two_pow_pos 51) (Int.natAbs_pos.2 hi)))

theorem exists_toBinary? {n : Number} (h : n.IsModerate) :
    ∃ x, n.toBinary? = some x ∧ x.isFinite = true ∧ x.units = n.units := by
  cases n with
  | float x => exact ⟨x, rfl, h.finite, rfl⟩
  | int i =>
    refine Binary64.exists_ofInt?_of_lt ?_
    have hlt := h.lt
    rw [units, Int.natAbs_mul, Int.natAbs_natCast] at hlt
    exact Nat.lt_of_mul_lt_mul_right hlt

theorem divides_iff {step units : Int} : divides step units = true ↔ step ∣ units :=
  beq_iff_eq.trans Int.dvd_iff_emod_eq_zero.symm

/-- An integer step divides finite numbers exactly. -/
theorem isMultipleOf?_truncate (n : Number) {y : Binary64} (h : y.isWhole = true) :
    n.isMultipleOf? (.int y.truncate) = some (n.isFinite && divides y.units n.units) := by
  cases n with
  | float z =>
    obtain ⟨x, hx, hunits⟩ := Binary64.exists_ofInt?_truncate h
    show (Binary64.ofInt? y.truncate).map (fun y' => z.isFinite && divides y'.units z.units) = _
    rw [hx, Option.map_some, hunits]
    rfl
  | int i =>
    have hunit : (binaryUnit : Int) ≠ 0 := Int.natCast_ne_zero.2 (Nat.ne_of_gt binaryUnit_pos)
    have hdivides : divides y.units (i * binaryUnit) = divides y.truncate i := by
      rw [Bool.eq_iff_iff, divides_iff, divides_iff, ← Binary64.truncate_mul_binaryUnit h,
        Int.mul_dvd_mul_iff_right hunit]
    rw [units, hdivides]
    rfl

theorem binaryUnit_mul_self : 2 * (binaryUnit * binaryUnit) = 2 ^ 51 * 2 ^ (53 + 2045) := by
  unfold binaryUnit
  generalize hn : 1074 = n
  generalize hk : 53 + 2045 = k
  rw [← Nat.pow_add, ← Nat.pow_add, Nat.mul_comm, ← Nat.pow_succ]
  congr 1
  omega

/-- The quotient of a moderate number by a whole number is neither rounded to a whole number nor
rounded away. -/
theorem isWhole_quotient_iff {x y : Binary64} (hx : x.isFinite = true)
    (hlt : x.units.natAbs < 2 ^ 53 * binaryUnit)
    (hle : x.units = 0 ∨ binaryUnit ≤ 2 ^ 51 * x.units.natAbs) (hy : y.isWhole = true)
    (hzero : y.units ≠ 0) : (x.quotient y).isWhole = true ↔ y.units ∣ x.units := by
  cases x with
  | finite negative mantissa exponent canonical =>
    cases y with
    | finite negative' mantissa' exponent' canonical' =>
      have hpos := Int.natAbs_pos.2 hzero
      rw [← Int.natAbs_dvd_natAbs, Binary64.natAbs_units, Binary64.natAbs_units]
      rw [← Int.natAbs_eq_zero] at hle
      rw [Binary64.natAbs_units] at hlt hle hpos
      have hwhole := Binary64.isWhole_finite_iff.1 hy
      obtain ⟨common, hnum, hcommon, hbits⟩ := Binary64.exists_common canonical.1 hlt
      refine ⟨Binary64.dvd_of_isWhole_ofRatio hpos hnum (Nat.dvd_trans hcommon hwhole) hbits ?_,
        Binary64.isWhole_ofRatio_of_dvd hpos hwhole hlt⟩
      -- the quotient of a number that is not too small is not rounded to zero
      refine hle.imp_right fun hle => Nat.lt_of_lt_of_le (Binary64.mul_two_pow_lt canonical'.1
        canonical'.2.1) (Nat.le_of_mul_le_mul_left ?_ (Nat.two_pow_pos 51))
      calc 2 ^ 51 * 2 ^ (53 + 2045) = 2 * (binaryUnit * binaryUnit) := binaryUnit_mul_self.symm
        _ ≤ 2 * (binaryUnit * (2 ^ 51 * (mantissa * 2 ^ exponent))) :=
          Nat.mul_le_mul_left 2 (Nat.mul_le_mul_left binaryUnit hle)
        _ = 2 ^ 51 * (2 * (binaryUnit * (mantissa * 2 ^ exponent))) := by
          rw [Nat.mul_left_comm binaryUnit, Nat.mul_left_comm 2]
    | infinite negative => cases hy
    | nan => cases hy
  | infinite negative => cases hx
  | nan => cases hx

theorem isFinite_of_isWhole {x : Binary64} (h : x.isWhole = true) : x.isFinite = true := by
  cases x with
  | finite => rfl
  | infinite => cases h
  | nan => cases h

theorem quotient_ne_nan {x y : Binary64} (hx : x.isFinite = true) (hy : y.isFinite = true) :
    x.quotient y ≠ .nan := by
  cases x with
  | finite sign mantissa exponent canonical =>
    cases y with
    | finite sign' mantissa' exponent' canonical' => exact Binary64.ofRatio_ne_nan _ _ _
    | infinite => cases hy
    | nan => cases hy
  | infinite => cases hx
  | nan => cases hx

/-- **A whole step** divides a moderate number as its integer does. -/
theorem isMultipleOf?_whole {n : Number} (hn : n.IsModerate) {y : Binary64} (hy : y.isWhole = true)
    (hzero : y.units ≠ 0) : n.isMultipleOf? (.float y) = n.isMultipleOf? (.int y.truncate) := by
  obtain ⟨x, hx, hfinite, hunits⟩ := exists_toBinary? hn
  have hquotient := isWhole_quotient_iff hfinite (hunits ▸ hn.lt) (hunits ▸ hn.le) hy hzero
  have hdivides : (x.quotient y).isWhole = divides y.units n.units :=
    Bool.eq_iff_iff.2 (hquotient.trans (hunits ▸ divides_iff.symm))
  rw [isMultipleOf?_truncate n hy, isMultipleOf?, hx, Option.bind_some, hn.finite, Bool.true_and]
  cases hq : x.quotient y with
  | infinite sign => rfl
  | nan => exact absurd hq (quotient_ne_nan hfinite (isFinite_of_isWhole hy))
  | finite sign mantissa exponent canonical => rw [← hdivides, hq]

end Number

end FormStudio
