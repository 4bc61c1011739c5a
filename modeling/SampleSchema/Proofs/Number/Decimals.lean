import SampleSchema.Number.Numeral
import SampleSchema.Proofs.Number.Rounding

/-!
# Decimals that are rounded to a magnitude

Whether a decimal is rounded to a magnitude depends on its value and not on its form: zeros behind
the coefficient may be counted in the exponent as well (`Magnitude.admits_shift`). A decimal in the
rounding interval is read as the magnitude (`Numeral.toDouble_of_admits`); the shortest decimal that
is found for a magnitude lies there, wherever the search ended (`Magnitude.exists_shortest`).
-/

namespace SampleSchema

namespace Magnitude

variable {m : Magnitude}

/-! ## 1. Values in the rounding interval -/

/-- **The interval knows values only**: equal quotients are both in it or both outside. -/
theorem admits_congr {num den num' den' : Nat} (hden : 0 < den) (hden' : 0 < den')
    (h : num * den' = num' * den) : m.admits num den = m.admits num' den' := by
  obtain ⟨quarters, hquarters⟩ : ∃ quarters, quarters = quartersPerOne := ⟨_, rfl⟩
  have hcross : num * quarters * den' = num' * quarters * den := by
    rw [Nat.mul_right_comm, h, Nat.mul_right_comm]
  have hle : ∀ a, a * den ≤ num * quarters ↔ a * den' ≤ num' * quarters := by
    intro a
    rw [← Nat.mul_le_mul_right_iff hden', hcross, Nat.mul_right_comm,
      Nat.mul_le_mul_right_iff hden]
  have hle' : ∀ a, num * quarters ≤ a * den ↔ num' * quarters ≤ a * den' := by
    intro a
    rw [← Nat.mul_le_mul_right_iff hden', hcross, Nat.mul_right_comm a,
      Nat.mul_le_mul_right_iff hden]
  unfold admits
  rw [← hquarters]
  dsimp only
  split
  · rw [decide_eq_decide.mpr (hle _), decide_eq_decide.mpr (hle' _)]
  · have hlt : ∀ a, a * den < num * quarters ↔ a * den' < num' * quarters := fun a => by
      rw [← Nat.not_le, ← Nat.not_le, hle']
    have hlt' : ∀ a, num * quarters < a * den ↔ num' * quarters < a * den' := fun a => by
      rw [← Nat.not_le, ← Nat.not_le, hle]
    rw [decide_eq_decide.mpr (hlt _), decide_eq_decide.mpr (hlt' _)]

/-- Is the decimal `coefficient * 10 ^ exponent` rounded to `m`? -/
def admitsDecimal (m : Magnitude) (coefficient : Nat) (exponent : Int) : Prop :=
  m.admits (decimalQuotient coefficient exponent).1 (decimalQuotient coefficient exponent).2 = true

theorem decimalQuotient_of_nonneg (coefficient : Nat) {exponent : Int} (h : 0 ≤ exponent) :
    decimalQuotient coefficient exponent = (coefficient * 10 ^ exponent.toNat, 1) := if_pos h

theorem decimalQuotient_of_neg (coefficient : Nat) {exponent : Int} (h : ¬ 0 ≤ exponent) :
    decimalQuotient coefficient exponent = (coefficient, 10 ^ (-exponent).toNat) := if_neg h

theorem decimalQuotient_pos (coefficient : Nat) (exponent : Int) :
    0 < (decimalQuotient coefficient exponent).2 := by
  by_cases h : 0 ≤ exponent
  · rw [decimalQuotient_of_nonneg _ h]
    exact Nat.one_pos
  · rw [decimalQuotient_of_neg _ h]
    exact Nat.pow_pos (by decide)

/-- **Zeros behind the coefficient** may be counted in the exponent. -/
theorem admits_shift (m : Magnitude) (coefficient zeros : Nat) (exponent : Int) :
    m.admitsDecimal (coefficient * 10 ^ zeros) exponent ↔
      m.admitsDecimal coefficient (exponent + zeros) := by
  have hcross : (decimalQuotient (coefficient * 10 ^ zeros) exponent).1 *
      (decimalQuotient coefficient (exponent + zeros)).2 =
      (decimalQuotient coefficient (exponent + zeros)).1 *
        (decimalQuotient (coefficient * 10 ^ zeros) exponent).2 := by
    by_cases h : 0 ≤ exponent
    · have h' : 0 ≤ exponent + zeros := by omega
      have hsum : (exponent + zeros).toNat = zeros + exponent.toNat := by omega
      rw [decimalQuotient_of_nonneg _ h, decimalQuotient_of_nonneg _ h', hsum, Nat.pow_add,
        Nat.mul_assoc coefficient]
    · rw [decimalQuotient_of_neg _ h]
      by_cases h' : 0 ≤ exponent + zeros
      · have hsum : zeros = (exponent + zeros).toNat + (-exponent).toNat := by omega
        rw [decimalQuotient_of_nonneg _ h', Nat.mul_assoc coefficient _ (10 ^ (-exponent).toNat),
          ← Nat.pow_add, ← hsum, Nat.mul_one]
      · have hsum : (-exponent).toNat = zeros + (-(exponent + zeros)).toNat := by omega
        rw [decimalQuotient_of_neg _ h', hsum, Nat.pow_add, Nat.mul_assoc]
  unfold admitsDecimal
  rw [admits_congr (decimalQuotient_pos _ _) (decimalQuotient_pos _ _) hcross]

/-! ## 2. The decimal that is found -/

theorem roundEven_cases (num den : Nat) :
    roundEven num den = num / den ∨ roundEven num den = num / den + 1 := by
  unfold roundEven
  dsimp only
  split
  · exact Or.inl rfl
  · split
    · exact Or.inr rfl
    · omega

/-- **What is found on a grid** is rounded to the magnitude. -/
theorem admits_of_onGrid? {exponent : Int} {coefficient : Nat}
    (h : m.onGrid? exponent = some coefficient) : m.admitsDecimal coefficient exponent := by
  unfold onGrid? at h
  dsimp only at h
  split at h
  · rename_i hbelow habove
    cases h
    rcases roundEven_cases (m.scaledQuotient exponent).1 (m.scaledQuotient exponent).2 with
      heq | heq
    · rw [heq]
      exact hbelow
    · rw [heq]
      exact habove
  · rename_i hbelow _
    cases h
    exact hbelow
  · rename_i _ habove
    cases h
    exact habove
  · cases h

theorem unitsPerOne_pos : 0 < unitsPerOne := by
  unfold unitsPerOne
  generalize 1074 = n
  exact Nat.two_pow_pos n

/-- The exact value is rounded to itself. -/
theorem admits_units (m : Magnitude) : m.admits m.units unitsPerOne = true := by
  have hvalue : m.units * quartersPerOne = m.quarters * unitsPerOne := by
    unfold quartersPerOne quarters
    rw [Nat.mul_left_comm, Nat.mul_assoc]
  have hlower : m.lowerEnd ≤ m.quarters := Nat.sub_le _ _
  have hupper : m.quarters ≤ m.upperEnd := Nat.le_add_right _ _
  unfold admits
  rw [hvalue]
  dsimp only
  split
  · rw [decide_eq_true (Nat.mul_le_mul_right _ hlower),
      decide_eq_true (Nat.mul_le_mul_right _ hupper)]
    rfl
  · rename_i hodd
    have hpow : 0 < Nat.pow 2 m.scale := Nat.pow_pos (by decide)
    have hpos : 0 < m.quarters :=
      Nat.mul_pos (by decide) (Nat.mul_pos (by omega) hpow)
    have hlower' : m.lowerEnd < m.quarters := by
      refine Nat.sub_lt hpos (Nat.mul_pos ?_ hpow)
      split <;> decide
    have hupper' : m.quarters < m.upperEnd :=
      Nat.lt_add_of_pos_right (Nat.mul_pos (by decide) hpow)
    rw [decide_eq_true (Nat.mul_lt_mul_of_pos_right hlower' unitsPerOne_pos),
      decide_eq_true (Nat.mul_lt_mul_of_pos_right hupper' unitsPerOne_pos)]
    rfl

/-- The expansion of the exact value is it in decimal. -/
theorem admits_expansion (m : Magnitude) {n : Nat} (hn : n = 1074) :
    m.admitsDecimal (m.units * Nat.pow 5 n) (-(n : Int)) := by
  have hunits : unitsPerOne = Nat.pow 2 n := by
    unfold unitsPerOne
    rw [← hn]
  have hneg : ¬ 0 ≤ -(n : Int) := by omega
  have htoNat : (- -(n : Int)).toNat = n := by omega
  have hcross : m.units * Nat.pow 5 n * unitsPerOne = m.units * 10 ^ n := by
    rw [hunits]
    show m.units * 5 ^ n * 2 ^ n = m.units * 10 ^ n
    rw [Nat.mul_assoc, ← Nat.mul_pow]
  unfold admitsDecimal
  rw [decimalQuotient_of_neg _ hneg, htoNat, ← admits_units m]
  exact admits_congr (Nat.pow_pos (by decide)) unitsPerOne_pos hcross

/-- **The shortest decimal is rounded to the magnitude**, wherever the search ended. -/
theorem exists_shortest (m : Magnitude) : ∃ coefficient exponent,
    m.shortest = Decimal.ofScientific coefficient exponent ∧
      m.admitsDecimal coefficient exponent := by
  unfold shortest
  dsimp only
  cases hsearch : (List.range 17).findSome? fun (i : Nat) =>
      (m.onGrid? (m.decimalPoint - (i + 1 : Nat))).map
        (Decimal.ofScientific · (m.decimalPoint - (i + 1 : Nat))) with
  | none =>
    have hexact := admits_expansion m (n := 1074) rfl
    exact ⟨_, _, rfl, hexact⟩
  | some d =>
    obtain ⟨i, _, hfound⟩ := List.exists_of_findSome?_eq_some hsearch
    obtain ⟨coefficient, hgrid, rfl⟩ := Option.map_eq_some_iff.mp hfound
    exact ⟨coefficient, _, rfl, admits_of_onGrid? hgrid⟩

end Magnitude

/-! ## 3. Reading a decimal -/

/-- How many digits a number has. -/
theorem digits_bounds {n : Nat} (h : n ≠ 0) :
    10 ^ ((Nat.toDigits 10 n).length - 1) ≤ n ∧ n < 10 ^ (Nat.toDigits 10 n).length := by
  have hlength : 0 < (Nat.toDigits 10 n).length := Nat.length_toDigits_pos
  refine ⟨?_, (Nat.length_toDigits_le_iff (by decide) hlength).mp (Nat.le_refl _)⟩
  rcases Nat.eq_zero_or_pos ((Nat.toDigits 10 n).length - 1) with hzero | hpos
  · rw [hzero, Nat.pow_zero]
    exact Nat.pos_of_ne_zero h
  · refine Nat.le_of_not_lt fun hless => ?_
    have hshort := (Nat.length_toDigits_le_iff (by decide) hpos).mpr hless
    omega

namespace Magnitude

variable {m : Magnitude} {coefficient : Nat} {exponent : Int}

theorem lowerEnd_pos (hm : m.mantissa ≠ 0) : 0 < m.lowerEnd := by
  have hpow : 0 < Nat.pow 2 m.scale := Nat.pow_pos (by decide)
  have hends : m.lowerEnd = 4 * (m.mantissa * Nat.pow 2 m.scale) - m.below * Nat.pow 2 m.scale := rfl
  have hbelow : m.below < 4 * m.mantissa := by
    unfold below
    split <;> omega
  rw [hends, ← Nat.mul_assoc]
  exact Nat.sub_pos_of_lt (Nat.mul_lt_mul_of_pos_right hbelow hpow)

theorem upperEnd_le (m : Magnitude) : m.upperEnd ≤ 2 ^ 55 * 2 ^ m.scale := by
  have hends : m.upperEnd = (4 * m.mantissa + 2) * 2 ^ m.scale := by
    unfold upperEnd quarters units
    rw [Nat.add_mul, Nat.mul_assoc]
    rfl
  have hfactor : 4 * m.mantissa + 2 ≤ 2 ^ 55 := by
    have hmantissa : m.mantissa < 2 ^ 53 := m.mantissa_lt
    omega
  rw [hends]
  exact Nat.mul_le_mul_right _ hfactor

/-- What is rounded to a magnitude lies between its ends. -/
theorem ends_of_admits {num den : Nat} (h : m.admits num den = true) :
    m.lowerEnd * den ≤ num * quartersPerOne ∧ num * quartersPerOne ≤ m.upperEnd * den := by
  unfold admits at h
  dsimp only at h
  split at h
  · rw [Bool.and_eq_true, decide_eq_true_eq, decide_eq_true_eq] at h
    exact h
  · rw [Bool.and_eq_true, decide_eq_true_eq, decide_eq_true_eq] at h
    exact ⟨Nat.le_of_lt h.1, Nat.le_of_lt h.2⟩

theorem coefficient_ne_zero (hm : m.mantissa ≠ 0) (h : m.admitsDecimal coefficient exponent) :
    coefficient ≠ 0 := by
  rintro rfl
  have hzero : (decimalQuotient 0 exponent).1 = 0 := by
    by_cases hexponent : 0 ≤ exponent
    · rw [decimalQuotient_of_nonneg _ hexponent, Nat.zero_mul]
    · rw [decimalQuotient_of_neg _ hexponent]
  have hlow := (ends_of_admits h).1
  rw [hzero, Nat.zero_mul] at hlow
  exact absurd hlow (Nat.not_le_of_lt (Nat.mul_pos (lowerEnd_pos hm) (decimalQuotient_pos _ _)))

/-- **In powers**: what is rounded to a magnitude is less than `2 ^ 1024` and no less than
    `2 ^ (-1076)`. -/
theorem powers_of_admits (hm : m.mantissa ≠ 0) {num den : Nat} (h : m.admits num den = true) {n k : Nat}
    (hn : n = 1076) (hk : k = 2100) : den ≤ num * 2 ^ n ∧ num * 2 ^ n ≤ 2 ^ k * den := by
  obtain ⟨hlow, hhigh⟩ := ends_of_admits h
  have hquarters : quartersPerOne = 2 ^ n := by
    obtain ⟨ones, hones⟩ : ∃ ones, ones = 1074 := ⟨_, rfl⟩
    have hsum : n = 2 + ones := by omega
    unfold quartersPerOne unitsPerOne
    rw [hsum, Nat.pow_add, ← hones]
    rfl
  have hends : m.upperEnd ≤ 2 ^ k := by
    have hsum : 55 + m.scale ≤ k := by
      have := m.scale_le
      omega
    refine Nat.le_trans (upperEnd_le m) ?_
    rw [← Nat.pow_add]
    exact Nat.pow_le_pow_right (by decide) hsum
  rw [← hquarters]
  exact ⟨Nat.le_trans (Nat.le_mul_of_pos_left _ (lowerEnd_pos hm)) hlow,
    Nat.le_trans hhigh (Nat.mul_le_mul_right _ hends)⟩

end Magnitude

namespace Numeral

variable {m : Magnitude} {coefficient : Nat} {exponent : Int}

open Magnitude

/-- A decimal in the interval of a magnitude is not too large to be looked at. -/
theorem point_le (hm : m.mantissa ≠ 0) (h : m.admitsDecimal coefficient exponent) :
    ((Nat.toDigits 10 coefficient).length : Int) + exponent ≤ 310 := by
  obtain ⟨least, hleast⟩ : ∃ least, least = 310 := ⟨_, rfl⟩
  refine Int.not_lt.mp fun hlarge => ?_
  have hcoefficient := coefficient_ne_zero hm h
  obtain ⟨hdigits, _⟩ := digits_bounds hcoefficient
  have hlength : 0 < (Nat.toDigits 10 coefficient).length := Nat.length_toDigits_pos
  generalize (Nat.toDigits 10 coefficient).length = length at *
  -- the quotient would be ten to the 310, at least
  have hquotient : 10 ^ least * (decimalQuotient coefficient exponent).2 ≤
      (decimalQuotient coefficient exponent).1 := by
    by_cases hexponent : 0 ≤ exponent
    · rw [decimalQuotient_of_nonneg _ hexponent, Nat.mul_one]
      have hsum : least ≤ length - 1 + exponent.toNat := by omega
      refine Nat.le_trans (Nat.pow_le_pow_right (by decide) hsum) ?_
      rw [Nat.pow_add]
      exact Nat.mul_le_mul_right _ hdigits
    · rw [decimalQuotient_of_neg _ hexponent, ← Nat.pow_add]
      have hsum : least + (-exponent).toNat ≤ length - 1 := by omega
      exact Nat.le_trans (Nat.pow_le_pow_right (by decide) hsum) hdigits
  obtain ⟨n, hn⟩ : ∃ n, n = 1076 := ⟨_, rfl⟩
  obtain ⟨k, hk⟩ : ∃ k, k = 2100 := ⟨_, rfl⟩
  have hhigh := (powers_of_admits hm h hn hk).2
  have hden := decimalQuotient_pos coefficient exponent
  generalize (decimalQuotient coefficient exponent).2 = den at *
  have hpowers : 10 ^ least * 2 ^ n * den ≤ 2 ^ k * den := by
    rw [Nat.mul_right_comm]
    exact Nat.le_trans (Nat.mul_le_mul_right _ hquotient) hhigh
  have hless : ¬ 10 ^ least * 2 ^ n ≤ 2 ^ k := by
    rw [hleast, hn, hk]
    decide +kernel
  exact hless (Nat.le_of_mul_le_mul_right hpowers hden)

/-- And not too small. -/
theorem le_point (hm : m.mantissa ≠ 0) (h : m.admitsDecimal coefficient exponent) :
    -330 ≤ ((Nat.toDigits 10 coefficient).length : Int) + exponent := by
  obtain ⟨least, hleast⟩ : ∃ least, least = 331 := ⟨_, rfl⟩
  refine Int.not_lt.mp fun hsmall => ?_
  have hcoefficient := coefficient_ne_zero hm h
  obtain ⟨_, hdigits⟩ := digits_bounds hcoefficient
  generalize (Nat.toDigits 10 coefficient).length = length at *
  have hexponent : ¬ 0 ≤ exponent := by omega
  have hquotient : 10 ^ length * 10 ^ least ≤ (decimalQuotient coefficient exponent).2 := by
    rw [decimalQuotient_of_neg _ hexponent, ← Nat.pow_add]
    exact Nat.pow_le_pow_right (by decide) (by omega)
  obtain ⟨n, hn⟩ : ∃ n, n = 1076 := ⟨_, rfl⟩
  have hlow := (powers_of_admits hm h hn rfl).1
  rw [decimalQuotient_of_neg _ hexponent] at hlow hquotient
  have hpowers : 10 ^ length * 10 ^ least ≤ 10 ^ length * 2 ^ n :=
    Nat.le_trans hquotient (Nat.le_trans hlow (Nat.mul_le_mul_right _ (Nat.le_of_lt hdigits)))
  have hless : ¬ 10 ^ least ≤ 2 ^ n := by
    rw [hleast, hn]
    decide +kernel
  exact hless (Nat.le_of_mul_le_mul_left hpowers (Nat.pow_pos (by decide)))

/-- Between these bounds the value is rounded once. -/
theorem toDouble_eq (negative : Bool) (hcoefficient : coefficient ≠ 0)
    (hlarge : ((Nat.toDigits 10 coefficient).length : Int) + exponent ≤ 310)
    (hsmall : -330 ≤ ((Nat.toDigits 10 coefficient).length : Int) + exponent) :
    toDouble negative coefficient exponent =
      .ofQuotient negative (decimalQuotient coefficient exponent).1
        (decimalQuotient coefficient exponent).2 := by
  unfold toDouble
  rw [if_neg hcoefficient]
  dsimp only
  rw [if_neg (Int.not_lt.mpr hlarge), if_neg (Int.not_lt.mpr hsmall)]
  by_cases hexponent : 0 ≤ exponent
  · rw [decimalQuotient_of_nonneg _ hexponent, if_pos hexponent]
    rfl
  · rw [decimalQuotient_of_neg _ hexponent, if_neg hexponent]
    rfl

/-- **A decimal in the rounding interval of a magnitude is read as that magnitude.** -/
theorem toDouble_of_admits (negative : Bool) (hm : m.mantissa ≠ 0)
    (h : m.admitsDecimal coefficient exponent) :
    toDouble negative coefficient exponent = .finite negative m := by
  have hround := ofQuotient?_of_admits hm (decimalQuotient_pos _ _) h
  rw [toDouble_eq negative (coefficient_ne_zero hm h) (point_le hm h) (le_point hm h)]
  unfold Double.ofQuotient
  rw [hround]
  rfl

end Numeral

end SampleSchema
