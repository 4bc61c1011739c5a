import Mathlib.Algebra.Group.Nat.Defs
import SampleSchema.Number.Shortest

/-!
# Rounding to a magnitude

A quotient is rounded to a magnitude exactly where it lies in the rounding interval of it; what is
shown here is that it is rounded to the magnitude if it lies there
(`Magnitude.ofQuotient?_of_admits`). The quotient can have the scale of the magnitude, or the scale
below it: just under a power of two the steps are half as wide, and the mantissa is rounded up to
`2 ^ 53`.
-/

namespace SampleSchema

/-! ## 1. The nearest natural number -/

/-- **The nearest natural number**: no more than half away, and even if it is just half. -/
theorem roundEven_eq {num den k : Nat} (hden : 0 < den) (hlow : 2 * (k * den) ≤ 2 * num + den)
    (hhigh : 2 * num ≤ 2 * (k * den) + den)
    (htie : 2 * (k * den) = 2 * num + den ∨ 2 * num = 2 * (k * den) + den → k % 2 = 0) :
    roundEven num den = k := by
  have hnum : num = num / den * den + num % den := (Nat.div_add_mod' num den).symm
  have hrest : num % den < den := Nat.mod_lt num hden
  unfold roundEven
  generalize num / den = floor at *
  generalize num % den = rest at *
  dsimp only
  have hcases : floor + 2 ≤ k ∨ floor + 1 = k ∨ floor = k ∨ k + 1 ≤ floor := by omega
  rcases hcases with hless | rfl | rfl | hmore
  · have hproduct := Nat.mul_le_mul_right den hless
    rw [Nat.add_mul] at hproduct
    omega
  · rw [Nat.add_mul, Nat.one_mul] at hlow hhigh htie
    split
    · omega
    · split
      · rfl
      · have heven : (floor + 1) % 2 = 0 := htie (by omega)
        omega
  · split
    · rfl
    · split
      · omega
      · have heven : floor % 2 = 0 := htie (by omega)
        omega
  · have hproduct := Nat.mul_le_mul_right den hmore
    rw [Nat.add_mul] at hproduct
    omega

/-! ## 2. Scales -/

section Scale

variable {num den scale : Nat} (hden : 0 < den)
include hden

/-- A quotient with 53 bits before the point at some scale has that scale. -/
theorem scaleOf_eq (hlow : 2 ^ 52 * (2 ^ scale * den) ≤ num)
    (hhigh : num < 2 ^ 53 * (2 ^ scale * den)) : scaleOf num den = scale := by
  have hleast : 2 ^ (52 + scale) ≤ num / den := by
    rw [Nat.le_div_iff_mul_le hden, Nat.pow_add, Nat.mul_assoc]
    exact hlow
  have hmost : num / den < 2 ^ (53 + scale) := by
    rw [Nat.div_lt_iff_lt_mul hden, Nat.pow_add, Nat.mul_assoc]
    exact hhigh
  have hne : num / den ≠ 0 := Nat.ne_of_gt (Nat.lt_of_lt_of_le (Nat.two_pow_pos _) hleast)
  have hlog := (Nat.le_log2 hne).mpr hleast
  have hlog' := (Nat.log2_lt hne).mpr hmost
  unfold scaleOf
  omega

/-- A quotient with no more than 53 bits before the point has scale 0. -/
theorem scaleOf_eq_zero (hhigh : num < 2 ^ 53 * den) : scaleOf num den = 0 := by
  unfold scaleOf
  by_cases hzero : num / den = 0
  · rw [hzero]
    rfl
  · have hmost : num / den < 2 ^ 53 := (Nat.div_lt_iff_lt_mul hden).mpr hhigh
    have hlog := (Nat.log2_lt hzero).mpr hmost
    omega

end Scale

/-! ## 3. Magnitudes -/

namespace Magnitude

variable {m : Magnitude} {num den : Nat}

theorem make?_eq (m : Magnitude) : make? m.mantissa m.scale = some m :=
  dif_pos ⟨m.mantissa_lt, m.scale_le, m.normal⟩

/-- Half the width of the interval below a magnitude, in quarters of a step. -/
def below (m : Magnitude) : Nat := if m.mantissa = Nat.pow 2 52 ∧ m.scale ≠ 0 then 1 else 2

/-- **What lies in the rounding interval**, counted in quarters of a step: `whole` is the quotient in
    units, `step` the width of a step. The ends belong to an even mantissa. -/
theorem bounds_of_admits (hm : m.mantissa ≠ 0) (h : m.admits num den = true) {whole step : Nat}
    (hwhole : whole = num * unitsPerOne) (hstep : step = 2 ^ m.scale * den) :
    4 * (m.mantissa * step) ≤ 4 * whole + m.below * step ∧
    4 * whole ≤ 4 * (m.mantissa * step) + 2 * step ∧
    (4 * (m.mantissa * step) = 4 * whole + m.below * step ∨
      4 * whole = 4 * (m.mantissa * step) + 2 * step → m.mantissa % 2 = 0) := by
  have hvalue : num * quartersPerOne = 4 * whole := by
    unfold quartersPerOne
    rw [hwhole, Nat.mul_left_comm]
  have hupper : m.upperEnd * den = 4 * (m.mantissa * step) + 2 * step := by
    have hpow : Nat.pow 2 m.scale = 2 ^ m.scale := rfl
    unfold upperEnd quarters units
    rw [hstep, hpow, Nat.add_mul, Nat.mul_assoc, Nat.mul_assoc, Nat.mul_assoc]
  have hlower : m.lowerEnd * den + m.below * step = 4 * (m.mantissa * step) := by
    have hpow : Nat.pow 2 m.scale = 2 ^ m.scale := rfl
    have hle : m.below * 2 ^ m.scale ≤ 4 * (m.mantissa * 2 ^ m.scale) := by
      rw [← Nat.mul_assoc]
      refine Nat.mul_le_mul_right _ ?_
      unfold below
      split <;> omega
    have hends : m.lowerEnd = 4 * (m.mantissa * 2 ^ m.scale) - m.below * 2 ^ m.scale := rfl
    rw [hends, hstep, ← Nat.mul_assoc m.below, ← Nat.add_mul, Nat.sub_add_cancel hle,
      Nat.mul_assoc, Nat.mul_assoc]
  unfold admits at h
  rw [hvalue] at h
  dsimp only at h
  split at h
  · rename_i heven
    rw [Bool.and_eq_true, decide_eq_true_eq, decide_eq_true_eq] at h
    refine ⟨?_, ?_, fun _ => heven⟩
    · omega
    · omega
  · rw [Bool.and_eq_true, decide_eq_true_eq, decide_eq_true_eq] at h
    refine ⟨?_, ?_, fun htie => ?_⟩
    · omega
    · omega
    · omega

theorem ofQuotient?_eq {whole scale mantissa : Nat} (hwhole : whole = num * unitsPerOne)
    (hscale : scaleOf whole den = scale) (hround : roundEven whole (2 ^ scale * den) = mantissa) :
    ofQuotient? num den =
      if mantissa = 2 ^ 53 then make? (2 ^ 52) (scale + 1) else make? mantissa scale := by
  have hstep : den * Nat.pow 2 scale = 2 ^ scale * den := Nat.mul_comm _ _
  unfold ofQuotient?
  rw [← hwhole]
  dsimp only
  rw [hscale, hstep, hround]
  rfl

section Interval

variable (hm : m.mantissa ≠ 0) (hden : 0 < den) (h : m.admits num den = true) {whole step : Nat}
  (hwhole : whole = num * unitsPerOne) (hstep : step = 2 ^ m.scale * den)
include hm hden h hwhole hstep

/-- **At the scale of the magnitude** its mantissa is the nearest natural number. -/
theorem ofQuotient?_of_scaleOf (hscale : scaleOf whole den = m.scale)
    (hside : m.below = 2 ∨ m.mantissa * step ≤ whole) : ofQuotient? num den = some m := by
  obtain ⟨hlow, hhigh, htie⟩ := bounds_of_admits hm h hwhole hstep
  have hpos : 0 < step := hstep ▸ Nat.mul_pos (Nat.two_pow_pos _) hden
  have hwide : m.below * step ≤ 2 * step := by
    refine Nat.mul_le_mul_right _ ?_
    unfold below
    split <;> omega
  have hround : roundEven whole (2 ^ m.scale * den) = m.mantissa := by
    rw [← hstep]
    refine roundEven_eq hpos (by omega) (by omega) fun hedge => ?_
    rcases hside with hbelow | habove
    · rw [hbelow] at htie
      exact htie (by omega)
    · exact htie (by omega)
  have hbounded : m.mantissa ≠ 2 ^ 53 := Nat.ne_of_lt m.mantissa_lt
  rw [ofQuotient?_eq hwhole hscale hround, if_neg hbounded, make?_eq]

/-- **Just under the least magnitude of a scale** the mantissa is rounded up to a power of two, at
    the scale below. -/
theorem ofQuotient?_of_under (hscale : m.scale ≠ 0) (hunder : whole < 2 ^ 52 * step) :
    ofQuotient? num den = some m := by
  obtain ⟨hlow, _, _⟩ := bounds_of_admits hm h hwhole hstep
  have hpos : 0 < step := hstep ▸ Nat.mul_pos (Nat.two_pow_pos _) hden
  have hnormal : 2 ^ 52 ≤ m.mantissa := m.normal.resolve_left hscale
  have hedge : m.mantissa = 2 ^ 52 := by
    refine Classical.byContradiction fun hne => ?_
    have hnext := Nat.mul_le_mul_right step
      (Nat.succ_le_of_lt (Nat.lt_of_le_of_ne hnormal (Ne.symm hne)))
    have hwide : m.below = 2 := if_neg fun hboth => hne hboth.1
    rw [hwide] at hlow
    rw [Nat.succ_mul] at hnext
    omega
  have hnarrow : m.below = 1 := if_pos ⟨hedge, hscale⟩
  obtain ⟨scale, hsucc⟩ := Nat.exists_eq_succ_of_ne_zero hscale
  obtain ⟨half, hhalf⟩ : ∃ half, half = 2 ^ scale * den := ⟨_, rfl⟩
  have hdouble : step = 2 * half := by
    rw [hstep, hsucc, hhalf, Nat.pow_succ, Nat.mul_comm (2 ^ scale) 2, Nat.mul_assoc]
  rw [hnarrow, hedge, hdouble] at hlow
  rw [hdouble] at hunder hpos
  have hround : roundEven whole (2 ^ scale * den) = 2 ^ 53 := by
    rw [← hhalf]
    exact roundEven_eq (by omega) (by omega) (by omega) fun _ => by decide
  have hbelow : scaleOf whole den = scale :=
    scaleOf_eq hden (hhalf ▸ by omega) (hhalf ▸ by omega)
  have hnext : scale + 1 = m.scale := hsucc.symm
  rw [ofQuotient?_eq hwhole hbelow hround, if_pos rfl, hnext, ← hedge, make?_eq]

end Interval

/-- **A quotient in the rounding interval of a magnitude is rounded to it.** -/
theorem ofQuotient?_of_admits (hm : m.mantissa ≠ 0) (hden : 0 < den)
    (h : m.admits num den = true) : ofQuotient? num den = some m := by
  obtain ⟨step, hstep⟩ : ∃ step, step = 2 ^ m.scale * den := ⟨_, rfl⟩
  obtain ⟨whole, hwhole⟩ : ∃ whole, whole = num * unitsPerOne := ⟨_, rfl⟩
  obtain ⟨_, hhigh, _⟩ := bounds_of_admits hm h hwhole hstep
  have hpos : 0 < step := hstep ▸ Nat.mul_pos (Nat.two_pow_pos _) hden
  have hmost : m.mantissa * step ≤ (2 ^ 53 - 1) * step :=
    Nat.mul_le_mul_right _ (Nat.le_sub_one_of_lt m.mantissa_lt)
  by_cases hzero : m.scale = 0
  · have hnarrow : ¬ (m.mantissa = Nat.pow 2 52 ∧ m.scale ≠ 0) := fun hboth => hboth.2 hzero
    refine ofQuotient?_of_scaleOf hm hden h hwhole hstep ?_ (Or.inl (if_neg hnarrow))
    rw [hzero] at hstep ⊢
    rw [Nat.pow_zero, Nat.one_mul] at hstep
    exact scaleOf_eq_zero hden (by omega)
  · by_cases hunder : whole < 2 ^ 52 * step
    · exact ofQuotient?_of_under hm hden h hwhole hstep hzero hunder
    · have hleast : 2 ^ 52 * step ≤ whole := Nat.le_of_not_lt hunder
      refine ofQuotient?_of_scaleOf hm hden h hwhole hstep
        (scaleOf_eq hden (hstep ▸ hleast) (hstep ▸ by omega)) ?_
      by_cases hedge : m.mantissa = 2 ^ 52
      · exact Or.inr (hedge ▸ hleast)
      · exact Or.inl (if_neg fun hboth => hedge hboth.1)

end Magnitude

end SampleSchema
