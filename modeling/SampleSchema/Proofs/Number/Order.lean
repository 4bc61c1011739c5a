import SampleSchema.InferenceSettings
import SampleSchema.Proofs.Number.Decimals

/-!
# The order of rounded quotients

Rounding keeps the order of quotients, but it may make two of them equal. For shares that cannot
happen: two quotients between zero and one whose denominators multiply to no more than `2 ^ 52` are
at least that part of one apart, and doubles between zero and one lie closer than that. So two such
shares are in the order of their exact values also after each was rounded on its own
(`Double.lt_ofQuotient_iff`).

* `roundEven_mono`: the nearest natural number grows with the quotient, ties included;
* `Magnitude.nearestUnits`: the value a quotient is rounded to, in units;
* `Magnitude.nearestUnits_mono`, `Magnitude.nearestUnits_lt`: equal or greater, and strictly so
  where two shares are far enough apart.
-/

namespace SampleSchema

/-! ## 1. The nearest natural number -/

section RoundEven

variable {num den num' den' k : Nat}

/-- The nearest natural number is at most half away. -/
theorem roundEven_bounds (num : Nat) (hden : 0 < den) :
    2 * num ≤ 2 * (roundEven num den * den) + den ∧
      2 * (roundEven num den * den) ≤ 2 * num + den := by
  have hnum : num = num / den * den + num % den := (Nat.div_add_mod' num den).symm
  have hrest : num % den < den := Nat.mod_lt num hden
  unfold roundEven
  generalize num / den = floor at *
  generalize num % den = rest at *
  dsimp only
  have hnext : (floor + 1) * den = floor * den + den := Nat.succ_mul floor den
  split
  · omega
  · split
    · omega
    · rcases Nat.mod_two_eq_zero_or_one floor with h | h
      · rw [h, Nat.add_zero]
        omega
      · rw [h]
        omega

/-- Half way between two natural numbers it is the even one. -/
theorem roundEven_even (num : Nat) (hden : 0 < den)
    (h : 2 * num = 2 * (roundEven num den * den) + den ∨
      2 * (roundEven num den * den) = 2 * num + den) : roundEven num den % 2 = 0 := by
  have hnum : num = num / den * den + num % den := (Nat.div_add_mod' num den).symm
  have hrest : num % den < den := Nat.mod_lt num hden
  unfold roundEven at h ⊢
  generalize num / den = floor at *
  generalize num % den = rest at *
  dsimp only at h ⊢
  have hnext : (floor + 1) * den = floor * den + den := Nat.succ_mul floor den
  split at h
  · omega
  · split at h
    · omega
    · rw [if_neg ‹_›, if_neg ‹_›]
      omega

/-- **The nearest natural number grows with the quotient.** -/
theorem roundEven_mono (hden : 0 < den) (hden' : 0 < den') (h : num * den' ≤ num' * den) :
    roundEven num den ≤ roundEven num' den' := by
  obtain ⟨hlow, hhigh⟩ := roundEven_bounds num hden
  obtain ⟨hlow', hhigh'⟩ := roundEven_bounds num' hden'
  have heven := roundEven_even num hden
  have heven' := roundEven_even num' hden'
  generalize roundEven num den = low at *
  generalize roundEven num' den' = high at *
  refine Nat.le_of_not_lt fun hless => ?_
  -- the quotients would lie on the wrong sides of a half, so both are just that half
  have hnext : (high + 1) * den ≤ low * den := Nat.mul_le_mul_right den hless
  have hnext' : (high + 1) * den = high * den + den := Nat.succ_mul high den
  have habove : (2 * (high * den) + den) * den' ≤ 2 * num * den' :=
    Nat.mul_le_mul_right den' (by omega)
  have hbelow : 2 * num' * den ≤ (2 * (high * den') + den') * den :=
    Nat.mul_le_mul_right den hlow'
  have hhalf : (2 * (high * den) + den) * den' = (2 * (high * den') + den') * den := by
    simp only [Nat.add_mul, Nat.mul_assoc, Nat.mul_comm den']
  have hcross : 2 * num * den' ≤ 2 * num' * den := by
    rw [Nat.mul_assoc, Nat.mul_assoc]
    exact Nat.mul_le_mul_left 2 h
  have htie : 2 * num = 2 * (high * den) + den :=
    Nat.eq_of_mul_eq_mul_right hden' (by omega)
  have htie' : 2 * num' = 2 * (high * den') + den' :=
    Nat.eq_of_mul_eq_mul_right hden (by omega)
  have hodd : low = high + 1 := by
    refine Nat.le_antisymm (Nat.le_of_not_lt fun hmore => ?_) hless
    have htwo : (high + 2) * den ≤ low * den := Nat.mul_le_mul_right den hmore
    rw [Nat.add_mul] at htwo
    omega
  have hlowEven := heven (Or.inr (by rw [hodd]; omega))
  have hhighEven := heven' (Or.inl htie')
  omega

theorem le_roundEven (hden : 0 < den) (h : k * den ≤ num) : k ≤ roundEven num den := by
  refine Nat.le_of_not_lt fun hless => ?_
  have hnext : (roundEven num den + 1) * den ≤ k * den := Nat.mul_le_mul_right den hless
  have hlow := (roundEven_bounds num hden).1
  rw [Nat.add_mul] at hnext
  omega

theorem roundEven_le (hden : 0 < den) (h : num ≤ k * den) : roundEven num den ≤ k := by
  refine Nat.le_of_not_lt fun hless => ?_
  have hnext : (k + 1) * den ≤ roundEven num den * den := Nat.mul_le_mul_right den hless
  have hhigh := (roundEven_bounds num hden).2
  rw [Nat.add_mul] at hnext
  omega

end RoundEven

/-! ## 2. Scales -/

section ScaleOrder

variable {num den num' den' : Nat}

/-- A quotient has no more than 53 bits before the point at its scale. -/
theorem lt_of_scaleOf (hden : 0 < den) : num < 2 ^ 53 * (2 ^ scaleOf num den * den) := by
  have hlog : (num / den).log2 < 53 + scaleOf num den := by
    unfold scaleOf
    omega
  have hwhole : num / den < 2 ^ (53 + scaleOf num den) :=
    Nat.lt_of_lt_of_le Nat.lt_log2_self (Nat.pow_le_pow_right (by decide) hlog)
  rw [Nat.div_lt_iff_lt_mul hden, Nat.pow_add, Nat.mul_assoc] at hwhole
  exact hwhole

/-- Above scale 0 it has all of them. -/
theorem le_of_scaleOf (num : Nat) (hden : 0 < den) (h : scaleOf num den ≠ 0) :
    2 ^ 52 * (2 ^ scaleOf num den * den) ≤ num := by
  have hne : num / den ≠ 0 := by
    intro hzero
    unfold scaleOf at h
    rw [hzero] at h
    exact h rfl
  have hlog : 52 + scaleOf num den ≤ (num / den).log2 := by
    unfold scaleOf at h ⊢
    omega
  have hwhole := (Nat.le_log2 hne).mp hlog
  rw [Nat.le_div_iff_mul_le hden, Nat.pow_add, Nat.mul_assoc] at hwhole
  exact hwhole

/-- A greater quotient has no smaller scale. -/
theorem scaleOf_mono (hden : 0 < den) (hden' : 0 < den') (h : num * den' ≤ num' * den) :
    scaleOf num den ≤ scaleOf num' den' := by
  by_cases hzero : scaleOf num den = 0
  · rw [hzero]
    exact Nat.zero_le _
  · have hlow := le_of_scaleOf _ hden hzero
    have hhigh : num' < 2 ^ 53 * (2 ^ scaleOf num' den' * den') := lt_of_scaleOf hden'
    generalize scaleOf num den = s at *
    generalize scaleOf num' den' = s' at *
    have hchain : 2 ^ (52 + s) * (den * den') < 2 ^ (53 + s') * (den * den') := calc
      2 ^ (52 + s) * (den * den') = 2 ^ 52 * (2 ^ s * den) * den' := by
        rw [Nat.pow_add, Nat.mul_assoc, Nat.mul_assoc, Nat.mul_assoc]
      _ ≤ num * den' := Nat.mul_le_mul_right den' hlow
      _ ≤ num' * den := h
      _ < 2 ^ 53 * (2 ^ s' * den') * den := Nat.mul_lt_mul_of_pos_right hhigh hden
      _ = 2 ^ (53 + s') * (den * den') := by
        rw [Nat.pow_add, Nat.mul_comm den, Nat.mul_assoc, Nat.mul_assoc, Nat.mul_assoc]
    have hpow := Nat.lt_of_mul_lt_mul_right hchain
    have hexp := (Nat.pow_lt_pow_iff_right (by decide)).mp hpow
    omega

end ScaleOrder

/-! ## 3. Rounded values -/

namespace Magnitude

/-- The value that a quotient in units is rounded to, in units. -/
def nearestUnits (whole den : Nat) : Nat :=
  roundEven whole (2 ^ scaleOf whole den * den) * 2 ^ scaleOf whole den

section NearestUnits

variable {whole den whole' den' : Nat}

/-- **A greater quotient is rounded to no smaller value.** -/
theorem nearestUnits_mono (hden : 0 < den) (hden' : 0 < den')
    (h : whole * den' ≤ whole' * den) : nearestUnits whole den ≤ nearestUnits whole' den' := by
  have hscale := scaleOf_mono hden hden' h
  have hbelow : whole < 2 ^ 53 * (2 ^ scaleOf whole den * den) := lt_of_scaleOf hden
  have habove := le_of_scaleOf whole' hden'
  unfold nearestUnits
  generalize scaleOf whole den = s at *
  generalize scaleOf whole' den' = s' at *
  have hstep : 0 < 2 ^ s * den := Nat.mul_pos (Nat.two_pow_pos s) hden
  have hstep' : 0 < 2 ^ s' * den' := Nat.mul_pos (Nat.two_pow_pos s') hden'
  rcases Nat.eq_or_lt_of_le hscale with rfl | hless
  · refine Nat.mul_le_mul_right _ (roundEven_mono hstep hstep' ?_)
    rw [Nat.mul_left_comm, Nat.mul_left_comm whole']
    exact Nat.mul_le_mul_left _ h
  · -- a power of two lies between the two values, and rounding does not pass it
    calc roundEven whole (2 ^ s * den) * 2 ^ s
        ≤ 2 ^ 53 * 2 ^ s := Nat.mul_le_mul_right _ (roundEven_le hstep (Nat.le_of_lt hbelow))
      _ = 2 ^ (53 + s) := (Nat.pow_add 2 53 s).symm
      _ ≤ 2 ^ (52 + s') := Nat.pow_le_pow_right (by decide) (by omega)
      _ = 2 ^ 52 * 2 ^ s' := Nat.pow_add 2 52 s'
      _ ≤ roundEven whole' (2 ^ s' * den') * 2 ^ s' :=
        Nat.mul_le_mul_right _ (le_roundEven hstep' (habove (by omega)))

/-- **Half a step is the most that rounding moves a quotient.** -/
theorem nearestUnits_bounds (whole : Nat) (hden : 0 < den) :
    2 * whole ≤ 2 * (nearestUnits whole den * den) + 2 ^ scaleOf whole den * den ∧
      2 * (nearestUnits whole den * den) ≤ 2 * whole + 2 ^ scaleOf whole den * den := by
  have hstep : 0 < 2 ^ scaleOf whole den * den := Nat.mul_pos (Nat.two_pow_pos _) hden
  unfold nearestUnits
  rw [Nat.mul_assoc (roundEven _ _)]
  exact roundEven_bounds whole hstep

/-- The same over a greater denominator, and with any step that is no smaller. -/
theorem nearestUnits_bounds_mul (whole : Nat) (hden : 0 < den) {step : Nat}
    (hstep : 2 ^ scaleOf whole den ≤ step) (more : Nat) :
    2 * (whole * more) ≤ 2 * (nearestUnits whole den * (den * more)) + step * (den * more) ∧
      2 * (nearestUnits whole den * (den * more)) ≤ 2 * (whole * more) + step * (den * more) := by
  obtain ⟨hlow, hhigh⟩ := nearestUnits_bounds whole hden
  have hwide : 2 ^ scaleOf whole den * (den * more) ≤ step * (den * more) :=
    Nat.mul_le_mul_right _ hstep
  have hlow' := Nat.mul_le_mul_right more hlow
  have hhigh' := Nat.mul_le_mul_right more hhigh
  simp only [Nat.add_mul, Nat.mul_assoc] at hlow' hhigh'
  omega

end NearestUnits

/-! ## 4. Shares -/

theorem unitsPerOne_eq {bits more : Nat} (h : bits + more = 1074) :
    unitsPerOne = 2 ^ bits * 2 ^ more := by
  rw [← Nat.pow_add, h]
  unfold unitsPerOne
  generalize 1074 = n
  rfl

section Shares

variable {num den num' den' : Nat}

/-- A quotient of few units has a small scale. -/
theorem scaleOf_lt (hden : 0 < den) {bits : Nat} (hbits : bits ≠ 0)
    (h : num < 2 ^ (52 + bits) * den) : scaleOf num den < bits := by
  by_cases hzero : scaleOf num den = 0
  · omega
  · have hlow := le_of_scaleOf _ hden hzero
    rw [← Nat.mul_assoc, ← Nat.pow_add] at hlow
    have hpow := Nat.lt_of_mul_lt_mul_right (Nat.lt_of_le_of_lt hlow h)
    have hexp := (Nat.pow_lt_pow_iff_right (by decide)).mp hpow
    omega

/-- The scale of a share below one. -/
theorem scaleOf_share_lt (hden : 0 < den) (h : num < den) {bits : Nat} (hbits : bits = 1022) :
    scaleOf (num * unitsPerOne) den < bits := by
  refine scaleOf_lt hden (by omega) ?_
  rw [Nat.pow_add, ← unitsPerOne_eq (by omega), Nat.mul_comm unitsPerOne]
  exact Nat.mul_lt_mul_of_pos_right h unitsPerOne_pos

/-- The scale of a share. -/
theorem scaleOf_share (hden : 0 < den) (h : num ≤ den) {bits : Nat} (hbits : bits = 1022) :
    scaleOf (num * unitsPerOne) den < bits + 1 := by
  refine scaleOf_lt hden (Nat.succ_ne_zero bits) ?_
  have hpos : 0 < den * unitsPerOne := Nat.mul_pos hden unitsPerOne_pos
  have hone : unitsPerOne = 2 ^ 52 * 2 ^ bits := unitsPerOne_eq (by omega)
  generalize unitsPerOne = one at *
  calc num * one ≤ den * one := Nat.mul_le_mul_right _ h
    _ < 2 * (den * one) := by omega
    _ = 2 ^ (52 + (bits + 1)) * den := by
      rw [← Nat.add_assoc, Nat.pow_succ, Nat.pow_add, ← hone]
      ac_rfl

/-- **A share is rounded to a magnitude**, the one of its nearest value. -/
theorem exists_ofQuotient?_share (hden : 0 < den) (h : num ≤ den) :
    ∃ m, ofQuotient? num den = some m ∧ m.units = nearestUnits (num * unitsPerOne) den := by
  obtain ⟨bits, hbits⟩ : ∃ bits, bits = 1022 := ⟨_, rfl⟩
  have hscale := scaleOf_share hden h hbits
  have hbelow : num * unitsPerOne < _ := lt_of_scaleOf hden
  have habove := le_of_scaleOf (num * unitsPerOne) hden
  have hstep : 0 < 2 ^ scaleOf (num * unitsPerOne) den * den :=
    Nat.mul_pos (Nat.two_pow_pos _) hden
  have hmost := roundEven_le hstep (Nat.le_of_lt hbelow)
  have hleast := fun hne => le_roundEven hstep (habove hne)
  rw [ofQuotient?_eq rfl rfl rfl]
  unfold nearestUnits
  generalize scaleOf (num * unitsPerOne) den = s at *
  generalize roundEven (num * unitsPerOne) (2 ^ s * den) = mantissa at *
  split
  · -- the mantissa was rounded up to the next power of two
    rename_i hfull
    have hform : 2 ^ 52 < Nat.pow 2 53 ∧ s + 1 ≤ 2045 ∧ (s + 1 = 0 ∨ Nat.pow 2 52 ≤ 2 ^ 52) :=
      ⟨by decide, by omega, Or.inr (Nat.le_refl _)⟩
    refine ⟨_, dif_pos hform, ?_⟩
    show 2 ^ 52 * 2 ^ (s + 1) = _
    rw [hfull, Nat.pow_succ]
    omega
  · rename_i hfull
    have hnormal : s = 0 ∨ Nat.pow 2 52 ≤ mantissa :=
      (Nat.eq_zero_or_pos s).imp_right fun hpos => hleast (Nat.ne_of_gt hpos)
    have hform : mantissa < Nat.pow 2 53 ∧ s ≤ 2045 ∧ (s = 0 ∨ Nat.pow 2 52 ≤ mantissa) :=
      ⟨Nat.lt_of_le_of_ne hmost hfull, by omega, hnormal⟩
    exact ⟨_, dif_pos hform, rfl⟩

/-- **A greater share is rounded to a greater value**, if the denominators are small enough. -/
theorem nearestUnits_lt (hden : 0 < den) (hden' : 0 < den') (h' : num' ≤ den')
    (hclose : den' * den ≤ 2 ^ 52) (h : num * den' < num' * den) :
    nearestUnits (num * unitsPerOne) den < nearestUnits (num' * unitsPerOne) den' := by
  have hless : num < den := by
    refine Nat.lt_of_mul_lt_mul_right (a := den') (Nat.lt_of_lt_of_le h ?_)
    rw [Nat.mul_comm den]
    exact Nat.mul_le_mul_right den h'
  -- the step of a share below one; a share that is one may have a step of twice that
  obtain ⟨bits, hbits⟩ : ∃ bits, bits + 1 = 1022 := ⟨1021, rfl⟩
  obtain ⟨step, hstep⟩ : ∃ step, step = 2 ^ bits := ⟨_, rfl⟩
  have hpos : 0 < step := hstep ▸ Nat.two_pow_pos bits
  have hone : unitsPerOne = 2 ^ 53 * step := hstep ▸ unitsPerOne_eq (by omega)
  have hnarrow : 2 ^ scaleOf (num * unitsPerOne) den ≤ step := by
    rw [hstep]
    exact Nat.pow_le_pow_right (by decide) (Nat.le_of_lt_succ (scaleOf_share_lt hden hless hbits))
  have hwide : 2 ^ scaleOf (num' * unitsPerOne) den' ≤ 2 * step := by
    rw [hstep, ← Nat.pow_succ']
    exact Nat.pow_le_pow_right (by decide) (Nat.le_of_lt_succ (scaleOf_share hden' h' hbits))
  have hhigh := (nearestUnits_bounds_mul (num * unitsPerOne) hden hnarrow den').2
  have hlow := (nearestUnits_bounds_mul (num' * unitsPerOne) hden' hwide den).1
  generalize nearestUnits (num * unitsPerOne) den = units at *
  generalize nearestUnits (num' * unitsPerOne) den' = units' at *
  generalize unitsPerOne = one at *
  refine Nat.lt_of_not_le fun hwrong => ?_
  -- over the common denominator the shares are one apart, and rounding moves them less than that
  have hapart : num * one * den' + one ≤ num' * one * den := by
    rw [Nat.mul_right_comm num, Nat.mul_right_comm num', ← Nat.succ_mul]
    exact Nat.mul_le_mul_right one h
  rw [Nat.mul_comm den] at hhigh
  have hunits : units' * (den' * den) ≤ units * (den' * den) := Nat.mul_le_mul_right _ hwrong
  have hsteps : step * (den' * den) ≤ step * 2 ^ 52 := Nat.mul_le_mul_left step hclose
  rw [Nat.mul_assoc 2 step] at hlow
  omega

end Shares

end Magnitude

/-! ## 5. Doubles -/

namespace Double

section Order

variable {x y z : Double}

theorem lt_of_lt_of_le (h : x.lt y = true) (h' : y.le z = true) : x.lt z = true := by
  cases x with
  | nan => cases h
  | infinite s => cases y <;> cases z <;> simp_all [lt, le]
  | finite s a =>
    cases y with
    | nan => cases h
    | infinite t => cases z <;> simp_all [lt, le]
    | finite t b =>
      cases z with
      | nan => cases h'
      | infinite u => exact h'
      | finite u c =>
        exact decide_eq_true (Int.lt_of_lt_of_le (of_decide_eq_true h) (of_decide_eq_true h'))

theorem lt_of_le_of_lt (h : x.le y = true) (h' : y.lt z = true) : x.lt z = true := by
  cases x with
  | nan => cases h
  | infinite s => cases y <;> cases z <;> simp_all [lt, le]
  | finite s a =>
    cases y with
    | nan => cases h
    | infinite t => cases z <;> simp_all [lt, le]
    | finite t b =>
      cases z with
      | nan => cases h'
      | infinite u => exact h'
      | finite u c =>
        exact decide_eq_true (Int.lt_of_le_of_lt (of_decide_eq_true h) (of_decide_eq_true h'))

theorem lt_irrefl (x : Double) : x.lt x = false := by
  cases x <;> simp [lt]

theorem lt_eq_false_of_le (h : x.le y = true) : y.lt x = false := by
  refine Bool.eq_false_iff.mpr fun hless => ?_
  have hself := lt_of_le_of_lt h hless
  rw [lt_irrefl] at hself
  cases hself

end Order

section Quotients

variable {num den num' den' : Nat}

/-- A share is rounded to the double of its nearest value. -/
theorem exists_ofQuotient_share (hden : 0 < den) (h : num ≤ den) :
    ∃ m, ofQuotient false num den = .finite false m ∧
      m.units = Magnitude.nearestUnits (num * Magnitude.unitsPerOne) den := by
  obtain ⟨m, hm, hunits⟩ := Magnitude.exists_ofQuotient?_share hden h
  refine ⟨m, ?_, hunits⟩
  unfold ofQuotient
  rw [hm]
  rfl

/-- Rounding keeps the order of shares, though it may make two of them equal. -/
theorem le_ofQuotient (hden : 0 < den) (hden' : 0 < den') (h : num ≤ den) (h' : num' ≤ den')
    (hle : num * den' ≤ num' * den) :
    (ofQuotient false num den).le (.ofQuotient false num' den') = true := by
  obtain ⟨m, hm, hunits⟩ := exists_ofQuotient_share hden h
  obtain ⟨m', hm', hunits'⟩ := exists_ofQuotient_share hden' h'
  have hmono : m.units ≤ m'.units := by
    rw [hunits, hunits']
    refine Magnitude.nearestUnits_mono hden hden' ?_
    rw [Nat.mul_right_comm, Nat.mul_right_comm num']
    exact Nat.mul_le_mul_right _ hle
  rw [hm, hm']
  exact decide_eq_true (Int.ofNat_le.mpr hmono)

/-- **Two rounded shares are in the order of their exact values**, if their denominators multiply
    to no more than `2 ^ 52`. -/
theorem lt_ofQuotient_iff (hden : 0 < den) (hden' : 0 < den') (h : num ≤ den) (h' : num' ≤ den')
    (hclose : den' * den ≤ 2 ^ 52) :
    (ofQuotient false num den).lt (.ofQuotient false num' den') = true ↔
      num * den' < num' * den := by
  obtain ⟨m, hm, hunits⟩ := exists_ofQuotient_share hden h
  obtain ⟨m', hm', hunits'⟩ := exists_ofQuotient_share hden' h'
  have hunits_iff : (ofQuotient false num den).lt (.ofQuotient false num' den') = true ↔
      m.units < m'.units := by
    rw [hm, hm']
    exact decide_eq_true_iff.trans Int.ofNat_lt
  rw [hunits_iff, hunits, hunits']
  refine ⟨fun hless => Nat.lt_of_not_le fun hle => ?_,
    Magnitude.nearestUnits_lt hden hden' h' hclose⟩
  refine absurd hless (Nat.not_lt.mpr (Magnitude.nearestUnits_mono hden' hden ?_))
  rw [Nat.mul_right_comm, Nat.mul_right_comm num]
  exact Nat.mul_le_mul_right _ hle

/-- A rounded share lies between zero and one. -/
theorem isShare_ofQuotient (hden : 0 < den) (h : num ≤ den) :
    (ofQuotient false num den).isShare = true := by
  have hone : (ofQuotient false num den).le .one = true :=
    le_ofQuotient hden Nat.one_pos h (Nat.le_refl 1) (by omega)
  obtain ⟨m, hm, _⟩ := exists_ofQuotient_share hden h
  unfold isShare
  rw [hone, hm]
  show decide (((0 * 1 : Nat) : Int) ≤ m.units) = true
  exact decide_eq_true (Int.natCast_nonneg m.units)

/-- **A share above zero is rounded to a double above zero**, unless its denominator counts more
    than there are units in one. -/
theorem zero_lt_ofQuotient (negative : Bool) (hnum : 0 < num) (h : num ≤ den)
    (hfine : den ≤ Magnitude.unitsPerOne) :
    (finite negative .zero).lt (ofQuotient false num den) = true := by
  have hden : 0 < den := Nat.lt_of_lt_of_le hnum h
  obtain ⟨m, hm, hunits⟩ := exists_ofQuotient_share hden h
  have hone : Magnitude.nearestUnits 1 1 ≤ m.units := by
    rw [hunits]
    refine Magnitude.nearestUnits_mono Nat.one_pos hden ?_
    rw [Nat.one_mul, Nat.mul_one]
    exact Nat.le_trans hfine (Nat.le_mul_of_pos_left _ hnum)
  have hpos : (0 : Int) < m.units :=
    Int.natCast_pos.mpr (Nat.lt_of_lt_of_le (show 0 < Magnitude.nearestUnits 1 1 by decide) hone)
  have hzero : signedUnits negative .zero = 0 := by cases negative <;> decide
  rw [hm]
  refine decide_eq_true ?_
  rw [hzero]
  exact hpos

end Quotients

end Double

end SampleSchema
