import SampleSchema.Number.Spelling
import SampleSchema.Proofs.Json.Grammar
import SampleSchema.Proofs.Lists
import SampleSchema.Proofs.Number.Decimals

/-!
# How numbers are written

What is written for a finite double is a number of the grammar that stands for just that double,
its sign included, in each of the spellings (`Spelling.spellsNumber_text`). The digits are the same
in all of them; a point between them, zeros around them and an exponent behind them leave the value
as it is. An integer is written as itself, which is refused only for too many digits
(`spellsNumber_toString`).
-/

namespace SampleSchema

/-! ## 1. Digits -/

namespace Numeral

theorem value_eq (digits : List Char) : value digits = Nat.ofDigitChars 10 digits 0 := rfl

theorem value_append (front back : List Char) :
    value (front ++ back) = 10 ^ back.length * value front + value back := by
  rw [value_eq, Nat.ofDigitChars_append, Nat.ofDigitChars_eq_ofDigitChars_zero, value_eq, value_eq]

theorem value_zeros (n : Nat) : value (List.replicate n '0') = 0 := by
  rw [value_eq, Nat.ofDigitChars_replicate_zero, Nat.mul_zero]

theorem value_zeros_append (n : Nat) (digits : List Char) :
    value (List.replicate n '0' ++ digits) = value digits := by
  rw [value_append, value_zeros, Nat.mul_zero, Nat.zero_add]

theorem value_append_zeros (digits : List Char) (n : Nat) :
    value (digits ++ List.replicate n '0') = value digits * 10 ^ n := by
  rw [value_append, value_zeros, List.length_replicate, Nat.add_zero, Nat.mul_comm]

theorem value_toDigits (n : Nat) : value (Nat.toDigits 10 n) = n := Nat.ofDigitChars_ten_toDigits

end Numeral

theorem isDigits_toDigits (n : Nat) : IsDigits (Nat.toDigits 10 n) := by
  refine ⟨Nat.toDigits_ne_nil, fun c hc => ?_⟩
  have hdigit := Nat.isDigit_of_mem_toDigits (by decide) (by decide) hc
  unfold Char.isDigit at hdigit
  unfold isAsciiDigit
  exact hdigit

/-- A number that is not zero does not begin with one. -/
theorem head?_toDigits {n : Nat} (h : n ≠ 0) : (Nat.toDigits 10 n).head? ≠ some '0' := by
  induction n using Nat.strongRecOn with
  | ind n ih =>
    by_cases hsmall : n < 10
    · rw [Nat.toDigits_of_lt_base hsmall]
      intro hzero
      exact h (Nat.digitChar_eq_zero.mp (Option.some.inj hzero))
    · have hlarge : 10 ≤ n := Nat.le_of_not_lt hsmall
      rw [Nat.toDigits_of_base_le (by decide) hlarge, List.head?_append_of_ne_nil _
        Nat.toDigits_ne_nil]
      exact ih (n / 10) (by omega) (by omega)

/-- **An integer is written as a whole number.** -/
theorem isWhole_toDigits (n : Nat) : IsWhole (Nat.toDigits 10 n) := by
  refine ⟨isDigits_toDigits n, ?_⟩
  by_cases h : n = 0
  · subst h
    exact Or.inl (Nat.toDigits_zero 10)
  · exact Or.inr (head?_toDigits h)

theorem isWhole_zero : IsWhole ['0'] :=
  ⟨⟨List.cons_ne_nil _ _, List.forall_mem_singleton.mpr (by decide)⟩, Or.inl rfl⟩

theorem IsDigits.append {front back : List Char} (h : IsDigits front)
    (h' : ∀ c ∈ back, isAsciiDigit c = true) : IsDigits (front ++ back) := by
  refine ⟨List.append_ne_nil_of_left_ne_nil h.1 _, fun c hc => ?_⟩
  rcases List.mem_append.mp hc with hc | hc
  · exact h.2 c hc
  · exact h' c hc

theorem isAsciiDigit_of_mem_zeros {n : Nat} {c : Char} (h : c ∈ List.replicate n '0') :
    isAsciiDigit c = true := by
  rw [List.eq_of_mem_replicate h]
  decide

/-! ## 2. The digits of a double -/

/-- **Digits of a magnitude**: they begin with no zero, and a decimal with these digits before its
    exponent is rounded to the magnitude. -/
structure Decimal.Spells (d : Decimal) (m : Magnitude) : Prop where
  digits : IsDigits d.digits
  head : d.digits.head? ≠ some '0'
  admits : m.admitsDecimal (Numeral.value d.digits) (d.point - d.digits.length)

/-- The digits of a coefficient, and the zeros that it ends in. -/
theorem exists_zeros (coefficient : Nat) (exponent : Int) : ∃ zeros,
    Nat.toDigits 10 coefficient =
      (Decimal.ofScientific coefficient exponent).digits ++ List.replicate zeros '0' := by
  obtain ⟨turned, hturned⟩ : ∃ turned, turned = (Nat.toDigits 10 coefficient).reverse := ⟨_, rfl⟩
  have hdigits : (Decimal.ofScientific coefficient exponent).digits =
      (turned.dropWhile (· == '0')).reverse := by
    rw [hturned]
    rfl
  have hzeros : turned.takeWhile (· == '0') =
      List.replicate (turned.takeWhile (· == '0')).length '0' := by
    refine List.eq_replicate_of_mem fun c hc => ?_
    have hzero := eq_true_of_mem_takeWhile (p := (· == '0')) hc
    exact beq_iff_eq.mp hzero
  refine ⟨(turned.takeWhile (· == '0')).length, ?_⟩
  rw [← List.reverse_replicate, ← hzeros, hdigits, ← List.reverse_append,
    List.takeWhile_append_dropWhile, hturned, List.reverse_reverse]

/-- **The shortest decimal spells its magnitude.** -/
theorem spells_shortest {m : Magnitude} (hm : m.mantissa ≠ 0) : m.shortest.Spells m := by
  obtain ⟨coefficient, exponent, hshortest, hadmits⟩ := m.exists_shortest
  obtain ⟨zeros, hzeros⟩ := exists_zeros coefficient exponent
  have hcoefficient := Magnitude.coefficient_ne_zero hm hadmits
  rw [hshortest]
  obtain ⟨digits, hdigits⟩ : ∃ digits, digits = (Decimal.ofScientific coefficient exponent).digits :=
    ⟨_, rfl⟩
  have hpoint : (Decimal.ofScientific coefficient exponent).point =
      exponent + (Nat.toDigits 10 coefficient).length := rfl
  rw [← hdigits] at hzeros
  have hvalue : coefficient = Numeral.value digits * 10 ^ zeros := by
    rw [← Numeral.value_append_zeros, ← hzeros, Numeral.value_toDigits]
  have hne : digits ≠ [] := by
    rintro rfl
    exact hcoefficient (hvalue.trans (Nat.zero_mul _))
  refine ⟨⟨hdigits ▸ hne, fun c hc => ?_⟩, ?_, ?_⟩
  · rw [← hdigits] at hc
    refine (isDigits_toDigits coefficient).2 c ?_
    rw [hzeros]
    exact List.mem_append_left _ hc
  · rw [← hdigits, ← List.head?_append_of_ne_nil digits hne, ← hzeros]
    exact head?_toDigits hcoefficient
  · have hlength : (Nat.toDigits 10 coefficient).length = digits.length + zeros := by
      rw [hzeros, List.length_append, List.length_replicate]
    have hshift : exponent + (Nat.toDigits 10 coefficient).length - digits.length =
        exponent + zeros := by omega
    rw [hpoint, ← hdigits, hshift, ← m.admits_shift, ← hvalue]
    exact hadmits

/-! ## 3. The text of a double -/

namespace Spelling

variable {d : Decimal} {m : Magnitude}

/-- A number with a fraction, whose value is rounded to a magnitude. -/
theorem spellsNumber_fraction (negative : Bool) (hm : m.mantissa ≠ 0) {whole fraction : List Char}
    (hwhole : IsWhole whole) (hfraction : IsDigits fraction)
    (h : m.admitsDecimal (Numeral.value (whole ++ fraction)) (-(fraction.length : Int))) :
    SpellsNumber (minusSign negative ++ (whole ++ pointed fraction))
      (.double (.finite negative m)) := by
  rw [← Numeral.toDouble_of_admits negative hm h]
  exact .fraction hwhole hfraction

section Point

variable (negative : Bool) (hm : m.mantissa ≠ 0) (h : d.Spells m)
include hm h

/-- **The point in front of the digits**, with a zero before it and zeros behind it. -/
theorem spellsNumber_pointInFront (hpoint : d.point ≤ 0) :
    SpellsNumber
      (minusSign negative ++ (['0', '.'] ++ List.replicate (-d.point).toNat '0' ++ d.digits))
      (.double (.finite negative m)) := by
  obtain ⟨fraction, hfraction⟩ :
      ∃ fraction, fraction = List.replicate (-d.point).toNat '0' ++ d.digits := ⟨_, rfl⟩
  have hdigits : IsDigits fraction := by
    rw [hfraction]
    refine ⟨List.append_ne_nil_of_right_ne_nil _ h.digits.1, fun c hc => ?_⟩
    rcases List.mem_append.mp hc with hc | hc
    · exact isAsciiDigit_of_mem_zeros hc
    · exact h.digits.2 c hc
  have htext : ['0', '.'] ++ List.replicate (-d.point).toNat '0' ++ d.digits =
      ['0'] ++ pointed fraction := by
    rw [pointed_of_ne_nil hdigits.1, hfraction]
    rfl
  have hvalue : Numeral.value (['0'] ++ fraction) = Numeral.value d.digits := by
    rw [hfraction, ← List.append_assoc]
    exact Numeral.value_zeros_append ((-d.point).toNat + 1) d.digits
  have hexponent : -(fraction.length : Int) = d.point - d.digits.length := by
    rw [hfraction, List.length_append, List.length_replicate]
    omega
  rw [htext]
  refine spellsNumber_fraction negative hm isWhole_zero hdigits ?_
  rw [hvalue, hexponent]
  exact h.admits

/-- **The point behind the digits**, with zeros up to it and a zero behind it. -/
theorem spellsNumber_pointBehind {zeros : Nat}
    (hpoint : d.point = (d.digits.length + zeros : Nat)) :
    SpellsNumber (minusSign negative ++ (d.digits ++ List.replicate zeros '0' ++ ['.', '0']))
      (.double (.finite negative m)) := by
  have hwhole : IsWhole (d.digits ++ List.replicate zeros '0') := by
    refine ⟨h.digits.append fun c hc => isAsciiDigit_of_mem_zeros hc, Or.inr ?_⟩
    rw [List.head?_append_of_ne_nil _ h.digits.1]
    exact h.head
  have hvalue : Numeral.value (d.digits ++ List.replicate zeros '0' ++ ['0']) =
      Numeral.value d.digits * 10 ^ (zeros + 1) := by
    rw [List.append_assoc, ← Numeral.value_append_zeros, List.replicate_succ']
  have hexponent : -((['0'] : List Char).length : Int) + (zeros + 1 : Nat) =
      d.point - d.digits.length := by
    rw [hpoint, List.length_singleton]
    omega
  refine spellsNumber_fraction negative hm hwhole isWhole_zero.1 ?_
  rw [hvalue, m.admits_shift, hexponent]
  exact h.admits

/-- **The point between the digits.** -/
theorem spellsNumber_pointBetween {point : Nat} (hpoint : d.point = point) (hpos : 0 < point)
    (hless : point < d.digits.length) :
    SpellsNumber (minusSign negative ++ (d.digits.take point ++ ['.'] ++ d.digits.drop point))
      (.double (.finite negative m)) := by
  have hfraction : IsDigits (d.digits.drop point) := by
    refine ⟨?_, fun c hc => h.digits.2 c (List.mem_of_mem_drop hc)⟩
    rw [ne_eq, List.drop_eq_nil_iff]
    omega
  have hwhole : IsWhole (d.digits.take point) := by
    refine ⟨⟨?_, fun c hc => h.digits.2 c (List.mem_of_mem_take hc)⟩, Or.inr ?_⟩
    · rw [ne_eq, List.take_eq_nil_iff]
      rintro (hnil | hnil)
      · omega
      · exact h.digits.1 hnil
    · rw [List.head?_take, if_neg (by omega)]
      exact h.head
  have hexponent : -((d.digits.drop point).length : Int) = d.point - d.digits.length := by
    rw [hpoint, List.length_drop]
    omega
  rw [List.append_assoc, List.singleton_append, ← pointed_of_ne_nil hfraction.1]
  refine spellsNumber_fraction negative hm hwhole hfraction ?_
  rw [List.take_append_drop, hexponent]
  exact h.admits

/-- **A decimal without an exponent.** -/
theorem spellsNumber_positionalText :
    SpellsNumber (minusSign negative ++ positionalText d) (.double (.finite negative m)) := by
  unfold positionalText
  by_cases hpoint : d.point ≤ 0
  · rw [if_pos hpoint]
    exact spellsNumber_pointInFront negative hm h hpoint
  · obtain ⟨point, hpos, hnat⟩ : ∃ point : Nat, 0 < point ∧ d.point = point :=
      ⟨d.point.toNat, by omega, by omega⟩
    rw [if_neg hpoint, hnat]
    dsimp only
    rw [Int.toNat_natCast]
    by_cases hlength : d.digits.length ≤ point
    · obtain ⟨zeros, rfl⟩ : ∃ zeros, point = d.digits.length + zeros :=
        Nat.exists_eq_add_of_le hlength
      rw [if_pos hlength, Nat.add_sub_cancel_left]
      exact spellsNumber_pointBehind negative hm h hnat
    · rw [if_neg hlength]
      exact spellsNumber_pointBetween negative hm h hnat hpos (Nat.lt_of_not_le hlength)

end Point

/-- **How an exponent is written**, whatever its sign. -/
theorem spellsExponent_exponentText (style : Spelling) (e : Int) :
    SpellsExponent ('e' :: style.exponentText e) e := by
  obtain ⟨digits, hdigits⟩ : ∃ digits, digits = List.replicate
      (style.exponentWidth - (Nat.toDigits 10 e.natAbs).length) '0' ++ Nat.toDigits 10 e.natAbs :=
    ⟨_, rfl⟩
  have hall : IsDigits digits := by
    refine ⟨hdigits ▸ List.append_ne_nil_of_right_ne_nil _ Nat.toDigits_ne_nil, fun c hc => ?_⟩
    rw [hdigits] at hc
    rcases List.mem_append.mp hc with hc | hc
    · exact isAsciiDigit_of_mem_zeros hc
    · exact (isDigits_toDigits _).2 c hc
  have hvalue : Numeral.value digits = e.natAbs := by
    rw [hdigits, Numeral.value_zeros_append, Numeral.value_toDigits]
  unfold exponentText
  dsimp only
  rw [List.append_assoc, ← hdigits]
  by_cases hneg : e < 0
  · have he : e = -(Numeral.value digits : Int) := by omega
    rw [if_pos hneg, he]
    exact .minus (Or.inl rfl) hall
  · have he : e = Numeral.value digits := by omega
    rw [if_neg hneg, he]
    split
    · exact .plus (Or.inl rfl) hall
    · exact .bare (Or.inl rfl) hall

/-- **A decimal with an exponent.** -/
theorem spellsNumber_scientificText (style : Spelling) (negative : Bool) (hm : m.mantissa ≠ 0)
    (h : d.Spells m) :
    SpellsNumber (minusSign negative ++ style.scientificText d) (.double (.finite negative m)) := by
  obtain ⟨hdigits, hhead, hadmits⟩ := h
  obtain ⟨c, fraction, hcons⟩ := List.exists_cons_of_ne_nil hdigits.1
  rw [hcons] at hhead hadmits hdigits
  have hwhole : IsWhole [c] :=
    ⟨⟨by simp, fun a ha => hdigits.2 a (List.mem_singleton.mp ha ▸ List.mem_cons_self)⟩, Or.inr hhead⟩
  have hfraction : fraction = [] ∨ IsDigits fraction := by
    by_cases hnil : fraction = []
    · exact Or.inl hnil
    · exact Or.inr ⟨hnil, fun a ha => hdigits.2 a (List.mem_cons_of_mem _ ha)⟩
  have htext : style.scientificText d =
      [c] ++ (pointed fraction ++ ('e' :: style.exponentText d.scientificExponent)) := by
    have hpointed : (if fraction.isEmpty then [] else '.' :: fraction) = pointed fraction := by
      cases fraction <;> rfl
    unfold scientificText
    rw [hcons]
    show [c] ++ (if fraction.isEmpty then [] else '.' :: fraction) ++ ['e'] ++ _ = _
    rw [hpointed, List.append_assoc, List.append_assoc]
    rfl
  have hexponent : d.scientificExponent - (fraction.length : Int) =
      d.point - ((c :: fraction).length : Int) := by
    unfold Decimal.scientificExponent
    rw [List.length_cons]
    omega
  have hround := Numeral.toDouble_of_admits negative hm hadmits
  rw [htext, ← hround, ← hexponent]
  exact .exponent hwhole hfraction (spellsExponent_exponentText style _)

/-- **What is written for a finite double is a number that stands for it.** -/
theorem spellsNumber_text (style : Spelling) (negative : Bool) (m : Magnitude) :
    SpellsNumber (style.text (.finite negative m)).toList (.double (.finite negative m)) := by
  have htext : (style.text (.finite negative m)).toList =
      minusSign negative ++ style.magnitudeText m := String.toList_ofList
  rw [htext]
  unfold magnitudeText
  by_cases hm : m.mantissa = 0
  · have hzero : m = .zero := by
      obtain ⟨mantissa, scale, _, _, hnormal⟩ := m
      cases hm
      have hscale : scale = 0 := hnormal.resolve_right (by decide)
      cases hscale
      rfl
    have hwhole : IsWhole ['0'] := isWhole_zero
    rw [if_pos hm, hzero]
    exact .fraction hwhole hwhole.1
  · rw [if_neg hm]
    unfold decimalText
    dsimp only
    split
    · exact spellsNumber_positionalText negative hm (spells_shortest hm)
    · exact spellsNumber_scientificText style negative hm (spells_shortest hm)

end Spelling

/-! ## 4. The text of an integer -/

theorem toList_toString (z : Int) :
    (toString z).toList = minusSign (decide (z < 0)) ++ Nat.toDigits 10 z.natAbs := by
  rw [Int.toString_eq_repr]
  cases z with
  | ofNat n => exact Nat.toList_repr
  | negSucc n =>
    have hneg : decide (Int.negSucc n < 0) = true := decide_eq_true (Int.negSucc_lt_zero n)
    show ("-" ++ (n + 1).repr).toList = _
    rw [String.toList_append, Nat.toList_repr, hneg]
    rfl

/-- **An integer is written as itself**, and read if it has not too many digits. -/
theorem spellsNumber_toString {z : Int}
    (h : (Nat.toDigits 10 z.natAbs).length ≤ Numeral.maxDigits) :
    SpellsNumber (toString z).toList (.int z) := by
  have hsigned : Numeral.signed (decide (z < 0)) z.natAbs = z := by
    unfold Numeral.signed
    by_cases hneg : z < 0
    · rw [decide_eq_true hneg, if_pos rfl]
      omega
    · rw [decide_eq_false hneg, if_neg Bool.false_ne_true]
      omega
  have hspells := @SpellsNumber.int (decide (z < 0)) _ (isWhole_toDigits z.natAbs) h
  rw [Numeral.value_toDigits, hsigned] at hspells
  rw [toList_toString]
  exact hspells

end SampleSchema
