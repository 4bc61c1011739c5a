import SampleSchema.Proofs.Json.Grammar

/-!
# Reading strings

A string is read exactly as the grammar has it. What is read is spelled so (`exists_of_string`), and
what is spelled so is read (`string_of_spells`).

The reader keeps what it has read in reverse, and a first half of a surrogate pair that waits for
its second half. Both directions rest on one invariant: what is read, then what waits, then the
pieces to come make up the text of the string (`joinUnits_settle`, `joinUnits_pushUnit`).
-/

namespace SampleSchema

namespace Reader

/-! ## 1. Pieces -/

/-- A first half of a surrogate pair that waits for its second half, as a piece. -/
def waiting (high : Option Nat) : List StringPiece := high.toList.map .inr

/-- What waits is a first half. -/
def IsWaiting (high : Option Nat) : Prop := ∀ u, high = some u → IsHighUnit u

theorem isWaiting_none : IsWaiting none := by
  intro u hu
  cases hu

theorem isWaiting_some {u : Nat} (hu : IsHighUnit u) : IsWaiting (some u) := by
  intro w hw
  cases hw
  exact hu

/-- A unit that is no first half stands alone. -/
theorem joinUnits_cons_of_not_high {u : Nat} (hu : ¬ IsHighUnit u) (pieces : List StringPiece) :
    joinUnits (.inr u :: pieces) = .ofUnit u :: joinUnits pieces := by
  cases pieces with
  | nil => rfl
  | cons piece pieces =>
    cases piece with
    | inl c => rfl
    | inr w => exact if_neg fun hpair => hu hpair.1

/-- A first half stands alone if no second half follows it. -/
theorem joinUnits_cons_of_not_low {u w : Nat} (hw : ¬ IsLowUnit w) (pieces : List StringPiece) :
    joinUnits (.inr u :: .inr w :: pieces) = .ofUnit u :: joinUnits (.inr w :: pieces) :=
  if_neg fun hpair => hw hpair.2

/-- A first half is no second half. -/
theorem not_isLowUnit_of_isHighUnit {u : Nat} (hu : IsHighUnit u) : ¬ IsLowUnit u := by
  unfold IsHighUnit at hu
  unfold IsLowUnit
  omega

section Pieces

variable (high : Option Nat) (read : RawText) (pieces : List StringPiece)

/-- Behind a character nothing waits. -/
theorem joinUnits_settle (c : Char) :
    (.char c :: settle high read).reverse ++ joinUnits pieces =
      read.reverse ++ joinUnits (waiting high ++ .inl c :: pieces) := by
  cases high with
  | none =>
    show (.char c :: read).reverse ++ joinUnits pieces =
      read.reverse ++ (.char c :: joinUnits pieces)
    simp
  | some u =>
    show (.char c :: .ofUnit u :: read).reverse ++ joinUnits pieces =
      read.reverse ++ (.ofUnit u :: .char c :: joinUnits pieces)
    simp

theorem joinUnits_settle_nil :
    (settle high read).reverse = read.reverse ++ joinUnits (waiting high) := by
  cases high with
  | none => exact (List.append_nil _).symm
  | some u => exact List.reverse_cons

/-- In front of a unit that is no second half, what waits stands alone. -/
theorem joinUnits_waiting {u : Nat} (hlow : ¬ IsLowUnit u) :
    (settle high read).reverse ++ joinUnits (.inr u :: pieces) =
      read.reverse ++ joinUnits (waiting high ++ .inr u :: pieces) := by
  cases high with
  | none => rfl
  | some w =>
    have hjoin : joinUnits (waiting (some w) ++ .inr u :: pieces) =
        .ofUnit w :: joinUnits (.inr u :: pieces) := joinUnits_cons_of_not_low hlow pieces
    rw [hjoin]
    show (.ofUnit w :: read).reverse ++ _ = _
    simp

/-- **One more unit** joins what waits, or waits itself, or stands alone. -/
theorem joinUnits_pushUnit (hhigh : IsWaiting high) (u : Nat) :
    IsWaiting (pushUnit high u read).1 ∧
    (pushUnit high u read).2.reverse ++ joinUnits (waiting (pushUnit high u read).1 ++ pieces) =
      read.reverse ++ joinUnits (waiting high ++ .inr u :: pieces) := by
  by_cases hu : IsHighUnit u
  · have hpush : pushUnit high u read = (some u, settle high read) := if_pos hu
    rw [hpush]
    exact ⟨isWaiting_some hu, joinUnits_waiting high read pieces (not_isLowUnit_of_isHighUnit hu)⟩
  · cases high with
    | none =>
      have hpush : pushUnit none u read = (none, .ofUnit u :: read) := if_neg hu
      have hjoin : joinUnits (waiting none ++ .inr u :: pieces) = .ofUnit u :: joinUnits pieces :=
        joinUnits_cons_of_not_high hu pieces
      rw [hpush, hjoin]
      exact ⟨isWaiting_none, by simp [waiting]⟩
    | some w =>
      have hpush : pushUnit (some w) u read =
          if IsLowUnit u then (none, .char (pairedUnits w u) :: read)
          else (none, .ofUnit u :: .ofUnit w :: read) := if_neg hu
      by_cases hlow : IsLowUnit u
      · have hjoin : joinUnits (waiting (some w) ++ .inr u :: pieces) =
            .char (pairedUnits w u) :: joinUnits pieces := if_pos ⟨hhigh w rfl, hlow⟩
        rw [hpush, if_pos hlow, hjoin]
        exact ⟨isWaiting_none, by simp [waiting]⟩
      · have halone := joinUnits_waiting (some w) read pieces hlow
        rw [joinUnits_cons_of_not_high hu] at halone
        rw [hpush, if_neg hlow, ← halone]
        exact ⟨isWaiting_none, by simp [waiting, settle]⟩

end Pieces

/-! ## 2. Strings as they are written -/

/-- One digit more of a `\u` escape. -/
theorem stringRest_unicode (opened escaped : List Char) (due value : Nat) (high : Option Nat)
    (read : RawText) {c : Char} {d : Nat} (hd : hexDigit? c = some d) (rest : List Char) :
    stringRest opened (.unicode escaped (due + 2) value) high read (c :: rest) =
      stringRest opened (.unicode escaped (due + 1) (value * 16 + d)) high read rest := by
  rw [stringRest]
  simp [hd]

/-- **Pieces of a string are read as they are written**, up to the closing quote. -/
theorem stringRest_of_spells {raw : List Char} {pieces : List StringPiece}
    (h : SpellsPieces raw pieces) (opened : List Char) (escaped : Option (List Char))
    {high : Option Nat} (hhigh : IsWaiting high) (read : RawText)
    (rest : List Char) :
    stringRest opened (.plain escaped) high read (raw ++ '"' :: rest) =
      .ok (read.reverse ++ joinUnits (waiting high ++ pieces), rest) := by
  induction h generalizing escaped high read with
  | nil =>
    rw [List.append_nil, ← joinUnits_settle_nil]
    rfl
  | @plain c cs pieces hquote hslash hcontrol h ih =>
    rw [List.cons_append, stringRest, if_neg hquote, if_neg hslash, if_neg (by omega),
      ih _ isWaiting_none, ← joinUnits_settle]
    rfl
  | @short e c cs pieces he h ih =>
    have hu : e ≠ 'u' := by
      rintro rfl
      cases he
    rw [List.cons_append, List.cons_append, stringRest, if_neg (by decide), if_pos rfl, stringRest,
      if_neg hu]
    simp only [he]
    rw [ih _ isWaiting_none, ← joinUnits_settle]
    rfl
  | @unicode c₁ c₂ c₃ c₄ d₁ d₂ d₃ d₄ cs pieces h₁ h₂ h₃ h₄ h ih =>
    obtain ⟨hpushed, hjoin⟩ :=
      joinUnits_pushUnit high read pieces hhigh (((d₁ * 16 + d₂) * 16 + d₃) * 16 + d₄)
    have hopen : ∀ tail, stringRest opened (.plain escaped) high read ('\\' :: 'u' :: tail) =
        stringRest opened (.unicode tail 4 0) high read tail := fun _ => rfl
    have hlast : ∀ escaped value tail,
        stringRest opened (.unicode escaped 1 value) high read (c₄ :: tail) =
          stringRest opened (.plain (some escaped)) (pushUnit high (value * 16 + d₄) read).1
            (pushUnit high (value * 16 + d₄) read).2 tail := by
      intro escaped value tail
      rw [stringRest]
      simp [h₄]
    simp only [List.cons_append]
    rw [hopen, stringRest_unicode _ _ 2 _ _ _ h₁, stringRest_unicode _ _ 1 _ _ _ h₂,
      stringRest_unicode _ _ 0 _ _ _ h₃, hlast, Nat.zero_mul, Nat.zero_add, ih _ hpushed, hjoin]

/-- **A string is read as it is written.** -/
theorem string_of_spells {raw : List Char} {s : RawText} (h : SpellsString raw s)
    (rest : List Char) : string (raw ++ '"' :: rest) = .ok (s, rest) := by
  obtain ⟨pieces, hpieces, rfl⟩ := h
  exact stringRest_of_spells hpieces _ none isWaiting_none [] rest

/-! ## 3. Strings as they are read -/

/-- A `\u` escape that is read goes on with a digit. -/
theorem exists_of_unicode {opened escaped : List Char} {due value : Nat} {high : Option Nat}
    {read : RawText} {cs : List Char} {r : RawText × List Char}
    (h : stringRest opened (.unicode escaped (due + 1) value) high read cs = .ok r) :
    ∃ c d rest, cs = c :: rest ∧ hexDigit? c = some d ∧
      (match due with
        | 0 => stringRest opened (.plain (some escaped)) (pushUnit high (value * 16 + d) read).1
            (pushUnit high (value * 16 + d) read).2 rest
        | due + 1 => stringRest opened (.unicode escaped (due + 1) (value * 16 + d)) high read rest) =
      .ok r := by
  cases cs with
  | nil => cases h
  | cons c rest =>
    rw [stringRest] at h
    cases hd : hexDigit? c with
    | none =>
      rw [hd] at h
      cases h
    | some d =>
      rw [hd] at h
      refine ⟨c, d, rest, rfl, hd, ?_⟩
      cases due with
      | zero => exact h
      | succ due => exact h

/-- **A piece taken off a string**: how it is written, what it stands for, and where the reader
    stands behind it. -/
inductive TakesPiece (opened : List Char) (high : Option Nat) (read : RawText)
    (cs : List Char) (r : RawText × List Char) : Prop
  | mk (written more : List Char) (read' : RawText) (piece : StringPiece)
      (escaped : Option (List Char)) (high' : Option Nat) (hcs : cs = written ++ more)
      (hshorter : more.length < cs.length)
      (hspells : ∀ {raw pieces}, SpellsPieces raw pieces →
        SpellsPieces (written ++ raw) (piece :: pieces))
      (hwaiting : IsWaiting high')
      (hjoin : ∀ pieces, read'.reverse ++ joinUnits (waiting high' ++ pieces) =
        read.reverse ++ joinUnits (waiting high ++ piece :: pieces))
      (h : stringRest opened (.plain escaped) high' read' more = .ok r) :
      TakesPiece opened high read cs r

section Take

variable {opened : List Char} {read : RawText} {high : Option Nat} (hhigh : IsWaiting high)
include hhigh

theorem takesPiece_of_escape {cs : List Char} {r : RawText × List Char}
    (h : stringRest opened .escape high read cs = .ok r) :
    TakesPiece opened high read ('\\' :: cs) r := by
  cases cs with
  | nil => cases h
  | cons e more =>
    rw [stringRest] at h
    split at h
    · rename_i hu
      subst hu
      obtain ⟨c₁, d₁, more, rfl, h₁, h⟩ := exists_of_unicode h
      obtain ⟨c₂, d₂, more, rfl, h₂, h⟩ := exists_of_unicode h
      obtain ⟨c₃, d₃, more, rfl, h₃, h⟩ := exists_of_unicode h
      obtain ⟨c₄, d₄, more, rfl, h₄, h⟩ := exists_of_unicode h
      have hpushed := fun pieces => joinUnits_pushUnit high read pieces hhigh
        (((d₁ * 16 + d₂) * 16 + d₃) * 16 + d₄)
      rw [Nat.zero_mul, Nat.zero_add] at h
      refine .mk ['\\', 'u', c₁, c₂, c₃, c₄] more _ _ _ _ rfl ?_ (.unicode h₁ h₂ h₃ h₄)
        (hpushed []).1 (fun pieces => (hpushed pieces).2) h
      simp only [List.length_cons]
      omega
    · cases he : shortEscape? e with
      | none =>
        rw [he] at h
        cases h
      | some c =>
        rw [he] at h
        refine .mk ['\\', e] more _ _ _ _ rfl ?_ (.short he) isWaiting_none
          (fun pieces => joinUnits_settle high read pieces c) h
        simp only [List.length_cons]
        omega

/-- **What is read as a string** is a closing quote, or begins with a piece. -/
theorem stringRest_cases {cs rest : List Char} {s : RawText} {escaped : Option (List Char)}
    (h : stringRest opened (.plain escaped) high read cs = .ok (s, rest)) :
    (cs = '"' :: rest ∧ s = (settle high read).reverse) ∨
      TakesPiece opened high read cs (s, rest) := by
  cases cs with
  | nil => cases escaped <;> cases h
  | cons c cs =>
    rw [stringRest] at h
    split at h
    · rename_i hquote
      subst hquote
      cases h
      exact Or.inl ⟨rfl, rfl⟩
    · rename_i hquote
      split at h
      · rename_i hslash
        subst hslash
        exact Or.inr (takesPiece_of_escape hhigh h)
      · rename_i hslash
        split at h
        · cases h
        · rename_i hcontrol
          exact Or.inr (.mk [c] cs _ _ _ _ rfl (Nat.lt_succ_self _)
            (.plain hquote hslash (by omega)) isWaiting_none
            (fun pieces => joinUnits_settle high read pieces c) h)

end Take

/-- What is read as a string is written as pieces and a closing quote. -/
theorem exists_of_stringRest {opened rest : List Char} {s : RawText} (n : Nat) {cs : List Char}
    {read : RawText} (hlength : cs.length ≤ n) {escaped : Option (List Char)} {high : Option Nat}
    (hhigh : IsWaiting high)
    (h : stringRest opened (.plain escaped) high read cs = .ok (s, rest)) :
    ∃ raw pieces, cs = raw ++ '"' :: rest ∧ SpellsPieces raw pieces ∧
      s = read.reverse ++ joinUnits (waiting high ++ pieces) := by
  -- each piece makes the text shorter, by one, two or six characters
  induction n generalizing cs read escaped high with
  | zero =>
    rw [List.length_eq_zero_iff.mp (Nat.le_zero.mp hlength)] at h
    cases escaped <;> cases h
  | succ n ih =>
    rcases stringRest_cases hhigh h with
      ⟨rfl, rfl⟩ | ⟨written, more, _, _, _, _, rfl, hshorter, hspells, hwaiting, hjoin, hrest⟩
    · refine ⟨[], [], rfl, .nil, ?_⟩
      rw [joinUnits_settle_nil, List.append_nil]
    · have hmore : more.length ≤ n := by omega
      obtain ⟨raw, pieces, rfl, hpieces, hs⟩ := ih hmore hwaiting hrest
      refine ⟨_, _, (List.append_assoc _ _ _).symm, hspells hpieces, ?_⟩
      rw [← hjoin]
      exact hs

/-- **What is read as a string is written so.** -/
theorem exists_of_string {cs rest : List Char} {s : RawText} (h : string cs = .ok (s, rest)) :
    ∃ raw, cs = raw ++ '"' :: rest ∧ SpellsString raw s := by
  obtain ⟨raw, pieces, hcs, hpieces, hs⟩ :=
    exists_of_stringRest cs.length (Nat.le_refl _) isWaiting_none h
  exact ⟨raw, hcs, pieces, hpieces, hs⟩

end Reader

end SampleSchema
