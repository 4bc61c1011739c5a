import SampleSchema.Proofs.Script.Token

/-!
# Pieces of code, read one after the other

A reader of a piece takes tokens from the front and gives what they are, with the tokens behind
them. Pieces that stand one after the other are read until what closes them is there
(`pieces?`), and `Pieces` says the same as a relation, which puts the readings of a sequence
together of the readings of its pieces (`Pieces.read`).
-/

namespace SampleSchema

namespace Script

/-- A reader of a piece of code: what it is, and the tokens behind it. -/
abbrev PieceReader (α : Type) := List Token → Option (α × List Token)

variable {α : Type}

/-- At most so many pieces, up to what closes them: a mark, or the end of the code. -/
def readUntil (closing : Option Token) (piece? : PieceReader α) : Nat → PieceReader (List α)
  | 0, _ => none
  | n + 1, ts =>
    if ts.head? = closing then some ([], ts.tail)
    else
      match piece? ts with
      | none => none
      | some (a, rest) =>
        (readUntil closing piece? n rest).map fun (more, rest) => (a :: more, rest)

/-- **The pieces up to what closes them.** Each has a token at least, so there are not more pieces
    than tokens. -/
def pieces? (closing : Option Token) (piece? : PieceReader α) : PieceReader (List α) := fun ts =>
  readUntil closing piece? (ts.length + 1) ts

/-- The pieces up to what closes them, of which there is one at least. -/
def somePieces? (closing : Option Token) (piece? : PieceReader α) : PieceReader (List α) :=
  fun ts => if ts.head? = closing then none else pieces? closing piece? ts

/-- **Tokens begin with pieces and what closes them.** -/
inductive Pieces (closing : Option Token) (piece? : PieceReader α) :
    List Token → List α → List Token → Prop
  | nil {ts : List Token} (h : ts.head? = closing) : Pieces closing piece? ts [] ts.tail
  | cons {ts ts' rest : List Token} {a : α} {more : List α} (hopen : ts.head? ≠ closing)
      (hpiece : piece? ts = some (a, ts')) (hshorter : ts'.length < ts.length)
      (hmore : Pieces closing piece? ts' more rest) : Pieces closing piece? ts (a :: more) rest

theorem Pieces.readUntil_eq {closing : Option Token} {piece? : PieceReader α}
    {ts rest : List Token} {pieces : List α} (h : Pieces closing piece? ts pieces rest) {n : Nat}
    (hn : ts.length < n) : readUntil closing piece? n ts = some (pieces, rest) := by
  induction h generalizing n with
  | nil hclosed =>
    obtain ⟨n, rfl⟩ := Nat.exists_eq_add_one_of_ne_zero (Nat.ne_of_gt (Nat.zero_lt_of_lt hn))
    rw [readUntil, if_pos hclosed]
  | cons hopen hpiece hshorter _ ih =>
    obtain ⟨n, rfl⟩ := Nat.exists_eq_add_one_of_ne_zero (Nat.ne_of_gt (Nat.zero_lt_of_lt hn))
    rw [readUntil, if_neg hopen, hpiece]
    dsimp only
    rw [ih (by omega)]
    rfl

/-- **Such pieces are read.** -/
theorem Pieces.read {closing : Option Token} {piece? : PieceReader α} {ts rest : List Token}
    {pieces : List α} (h : Pieces closing piece? ts pieces rest) :
    pieces? closing piece? ts = some (pieces, rest) :=
  h.readUntil_eq (Nat.lt_succ_self _)

theorem Pieces.read_some {closing : Option Token} {piece? : PieceReader α} {ts rest : List Token}
    {pieces : List α} (h : Pieces closing piece? ts pieces rest) (hne : pieces ≠ []) :
    somePieces? closing piece? ts = some (pieces, rest) := by
  unfold somePieces?
  rw [h.read]
  cases h with
  | nil => exact absurd rfl hne
  | cons hopen => exact if_neg hopen

section Unread

variable {closing : Option Token} {piece? : PieceReader α} {ts : List Token}

theorem somePieces?_of_closed (h : ts.head? = closing) : somePieces? closing piece? ts = none :=
  if_pos h

theorem readUntil_eq_none (hopen : ts.head? ≠ closing) (hpiece : piece? ts = none) (n : Nat) :
    readUntil closing piece? n ts = none := by
  cases n with
  | zero => rfl
  | succ n => rw [readUntil, if_neg hopen, hpiece]

/-- Tokens that are no piece are not read. -/
theorem somePieces?_eq_none (hopen : ts.head? ≠ closing) (hpiece : piece? ts = none) :
    somePieces? closing piece? ts = none := by
  unfold somePieces?
  rw [if_neg hopen]
  exact readUntil_eq_none hopen hpiece _

/-- A piece is not read either, if what stands behind it is none. -/
theorem somePieces?_eq_none_of_second {ts' : List Token} {a : α} (hopen : ts.head? ≠ closing)
    (hpiece : piece? ts = some (a, ts')) (hopen' : ts'.head? ≠ closing)
    (hpiece' : piece? ts' = none) : somePieces? closing piece? ts = none := by
  unfold somePieces? pieces?
  rw [if_neg hopen, readUntil, if_neg hopen, hpiece]
  dsimp only
  rw [readUntil_eq_none hopen' hpiece']
  rfl

end Unread

end Script

end SampleSchema
