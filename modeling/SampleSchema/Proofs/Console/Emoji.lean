import SampleSchema.Console.Table
import SampleSchema.Proofs.Console.Shown

/-!
# Codes of emoji in literal texts

A screen replaces the codes of emoji in what it prints. What appears of a text that is made literal
is the text but for backslashes, before brackets and at the end, and a name of an emoji holds
neither. So no code appears of a text that holds none, neither in a cell nor in a message
(`Screen.holdsEmoji_cellText`, `Screen.holdsEmoji_messageText`).
-/

namespace SampleSchema

open Markup

/-! ## 1. Names in what appears of a text -/

/-- **What is left of backslashes at the end** of a text: nothing of none, and of any others
    something that begins with a backslash. -/
structure LeavesBackslash (last : Nat → List Char) : Prop where
  zero : last 0 = []
  succ (n : Nat) : ∃ rest, last (n + 1) = '\\' :: rest

theorem leavesBackslash_cell : LeavesBackslash fun n => backslashes (guarded n) where
  zero := rfl
  succ n := by
    cases n with
    | zero => exact ⟨['\\'], rfl⟩
    | succ n => exact ⟨backslashes (n + 1), rfl⟩

theorem leavesBackslash_message (style : List Char) :
    LeavesBackslash fun n => beforeClosing style (guarded n) where
  zero := rfl
  succ n := by
    obtain ⟨k, hk⟩ : ∃ k, guarded (n + 1) / 2 = k + 1 := by
      refine ⟨guarded (n + 1) / 2 - 1, ?_⟩
      unfold guarded
      split <;> omega
    unfold beforeClosing
    rw [hk]
    exact ⟨_, rfl⟩

section Names

variable {last : Nat → List Char} (hlast : LeavesBackslash last)
include hlast

/-- Behind backslashes a backslash or a bracket appears first. -/
theorem exists_cons_shownFrom (pending : Nat) (cs : List Char) :
    ∃ c rest, shownFrom last (pending + 1) cs = c :: rest ∧ (c = '\\' ∨ c = '[') := by
  induction cs generalizing pending with
  | nil =>
    obtain ⟨rest, hrest⟩ := hlast.succ pending
    exact ⟨_, rest, hrest, Or.inl rfl⟩
  | cons c cs ih =>
    unfold shownFrom
    split
    · exact ih (pending + 1)
    · split
      · rename_i hopen
        cases pending with
        | zero => exact ⟨c, _, rfl, Or.inr hopen.1⟩
        | succ n => exact ⟨'\\', _, rfl, Or.inl rfl⟩
      · exact ⟨'\\', _, rfl, Or.inl rfl⟩

/-- **A name that appears before a colon** stands there in the text. -/
theorem takeWhile_of_shownFrom {cs : List Char}
    (hname : ∀ c ∈ (shownFrom last 0 cs).takeWhile (· ≠ ':'), c ≠ '\\' ∧ c ≠ '[')
    (hcolon : ':' ∈ shownFrom last 0 cs) :
    (shownFrom last 0 cs).takeWhile (· ≠ ':') = cs.takeWhile (· ≠ ':') ∧ ':' ∈ cs := by
  induction cs with
  | nil =>
    rw [shownFrom, hlast.zero] at hcolon
    cases hcolon
  | cons c cs ih =>
    by_cases hslash : c = '\\'
    · obtain ⟨d, rest, hshown, hd⟩ := exists_cons_shownFrom hlast 0 cs
      have hfirst : d ∈ (shownFrom last 0 (c :: cs)).takeWhile (· ≠ ':') := by
        rw [shownFrom, if_pos hslash, hshown, List.takeWhile_cons_of_pos]
        · exact List.mem_cons_self
        · rcases hd with rfl | rfl
          all_goals decide
      obtain ⟨hslash', hopen'⟩ := hname d hfirst
      exact absurd hd (not_or.mpr ⟨hslash', hopen'⟩)
    · have hshown : shownFrom last 0 (c :: cs) = c :: shownFrom last 0 cs := by
        rw [shownFrom, if_neg hslash]
        split <;> rfl
      rw [hshown] at hname hcolon ⊢
      by_cases hc : c = ':'
      · subst hc
        exact ⟨rfl, List.mem_cons_self⟩
      · have hpos : ∀ rest : List Char,
            (c :: rest).takeWhile (· ≠ ':') = c :: rest.takeWhile (· ≠ ':') := fun rest =>
          List.takeWhile_cons_of_pos (decide_eq_true hc)
        rw [hpos] at hname
        rw [hpos, hpos]
        obtain ⟨hsame, hmem⟩ := ih (fun d hd => hname d (List.mem_cons_of_mem _ hd))
          ((List.mem_cons.mp hcolon).resolve_left (Ne.symm hc))
        exact ⟨congrArg _ hsame, List.mem_cons_of_mem _ hmem⟩

end Names

/-! ## 2. Codes -/

namespace Screen

variable (screen : Screen)

theorem ne_of_knows {name : List Char} (h : screen.knows name = true) :
    ∀ c ∈ name, c ≠ '\\' ∧ c ≠ '[' := by
  intro c hc
  have hplain := List.all_eq_true.mp (Bool.and_eq_true_iff.mp h).1 c hc
  simp only [Bool.and_eq_true, bne_iff_ne, ne_eq] at hplain
  exact ⟨hplain.2, hplain.1⟩

theorem holdsEmoji_backslashes_append (n : Nat) (cs : List Char) :
    screen.holdsEmoji (backslashes n ++ cs) = screen.holdsEmoji cs := by
  induction n with
  | zero => rfl
  | succ n ih =>
    have hslash : ∀ rest, screen.holdsEmoji ('\\' :: rest) = screen.holdsEmoji rest := fun _ => rfl
    exact (hslash _).trans ih

/-- A text without colons holds no code. -/
theorem holdsEmoji_of_not_mem {cs : List Char} (h : ':' ∉ cs) : screen.holdsEmoji cs = false := by
  induction cs with
  | nil => rfl
  | cons c cs ih =>
    obtain ⟨hc, hcs⟩ := not_or.mp (List.mem_cons.not.mp h)
    rw [holdsEmoji, ih hcs, Bool.or_false, beq_false_of_ne (Ne.symm hc), Bool.false_and,
      Bool.false_and]

/-- **No code appears of a text that holds none.** -/
theorem holdsEmoji_shownFrom {last : Nat → List Char} (hlast : LeavesBackslash last)
    (hend : ∀ n, screen.holdsEmoji (last n) = false) (pending : Nat) {cs : List Char}
    (h : screen.holdsEmoji cs = false) : screen.holdsEmoji (shownFrom last pending cs) = false := by
  induction cs generalizing pending with
  | nil => exact hend pending
  | cons c cs ih =>
    obtain ⟨hcode, hrest⟩ := Bool.or_eq_false_iff.mp h
    have hmore := ih 0 hrest
    have hshown : ∀ n, screen.holdsEmoji (backslashes n ++ c :: shownFrom last 0 cs) = false := by
      intro n
      rw [holdsEmoji_backslashes_append, holdsEmoji, hmore, Bool.or_false]
      by_contra hheld
      rw [Bool.not_eq_false, Bool.and_eq_true, Bool.and_eq_true] at hheld
      obtain ⟨⟨hc, hcolon⟩, hknown⟩ := hheld
      obtain ⟨hsame, hmem⟩ := takeWhile_of_shownFrom hlast (screen.ne_of_knows hknown)
        (List.contains_iff_mem.mp hcolon)
      rw [hc, List.contains_iff_mem.mpr hmem, ← hsame, hknown] at hcode
      cases hcode
    unfold shownFrom
    split
    · exact ih (pending + 1) hrest
    · split
      · exact hshown (pending - 1)
      · exact hshown pending

theorem holdsEmoji_cellText {cs : List Char} (h : screen.holdsEmoji cs = false) :
    screen.holdsEmoji (cellText cs) = false := by
  refine screen.holdsEmoji_shownFrom leavesBackslash_cell (fun n => ?_) 0 h
  exact screen.holdsEmoji_of_not_mem fun hmem => absurd (List.eq_of_mem_replicate hmem) (by decide)

theorem holdsEmoji_messageText {style cs : List Char} (hstyle : ':' ∉ style)
    (h : screen.holdsEmoji cs = false) : screen.holdsEmoji (messageText style cs) = false := by
  refine screen.holdsEmoji_shownFrom (leavesBackslash_message style) (fun n => ?_) 0 h
  unfold beforeClosing
  rw [holdsEmoji_backslashes_append]
  split
  · exact screen.holdsEmoji_of_not_mem (by simp [closingTag, hstyle])
  · rfl

end Screen

end SampleSchema
