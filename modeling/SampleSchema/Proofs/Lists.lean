import Mathlib.Data.List.Infix
import Mathlib.Data.List.TakeWhile

/-!
# Lists

Facts about lists that the other modules share and that know nothing of samples: beginnings of a
list, actions on its elements, and runs of elements of a class at its front.
-/

namespace SampleSchema

/-- Beginnings beside the elements that follow them, after one more element. -/
theorem inits_zip_append_singleton {α : Type} (l : List α) (a : α) :
    (l ++ [a]).inits.zip (l ++ [a]) = l.inits.zip l ++ [(l, a)] := by
  induction l with
  | nil => simp
  | cons b l ih =>
    rw [List.cons_append, List.inits_cons, List.inits_cons, List.zip_cons_cons, List.zip_cons_cons,
      List.zip_map_left, List.zip_map_left, ih]
    simp

/-- Actions without an effect on the elements of a list have none on the list. -/
theorem mapM_eq_pure_map {m : Type → Type} [Monad m] [LawfulMonad m] {α β : Type} {f : α → m β}
    {g : α → β} {l : List α} (h : ∀ a ∈ l, f a = pure (g a)) : l.mapM f = pure (l.map g) := by
  induction l with
  | nil => rfl
  | cons a l ih =>
    rw [List.mapM_cons, h a List.mem_cons_self, ih fun b hb => h b (List.mem_cons_of_mem _ hb),
      pure_bind, pure_bind, List.map_cons]

/-- Actions that succeed on the elements of a list succeed on the list. -/
theorem exists_mapM_ok {ε α β : Type} {f : α → Except ε β} {l : List α}
    (h : ∀ a ∈ l, ∃ b, f a = .ok b) : ∃ bs, l.mapM f = .ok bs := by
  induction l with
  | nil => exact ⟨[], rfl⟩
  | cons a l ih =>
    obtain ⟨b, hb⟩ := h a List.mem_cons_self
    obtain ⟨bs, hbs⟩ := ih fun c hc => h c (List.mem_cons_of_mem _ hc)
    refine ⟨b :: bs, ?_⟩
    rw [List.mapM_cons, hb, hbs]
    rfl

/-- Actions that succeed on what a list is made into give what they make of it. -/
theorem mapM_map_eq_ok {ε α β γ : Type} {f : α → β} {g : β → Except ε γ} {k : α → γ}
    (h : ∀ a, g (f a) = .ok (k a)) (l : List α) : (l.map f).mapM g = .ok (l.map k) := by
  induction l with
  | nil => rfl
  | cons a l ih =>
    rw [List.map_cons, List.mapM_cons, h, ih]
    rfl

/-! ## Runs -/

/-- **A class of elements does not go on** at the front of a list. -/
def StopsAt {α : Type} (p : α → Bool) (l : List α) : Prop := ∀ a, l.head? = some a → p a = false

section Runs

variable {α : Type} {p : α → Bool} {run rest : List α}

theorem stopsAt_nil (p : α → Bool) : StopsAt p [] := by
  intro a ha
  cases ha

theorem stopsAt_cons {a : α} (h : p a = false) (l : List α) : StopsAt p (a :: l) := by
  intro b hb
  rw [← Option.some.inj hb]
  exact h

/-- A run is taken whole, and nothing behind it. -/
theorem takeWhile_append_of_stopsAt (hrun : ∀ a ∈ run, p a = true) (hrest : StopsAt p rest) :
    (run ++ rest).takeWhile p = run := by
  rw [List.takeWhile_append_of_pos hrun]
  cases rest with
  | nil => exact List.append_nil run
  | cons a rest =>
    have ha : ¬ p a = true := by simp [hrest a rfl]
    rw [List.takeWhile_cons_of_neg ha, List.append_nil]

theorem dropWhile_append_of_stopsAt (hrun : ∀ a ∈ run, p a = true) (hrest : StopsAt p rest) :
    (run ++ rest).dropWhile p = rest := by
  rw [List.dropWhile_append_of_pos hrun]
  cases rest with
  | nil => rfl
  | cons a rest =>
    have ha : ¬ p a = true := by simp [hrest a rfl]
    exact List.dropWhile_cons_of_neg ha

theorem eq_true_of_mem_takeWhile {l : List α} {a : α} (h : a ∈ l.takeWhile p) : p a = true :=
  List.all_eq_true.mp List.all_takeWhile a h

end Runs

end SampleSchema
