import SampleSchema.Proofs.Text.Case
import SampleSchema.Proofs.Text.Words

/-!
# Names put together of words

`pascalCase` knows nothing of a text but its words (`pascalCase_congr`): which separators stand
between them, how many, and whether some stand at the ends makes no difference. What comes out has
no separator left, so it is one word, and that word begins in upper case already; so doing it again
changes nothing (`pascalCase_pascalCase`). `pascalCase_by_words` says all of it, with the words as
the longest runs of characters that separate nothing.
-/

namespace SampleSchema

/-! ## 1. Words in upper case -/

section Word

variable {word : List Char}

theorem upperFirst_ne_nil (hne : word ≠ []) (hword : ∀ c ∈ word, isWordSeparator c = false) :
    upperFirst word ≠ [] := by
  obtain ⟨c, rest, rfl⟩ := List.exists_cons_of_ne_nil hne
  obtain ⟨d, more, hform, -, -⟩ := exists_upper (hword c List.mem_cons_self)
  show upper c ++ rest ≠ []
  rw [hform]
  exact List.cons_ne_nil _ _

/-- A word in upper case holds no separator either. -/
theorem not_separator_of_mem_upperFirst (hword : ∀ c ∈ word, isWordSeparator c = false) :
    ∀ c ∈ upperFirst word, isWordSeparator c = false := by
  intro d hd
  cases word with
  | nil => cases hd
  | cons c rest =>
    obtain ⟨_, _, -, -, hform⟩ := exists_upper (hword c List.mem_cons_self)
    rcases List.mem_append.mp hd with hd | hd
    · exact hform d hd
    · exact hword d (List.mem_cons_of_mem _ hd)

/-- **What begins with a word in upper case begins in upper case.** -/
theorem upperFirst_append (hne : word ≠ []) (hword : ∀ c ∈ word, isWordSeparator c = false)
    (later : List Char) : upperFirst (upperFirst word ++ later) = upperFirst word ++ later := by
  obtain ⟨c, rest, rfl⟩ := List.exists_cons_of_ne_nil hne
  obtain ⟨d, more, hform, hself, -⟩ := exists_upper (hword c List.mem_cons_self)
  show upperFirst (upper c ++ rest ++ later) = upper c ++ rest ++ later
  rw [hform]
  show upper d ++ _ = _
  rw [hself]
  rfl

end Word

/-! ## 2. Names -/

theorem toList_pascalCase (text : String) :
    (pascalCase text).toList = (words isWordSeparator text.toList).flatMap upperFirst :=
  String.toList_ofList

/-- **Texts of the same words give the same name.** -/
theorem pascalCase_congr {s t : String}
    (h : words isWordSeparator s.toList = words isWordSeparator t.toList) :
    pascalCase s = pascalCase t := by
  unfold pascalCase
  rw [h]

/-- A name put together of words holds no separator. -/
theorem not_separator_of_mem_pascalCase {text : String} :
    ∀ c ∈ (pascalCase text).toList, isWordSeparator c = false := by
  intro c hc
  rw [toList_pascalCase] at hc
  obtain ⟨word, hword, hc⟩ := List.mem_flatMap.mp hc
  exact not_separator_of_mem_upperFirst (not_separator_of_mem_words hword) c hc

/-- **A name put together of words stays as it is.** -/
theorem pascalCase_pascalCase (text : String) : pascalCase (pascalCase text) = pascalCase text := by
  have hname := toList_pascalCase text
  refine String.toList_inj.mp ?_
  rw [toList_pascalCase (pascalCase text)]
  cases hwords : words isWordSeparator text.toList with
  | nil =>
    rw [hwords] at hname
    rw [hname]
    rfl
  | cons word more =>
    have hmem : word ∈ words isWordSeparator text.toList := by
      rw [hwords]
      exact List.mem_cons_self
    have hne := ne_nil_of_mem_words hmem
    have hword := not_separator_of_mem_words hmem
    rw [hwords, List.flatMap_cons] at hname
    have hname_ne : (pascalCase text).toList ≠ [] := by
      rw [hname]
      exact List.append_ne_nil_of_left_ne_nil (upperFirst_ne_nil hne hword) _
    rw [words_eq_singleton hname_ne not_separator_of_mem_pascalCase, List.flatMap_singleton, hname]
    exact upperFirst_append hne hword _

/-- A text of separators alone. -/
def IsSeparators (text : String) : Prop := ∀ c ∈ text.toList, isWordSeparator c = true

instance (text : String) : Decidable (IsSeparators text) :=
  decidable_of_iff (text.toList.all isWordSeparator = true) List.all_eq_true

/-- **A name is put together of the words of a text, and depends on nothing else.** The words are
    the longest runs of characters that separate nothing, and there is one way to find them; the
    name is these runs one behind the other, each with its first character in upper case. So it
    holds no separator; it stays the same if separators between words are replaced by others, or
    added or removed at the ends; and made of a name, it is the name. -/
theorem pascalCase_by_words (text : String) :
    (∃ runs, Runs isWordSeparator text.toList runs ∧
      (∀ other, Runs isWordSeparator text.toList other → other = runs) ∧
      (pascalCase text).toList = runs.flatMap upperFirst) ∧
    (∀ c ∈ (pascalCase text).toList, isWordSeparator c = false) ∧
    (∀ before gap after : String, text = before ++ gap ++ after → gap ≠ "" → IsSeparators gap →
      ∀ gap' : String, gap' ≠ "" → IsSeparators gap' →
        pascalCase (before ++ gap' ++ after) = pascalCase text) ∧
    (∀ front back : String, IsSeparators front → IsSeparators back →
      pascalCase (front ++ text ++ back) = pascalCase text) ∧
    pascalCase (pascalCase text) = pascalCase text := by
  refine ⟨⟨words isWordSeparator text.toList, runs_iff.mpr rfl, fun other => runs_iff.mp,
      toList_pascalCase text⟩, not_separator_of_mem_pascalCase, ?_, ?_,
    pascalCase_pascalCase text⟩
  · have hwords : ∀ {before gap after : String}, gap ≠ "" → IsSeparators gap →
        words isWordSeparator (before ++ gap ++ after).toList =
          words isWordSeparator before.toList ++ words isWordSeparator after.toList := by
      intro before gap after hne hgap
      have hgap_ne : gap.toList ≠ [] := fun h => hne (String.toList_eq_nil_iff.mp h)
      rw [String.toList_append, String.toList_append, List.append_assoc,
        words_append_gap hgap_ne hgap]
    rintro before gap after rfl hne hgap gap' hne' hgap'
    refine pascalCase_congr ?_
    rw [hwords hne' hgap', hwords hne hgap]
  · intro front back hfront hback
    refine pascalCase_congr ?_
    rw [String.toList_append, String.toList_append, List.append_assoc, words_between hfront hback]

/-- Two words, with the separators of a file name and with others. -/
theorem pascalCase_by_words_userProfiles :
    "user-profiles" = "user" ++ "-" ++ "profiles" ∧
    IsSeparators "-" ∧ IsSeparators " _\t" ∧ IsSeparators "__" ∧ IsSeparators "" ∧
    pascalCase ("user" ++ " _\t" ++ "profiles") = pascalCase "user-profiles" ∧
    pascalCase ("__" ++ "user-profiles" ++ "") = pascalCase "user-profiles" ∧
    pascalCase "user-profiles" = "UserProfiles" := by
  obtain ⟨_, _, hgap, hends, _⟩ := pascalCase_by_words "user-profiles"
  have htext : "user-profiles" = "user" ++ "-" ++ "profiles" := by decide
  have hminus : IsSeparators "-" := by decide
  have hblanks : IsSeparators " _\t" := by decide
  have hunderscores : IsSeparators "__" := by decide
  have hnone : IsSeparators "" := by decide
  exact ⟨htext, hminus, hblanks, hunderscores, hnone,
    hgap "user" "-" "profiles" htext (by decide) hminus " _\t" (by decide) hblanks,
    hends "__" "" hunderscores hnone, by decide +kernel⟩

end SampleSchema
