import SampleSchema.Proofs.FieldType.Spelling

/-!
# Types that are spelled alike

Both spellings put one pair of brackets around the spelling of the elements, and the spelling of
what is no array begins with no bracket (`IsSpelling`). So a spelling tells how many arrays stand in
each other, and what it leaves open is at the bottom of them: two types are spelled alike exactly if
they are the same up to an EXCHANGE there (`IsSpelling.eq_iff`). The API exchanges `unknown` and a
string; the storage schema exchanges integers and other numbers, and `mixed` and `unknown`. Types
that are the same up to either exchange are the same (`spellings_identify`).
-/

namespace SampleSchema

namespace FieldType

/-! ## 1. Types up to an exchange -/

/-- The types that are no arrays. -/
def leaves : List FieldType := ScalarKind.all.map .scalar ++ [.mixed, .unknown]

theorem scalar_mem_leaves (k : ScalarKind) : .scalar k ∈ leaves :=
  List.mem_append_left _ (List.mem_map_of_mem k.mem_all)

theorem mixed_mem_leaves : mixed ∈ leaves := by decide

theorem unknown_mem_leaves : unknown ∈ leaves := by decide

theorem mem_leaves_or_array (t : FieldType) : t ∈ leaves ∨ ∃ e, t = .array e := by
  cases t with
  | scalar k => exact Or.inl (scalar_mem_leaves k)
  | array e => exact Or.inr ⟨e, rfl⟩
  | mixed => exact Or.inl mixed_mem_leaves
  | unknown => exact Or.inl unknown_mem_leaves

/-- **Two types are the same up to an exchange**: as many arrays stand in each other, and at the
    bottom are the same types, or two that are listed as exchanged, in either order. -/
inductive SameUpTo (exchange : List (FieldType × FieldType)) :
    FieldType → FieldType → Prop where
  | same (t : FieldType) : SameUpTo exchange t t
  | exchanged {t u : FieldType} (h : (t, u) ∈ exchange) : SameUpTo exchange t u
  | exchangedBack {t u : FieldType} (h : (u, t) ∈ exchange) : SameUpTo exchange t u
  | array {t u : FieldType} (h : SameUpTo exchange t u) : SameUpTo exchange (.array t) (.array u)

/-- What the API schema exchanges. -/
def apiExchange : List (FieldType × FieldType) := [(.unknown, .scalar .string)]

/-- What the storage schema exchanges. -/
def storageExchange : List (FieldType × FieldType) :=
  [(.scalar .int, .scalar .float), (.mixed, .unknown)]

/-! ## 2. Spellings -/

/-- **A spelling that exchanges types**: brackets around the elements of an array, no bracket in
    front of what is no array, and of two such types the same text exactly if the exchange allows
    it. -/
structure IsSpelling (spell : FieldType → String) (exchange : List (FieldType × FieldType)) :
    Prop where
  array : ∀ e, spell (.array e) = "[" ++ spell e ++ "]"
  head : ∀ t ∈ leaves, (spell t).toList.head? ≠ some '['
  leaf : ∀ t ∈ leaves, ∀ u ∈ leaves,
    spell t = spell u ↔ t = u ∨ (t, u) ∈ exchange ∨ (u, t) ∈ exchange
  exchange : ∀ e ∈ exchange, e.1 ∈ leaves ∧ e.2 ∈ leaves

theorem isSpelling_api : IsSpelling api apiExchange where
  array _ := rfl
  head := by decide
  leaf := by decide
  exchange := by decide

theorem isSpelling_storage : IsSpelling storage storageExchange where
  array _ := rfl
  head := by decide
  leaf := by decide
  exchange := by decide

namespace IsSpelling

variable {spell : FieldType → String} {exchange : List (FieldType × FieldType)}
  (hspell : IsSpelling spell exchange) {t u e : FieldType}
include hspell

theorem array_ne (ht : t ∈ leaves) : spell (.array e) ≠ spell t := by
  rw [hspell.array]
  exact brackets_ne (hspell.head t ht)

theorem eq_of_sameUpTo (h : SameUpTo exchange t u) : spell t = spell u := by
  induction h with
  | same t => rfl
  | @exchanged t u h =>
    obtain ⟨ht, hu⟩ := hspell.exchange _ h
    exact (hspell.leaf t ht u hu).mpr (Or.inr (Or.inl h))
  | @exchangedBack t u h =>
    obtain ⟨hu, ht⟩ := hspell.exchange _ h
    exact (hspell.leaf t ht u hu).mpr (Or.inr (Or.inr h))
  | array _ ih => rw [hspell.array, hspell.array, ih]

theorem sameUpTo_of_leaf (ht : t ∈ leaves) (h : spell t = spell u) : SameUpTo exchange t u := by
  rcases mem_leaves_or_array u with hu | ⟨e, rfl⟩
  · rcases (hspell.leaf t ht u hu).mp h with rfl | hex | hex
    · exact .same t
    · exact .exchanged hex
    · exact .exchangedBack hex
  · exact absurd h.symm (hspell.array_ne ht)

/-- **Types are spelled alike exactly if they are the same up to the exchange.** -/
theorem eq_iff (t u : FieldType) : spell t = spell u ↔ SameUpTo exchange t u := by
  refine ⟨fun h => ?_, hspell.eq_of_sameUpTo⟩
  induction t generalizing u with
  | scalar k => exact hspell.sameUpTo_of_leaf (scalar_mem_leaves k) h
  | mixed => exact hspell.sameUpTo_of_leaf mixed_mem_leaves h
  | unknown => exact hspell.sameUpTo_of_leaf unknown_mem_leaves h
  | array e ih =>
    rcases mem_leaves_or_array u with hu | ⟨e', rfl⟩
    · exact absurd h (hspell.array_ne hu)
    · rw [hspell.array, hspell.array] at h
      exact .array (ih e' (brackets_inj h))

end IsSpelling

/-! ## 3. What the spellings tell -/

/-- **The two spellings of a type identify it, and each leaves open what it exchanges.** The API
    does not tell `unknown` from a string, the storage schema neither integers from other numbers
    nor `mixed` from `unknown`, all of it at the bottom of arrays of any depth; and there is nothing
    else that they do not tell apart. -/
theorem spellings_identify (t u : FieldType) :
    (t.storage = u.storage ∧ t.api = u.api ↔ t = u) ∧
    (t.api = u.api ↔ SameUpTo apiExchange t u) ∧
    (t.storage = u.storage ↔ SameUpTo storageExchange t u) := by
  refine ⟨⟨fun h => eq_of_spellings h.1 h.2, ?_⟩, isSpelling_api.eq_iff t u,
    isSpelling_storage.eq_iff t u⟩
  rintro rfl
  exact ⟨rfl, rfl⟩

example : ¬ SameUpTo apiExchange (.array (.scalar .int)) (.array (.scalar .float)) := by
  rw [← isSpelling_api.eq_iff]
  decide

end FieldType

end SampleSchema
