import SampleSchema.Proofs.Script.Pieces

/-!
# Object literals

A literal is code in braces: properties with commas between them, each a name and a value behind a
colon. `literalNames?` reads a text so as a whole, and gives the keys that the object gets. It reads
literals of two levels, whose inner values are references, quoted texts and brackets around one
value. What it reads is read as the language reads it: a name is an identifier, and under `__proto__`
an object gets no property, but its prototype. Only reserved words are not told from names of
values.

`literalNames?_of_items` says when a text that is put together is read: if each property is an item
of the literal (`IsItem`), whatever stands behind it.
-/

namespace SampleSchema

namespace Script

/-! ## 1. The reader -/

/-- What stands behind the members of a name. -/
def afterMembers : List Token → List Token
  | .mark '.' :: .word x :: rest =>
    if isIdentifier x.toList then afterMembers rest else .mark '.' :: .word x :: rest
  | rest => rest

/-- Is a quoted text the text between its quotes? Escapes are not read, and a line break ends the
    line. -/
def isPlainText (text : String) : Bool :=
  text.toList.all fun c => !(['\\', '\n', '\r'] : List Char).contains c

/-- What stands behind a value. -/
def afterValue? : List Token → Option (List Token)
  | .word x :: rest => if isIdentifier x.toList then some (afterMembers rest) else none
  | .quoted text :: rest => if isPlainText text then some rest else none
  | .mark '[' :: rest =>
    match afterValue? rest with
    | some (.mark ']' :: rest) => some rest
    | _ => none
  | _ => none

/-- A property: its name, with a value behind it. -/
def property? (after? : List Token → Option (List Token)) : PieceReader String
  | .word x :: .mark ':' :: rest =>
    if isIdentifier x.toList then (after? rest).map fun rest => (x, rest) else none
  | _ => none

/-- A property and the comma behind it, which the last one may lack. -/
def item? (after? : List Token → Option (List Token)) : PieceReader String := fun ts =>
  match property? after? ts with
  | some (x, .mark ',' :: rest) => some (x, rest)
  | some (x, .mark '\x7d' :: rest) => some (x, .mark '\x7d' :: rest)
  | _ => none

/-- The names of the properties between braces. -/
def properties? (after? : List Token → Option (List Token)) : PieceReader (List String)
  | .mark '\x7b' :: rest => pieces? (some (.mark '\x7d')) (item? after?) rest
  | _ => none

/-- What stands behind a literal of one level. -/
def afterLiteral? (ts : List Token) : Option (List Token) := (properties? afterValue? ts).map (·.2)

/-- **The keys of the object that a literal stands for**, if the text is a literal and nothing
    else. -/
def literalNames? (text : String) : Option (List String) :=
  match properties? afterLiteral? (tokens text) with
  | some (names, []) => some (names.filter (· ≠ "__proto__"))
  | _ => none

/-! ## 2. Values -/

/-- **A text is a value**: it is read as some tokens, whatever stands behind it, unless that goes on
    with a name of it. -/
structure IsValue (text : String) (code : List Token) : Prop where
  reads {after : String} {ts : List Token} {place : Place} (h : Reads .between after ts place)
    (hapart : BeginsApart after) : Reads .between (text ++ after) (code ++ ts) place
  afterValue? {rest : List Token} (h : rest.head? ≠ some (.mark '.')) :
    afterValue? (code ++ rest) = some rest

theorem afterMembers_eq {rest : List Token} (h : rest.head? ≠ some (.mark '.')) :
    afterMembers rest = rest := by
  unfold afterMembers
  split
  · exact absurd rfl h
  · rfl

theorem isValue_name {name : String} (h : isIdentifier name.toList = true) :
    IsValue name [.word name] where
  reads hafter hapart := reads_front (isName_of_isIdentifier h) hafter hapart
  afterValue? hrest := by
    rw [List.singleton_append, Script.afterValue?, if_pos h, afterMembers_eq hrest]

/-- A value in brackets is a value. -/
theorem IsValue.list {text : String} {code : List Token} (h : IsValue text code) :
    IsValue ("[" ++ text ++ "]") (.mark '[' :: code ++ [.mark ']']) where
  reads {after ts place} hafter _ := by
    have hopen : Reads .between "[" [.mark '['] .between := by decide
    have hclose : Reads .between "]" [.mark ']'] .between := by decide
    have hinside := h.reads (hclose.append hafter) (.append (by decide) _)
    have hall := hopen.append hinside
    rw [← String.append_assoc, ← String.append_assoc] at hall
    simpa using hall
  afterValue? {rest} _ := by
    have hinside : Script.afterValue? (code ++ .mark ']' :: rest) = some (.mark ']' :: rest) :=
      h.afterValue? (by simp)
    rw [List.cons_append, List.cons_append, List.append_assoc, List.singleton_append,
      Script.afterValue?, hinside]
    rfl

/-! ## 3. Items -/

/-- **A text is an item of a literal**: it begins with the name of a property, and is read as this
    property, whatever stands behind it, unless that goes on with a name of its value. -/
def IsItem (after? : List Token → Option (List Token)) (text name : String) : Prop :=
  ∃ code, (∀ {after : String} {ts : List Token} {place : Place}, Reads .between after ts place →
      BeginsApart after → Reads .between (text ++ after) (.word name :: code ++ ts) place) ∧
    ∀ {rest : List Token}, rest.head? ≠ some (.mark '.') →
      property? after? (.word name :: code ++ rest) = some (name, rest)

section Items

variable {after? : List Token → Option (List Token)}

/-- A name and a value are an item. -/
theorem isItem_of_isValue {name value : String} {code : List Token}
    (hname : isIdentifier name.toList = true) (h : IsValue value code) :
    IsItem Script.afterValue? (name ++ ": " ++ value) name := by
  have hcolon : Reads .between ": " [.mark ':'] .between := by decide
  refine ⟨.mark ':' :: code, fun {after ts place} hafter hapart => ?_, fun {rest} hrest => ?_⟩
  · have hbehind : BeginsApart (": " ++ (value ++ after)) := .append (by decide) _
    rw [String.append_assoc, String.append_assoc]
    exact reads_front (isName_of_isIdentifier hname) (hcolon.append (h.reads hafter hapart)) hbehind
  · rw [List.cons_append, List.cons_append, property?, if_pos hname, h.afterValue? hrest]
    rfl

theorem item?_comma {ts rest : List Token} {name : String}
    (h : property? after? ts = some (name, .mark ',' :: rest)) :
    item? after? ts = some (name, rest) := by
  unfold item?
  rw [h]
  rfl

theorem item?_close {ts rest : List Token} {name : String}
    (h : property? after? ts = some (name, .mark '\x7d' :: rest)) :
    item? after? ts = some (name, .mark '\x7d' :: rest) := by
  unfold item?
  rw [h]
  rfl

variable {comma close : String} (hcomma : Reads .between comma [.mark ','] .between)
  (hclose : Reads .between close [.mark '\x7d'] .between)
  (hapart : BeginsApart comma) (hend : BeginsApart close)
include hcomma hclose hapart hend

/-- **Items with commas between them and a brace at the end** are read as their properties. -/
theorem exists_code_of_items {α : Type} {text name : α → String} {as : List α} (hne : as ≠ [])
    (h : ∀ a ∈ as, IsItem after? (text a) (name a)) :
    ∃ code, Reads .between (comma.intercalate (as.map text) ++ close) code .between ∧
      ∀ rest : List Token,
        Pieces (some (.mark '\x7d')) (item? after?) (code ++ rest) (as.map name) rest := by
  induction as with
  | nil => exact absurd rfl hne
  | cons a more ih =>
    obtain ⟨⟨code, hreads, hproperty⟩, hmore⟩ := List.forall_mem_cons.mp h
    cases more with
    | nil =>
      refine ⟨.word (name a) :: code ++ [.mark '\x7d'], ?_, fun rest => ?_⟩
      · rw [List.map_singleton, String.intercalate_singleton]
        exact hreads hclose hend
      · have hitem := item?_close (@hproperty (.mark '\x7d' :: rest) (by simp))
        have hclosed : Pieces (some (.mark '\x7d')) (item? after?) (.mark '\x7d' :: rest) [] rest :=
          .nil rfl
        rw [List.append_assoc, List.singleton_append]
        refine .cons (by simp) hitem ?_ hclosed
        simp only [List.cons_append, List.length_append, List.length_cons]
        omega
    | cons b later =>
      obtain ⟨codes, hlater, hpieces⟩ := ih (List.cons_ne_nil _ _) hmore
      refine ⟨.word (name a) :: code ++ (.mark ',' :: codes), ?_, fun rest => ?_⟩
      · rw [List.map_cons, List.map_cons, String.intercalate_cons_cons, String.append_assoc,
          String.append_assoc]
        exact hreads (hcomma.append hlater) (hapart.append _)
      · have hitem := item?_comma (@hproperty (.mark ',' :: (codes ++ rest)) (by simp))
        rw [List.append_assoc, List.cons_append]
        refine .cons (by simp) hitem ?_ (hpieces rest)
        simp only [List.cons_append, List.length_append, List.length_cons]
        omega

/-- **In braces they are a literal** with these properties, and with none if there are no items. -/
theorem exists_code_of_braces {opening : String}
    (hopen : Reads .between opening [.mark '\x7b'] .between) {α : Type} {text name : α → String}
    {as : List α} (h : ∀ a ∈ as, IsItem after? (text a) (name a)) :
    ∃ code, Reads .between (opening ++ (comma.intercalate (as.map text) ++ close))
        (.mark '\x7b' :: code) .between ∧
      ∀ rest : List Token,
        properties? after? (.mark '\x7b' :: code ++ rest) = some (as.map name, rest) := by
  by_cases hne : as = []
  · subst hne
    have hempty : comma.intercalate (([] : List α).map text) ++ close = close :=
      String.empty_append
    rw [hempty]
    have hclosed : ∀ rest, Pieces (some (.mark '\x7d')) (item? after?) (.mark '\x7d' :: rest) []
        rest := fun rest => .nil rfl
    exact ⟨[.mark '\x7d'], hopen.append hclose, fun rest => (hclosed rest).read⟩
  · obtain ⟨code, hreads, hpieces⟩ := exists_code_of_items hcomma hclose hapart hend hne h
    exact ⟨code, hopen.append hreads, fun rest => (hpieces rest).read⟩

/-- **A text of items in braces is read as a literal**, as a whole. -/
theorem literalNames?_of_items {opening : String}
    (hopen : Reads .between opening [.mark '\x7b'] .between) {α : Type} {text name : α → String}
    {as : List α} (h : ∀ a ∈ as, IsItem afterLiteral? (text a) (name a)) :
    literalNames? (opening ++ (comma.intercalate (as.map text) ++ close)) =
      some ((as.map name).filter (· ≠ "__proto__")) := by
  obtain ⟨code, hreads, hproperties⟩ :=
    exists_code_of_braces hcomma hclose hapart hend hopen h
  have hall := hproperties []
  rw [List.append_nil] at hall
  unfold literalNames?
  rw [hreads.tokens_eq, hall]

end Items

end Script

end SampleSchema
