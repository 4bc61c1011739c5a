import SampleSchema.Artifact.Lines
import SampleSchema.Naming

/-!
# Code as tokens

The generated modules are code, and what they mean does not depend on their layout. A TOKEN of code
is a word, the text between two quotes, or a single other character; blanks and line breaks only
keep words apart. Escapes and comments, which the generated modules never hold, are not read.

The reader goes through a text character by character. So what it reads of a text that is put
together is what it reads of the parts (`Reads.append`): a name that is spliced into a line is a
word of its own (`reads_spliced`), whatever the name is, and a spliced text between quotes is a
quoted text (`reads_quoted`). Lines are read one by one (`Written.append`).
-/

namespace SampleSchema

namespace Script

/-! ## 1. Tokens -/

/-- A piece of code. -/
inductive Token where
  | word (name : String)
  | quoted (text : String)
  | mark (c : Char)
  deriving DecidableEq, Repr

/-- Where the reader stands: between tokens, in a word, or behind an opening quote. What is read of
    the token is in reverse. -/
inductive Place where
  | between
  | word (read : List Char)
  | quoted (read : List Char)
  deriving DecidableEq, Repr

/-- A character between tokens. -/
def start (c : Char) : List Token × Place :=
  if isIdentifierPart c then ([], .word [c])
  else if c = '\'' then ([], .quoted [])
  else if c = ' ' ∨ c = '\n' then ([], .between)
  else ([.mark c], .between)

/-- The tokens that end at a character, and where the reader stands behind it. -/
def Place.next : Place → Char → List Token × Place
  | .between, c => start c
  | .word read, c =>
    if isIdentifierPart c then ([], .word (c :: read))
    else (.word (String.ofList read.reverse) :: (start c).1, (start c).2)
  | .quoted read, c =>
    if c = '\'' then ([.quoted (String.ofList read.reverse)], .between)
    else ([], .quoted (c :: read))

/-- The tokens of a text from a place on, and where the reader stands behind it. -/
def scan : Place → List Char → List Token × Place
  | place, [] => ([], place)
  | place, c :: rest =>
    let (ended, place') := place.next c
    let (more, last) := scan place' rest
    (ended ++ more, last)

/-- What a text that ends at a place ends in. A quote that nothing closes is a mark. -/
def Place.rest : Place → List Token
  | .between => []
  | .word read => [.word (String.ofList read.reverse)]
  | .quoted _ => [.mark '\'']

/-- **The tokens of a text.** -/
def tokens (text : String) : List Token :=
  let (ended, place) := scan .between text.toList
  ended ++ place.rest

/-! ## 2. Texts that are put together -/

theorem scan_append (place : Place) (cs ds : List Char) :
    scan place (cs ++ ds) =
      ((scan place cs).1 ++ (scan (scan place cs).2 ds).1, (scan (scan place cs).2 ds).2) := by
  induction cs generalizing place with
  | nil => rfl
  | cons c rest ih =>
    simp only [List.cons_append, scan]
    rw [ih]
    simp

/-- **Between two places a text is read as some tokens.** -/
def Reads (place : Place) (text : String) (ts : List Token) (place' : Place) : Prop :=
  scan place text.toList = (ts, place')

instance (place : Place) (text : String) (ts : List Token) (place' : Place) :
    Decidable (Reads place text ts place') :=
  inferInstanceAs (Decidable (_ = _))

/-- **A text that is put together is read part by part.** -/
theorem Reads.append {a b c : Place} {s t : String} {ts us : List Token} (hs : Reads a s ts b)
    (ht : Reads b t us c) : Reads a (s ++ t) (ts ++ us) c := by
  unfold Reads at *
  rw [String.toList_append, scan_append, hs, ht]

theorem Reads.tokens_eq {text : String} {ts : List Token} (h : Reads .between text ts .between) :
    tokens text = ts := by
  unfold tokens
  rw [h]
  exact List.append_nil ts

/-- Behind such a text the tokens are those of what follows. -/
theorem Reads.tokens_append {s : String} {ts : List Token} (h : Reads .between s ts .between)
    (t : String) : tokens (s ++ t) = ts ++ tokens t := by
  unfold Reads at h
  unfold tokens
  rw [String.toList_append, scan_append, h]
  exact List.append_assoc _ _ _

/-! ## 3. Words -/

/-- A text of one word. -/
def IsName (name : String) : Prop :=
  name.toList ≠ [] ∧ ∀ c ∈ name.toList, isIdentifierPart c = true

theorem isName_iff (name : String) :
    (!name.toList.isEmpty && name.toList.all isIdentifierPart) = true ↔ IsName name := by
  unfold IsName
  rw [Bool.and_eq_true, List.all_eq_true, Bool.not_eq_true', List.isEmpty_eq_false_iff]

instance (name : String) : Decidable (IsName name) := decidable_of_iff _ (isName_iff name)

theorem isName_of_isIdentifier {name : String} (h : isIdentifier name.toList = true) :
    IsName name :=
  parts_of_isIdentifier h

/-- Inside a word the characters of identifiers go on with it. -/
theorem scan_word {cs : List Char} (h : ∀ c ∈ cs, isIdentifierPart c = true) (read : List Char) :
    scan (.word read) cs = ([], .word (cs.reverse ++ read)) := by
  induction cs generalizing read with
  | nil => rfl
  | cons c rest ih =>
    have hrest := ih (fun d hd => h d (List.mem_cons_of_mem _ hd)) (c :: read)
    simp only [scan, Place.next, if_pos (h c List.mem_cons_self)]
    rw [hrest]
    simp

theorem reads_word {name : String} (h : IsName name) :
    Reads .between name [] (.word name.toList.reverse) := by
  obtain ⟨hne, hparts⟩ := h
  unfold Reads
  cases hcs : name.toList with
  | nil => exact absurd hcs hne
  | cons c rest =>
    rw [hcs] at hparts
    have hrest := scan_word (fun d hd => hparts d (List.mem_cons_of_mem _ hd)) [c]
    simp only [scan, Place.next, start, if_pos (hparts c List.mem_cons_self)]
    rw [hrest]
    simp

/-- Does a text begin with a character at which a word before it ends? -/
def BeginsApart (text : String) : Prop :=
  text.toList.head?.any (fun c => !isIdentifierPart c) = true

instance (text : String) : Decidable (BeginsApart text) := inferInstanceAs (Decidable (_ = _))

/-- What begins apart does so whatever stands behind it. -/
theorem BeginsApart.append {text : String} (h : BeginsApart text) (more : String) :
    BeginsApart (text ++ more) := by
  unfold BeginsApart at *
  rw [String.toList_append]
  cases hcs : text.toList with
  | nil =>
    rw [hcs] at h
    cases h
  | cons c rest =>
    rw [hcs] at h
    exact h

/-- A word ends where its characters do not go on. -/
theorem reads_behind_word {name text : String} {ts : List Token} {place : Place}
    (hapart : BeginsApart text) (h : Reads .between text ts place) :
    Reads (.word name.toList.reverse) text (.word name :: ts) place := by
  unfold BeginsApart at hapart
  unfold Reads at *
  cases hcs : text.toList with
  | nil =>
    rw [hcs] at hapart
    cases hapart
  | cons c rest =>
    rw [hcs] at hapart h
    have hc : isIdentifierPart c = false := by simpa using hapart
    simp only [scan, Place.next, hc, Bool.false_eq_true, if_false, List.reverse_reverse,
      String.ofList_toList] at h ⊢
    obtain ⟨rfl, rfl⟩ := Prod.mk.inj h
    rfl

/-- A name in front of code is its first word. -/
theorem reads_front {name after : String} {place : Place} {ts : List Token} (hname : IsName name)
    (hafter : Reads .between after ts place) (hapart : BeginsApart after) :
    Reads .between (name ++ after) (.word name :: ts) place :=
  (reads_word hname).append (reads_behind_word hapart hafter)

/-- **A name that is spliced into code is a word of it.** -/
theorem reads_spliced {before name after : String} {a b : Place} {ts us : List Token}
    (hname : IsName name) (hbefore : Reads a before ts .between)
    (hafter : Reads .between after us b) (hapart : BeginsApart after) :
    Reads a (before ++ name ++ after) (ts ++ .word name :: us) b := by
  rw [String.append_assoc]
  exact hbefore.append (reads_front hname hafter hapart)

/-! ## 4. Quoted texts -/

theorem scan_quoted {cs : List Char} (h : '\'' ∉ cs) (read : List Char) :
    scan (.quoted read) cs = ([], .quoted (cs.reverse ++ read)) := by
  induction cs generalizing read with
  | nil => rfl
  | cons c rest ih =>
    have hc : c ≠ '\'' := fun e => h (e ▸ List.mem_cons_self)
    have hrest := ih (fun hd => h (List.mem_cons_of_mem _ hd)) (c :: read)
    simp only [scan, Place.next, if_neg hc]
    rw [hrest]
    simp

/-- **What is between quotes is one token.** -/
theorem reads_quoted {text : String} (h : '\'' ∉ text.toList) :
    Reads .between ("'" ++ text ++ "'") [.quoted text] .between := by
  have hopen : Reads .between "'" [] (.quoted []) := by decide
  have hinside : Reads (.quoted []) text [] (.quoted text.toList.reverse) := by
    unfold Reads
    rw [scan_quoted h, List.append_nil]
  have hclose : Reads (.quoted text.toList.reverse) "'" [.quoted text] .between := by
    show scan _ ['\''] = _
    simp [scan, Place.next]
  exact (hopen.append hinside).append hclose

/-! ## 5. Lines -/

theorem endLines_singleton (l : String) : endLines [l] = l ++ "\n" := by
  refine String.toList_inj.mp ?_
  simp [endLines]

theorem endLines_append (ls ms : List String) :
    endLines (ls ++ ms) = endLines ls ++ endLines ms := by
  refine String.toList_inj.mp ?_
  simp [endLines]

/-- **Lines that are read as some tokens**, from a place between tokens to another one. -/
def Written (ls : List String) (ts : List Token) : Prop :=
  Reads .between (endLines ls) ts .between

instance (ls : List String) (ts : List Token) : Decidable (Written ls ts) :=
  inferInstanceAs (Decidable (Reads _ _ _ _))

theorem written_nil : Written [] [] := rfl

theorem Written.append {ls ms : List String} {ts us : List Token} (hl : Written ls ts)
    (hm : Written ms us) : Written (ls ++ ms) (ts ++ us) := by
  unfold Written
  rw [endLines_append]
  exact Reads.append hl hm

theorem written_line {l : String} {ts : List Token} (h : Reads .between l ts .between) :
    Written [l] ts := by
  have hbreak : Reads .between "\n" [] .between := by decide
  unfold Written
  rw [endLines_singleton, ← List.append_nil ts]
  exact h.append hbreak

theorem Written.cons {l : String} {ls : List String} {ts us : List Token}
    (hl : Reads .between l ts .between) (hls : Written ls us) : Written (l :: ls) (ts ++ us) :=
  (written_line hl).append hls

end Script

end SampleSchema
