import SampleSchema.Artifact.Lines
import SampleSchema.Naming

/-!
# Reading texts back

The generated texts are read by cutting them: into lines, a line at a colon, a list at its commas,
with the blanks around a piece stripped. What is between the cuts is a WORD: a name or a spelled
type, made of characters at which nothing is ever cut. So every cut gives back what was put
together: `readNamed?_eq` for a name and what is said of it, `mapM_splitOn_listed` for a list,
`textLines_joinLines` and `blockLines_braced` for lines and blocks.
-/

namespace SampleSchema

/-! ## 1. Words -/

/-- The characters of names and spelled types. -/
def isWordPart (c : Char) : Bool :=
  isIdentifierPart c || c == '[' || c == ']' || c == '.' || c == '\''

/-- A text of such characters, and of at least one. -/
def IsWord (cs : List Char) : Prop := cs ≠ [] ∧ ∀ c ∈ cs, isWordPart c = true

theorem isWord_iff (cs : List Char) :
    (!cs.isEmpty && cs.all isWordPart) = true ↔ IsWord cs := by
  unfold IsWord
  rw [Bool.and_eq_true, List.all_eq_true, Bool.not_eq_true', List.isEmpty_eq_false_iff]

instance (cs : List Char) : Decidable (IsWord cs) := decidable_of_iff _ (isWord_iff cs)

theorem IsWord.not_mem {cs : List Char} (h : IsWord cs) {c : Char} (hc : isWordPart c = false) :
    c ∉ cs := by
  intro hmem
  rw [h.2 c hmem] at hc
  cases hc

theorem isWord_append {cs ds : List Char} (hc : IsWord cs) (hd : IsWord ds) :
    IsWord (cs ++ ds) := by
  refine ⟨List.append_ne_nil_of_left_ne_nil hc.1 ds, fun c hmem => ?_⟩
  rcases List.mem_append.mp hmem with h | h
  · exact hc.2 c h
  · exact hd.2 c h

/-- Names are words, whatever is asked of their first and of their later characters. -/
theorem isWord_cons {start part : Char → Bool} (hstart : ∀ c, start c = true → isWordPart c = true)
    (hpart : ∀ c, part c = true → isWordPart c = true) {c : Char} {rest : List Char}
    (h : (start c && rest.all part) = true) : IsWord (c :: rest) := by
  rw [Bool.and_eq_true, List.all_eq_true] at h
  refine ⟨List.cons_ne_nil c rest, fun d hd => ?_⟩
  rcases List.mem_cons.mp hd with rfl | hd
  · exact hstart d h.1
  · exact hpart d (h.2 d hd)

/-! ## 2. Cutting and stripping -/

/-- What stands before and behind the first of a character. -/
def cut? (c : Char) (cs : List Char) : Option (List Char × List Char) :=
  if c ∈ cs then some (cs.takeWhile (· ≠ c), (cs.dropWhile (· ≠ c)).tail) else none

/-- A text without the blanks at its ends. -/
def strip (cs : List Char) : List Char :=
  ((cs.dropWhile (· == ' ')).reverse.dropWhile (· == ' ')).reverse

/-- A name before a colon, and what is said of it. -/
def readNamed? (cs : List Char) : Option (List Char × List Char) :=
  (cut? ':' cs).map fun (name, said) => (strip name, said)

/-- A name and a text, with a colon between them. -/
def readPair? (cs : List Char) : Option (List Char × List Char) :=
  (readNamed? cs).map fun (name, said) => (name, strip said)

theorem cut?_append {c : Char} {cs : List Char} (h : c ∉ cs) (rest : List Char) :
    cut? c (cs ++ c :: rest) = some (cs, rest) := by
  have hpos : ∀ d ∈ cs, decide (d ≠ c) = true := by
    intro d hd
    exact decide_eq_true fun e => h (e ▸ hd)
  unfold cut?
  rw [if_pos (List.mem_append_right cs List.mem_cons_self), List.takeWhile_append_of_pos hpos,
    List.dropWhile_append_of_pos hpos, List.takeWhile_cons_of_neg (by simp),
    List.dropWhile_cons_of_neg (by simp), List.append_nil, List.tail_cons]

/-- Blanks in front of a text that begins otherwise. -/
theorem dropWhile_blank {before cs : List Char} (hbefore : ∀ c ∈ before, c = ' ') (hne : cs ≠ [])
    (hcs : ' ' ∉ cs) (rest : List Char) :
    (before ++ (cs ++ rest)).dropWhile (· == ' ') = cs ++ rest := by
  have hpos : ∀ c ∈ before, (c == ' ') = true := by
    intro c hc
    rw [hbefore c hc]
    rfl
  rw [List.dropWhile_append_of_pos hpos]
  cases cs with
  | nil => exact absurd rfl hne
  | cons c cs =>
    have hc : ¬ (c == ' ') = true := by
      intro e
      exact hcs (eq_of_beq e ▸ List.mem_cons_self)
    exact List.dropWhile_cons_of_neg hc

/-- **Stripping gives back a text from between blanks.** -/
theorem strip_eq {cs : List Char} (before after : List Char) (hbefore : ∀ c ∈ before, c = ' ')
    (hafter : ∀ c ∈ after, c = ' ') (hne : cs ≠ []) (hcs : ' ' ∉ cs) :
    strip (before ++ (cs ++ after)) = cs := by
  have hback : ∀ c ∈ after.reverse, c = ' ' := fun c hc => hafter c (List.mem_reverse.mp hc)
  have hrev : ' ' ∉ cs.reverse := fun h => hcs (List.mem_reverse.mp h)
  have hdrop := dropWhile_blank hback (List.reverse_ne_nil_iff.mpr hne) hrev []
  unfold strip
  rw [dropWhile_blank hbefore hne hcs, List.reverse_append]
  rw [List.append_nil] at hdrop
  rw [hdrop, List.reverse_reverse]

/-- **A word before a colon is the name that is read.** -/
theorem readNamed?_eq {before name : List Char} (hbefore : ∀ c ∈ before, c = ' ')
    (hname : IsWord name) (said : List Char) :
    readNamed? (before ++ (name ++ ':' :: said)) = some (name, said) := by
  have hcolon : ':' ∉ before ++ name := by
    intro h
    rcases List.mem_append.mp h with h | h
    · cases hbefore _ h
    · exact hname.not_mem rfl h
  have hstrip := strip_eq before [] hbefore (fun _ h => (by cases h)) hname.1 (hname.not_mem rfl)
  rw [List.append_nil] at hstrip
  unfold readNamed?
  rw [← List.append_assoc, cut?_append hcolon]
  show some (strip (before ++ name), said) = _
  rw [hstrip]

/-- A name and a text, as they are written. -/
def pairText (p : List Char × List Char) : List Char := p.1 ++ ':' :: ' ' :: p.2

/-- **A word and a text without blanks are read back**, from anywhere between blanks. -/
theorem readPair?_eq {before after : List Char} {p : List Char × List Char}
    (hbefore : ∀ c ∈ before, c = ' ') (hname : IsWord p.1) (hne : p.2 ≠ []) (hsaid : ' ' ∉ p.2)
    (hafter : ∀ c ∈ after, c = ' ') : readPair? (before ++ (pairText p ++ after)) = some p := by
  have hstrip := strip_eq [' '] after (fun c h => List.mem_singleton.mp h) hafter hne hsaid
  have htext : pairText p ++ after = p.1 ++ ':' :: ([' '] ++ (p.2 ++ after)) := by
    simp [pairText]
  unfold readPair?
  rw [htext, readNamed?_eq hbefore hname]
  show some (p.1, strip _) = some p
  rw [hstrip]

/-- Pairs with commas between them. -/
def readPairs? (cs : List Char) : Option (List (List Char × List Char)) :=
  (cs.splitOn ',').mapM readPair?

/-- **Items that are read from between blanks are read from a list with commas.** -/
theorem mapM_splitOn_listed {α γ : Type} {read : List Char → Option γ} {write : α → List Char}
    {sense : α → γ} {l : List α} (hne : l ≠ []) (hcomma : ∀ a ∈ l, ',' ∉ write a)
    (h : ∀ a ∈ l, ∀ before after : List Char, (∀ c ∈ before, c = ' ') → (∀ c ∈ after, c = ' ') →
      read (before ++ (write a ++ after)) = some (sense a))
    (before after : List Char) (hbefore : ∀ c ∈ before, c = ' ') (hafter : ∀ c ∈ after, c = ' ') :
    ((before ++ ([',', ' '].intercalate (l.map write) ++ after)).splitOn ',').mapM read =
      some (l.map sense) := by
  have hblank : ∀ {blanks : List Char}, (∀ c ∈ blanks, c = ' ') → ',' ∉ blanks := by
    intro blanks hblanks hmem
    cases hblanks _ hmem
  have hnone : ∀ c ∈ ([] : List Char), c = ' ' := by simp
  induction l generalizing before with
  | nil => exact absurd rfl hne
  | cons a rest ih =>
    have ha := hcomma a List.mem_cons_self
    cases rest with
    | nil =>
      have hlast : ',' ∉ before ++ (write a ++ after) := by
        simp [hblank hbefore, ha, hblank hafter]
      rw [List.map_singleton, List.intercalate_singleton, List.splitOn_eq_singleton hlast,
        List.mapM_cons, h a List.mem_cons_self before after hbefore hafter]
      rfl
    | cons b more =>
      have hfirst : ',' ∉ before ++ (write a ++ []) := by
        simp [hblank hbefore, ha]
      have htail := ih (List.cons_ne_nil b more) (fun c hc => hcomma c (List.mem_cons_of_mem _ hc))
        (fun c hc => h c (List.mem_cons_of_mem _ hc)) [' '] fun c hc => List.mem_singleton.mp hc
      have htext : ∀ later : List Char, before ++ (write a ++ [',', ' '] ++ later ++ after) =
          (before ++ (write a ++ [])) ++ ',' :: ([' '] ++ (later ++ after)) := by
        simp
      rw [List.map_cons] at htail
      rw [List.map_cons, List.map_cons, List.intercalate_cons_cons, htext,
        List.splitOn_append_cons_self_of_not_mem hfirst, List.mapM_cons, htail,
        h a List.mem_cons_self before [] hbefore hnone]
      rfl

/-- **A list of names and texts without blanks and commas is read back**, from between blanks. -/
theorem readPairs?_between {pairs : List (List Char × List Char)} (hne : pairs ≠ [])
    (h : ∀ p ∈ pairs, IsWord p.1 ∧ p.2 ≠ [] ∧ ' ' ∉ p.2 ∧ ',' ∉ p.2) {before after : List Char}
    (hbefore : ∀ c ∈ before, c = ' ') (hafter : ∀ c ∈ after, c = ' ') :
    readPairs? (before ++ ([',', ' '].intercalate (pairs.map pairText) ++ after)) =
      some pairs := by
  have hcomma : ∀ p ∈ pairs, ',' ∉ pairText p := by
    intro p hp
    obtain ⟨hname, _, _, hsaid⟩ := h p hp
    simp [pairText, hname.not_mem (c := ',') rfl, hsaid]
  have hpair : ∀ p ∈ pairs, ∀ before after : List Char, (∀ c ∈ before, c = ' ') →
      (∀ c ∈ after, c = ' ') → readPair? (before ++ (pairText p ++ after)) = some (id p) := by
    intro p hp before after hbefore hafter
    obtain ⟨hname, hne, hsaid, _⟩ := h p hp
    exact readPair?_eq hbefore hname hne hsaid hafter
  have hread := mapM_splitOn_listed hne hcomma hpair before after hbefore hafter
  rw [List.map_id] at hread
  exact hread

/-- **A list of pairs of words is read back.** -/
theorem readPairs?_listed {pairs : List (List Char × List Char)} (hne : pairs ≠ [])
    (h : ∀ p ∈ pairs, IsWord p.1 ∧ IsWord p.2) :
    readPairs? ([' '] ++ ([',', ' '].intercalate (pairs.map pairText) ++ [' '])) = some pairs := by
  have hblank : ∀ c ∈ [' '], c = ' ' := fun c hc => List.mem_singleton.mp hc
  refine readPairs?_between hne (fun p hp => ?_) hblank hblank
  obtain ⟨hname, hsaid⟩ := h p hp
  exact ⟨hname, hsaid.1, hsaid.not_mem rfl, hsaid.not_mem rfl⟩

theorem not_mem_intercalate {separator : List Char} {pieces : List (List Char)} {c : Char}
    (hseparator : c ∉ separator) (h : ∀ piece ∈ pieces, c ∉ piece) :
    c ∉ separator.intercalate pieces := by
  induction pieces with
  | nil => simp
  | cons piece rest ih =>
    have hpiece := h piece List.mem_cons_self
    have hrest := ih fun other hother => h other (List.mem_cons_of_mem _ hother)
    cases rest with
    | nil => simpa using hpiece
    | cons next more =>
      rw [List.intercalate_cons_cons]
      simp [hpiece, hseparator, hrest]

/-- What is neither part of a word nor put between words is not in a list of pairs. -/
theorem not_mem_listed {pairs : List (List Char × List Char)}
    (h : ∀ p ∈ pairs, IsWord p.1 ∧ IsWord p.2) {c : Char} (hc : isWordPart c = false)
    (hbetween : c ∉ [' ', ',', ':']) : c ∉ [',', ' '].intercalate (pairs.map pairText) := by
  simp only [List.mem_cons, List.not_mem_nil, or_false, not_or] at hbetween
  refine not_mem_intercalate (by simp [hbetween]) fun text htext => ?_
  obtain ⟨p, hp, rfl⟩ := List.mem_map.mp htext
  have hname := (h p hp).1.not_mem hc
  have hsaid := (h p hp).2.not_mem hc
  simp [pairText, hname, hsaid, hbetween]

/-! ## 3. Lines and blocks -/

/-- The lines of a text. -/
def textLines (text : String) : List (List Char) := text.toList.splitOn '\n'

/-- The lines of a first block: those between its head and the brace that closes it. -/
def blockLines (ls : List (List Char)) : List (List Char) := ls.tail.takeWhile (· ≠ ['\x7d'])

/-- The lines behind a first block and the empty line that follows it. -/
def afterBlock (ls : List (List Char)) : List (List Char) :=
  (ls.tail.dropWhile (· ≠ ['\x7d'])).drop 2

/-- **Lines that are put together are the lines of the text.** -/
theorem textLines_joinLines {ls : List String} (hne : ls ≠ [])
    (h : ∀ l ∈ ls, '\n' ∉ l.toList) : textLines (joinLines ls) = ls.map (·.toList) := by
  unfold textLines joinLines
  rw [String.toList_intercalate]
  refine List.splitOn_intercalate '\n' ?_ (by simpa using hne)
  intro l hl
  obtain ⟨s, hs, rfl⟩ := List.mem_map.mp hl
  exact h s hs

/-- The lines of two texts with a line break between them. -/
theorem textLines_append (front back : String) :
    textLines (front ++ ("\n" ++ back)) = textLines front ++ textLines back := by
  unfold textLines
  rw [String.toList_append, String.toList_append]
  exact List.splitOn_append_cons_self _ _

/-- A text without line breaks is one line. -/
theorem textLines_eq_singleton {text : String} (h : '\n' ∉ text.toList) :
    textLines text = [text.toList] :=
  List.splitOn_eq_singleton h

/-- A text with a line break is more than one line. -/
theorem textLines_eq_singleton_iff {text : String} :
    textLines text = [text.toList] ↔ '\n' ∉ text.toList := by
  refine ⟨fun h hbreak => ?_, textLines_eq_singleton⟩
  obtain ⟨front, back, htext, hfront⟩ := List.eq_append_cons_of_mem hbreak
  unfold textLines at h
  rw [htext, List.splitOn_append_cons_self_of_not_mem hfront] at h
  exact List.splitOn_ne_nil '\n' back (List.cons.inj h).2

/-- **The lines of texts that are put together are those of each**, one text after the other,
    whatever line breaks they hold. -/
theorem textLines_joinLines_flatMap {ls : List String} (hne : ls ≠ []) :
    textLines (joinLines ls) = ls.flatMap textLines := by
  induction ls with
  | nil => exact absurd rfl hne
  | cons l rest ih =>
    cases rest with
    | nil => exact (List.append_nil _).symm
    | cons next more =>
      have htext : joinLines (l :: next :: more) = l ++ ("\n" ++ joinLines (next :: more)) := by
        refine String.toList_inj.mp ?_
        unfold joinLines
        simp
      rw [htext, textLines_append, ih (List.cons_ne_nil _ _)]
      rfl

/-- The lines of a block whose pieces hold line breaks. -/
theorem textLines_braced_flatMap (head : String) (ls : List String) :
    textLines (joinLines (braced head ls)) =
      textLines (head ++ " \x7b") ++ ls.flatMap textLines ++ [['\x7d']] := by
  unfold braced
  rw [textLines_joinLines_flatMap (by simp), List.flatMap_append, List.flatMap_cons]
  rfl

/-- Of lines with a break behind each, the first one comes first. -/
theorem textLines_endLines_cons (l : String) (rest : List String) :
    textLines (endLines (l :: rest)) = textLines l ++ textLines (endLines rest) := by
  have htext : endLines (l :: rest) = l ++ ("\n" ++ endLines rest) := by
    refine String.toList_inj.mp ?_
    simp [endLines]
  rw [htext, textLines_append]

/-- Lines with a break behind each are the lines of their text, and an empty one at the end. -/
theorem textLines_endLines {ls : List String} (h : ∀ l ∈ ls, '\n' ∉ l.toList) :
    textLines (endLines ls) = ls.map (·.toList) ++ [[]] := by
  induction ls with
  | nil => rfl
  | cons l rest ih =>
    have hrest := ih fun other hother => h other (List.mem_cons_of_mem _ hother)
    rw [textLines_endLines_cons, textLines_eq_singleton (h l List.mem_cons_self), hrest]
    rfl

/-- The lines of a block are those it was put together from. -/
theorem textLines_braced {head : String} {ls : List String} (hhead : '\n' ∉ head.toList)
    (h : ∀ l ∈ ls, '\n' ∉ l.toList) :
    textLines (joinLines (braced head ls)) = (braced head ls).map (·.toList) := by
  refine textLines_joinLines (List.cons_ne_nil _ _) fun l hl => ?_
  rcases List.mem_append.mp hl with hl | hl
  · rcases List.mem_cons.mp hl with rfl | hl
    · simp [hhead]
    · exact h l hl
  · rw [List.mem_singleton.mp hl]
    decide

theorem tail_braced (head : String) (ls : List String) (rest : List (List Char)) :
    ((braced head ls).map (·.toList) ++ rest).tail = ls.map (·.toList) ++ ['\x7d'] :: rest := by
  simp [braced]

section Block

variable (head : String) {ls : List String} (h : ∀ l ∈ ls, l.toList ≠ ['\x7d'])
include h

theorem ne_brace_of_mem_map : ∀ l ∈ ls.map (·.toList), decide (l ≠ ['\x7d']) = true := by
  intro l hl
  obtain ⟨s, hs, rfl⟩ := List.mem_map.mp hl
  exact decide_eq_true (h s hs)

/-- **The lines of a block are read back**, whatever follows it. -/
theorem blockLines_braced (rest : List (List Char)) :
    blockLines ((braced head ls).map (·.toList) ++ rest) = ls.map (·.toList) := by
  unfold blockLines
  rw [tail_braced, List.takeWhile_append_of_pos (ne_brace_of_mem_map h),
    List.takeWhile_cons_of_neg (by simp), List.append_nil]

/-- **What follows a block is found.** -/
theorem afterBlock_braced (empty : List Char) (rest : List (List Char)) :
    afterBlock ((braced head ls).map (·.toList) ++ empty :: rest) = rest := by
  unfold afterBlock
  rw [tail_braced, List.dropWhile_append_of_pos (ne_brace_of_mem_map h),
    List.dropWhile_cons_of_neg (by simp)]
  rfl

end Block

/-- The lines of a list of items, one on each line and a comma behind each but the last. -/
def itemLines : List (List Char) → List (List Char)
  | [] => [[]]
  | [item] => [item]
  | item :: rest => (item ++ [',']) :: itemLines rest

/-- A line of a list is an item, with a comma or nothing behind it, or there is no item. -/
theorem eq_append_of_mem_itemLines {items : List (List Char)} {line : List Char}
    (h : line ∈ itemLines items) :
    line = [] ∨ ∃ item ∈ items, ∃ after ∈ [[], [',']], line = item ++ after := by
  induction items with
  | nil => exact Or.inl (List.mem_singleton.mp h)
  | cons item more ih =>
    cases more with
    | nil =>
      refine Or.inr ⟨item, List.mem_cons_self, [], List.mem_cons_self, ?_⟩
      rw [List.mem_singleton.mp h, List.append_nil]
    | cons next more =>
      rcases List.mem_cons.mp h with rfl | h
      · exact Or.inr ⟨item, List.mem_cons_self, [','], by simp, rfl⟩
      · rcases ih h with rfl | ⟨other, hother, after, hafter, rfl⟩
        · exact Or.inl rfl
        · exact Or.inr ⟨other, List.mem_cons_of_mem _ hother, after, hafter, rfl⟩

/-- **The lines of a list of items are those of its items, with their commas**, whatever line breaks
    the items hold. -/
theorem splitOn_items_flatMap (items : List (List Char)) (rest : List Char) :
    ([',', '\n'].intercalate items ++ '\n' :: rest).splitOn '\n' =
      (itemLines items).flatMap (·.splitOn '\n') ++ rest.splitOn '\n' := by
  induction items with
  | nil => exact List.splitOn_append_cons_self_of_not_mem (by simp) rest
  | cons item more ih =>
    cases more with
    | nil =>
      rw [List.intercalate_singleton, List.splitOn_append_cons_self]
      simp [itemLines]
    | cons next more =>
      have htext : ∀ later : List Char, item ++ [',', '\n'] ++ later ++ '\n' :: rest =
          (item ++ [',']) ++ '\n' :: (later ++ '\n' :: rest) := by
        simp
      rw [List.intercalate_cons_cons, htext, List.splitOn_append_cons_self, ih]
      simp [itemLines]

/-- Items without line breaks have one line each. -/
theorem flatMap_splitOn_itemLines {items : List (List Char)} (h : ∀ item ∈ items, '\n' ∉ item) :
    (itemLines items).flatMap (·.splitOn '\n') = itemLines items := by
  have hline : ∀ line ∈ itemLines items, line.splitOn '\n' = [line] := by
    intro line hline
    refine List.splitOn_eq_singleton ?_
    rcases eq_append_of_mem_itemLines hline with rfl | ⟨item, hitem, after, hafter, rfl⟩
    · simp
    · have hnone : ∀ after ∈ [[], [',']], '\n' ∉ after := by decide
      simp [h item hitem, hnone after hafter]
  rw [List.flatMap_def, List.map_congr_left hline, ← List.flatMap_def]
  exact List.flatMap_singleton' _

/-- **Items that are read, whatever follows them, are read from the lines of their list.** -/
theorem mapM_itemLines {α γ : Type} {read : List Char → Option γ} {write : α → List Char}
    {sense : α → γ} {l : List α} (hne : ∀ a ∈ l, write a ≠ [])
    (h : ∀ a ∈ l, ∀ after, read (write a ++ after) = some (sense a)) :
    ((itemLines (l.map write)).filter (· ≠ [])).mapM read = some (l.map sense) := by
  induction l with
  | nil => rfl
  | cons a more ih =>
    have ha := h a List.mem_cons_self
    have hmore := ih (fun b hb => hne b (List.mem_cons_of_mem _ hb))
      fun b hb => h b (List.mem_cons_of_mem _ hb)
    cases more with
    | nil =>
      have hlast := ha []
      rw [List.append_nil] at hlast
      show (([write a]).filter (· ≠ [])).mapM read = _
      rw [List.filter_cons_of_pos (by simpa using hne a List.mem_cons_self), List.filter_nil,
        List.mapM_cons, hlast]
      rfl
    | cons b more =>
      show (((write a ++ [',']) :: itemLines ((b :: more).map write)).filter (· ≠ [])).mapM read = _
      rw [List.filter_cons_of_pos (by simp), List.mapM_cons, ha, hmore]
      rfl

end SampleSchema
