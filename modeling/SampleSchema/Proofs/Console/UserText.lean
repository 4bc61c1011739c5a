import Mathlib.Data.List.Basic
import SampleSchema.Proofs.Console.Emoji
import SampleSchema.Proofs.Console.Fitted
import SampleSchema.Proofs.Console.Printed

/-!
# Which texts are shown as they are

What comes from a user is made literal before it is put into a message or a table, so that it is
shown as it is. For brackets it is: every one of them is shown, whether it looks like a tag or not.
For backslashes it is not always. `Console.user_text_as_it_is` has the exact condition, in messages
(`Console.styled_as_is_iff`) and in cells (`Table.shows_iff`), for every text of one line without a
code of an emoji that fits on the screen, and `Console.backslashes_not_as_they_are` shows what
becomes of texts that do not meet it.

That a text is not shown as it is takes an argument, since lines are broken and filled up before
they are shown. It is by counting: fitting leaves each backslash (`count_brokenLines`), and such a
text has lost one. Only a single backslash at the end of a cell is doubled instead.
-/

namespace SampleSchema

open Markup

/-! ## 1. Lines -/

/-- The control characters of ASCII and of Latin-1. -/
def isControl (c : Char) : Bool := c.toNat < 0x20 || (0x7F ≤ c.toNat && c.toNat ≤ 0x9F)

/-- **A text of one line**, without control characters. -/
def IsLine (cs : List Char) : Prop := ∀ c ∈ cs, isControl c = false ∧ Table.isLineEnd c = false

instance (cs : List Char) : Decidable (IsLine cs) :=
  decidable_of_iff ((cs.all fun c => !isControl c && !Table.isLineEnd c) = true) (by
    simp [IsLine, List.all_eq_true])

namespace IsLine

variable {cs : List Char} (h : IsLine cs)
include h

theorem not_mem {c : Char} (hc : isControl c = true) : c ∉ cs := by
  intro hmem
  rw [(h c hmem).1] at hc
  cases hc

/-- Nothing in a line is silent. -/
theorem isSilent_eq {c : Char} (hc : c ∈ cs) : isSilent c = false := by
  have hcontrol := (h c hc).1
  unfold isControl at hcontrol
  unfold isSilent
  simp only [Bool.or_eq_false_iff, decide_eq_false_iff_not] at hcontrol
  simp only [List.contains_cons, List.contains_nil, Bool.or_false, Bool.or_eq_false_iff,
    beq_eq_false_iff_ne]
  omega

theorem filter_eq : (cs.filter fun c => !isSilent c) = cs :=
  List.filter_eq_self.mpr fun c hc => by rw [h.isSilent_eq hc]; rfl

theorem widthOf_eq : Table.widthOf cs = columnCount cs := by
  unfold Table.widthOf
  rw [segments_eq_singleton fun c hc => (h c hc).2, List.map_singleton, List.foldl_cons,
    List.foldl_nil, Nat.max_eq_right (Nat.zero_le _)]

/-- What appears of a line in a cell is a line. -/
theorem isLine_cellText : IsLine (cellText cs) := by
  intro c hc
  rcases mem_of_mem_cellText hc with hc | rfl
  · exact h c hc
  · decide

end IsLine

/-! ## 2. Messages -/

namespace Console

theorem toList_linesText (ls : List (List Char)) :
    (linesText ls).toList = ls.flatMap fun line => line ++ ['\n'] := String.toList_ofList

theorem linesText_singleton (text : String) : linesText [text.toList] = text ++ "\n" := by
  refine String.toList_inj.mp ?_
  rw [toList_linesText, List.flatMap_singleton, String.toList_append]
  rfl

/-- Line ends are no backslashes. -/
theorem count_linesText (ls : List (List Char)) :
    (linesText ls).toList.count '\\' = ls.flatten.count '\\' := by
  rw [toList_linesText]
  induction ls with
  | nil => rfl
  | cons line ls ih =>
    rw [List.flatMap_cons, List.count_append, ih, List.flatten_cons, List.count_append,
      List.count_append]
    rfl

/-- **The name of a style of messages** holds no backslash, no colon and nothing silent. -/
def isQuiet (style : String) : Bool :=
  style.toList.all fun c => c ≠ '\\' && c ≠ ':' && !isSilent c

theorem ne_of_isQuiet {style : String} (h : isQuiet style = true) :
    ∀ c ∈ style.toList, c ≠ '\\' ∧ c ≠ ':' ∧ isSilent c = false := by
  intro c hc
  have hquiet := List.all_eq_true.mp h c hc
  simpa [and_assoc] using hquiet

/-- Nothing in a message of one line is silent. -/
theorem filter_messageText {style : String} (hquiet : isQuiet style = true) {cs : List Char}
    (hline : IsLine cs) : ((messageText style.toList cs).filter fun c => !isSilent c) =
      messageText style.toList cs := by
  have hslash : isSilent '\\' = false := by decide
  have hmarks : isSilent '[' = false ∧ isSilent '/' = false ∧ isSilent ']' = false := by decide
  refine List.filter_eq_self.mpr fun c hc => ?_
  rw [Bool.not_eq_true']
  rcases mem_of_mem_shownFrom hc with hc | rfl | ⟨n, hc⟩
  · exact hline.isSilent_eq hc
  · exact hslash
  · unfold beforeClosing at hc
    rcases List.mem_append.mp hc with hc | hc
    · rwa [List.eq_of_mem_replicate hc]
    · split at hc
      · simp only [closingTag, List.cons_append, List.mem_cons, List.mem_append, List.not_mem_nil,
          or_false] at hc
        rcases hc with rfl | rfl | hc | rfl
        · exact hmarks.1
        · exact hmarks.2.1
        · exact (ne_of_isQuiet hquiet c hc).2.2
        · exact hmarks.2.2
      · cases hc

section Messages

variable (screen : Screen) {style : String} (hstyle : isStyle style.toList = true)
  (hquiet : isQuiet style = true) {message : String} (hline : IsLine message.toList)
  (hcode : screen.holdsEmoji message.toList = false)
include hstyle hquiet hline hcode

/-- **What a message in a style prints**, of one line without the code of an emoji. -/
theorem styled_eq : styled screen style message = .ok
    (linesText (brokenLines screen.columns true (messageText style.toList message.toList))) := by
  have hmarkup : ("[" ++ style ++ "]" ++ literal message ++ "[/" ++ style ++ "]").toList =
      '[' :: style.toList ++ ']' :: (escape message.toList ++ closingTag style.toList) := by
    unfold literal closingTag
    simp only [String.toList_append, String.toList_ofList]
    simp
  have hnone : screen.holdsEmoji (messageText style.toList message.toList) = false :=
    screen.holdsEmoji_messageText (fun hmem => (ne_of_isQuiet hquiet _ hmem).2.1 rfl) hcode
  unfold styled markup Screen.render
  rw [hmarkup, render_message hstyle, filter_messageText hquiet hline]
  show Except.ok (linesText (brokenLines _ _ (if screen.holdsEmoji _ = true then _ else _))) = _
  rw [hnone]
  rfl

/-- **Such a message, if it is not too wide, is printed as it is** exactly if no backslash is lost,
    it does not end in two of them, and no blanks at its end are too many. -/
theorem styled_as_is_iff (hfits : columnCount message.toList ≤ screen.columns) :
    styled screen style message = .ok (message ++ "\n") ↔
      ¬ LosesBackslash message.toList ∧ endBackslashes message.toList ≤ 1 ∧
      withoutExcess screen.columns message.toList = message.toList := by
  have hslash : '\\' ∉ style.toList := fun hmem => (ne_of_isQuiet hquiet _ hmem).1 rfl
  rw [styled_eq screen hstyle hquiet hline hcode, ← and_assoc, ← messageText_eq_self_iff hslash]
  constructor
  · intro h
    have hout := Except.ok.inj h
    have hsame : messageText style.toList message.toList = message.toList := by
      by_contra hne
      have hfewer := count_messageText_lt hslash hne
      have hcount := congrArg (fun out => out.toList.count '\\') hout
      rw [count_linesText, count_brokenLines (by decide), String.toList_append,
        List.count_append] at hcount
      omega
    refine ⟨hsame, ?_⟩
    rw [hsame, brokenLines_of_fits true (hline.not_mem (by decide)) (hline.not_mem (by decide))
      hfits] at hout
    have hlines := congrArg String.toList hout
    rw [toList_linesText, List.flatMap_singleton, String.toList_append] at hlines
    exact List.append_cancel_right hlines
  · rintro ⟨hsame, hwhole⟩
    rw [hsame, brokenLines_of_fits true (hline.not_mem (by decide)) (hline.not_mem (by decide))
      hfits, hwhole, linesText_singleton]

end Messages

end Console

/-! ## 3. Cells -/

namespace Table

variable (screen : Screen)

/-- What is printed of a text that is made literal. -/
def literalText (text : String) : List Char :=
  let seen := (cellText text.toList).filter fun c => !isSilent c
  if screen.holdsEmoji seen then screen.withEmoji (escape text.toList) else seen

/-- **The lines of a cell** for a text that is made literal. -/
def literalCell (column : TableColumn) (width : Nat) (text : String) : List (List Char) :=
  cellLines column width (literalText screen text)

/-- **A cell shows a text**: on one line, filled up with blanks. Blanks at its end that lie beyond
    the width are not told apart from those. -/
def Shows (column : TableColumn) (width : Nat) (text : String) : Prop :=
  literalCell screen column width text = [filled width (withoutExcess width text.toList)]

/-- Does a column have room for a text that is made literal? -/
def HasRoom (width : Nat) (text : String) : Prop := widthOf (literalText screen text) ≤ width

theorem render_literal (text : String) :
    screen.render (Console.literal text).toList = .ok (literalText screen text) := by
  unfold Console.literal Screen.render
  rw [String.toList_ofList, render_escape]
  rfl

/-- A text that ends in one backslash, and what appears of it in a cell, end in no blank. -/
theorem withoutEnd_of_one {cs : List Char} (hone : endBackslashes cs = 1) :
    withoutEnd cs = cs ∧ withoutEnd (cellText cs) = cellText cs := by
  have hslash : ∀ front, withoutEnd (front ++ ['\\']) = front ++ ['\\'] := fun front =>
    withoutEnd_append_singleton front (by decide)
  obtain ⟨front, hfront⟩ := exists_append_endBackslashes cs
  obtain ⟨before, hbefore⟩ := exists_cellText_of_one hone
  rw [hone] at hfront
  refine ⟨?_, ?_⟩
  · rw [hfront]
    exact hslash front
  · rw [hbefore, List.append_cons before]
    exact hslash _

/-- **A cell shows a text of one line** without the code of an emoji exactly if no backslash is lost,
    and the text does not end in just one. -/
theorem shows_iff (column : TableColumn) {width : Nat} {text : String} (hline : IsLine text.toList)
    (hcode : screen.holdsEmoji text.toList = false) (hroom : HasRoom screen width text) :
    Shows screen column width text ↔
      ¬ LosesBackslash text.toList ∧ endBackslashes text.toList ≠ 1 := by
  have hseen := hline.isLine_cellText
  have htext : literalText screen text = cellText text.toList := by
    have hnone := screen.holdsEmoji_cellText hcode
    unfold literalText
    rw [hseen.filter_eq]
    exact if_neg (by rw [hnone]; exact Bool.false_ne_true)
  unfold HasRoom at hroom
  rw [htext, hseen.widthOf_eq] at hroom
  unfold Shows literalCell
  rw [htext, cellLines_of_fits column (hseen.not_mem (by decide)) (hseen.not_mem (by decide)) hroom]
  constructor
  · intro h
    have hfilled := (List.cons.inj h).1
    have hend : endBackslashes text.toList ≠ 1 := by
      intro hone
      -- both texts are there as wholes, so they are the same
      obtain ⟨hwhole, hcell⟩ := withoutEnd_of_one hone
      have hsame := congrArg withoutEnd hfilled
      rw [withoutEnd_filled, withoutEnd_filled, withoutEnd_withoutExcess,
        withoutEnd_withoutExcess, hcell, hwhole] at hsame
      exact ((cellText_eq_self_iff _).mp hsame).2 hone
    refine ⟨fun hlost => ?_, hend⟩
    have hfewer := count_cellText_lt hlost hend
    have hcount := congrArg (List.count '\\') hfilled
    rw [count_filled (by decide), count_filled (by decide), count_withoutExcess (by decide),
      count_withoutExcess (by decide)] at hcount
    omega
  · intro h
    rw [(cellText_eq_self_iff _).mpr h]

/-! ## 4. Tables -/

theorem le_foldl_max (ns : List Nat) (n : Nat) :
    n ≤ ns.foldl max n ∧ ∀ k ∈ ns, k ≤ ns.foldl max n := by
  induction ns generalizing n with
  | nil => exact ⟨le_rfl, fun k hk => by cases hk⟩
  | cons k ns ih =>
    obtain ⟨hfirst, hothers⟩ := ih (max n k)
    refine ⟨(le_max_left n k).trans hfirst, fun j hj => ?_⟩
    rcases List.mem_cons.mp hj with rfl | hj
    · exact (le_max_right n j).trans hfirst
    · exact hothers j hj

theorem length_columnWidths (heads : List (List Char)) (rows : List (List (List Char))) :
    (columnWidths heads rows).length = heads.length := by
  simp [columnWidths]

/-- **Each column has room for its cells.** -/
theorem widthOf_le_columnWidths {heads : List (List Char)} {rows : List (List (List Char))}
    {row : List (List Char)} (hrow : row ∈ rows) {i width : Nat} {cell : List Char}
    (hcell : row[i]? = some cell) (hwidth : (columnWidths heads rows)[i]? = some width) :
    widthOf cell ≤ width := by
  have hwidths : (columnWidths heads rows)[i]? = heads[i]?.map fun head =>
      (rows.map fun row => widthOf (row[i]?.getD [])).foldl max (widthOf head) := by
    simp [columnWidths, List.getElem?_zipIdx, Function.comp_def]
  rw [hwidths] at hwidth
  obtain ⟨head, -, rfl⟩ := Option.map_eq_some_iff.mp hwidth
  refine (le_foldl_max _ _).2 _ (List.mem_map.mpr ⟨row, hrow, ?_⟩)
  rw [hcell]
  rfl

/-- **The rows of a table that fits stand in it one below the other**, between its head and its last
    line, in columns of the widths that are needed. -/
theorem exists_render_rows {title : String} {columns : List TableColumn} {heads : List (List Char)}
    {α : Type} {cells : α → List String} {seen : α → List (List Char)} (htitle : IsPrinted title)
    (hheads : columns.mapM (fun column => screen.render column.head.toList) = .ok heads)
    (hcells : ∀ a, (cells a).mapM (fun cell => screen.render cell.toList) = .ok (seen a))
    {items : List α} {widths : List Nat} (hwidths : columnWidths heads (items.map seen) = widths)
    (hfits : total widths ≤ screen.columns) :
    ∃ front back, Table.render screen ⟨title, columns, items.map cells⟩ =
      .ok (front ++ items.flatMap (fun a =>
        rowLines '│' ((columns.zip (widths.zip (seen a))).map fun c =>
          (c.2.1, cellLines c.1 c.2.1 c.2.2))) ++ back) := by
  obtain ⟨printed, hprinted⟩ := screen.exists_render htitle
  have hrows := mapM_map_eq_ok hcells items
  unfold render
  rw [hprinted, hheads, hrows]
  dsimp only [bind, Except.bind, pure, Except.pure]
  rw [hwidths, if_pos hfits, List.flatMap_map]
  exact ⟨_, _, rfl⟩

end Table

namespace Console

open Table (Shows HasRoom literalCell literalText render_literal rowLines cellLines columnWidths)

variable (screen : Screen)

/-- The widths that a table of labels and values needs. -/
def summaryWidths (rows : List (String × Json)) : List Nat :=
  columnWidths ["Item".toList, "Value".toList] ((Entries.ofPairs rows).map fun e =>
    [literalText screen e.1, literalText screen e.2.shown])

/-- **The rows of a table of labels and values that fits**, with room for each of them. -/
theorem exists_summaryTable_rows {title : String} (htitle : IsPrinted title)
    (rows : List (String × Json))
    (hfits : Table.total (summaryWidths screen rows) ≤ screen.columns) :
    ∃ front w₁ w₂ back, summaryTable screen title rows =
        .ok (linesText (front ++ (Entries.ofPairs rows).flatMap (fun e => rowLines '│'
          [(w₁, literalCell screen ⟨"Item", false⟩ w₁ e.1),
            (w₂, literalCell screen ⟨"Value", true⟩ w₂ e.2.shown)]) ++ back) ++ emptyLine) ∧
      ∀ e ∈ Entries.ofPairs rows, HasRoom screen w₁ e.1 ∧ HasRoom screen w₂ e.2.shown := by
  have hheads : [(⟨"Item", false⟩ : TableColumn), ⟨"Value", true⟩].mapM (fun column =>
      screen.render column.head.toList) = .ok ["Item".toList, "Value".toList] := by rfl
  have hcells : ∀ e : String × Json, [literal e.1, literal e.2.shown].mapM (fun cell =>
      screen.render cell.toList) = .ok [literalText screen e.1, literalText screen e.2.shown] :=
    fun e => by
      rw [List.mapM_cons, List.mapM_cons, render_literal, render_literal]
      rfl
  obtain ⟨w₁, w₂, hwidths⟩ : ∃ w₁ w₂, summaryWidths screen rows = [w₁, w₂] :=
    List.length_eq_two.mp (Table.length_columnWidths _ _)
  rw [hwidths] at hfits
  obtain ⟨front, back, hrender⟩ :=
    Table.exists_render_rows screen htitle hheads hcells hwidths hfits
  refine ⟨front, w₁, w₂, back, ?_, fun e he => ?_⟩
  · exact congrArg (·.map fun ls => linesText ls ++ emptyLine) hrender
  · have hrow : [literalText screen e.1, literalText screen e.2.shown] ∈
        (Entries.ofPairs rows).map fun e => [literalText screen e.1, literalText screen e.2.shown] :=
      List.mem_map_of_mem he
    have hfirst : (summaryWidths screen rows)[0]? = some w₁ := by rw [hwidths]; rfl
    have hsecond : (summaryWidths screen rows)[1]? = some w₂ := by rw [hwidths]; rfl
    exact ⟨Table.widthOf_le_columnWidths hrow rfl hfirst,
      Table.widthOf_le_columnWidths hrow rfl hsecond⟩

/-- The text of the first sample of a field, if there is one. -/
def firstSample (p : FieldPreview) : String := (p.samples.head?.map JsonOf.sampleText).getD ""

/-- The mark of a field that is required, or is not. -/
def requiredText (p : FieldPreview) : List Char :=
  (if p.required then "required" else "optional").toList

/-- The widths that a table of the fields of a model needs. -/
def fieldWidths (model : FieldModel) : List Nat :=
  columnWidths ["Field".toList, "Type".toList, "Required".toList, "Sample".toList]
    (model.preview.map fun p => [literalText screen p.key, literalText screen p.api,
      requiredText p, literalText screen (firstSample p)])

/-- What is printed of the row of a field. -/
theorem render_fieldRow (p : FieldPreview) :
    (fieldRow p).mapM (fun cell => screen.render cell.toList) =
      .ok [literalText screen p.key, literalText screen p.api, requiredText p,
        literalText screen (firstSample p)] := by
  have hmark : screen.render
      (if p.required then "[red]required[/red]" else "[dim]optional[/dim]").toList =
        .ok (requiredText p) := by
    unfold requiredText
    cases p.required with
    | true => rfl
    | false => rfl
  have hrow : fieldRow p = [literal p.key, literal p.api,
      if p.required then "[red]required[/red]" else "[dim]optional[/dim]",
      literal (firstSample p)] := by
    unfold fieldRow firstSample
    cases p.samples with
    | nil => rfl
    | cons v more => rfl
  rw [hrow, List.mapM_cons, List.mapM_cons, List.mapM_cons, List.mapM_cons, render_literal,
    render_literal, hmark, render_literal]
  rfl

/-- **The rows of a table of fields that fits**, with room for each of them. -/
theorem exists_fieldsTable_rows {title : String} (htitle : IsPrinted title) (model : FieldModel)
    (hfits : Table.total (fieldWidths screen model) ≤ screen.columns) :
    ∃ front w₁ w₂ w₃ w₄ back, fieldsTable screen title model =
        .ok (linesText (front ++ model.preview.flatMap (fun p => rowLines '│'
          [(w₁, literalCell screen ⟨"Field", false⟩ w₁ p.key),
            (w₂, literalCell screen ⟨"Type", true⟩ w₂ p.api),
            (w₃, cellLines ⟨"Required", true⟩ w₃ (requiredText p)),
            (w₄, literalCell screen ⟨"Sample", true⟩ w₄ (firstSample p))]) ++ back)) ∧
      ∀ p ∈ model.preview, HasRoom screen w₁ p.key ∧ HasRoom screen w₄ (firstSample p) := by
  have hheads : [(⟨"Field", false⟩ : TableColumn), ⟨"Type", true⟩, ⟨"Required", true⟩,
      ⟨"Sample", true⟩].mapM (fun column => screen.render column.head.toList) =
      .ok ["Field".toList, "Type".toList, "Required".toList, "Sample".toList] := by rfl
  obtain ⟨w₁, w₂, w₃, w₄, hwidths⟩ :
      ∃ w₁ w₂ w₃ w₄, fieldWidths screen model = [w₁, w₂, w₃, w₄] :=
    List.length_eq_four.mp (Table.length_columnWidths _ _)
  rw [hwidths] at hfits
  obtain ⟨front, back, hrender⟩ :=
    Table.exists_render_rows screen htitle hheads (render_fieldRow screen) hwidths hfits
  refine ⟨front, w₁, w₂, w₃, w₄, back, ?_, fun p hp => ?_⟩
  · exact congrArg (·.map linesText) hrender
  · have hrow : [literalText screen p.key, literalText screen p.api, requiredText p,
        literalText screen (firstSample p)] ∈ model.preview.map fun p =>
          [literalText screen p.key, literalText screen p.api, requiredText p,
            literalText screen (firstSample p)] := List.mem_map_of_mem hp
    have hfirst : (fieldWidths screen model)[0]? = some w₁ := by rw [hwidths]; rfl
    have hlast : (fieldWidths screen model)[3]? = some w₄ := by rw [hwidths]; rfl
    exact ⟨Table.widthOf_le_columnWidths hrow rfl hfirst,
      Table.widthOf_le_columnWidths hrow rfl hlast⟩

/-! ## 5. Texts from outside -/

/-- **Which texts are shown as they are.** Every message is printed, and so is every table under a
    title that is. A message of one line, without the code of an emoji, that fits on the screen is
    printed as it is exactly if no backslash is lost in it, it does not end in two of them, and no
    blanks at its end lie beyond the width. In a table that fits each label, value, key and first
    sample stands in a cell of its own, and a cell shows a text of one line, without the code of an
    emoji, exactly if no backslash is lost in it and it does not end in just one. A backslash is lost
    before a bracket that opens no tag. -/
theorem user_text_as_it_is {title : String} (htitle : IsPrinted title) :
    let kept := fun text : String =>
      ¬ LosesBackslash text.toList ∧ endBackslashes text.toList ≠ 1
    let isLine := fun text : String =>
      IsLine text.toList ∧ screen.holdsEmoji text.toList = false
    (∀ print ∈ [success screen, error screen, warning screen], ∀ message,
      (∃ out, print message = .ok out) ∧
      (isLine message → columnCount message.toList ≤ screen.columns →
        (print message = .ok (message ++ "\n") ↔
          ¬ LosesBackslash message.toList ∧ endBackslashes message.toList ≤ 1 ∧
          withoutExcess screen.columns message.toList = message.toList))) ∧
    (∀ rows, (∃ out, summaryTable screen title rows = .ok out) ∧
      (Table.total (summaryWidths screen rows) ≤ screen.columns →
        ∃ front w₁ w₂ back, summaryTable screen title rows =
          .ok (linesText (front ++ (Entries.ofPairs rows).flatMap (fun e => rowLines '│'
            [(w₁, literalCell screen ⟨"Item", false⟩ w₁ e.1),
              (w₂, literalCell screen ⟨"Value", true⟩ w₂ e.2.shown)]) ++ back) ++ emptyLine) ∧
        ∀ e ∈ Entries.ofPairs rows,
          (isLine e.1 → (Shows screen ⟨"Item", false⟩ w₁ e.1 ↔ kept e.1)) ∧
          (isLine e.2.shown → (Shows screen ⟨"Value", true⟩ w₂ e.2.shown ↔ kept e.2.shown)))) ∧
    ∀ model : FieldModel, (∃ out, fieldsTable screen title model = .ok out) ∧
      (Table.total (fieldWidths screen model) ≤ screen.columns →
        ∃ front w₁ w₂ w₃ w₄ back, fieldsTable screen title model =
          .ok (linesText (front ++ model.preview.flatMap (fun p => rowLines '│'
            [(w₁, literalCell screen ⟨"Field", false⟩ w₁ p.key),
              (w₂, literalCell screen ⟨"Type", true⟩ w₂ p.api),
              (w₃, cellLines ⟨"Required", true⟩ w₃ (requiredText p)),
              (w₄, literalCell screen ⟨"Sample", true⟩ w₄ (firstSample p))]) ++ back)) ∧
        ∀ p ∈ model.preview,
          (isLine p.key → (Shows screen ⟨"Field", false⟩ w₁ p.key ↔ kept p.key)) ∧
          (isLine (firstSample p) →
            (Shows screen ⟨"Sample", true⟩ w₄ (firstSample p) ↔ kept (firstSample p)))) := by
  intro kept isLine
  refine ⟨fun print hprint message => ?_, fun rows =>
      ⟨exists_summaryTable screen htitle rows, fun hfits => ?_⟩,
    fun model => ⟨exists_fieldsTable screen htitle model, fun hfits => ?_⟩⟩
  · obtain ⟨style, hstyle, hquiet, rfl⟩ : ∃ style : String, isStyle style.toList = true ∧
        isQuiet style = true ∧ print = styled screen style := by
      simp only [List.mem_cons, List.not_mem_nil, or_false] at hprint
      rcases hprint with rfl | rfl | rfl
      · exact ⟨"bold green", by decide, by decide, rfl⟩
      · exact ⟨"bold red", by decide, by decide, rfl⟩
      · exact ⟨"bold yellow", by decide, by decide, rfl⟩
    exact ⟨exists_styled screen hstyle message, fun ⟨hline, hcode⟩ =>
      styled_as_is_iff screen hstyle hquiet hline hcode⟩
  · obtain ⟨front, w₁, w₂, back, htable, hroom⟩ := exists_summaryTable_rows screen htitle rows hfits
    refine ⟨front, w₁, w₂, back, htable, fun e he => ?_⟩
    obtain ⟨hlabel, hvalue⟩ := hroom e he
    exact ⟨fun ⟨hline, hcode⟩ => Table.shows_iff screen _ hline hcode hlabel,
      fun ⟨hline, hcode⟩ => Table.shows_iff screen _ hline hcode hvalue⟩
  · obtain ⟨front, w₁, w₂, w₃, w₄, back, htable, hroom⟩ :=
      exists_fieldsTable_rows screen htitle model hfits
    refine ⟨front, w₁, w₂, w₃, w₄, back, htable, fun p hp => ?_⟩
    obtain ⟨hkey, hsample⟩ := hroom p hp
    exact ⟨fun ⟨hline, hcode⟩ => Table.shows_iff screen _ hline hcode hkey,
      fun ⟨hline, hcode⟩ => Table.shows_iff screen _ hline hcode hsample⟩

/-- A model with a key and a sample that look like tags. -/
def bracketsModel : FieldModel :=
  ⟨[("[/i]", ⟨"[/i]", .scalar .string, true, [.str "[/quote] reply"]⟩)], 1⟩

/-- A screen of eighty columns that knows one emoji. -/
def smilingScreen : Screen :=
  { Screen.plain 80 with isEmoji := fun name => name == "smile".toList }

/-- Brackets are shown, whether they look like tags or not. -/
theorem user_text_as_it_is_brackets :
    IsPrinted "Summary" ∧
    (IsLine "bad value [/quote]".toList ∧
      smilingScreen.holdsEmoji "bad value [/quote]".toList = false ∧
      columnCount "bad value [/quote]".toList ≤ smilingScreen.columns ∧
      error smilingScreen "bad value [/quote]" = .ok "bad value [/quote]\n") ∧
    (Table.total (summaryWidths smilingScreen [("[/b]", .str "[bold]x [1]: 10:30")]) ≤
        smilingScreen.columns ∧
      (∀ text ∈ ["[/b]", "[bold]x [1]: 10:30"],
        IsLine text.toList ∧ smilingScreen.holdsEmoji text.toList = false) ∧
      ∃ w₁ w₂, Shows smilingScreen ⟨"Item", false⟩ w₁ "[/b]" ∧
        Shows smilingScreen ⟨"Value", true⟩ w₂ "[bold]x [1]: 10:30") ∧
    (Table.total (fieldWidths smilingScreen bracketsModel) ≤ smilingScreen.columns ∧
      (∀ text ∈ ["[/i]", "\"[/quote] reply\""],
        IsLine text.toList ∧ smilingScreen.holdsEmoji text.toList = false) ∧
      ∃ w₁ w₂, Shows smilingScreen ⟨"Field", false⟩ w₁ "[/i]" ∧
        Shows smilingScreen ⟨"Sample", true⟩ w₂ "\"[/quote] reply\"") := by
  have htitle : IsPrinted "Summary" := isPrinted_of_plain (by decide)
  obtain ⟨hmessages, hsummary, hfields⟩ := user_text_as_it_is smilingScreen htitle
  have hmessage : IsLine "bad value [/quote]".toList ∧
      smilingScreen.holdsEmoji "bad value [/quote]".toList = false := by decide +kernel
  have hfits : columnCount "bad value [/quote]".toList ≤ smilingScreen.columns := by
    decide +kernel
  have hcells : ∀ text ∈ ["[/b]", "[bold]x [1]: 10:30"],
      IsLine text.toList ∧ smilingScreen.holdsEmoji text.toList = false := by decide +kernel
  have hcells' : ∀ text ∈ ["[/i]", "\"[/quote] reply\""],
      IsLine text.toList ∧ smilingScreen.holdsEmoji text.toList = false := by decide +kernel
  have hwidth : Table.total (summaryWidths smilingScreen [("[/b]", .str "[bold]x [1]: 10:30")]) ≤
      smilingScreen.columns := by decide +kernel
  have hwidth' : Table.total (fieldWidths smilingScreen bracketsModel) ≤
      smilingScreen.columns := by decide +kernel
  refine ⟨htitle, ⟨hmessage.1, hmessage.2, hfits, ?_⟩, ⟨hwidth, hcells, ?_⟩, hwidth', hcells', ?_⟩
  · refine ((hmessages (error smilingScreen) (by simp) "bad value [/quote]").2 hmessage hfits).mpr ?_
    exact ⟨by decide +kernel, by decide +kernel, withoutExcess_of_length_le (by decide)⟩
  · obtain ⟨_, w₁, w₂, _, -, hrows⟩ := (hsummary [("[/b]", .str "[bold]x [1]: 10:30")]).2 hwidth
    obtain ⟨hfirst, hsecond⟩ := hrows ("[/b]", .str "[bold]x [1]: 10:30") List.mem_cons_self
    exact ⟨w₁, w₂, (hfirst (hcells _ (by simp))).mpr (by decide +kernel),
      (hsecond (hcells _ (by simp [JsonOf.shown]))).mpr (by decide +kernel)⟩
  · obtain ⟨_, w₁, _, _, w₂, _, -, hrows⟩ := (hfields bracketsModel).2 hwidth'
    have htext : firstSample ⟨"[/i]", "String", true, [.str "[/quote] reply"]⟩ =
        "\"[/quote] reply\"" := by decide +kernel
    obtain ⟨hfirst, hlast⟩ := hrows ⟨"[/i]", "String", true, [.str "[/quote] reply"]⟩
      List.mem_cons_self
    rw [htext] at hlast
    exact ⟨w₁, w₂, (hfirst (hcells' _ (by simp))).mpr (by decide +kernel),
      (hlast (hcells' _ (by simp))).mpr (by decide +kernel)⟩

/-- **Backslashes are not shown as they are**: of two at the end of a message one is left, behind
    three of them the tag that closes the style is shown, and one before a bracket is lost. In a
    table one at the end is shown twice. -/
theorem backslashes_not_as_they_are :
    (∀ message ∈ ["a\\\\", "a\\\\\\", "\\[1]", "C:\\"], IsLine message.toList ∧
      smilingScreen.holdsEmoji message.toList = false ∧
      columnCount message.toList ≤ smilingScreen.columns) ∧
    error smilingScreen "a\\\\" = .ok "a\\\n" ∧
    error smilingScreen "a\\\\\\" = .ok "a\\[/bold red]\n" ∧
    error smilingScreen "\\[1]" = .ok "[1]\n" ∧
    summaryTable smilingScreen "" [("k", .str "C:\\")] = .ok (linesText (["┏━━━━━━┳━━━━━━━┓",
      "┃ Item ┃ Value ┃", "┡━━━━━━╇━━━━━━━┩", "│ k    │ C:\\\\  │", "└──────┴───────┘"].map
        (·.toList)) ++ emptyLine) := by
  have htable : Table.render smilingScreen ⟨"", [⟨"Item", false⟩, ⟨"Value", true⟩],
      [[literal "k", literal "C:\\"]]⟩ = .ok (["┏━━━━━━┳━━━━━━━┓", "┃ Item ┃ Value ┃",
        "┡━━━━━━╇━━━━━━━┩", "│ k    │ C:\\\\  │", "└──────┴───────┘"].map (·.toList)) := by
    decide +kernel
  refine ⟨by decide +kernel, by decide +kernel, by decide +kernel, by decide +kernel, ?_⟩
  exact congrArg (·.map fun ls => linesText ls ++ emptyLine) htable

end Console

end SampleSchema
