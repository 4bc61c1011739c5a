import SampleSchema.Console.Report
import SampleSchema.Proofs.Console.Literal
import SampleSchema.Proofs.Lists

/-!
# Messages and tables are printed

Whatever is reported, no message, no heading and no table has a fault in its markup: what comes from
a user stands in them made literal, and each style that is opened around it is closed again.
-/

namespace SampleSchema

/-! ## 1. Markup -/

namespace Markup

/-- **A text that is printed as markup.** -/
def IsPrinted (text : String) : Prop := ∃ printed, render text.toList = .ok printed

/-- **A text without markup.** -/
def isPlain (text : String) : Bool :=
  text.toList.all fun c => c ≠ '[' && c ≠ ']' && c ≠ '\\'

theorem ne_of_isPlain {text : String} (h : isPlain text = true) :
    ∀ c ∈ text.toList, c ≠ '[' ∧ c ≠ ']' ∧ c ≠ '\\' := by
  intro c hc
  have hplain := List.all_eq_true.mp h c hc
  simpa [and_assoc] using hplain

theorem isPrinted_of_plain {text : String} (h : isPlain text = true) : IsPrinted text :=
  exists_render_of_plain fun c hc => (ne_of_isPlain h c hc).1

theorem isPrinted_literal (text : String) : IsPrinted (Console.literal text) := by
  unfold IsPrinted Console.literal
  rw [String.toList_ofList]
  exact exists_render_escape text.toList

section Styled

variable {style : String} (h : isStyle style.toList = true)
include h

/-- A style around plain text. -/
theorem isPrinted_styled_plain {text : String} (htext : isPlain text = true) :
    IsPrinted ("[" ++ style ++ "]" ++ text ++ "[/" ++ style ++ "]") := by
  have hbody := renders_append_of_plain (fun c hc => (ne_of_isPlain htext c hc).1)
    (renders_closing [] h) 0
  have hstyled := exists_render (renders_opening_append h hbody)
  unfold IsPrinted
  simp only [String.toList_append]
  simpa using hstyled

/-- **A style around a text from outside**, with plain text before and behind it. -/
theorem isPrinted_styled_literal (front before behind text : String)
    (hfront : isPlain front = true) (hbefore : isPlain before = true)
    (hbehind : isPlain behind = true) :
    IsPrinted (front ++ "[" ++ style ++ "]" ++ before ++ Console.literal text ++ behind ++
      "[/" ++ style ++ "]") := by
  have hclosing : ∀ pending, Renders [styleName style.toList] pending
      (behind.toList ++ ('[' :: '/' :: style.toList ++ [']'])) :=
    renders_append_of_plain (fun c hc => (ne_of_isPlain hbehind c hc).1) (renders_closing [] h)
  have hcloses : closes (behind.toList ++ ('[' :: '/' :: style.toList ++ [']'])) = false := by
    rw [closes_append rfl]
    exact closes_of_plain fun c hc =>
      ⟨(ne_of_isPlain hbehind c hc).1, (ne_of_isPlain hbehind c hc).2.1⟩
  have hbody := (renders_escape_append hcloses hclosing text.toList).append_plain fun c hc =>
    ⟨(ne_of_isPlain hbefore c hc).1, (ne_of_isPlain hbefore c hc).2.2⟩
  have hstyled := exists_render ((renders_opening_append h hbody).append_plain fun c hc =>
    ⟨(ne_of_isPlain hfront c hc).1, (ne_of_isPlain hfront c hc).2.2⟩)
  unfold IsPrinted Console.literal
  simp only [String.toList_append, String.toList_ofList]
  simpa using hstyled

end Styled

end Markup

/-! ## 2. Tables -/

open Markup

variable (screen : Screen)

/-- What is made of a printed text is there if the text is. -/
theorem exists_map_ok {α β : Type} {printed : Except MarkupFault α} (h : ∃ a, printed = .ok a)
    (f : α → β) : ∃ b, printed.map f = .ok b := by
  obtain ⟨a, rfl⟩ := h
  exact ⟨f a, rfl⟩

/-- Every screen prints what is printed as markup. -/
theorem Screen.exists_render {text : String} (h : IsPrinted text) :
    ∃ printed, screen.render text.toList = .ok printed :=
  exists_map_ok h _

/-- **A table is printed** if its title and its cells are; its heads hold no markup. -/
theorem Table.exists_render {t : Table} (htitle : IsPrinted t.title)
    (hheads : ∀ column ∈ t.columns, isPlain column.head = true)
    (hcells : ∀ row ∈ t.rows, ∀ cell ∈ row, IsPrinted cell) : ∃ ls, t.render screen = .ok ls := by
  obtain ⟨title, htitle⟩ := screen.exists_render htitle
  obtain ⟨heads, hheads⟩ := exists_mapM_ok fun column hcolumn =>
    screen.exists_render (isPrinted_of_plain (hheads column hcolumn))
  obtain ⟨rows, hrows⟩ := exists_mapM_ok fun row hrow =>
    exists_mapM_ok fun cell hcell => screen.exists_render (hcells row hrow cell hcell)
  unfold Table.render
  rw [htitle, hheads, hrows]
  exact ⟨_, rfl⟩

namespace Console

theorem exists_markup {text : String} (h : IsPrinted text) :
    ∃ out, markup screen text = .ok out :=
  exists_map_ok (screen.exists_render h) _

/-! ## 3. Messages -/

/-- **A message in a style is printed**, whatever it says. -/
theorem exists_styled {style : String} (h : isStyle style.toList = true) (message : String) :
    ∃ out, styled screen style message = .ok out := by
  have hprinted := isPrinted_styled_literal h "" "" "" message (by decide) (by decide) (by decide)
  rw [String.empty_append, String.append_empty, String.append_empty] at hprinted
  exact exists_markup screen hprinted

theorem exists_heading {title : String} (h : isPlain title = true) :
    ∃ out, heading screen title = .ok out := by
  have hbold : isStyle "bold".toList = true := by decide
  have hprinted := isPrinted_styled_plain hbold h
  have hmarkup : "[" ++ "bold" ++ "]" ++ title ++ "[/" ++ "bold" ++ "]" =
      "[bold]" ++ title ++ "[/bold]" := by
    refine String.toList_inj.mp ?_
    simp
  rw [hmarkup] at hprinted
  exact exists_map_ok (screen.exists_render hprinted) _

/-! ## 4. Tables of a model -/

/-- **A table of labels and values is printed**, whatever they are. -/
theorem exists_summaryTable {title : String} (h : IsPrinted title)
    (rows : List (String × Json)) : ∃ out, summaryTable screen title rows = .ok out := by
  refine exists_map_ok (Table.exists_render screen h ?_ fun row hrow cell hcell => ?_) _
  · dsimp only
    decide
  · obtain ⟨r, _, rfl⟩ := List.mem_map.mp hrow
    rcases List.mem_cons.mp hcell with rfl | hcell
    · exact isPrinted_literal _
    · rw [List.mem_singleton.mp hcell]
      exact isPrinted_literal _

/-- The two marks of a field close what they open. -/
theorem isPrinted_marks : IsPrinted "[red]required[/red]" ∧ IsPrinted "[dim]optional[/dim]" := by
  have hred : IsPrinted ("[" ++ "red" ++ "]" ++ "required" ++ "[/" ++ "red" ++ "]") :=
    isPrinted_styled_plain (by decide) (by decide)
  have hdim : IsPrinted ("[" ++ "dim" ++ "]" ++ "optional" ++ "[/" ++ "dim" ++ "]") :=
    isPrinted_styled_plain (by decide) (by decide)
  have hrequired : "[" ++ "red" ++ "]" ++ "required" ++ "[/" ++ "red" ++ "]" =
      "[red]required[/red]" := by decide
  have hoptional : "[" ++ "dim" ++ "]" ++ "optional" ++ "[/" ++ "dim" ++ "]" =
      "[dim]optional[/dim]" := by decide
  exact ⟨hrequired ▸ hred, hoptional ▸ hdim⟩

theorem isPrinted_of_mem_fieldRow {p : FieldPreview} {cell : String} (h : cell ∈ fieldRow p) :
    IsPrinted cell := by
  unfold fieldRow at h
  simp only [List.mem_cons, List.not_mem_nil, or_false] at h
  rcases h with rfl | rfl | rfl | rfl
  · exact isPrinted_literal _
  · exact isPrinted_literal _
  · split
    · exact isPrinted_marks.1
    · exact isPrinted_marks.2
  · exact isPrinted_literal _

/-- **A table of fields is printed**, whatever the samples hold. -/
theorem exists_fieldsTable {title : String} (h : IsPrinted title) (model : FieldModel) :
    ∃ out, fieldsTable screen title model = .ok out := by
  refine exists_map_ok (Table.exists_render screen h ?_ fun row hrow cell hcell => ?_) _
  · dsimp only
    decide
  · obtain ⟨p, _, rfl⟩ := List.mem_map.mp hrow
    exact isPrinted_of_mem_fieldRow hcell

end Console

end SampleSchema
