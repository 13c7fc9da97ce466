/-
**Which fields of a sheet have a line.**

In row style a visible field has a line that begins with its title.  Two things can keep a field
from having one.  The title fields are listed before the other ones, so when titles are repeated and
there are no other ones, no line is left.  And a title stands before the first entry, so without
records a line has none, unless the aggregate got a title of its own.  Apart from that every visible
field is listed: the ones that are no title fields once each and in order, and all of them so when
titles are not repeated.

Main definitions:

* `ClusterReport.Sheet.BeginsWithTitle` — that the first cell of a line is the title of a column;
* `ClusterReport.Sheet.ShowsFields` — which fields the text of a sheet shows.

Main results:

* `ClusterReport.Sheet.beginsWithTitle_line_iff` — when a line begins with the title of its column;
* `ClusterReport.Sheet.rowText?_showsFields` — **every visible field has a line exactly if there are
  records, or an aggregate with a title, and titles are not repeated among title fields alone**;
* `ClusterReport.Sheet.rowText?_withoutField` — a title field alone is not shown at all, and without
  records a line is empty.
-/

import ClusterReport.Proofs.Sheet.RowStyle

set_option relaxedAutoImplicit false
set_option autoImplicit false

namespace ClusterReport.Sheet

open Text (Line Span)

/-! ### Titles of lines -/

/-- Whether a line begins with the title of a column: its first cell is the title, filled up with
blanks. -/
def BeginsWithTitle (r : RowLayout) (l : Leaf) (line : Line) : Prop :=
  ∃ blanks rest, line = r.titleSpan l :: rest ∧ line.text = l.column.title ++ blanks

theorem span_eq_titleSpan_iff {r : RowLayout} {l : Leaf} {slot : Slot} :
    r.span l slot = r.titleSpan l ↔ slot = .title := by
  constructor
  · intro h
    cases slot with
    | title => rfl
    | entry record =>
        simp only [RowLayout.span, RowLayout.entrySpan, RowLayout.shownSpan,
          RowLayout.titleSpan] at h
        repeat' split at h
        all_goals cases h
    | aggregate =>
        simp only [RowLayout.span, RowLayout.aggregateSpan, RowLayout.titleSpan] at h
        repeat' split at h
        all_goals cases h
  · rintro rfl
    rfl

theorem exists_join_cons (separator : Span) (cell : Span) (cells : List Span) :
    ∃ rest, Line.join separator (cell :: cells) = cell :: rest := by
  cases cells with
  | nil => exact ⟨[], rfl⟩
  | cons second cells => exact ⟨separator :: Line.join separator (second :: cells), rfl⟩

/-- A line begins with the title of its column when a title stands first among the slots. -/
theorem beginsWithTitle_line_iff {r : RowLayout} {l : Leaf} {separator : String} :
    BeginsWithTitle r l (r.line separator l) ↔ r.slots.head? = some .title := by
  unfold RowLayout.line
  cases r.slots with
  | nil =>
      constructor
      · rintro ⟨blanks, rest, hline, -⟩
        cases hline
      · exact nofun
  | cons first more =>
      obtain ⟨rest, hrest⟩ := exists_join_cons (.bold separator) (r.span l first)
        (more.map (r.span l))
      rw [List.map_cons, hrest, List.head?_cons, Option.some.injEq]
      constructor
      · rintro ⟨blanks, rest, hline, -⟩
        exact span_eq_titleSpan_iff.1 (List.cons.inj hline).1
      · rintro rfl
        refine ⟨Text.blanks (r.titleWidth - l.column.title.length) ++ Line.text rest, rest, rfl, ?_⟩
        rw [Line.text_cons, ← String.append_assoc, ← RowLayout.text_titleSpan]
        rfl

/-! ### Fields of a sheet -/

/-- A title stands first in the lines of a sheet if there are records, or a title of the
aggregate. -/
theorem head?_slots_rowLayout_iff {s : Sheet} {o : RowOptions} {ls : List Leaf} :
    (s.rowLayout o ls).slots.head? = some .title ↔
      s.recordCount ≠ 0 ∨ (s.rowLayout o ls).aggregateTitled = true := by
  have hentries : widestEntries ls s.recordCount ≠ [] ↔ s.recordCount ≠ 0 := by
    rw [widestEntries, Ne, List.map_eq_nil_iff, List.range_eq_nil]
  unfold rowLayout RowLayout.of
  rw [RowLayout.head?_slots_ofWidths_iff, hentries]

/-- All visible columns are listed unless titles are repeated among title fields alone. -/
theorem forall_mem_lineLeaves_iff {s : Sheet} {o : RowOptions} {ls : List Leaf} (h : ls ≠ []) :
    (∀ l ∈ ls, l ∈ s.lineLeaves o ls) ↔
      (o.repeatTitles = true → ∃ l ∈ ls, l.isTitle s.declaration.titleKeys = false) := by
  unfold lineLeaves
  cases o.repeatTitles with
  | false => exact ⟨fun _ => nofun, fun _ l hl => hl⟩
  | true =>
      simp only [if_true, mem_repeatTitles, true_implies]
      obtain ⟨first, hfirst⟩ := List.exists_mem_of_ne_nil ls h
      exact ⟨fun hall => (hall first hfirst).2, fun hother l hl => ⟨hl, hother⟩⟩

/-- What the text of a sheet shows of its visible columns: a line for each column that is listed,
the columns that are no title fields once each and in order, and all of them so when titles are not
repeated.  Every column has a line that begins with its title if there is something for the title to
stand before, and repeated title fields have other columns to stand before. -/
structure ShowsFields (s : Sheet) (o : RowOptions) (ls : List Leaf) : Prop where
  text_eq : rowText? s o = .ok (some (Text.renderLines o.color
    (s.linesAbove (s.rowWidth (s.rowLayout o ls) (widestAggregate ls))
      ++ (s.lineLeaves o ls).map ((s.rowLayout o ls).line s.declaration.separator)
      ++ [countLine (s.lineLeaves o ls).length])))
  others_eq : (s.lineLeaves o ls).filter (fun l => !l.isTitle s.declaration.titleKeys) =
    ls.filter fun l => !l.isTitle s.declaration.titleKeys
  unrepeated_eq : o.repeatTitles = false → s.lineLeaves o ls = ls
  every_iff : (∀ l ∈ ls, l ∈ s.lineLeaves o ls ∧
      BeginsWithTitle (s.rowLayout o ls) l ((s.rowLayout o ls).line s.declaration.separator l)) ↔
    (s.recordCount ≠ 0 ∨ (s.rowLayout o ls).aggregateTitled = true) ∧
      (o.repeatTitles = true → ∃ l ∈ ls, l.isTitle s.declaration.titleKeys = false)

/-- **Every visible field has a line that begins with its title exactly if there are records, or an
aggregate with a title, and titles are not repeated among title fields alone.** -/
theorem rowText?_showsFields {s : Sheet} {ls : List Leaf}
    (hleaves : leaves s.visibleFields = .ok ls) (hvisible : ls ≠ []) (hgroup : s.groups.length = 1)
    (o : RowOptions) : ShowsFields s o ls where
  text_eq := by rw [rowText?_eq, rowLines?_of_leaves hleaves hvisible hgroup]; rfl
  others_eq := by
    unfold lineLeaves
    split
    · exact filter_repeatTitles _ _ _
    · rfl
  unrepeated_eq hplain := by rw [lineLeaves, hplain]; rfl
  every_iff := by
    simp only [beginsWithTitle_line_iff, head?_slots_rowLayout_iff]
    rw [← forall_mem_lineLeaves_iff hvisible]
    obtain ⟨first, hfirst⟩ := List.exists_mem_of_ne_nil ls hvisible
    constructor
    · exact fun hall => ⟨(hall first hfirst).2, fun l hl => (hall l hl).1⟩
    · exact fun ⟨htitled, hlisted⟩ l hl => ⟨hlisted l hl, htitled⟩

/-- A title field beside two others. -/
def letters : Declaration where
  fields := [.column { title := "Node", projector := .rowKey },
    .column { title := "A", projector := .number "svc" ["a"] },
    .column { title := "B", projector := .number "svc" ["b"] }]
  titleKeys := ["Node"]

/-- One node with a number under two letters. -/
def oneNode : Sources :=
  .ofList [("svc", .ofList [("n", .value (.object [("a", .int 1), ("b", .int 2)]))])]

/-- With one line between them the title field stands before each of the others. -/
theorem rowText?_showsFields_letters :
    ∃ ls, leaves (build letters "Letters" oneNode).visibleFields = .ok ls ∧ ls.length = 3 ∧
      (build letters "Letters" oneNode).groups.length = 1 ∧
      (∀ l ∈ ls, l ∈ (build letters "Letters" oneNode).lineLeaves
        { repeatTitles := true, lines := 3 } ls) ∧
      rowText? (build letters "Letters" oneNode) { repeatTitles := true, lines := 3 } =
        .ok (some " Letters \nNode|n\nA   |1\nNode|n\nB   |2\nNumber of rows: 4\n") := by
  have hshown := rowText?_showsFields
    (show leaves (build letters "Letters" oneNode).visibleFields = .ok _ from rfl)
    (List.cons_ne_nil _ _) (show _ = 1 from rfl) { repeatTitles := true, lines := 3 }
  have hother : (build letters "Letters" oneNode).recordCount ≠ 0 := by decide
  refine ⟨_, rfl, rfl, rfl, fun l hl => ?_, rfl⟩
  refine (hshown.every_iff.2 ⟨.inl hother, fun _ => ⟨_, List.mem_cons_of_mem _
    List.mem_cons_self, rfl⟩⟩ l hl).1

/-- Nodes as a title field, and no other field. -/
def titleFieldAlone : Declaration where
  fields := [.column { title := "Node", projector := .rowKey }]
  titleKeys := ["Node"]

/-- Nodes that are shown even if there are none. -/
def unhiddenNodes : Declaration where
  fields := [.column { title := "Node", projector := .rowKey, hidden := .never }]

/-- **A visible field is not shown** where it is a title field alone and titles are repeated, and
its line is empty where there are no records. -/
theorem rowText?_withoutField :
    (∃ l, leaves (build titleFieldAlone "Sheet" oneNode).visibleFields = .ok [l] ∧
      l ∉ (build titleFieldAlone "Sheet" oneNode).lineLeaves { repeatTitles := true } [l] ∧
      rowText? (build titleFieldAlone "Sheet" oneNode) { repeatTitles := true } =
        .ok (some " Sheet \nNumber of rows: 0\n")) ∧
    ∃ l, leaves (build unhiddenNodes "Sheet" .empty).visibleFields = .ok [l] ∧
      rowText? (build unhiddenNodes "Sheet" .empty) {} =
        .ok (some " Sheet \n\nNumber of rows: 1\n") :=
  ⟨⟨_, rfl, List.not_mem_nil, rfl⟩, _, rfl, rfl⟩

end ClusterReport.Sheet
