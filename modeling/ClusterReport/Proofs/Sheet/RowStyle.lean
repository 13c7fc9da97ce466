/-
**The lines of a sheet in row style.**

Of a sheet with one group and no visible tuple, row style shows a title, the description, one line
for each column that is listed, and how many these are.  Repeating the title fields changes which
columns are listed: the other ones stay as they are and in their order, and the title fields stand
before the first of them and before later ones, so that without other columns none is listed.  All
lines have the same slots, with a title in the first of them as soon as there are records.

Main results:

* `ClusterReport.Sheet.rowLines?_of_leaves` — the lines of a sheet;
* `ClusterReport.Sheet.filter_repeatTitles`, `mem_repeatTitles` — which columns are listed when the
  title fields are repeated;
* `ClusterReport.Sheet.RowLayout.head?_slots_ofWidths_iff` — when a title stands first.
-/

import ClusterReport.Sheet.RowStyle

set_option relaxedAutoImplicit false
set_option autoImplicit false

namespace ClusterReport.Sheet

open Text (Line Span padEnd padStart padBoth)

/-! ### Leaves -/

theorem leaves_eq_ok_iff {fields : List Prepared} {ls : List Leaf} :
    leaves fields = .ok ls ↔ fields = ls.map .leaf := by
  induction fields generalizing ls with
  | nil => cases ls <;> simp [leaves]
  | cons field rest ih =>
      cases field with
      | tuple key title hidden fields => cases ls <;> simp [leaves]
      | leaf l =>
          cases ls with
          | nil => cases h : leaves rest <;> simp [leaves, h, Except.map]
          | cons first more =>
              rw [List.map_cons, List.cons.injEq, ← ih]
              cases h : leaves rest <;> simp [leaves, h, Except.map]

theorem leaf_mem_of_leaves {fields : List Prepared} {ls : List Leaf} (h : leaves fields = .ok ls)
    {l : Leaf} (hl : l ∈ ls) : .leaf l ∈ fields := by
  rw [leaves_eq_ok_iff.1 h]
  exact List.mem_map_of_mem hl

/-- The lines of a sheet with one group and no visible tuple. -/
theorem rowLines?_of_leaves {s : Sheet} {ls : List Leaf} (hleaves : leaves s.visibleFields = .ok ls)
    (hvisible : ls ≠ []) (hgroup : s.groups.length = 1) (o : RowOptions) :
    rowLines? s o = .ok (some
      (s.linesAbove (s.rowWidth (s.rowLayout o ls) (widestAggregate ls))
        ++ (s.lineLeaves o ls).map ((s.rowLayout o ls).line s.declaration.separator)
        ++ [countLine (s.lineLeaves o ls).length])) := by
  have hnonempty : ls.isEmpty = false := List.isEmpty_eq_false_iff.2 hvisible
  unfold rowLines?
  rw [hleaves]
  simp only [bind, Except.bind, pure, Except.pure, hnonempty, hgroup, ne_eq, not_true_eq_false]
  rfl

theorem rowText?_of_leaves {s : Sheet} {ls : List Leaf} (hleaves : leaves s.visibleFields = .ok ls)
    (hvisible : ls ≠ []) (hgroup : s.groups.length = 1) (o : RowOptions) :
    rowText? s o = .ok (some ("\n".intercalate
      (headingText o.color (s.rowWidth (s.rowLayout o ls) (widestAggregate ls)) s.title
        :: s.descriptionLines (s.rowWidth (s.rowLayout o ls) (widestAggregate ls))
        ++ (s.lineLeaves o ls).map ((s.rowLayout o ls).lineText o.color s.declaration.separator)
        ++ [countText (s.lineLeaves o ls).length]) ++ "\n")) := by
  have hnonempty : ls.isEmpty = false := List.isEmpty_eq_false_iff.2 hvisible
  unfold rowText?
  rw [hleaves]
  simp only [bind, Except.bind, pure, Except.pure, hnonempty, hgroup, ne_eq, not_true_eq_false]
  rfl

theorem rowLines?_of_groups {s : Sheet} {ls : List Leaf} (hleaves : leaves s.visibleFields = .ok ls)
    (hvisible : ls ≠ []) (hgroups : s.groups.length ≠ 1) (o : RowOptions) :
    rowLines? s o = .error (.groups s.groups.length) := by
  have hnonempty : ls.isEmpty = false := List.isEmpty_eq_false_iff.2 hvisible
  unfold rowLines?
  rw [hleaves]
  simp only [bind, Except.bind, pure, Except.pure, hnonempty, hgroups, ne_eq, not_false_eq_true]
  rfl

/-- Only a sheet with one group and no visible tuple has lines. -/
theorem exists_leaves_of_rowLines? {s : Sheet} {o : RowOptions} {lines : List Line}
    (h : rowLines? s o = .ok (some lines)) :
    ∃ ls, leaves s.visibleFields = .ok ls ∧
      lines = s.linesAbove (s.rowWidth (s.rowLayout o ls) (widestAggregate ls))
        ++ (s.lineLeaves o ls).map ((s.rowLayout o ls).line s.declaration.separator)
        ++ [countLine (s.lineLeaves o ls).length] := by
  cases hleaves : leaves s.visibleFields with
  | error e =>
      rw [rowLines?, hleaves] at h
      cases h
  | ok ls =>
      refine ⟨ls, rfl, ?_⟩
      by_cases hvisible : ls = []
      · rw [rowLines?, hleaves, hvisible] at h
        cases h
      · by_cases hgroup : s.groups.length = 1
        · rw [rowLines?_of_leaves hleaves hvisible hgroup] at h
          injection h with h
          injection h with h
          exact h.symm
        · rw [rowLines?_of_groups hleaves hvisible hgroup] at h
          cases h

/-! ### Texts of lines -/

theorem RowLayout.aligned_length (a : Align) (s : String) : aligned a s.length s = s := by
  have hblanks : Text.blanks (s.length - s.length) = "" := by
    rw [Nat.sub_self]
    rfl
  cases a with
  | left => rw [aligned, padEnd, hblanks, String.append_empty]
  | right => rw [aligned, padStart, hblanks, String.empty_append]
  | center =>
      rw [aligned, padBoth, Text.surround, Nat.sub_self]
      exact String.append_empty.trans String.empty_append

theorem RowLayout.slotText_eq (color : Bool) (r : RowLayout) (l : Leaf) (slot : Slot) :
    r.slotText color l slot = (r.span l slot).render color := by
  cases slot with
  | title =>
      rw [slotText, span, titleText, titleSpan]
      cases color
      · cases l.ordered <;> rfl
      · cases l.ordered <;> rfl
  | entry record =>
      rw [slotText, span, entryText, entrySpan, shownSpan]
      cases color
      · rw [Span.render_plain]
        cases l.entryIsError record
        · cases (l.entry record).emphasis with
          | none => rfl
          | some e => cases e <;> rfl
        · rfl
      · cases l.entryIsError record
        · cases (l.entry record).emphasis with
          | none => rfl
          | some e => cases e <;> rfl
        · rfl
  | aggregate =>
      rw [slotText, span, aggregateCell, aggregateSpan, aligned_length]
      cases hreduced : l.hasAggregate with
      | false =>
          have hempty : l.aggregateText = "" := by
            rw [Leaf.aggregateText, hreduced, if_neg Bool.false_ne_true]
          rw [hempty]
          rfl
      | true => cases l.isAggregated <;> cases l.grouped <;> cases color <;> rfl

theorem render_join (color : Bool) (separator : Span) (cells : List Span) :
    (Line.join separator cells).render color =
      (separator.render color).intercalate (cells.map (Span.render color)) := by
  induction cells with
  | nil => rfl
  | cons first rest ih =>
      cases rest with
      | nil =>
          rw [List.map_cons, List.map_nil, String.intercalate_singleton]
          exact Line.render_singleton color first
      | cons second more =>
          have hjoin : Line.join separator (first :: second :: more) =
              first :: separator :: Line.join separator (second :: more) := rfl
          rw [hjoin, Line.render_cons, Line.render_cons, ih, List.map_cons, List.map_cons,
            List.map_cons, String.intercalate_cons_cons, String.append_assoc]

theorem RowLayout.lineText_eq (color : Bool) (r : RowLayout) (separator : String) (l : Leaf) :
    r.lineText color separator l = (r.line separator l).render color := by
  have hjoiner : (if color then Text.Style.bold.wrap separator else separator) =
      (Span.bold separator).render color := by
    cases color <;> rfl
  have hslots : r.slots.map (r.slotText color l) =
      (r.slots.map (r.span l)).map (Span.render color) := by
    rw [List.map_map]
    exact List.map_congr_left fun slot _ => r.slotText_eq color l slot
  rw [lineText, hjoiner, hslots, line, render_join]

/-- Lines with their ends between them and behind the last one. -/
theorem renderLines_eq (color : Bool) {lines : List Line} (h : lines ≠ []) :
    Text.renderLines color lines = "\n".intercalate (lines.map (Line.render color)) ++ "\n" := by
  induction lines with
  | nil => exact absurd rfl h
  | cons first rest ih =>
      rw [Text.renderLines_cons]
      cases rest with
      | nil =>
          rw [List.map_cons, List.map_nil, String.intercalate_singleton]
          exact String.append_empty
      | cons second more =>
          rw [ih (List.cons_ne_nil _ _), List.map_cons, List.map_cons, List.map_cons,
            String.intercalate_cons_cons, String.append_assoc, String.append_assoc,
            String.append_assoc]

theorem linesAbove_render (s : Sheet) (color : Bool) (width : Nat) :
    (s.linesAbove width).map (Line.render color) =
      headingText color width s.title :: s.descriptionLines width := by
  have hheading : (Line.heading width s.title).render color =
      headingText color width s.title := by
    rw [Line.heading, Line.render_singleton]
    cases color <;> rfl
  have hplain : ∀ text : String, Line.render color [.plain text] = text := fun text =>
    Line.render_singleton color (.plain text)
  rw [linesAbove, List.map_cons, hheading, List.map_map]
  congr 1
  exact (List.map_congr_left fun text _ => hplain text).trans (List.map_id _)

/-- **The text of a sheet is that of its styled lines.** -/
theorem rowText?_eq (s : Sheet) (o : RowOptions) :
    rowText? s o = (rowLines? s o).map fun lines => lines.map (Text.renderLines o.color) := by
  unfold rowText? rowLines?
  cases hleaves : leaves s.visibleFields with
  | error e => rfl
  | ok ls =>
      cases hvisible : ls.isEmpty with
      | true => simp only [bind, Except.bind, pure, Except.pure, hvisible, if_true, Except.map,
          Option.map_none]
      | false =>
          by_cases hgroup : s.groups.length = 1
          · have hcount : ∀ count, (countLine count).render o.color = countText count := fun count =>
              Line.render_singleton o.color (.plain (countText count))
            have hlines : ((s.lineLeaves o ls).map
                ((s.rowLayout o ls).line s.declaration.separator)).map (Line.render o.color) =
                (s.lineLeaves o ls).map
                  ((s.rowLayout o ls).lineText o.color s.declaration.separator) := by
              rw [List.map_map]
              exact List.map_congr_left fun l _ => (RowLayout.lineText_eq _ _ _ l).symm
            simp only [bind, Except.bind, pure, Except.pure, hvisible, hgroup, ne_eq,
              not_true_eq_false, if_false, Bool.false_eq_true, Except.map, Option.map_some]
            rw [renderLines_eq _ (by simp), List.map_append, List.map_append, linesAbove_render,
              hlines, List.map_cons, List.map_nil, hcount]
          · simp only [bind, Except.bind, pure, Except.pure, hvisible, hgroup, ne_eq,
              not_false_eq_true, if_true, if_false, Bool.false_eq_true, Except.map]
            rfl

/-! ### Repeated titles -/

def Leaf.isTitle (titleKeys : List String) (l : Leaf) : Bool := titleKeys.contains l.column.key

/-- Title fields before every so many columns, the first of which is the given one. -/
def interleaved (titles : List Leaf) (interval first : Nat) (ls : List Leaf) : List Leaf :=
  (ls.zipIdx first).flatMap fun (l, i) => if i % interval = 0 then titles ++ [l] else [l]

theorem interleaved_cons (titles : List Leaf) (interval first : Nat) (l : Leaf) (ls : List Leaf) :
    interleaved titles interval first (l :: ls) =
      (if first % interval = 0 then titles else [])
        ++ l :: interleaved titles interval (first + 1) ls := by
  by_cases h : first % interval = 0 <;> simp [interleaved, h]

theorem filter_interleaved {keep : Leaf → Bool} {titles ls : List Leaf}
    (htitles : ∀ l ∈ titles, keep l = false) (hls : ∀ l ∈ ls, keep l = true)
    (interval first : Nat) :
    (interleaved titles interval first ls).filter keep = ls := by
  induction ls generalizing first with
  | nil => rfl
  | cons l rest ih =>
      obtain ⟨hl, hrest⟩ := List.forall_mem_cons.1 hls
      have hdropped : (if first % interval = 0 then titles else []).filter keep = [] := by
        split
        · exact List.filter_eq_nil_iff.2 fun title htitle => by simp [htitles title htitle]
        · rfl
      rw [interleaved_cons, List.filter_append, hdropped, List.nil_append,
        List.filter_cons_of_pos hl, ih hrest]

theorem of_mem_interleaved {titles ls : List Leaf} {interval first : Nat} {l : Leaf}
    (h : l ∈ interleaved titles interval first ls) : l ∈ titles ∨ l ∈ ls := by
  obtain ⟨⟨other, i⟩, hmem, h⟩ := List.mem_flatMap.1 h
  have hother : other ∈ ls := List.fst_mem_of_mem_zipIdx hmem
  dsimp only at h
  split at h
  · rcases List.mem_append.1 h with h | h
    · exact .inl h
    · exact .inr (List.mem_singleton.1 h ▸ hother)
  · exact .inr (List.mem_singleton.1 h ▸ hother)

section

variable (titleKeys : List String) (interval : Nat) (ls : List Leaf)

theorem repeatTitles_eq : repeatTitles titleKeys interval ls =
    interleaved (ls.filter (Leaf.isTitle titleKeys)) interval 0
      (ls.filter fun l => !l.isTitle titleKeys) := rfl

/-- Repeating the title fields leaves the other columns as they are. -/
theorem filter_repeatTitles :
    (repeatTitles titleKeys interval ls).filter (fun l => !l.isTitle titleKeys) =
      ls.filter fun l => !l.isTitle titleKeys := by
  refine filter_interleaved (fun l hl => ?_) (fun l hl => (List.mem_filter.1 hl).2) interval 0
  have htitle : l.isTitle titleKeys = true := (List.mem_filter.1 hl).2
  rw [htitle, Bool.not_true]

/-- The columns are listed as soon as one of them is no title field. -/
theorem mem_repeatTitles {l : Leaf} :
    l ∈ repeatTitles titleKeys interval ls ↔
      l ∈ ls ∧ ∃ other ∈ ls, other.isTitle titleKeys = false := by
  rw [repeatTitles_eq]
  constructor
  · intro h
    constructor
    · rcases of_mem_interleaved h with h | h <;> exact (List.mem_filter.1 h).1
    · obtain ⟨⟨other, i⟩, hmem, -⟩ := List.mem_flatMap.1 h
      obtain ⟨hother, hkept⟩ := List.mem_filter.1 (List.fst_mem_of_mem_zipIdx hmem)
      exact ⟨other, hother, by simpa using hkept⟩
  · rintro ⟨hl, other, hother, hkept⟩
    cases htitle : l.isTitle titleKeys with
    | true =>
        -- the title fields stand before the first of the other columns
        have hmem : other ∈ ls.filter fun l => !l.isTitle titleKeys :=
          List.mem_filter.2 ⟨hother, by simp [hkept]⟩
        obtain ⟨first, rest, heq⟩ := List.exists_cons_of_ne_nil (List.ne_nil_of_mem hmem)
        rw [heq, interleaved_cons, Nat.zero_mod, if_pos rfl]
        exact List.mem_append_left _ (List.mem_filter.2 ⟨hl, htitle⟩)
    | false =>
        have hmem : l ∈ ls.filter fun l => !l.isTitle titleKeys :=
          List.mem_filter.2 ⟨hl, by simp [htitle]⟩
        rw [← filter_repeatTitles titleKeys interval ls] at hmem
        exact (List.mem_filter.1 hmem).1

end

theorem mem_of_mem_lineLeaves {s : Sheet} {o : RowOptions} {ls : List Leaf} {l : Leaf}
    (h : l ∈ s.lineLeaves o ls) : l ∈ ls := by
  unfold lineLeaves at h
  split at h
  · exact ((mem_repeatTitles _ _ _).1 h).1
  · exact h

/-! ### Slots -/

@[simp] theorem length_packTitles (start limit position : Nat) (widths : List Nat) :
    (packTitles start limit position widths).1.length = widths.length := by
  induction widths generalizing position with
  | nil => rfl
  | cons width rest ih =>
      unfold packTitles
      split <;> simp [ih]

@[simp] theorem length_packRow (start limit : Nat) (widths : List Nat) :
    (packRow start limit widths).1.length = widths.length := by
  cases widths <;> simp [packRow]

namespace RowLayout

theorem text_titleSpan (r : RowLayout) (l : Leaf) :
    (r.titleSpan l).text =
      l.column.title ++ Text.blanks (r.titleWidth - l.column.title.length) := by
  unfold titleSpan
  split <;> rfl

/-- The slots of the entries, the first of which has the given position, with their titles. -/
def entrySlots (titled : List Bool) (first : Nat) : List Slot :=
  (titled.zipIdx first).flatMap fun (titled, i) => (if titled then [.title] else []) ++ [.entry i]

theorem entrySlots_cons (t : Bool) (titled : List Bool) (first : Nat) :
    entrySlots (t :: titled) first =
      (if t then [.title] else []) ++ .entry first :: entrySlots titled (first + 1) := by
  simp [entrySlots]

/-- The slots of the aggregate and of its title. -/
def aggregateSlots (r : RowLayout) : List Slot :=
  if r.aggregated then (if r.aggregateTitled then [.title] else []) ++ [.aggregate] else []

theorem slots_eq (r : RowLayout) : r.slots = entrySlots r.titled 0 ++ r.aggregateSlots := rfl

theorem lt_of_entry_mem_entrySlots {titled : List Bool} {first i : Nat}
    (h : .entry i ∈ entrySlots titled first) : i < first + titled.length := by
  obtain ⟨⟨t, j⟩, hmem, h⟩ := List.mem_flatMap.1 h
  have hj : j < first + titled.length := List.snd_lt_add_of_mem_zipIdx hmem
  have hij : i = j := by cases t <;> simpa using h
  rwa [hij]

theorem lt_of_entry_mem_slots {r : RowLayout} {i : Nat} (h : .entry i ∈ r.slots) :
    i < r.titled.length := by
  rw [slots_eq, List.mem_append] at h
  rcases h with h | h
  · simpa using lt_of_entry_mem_entrySlots h
  · unfold aggregateSlots at h
    split at h
    · split at h <;> simp at h
    · cases h

section

variable (titleWidth : Nat) (entryWidths : List Nat) (aggregateWidth : Nat) (aggregated : Bool)
  (separator : String) (o : RowOptions)

@[simp] theorem length_titled_ofWidths :
    (ofWidths titleWidth entryWidths aggregateWidth aggregated separator o).titled.length =
      entryWidths.length := by
  simp only [ofWidths]
  split <;> simp

theorem titled_ofWidths_cons (width : Nat) (rest : List Nat) :
    ∃ titled, (ofWidths titleWidth (width :: rest) aggregateWidth aggregated separator o).titled =
      true :: titled := by
  simp only [ofWidths]
  split
  · exact ⟨_, rfl⟩
  · exact ⟨_, rfl⟩

theorem titled_ofWidths_nil :
    (ofWidths titleWidth [] aggregateWidth aggregated separator o).titled = [] :=
  List.length_eq_zero_iff.1 (length_titled_ofWidths _ _ _ _ _ _)

theorem aggregated_of_aggregateTitled
    (h : (ofWidths titleWidth entryWidths aggregateWidth aggregated separator o).aggregateTitled =
      true) : (ofWidths titleWidth entryWidths aggregateWidth aggregated separator o).aggregated =
      true := by
  simp only [ofWidths, Bool.and_eq_true] at h
  exact h.1.2

/-- A title stands first as soon as there are records, or one before the aggregate. -/
theorem head?_slots_ofWidths_iff :
    (ofWidths titleWidth entryWidths aggregateWidth aggregated separator o).slots.head? =
        some .title ↔
      entryWidths ≠ [] ∨
        (ofWidths titleWidth entryWidths aggregateWidth aggregated separator o).aggregateTitled =
          true := by
  cases entryWidths with
  | cons width rest =>
      obtain ⟨titled, htitled⟩ := titled_ofWidths_cons titleWidth aggregateWidth aggregated
        separator o width rest
      rw [slots_eq, htitled, entrySlots_cons]
      simp
  | nil =>
      rw [slots_eq, titled_ofWidths_nil]
      constructor
      · intro h
        refine .inr ?_
        cases hplain : (ofWidths titleWidth [] aggregateWidth aggregated separator
          o).aggregateTitled with
        | true => rfl
        | false =>
            rw [aggregateSlots, hplain] at h
            split at h <;> cases h
      · rintro (h | h)
        · exact absurd rfl h
        · have haggregated := aggregated_of_aggregateTitled _ _ _ _ _ _ h
          simp [aggregateSlots, entrySlots, h, haggregated]

end

end RowLayout

theorem length_titled_rowLayout (s : Sheet) (o : RowOptions) (ls : List Leaf) :
    (s.rowLayout o ls).titled.length = s.recordCount := by
  unfold rowLayout RowLayout.of
  rw [RowLayout.length_titled_ofWidths, widestEntries, List.length_map, List.length_range]

theorem lt_recordCount_of_entry_mem_slots {s : Sheet} {o : RowOptions} {ls : List Leaf} {i : Nat}
    (h : .entry i ∈ (s.rowLayout o ls).slots) : i < s.recordCount := by
  rw [← length_titled_rowLayout s o ls]
  exact RowLayout.lt_of_entry_mem_slots h

end ClusterReport.Sheet
