/-
**The cells of a sheet line up.**

In row style all lines have the same slots, and every cell is filled up with blanks to the width of
its slot: a title to that of the widest title, and an entry to that of the widest entry of its
record.  So a cell starts behind as many characters in one line as in every other one, in the lines
of title fields that are repeated as well, and whatever the separator and the places of the titles
are.  Only the aggregate is not filled up, and it ends the line.

Main definitions:

* `ClusterReport.Sheet.IsPadded` — that a text is filled up with blanks where it is aligned;
* `ClusterReport.Sheet.StandsAt` — that a cell stands at an offset in a line;
* `ClusterReport.Sheet.RowLayout.offset` — where the cell behind some slots starts;
* `ClusterReport.Sheet.RowLayout.LinesUp` — that the cells of some columns line up;
* `ClusterReport.Sheet.AlignsColumns` — that the lines of a sheet line up.

Main results:

* `ClusterReport.Sheet.RowLayout.standsAt_lineText` — a cell starts behind the slots before it;
* `ClusterReport.Sheet.RowLayout.count_entry_slots` — every record has one slot;
* `ClusterReport.Sheet.linesUp_rowLayout` — the cells of the visible columns line up;
* `ClusterReport.Sheet.rowText?_alignsColumns` — **without color all lines of a sheet line up**.
-/

import ClusterReport.Proofs.Sheet.RowStyle
import Mathlib.Order.Bounds.Basic

set_option relaxedAutoImplicit false
set_option autoImplicit false

namespace ClusterReport.Sheet

open Text (blanks padEnd padStart padBoth)

/-! ### Padding -/

/-- A text filled up with blanks: behind it, in front of it, or on both sides, where there may be
one more behind. -/
inductive IsPadded (s : String) : Align → String → Prop
  | left (n : Nat) : IsPadded s .left (s ++ blanks n)
  | right (n : Nat) : IsPadded s .right (blanks n ++ s)
  | center (m n : Nat) (h : n = m ∨ n = m + 1) : IsPadded s .center (blanks m ++ s ++ blanks n)

theorem isPadded_aligned (a : Align) (width : Nat) (s : String) :
    IsPadded s a (RowLayout.aligned a width s) := by
  cases a with
  | left => exact .left _
  | right => exact .right _
  | center => exact .center _ _ (by omega)

/-! ### Offsets -/

/-- A cell stands at an offset of a line if there are as many characters before it. -/
def StandsAt (cell : String) (offset : Nat) (line : String) : Prop :=
  ∃ before after, line = before ++ cell ++ after ∧ before.length = offset

/-- A cell between others stands behind those in front, each with a separator. -/
theorem standsAt_intercalate (separator : String) (front : List String) (cell : String)
    (back : List String) :
    StandsAt cell (Integer.natSum (front.map fun c => c.length + separator.length))
      (separator.intercalate (front ++ cell :: back)) := by
  induction front with
  | nil =>
      cases back with
      | nil =>
          refine ⟨"", "", ?_, rfl⟩
          rw [List.nil_append, String.intercalate_singleton, String.empty_append,
            String.append_empty]
      | cons next rest =>
          refine ⟨"", separator ++ separator.intercalate (next :: rest), ?_, rfl⟩
          rw [List.nil_append, String.intercalate_cons_cons, String.empty_append,
            String.append_assoc]
  | cons first rest ih =>
      obtain ⟨before, after, hline, hlength⟩ := ih
      refine ⟨first ++ separator ++ before, after, ?_, ?_⟩
      · rw [List.cons_append, String.intercalate_cons_of_ne_nil (by simp), hline,
          String.append_assoc, String.append_assoc, String.append_assoc, String.append_assoc,
          String.append_assoc]
      · rw [List.map_cons, Integer.natSum_cons, ← hlength, String.length_append,
          String.length_append]

namespace RowLayout

/-- How wide the cell of a slot is.  The aggregate has no width of its own, and ends the line. -/
def slotWidth (r : RowLayout) : Slot → Nat
  | .title => r.titleWidth
  | .entry i => r.entryWidths[i]?.getD 0
  | .aggregate => 0

/-- Where the cell behind some slots starts: behind each of them and a separator. -/
def offset (r : RowLayout) (separator : String) (front : List Slot) : Nat :=
  Integer.natSum (front.map fun slot => r.slotWidth slot + separator.length)

/-- A layout has room for what a column shows: its title and its entries are no wider than their
slots. -/
structure HasRoom (r : RowLayout) (l : Leaf) : Prop where
  title_le : l.column.title.length ≤ r.titleWidth
  entry_le : ∀ i, .entry i ∈ r.slots → (l.entry i).text.length ≤ r.entryWidths[i]?.getD 0

theorem HasRoom.length_title {r : RowLayout} {l : Leaf} (h : r.HasRoom l) :
    (r.slotText false l .title).length = r.titleWidth := by
  show (padEnd r.titleWidth l.column.title).length = r.titleWidth
  rw [Text.length_padEnd, Nat.max_eq_left h.title_le]

theorem HasRoom.length_entry {r : RowLayout} {l : Leaf} (h : r.HasRoom l) {i : Nat}
    (hi : .entry i ∈ r.slots) :
    (r.slotText false l (.entry i)).length = r.entryWidths[i]?.getD 0 := by
  show (aligned l.column.align (r.entryWidths[i]?.getD 0) (l.entry i).text).length = _
  rw [length_aligned, Nat.max_eq_left (h.entry_le i hi)]

theorem HasRoom.length_slotText {r : RowLayout} {l : Leaf} (h : r.HasRoom l) {slot : Slot}
    (hslot : slot ∈ r.slots) (haggregate : slot ≠ .aggregate) :
    (r.slotText false l slot).length = r.slotWidth slot := by
  cases slot with
  | title => exact h.length_title
  | entry i => exact h.length_entry hslot
  | aggregate => exact absurd rfl haggregate

/-! ### Slots -/

theorem aggregate_not_mem_entrySlots (titled : List Bool) (first : Nat) :
    .aggregate ∉ entrySlots titled first := by
  intro h
  obtain ⟨⟨t, i⟩, -, h⟩ := List.mem_flatMap.1 h
  cases t <;> simp at h

theorem aggregate_not_mem_of_slots_eq {r : RowLayout} {front back : List Slot} {slot : Slot}
    (h : r.slots = front ++ slot :: back) : .aggregate ∉ front := by
  have hentries := aggregate_not_mem_entrySlots r.titled 0
  have hinit : .aggregate ∉ r.slots.dropLast := by
    rw [slots_eq]
    unfold aggregateSlots
    split
    · split
      · rw [← List.append_assoc, List.dropLast_concat, List.mem_append, not_or]
        exact ⟨hentries, by simp⟩
      · rw [List.nil_append, List.dropLast_concat]
        exact hentries
    · rw [List.append_nil]
      exact fun hmem => hentries ((List.dropLast_sublist _).subset hmem)
  intro hmem
  refine hinit ?_
  rw [h, List.dropLast_append_of_ne_nil (List.cons_ne_nil _ _)]
  exact List.mem_append_left _ hmem

/-- **A cell starts behind the slots before it**, which are equally wide in all lines. -/
theorem standsAt_lineText {r : RowLayout} {l : Leaf} (hroom : r.HasRoom l) {front back : List Slot}
    {slot : Slot} (h : r.slots = front ++ slot :: back) (separator : String) :
    StandsAt (r.slotText false l slot) (r.offset separator front)
      (r.lineText false separator l) := by
  have hfront := aggregate_not_mem_of_slots_eq h
  have hwidths : (front.map (r.slotText false l)).map (fun c => c.length + separator.length) =
      front.map fun slot => r.slotWidth slot + separator.length := by
    rw [List.map_map]
    refine List.map_congr_left fun other hother => ?_
    have hmem : other ∈ r.slots := h ▸ List.mem_append_left _ hother
    have hne : other ≠ .aggregate := fun heq => hfront (heq ▸ hother)
    rw [Function.comp_apply, hroom.length_slotText hmem hne]
  have hstands := standsAt_intercalate separator (front.map (r.slotText false l))
    (r.slotText false l slot) (back.map (r.slotText false l))
  rw [hwidths] at hstands
  rw [lineText, h, List.map_append, List.map_cons]
  exact hstands

theorem count_entry_entrySlots (titled : List Bool) (first i : Nat) :
    (entrySlots titled first).count (.entry i) =
      if first ≤ i ∧ i < first + titled.length then 1 else 0 := by
  induction titled generalizing first with
  | nil =>
      rw [if_neg (by simp)]
      rfl
  | cons t rest ih =>
      have htitle : (if t then [Slot.title] else []).count (.entry i) = 0 := by
        cases t <;> rfl
      rw [entrySlots_cons, List.count_append, htitle, List.count_cons, ih, List.length_cons]
      by_cases heq : first = i
      · subst heq
        simp
      · have hne : (Slot.entry first == Slot.entry i) = false := by simpa using heq
        rw [hne]
        simp only [Bool.false_eq_true, if_false]
        split <;> split <;> omega

/-- **Every record has one slot.** -/
theorem count_entry_slots {r : RowLayout} {i : Nat} (h : i < r.titled.length) :
    r.slots.count (.entry i) = 1 := by
  have haggregate : r.aggregateSlots.count (.entry i) = 0 := by
    unfold aggregateSlots
    split
    · split <;> rfl
    · rfl
  rw [slots_eq, List.count_append, haggregate, count_entry_entrySlots, if_pos (by omega)]

/-! ### Lines -/

/-- The cells of some columns line up: each record has one entry in a line, a cell starts at the
same offset in all lines, entries and titles are as wide as the widest of them, and apart from the
blanks they are filled up with they are what the column shows. -/
structure LinesUp (r : RowLayout) (separator : String) (records : Nat) (ls : List Leaf) : Prop where
  /-- Each record has one entry. -/
  count_eq : ∀ i < records, r.slots.count (.entry i) = 1
  /-- A cell starts at the same offset in all lines. -/
  starts : ∀ front slot back, r.slots = front ++ slot :: back → ∀ l ∈ ls,
    StandsAt (r.slotText false l slot) (r.offset separator front) (r.lineText false separator l)
  /-- The entries of a record are as wide as the widest of them. -/
  entry_width : ∀ i < records, ∃ width,
    IsGreatest {n | ∃ l ∈ ls, (l.entry i).text.length = n} width ∧
      ∀ l ∈ ls, (r.slotText false l (.entry i)).length = width
  /-- The titles are as wide as the widest of them. -/
  title_width : ∃ width, IsGreatest {n | ∃ l ∈ ls, l.column.title.length = n} width ∧
    ∀ l ∈ ls, (r.slotText false l .title).length = width
  /-- An entry is what the column shows of the record, filled up with blanks. -/
  entry_padded : ∀ l ∈ ls, ∀ i,
    IsPadded (l.entry i).text l.column.align (r.slotText false l (.entry i))
  /-- A title is that of the column, filled up with blanks. -/
  title_padded : ∀ l ∈ ls, IsPadded l.column.title .left (r.slotText false l .title)

end RowLayout

theorem isGreatest_widest {ls : List Leaf} (h : ls ≠ []) (width : Leaf → Nat) :
    IsGreatest {n | ∃ l ∈ ls, width l = n} (widest (ls.map width)) := by
  obtain ⟨first, rest, rfl⟩ := List.exists_cons_of_ne_nil h
  have hmax : ((first :: rest).map width).max? = some (widest ((first :: rest).map width)) := by
    rw [List.map_cons, List.max?_cons', widest, List.foldl_cons, Nat.zero_max]
  obtain ⟨hmem, hle⟩ := List.max?_eq_some_iff.1 hmax
  refine ⟨List.mem_map.1 hmem, ?_⟩
  rintro n ⟨l, hl, rfl⟩
  exact hle _ (List.mem_map_of_mem hl)

section

variable {s : Sheet} {o : RowOptions} {ls : List Leaf}

theorem entryWidths_rowLayout {i : Nat} (h : i < s.recordCount) :
    (s.rowLayout o ls).entryWidths[i]?.getD 0 =
      widest (ls.map fun l => (l.entry i).text.length) := by
  show (widestEntries ls s.recordCount)[i]?.getD 0 = _
  simp [widestEntries, h]

/-- The layout of a sheet has room for its visible columns. -/
theorem hasRoom_rowLayout {l : Leaf} (hl : l ∈ ls) : (s.rowLayout o ls).HasRoom l where
  title_le :=
    (isGreatest_widest (List.ne_nil_of_mem hl) fun l => l.column.title.length).2 ⟨l, hl, rfl⟩
  entry_le i hi := by
    rw [entryWidths_rowLayout (lt_recordCount_of_entry_mem_slots hi)]
    exact (isGreatest_widest (List.ne_nil_of_mem hl) fun l => (l.entry i).text.length).2
      ⟨l, hl, rfl⟩

theorem count_entry_slots_rowLayout {i : Nat} (h : i < s.recordCount) :
    (s.rowLayout o ls).slots.count (.entry i) = 1 := by
  rw [← length_titled_rowLayout s o ls] at h
  exact RowLayout.count_entry_slots h

/-- **The cells of the visible columns line up.** -/
theorem linesUp_rowLayout (hvisible : ls ≠ []) :
    (s.rowLayout o ls).LinesUp s.declaration.separator s.recordCount ls where
  count_eq i hi := count_entry_slots_rowLayout hi
  starts front slot back h l hl := RowLayout.standsAt_lineText (hasRoom_rowLayout hl) h _
  entry_width i hi := by
    refine ⟨_, isGreatest_widest hvisible fun l => (l.entry i).text.length, fun l hl => ?_⟩
    have hslot : .entry i ∈ (s.rowLayout o ls).slots := by
      rw [← List.count_pos_iff, count_entry_slots_rowLayout hi]
      exact Nat.one_pos
    rw [(hasRoom_rowLayout hl).length_entry hslot, entryWidths_rowLayout hi]
  title_width := by
    refine ⟨_, isGreatest_widest hvisible fun l => l.column.title.length, fun l hl => ?_⟩
    exact (hasRoom_rowLayout hl).length_title
  entry_padded l hl i := isPadded_aligned _ _ _
  title_padded l hl := .left _

end

/-- The lines of a sheet line up: its text has a line for each column that is listed, these are
visible columns, and the cells of the visible columns line up. -/
structure AlignsColumns (s : Sheet) (o : RowOptions) (ls : List Leaf) : Prop where
  text_eq : rowText? s o = .ok (some ("\n".intercalate
    (headingText false (s.rowWidth (s.rowLayout o ls) (widestAggregate ls)) s.title
      :: s.descriptionLines (s.rowWidth (s.rowLayout o ls) (widestAggregate ls))
      ++ (s.lineLeaves o ls).map ((s.rowLayout o ls).lineText false s.declaration.separator)
      ++ [countText (s.lineLeaves o ls).length]) ++ "\n"))
  listed : ∀ l ∈ s.lineLeaves o ls, l ∈ ls
  linesUp : (s.rowLayout o ls).LinesUp s.declaration.separator s.recordCount ls

/-- **Without color all lines of a sheet line up**: the entries of a record start at the same offset
and are equally wide, whatever the titles, the separator and the terminal are. -/
theorem rowText?_alignsColumns {s : Sheet} {ls : List Leaf}
    (hleaves : leaves s.visibleFields = .ok ls) (hvisible : ls ≠ []) (hgroup : s.groups.length = 1)
    {o : RowOptions} (hcolor : o.color = false) : AlignsColumns s o ls where
  text_eq := hcolor ▸ rowText?_of_leaves hleaves hvisible hgroup o
  listed _ hl := mem_of_mem_lineLeaves hl
  linesUp := linesUp_rowLayout hvisible

/-- A sheet of nodes with a column for each alignment. -/
def nodesInRacks : Declaration where
  fields := [.column { title := "Node", projector := .rowKey },
    .column { title := "Objects", projector := .number "svc" ["objects"], align := .right
              aggregator := some ⟨.sum, none⟩ },
    .column { title := "Rack", projector := .number "svc" ["rack"], align := .center }]
  titleKeys := ["Node"]

def nodesInRacksSheet : Sheet := build nodesInRacks "Objects" (.ofList [("svc", .ofList
  [("first", .value (.object [("objects", .int 3), ("rack", .int 1)])),
    ("second", .value (.object [("objects", .int 10), ("rack", .int 2)]))])])

/-- With a title before every entry, the second entry starts behind 22 characters in every line. -/
theorem rowText?_alignsColumns_nodesInRacks :
    ∃ ls, leaves nodesInRacksSheet.visibleFields = .ok ls ∧ ls.length = 3 ∧
      nodesInRacksSheet.groups.length = 1 ∧
      (∀ l ∈ ls, StandsAt ((nodesInRacksSheet.rowLayout
          { repeatTitles := true, columns := 14, lines := 3 } ls).slotText false l (.entry 1)) 22
        ((nodesInRacksSheet.rowLayout
          { repeatTitles := true, columns := 14, lines := 3 } ls).lineText false "|" l)) ∧
      rowText? nodesInRacksSheet { repeatTitles := true, columns := 14, lines := 3 } = .ok (some
        ("~~~~~~~~~~~~~~~ Objects ~~~~~~~~~~~~~~~\nNode   |first|Node   |second|Node   |\n"
          ++ "Objects|    3|Objects|    10|Objects|13\nNode   |first|Node   |second|Node   |\n"
          ++ "Rack   |  1  |Rack   |  2   |Rack   |\nNumber of rows: 4\n")) := by
  have haligned := rowText?_alignsColumns
    (show leaves nodesInRacksSheet.visibleFields = .ok _ from rfl) (List.cons_ne_nil _ _)
    (show nodesInRacksSheet.groups.length = 1 from rfl)
    (o := { repeatTitles := true, columns := 14, lines := 3 }) rfl
  exact ⟨_, rfl, rfl, rfl, haligned.linesUp.starts [.title, .entry 0, .title] (.entry 1)
    [.title, .aggregate] rfl, by decide +kernel⟩

end ClusterReport.Sheet
