/-
**How wide the title blocks of a line are.**

With repeated titles a line falls into blocks, each of which is a title with the entries up to the
next one.  The layout puts an entry into the current block as long as the block stays below the
width of the terminal, but of the separators it counts only the one behind the title.  So a block of
several entries is below that width without the separators between its entries, and with them it may
be wider.

Main definitions:

* `ClusterReport.Sheet.titleBlocks` — the blocks of a line, by the records of their entries;
* `ClusterReport.Sheet.Packed` — that blocks are packed below a limit;
* `ClusterReport.Sheet.RowLayout.blockWidth`, `countedWidth` — how wide a block is, and what the
  layout counts of it;
* `ClusterReport.Sheet.FitsTerminal` — that every block has one entry or is no wider than the
  terminal;
* `ClusterReport.Sheet.PacksBlocks` — how the lines of a sheet fall into blocks.

Main results:

* `ClusterReport.Sheet.packed_packTitles` — what packing one entry after the other keeps true of
  the blocks;
* `ClusterReport.Sheet.RowLayout.line_eq_intercalate` — a line is its blocks and the aggregate;
* `ClusterReport.Sheet.rowText?_packsBlocks` — **blocks of several entries stay below the width of
  the terminal without the separators between them, and fit exactly if there is room for these**;
* `ClusterReport.Sheet.not_fitsTerminal_threeNodes` — a block of three entries that does not fit.
-/

import ClusterReport.Proofs.Sheet.RowStyle
import Mathlib.Data.List.Chain

set_option relaxedAutoImplicit false
set_option autoImplicit false

namespace ClusterReport.Sheet

open Text (Line Span)

/-! ### Blocks -/

/-- The records of the entries that stand first among some slots. -/
def leadingEntries : List Slot → List Nat
  | .entry record :: rest => record :: leadingEntries rest
  | _ => []

/-- The title blocks of some slots: for every title the records of the entries up to the next
one. -/
def titleBlocks : List Slot → List (List Nat)
  | [] => []
  | .title :: rest => leadingEntries rest :: titleBlocks rest
  | _ :: rest => titleBlocks rest

@[simp] theorem leadingEntries_title (slots : List Slot) : leadingEntries (.title :: slots) = [] :=
  rfl

@[simp] theorem titleBlocks_entry (record : Nat) (slots : List Slot) :
    titleBlocks (.entry record :: slots) = titleBlocks slots := rfl

/-- The slots of a title block. -/
def blockSlots (block : List Nat) : List Slot := .title :: block.map .entry

theorem entry_mem_of_mem_leadingEntries {slots : List Slot} {i : Nat}
    (h : i ∈ leadingEntries slots) : .entry i ∈ slots := by
  induction slots with
  | nil => cases h
  | cons slot rest ih =>
      cases slot with
      | entry record =>
          rcases List.mem_cons.1 h with rfl | h
          · exact List.mem_cons_self
          · exact List.mem_cons_of_mem _ (ih h)
      | title => cases h
      | aggregate => cases h

theorem entry_mem_of_mem_titleBlocks {slots : List Slot} {block : List Nat} {i : Nat}
    (hblock : block ∈ titleBlocks slots) (hi : i ∈ block) : .entry i ∈ slots := by
  induction slots with
  | nil => cases hblock
  | cons slot rest ih =>
      cases slot with
      | entry record => exact List.mem_cons_of_mem _ (ih hblock)
      | aggregate => exact List.mem_cons_of_mem _ (ih hblock)
      | title =>
          rcases List.mem_cons.1 hblock with rfl | hblock
          · exact List.mem_cons_of_mem _ (entry_mem_of_mem_leadingEntries hi)
          · exact List.mem_cons_of_mem _ (ih hblock)

/-- Slots are the entries that stand first and the title blocks, as long as there is no
aggregate. -/
theorem leadingEntries_append_titleBlocks {slots : List Slot} (h : .aggregate ∉ slots) :
    (leadingEntries slots).map .entry ++ (titleBlocks slots).flatMap blockSlots = slots := by
  induction slots with
  | nil => rfl
  | cons slot rest ih =>
      have ih := ih fun hmem => h (List.mem_cons_of_mem _ hmem)
      cases slot with
      | title => exact congrArg (Slot.title :: ·) ih
      | entry record => exact congrArg (Slot.entry record :: ·) ih
      | aggregate => exact absurd List.mem_cons_self h

theorem leadingEntries_append_aggregate (slots : List Slot) :
    leadingEntries (slots ++ [.aggregate]) = leadingEntries slots := by
  induction slots with
  | nil => rfl
  | cons slot rest ih => cases slot <;> simp [leadingEntries, ih]

theorem titleBlocks_append_aggregate (slots : List Slot) :
    titleBlocks (slots ++ [.aggregate]) = titleBlocks slots := by
  induction slots with
  | nil => rfl
  | cons slot rest ih => cases slot <;> simp [titleBlocks, leadingEntries_append_aggregate, ih]

theorem intersperse_append {α : Type} (separator : α) {xs ys : List α} (hxs : xs ≠ [])
    (hys : ys ≠ []) : (xs ++ ys).intersperse separator =
      xs.intersperse separator ++ separator :: ys.intersperse separator := by
  induction xs with
  | nil => exact absurd rfl hxs
  | cons x rest ih =>
      cases rest with
      | nil =>
          obtain ⟨y, more, rfl⟩ := List.exists_cons_of_ne_nil hys
          rfl
      | cons second rest =>
          rw [List.cons_append, List.cons_append, List.intersperse_cons_cons, ← List.cons_append,
            ih (List.cons_ne_nil _ _)]
          rfl

/-- The cells of a line with a separator between them, first within some parts and then between
these. -/
theorem intersperse_flatten {α : Type} (separator : α) {parts : List (List α)}
    (hparts : ∀ part ∈ parts, part ≠ []) :
    parts.flatten.intersperse separator =
      [separator].intercalate (parts.map (List.intersperse separator)) := by
  induction parts with
  | nil => rfl
  | cons part rest ih =>
      obtain ⟨hpart, hrest⟩ := List.forall_mem_cons.1 hparts
      cases rest with
      | nil => simp [List.intercalate_singleton]
      | cons next more =>
          have hnext : (next :: more).flatten ≠ [] := by
            rw [List.flatten_cons]
            exact List.append_ne_nil_of_left_ne_nil (List.forall_mem_cons.1 hrest).1 _
          rw [List.flatten_cons, intersperse_append separator hpart hnext, ih hrest]
          simp only [List.map_cons, List.intercalate_cons_cons, List.append_assoc,
            List.singleton_append]

/-! ### Packing -/

/-- What is counted of a block: where its first entry starts, and its entries. -/
def counted (start : Nat) (width : Nat → Nat) (block : List Nat) : Nat :=
  start + Integer.natSum (block.map width)

theorem counted_concat (start : Nat) (width : Nat → Nat) (block : List Nat) (record : Nat) :
    counted start width (block ++ [record]) = counted start width block + width record := by
  simp [counted, Integer.natSum_append, Nat.add_assoc]

/-- Whether blocks are packed: what is counted of several entries is below the limit, and with the
first entry of the next block it would have reached the limit. -/
structure Packed (start limit : Nat) (width : Nat → Nat) (blocks : List (List Nat)) : Prop where
  counted_lt : ∀ block ∈ blocks, 2 ≤ block.length → counted start width block < limit
  limit_le : blocks.IsChain fun block next => ∀ record, next.head? = some record →
    limit ≤ counted start width block + width record

section

variable {start limit : Nat} {width : Nat → Nat}

theorem packed_cons_of_empty {block : List Nat} {blocks : List (List Nat)}
    (hblock : 2 ≤ block.length → counted start width block < limit)
    (hempty : ∀ next ∈ blocks, next = []) : Packed start limit width (block :: blocks) where
  counted_lt := by
    refine List.forall_mem_cons.2 ⟨hblock, fun next hnext hseveral => ?_⟩
    rw [hempty next hnext] at hseveral
    cases hseveral
  limit_le := by
    induction blocks generalizing block with
    | nil => exact List.isChain_singleton block
    | cons next rest ih =>
        obtain ⟨rfl, hrest⟩ := List.forall_mem_cons.1 hempty
        exact List.isChain_cons_cons.2 ⟨nofun, ih nofun hrest⟩

/-- A block begins behind another one when its first entry would reach the limit there. -/
theorem Packed.cons {block next : List Nat} {blocks : List (List Nat)} {record : Nat}
    (h : Packed start limit width ((record :: next) :: blocks))
    (hblock : 2 ≤ block.length → counted start width block < limit)
    (hfull : limit ≤ counted start width block + width record) :
    Packed start limit width (block :: (record :: next) :: blocks) where
  counted_lt := List.forall_mem_cons.2 ⟨hblock, h.counted_lt⟩
  limit_le := by
    refine List.isChain_cons_cons.2 ⟨?_, h.limit_le⟩
    rintro _ ⟨⟩
    exact hfull

theorem Packed.tail {block : List Nat} {blocks : List (List Nat)}
    (h : Packed start limit width (block :: blocks)) : Packed start limit width blocks where
  counted_lt := (List.forall_mem_cons.1 h.counted_lt).2
  limit_le := h.limit_le.tail

variable {tail : List Slot} (hleading : leadingEntries tail = [])
  (hempty : ∀ block ∈ titleBlocks tail, block = [])

include hleading hempty

/-- Packing entries behind a block that is packed so far gives packed blocks. -/
theorem packed_packTitles (widths : List Nat) (first position : Nat)
    (hwidths : ∀ i, i < widths.length → widths[i]? = some (width (first + i)))
    (block : List Nat) (hposition : position = counted start width block)
    (hblock : 2 ≤ block.length → position < limit) :
    let slots := RowLayout.entrySlots (packTitles start limit position widths).1 first ++ tail
    Packed start limit width ((block ++ leadingEntries slots) :: titleBlocks slots) := by
  subst hposition
  induction widths generalizing first block with
  | nil =>
      show Packed start limit width ((block ++ leadingEntries tail) :: titleBlocks tail)
      rw [hleading, List.append_nil]
      exact packed_cons_of_empty hblock hempty
  | cons w rest ih =>
      have hfirst : w = width first := Option.some.inj (hwidths 0 (Nat.zero_lt_succ _))
      have hrest : ∀ i, i < rest.length → rest[i]? = some (width (first + 1 + i)) := by
        intro i hi
        have hnext := hwidths (i + 1) (Nat.succ_lt_succ hi)
        rwa [List.getElem?_cons_succ, ← Nat.add_assoc, Nat.add_right_comm] at hnext
      intro slots
      by_cases hfits : counted start width block + w < limit
      · -- the entry goes into the block
        have hgrown : counted start width block + w = counted start width (block ++ [first]) := by
          rw [counted_concat, hfirst]
        have hslots : slots = .entry first ::
            (RowLayout.entrySlots (packTitles start limit (counted start width block + w) rest).1
              (first + 1) ++ tail) := by
          simp only [slots, packTitles, if_pos hfits, Prod.map, RowLayout.entrySlots_cons]
          rfl
        rw [hslots, leadingEntries, titleBlocks_entry, List.append_cons, hgrown]
        exact ih (first + 1) hrest (block ++ [first]) fun _ => hgrown ▸ hfits
      · -- the block ends, and the entry begins the next one
        have hsingle : start + w = counted start width [first] := by simp [counted, hfirst]
        have hslots : slots = .title :: .entry first ::
            (RowLayout.entrySlots (packTitles start limit (start + w) rest).1 (first + 1)
              ++ tail) := by
          simp only [slots, packTitles, if_neg hfits, Prod.map, RowLayout.entrySlots_cons]
          rfl
        rw [hslots, leadingEntries_title, titleBlocks, leadingEntries, titleBlocks_entry,
          List.append_nil, hsingle]
        exact (ih (first + 1) hrest [first] nofun).cons hblock (hfirst ▸ Nat.not_lt.1 hfits)

theorem packed_packRow (widths : List Nat) :
    Packed start limit (fun i => widths[i]?.getD 0)
      (titleBlocks (RowLayout.entrySlots (packRow start limit widths).1 0 ++ tail)) := by
  cases widths with
  | nil =>
      have hbehind : Packed start limit (fun i => [][i]?.getD 0) ([] :: titleBlocks tail) :=
        packed_cons_of_empty nofun hempty
      exact hbehind.tail
  | cons w rest =>
      -- packing goes on behind the first entry, which is a block of its own so far
      exact packed_packTitles hleading hempty rest 1 (start + w)
        (fun i hi => by simp [Nat.add_comm 1 i, hi]) [0] (by simp [counted]) nofun

end

namespace RowLayout

/-- The title blocks of a line. -/
def blocks (r : RowLayout) : List (List Nat) := titleBlocks r.slots

theorem leadingEntries_aggregateSlots (r : RowLayout) :
    leadingEntries r.aggregateSlots = [] := by
  unfold aggregateSlots
  split
  · split <;> rfl
  · rfl

theorem eq_nil_of_mem_titleBlocks_aggregateSlots {r : RowLayout} {block : List Nat}
    (h : block ∈ titleBlocks r.aggregateSlots) : block = [] := by
  unfold aggregateSlots at h
  split at h
  · split at h
    · exact List.mem_singleton.1 h
    · cases h
  · cases h

section

variable (titleWidth : Nat) (entryWidths : List Nat) (aggregateWidth : Nat) (aggregated : Bool)
  (separator : String) (o : RowOptions)

theorem packed_blocks_ofWidths (hrepeat : o.repeatTitles = true) :
    Packed (titleWidth + separator.length) o.columns (fun i => entryWidths[i]?.getD 0)
      (ofWidths titleWidth entryWidths aggregateWidth aggregated separator o).blocks := by
  have htitled : (ofWidths titleWidth entryWidths aggregateWidth aggregated separator o).titled =
      (packRow (titleWidth + separator.length) o.columns entryWidths).1 := by
    simp only [ofWidths, hrepeat, if_true]
  rw [blocks, slots_eq, htitled]
  exact packed_packRow (leadingEntries_aggregateSlots _)
    (fun _ hblock => eq_nil_of_mem_titleBlocks_aggregateSlots hblock) entryWidths

end

/-- The parts of a line: its title blocks, and the aggregate. -/
def parts (r : RowLayout) : List (List Slot) :=
  r.blocks.map blockSlots ++ if r.aggregated then [[.aggregate]] else []

theorem slots_eq_flatten_parts {r : RowLayout} (hfirst : leadingEntries r.slots = [])
    (htitled : r.aggregateTitled = true → r.aggregated = true) :
    r.slots = r.parts.flatten := by
  have hslots : r.slots = (entrySlots r.titled 0 ++ if r.aggregateTitled then [.title] else [])
      ++ if r.aggregated then [.aggregate] else [] := by
    rw [slots_eq, aggregateSlots]
    cases haggregated : r.aggregated with
    | true => simp
    | false =>
        have hplain : r.aggregateTitled = false :=
          Bool.eq_false_iff.2 fun h => Bool.noConfusion (haggregated.symm.trans (htitled h))
        simp [hplain]
  generalize hfront : (entrySlots r.titled 0 ++ if r.aggregateTitled then [.title] else []) = front
    at hslots
  have hnone : .aggregate ∉ front := by
    rw [← hfront]
    intro h
    rcases List.mem_append.1 h with h | h
    · obtain ⟨⟨t, i⟩, -, h⟩ := List.mem_flatMap.1 h
      cases t <;> simp at h
    · split at h <;> simp at h
  have hparts : leadingEntries r.slots = leadingEntries front ∧ r.blocks = titleBlocks front := by
    rw [blocks, hslots]
    split
    · exact ⟨leadingEntries_append_aggregate front, titleBlocks_append_aggregate front⟩
    · rw [List.append_nil]
      exact ⟨rfl, rfl⟩
  have hwhole := leadingEntries_append_titleBlocks hnone
  rw [← hparts.1, hfirst, List.map_nil, List.nil_append, ← hparts.2] at hwhole
  rw [parts, List.flatten_append, ← List.flatMap_def, hwhole, hslots]
  split <;> rfl

def partLine (r : RowLayout) (separator : String) (l : Leaf) (part : List Slot) : Line :=
  Line.join (.bold separator) (part.map (r.span l))

/-- How wide a title block is: the title, and each entry behind a separator. -/
def blockWidth (r : RowLayout) (separator : String) (block : List Nat) : Nat :=
  r.titleWidth + Integer.natSum (block.map fun i => separator.length + r.entryWidths[i]?.getD 0)

/-- What the layout counts of a title block: no separators between the entries. -/
def countedWidth (r : RowLayout) (separator : String) (block : List Nat) : Nat :=
  counted (r.titleWidth + separator.length) (fun i => r.entryWidths[i]?.getD 0) block

/-- The separators between the entries are what is not counted. -/
theorem blockWidth_cons (r : RowLayout) (separator : String) (first : Nat) (rest : List Nat) :
    r.blockWidth separator (first :: rest) =
      r.countedWidth separator (first :: rest) + rest.length * separator.length := by
  have hsum : Integer.natSum (rest.map fun i => separator.length + r.entryWidths[i]?.getD 0) =
      rest.length * separator.length +
        Integer.natSum (rest.map fun i => r.entryWidths[i]?.getD 0) := by
    induction rest with
    | nil => simp
    | cons second rest ih =>
        rw [List.map_cons, Integer.natSum_cons, ih, List.map_cons, Integer.natSum_cons,
          List.length_cons, Nat.succ_mul]
        omega
  simp only [blockWidth, countedWidth, counted, List.map_cons, Integer.natSum_cons, hsum]
  omega

/-- A line that begins with a title is its parts with a separator between them. -/
theorem line_eq_intercalate {r : RowLayout} (hfirst : leadingEntries r.slots = [])
    (htitled : r.aggregateTitled = true → r.aggregated = true) (separator : String) (l : Leaf) :
    r.line separator l =
      [Span.bold separator].intercalate (r.parts.map (r.partLine separator l)) := by
  have hparts : ∀ part ∈ r.parts.map (List.map (r.span l)), part ≠ [] := by
    intro part hpart
    obtain ⟨slots, hmem, rfl⟩ := List.mem_map.1 hpart
    rcases List.mem_append.1 hmem with hmem | hmem
    · obtain ⟨block, -, rfl⟩ := List.mem_map.1 hmem
      exact List.cons_ne_nil _ _
    · split at hmem
      · rw [List.mem_singleton.1 hmem]
        exact List.cons_ne_nil _ _
      · cases hmem
  rw [line, Line.join, slots_eq_flatten_parts hfirst htitled, List.map_flatten,
    intersperse_flatten _ hparts, List.map_map]
  rfl

/-- Cells with a separator between them are as wide as the first of them and each other one with a
separator. -/
theorem length_text_join_cons (separator cell : Span) (cells : List Span) :
    (Line.text (Line.join separator (cell :: cells))).length =
      cell.text.length +
        Integer.natSum (cells.map fun c => separator.text.length + c.text.length) := by
  induction cells generalizing cell with
  | nil => simp [Line.text, Line.join, String.join_cons]
  | cons second rest ih =>
      have hjoin : Line.join separator (cell :: second :: rest) =
          cell :: separator :: Line.join separator (second :: rest) := rfl
      have htext : Line.text (Line.join separator (cell :: second :: rest)) =
          cell.text ++ (separator.text ++ Line.text (Line.join separator (second :: rest))) := by
        rw [hjoin, Line.text_cons, Line.text_cons]
      rw [htext, String.length_append, String.length_append, ih, List.map_cons, Integer.natSum_cons]
      omega

/-- A title block is as wide as its parts if these are no wider than the layout makes them. -/
theorem length_text_partLine {r : RowLayout} {l : Leaf} {block : List Nat}
    (htitle : l.column.title.length ≤ r.titleWidth)
    (hentries : ∀ i ∈ block, (l.entry i).text.length ≤ r.entryWidths[i]?.getD 0)
    (separator : String) :
    (r.partLine separator l (blockSlots block)).text.length = r.blockWidth separator block := by
  have hwidth : (r.titleSpan l).text.length = r.titleWidth := by
    rw [text_titleSpan, String.length_append, Text.length_blanks]
    omega
  have hcells : (block.map .entry).map (r.span l) = block.map (r.entrySpan l) := by
    rw [List.map_map]
    rfl
  rw [partLine, blockSlots, List.map_cons, hcells, length_text_join_cons, List.map_map]
  show (r.titleSpan l).text.length + _ = _
  rw [hwidth, blockWidth]
  congr 2
  refine List.map_congr_left fun i hi => ?_
  show separator.length + (r.entrySpan l i).text.length = _
  rw [length_entrySpan, Nat.max_eq_left (hentries i hi)]

end RowLayout

/-! ### Widths -/

theorem le_foldl_max (start : Nat) (widths : List Nat) : start ≤ widths.foldl max start := by
  induction widths generalizing start with
  | nil => exact Nat.le_refl start
  | cons first rest ih => exact Nat.le_trans (Nat.le_max_left start first) (ih _)

theorem le_foldl_max_of_mem {widths : List Nat} {w : Nat} (h : w ∈ widths) (start : Nat) :
    w ≤ widths.foldl max start := by
  induction widths generalizing start with
  | nil => cases h
  | cons first rest ih =>
      rcases List.mem_cons.1 h with rfl | h
      · exact Nat.le_trans (Nat.le_max_right start w) (le_foldl_max _ rest)
      · exact ih h _

theorem le_widest_map {ls : List Leaf} {l : Leaf} (hl : l ∈ ls) (width : Leaf → Nat) :
    width l ≤ widest (ls.map width) :=
  le_foldl_max_of_mem (List.mem_map_of_mem hl) 0

section

variable {s : Sheet} {o : RowOptions} {ls : List Leaf}

theorem leadingEntries_slots_rowLayout : leadingEntries (s.rowLayout o ls).slots = [] := by
  unfold rowLayout RowLayout.of
  rw [RowLayout.slots_eq]
  cases widestEntries ls s.recordCount with
  | nil =>
      rw [RowLayout.titled_ofWidths_nil]
      exact RowLayout.leadingEntries_aggregateSlots _
  | cons width rest =>
      obtain ⟨titled, htitled⟩ := RowLayout.titled_ofWidths_cons (widestTitle ls)
        (widestAggregate ls) (ls.any Leaf.hasAggregate) s.declaration.separator o width rest
      rw [htitled, RowLayout.entrySlots_cons]
      rfl

theorem lt_recordCount_of_mem_block {block : List Nat}
    (hblock : block ∈ (s.rowLayout o ls).blocks) {i : Nat} (hi : i ∈ block) :
    i < s.recordCount :=
  lt_recordCount_of_entry_mem_slots (entry_mem_of_mem_titleBlocks hblock hi)

theorem length_text_partLine_rowLayout {l : Leaf} (hl : l ∈ ls) {block : List Nat}
    (hblock : block ∈ (s.rowLayout o ls).blocks) (separator : String) :
    ((s.rowLayout o ls).partLine separator l (blockSlots block)).text.length =
      (s.rowLayout o ls).blockWidth separator block := by
  refine RowLayout.length_text_partLine ?_ (fun i hi => ?_) separator
  · exact le_widest_map hl fun l => l.column.title.length
  · have hwidth : (s.rowLayout o ls).entryWidths[i]? =
        some (widest (ls.map fun l => (l.entry i).text.length)) := by
      show (widestEntries ls s.recordCount)[i]? = _
      simp [widestEntries, lt_recordCount_of_mem_block hblock hi]
    rw [hwidth]
    exact le_widest_map hl fun l => (l.entry i).text.length

end

/-- Whether the title blocks of a sheet fit the terminal: in every line, each has one entry or is
no wider than it. -/
def FitsTerminal (s : Sheet) (o : RowOptions) (ls : List Leaf) : Prop :=
  ∀ l ∈ s.lineLeaves o ls, ∀ block ∈ (s.rowLayout o ls).blocks, block.length = 1 ∨
    (((s.rowLayout o ls).partLine s.declaration.separator l (blockSlots block)).render
      false).length ≤ o.columns

/-- How the lines of a sheet fall into title blocks.  A block of several entries is below the width
of the terminal without the separators between its entries, so it may exceed it by as much as these
take; the next block begins with the entry that would have reached the width; and whether the blocks
fit is the same for all lines. -/
structure PacksBlocks (s : Sheet) (o : RowOptions) (ls : List Leaf) : Prop where
  text_eq : rowText? s o = .ok (some (Text.renderLines false
    (s.linesAbove (s.rowWidth (s.rowLayout o ls) (widestAggregate ls))
      ++ (s.lineLeaves o ls).map (fun l => [Span.bold s.declaration.separator].intercalate
        ((s.rowLayout o ls).parts.map
          ((s.rowLayout o ls).partLine s.declaration.separator l)))
      ++ [countLine (s.lineLeaves o ls).length])))
  length_eq : ∀ l ∈ s.lineLeaves o ls, ∀ block ∈ (s.rowLayout o ls).blocks,
    (((s.rowLayout o ls).partLine s.declaration.separator l (blockSlots block)).render
      false).length = (s.rowLayout o ls).blockWidth s.declaration.separator block
  counted_lt : ∀ block ∈ (s.rowLayout o ls).blocks, 2 ≤ block.length →
    (s.rowLayout o ls).countedWidth s.declaration.separator block < o.columns
  columns_le : (s.rowLayout o ls).blocks.IsChain fun block next => ∀ i, next.head? = some i →
    o.columns ≤ (s.rowLayout o ls).countedWidth s.declaration.separator block +
      (s.rowLayout o ls).entryWidths[i]?.getD 0
  width_lt : ∀ block ∈ (s.rowLayout o ls).blocks, 2 ≤ block.length →
    (s.rowLayout o ls).blockWidth s.declaration.separator block <
      o.columns + (block.length - 1) * s.declaration.separator.length
  fits_iff : FitsTerminal s o ls ↔ s.lineLeaves o ls = [] ∨
    ∀ block ∈ (s.rowLayout o ls).blocks, block.length = 1 ∨
      (s.rowLayout o ls).blockWidth s.declaration.separator block ≤ o.columns

/-- **Without the separators between its entries a block of several entries stays below the width
of the terminal, and the blocks fit it exactly if there is room for these separators too.** -/
theorem rowText?_packsBlocks {s : Sheet} {ls : List Leaf}
    (hleaves : leaves s.visibleFields = .ok ls) (hvisible : ls ≠ []) (hgroup : s.groups.length = 1)
    {o : RowOptions} (hrepeat : o.repeatTitles = true) (hcolor : o.color = false) :
    PacksBlocks s o ls := by
  have hwidth : ∀ l ∈ s.lineLeaves o ls, ∀ block ∈ (s.rowLayout o ls).blocks,
      (((s.rowLayout o ls).partLine s.declaration.separator l (blockSlots block)).render
        false).length = (s.rowLayout o ls).blockWidth s.declaration.separator block := by
    intro l hl block hblock
    rw [Line.render_plain]
    exact length_text_partLine_rowLayout (mem_of_mem_lineLeaves hl) hblock _
  have hpacked := RowLayout.packed_blocks_ofWidths (widestTitle ls)
    (widestEntries ls s.recordCount) (widestAggregate ls) (ls.any Leaf.hasAggregate)
    s.declaration.separator o hrepeat
  refine ⟨?text, hwidth, hpacked.counted_lt, hpacked.limit_le,
    fun block hblock hseveral => ?below, ?fits⟩
  case text =>
    have hlines : (s.rowLayout o ls).line s.declaration.separator = fun l =>
        [Span.bold s.declaration.separator].intercalate ((s.rowLayout o ls).parts.map
          ((s.rowLayout o ls).partLine s.declaration.separator l)) :=
      funext fun l => RowLayout.line_eq_intercalate leadingEntries_slots_rowLayout
        (RowLayout.aggregated_of_aggregateTitled _ _ _ _ _ _) _ l
    rw [rowText?_eq, rowLines?_of_leaves hleaves hvisible hgroup, hcolor, hlines]
    rfl
  case below =>
    have hentries : block ≠ [] := by
      rintro rfl
      cases hseveral
    obtain ⟨first, rest, rfl⟩ := List.exists_cons_of_ne_nil hentries
    rw [RowLayout.blockWidth_cons]
    exact Nat.add_lt_add_right (hpacked.counted_lt _ hblock hseveral) _
  case fits =>
    constructor
    · intro hfits
      cases hlines : s.lineLeaves o ls with
      | nil => exact .inl rfl
      | cons l more =>
          have hl : l ∈ s.lineLeaves o ls := hlines ▸ List.mem_cons_self
          exact .inr fun block hblock => (hfits l hl block hblock).imp_right fun h =>
            hwidth l hl block hblock ▸ h
    · rintro (hnone | hall) l hl block hblock
      · rw [hnone] at hl
        cases hl
      · rw [hwidth l hl block hblock]
        exact hall block hblock

def listedNodes : Declaration where
  fields := [.column { title := "N", projector := .rowKey }]

def threeNodes : Sources :=
  .ofList [("svc", .ofList [("a", .value .null), ("b", .value .null), ("c", .value .null)])]

def threeNodesSheet : Sheet := build listedNodes "Nodes" threeNodes

/-- With room for two nodes behind a title three nodes fall into two blocks, which fit. -/
theorem rowText?_packsBlocks_threeNodes :
    ∃ l, leaves threeNodesSheet.visibleFields = .ok [l] ∧ threeNodesSheet.groups.length = 1 ∧
      FitsTerminal threeNodesSheet { repeatTitles := true, columns := 5 } [l] ∧
      rowText? threeNodesSheet { repeatTitles := true, columns := 5 } =
        .ok (some "~ Nodes ~~\nN|a|b|N|c\nNumber of rows: 1\n") := by
  refine ⟨_, rfl, rfl, ?_, rfl⟩
  have hpacked := rowText?_packsBlocks
    (show leaves threeNodesSheet.visibleFields = .ok [_] from rfl) (List.cons_ne_nil _ _)
    (show threeNodesSheet.groups.length = 1 from rfl)
    (o := { repeatTitles := true, columns := 5 }) rfl rfl
  refine hpacked.fits_iff.2 (.inr ?_)
  show ∀ block ∈ [[0, 1], [2]], _
  exact List.forall_mem_cons.2 ⟨.inr (Nat.le_refl 5), List.forall_mem_singleton.2 (.inl rfl)⟩

/-- **A block does not fit the terminal**: behind a title of one character three entries of one
character each are put into a block of seven characters when there is room for six. -/
theorem not_fitsTerminal_threeNodes :
    ∃ l, leaves threeNodesSheet.visibleFields = .ok [l] ∧ threeNodesSheet.groups.length = 1 ∧
      ¬ FitsTerminal threeNodesSheet { repeatTitles := true, columns := 6 } [l] ∧
      rowText? threeNodesSheet { repeatTitles := true, columns := 6 } =
        .ok (some " Nodes ~\nN|a|b|c\nNumber of rows: 1\n") := by
  refine ⟨_, rfl, rfl, fun hfits => ?_, rfl⟩
  rcases hfits _ List.mem_cons_self [0, 1, 2] List.mem_cons_self with hone | hwide
  · exact absurd hone (by decide)
  · exact absurd (show 7 ≤ 6 from hwide) (by decide)

end ClusterReport.Sheet
