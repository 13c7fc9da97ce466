/-
**Color adds nothing but styles.**

Colored parts of a sheet are put together by code of their own: titles are filled up after they are
underlined, the other cells before they get their colors, and the joiners are bold.  So are the
headings and the names in a summary.  Taking the control sequences out of the colored text
nevertheless leaves the text without color, character by character, for every sheet and every size
of the terminal, and for every summary.  Only the texts that are shown must not hold escape
characters themselves.  Whether a sheet can be laid out does not depend on color at all.

Main definitions:

* `ClusterReport.Sheet.IsPlain`, `ClusterReport.Summary.IsPlain` — whether the texts that are shown
  have no escape characters.

Main results:

* `ClusterReport.Sheet.isPlain_of_mem_rowLines?`, `ClusterReport.Summary.isPlain_of_mem_view` — the
  lines then have none either;
* `ClusterReport.Summary.viewText_eq` — the text of a summary is that of its styled lines;
* `ClusterReport.Report.withoutStyles_colored` — **without its control sequences the colored text is
  the text without color**.
-/

import ClusterReport.Proofs.Sheet.RowStyle
import ClusterReport.Proofs.Text.Stripped
import ClusterReport.Summary.View

set_option relaxedAutoImplicit false
set_option autoImplicit false

namespace ClusterReport

open Text (Line Span)

/-! ### Sheets -/

namespace Sheet

/-- Neither the title of a column nor what it shows of records and as aggregates has an escape
character. -/
structure Leaf.IsPlain (l : Leaf) : Prop where
  title : Text.IsPlain l.column.title
  cells : ∀ g ∈ l.shown, ∀ cell ∈ g.cells, Text.IsPlain cell.text
  aggregates : ∀ g ∈ l.shown, Text.IsPlain g.aggregate

/-- None of the texts that a sheet shows has an escape character. -/
structure IsPlain (s : Sheet) : Prop where
  title : Text.IsPlain s.title
  description : ∀ text ∈ s.description, Text.IsPlain text
  separator : Text.IsPlain s.declaration.separator
  columns : ∀ l, .leaf l ∈ s.visibleFields → l.IsPlain

theorem Leaf.IsPlain.entry {l : Leaf} (h : l.IsPlain) (record : Nat) :
    Text.IsPlain (l.entry record).text := by
  unfold Leaf.entry
  cases hcell : l.shown.head?.bind fun g => g.cells[record]? with
  | none => exact show Text.IsPlain "" by decide
  | some cell =>
      obtain ⟨g, hg, hcell⟩ := Option.bind_eq_some_iff.1 hcell
      exact h.cells g (List.mem_of_head? hg) cell (List.mem_of_getElem? hcell)

theorem Leaf.IsPlain.aggregateText {l : Leaf} (h : l.IsPlain) :
    Text.IsPlain l.aggregateText := by
  have hempty : Text.IsPlain "" := by decide
  unfold Leaf.aggregateText
  split
  · cases hg : l.shown.head? with
    | none => exact hempty
    | some g => exact h.aggregates g (List.mem_of_head? hg)
  · exact hempty

theorem isPlain_aligned {a : Align} {width : Nat} {s : String} (h : Text.IsPlain s) :
    Text.IsPlain (RowLayout.aligned a width s) := by
  cases a
  · exact Text.isPlain_padEnd.2 h
  · exact Text.isPlain_padStart.2 h
  · exact Text.isPlain_padBoth.2 h

theorem Leaf.IsPlain.slotText {l : Leaf} (h : l.IsPlain) (r : RowLayout) (slot : Slot) :
    Text.IsPlain (r.slotText false l slot) := by
  cases slot with
  | title => exact Text.isPlain_padEnd.2 h.title
  | entry record => exact isPlain_aligned (h.entry record)
  | aggregate =>
      rw [RowLayout.slotText, RowLayout.aggregateCell]
      split
      · exact show Text.IsPlain "" by decide
      · exact isPlain_aligned h.aggregateText

theorem IsPlain.of_mem_linesAbove {s : Sheet} (h : s.IsPlain) {width : Nat} {line : Line}
    (hline : line ∈ s.linesAbove width) : Text.IsPlain line.text := by
  rw [linesAbove, List.mem_cons] at hline
  rcases hline with rfl | hline
  case inl =>
    rw [Line.heading, Line.isPlain_text, List.forall_mem_singleton]
    refine (Text.isPlain_surround (by decide)).2 ?_
    rw [Text.isPlain_append, Text.isPlain_append]
    exact ⟨⟨by decide, h.title⟩, by decide⟩
  case inr =>
    obtain ⟨text, htext, rfl⟩ := List.mem_map.1 hline
    rw [Line.isPlain_text, List.forall_mem_singleton]
    unfold descriptionLines at htext
    split at htext
    case h_1 whole hwhole =>
      exact Text.not_mem_of_mem_wrap (by decide) (h.description whole hwhole) htext
    case h_2 => cases htext

/-- The lines of a sheet are plain if the texts that it shows are. -/
theorem isPlain_of_mem_rowLines? {s : Sheet} (h : s.IsPlain) {o : RowOptions} {lines : List Line}
    (hlines : rowLines? s o = .ok (some lines)) {line : Line} (hline : line ∈ lines) :
    Text.IsPlain line.text := by
  obtain ⟨ls, hleaves, rfl⟩ := exists_leaves_of_rowLines? hlines
  rw [List.mem_append, List.mem_append, List.mem_singleton] at hline
  rcases hline with (hline | hline) | rfl
  case inl.inl => exact h.of_mem_linesAbove hline
  case inl.inr =>
    obtain ⟨l, hl, rfl⟩ := List.mem_map.1 hline
    have hplain : l.IsPlain :=
      h.columns l (leaf_mem_of_leaves hleaves (mem_of_mem_lineLeaves hl))
    rw [← Line.render_plain, ← RowLayout.lineText_eq]
    refine Text.isPlain_intercalate h.separator fun text htext => ?_
    obtain ⟨slot, -, rfl⟩ := List.mem_map.1 htext
    exact hplain.slotText _ slot
  case inr =>
    rw [countLine, Line.isPlain_text, List.forall_mem_singleton]
    exact Text.isPlain_append.2 ⟨by decide, Text.isPlain_nat _⟩

theorem rowText?_color (s : Sheet) (o : RowOptions) (color : Bool) :
    rowText? s { o with color } = (rowLines? s o).map (Option.map (Text.renderLines color)) :=
  rowText?_eq s { o with color }

theorem map_withoutStyles_rowText? {s : Sheet} (h : s.IsPlain) (o : RowOptions) :
    (rowText? s { o with color := true }).map (Option.map Text.withoutStyles) =
      rowText? s { o with color := false } := by
  rw [rowText?_color, rowText?_color]
  cases hlines : rowLines? s o with
  | error e => rfl
  | ok shown =>
      cases shown with
      | none => rfl
      | some lines =>
          refine congrArg (fun text => Except.ok (some text)) ?_
          exact Text.withoutStyles_renderLines fun line => isPlain_of_mem_rowLines? h hlines

/-- Whether a sheet has a text, or why not, does not depend on color. -/
theorem map_isSome_rowText? (s : Sheet) (o : RowOptions) (color : Bool) :
    (rowText? s { o with color }).map Option.isSome = (rowLines? s o).map Option.isSome := by
  rw [rowText?_color]
  cases rowLines? s o with
  | error e => rfl
  | ok shown => cases shown <;> rfl

end Sheet

/-! ### Numbers in summaries -/

theorem ByteSize.isPlain_toText (bytes : Int) : Text.IsPlain (ByteSize.toText bytes) := by
  have hsuffix : ∀ unit ∈ ByteSize.units, Text.IsPlain unit.2 := by decide
  have hnumber := Text.isPlain_int
  unfold ByteSize.toText
  cases hunit : ByteSize.units.find? fun unit => unit.1 ≤ bytes with
  | none => exact Text.isPlain_append.2 ⟨hnumber _, by decide⟩
  | some unit =>
      exact Text.isPlain_append.2 ⟨hnumber _, hsuffix unit (List.mem_of_find?_eq_some hunit)⟩

theorem Binary64.isPlain_toFixed (places : Nat) (x : Binary64) :
    Text.IsPlain (x.toFixed places) := by
  have hsigned : ∀ (negative : Bool) (text : List Char), '\x1b' ∉ text →
      Text.IsPlain (signed negative text) := by
    intro negative text h
    rw [signed, Text.IsPlain, String.toList_ofList]
    cases negative
    · exact h
    · exact List.not_mem_cons_of_ne_of_not_mem (by decide) h
  have hdigits := Integer.not_mem_toDigits (c := '\x1b') (by decide)
  cases x with
  | nonNumber negative payload => exact show Text.IsPlain "NaN" by decide
  | infinite negative => exact hsigned negative _ (by decide)
  | finite negative units h =>
      refine hsigned negative _ ?_
      rw [List.mem_append, not_or]
      refine ⟨hdigits _, ?_⟩
      split
      · exact List.not_mem_nil
      · refine List.not_mem_cons_of_ne_of_not_mem (by decide) ?_
        rw [List.mem_append, not_or]
        exact ⟨fun h => absurd (List.eq_of_mem_replicate h) (by decide), hdigits _⟩

theorem Timestamp.isPlain_toText (t : Timestamp) : Text.IsPlain t.toText := by
  have hpadded : ∀ digits n, Text.IsPlain (padded digits n) := by
    intro digits n
    rw [padded, Text.IsPlain, String.toList_ofList, List.mem_append, not_or]
    exact ⟨fun h => absurd (List.eq_of_mem_replicate h) (by decide),
      Integer.not_mem_toDigits (by decide) n⟩
  have hpoint : ∀ digits n, Text.IsPlain ("." ++ padded digits n) := fun digits n =>
    Text.isPlain_append.2 ⟨by decide, hpadded digits n⟩
  have hfraction : Text.IsPlain (fractionText t.nanosecond) := by
    unfold fractionText
    split
    · decide
    · split
      · exact hpoint _ _
      · split <;> exact hpoint _ _
  have hsign : Text.IsPlain (if t.offset < 0 then "-" else "+") := by
    split <;> decide
  rw [toText, textWith, offsetText]
  simp only [Text.isPlain_append, hpadded, hfraction, hsign, and_true, true_and]
  decide

/-! ### Summaries -/

namespace Summary

/-- None of the names and words that a summary shows has an escape character. -/
structure IsPlain (s : Summary) : Prop where
  names : ∀ name ∈ s.cluster.names, Text.IsPlain name
  serverVersions : ∀ version ∈ s.cluster.serverVersions, Text.IsPlain version
  systems : ∀ system ∈ s.cluster.systems, Text.IsPlain system
  activeFeatures : ∀ feature ∈ s.cluster.activeFeatures, Text.IsPlain feature
  namespaces : ∀ name ∈ s.namespaces.keys, Text.IsPlain name

/-- An entry without escape characters. -/
def Item.IsPlain (i : Item) : Prop := Text.IsPlain i.1 ∧ Text.IsPlain i.2

theorem isPlain_item {name value : String} (hname : Text.IsPlain name)
    (hvalue : Text.IsPlain value) : Item.IsPlain (name, value) := ⟨hname, hvalue⟩

theorem isPlain_storageText (u : StorageUsage) : Text.IsPlain (storageText u) := by
  unfold storageText
  simp only [Text.isPlain_append, ByteSize.isPlain_toText, Binary64.isPlain_toFixed, and_true]
  decide

theorem isPlain_licenseText (u : LicenseUsage) : Text.IsPlain (licenseText u) := by
  have hempty : Text.IsPlain "" := by decide
  unfold licenseText
  simp only [Text.isPlain_append, ByteSize.isPlain_toText, and_true]
  refine ⟨⟨by decide, ?time⟩, ?samples⟩
  case time =>
    split
    · exact Text.isPlain_append.2 ⟨by decide, Timestamp.isPlain_toText _⟩
    · exact hempty
  case samples =>
    split
    · simp only [Text.isPlain_append, ByteSize.isPlain_toText, and_true]
      decide
    · exact hempty

theorem isPlain_devicesText (total perNode : Int) (same : Bool) :
    Text.IsPlain (devicesText total perNode same) := by
  unfold devicesText
  simp only [Text.isPlain_append, Text.isPlain_int, and_true]
  cases same <;> decide

theorem isPlain_joined {values : List String} (h : ∀ value ∈ values, Text.IsPlain value) :
    Text.IsPlain (joined values) := Text.isPlain_intercalate (by decide) h

theorem isPlain_joined_int (values : List Int) : Text.IsPlain (joined (values.map toString)) := by
  refine isPlain_joined fun value hvalue => ?_
  obtain ⟨n, -, rfl⟩ := List.mem_map.1 hvalue
  exact Text.isPlain_int n

theorem isPlain_of_mem_ite {c : Prop} [Decidable c] {item : Item} (h : item.IsPlain) :
    ∀ i ∈ if c then [item] else [], i.IsPlain := by
  split
  · exact List.forall_mem_singleton.2 h
  · exact List.forall_mem_nil _

theorem isPlain_of_mem_storageItem {name : String} (hname : Text.IsPlain name)
    (u : Option StorageUsage) : ∀ i ∈ storageItem name u, i.IsPlain := by
  cases u with
  | none => exact List.forall_mem_nil _
  | some u => exact List.forall_mem_singleton.2 (isPlain_item hname (isPlain_storageText u))

theorem IsPlain.clusterEntries {s : Summary} (h : s.IsPlain) :
    ∀ i ∈ clusterEntries s.cluster, i.IsPlain := by
  have hcounts : Text.IsPlain (toString s.cluster.activeNamespaces ++ " of " ++
      toString s.cluster.namespaceCount) := by
    simp only [Text.isPlain_append, Text.isPlain_nat, and_true, true_and]
    decide
  unfold Summary.clusterEntries
  simp only [List.forall_mem_append, List.forall_mem_cons]
  refine ⟨⟨⟨⟨⟨⟨⟨?names, ?nodes⟩, isPlain_of_mem_storageItem (by decide) _⟩,
    isPlain_of_mem_storageItem (by decide) _⟩, isPlain_of_mem_storageItem (by decide) _⟩,
    isPlain_of_mem_storageItem (by decide) _⟩, ?usage⟩, ?migrations⟩
  case names =>
    split
    · exact List.forall_mem_nil _
    · exact List.forall_mem_singleton.2 (isPlain_item (by decide) (isPlain_joined h.names))
  case nodes =>
    exact ⟨isPlain_item (by decide) (isPlain_joined h.serverVersions),
      isPlain_item (by decide) (isPlain_joined h.systems),
      isPlain_item (by decide) (isPlain_joined_int _),
      isPlain_item (by decide) (isPlain_devicesText _ _ _),
      isPlain_item (by decide) (isPlain_storageText _), List.forall_mem_nil _⟩
  case usage =>
    exact ⟨isPlain_item (by decide) (isPlain_licenseText _), isPlain_item (by decide) hcounts,
      isPlain_item (by decide) (isPlain_joined h.activeFeatures), List.forall_mem_nil _⟩
  case migrations => exact isPlain_of_mem_ite (isPlain_item (by decide) (by decide))

theorem isPlain_of_mem_namespaceEntries (n : NamespaceSummary) :
    ∀ i ∈ namespaceEntries n, i.IsPlain := by
  have haware : Text.IsPlain (if n.rackAware then "True" else "False") := by
    split <;> decide
  unfold namespaceEntries
  simp only [List.forall_mem_append, List.forall_mem_cons]
  refine ⟨⟨⟨⟨⟨⟨⟨⟨⟨?devices, ?memory⟩, isPlain_of_mem_storageItem (by decide) _⟩,
    isPlain_of_mem_storageItem (by decide) _⟩, ?index⟩, ?usage⟩, ?compression⟩, ?cache⟩,
    ?objects⟩, ?migrations⟩
  case devices => exact isPlain_of_mem_ite (isPlain_item (by decide) (isPlain_devicesText _ _ _))
  case memory => exact ⟨isPlain_item (by decide) (isPlain_storageText _), List.forall_mem_nil _⟩
  case index =>
    cases n.indexType
    · exact List.forall_mem_nil _
    · exact isPlain_of_mem_storageItem (by decide) _
    · exact isPlain_of_mem_storageItem (by decide) _
  case usage =>
    exact ⟨isPlain_item (by decide) (isPlain_licenseText _),
      isPlain_item (by decide) (isPlain_joined_int _), isPlain_item (by decide) haware,
      List.forall_mem_nil _⟩
  case compression =>
    cases n.compressionRatio with
    | none => exact List.forall_mem_nil _
    | some ratio =>
        exact List.forall_mem_singleton.2
          (isPlain_item (by decide) (Binary64.isPlain_toFixed 3 ratio))
  case cache =>
    cases n.cacheReadPercent with
    | none => exact List.forall_mem_nil _
    | some share =>
        have hshare : Text.IsPlain (toString share ++ " %") :=
          Text.isPlain_append.2 ⟨Text.isPlain_int share, by decide⟩
        exact List.forall_mem_singleton.2 (isPlain_item (by decide) hshare)
  case objects => exact ⟨isPlain_item (by decide) (Text.isPlain_int _), List.forall_mem_nil _⟩
  case migrations => exact isPlain_of_mem_ite (isPlain_item (by decide) (by decide))

/-- Numbered entries are the same text as spans. -/
theorem renderLines_entryLines (color : Bool) (indent : String) (entries : List Item) :
    Text.renderLines color (entryLines indent entries) = entriesText color indent entries := by
  rw [Text.renderLines, entryLines, entriesText, List.map_map]
  refine congrArg String.join (List.map_congr_left fun e _ => ?_)
  obtain ⟨⟨name, value⟩, i⟩ := e
  rw [Function.comp_apply, Line.render_cons, Line.render_cons, Line.render_singleton]
  simp only [entryText, Span.bold, Span.render]
  cases color
  case false => simp only [Bool.false_eq_true, if_false, String.append_assoc]
  case true => simp only [if_true, String.append_assoc]

/-- **The text of a summary is that of its styled lines.** -/
theorem viewText_eq (color : Bool) (s : Summary) :
    s.viewText color = Text.renderLines color s.view := by
  have hbold : ∀ text : String, Line.render color [.bold text] ++ "\n" =
      if color then Text.Style.bold.wrap text ++ "\n" else text ++ "\n" := by
    intro text
    rw [Line.render_singleton]
    cases color <;> rfl
  have hheading : ∀ title : String, (Line.heading lineWidth title).render color ++ "\n" =
      headingText color title := fun title => hbold _
  have hnamespace : ∀ e : String × NamespaceSummary, Text.renderLines color
      ([.bold e.1] :: entryLines "   " (namespaceEntries e.2)) =
        namespaceText color e.1 e.2 := by
    intro e
    rw [Text.renderLines_cons, hbold, renderLines_entryLines, namespaceText]
  have hempty : Text.renderLines color [[]] = "\n" := rfl
  rw [viewText, view, List.cons_append, Text.renderLines_cons, Text.renderLines_append, hheading,
    renderLines_entryLines, ← String.append_assoc]
  cases s.namespaces.isEmpty with
  | true => rfl
  | false =>
      rw [if_neg Bool.false_ne_true, if_neg Bool.false_ne_true, Text.renderLines_append, hempty,
        Text.renderLines_cons, hheading, Text.renderLines_flatMap]
      simp only [hnamespace, String.append_assoc]

theorem isPlain_of_mem_entryLines {indent : String} (hindent : Text.IsPlain indent)
    {entries : List Item} (h : ∀ i ∈ entries, i.IsPlain) {line : Line}
    (hline : line ∈ entryLines indent entries) : Text.IsPlain line.text := by
  obtain ⟨⟨entry, i⟩, hmem, rfl⟩ := List.mem_map.1 hline
  obtain ⟨hname, hvalue⟩ := h entry (List.fst_mem_of_mem_zipIdx hmem)
  have hnumber : Text.IsPlain (indent ++ Text.padStart 2 (toString (i + 1)) ++ ". ") := by
    simp only [Text.isPlain_append, Text.isPlain_padStart, Text.isPlain_nat, hindent, true_and]
    decide
  rw [Line.isPlain_text]
  simp only [List.forall_mem_cons]
  exact ⟨hnumber, Text.isPlain_padEnd.2 hname, Text.isPlain_append.2 ⟨by decide, hvalue⟩,
    List.forall_mem_nil _⟩

/-- The lines of a summary are plain if the names and words that it shows are. -/
theorem isPlain_of_mem_view {s : Summary} (h : s.IsPlain) {line : Line} (hline : line ∈ s.view) :
    Text.IsPlain line.text := by
  rw [view, List.cons_append, List.mem_cons, List.mem_append] at hline
  rcases hline with rfl | hline | hline
  case inl => decide
  case inr.inl => exact isPlain_of_mem_entryLines (by decide) h.clusterEntries hline
  case inr.inr =>
    split at hline
    · cases hline
    · rw [List.singleton_append, List.mem_cons, List.mem_cons, List.mem_flatMap] at hline
      rcases hline with rfl | rfl | ⟨⟨name, n⟩, hname, hline⟩
      · decide
      · decide
      · rcases List.mem_cons.1 hline with rfl | hline
        · rw [Line.isPlain_text, List.forall_mem_singleton]
          exact h.namespaces name (List.mem_map_of_mem hname)
        · exact isPlain_of_mem_entryLines (by decide) (isPlain_of_mem_namespaceEntries n) hline

end Summary

/-! ### Color -/

namespace Report

/-- **Without its control sequences the colored text is the text without color**, for a sheet of
any terminal size and for a summary, if what they show has no escape characters.  With color and
without it a sheet has no text, or cannot be laid out for the same reason. -/
theorem withoutStyles_colored (sheet : Sheet) (o : Sheet.RowOptions) (summary : Summary) :
    (sheet.rowText? { o with color := true }).map Option.isSome =
        (sheet.rowText? { o with color := false }).map Option.isSome ∧
      (sheet.IsPlain →
        (sheet.rowText? { o with color := true }).map (Option.map Text.withoutStyles) =
          sheet.rowText? { o with color := false }) ∧
      (summary.IsPlain →
        Text.withoutStyles (summary.viewText true) = summary.viewText false) := by
  refine ⟨?presence, ?sheet, ?summary⟩
  case presence => rw [Sheet.map_isSome_rowText?, Sheet.map_isSome_rowText?]
  case sheet => exact fun hplain => Sheet.map_withoutStyles_rowText? hplain o
  case summary =>
    intro hplain
    rw [Summary.viewText_eq, Summary.viewText_eq]
    exact Text.withoutStyles_renderLines fun _ => Summary.isPlain_of_mem_view hplain

/-- Nodes with their objects, of which ten are alarming, and their sum. -/
def nodeObjects : Sheet.Declaration where
  fields := [.column { title := "Node", projector := .rowKey },
    .column { title := "Objects", projector := .number "svc" ["objects"], align := .right
              aggregator := some { reduction := .sum }
              highlights := [{ emphasis := .alert, applies := fun s => s.value == .int 10 }] }]

/-- Two nodes with objects, and one whose objects are no number. -/
def threeNodeObjects : Sheet.Sources :=
  .ofList [("svc", .ofList [("a", .value (.object [("objects", .int 3)])),
    ("bb", .value (.object [("objects", .int 10)])),
    ("c", .value (.object [("objects", .str "x")]))])]

def nodeObjectsSheet : Sheet := Sheet.build nodeObjects "Objects" threeNodeObjects

/-- A summary with a version, two features and a namespace. -/
def oneNamespace : Summary where
  cluster := { serverVersions := ["E-6.2.0.3"], activeFeatures := ["KVS", "Scan"] }
  namespaces := .ofList [("test", {})]

/-- An alarming number, an error and an aggregate lose their styles and nothing else. -/
theorem withoutStyles_colored_nodeObjects :
    nodeObjectsSheet.IsPlain ∧ oneNamespace.IsPlain ∧
      nodeObjectsSheet.rowText? { color := true } = .ok (some ("\x1b[1m~~~~ Objects ~~~~~\x1b[0m\n"
        ++ "\x1b[1mNode   \x1b[0m\x1b[1m|\x1b[0ma\x1b[1m|\x1b[0mbb\x1b[1m|\x1b[0mc \x1b[1m|\x1b[0m\n"
        ++ "\x1b[1mObjects\x1b[0m\x1b[1m|\x1b[0m3\x1b[1m|\x1b[0m"
        ++ "\x1b[1m\x1b[31m10\x1b[39m\x1b[0m\x1b[1m|\x1b[0m\x1b[35m~~\x1b[39m\x1b[1m|\x1b[0m"
        ++ "\x1b[34m~~\x1b[39m\nNumber of rows: 2\n")) ∧
      (nodeObjectsSheet.rowText? { color := true }).map (Option.map Text.withoutStyles) =
        .ok (some ("~~~~ Objects ~~~~~\nNode   |a|bb|c |\nObjects|3|10|~~|~~\n"
          ++ "Number of rows: 2\n")) ∧
      Text.withoutStyles (oneNamespace.viewText true) = oneNamespace.viewText false := by
  have hsheet : nodeObjectsSheet.IsPlain := by
    have hleaves : Sheet.leaves nodeObjectsSheet.visibleFields = .ok [_, _] := rfl
    refine ⟨by decide, nofun, by decide, fun l hl => ?_⟩
    rw [Sheet.leaves_eq_ok_iff.1 hleaves, List.map_cons, List.map_cons, List.map_nil,
      List.mem_cons, List.mem_singleton] at hl
    rcases hl with hl | hl
    · cases hl
      exact ⟨by decide, by decide, by decide⟩
    · cases hl
      exact ⟨by decide, by decide, by decide⟩
  have hsummary : oneNamespace.IsPlain :=
    ⟨by decide, by decide, by decide, by decide, by decide⟩
  have hcolored := withoutStyles_colored nodeObjectsSheet {} oneNamespace
  exact ⟨hsheet, hsummary, rfl, (hcolored.2.1 hsheet).trans rfl, hcolored.2.2 hsummary⟩

end Report
end ClusterReport
