/-
**Sheets in row style.**

In row style every visible column of a sheet is a line and every record a column of the text.  A
line is laid out in slots, which are the same for all lines: the title, one entry per record, and
the aggregate.  Titles may be repeated, between the entries where the next one would reach the
width of the terminal, and as whole lines of the title fields so that they stay on screen.  Row
style lays out one group, and has no place for tuples.

Main definitions:

* `ClusterReport.Sheet.RowError` — why a sheet cannot be laid out;
* `ClusterReport.Sheet.Slot`, `ClusterReport.Sheet.RowLayout` — where the parts of a line stand;
* `ClusterReport.Sheet.repeatTitles` — the lines with the title fields repeated;
* `ClusterReport.Sheet.rowLayout`, `ClusterReport.Sheet.lineLeaves` — the layout of a sheet and the
  columns in the order of their lines;
* `ClusterReport.Sheet.rowText?` — the sheet as text, with or without color;
* `ClusterReport.Sheet.rowLines?` — the same as styled lines.

Main results:

* `ClusterReport.Sheet.RowLayout.length_entrySpan` — the entries of one record are equally wide.
-/

import ClusterReport.Sheet.Prepared
import ClusterReport.Text.Styled
import ClusterReport.Text.Wrapped

set_option relaxedAutoImplicit false
set_option autoImplicit false

namespace ClusterReport.Sheet

open Text (Span Line padEnd padStart padBoth)

/-- How a sheet is laid out. -/
structure RowOptions where
  color : Bool := false
  repeatTitles : Bool := false
  columns : Nat := 80
  lines : Nat := 24

/-- Why a sheet cannot be laid out in row style. -/
inductive RowError where
  | groups (count : Nat)
  | tuple (key : String)
deriving DecidableEq

def RowError.message : RowError → String
  | groups count => "row style renders a single group, got " ++ toString count
  | tuple key => "row style does not support tuple field " ++ key

/-! ### What a column shows -/

namespace Leaf

/-- What the column shows of a record of the first group. -/
def entry (l : Leaf) (record : Nat) : ShownCell :=
  ((l.shown.head?.bind fun g => g.cells[record]?)).getD { text := "" }

/-- Whether the cell of a record of the first group is an error. -/
def entryIsError (l : Leaf) (record : Nat) : Bool :=
  ((l.cells.head?.bind fun cells => cells[record]?).map Cell.isError).getD false

/-- The aggregate of the first group, empty for a column that is not reduced. -/
def aggregateText (l : Leaf) : String :=
  if l.hasAggregate then (l.shown.head?.map ShownGroup.aggregate).getD "" else ""

/-- Whether the first group has an aggregate of the column. -/
def isAggregated (l : Leaf) : Bool := (l.aggregates.head?.bind id).isSome

end Leaf

/-- The columns among some fields, none of which may be a tuple. -/
def leaves : List Prepared → Except RowError (List Leaf)
  | [] => .ok []
  | .leaf l :: rest => (leaves rest).map (l :: ·)
  | .tuple key _ _ _ :: _ => .error (.tuple key)

/-! ### Widths -/

def widest (widths : List Nat) : Nat := widths.foldl max 0

def widestTitle (ls : List Leaf) : Nat := widest (ls.map fun l => l.column.title.length)

def widestEntries (ls : List Leaf) (records : Nat) : List Nat :=
  (List.range records).map fun i => widest (ls.map fun l => (l.entry i).text.length)

/-- The width of the widest aggregate and one character before it. -/
def widestAggregate (ls : List Leaf) : Nat := widest (ls.map fun l => l.aggregateText.length + 1)

/-! ### Slots -/

/-- A part of a line. -/
inductive Slot where
  | title
  | entry (record : Nat)
  | aggregate
deriving DecidableEq

/-- Where the parts of a line stand: how wide they are, which entries a title stands before, and
whether there is an aggregate, with or without a title of its own. -/
structure RowLayout where
  titleWidth : Nat
  entryWidths : List Nat
  titled : List Bool
  aggregated : Bool
  aggregateTitled : Bool

/-- Which of the entries at the given position and after it get a title, and the position behind
them: one does if it would reach the limit where it is, and it then starts behind the title. -/
def packTitles (start limit : Nat) (position : Nat) : List Nat → List Bool × Nat
  | [] => ([], position)
  | width :: rest =>
    if position + width < limit then
      ((packTitles start limit (position + width) rest).map (false :: ·) id)
    -- the entry opens a new block, behind a title of its own
    else ((packTitles start limit (start + width) rest).map (true :: ·) id)

/-- Which entries get a title, and the position behind them; the first entry always gets one. -/
def packRow (start limit : Nat) : List Nat → List Bool × Nat
  | [] => ([], start)
  | width :: rest => (packTitles start limit (start + width) rest).map (true :: ·) id

namespace RowLayout

/-- The layout for some widths of titles, entries and aggregates. -/
def ofWidths (titleWidth : Nat) (entryWidths : List Nat) (aggregateWidth : Nat) (aggregated : Bool)
    (separator : String) (o : RowOptions) : RowLayout :=
  let (packed, position) := packRow (titleWidth + separator.length) o.columns entryWidths
  { titleWidth, entryWidths, aggregated
    titled := if o.repeatTitles then packed else entryWidths.zipIdx.map fun (_, i) => i == 0
    aggregateTitled :=
      o.repeatTitles && aggregated && decide (o.columns ≤ position + aggregateWidth) }

def of (ls : List Leaf) (records : Nat) (separator : String) (o : RowOptions) : RowLayout :=
  ofWidths (widestTitle ls) (widestEntries ls records) (widestAggregate ls)
    (ls.any Leaf.hasAggregate) separator o

/-- How often the title stands in a line; a line without entries has room for one. -/
def titleCount (r : RowLayout) : Nat :=
  max 1 (r.titled.count true) + if r.aggregateTitled then 1 else 0

def slots (r : RowLayout) : List Slot :=
  (r.titled.zipIdx.flatMap fun (titled, i) => (if titled then [.title] else []) ++ [.entry i])
    ++ (if r.aggregated then (if r.aggregateTitled then [.title] else []) ++ [.aggregate] else [])

/-- The title of a column, underlined if the records are ordered by it. -/
def titleSpan (r : RowLayout) (l : Leaf) : Span :=
  let title := l.column.title
  let pad := Text.blanks (r.titleWidth - title.length)
  .styled .bold
    (.beside (if l.ordered then .styled .underline (.plain title) else .plain title) (.plain pad))

def aligned (a : Align) (width : Nat) (s : String) : String :=
  match a with
  | .left => padEnd width s
  | .right => padStart width s
  | .center => padBoth width s

@[simp] theorem length_aligned (a : Align) (width : Nat) (s : String) :
    (aligned a width s).length = max width s.length := by
  cases a <;> simp [aligned]

/-- What is shown of a record, in the color of an error or of its emphasis. -/
def shownSpan (a : Align) (width : Nat) (isError : Bool) (shown : ShownCell) : Span :=
  let text := .plain (aligned a width shown.text)
  if isError then .styled .magenta text
  else
    match shown.emphasis with
    | some .alert => .styled .bold (.styled .red text)
    | some .warning => .styled .yellow text
    | some .strong => .styled .bold text
    | none => text

def entrySpan (r : RowLayout) (l : Leaf) (record : Nat) : Span :=
  shownSpan l.column.align (r.entryWidths[record]?.getD 0) (l.entryIsError record) (l.entry record)

def aggregateSpan (l : Leaf) : Span :=
  let text := .plain l.aggregateText
  if !l.hasAggregate || !l.isAggregated then text
  else if l.grouped then .styled .bold (.styled .blue text)
  else .styled .blue text

def span (r : RowLayout) (l : Leaf) : Slot → Span
  | .title => r.titleSpan l
  | .entry record => r.entrySpan l record
  | .aggregate => aggregateSpan l

def line (r : RowLayout) (separator : String) (l : Leaf) : Line :=
  Line.join (.bold separator) (r.slots.map (r.span l))

/-! ### Texts of the parts -/

/-- The title of a column as text.  With color only the title is underlined, so the blanks are put
behind it afterwards. -/
def titleText (color : Bool) (r : RowLayout) (l : Leaf) : String :=
  let title := l.column.title
  if color then
    let pad := Text.blanks (r.titleWidth - title.length)
    let title := if l.ordered then Text.Style.underline.wrap title else title
    Text.Style.bold.wrap (title ++ pad)
  else padEnd r.titleWidth title

/-- The entry of a record as text. -/
def entryText (color : Bool) (r : RowLayout) (l : Leaf) (record : Nat) : String :=
  let shown := l.entry record
  let cell := aligned l.column.align (r.entryWidths[record]?.getD 0) shown.text
  if !color then cell
  else if l.entryIsError record then Text.Style.magenta.wrap cell
  else
    match shown.emphasis with
    | some .alert => Text.Style.bold.wrap (Text.Style.red.wrap cell)
    | some .warning => Text.Style.yellow.wrap cell
    | some .strong => Text.Style.bold.wrap cell
    | none => cell

def aggregateCell (color : Bool) (l : Leaf) : String :=
  if !l.hasAggregate then ""
  else
    let cell := aligned l.column.align l.aggregateText.length l.aggregateText
    if !color || !l.isAggregated then cell
    else if l.grouped then Text.Style.bold.wrap (Text.Style.blue.wrap cell)
    else Text.Style.blue.wrap cell

def slotText (color : Bool) (r : RowLayout) (l : Leaf) : Slot → String
  | .title => r.titleText color l
  | .entry record => r.entryText color l record
  | .aggregate => aggregateCell color l

def lineText (color : Bool) (r : RowLayout) (separator : String) (l : Leaf) : String :=
  let joiner := if color then Text.Style.bold.wrap separator else separator
  joiner.intercalate (r.slots.map (r.slotText color l))

/-- The entries of one record are equally wide, however they are styled. -/
theorem length_entrySpan (r : RowLayout) (l : Leaf) (record : Nat) :
    (r.entrySpan l record).text.length =
      max (r.entryWidths[record]?.getD 0) (l.entry record).text.length := by
  simp only [entrySpan, shownSpan]
  split
  · simp [Span.text]
  · split <;> simp [Span.text]

end RowLayout

/-! ### Lines -/

/-- The columns with the title fields before every so many of the others. -/
def repeatTitles (titleKeys : List String) (interval : Nat) (ls : List Leaf) : List Leaf :=
  let isTitle (l : Leaf) : Bool := titleKeys.contains l.column.key
  let titles := ls.filter isTitle
  (ls.filter fun l => !isTitle l).zipIdx.flatMap fun (l, i) =>
    if i % interval = 0 then titles ++ [l] else [l]

/-- The layout of the visible columns of a sheet. -/
def rowLayout (s : Sheet) (o : RowOptions) (ls : List Leaf) : RowLayout :=
  RowLayout.of ls s.recordCount s.declaration.separator o

/-- The visible columns of a sheet in the order of their lines. -/
def lineLeaves (s : Sheet) (o : RowOptions) (ls : List Leaf) : List Leaf :=
  if o.repeatTitles then repeatTitles s.declaration.titleKeys (max 1 (o.lines - 2)) ls else ls

/-- How wide the title of a sheet is centred and its description wrapped. -/
def rowWidth (s : Sheet) (layout : RowLayout) (aggregateWidth : Nat) : Nat :=
  layout.titleCount * (layout.titleWidth + s.declaration.separator.length)
    + Integer.natSum layout.entryWidths + (s.recordCount - 1) * s.declaration.separator.length
    + aggregateWidth

def descriptionLines (s : Sheet) (width : Nat) : List String :=
  match s.description with
  | some text => Text.wrap (max 20 (width - 10)) text
  | none => []

def linesAbove (s : Sheet) (width : Nat) : List Line :=
  Line.heading width s.title :: (s.descriptionLines width).map fun text => [.plain text]

def countText (count : Nat) : String := "Number of rows: " ++ toString count

def countLine (count : Nat) : Line := [.plain (countText count)]

/-- The title of a sheet as text, centred between tildes. -/
def headingText (color : Bool) (width : Nat) (title : String) : String :=
  let line := Text.surround '~' width (" " ++ title ++ " ")
  if color then Text.Style.bold.wrap line else line

/-- The sheet as styled lines, or nothing if no field is visible. -/
def rowLines? (s : Sheet) (o : RowOptions) : Except RowError (Option (List Line)) := do
  let ls ← leaves s.visibleFields
  if ls.isEmpty then return none
  -- the style lays records side by side, so it has no place for a second group
  if s.groups.length ≠ 1 then throw (.groups s.groups.length)
  let layout := s.rowLayout o ls
  let rows := s.lineLeaves o ls
  return some <|
    s.linesAbove (s.rowWidth layout (widestAggregate ls))
      ++ rows.map (layout.line s.declaration.separator) ++ [countLine rows.length]

/-- The sheet as text, or nothing if no field is visible. -/
def rowText? (s : Sheet) (o : RowOptions) : Except RowError (Option String) := do
  let ls ← leaves s.visibleFields
  if ls.isEmpty then return none
  if s.groups.length ≠ 1 then throw (.groups s.groups.length)
  let layout := s.rowLayout o ls
  let rows := s.lineLeaves o ls
  let width := s.rowWidth layout (widestAggregate ls)
  let lines := headingText o.color width s.title :: s.descriptionLines width
    ++ rows.map (layout.lineText o.color s.declaration.separator) ++ [countText rows.length]
  return some ("\n".intercalate lines ++ "\n")

end ClusterReport.Sheet
