/-
**Histogram texts read back.**

Each of the three formats in which servers write histograms keeps all of a histogram: whatever the
counts, the widths and the names of the ranges, the text is read as the histogram that was written.
Numbers are written in decimal, so that no separator occurs in them; the units and the names of
ranges must not hold the separators themselves.

Main definitions:

* `ClusterReport.Histogram.oldText`, `linearText`, `rangesText` — the three formats;
* `ClusterReport.Histogram.Written` — the texts of a histogram, with the flags they are read by.

Main results:

* `ClusterReport.Text.pieces_intercalate` — pieces that are joined by a separator come apart again;
* `ClusterReport.Histogram.readBuckets_map_toDigits` — counts within 64 bits read back;
* `ClusterReport.Histogram.parseOld_oldText`, `parseLinear_linearText`, `parseRanges_rangesText` —
  every format reads back;
* `ClusterReport.Histogram.parse_of_written` — **a written histogram reads back**.
-/

import ClusterReport.Attribute.Reported
import ClusterReport.Histogram.Wire

set_option relaxedAutoImplicit false
set_option autoImplicit false

namespace ClusterReport

/-! ### Separated texts -/

namespace Text

theorem mem_trim {c : Char} {s : List Char} (hc : isBlank c = false) (h : c ∈ s) : c ∈ trim s := by
  have hdrop : ∀ t : List Char, c ∈ t → c ∈ t.dropWhile isBlank := by
    intro t ht
    rw [← List.takeWhile_append_dropWhile (p := isBlank) (l := t), List.mem_append] at ht
    refine ht.resolve_left fun htake => ?_
    rw [List.all_eq_true.1 List.all_takeWhile c htake] at hc
    cases hc
  rw [trim, List.mem_reverse]
  exact hdrop _ (List.mem_reverse.2 (hdrop s h))

/-- Pieces that are joined by a separator come apart again, also when something is appended to the
last one. -/
theorem pieces_intercalate_append {c : Char} {init : List (List Char)} {last tail : List Char}
    (hinit : ∀ piece ∈ init, c ∉ piece) (hlast : c ∉ last) (htail : c ∉ tail) :
    pieces (· = c) (List.intercalate [c] (init ++ [last]) ++ tail) = init ++ [last ++ tail] := by
  have hpiece : ∀ piece : List Char, c ∉ piece → ∀ d ∈ piece, decide (d = c) = false := by
    intro piece h d hd
    exact decide_eq_false fun heq => h (heq ▸ hd)
  induction init with
  | nil =>
      rw [List.nil_append, List.nil_append, List.intercalate_singleton]
      refine pieces_of_none _ _ (hpiece _ ?_)
      rw [List.mem_append, not_or]
      exact ⟨hlast, htail⟩
  | cons piece rest ih =>
      obtain ⟨hfirst, hrest⟩ := List.forall_mem_cons.1 hinit
      rw [List.cons_append, List.intercalate_cons_of_ne_nil (by simp), List.append_assoc,
        List.append_assoc, List.singleton_append,
        pieces_append_cons _ piece c _ (hpiece piece hfirst) (decide_eq_true rfl), ih hrest,
        List.cons_append]

/-- Pieces that are joined by a separator come apart again. -/
theorem pieces_intercalate {c : Char} {ps : List (List Char)} (hne : ps ≠ [])
    (h : ∀ piece ∈ ps, c ∉ piece) : pieces (· = c) (List.intercalate [c] ps) = ps := by
  obtain ⟨init, last, rfl⟩ : ∃ init last, ps = init ++ [last] :=
    ⟨_, _, (List.dropLast_concat_getLast hne).symm⟩
  obtain ⟨hinit, hlast⟩ := List.forall_mem_append.1 h
  have htail : c ∉ ([] : List Char) := List.not_mem_nil
  have hpieces := pieces_intercalate_append hinit (hlast last List.mem_cons_self) htail
  rwa [List.append_nil, List.append_nil] at hpieces

end Text

namespace Integer

theorem trim_toDigits (n : Nat) : Text.trim (Nat.toDigits 10 n) = Nat.toDigits 10 n :=
  Json.trim_toText n

end Integer

namespace Histogram

/-! ### Numbers -/

theorem readWidth_toText {width : Int} (h : Integer.fitsInt64 width = true) :
    readWidth (Integer.toText width) = .ok width := by
  rw [readWidth, Json.trim_toText, Integer.int64Of?_toText width h]

/-- Counts within 64 bits read back. -/
theorem readBuckets_map_toDigits {counts : List Nat} (h : ∀ n ∈ counts, n ≤ Integer.nat64Max) :
    readBuckets (counts.map (Nat.toDigits 10)) = .ok counts := by
  induction counts with
  | nil => rfl
  | cons n rest ih =>
      obtain ⟨hn, hrest⟩ := List.forall_mem_cons.1 h
      have hread : readBucket (Nat.toDigits 10 n) = .ok n := by
        rw [readBucket, Integer.trim_toDigits, Integer.nat64Of?_toDigits n hn]
      rw [List.map_cons, readBuckets, hread, ih hrest]
      rfl

theorem not_mem_of_mem_map_toDigits {c : Char} (hc : c.isDigit = false) {counts : List Nat} :
    ∀ piece ∈ counts.map (Nat.toDigits 10), c ∉ piece := by
  intro piece h
  obtain ⟨n, -, rfl⟩ := List.mem_map.1 h
  exact Integer.not_mem_toDigits hc n

/-! ### The format of old servers -/

/-- A histogram as old servers write it, behind the text of a total that is not read. -/
def oldText (total : List Char) (width : Int) (counts : List Nat) : List Char :=
  List.intercalate [','] (total :: Integer.toText width :: counts.map (Nat.toDigits 10)) ++ [';']

theorem cutLast_append {init : List (List Char)} {last : List Char} (hlast : ';' ∉ last) :
    cutLast (init ++ [last ++ [';']]) = init ++ [last] := by
  induction init with
  | nil =>
      have hkeep : ∀ c ∈ last, decide (c ≠ ';') = true := fun c hc =>
        decide_eq_true fun heq => hlast (heq ▸ hc)
      rw [List.nil_append, cutLast, beforeSemicolon, List.takeWhile_append_of_pos hkeep]
      simp
  | cons field rest ih =>
      rw [List.cons_append, cutLast, ih, List.cons_append]
      simp

/-- The format of old servers reads back. -/
theorem parseOld_oldText (name : String) {total : List Char} (htotal : ',' ∉ total) {width : Int}
    (hwidth : Integer.fitsInt64 width = true) {counts : List Nat} (hne : counts ≠ [])
    (hcounts : ∀ n ∈ counts, n ≤ Integer.nat64Max) :
    parseOld name (oldText total width counts) = .ok ⟨name, width, counts, none⟩ := by
  obtain ⟨init, last, rfl⟩ : ∃ init last, counts = init ++ [last] :=
    ⟨_, _, (List.dropLast_concat_getLast hne).symm⟩
  have hpieces : Text.pieces (· = ',') (oldText total width (init ++ [last])) =
      total :: Integer.toText width ::
        (init.map (Nat.toDigits 10) ++ [Nat.toDigits 10 last ++ [';']]) := by
    have hinit : ∀ piece ∈ total :: Integer.toText width :: init.map (Nat.toDigits 10),
        ',' ∉ piece :=
      List.forall_mem_cons.2 ⟨htotal, List.forall_mem_cons.2
        ⟨Integer.not_mem_toText (by decide) (by decide) width,
          not_mem_of_mem_map_toDigits (by decide)⟩⟩
    rw [oldText, List.map_append]
    exact Text.pieces_intercalate_append hinit (Integer.not_mem_toDigits (by decide) last)
      (by decide)
  have hbuckets : cutLast (init.map (Nat.toDigits 10) ++ [Nat.toDigits 10 last ++ [';']]) =
      (init ++ [last]).map (Nat.toDigits 10) := by
    rw [cutLast_append (Integer.not_mem_toDigits (by decide) last), List.map_append]
    rfl
  rw [parseOld, hpieces]
  simp only [readWidth_toText hwidth, hbuckets, readBuckets_map_toDigits hcounts]
  rfl

/-! ### The formats of new servers -/

def fieldText (key : String) (value : List Char) : List Char := key.toList ++ '=' :: value

/-- A field has its key, whatever its value holds. -/
theorem exists_keyValue?_append (key : List Char) (hkey : '=' ∉ key) (value : List Char) :
    ∃ shown, keyValue? (key ++ '=' :: value) = some (key, shown) ∧
      ('=' ∉ value → shown = value) := by
  have hnot : ∀ s : List Char, '=' ∉ s → ∀ c ∈ s, decide (c = '=') = false := fun s hs c hc =>
    decide_eq_false fun heq => hs (heq ▸ hc)
  rw [keyValue?, Text.pieces_append_cons _ key '=' value (hnot key hkey) (decide_eq_true rfl)]
  by_cases hvalue : '=' ∈ value
  · obtain ⟨shown, rest, hpieces⟩ := List.exists_cons_of_ne_nil (Text.pieces_ne_nil (· = '=') value)
    exact ⟨shown, by rw [hpieces], fun h => absurd hvalue h⟩
  · exact ⟨value, by rw [Text.pieces_of_none _ value (hnot value hvalue)], fun _ => rfl⟩

theorem keyValue?_append (key : List Char) (hkey : '=' ∉ key) {value : List Char}
    (hvalue : '=' ∉ value) :
    keyValue? (key ++ '=' :: value) = some (key, value) := by
  obtain ⟨shown, hfield, hshown⟩ := exists_keyValue?_append key hkey value
  rw [hfield, hshown hvalue]

/-- The counts of a histogram as new servers write them. -/
def countsText (counts : List Nat) : List Char :=
  List.intercalate [','] (counts.map (Nat.toDigits 10))

theorem not_mem_countsText {c : Char} (hc : c.isDigit = false) (hcomma : c ≠ ',')
    (counts : List Nat) : c ∉ countsText counts :=
  Text.not_mem_intercalate hcomma (not_mem_of_mem_map_toDigits hc)

/-- A histogram with buckets of equal width as new servers write it; the width of the whole
histogram is not read. -/
def linearText (units histWidth : List Char) (width : Int) (counts : List Nat) : List Char :=
  List.intercalate [':'] [fieldText "units" units, fieldText "hist-width" histWidth,
    fieldText "bucket-width" (Integer.toText width), fieldText "buckets" (countsText counts)]

/-- The fields of a histogram with buckets of equal width. -/
def linearFields (units shown width counts : List Char) : List (List Char × List Char) :=
  [("units".toList, units), ("hist-width".toList, shown), ("bucket-width".toList, width),
    ("buckets".toList, counts)]

theorem lastValue?_linearFields (units shown width counts : List Char) :
    lastValue? "units" (linearFields units shown width counts) = some units ∧
      lastValue? "bucket-width" (linearFields units shown width counts) = some width ∧
      lastValue? "buckets" (linearFields units shown width counts) = some counts := by
  simp [lastValue?, linearFields]

/-- The text of a histogram with buckets of equal width has the fields of the histogram. -/
theorem exists_fields_linearText {units : List Char} (hcolon : ':' ∉ units) (hequals : '=' ∉ units)
    {histWidth : List Char} (hhistWidth : ':' ∉ histWidth) (width : Int) (counts : List Nat) :
    ∃ shown, (Text.pieces (· = ':') (linearText units histWidth width counts)).filterMap keyValue? =
      linearFields units shown (Integer.toText width) (countsText counts) := by
  have hfield : ∀ (key : String) (value : List Char), ':' ∉ key.toList → ':' ∉ value →
      ':' ∉ fieldText key value := by
    intro key value hkey hvalue
    simp [fieldText, hkey, hvalue]
  have hpieces : Text.pieces (· = ':') (linearText units histWidth width counts) =
      [fieldText "units" units, fieldText "hist-width" histWidth,
        fieldText "bucket-width" (Integer.toText width), fieldText "buckets" (countsText counts)] := by
    refine Text.pieces_intercalate (List.cons_ne_nil _ _) ?_
    simp only [List.forall_mem_cons]
    exact ⟨hfield _ _ (by decide) hcolon, hfield _ _ (by decide) hhistWidth,
      hfield _ _ (by decide) (Integer.not_mem_toText (by decide) (by decide) width),
      hfield _ _ (by decide) (not_mem_countsText (by decide) (by decide) counts), by simp⟩
  obtain ⟨shown, hshown, -⟩ :=
    exists_keyValue?_append "hist-width".toList (by decide) histWidth
  refine ⟨shown, ?_⟩
  rw [hpieces, linearFields]
  simp only [fieldText, List.filterMap_cons, List.filterMap_nil, hshown,
    keyValue?_append "units".toList (by decide) hequals,
    keyValue?_append "bucket-width".toList (by decide)
      (Integer.not_mem_toText (by decide) (by decide) width),
    keyValue?_append "buckets".toList (by decide)
      (not_mem_countsText (by decide) (by decide) counts)]

/-- The format of new servers for buckets of equal width reads back. -/
theorem parseLinear_linearText (name : String) {units : String} (hcolon : ':' ∉ units.toList)
    (hequals : '=' ∉ units.toList) {histWidth : List Char} (hhistWidth : ':' ∉ histWidth)
    {width : Int} (hwidth : Integer.fitsInt64 width = true) {counts : List Nat} (hne : counts ≠ [])
    (hcounts : ∀ n ∈ counts, n ≤ Integer.nat64Max) :
    parseLinear name (linearText units.toList histWidth width counts) =
      .ok (some ⟨name, width, counts, some units⟩) := by
  obtain ⟨shown, hfields⟩ := exists_fields_linearText hcolon hequals hhistWidth width counts
  have hpieces : Text.pieces (· = ',') (countsText counts) = counts.map (Nat.toDigits 10) :=
    Text.pieces_intercalate (by simpa using hne) (not_mem_of_mem_map_toDigits (by decide))
  obtain ⟨hunits, hbucketWidth, hbuckets⟩ :=
    lastValue?_linearFields units.toList shown (Integer.toText width) (countsText counts)
  rw [parseLinear, hfields]
  simp only [hunits, hbucketWidth, hbuckets, readWidth_toText hwidth, hpieces,
    readBuckets_map_toDigits hcounts, Option.map_some, String.ofList_toList]
  rfl

def rangeText (range : String × Nat) : List Char :=
  ('[' :: range.1.toList ++ [')']) ++ '=' :: Nat.toDigits 10 range.2

/-- A histogram of named ranges as new servers write it. -/
def rangesText (units : List Char) (ranges : List (String × Nat)) : List Char :=
  List.intercalate [':'] (fieldText "units" units :: ranges.map rangeText)

theorem readRange?_rangeText {range : String × Nat} (hrange : '=' ∉ range.1.toList)
    (hcount : range.2 ≤ Integer.nat64Max) : readRange? (rangeText range) = some range := by
  have hkey : '=' ∉ '[' :: range.1.toList ++ [')'] := by simpa using hrange
  have hbare : bareRange ('[' :: range.1.toList ++ [')']) = range.1.toList := by
    rw [bareRange, if_pos (List.getLast?_concat ..), List.dropLast_concat]
    rfl
  rw [readRange?, rangeText,
    keyValue?_append _ hkey (Integer.not_mem_toDigits (by decide) range.2)]
  simp only [Option.bind_eq_bind, Option.bind_some, Option.pure_def, Integer.trim_toDigits,
    Integer.nat64Of?_toDigits range.2 hcount, hbare, String.ofList_toList]

theorem filterMap_readRange?_map {ranges : List (String × Nat)}
    (h : ∀ range ∈ ranges, '=' ∉ range.1.toList ∧ range.2 ≤ Integer.nat64Max) :
    (ranges.map rangeText).filterMap readRange? = ranges := by
  induction ranges with
  | nil => rfl
  | cons range rest ih =>
      obtain ⟨⟨hrange, hcount⟩, hrest⟩ := List.forall_mem_cons.1 h
      rw [List.map_cons, List.filterMap_cons_some (readRange?_rangeText hrange hcount), ih hrest]

/-- The format of new servers for named ranges reads back. -/
theorem parseRanges_rangesText (name : String) {units : String} (hcolon : ':' ∉ units.toList)
    (hequals : '=' ∉ units.toList) {ranges : List (String × Nat)}
    (hranges : ∀ range ∈ ranges, ':' ∉ range.1.toList ∧ '=' ∉ range.1.toList ∧
      range.2 ≤ Integer.nat64Max) :
    parseRanges name (rangesText units.toList ranges) = some ⟨name, units, ranges⟩ := by
  have hpieces : Text.pieces (· = ':') (rangesText units.toList ranges) =
      fieldText "units" units.toList :: ranges.map rangeText := by
    refine Text.pieces_intercalate (List.cons_ne_nil _ _) (List.forall_mem_cons.2 ⟨?_, ?_⟩)
    · simpa [fieldText] using hcolon
    · intro piece hpiece
      obtain ⟨range, hmem, rfl⟩ := List.mem_map.1 hpiece
      simpa [rangeText, Integer.not_mem_toDigits (c := ':') (by decide)] using
        (hranges range hmem).1
  have hread : (ranges.map rangeText).filterMap readRange? = ranges :=
    filterMap_readRange?_map fun range hmem => (hranges range hmem).2
  rw [parseRanges, hpieces]
  simp only [fieldText, keyValue?_append "units".toList (by decide) hequals, hread,
    String.ofList_toList, if_true]

/-! ### All formats -/

/-- The texts in which servers write a histogram of a name, with the flags that they are read by:
whether ranges are asked for, and whether the server is a new one. -/
inductive Written (name : String) : Histogram → List Char → Bool → Bool → Prop
  | old {total : List Char} {width : Int} {counts : List Nat} {ranges : Bool}
      (htotal : ',' ∉ total) (hwidth : Integer.fitsInt64 width = true) (hne : counts ≠ [])
      (hcounts : ∀ n ∈ counts, n ≤ Integer.nat64Max) :
      Written name (.linear ⟨name, width, counts, none⟩) (oldText total width counts) ranges false
  | linear {units : String} {histWidth : List Char} {width : Int} {counts : List Nat}
      (hcolon : ':' ∉ units.toList) (hequals : '=' ∉ units.toList) (hhistWidth : ':' ∉ histWidth)
      (hwidth : Integer.fitsInt64 width = true) (hne : counts ≠ [])
      (hcounts : ∀ n ∈ counts, n ≤ Integer.nat64Max) :
      Written name (.linear ⟨name, width, counts, some units⟩)
        (linearText units.toList histWidth width counts) false true
  | logarithmic {units : String} {ranges : List (String × Nat)} (hcolon : ':' ∉ units.toList)
      (hequals : '=' ∉ units.toList)
      (hranges : ∀ range ∈ ranges, ':' ∉ range.1.toList ∧ '=' ∉ range.1.toList ∧
        range.2 ≤ Integer.nat64Max) :
      Written name (.logarithmic ⟨name, units, ranges⟩) (rangesText units.toList ranges) true true

theorem Written.trim_ne_nil {name : String} {h : Histogram} {raw : List Char}
    {ranges newFormat : Bool} (hw : Written name h raw ranges newFormat) : Text.trim raw ≠ [] := by
  cases hw with
  | old htotal hwidth hne hcounts =>
      refine List.ne_nil_of_mem (Text.mem_trim (c := ';') (by decide) ?_)
      simp [oldText]
  | linear hcolon hequals hhistWidth hwidth hne hcounts =>
      refine List.ne_nil_of_mem (Text.mem_trim (c := 'u') (by decide) ?_)
      simp [linearText, fieldText, List.intercalate_cons_cons]
  | logarithmic hcolon hequals hranges =>
      refine List.ne_nil_of_mem (Text.mem_trim (c := 'u') (by decide) ?_)
      rename_i _ ranges
      cases ranges <;> simp [rangesText, fieldText, List.intercalate_cons_cons]

/-- **A written histogram reads back.** -/
theorem parse_of_written {name : String} {h : Histogram} {raw : List Char}
    {ranges newFormat : Bool} (hw : Written name h raw ranges newFormat) :
    parse name raw ranges newFormat = .ok (some h) := by
  have htrim : (Text.trim raw).isEmpty = false := List.isEmpty_eq_false_iff.2 hw.trim_ne_nil
  unfold parse
  rw [htrim]
  cases hw with
  | old htotal hwidth hne hcounts =>
      rw [parseOld_oldText name htotal hwidth hne hcounts]
      rfl
  | linear hcolon hequals hhistWidth hwidth hne hcounts =>
      rw [parseLinear_linearText name hcolon hequals hhistWidth hwidth hne hcounts]
      rfl
  | logarithmic hcolon hequals hranges =>
      rw [parseRanges_rangesText name hcolon hequals hranges]
      rfl

/-- The ends of the 64 bits, units that are blank, and ranges whose names are empty or look like
the text of a range read back. -/
theorem parse_of_written_limits :
    parse "objsz" "2,-9223372036854775808,18446744073709551615,0;".toList true false =
        .ok (some (.linear ⟨"objsz", -9223372036854775808, [18446744073709551615, 0], none⟩)) ∧
      parse "ttl" "units= :hist-width=x=y:bucket-width=9223372036854775807:buckets=7".toList
          false true =
        .ok (some (.linear ⟨"ttl", 9223372036854775807, [7], some " "⟩)) ∧
      parse "objsz" "units=bytes:[)=0:[[0-64))=12".toList true true =
        .ok (some (.logarithmic ⟨"objsz", "bytes", [("", 0), ("[0-64)", 12)]⟩)) :=
  ⟨parse_of_written (.old (by decide : ',' ∉ ['2']) (by decide) (by decide) (by decide)),
    parse_of_written (.linear (by decide) (by decide) (by decide : ':' ∉ "x=y".toList)
      (by decide) (by decide) (by decide)),
    parse_of_written (.logarithmic (by decide) (by decide) (by decide))⟩

end Histogram
end ClusterReport
