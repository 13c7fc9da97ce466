/-
**What wrapping makes of a text.**

A text that is wrapped keeps its words and their order, and nothing else of it is left: each line
has single blanks between its words and none at its ends.  A line of several words is no wider than
asked for, and a word begins a line only where the line before it had no room left, so the lines
are filled as far as they can be.  These properties leave no choice: there is one way to put the
words of a text on lines that has them, and wrapping finds it.

Main definitions:

* `ClusterReport.Text.Fits`, `Overflows` — that a line has room for its words, and none for the
  word that begins the next one;
* `ClusterReport.Text.IsFilled` — that words are put on lines that are filled;
* `ClusterReport.Text.wordsOf` — the words of a text;
* `ClusterReport.Text.IsWrapped` — what it is for lines to be a text wrapped to a width.

Main results:

* `ClusterReport.Text.isFilled_wrapWords` — wrapping fills the lines;
* `ClusterReport.Text.IsFilled.wrapWords_flatten` — lines that are filled are those of wrapping;
* `ClusterReport.Text.isWrapped_iff_isFilled` — texts with single blanks between their words are
  wrapped as the lines of their words are filled;
* `ClusterReport.Text.isWrapped_iff_eq_wrap` — **the lines of a wrapped text are the only ones that
  are wrapped to the width**.
-/

import ClusterReport.Text.Wrapped
import Mathlib.Data.List.Chain

set_option relaxedAutoImplicit false
set_option autoImplicit false

namespace ClusterReport.Text

/-! ### Lines that are filled -/

/-- A line has room for its words, or it has only one. -/
def Fits (width : Nat) (line : List (List Char)) : Prop :=
  (lineOf line).length ≤ width ∨ line.length = 1

/-- A line has no room for the word that begins the next one. -/
def Overflows (width : Nat) (line next : List (List Char)) : Prop :=
  ∀ word ∈ next.head?, width < (lineOf line).length + 1 + word.length

/-- What it is for words to be put on lines that are filled: every line has words, which fit it, and
none of them had room on the line before. -/
structure IsFilled (width : Nat) (lines : List (List (List Char))) : Prop where
  ne_nil : ∀ line ∈ lines, line ≠ []
  fits : ∀ line ∈ lines, Fits width line
  isChain : lines.IsChain (Overflows width)

variable {width : Nat} {line rest : List (List Char)} {lines : List (List (List Char))}

theorem isFilled_nil : IsFilled width [] :=
  ⟨fun _ h => absurd h List.not_mem_nil, fun _ h => absurd h List.not_mem_nil, List.isChain_nil⟩

/-- A line goes before others if it is filled up to where they begin. -/
theorem isFilled_cons_iff : IsFilled width (line :: lines) ↔
    line ≠ [] ∧ Fits width line ∧ (∀ next ∈ lines.head?, Overflows width line next) ∧
      IsFilled width lines := by
  constructor
  · intro h
    obtain ⟨hne, hnelines⟩ := List.forall_mem_cons.1 h.ne_nil
    obtain ⟨hfits, hfitslines⟩ := List.forall_mem_cons.1 h.fits
    obtain ⟨hover, hchain⟩ := List.isChain_cons.1 h.isChain
    exact ⟨hne, hfits, hover, hnelines, hfitslines, hchain⟩
  · rintro ⟨hne, hfits, hover, h⟩
    exact ⟨List.forall_mem_cons.2 ⟨hne, h.ne_nil⟩, List.forall_mem_cons.2 ⟨hfits, h.fits⟩,
      List.isChain_cons.2 ⟨hover, h.isChain⟩⟩

theorem exists_head?_fill (width : Nat) (line rest : List (List Char)) :
    ∃ more, (fill width line rest).head? = some (line ++ more) := by
  induction rest generalizing line with
  | nil => exact ⟨[], by rw [List.append_nil]; rfl⟩
  | cons word rest ih =>
      unfold fill
      split
      case isTrue =>
        obtain ⟨more, hmore⟩ := ih (line ++ [word])
        exact ⟨word :: more, by rw [hmore, List.append_assoc, List.singleton_append]⟩
      case isFalse => exact ⟨[], by rw [List.append_nil]; rfl⟩

theorem isFilled_fill (hline : line ≠ []) (hfits : Fits width line) (rest : List (List Char)) :
    IsFilled width (fill width line rest) := by
  induction rest generalizing line with
  | nil => exact isFilled_cons_iff.2 ⟨hline, hfits, fun _ h => (by cases h), isFilled_nil⟩
  | cons word rest ih =>
      unfold fill
      split
      case isTrue hroom =>
        refine ih (by simp) (.inl ?_)
        rwa [length_lineOf_concat hline]
      case isFalse hroom =>
        refine isFilled_cons_iff.2 ⟨hline, hfits, fun next hnext => ?_, ih (by simp) (.inr rfl)⟩
        -- the next line begins with the word for which there was no room
        obtain ⟨more, hmore⟩ := exists_head?_fill width [word] rest
        obtain rfl := Option.some.inj (hmore.symm.trans hnext)
        intro first hfirst
        obtain rfl := Option.some.inj hfirst
        exact Nat.lt_of_not_le hroom

/-- **Wrapping fills the lines.** -/
theorem isFilled_wrapWords (width : Nat) (ws : List (List Char)) :
    IsFilled width (wrapWords width ws) := by
  cases ws with
  | nil => exact isFilled_nil
  | cons word rest => exact isFilled_fill (by simp) (.inr rfl) rest

/-- Words for which there is room go on the current line. -/
theorem fill_append {more : List (List Char)} (hline : line ≠ [])
    (hfits : more = [] ∨ (lineOf (line ++ more)).length ≤ width) :
    fill width line (more ++ rest) = fill width (line ++ more) rest := by
  induction more generalizing line with
  | nil => rw [List.nil_append, List.append_nil]
  | cons word more ih =>
      have hle : (lineOf ((line ++ [word]) ++ more)).length ≤ width := by
        rw [List.append_assoc, List.singleton_append]
        exact hfits.resolve_left (by simp)
      have hroom : (lineOf line).length + 1 + word.length ≤ width := by
        rw [← length_lineOf_concat hline]
        exact (length_lineOf_le_append _ _).trans hle
      rw [List.cons_append, fill, if_pos hroom, ih (by simp) (.inr hle), List.append_assoc,
        List.singleton_append]

theorem Fits.eq_nil_or_length_le {word : List Char} {more : List (List Char)}
    (h : Fits width (word :: more)) :
    more = [] ∨ (lineOf ([word] ++ more)).length ≤ width := by
  refine h.symm.imp_left fun hone => ?_
  rw [List.length_cons] at hone
  exact List.length_eq_zero_iff.1 (Nat.succ.inj hone)

/-- **Lines that are filled are those of wrapping**: each line takes up its words, and the next one
begins where the line overflows. -/
theorem IsFilled.wrapWords_flatten (h : IsFilled width lines) :
    wrapWords width lines.flatten = lines := by
  induction lines with
  | nil => rfl
  | cons line tail ih =>
      obtain ⟨hne, hfits, hover, htail⟩ := isFilled_cons_iff.1 h
      obtain ⟨word, more, rfl⟩ := List.exists_cons_of_ne_nil hne
      have hfirst : wrapWords width ((word :: more) :: tail).flatten =
          fill width (word :: more) tail.flatten := fill_append (by simp) hfits.eq_nil_or_length_le
      rw [hfirst]
      cases tail with
      | nil => rfl
      | cons next tail =>
          obtain ⟨first, others, rfl⟩ :=
            List.exists_cons_of_ne_nil (htail.ne_nil _ List.mem_cons_self)
          have hwords : ((first :: others) :: tail).flatten = first :: (others ++ tail.flatten) :=
            rfl
          have hfull := hover _ rfl first rfl
          have hrest := ih htail
          rw [hwords] at hrest ⊢
          rw [fill, if_neg (Nat.not_le_of_gt hfull)]
          exact congrArg _ hrest

/-! ### Texts that are wrapped -/

/-- The words of a text. -/
def wordsOf (text : String) : List (List Char) := words text.toList

/-- What it is for some lines to be a text wrapped to a width: no line is empty, and line by line
they have the words of the text, in order and with single blanks between them.  Each line is at most
as wide as asked for or is a single word, and the first word of each later line would not have
fitted on the line before. -/
structure IsWrapped (width : Nat) (text : String) (lines : List String) : Prop where
  ne_empty : ∀ line ∈ lines, line ≠ ""
  flatMap_wordsOf : lines.flatMap wordsOf = wordsOf text
  eq_lineOf : ∀ line ∈ lines, line = String.ofList (lineOf (wordsOf line))
  fits : ∀ line ∈ lines, line.length ≤ width ∨ wordsOf line = [line.toList]
  isChain : lines.IsChain fun line next =>
    ∀ word ∈ (wordsOf next).head?, width < line.length + 1 + word.length

theorem words_lineOf {ws : List (List Char)} (h : ∀ word ∈ ws, IsWord word) :
    words (lineOf ws) = ws := by
  induction ws with
  | nil => rw [lineOf_nil, words_nil]
  | cons word rest ih =>
      obtain ⟨hword, hrest⟩ := List.forall_mem_cons.1 h
      cases rest with
      | nil => rw [lineOf_singleton, hword.words_eq]
      | cons next rest =>
          rw [lineOf_cons word (by simp), words_append _ _ _ rfl, hword.words_eq, ih hrest,
            List.singleton_append]

section SingleBlanks

variable {text : String}

/-- A text with single blanks between its words is as wide as the line of these. -/
theorem length_eq_of_eq_lineOf (h : text = String.ofList (lineOf (wordsOf text))) :
    text.length = (lineOf (wordsOf text)).length := by
  conv_lhs => rw [h]
  exact String.length_ofList

theorem eq_empty_iff_wordsOf (h : text = String.ofList (lineOf (wordsOf text))) :
    text = "" ↔ wordsOf text = [] := by
  refine ⟨fun hempty => by rw [hempty]; rfl, fun hnil => ?_⟩
  rw [h, hnil]
  rfl

theorem wordsOf_eq_singleton_iff (h : text = String.ofList (lineOf (wordsOf text))) :
    wordsOf text = [text.toList] ↔ (wordsOf text).length = 1 := by
  refine ⟨fun hone => by rw [hone]; rfl, fun hone => ?_⟩
  obtain ⟨word, hword⟩ := List.length_eq_one_iff.1 hone
  have htext : text.toList = word := by
    rw [h, hword, String.toList_ofList, lineOf_singleton]
  rw [hword, htext]

end SingleBlanks

/-- **Texts with single blanks between their words are wrapped as the lines of their words are
filled.** -/
theorem isWrapped_iff_isFilled {text : String} {lines : List String}
    (h : ∀ line ∈ lines, line = String.ofList (lineOf (wordsOf line))) :
    IsWrapped width text lines ↔
      IsFilled width (lines.map wordsOf) ∧ (lines.map wordsOf).flatten = wordsOf text := by
  have hne : (∀ line ∈ lines, line ≠ "") ↔ ∀ line ∈ lines, wordsOf line ≠ [] :=
    forall₂_congr fun line hline => not_congr (eq_empty_iff_wordsOf (h line hline))
  have hfits : (∀ line ∈ lines, line.length ≤ width ∨ wordsOf line = [line.toList]) ↔
      ∀ line ∈ lines, Fits width (wordsOf line) := by
    refine forall₂_congr fun line hline => ?_
    rw [Fits, length_eq_of_eq_lineOf (h line hline), wordsOf_eq_singleton_iff (h line hline)]
  have hchain : (lines.IsChain fun line next =>
        ∀ word ∈ (wordsOf next).head?, width < line.length + 1 + word.length) ↔
      lines.IsChain fun line next => Overflows width (wordsOf line) (wordsOf next) := by
    simp only [List.isChain_iff_forall_rel_of_append_cons_cons]
    refine forall₄_congr fun line next before behind => forall_congr' fun hlines => ?_
    rw [Overflows, length_eq_of_eq_lineOf (h line (by simp [hlines]))]
  rw [← List.flatMap_def]
  constructor
  · intro hw
    exact ⟨⟨List.forall_mem_map.2 (hne.1 hw.ne_empty), List.forall_mem_map.2 (hfits.1 hw.fits),
      (List.isChain_map _).2 (hchain.1 hw.isChain)⟩, hw.flatMap_wordsOf⟩
  · rintro ⟨hf, hflat⟩
    exact ⟨hne.2 fun line hline => hf.ne_nil _ (List.mem_map_of_mem hline), hflat, h,
      hfits.2 (List.forall_mem_map.1 hf.fits), hchain.2 ((List.isChain_map _).1 hf.isChain)⟩

theorem wordsOf_lineOf_of_mem_wrapWords {text : String} (h : line ∈ wrapWords width (wordsOf text)) :
    wordsOf (String.ofList (lineOf line)) = line := by
  rw [wordsOf, String.toList_ofList]
  refine words_lineOf fun word hword => isWord_of_mem_words (s := text.toList) ?_
  have hmem := List.mem_flatten_of_mem h hword
  rwa [flatten_wrapWords] at hmem

theorem map_wordsOf_wrap (width : Nat) (text : String) :
    (wrap width text).map wordsOf = wrapWords width (wordsOf text) := by
  rw [wrap, List.map_map]
  exact (List.map_congr_left fun line hline => wordsOf_lineOf_of_mem_wrapWords hline).trans
    (List.map_id _)

/-- **The lines of a wrapped text are the only ones that are wrapped to the width.** -/
theorem isWrapped_iff_eq_wrap {width : Nat} {text : String} {lines : List String} :
    IsWrapped width text lines ↔ lines = wrap width text := by
  constructor
  · intro h
    obtain ⟨hfilled, hwords⟩ := (isWrapped_iff_isFilled h.eq_lineOf).1 h
    have hgroups : lines.map wordsOf = wrapWords width (wordsOf text) := by
      rw [← hwords, hfilled.wrapWords_flatten]
    calc lines = (lines.map wordsOf).map fun line => String.ofList (lineOf line) := by
          rw [List.map_map]
          exact ((List.map_congr_left fun line hline => (h.eq_lineOf line hline).symm).trans
            (List.map_id lines)).symm
      _ = wrap width text := by rw [hgroups]; rfl
  · rintro rfl
    have hblanks : ∀ line ∈ wrap width text, line = String.ofList (lineOf (wordsOf line)) := by
      intro line hline
      obtain ⟨group, hgroup, rfl⟩ := List.mem_map.1 hline
      rw [wordsOf_lineOf_of_mem_wrapWords hgroup]
    refine (isWrapped_iff_isFilled hblanks).2 ?_
    rw [map_wordsOf_wrap]
    exact ⟨isFilled_wrapWords width (wordsOf text), flatten_wrapWords width (wordsOf text)⟩

end ClusterReport.Text
