/-
**Pieces of a text.**

A text is taken apart at its separators, each of which ends a piece; `n` separators give `n + 1`
pieces, some of them possibly empty.  Words are the non-empty pieces between blanks.

Main definitions:

* `ClusterReport.Text.pieces` — the pieces between the characters of a class;
* `ClusterReport.Text.words` — the maximal runs of non-blank characters;
* `ClusterReport.Text.IsWord` — what such a run is;
* `ClusterReport.Text.cut` — a text cut in two at the first character of a class.

Main results:

* `ClusterReport.Text.pieces_append` — the texts before and behind a separator are taken apart on
  their own, and so are their words (`words_append`);
* `ClusterReport.Text.of_mem_pieces`, `not_mem_intercalate` — neither taking apart nor joining
  brings in other characters;
* `ClusterReport.Text.IsWord.words_eq`, `isWord_of_mem_words` — the words of a text are words, and
  a word has no others;
* `ClusterReport.Text.cut_append_cons`, `of_cut` — where a text is cut.
-/

import ClusterReport.Text.Blank

set_option relaxedAutoImplicit false
set_option autoImplicit false

namespace ClusterReport.Text

/-- The pieces of a text between its separators. -/
def pieces (sep : Char → Bool) : List Char → List (List Char)
  | [] => [[]]
  | c :: rest => if sep c then [] :: pieces sep rest else (pieces sep rest).modifyHead (c :: ·)

@[simp] theorem pieces_nil (sep : Char → Bool) : pieces sep [] = [[]] := rfl

theorem pieces_ne_nil (sep : Char → Bool) (s : List Char) : pieces sep s ≠ [] := by
  induction s with
  | nil => simp
  | cons c rest ih =>
    unfold pieces
    split
    · simp
    · cases h : pieces sep rest with
      | nil => exact absurd h ih
      | cons p ps => simp

theorem pieces_of_none (sep : Char → Bool) (s : List Char) (h : ∀ c ∈ s, sep c = false) :
    pieces sep s = [s] := by
  induction s with
  | nil => rfl
  | cons c rest ih =>
    have hc := h c (by simp)
    have hr := ih fun d hd => h d (by simp [hd])
    simp [pieces, hc, hr]

/-- The texts before and behind a separator are taken apart on their own. -/
theorem pieces_append (sep : Char → Bool) (s : List Char) (c : Char) (rest : List Char)
    (hc : sep c = true) : pieces sep (s ++ c :: rest) = pieces sep s ++ pieces sep rest := by
  induction s with
  | nil => simp [pieces, hc]
  | cons d s ih =>
    rw [List.cons_append, pieces, pieces, ih]
    split
    · rfl
    · -- the character goes in front of the first piece, which there is
      cases hpieces : pieces sep s with
      | nil => exact absurd hpieces (pieces_ne_nil sep s)
      | cons first more => rfl

theorem pieces_append_cons (sep : Char → Bool) (s : List Char) (c : Char) (rest : List Char)
    (h : ∀ d ∈ s, sep d = false) (hc : sep c = true) :
    pieces sep (s ++ c :: rest) = s :: pieces sep rest := by
  rw [pieces_append sep s c rest hc, pieces_of_none sep s h, List.singleton_append]

/-- A character that is neither the separator nor in any piece is not in the joined pieces. -/
theorem not_mem_intercalate {c d : Char} (hne : c ≠ d) {ps : List (List Char)}
    (h : ∀ piece ∈ ps, c ∉ piece) : c ∉ List.intercalate [d] ps := by
  induction ps with
  | nil => simp
  | cons piece rest ih =>
      obtain ⟨hfirst, hrest⟩ := List.forall_mem_cons.1 h
      cases rest with
      | nil => rwa [List.intercalate_singleton]
      | cons other rest =>
          rw [List.intercalate_cons_cons, List.mem_append, List.mem_append, List.mem_singleton]
          rintro ((hmem | hmem) | hmem)
          · exact hfirst hmem
          · exact hne hmem
          · exact ih hrest hmem

/-- The pieces hold nothing but characters of the text, and no separators. -/
theorem of_mem_pieces {sep : Char → Bool} {s piece : List Char} {c : Char}
    (hpiece : piece ∈ pieces sep s) (hc : c ∈ piece) : c ∈ s ∧ sep c = false := by
  induction s generalizing piece with
  | nil =>
    rw [pieces_nil, List.mem_singleton] at hpiece
    exact absurd (hpiece ▸ hc) List.not_mem_nil
  | cons d rest ih =>
    unfold pieces at hpiece
    split at hpiece
    case isTrue =>
      rcases List.mem_cons.1 hpiece with rfl | hpiece
      · exact absurd hc List.not_mem_nil
      · exact (ih hpiece hc).imp_left (List.mem_cons_of_mem d)
    case isFalse hd =>
      -- the character goes in front of the first piece
      cases hpieces : pieces sep rest with
      | nil => exact absurd hpieces (pieces_ne_nil sep rest)
      | cons first more =>
        rw [hpieces, List.modifyHead_cons] at hpiece
        have hmem : ∀ other ∈ first :: more, c ∈ other → c ∈ d :: rest ∧ sep c = false :=
          fun other hother hin =>
            (ih (hpieces ▸ hother) hin).imp_left (List.mem_cons_of_mem d)
        rcases List.mem_cons.1 hpiece with rfl | hpiece
        · rcases List.mem_cons.1 hc with rfl | hc
          · exact ⟨List.mem_cons_self, Bool.eq_false_iff.2 hd⟩
          · exact hmem first List.mem_cons_self hc
        · exact hmem piece (List.mem_cons_of_mem first hpiece) hc

/-- The words of a text: its maximal runs of non-blank characters. -/
def words (s : List Char) : List (List Char) :=
  (pieces isBlank s).filter fun w => !w.isEmpty

/-- A word is a text that is not empty and has no blanks. -/
structure IsWord (w : List Char) : Prop where
  ne_nil : w ≠ []
  isBlank_eq_false : ∀ c ∈ w, isBlank c = false

@[simp] theorem words_nil : words [] = [] := rfl

/-- No word goes across a blank. -/
theorem words_append (s : List Char) (c : Char) (rest : List Char) (hc : isBlank c = true) :
    words (s ++ c :: rest) = words s ++ words rest := by
  rw [words, pieces_append isBlank s c rest hc, List.filter_append]
  rfl

/-- A word is the only word it has. -/
theorem IsWord.words_eq {w : List Char} (h : IsWord w) : words w = [w] := by
  rw [words, pieces_of_none isBlank w h.isBlank_eq_false]
  simp [h.ne_nil]

/-- The words of a text are words. -/
theorem isWord_of_mem_words {s w : List Char} (h : w ∈ words s) : IsWord w := by
  obtain ⟨hpiece, hne⟩ := List.mem_filter.1 h
  exact ⟨by simpa using hne, fun _ hc => (of_mem_pieces hpiece hc).2⟩

/-- The text before and the text after the first character of the class, if there is one. -/
def cut (sep : Char → Bool) : List Char → Option (List Char × List Char)
  | [] => none
  | c :: rest =>
    if sep c then some ([], rest) else (cut sep rest).map fun p => (c :: p.1, p.2)

/-- A text is cut at its first separator. -/
theorem cut_append_cons (sep : Char → Bool) (s : List Char) (c : Char) (rest : List Char)
    (h : ∀ d ∈ s, sep d = false) (hc : sep c = true) :
    cut sep (s ++ c :: rest) = some (s, rest) := by
  induction s with
  | nil => simp [cut, hc]
  | cons d s ih =>
    have hd := h d (by simp)
    have hs := ih fun e he => h e (by simp [he])
    simp [cut, hd, hs]

/-- What is cut is put together again at a separator, and the first part has none. -/
theorem of_cut {sep : Char → Bool} {s before after : List Char}
    (h : cut sep s = some (before, after)) :
    ∃ c, sep c = true ∧ s = before ++ c :: after ∧ ∀ d ∈ before, sep d = false := by
  induction s generalizing before with
  | nil => cases h
  | cons c rest ih =>
    unfold cut at h
    split at h
    case isTrue hc =>
      cases h
      exact ⟨c, hc, rfl, by simp⟩
    case isFalse hc =>
      obtain ⟨⟨first, after⟩, hcut, heq⟩ := Option.map_eq_some_iff.1 h
      cases heq
      obtain ⟨d, hd, rfl, hfirst⟩ := ih hcut
      exact ⟨d, hd, rfl, List.forall_mem_cons.2 ⟨Bool.eq_false_iff.2 hc, hfirst⟩⟩

end ClusterReport.Text
