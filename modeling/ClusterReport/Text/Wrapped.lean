/-
**Wrapping.**

A text is wrapped by putting its words on lines, with one blank between the words of a line.  A
word goes on the current line if it still fits there and begins the next line otherwise, so only a
word that is too wide for any line makes a line wider than asked for.

Main definitions:

* `ClusterReport.Text.lineOf` — the text of a line of words;
* `ClusterReport.Text.fill` — words put on lines;
* `ClusterReport.Text.wrap` — the lines of a text.

Main results:

* `ClusterReport.Text.lineOf_append` — two parts of a line have a blank between them;
* `ClusterReport.Text.flatten_wrapWords` — the lines hold the words, in order;
* `ClusterReport.Text.not_mem_of_mem_wrap` — no character but blanks is new.
-/

import ClusterReport.Text.Pieces

set_option relaxedAutoImplicit false
set_option autoImplicit false

namespace ClusterReport.Text

/-- The text of a line of words. -/
def lineOf (words : List (List Char)) : List Char := [' '].intercalate words

@[simp] theorem lineOf_nil : lineOf [] = [] := rfl

@[simp] theorem lineOf_singleton (word : List Char) : lineOf [word] = word :=
  List.intercalate_singleton

theorem lineOf_cons (word : List Char) {rest : List (List Char)} (h : rest ≠ []) :
    lineOf (word :: rest) = word ++ ' ' :: lineOf rest := by
  rw [lineOf, List.intercalate_cons_of_ne_nil h, List.append_assoc]
  rfl

/-- Two parts of a line have a blank between them. -/
theorem lineOf_append {front back : List (List Char)} (hfront : front ≠ []) (hback : back ≠ []) :
    lineOf (front ++ back) = lineOf front ++ ' ' :: lineOf back := by
  induction front with
  | nil => exact absurd rfl hfront
  | cons word rest ih =>
    cases rest with
    | nil => rw [List.singleton_append, lineOf_cons word hback, lineOf_singleton]
    | cons next rest =>
      rw [List.cons_append, lineOf_cons word (by simp), ih (by simp), lineOf_cons word (by simp),
        List.append_assoc, List.cons_append]

theorem length_lineOf_concat {line : List (List Char)} (h : line ≠ []) (word : List Char) :
    (lineOf (line ++ [word])).length = (lineOf line).length + 1 + word.length := by
  rw [lineOf_append h (by simp), lineOf_singleton, List.length_append, List.length_cons]
  omega

theorem length_lineOf_le_append (line more : List (List Char)) :
    (lineOf line).length ≤ (lineOf (line ++ more)).length := by
  rcases List.eq_nil_or_concat line with rfl | ⟨front, last, rfl⟩
  · exact Nat.zero_le _
  · cases more with
    | nil => exact Nat.le_of_eq (by rw [List.append_nil])
    | cons word rest =>
      rw [lineOf_append (by simp) (by simp), List.length_append]
      exact Nat.le_add_right _ _

/-- Words put on lines of some width, behind the words already on the current line. -/
def fill (width : Nat) (line : List (List Char)) : List (List Char) → List (List (List Char))
  | [] => [line]
  | word :: rest =>
    if (lineOf line).length + 1 + word.length ≤ width then fill width (line ++ [word]) rest
    else line :: fill width [word] rest

/-- Words put on lines of some width. -/
def wrapWords (width : Nat) : List (List Char) → List (List (List Char))
  | [] => []
  | word :: rest => fill width [word] rest

/-- The lines of a text wrapped to some width. -/
def wrap (width : Nat) (s : String) : List String :=
  (wrapWords width (words s.toList)).map fun line => String.ofList (lineOf line)

theorem flatten_fill (width : Nat) (line rest : List (List Char)) :
    (fill width line rest).flatten = line ++ rest := by
  induction rest generalizing line with
  | nil => simp [fill]
  | cons word rest ih =>
    unfold fill
    split <;> simp [ih]

/-- The lines hold the words, in order. -/
@[simp] theorem flatten_wrapWords (width : Nat) (words : List (List Char)) :
    (wrapWords width words).flatten = words := by
  cases words with
  | nil => rfl
  | cons word rest => simp [wrapWords, flatten_fill]

/-- The lines hold nothing but characters of the text and blanks. -/
theorem not_mem_of_mem_wrap {c : Char} (hc : c ≠ ' ') {width : Nat} {s line : String}
    (hs : c ∉ s.toList) (h : line ∈ wrap width s) : c ∉ line.toList := by
  obtain ⟨ws, hws, rfl⟩ := List.mem_map.1 h
  rw [String.toList_ofList]
  refine not_mem_intercalate hc fun word hword hmem => hs ?_
  have hword : word ∈ words s.toList := by
    rw [← flatten_wrapWords width (words s.toList)]
    exact List.mem_flatten_of_mem hws hword
  exact (of_mem_pieces (List.mem_filter.1 hword).1 hmem).1

end ClusterReport.Text
