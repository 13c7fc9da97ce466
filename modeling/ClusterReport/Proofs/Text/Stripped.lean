/-
**Texts without their styles.**

A style is shown by control sequences: an escape character and a bracket, parameters, and a letter
that ends them.  Taking all control sequences out of a colored text leaves what stands between
them.  Where the text itself has no escape character, this is the text that is shown without color.

Main definitions:

* `ClusterReport.Text.withoutStyles` — a text without its control sequences;
* `ClusterReport.Text.IsPlain` — whether a text has no escape character.

Main results:

* `ClusterReport.Text.Span.dropStyles_render` — a span loses its styles and nothing else;
* `ClusterReport.Text.withoutStyles_renderLines` — **colored lines lose their styles and nothing
  else**.
-/

import ClusterReport.Integer
import ClusterReport.Text.Styled

set_option relaxedAutoImplicit false
set_option autoImplicit false

namespace ClusterReport.Text

/-! ### Control sequences -/

/-- What follows the parameters of a control sequence and the letter that ends them. -/
def afterParameters? : List Char → Option (List Char)
  | [] => none
  | c :: rest =>
    if c = 'm' then some rest
    else if c.isDigit || c = ';' then afterParameters? rest
    else none

/-- What follows the control sequence at the start of a text, if there is one. -/
def afterStyle? : List Char → Option (List Char)
  | '\x1b' :: '[' :: rest => afterParameters? rest
  | _ => none

theorem length_afterParameters?_lt {s rest : List Char} (h : afterParameters? s = some rest) :
    rest.length < s.length := by
  induction s with
  | nil => cases h
  | cons c more ih =>
      unfold afterParameters? at h
      split at h
      · cases h
        exact Nat.lt_succ_self _
      · split at h
        · exact Nat.lt_succ_of_lt (ih h)
        · cases h

theorem length_afterStyle?_lt {s rest : List Char} (h : afterStyle? s = some rest) :
    rest.length < s.length := by
  unfold afterStyle? at h
  split at h
  · exact Nat.lt_succ_of_lt (Nat.lt_succ_of_lt (length_afterParameters?_lt h))
  · cases h

/-- The characters that belong to no control sequence. -/
def dropStyles (s : List Char) : List Char :=
  match s with
  | [] => []
  | c :: rest =>
    match _h : afterStyle? (c :: rest) with
    | some more => dropStyles more
    | none => c :: dropStyles rest
termination_by s.length
decreasing_by
  · exact length_afterStyle?_lt _h
  · exact Nat.lt_succ_self _

/-- The text without its control sequences. -/
def withoutStyles (s : String) : String := String.ofList (dropStyles s.toList)

example : withoutStyles "\x1b[1mname\x1b[0m \x1b[31m7\x1b[39m" = "name 7" := by decide +kernel

theorem dropStyles_of_style {s rest : List Char} (h : afterStyle? s = some rest) :
    dropStyles s = dropStyles rest := by
  cases s with
  | nil => cases h
  | cons c more =>
      rw [dropStyles]
      split
      case h_1 other hother =>
        rw [h, Option.some.injEq] at hother
        rw [hother]
      case h_2 hnone =>
        rw [h] at hnone
        cases hnone

theorem dropStyles_cons {c : Char} (hc : c ≠ '\x1b') (rest : List Char) :
    dropStyles (c :: rest) = c :: dropStyles rest := by
  have hnone : afterStyle? (c :: rest) = none := by
    unfold afterStyle?
    split
    case h_1 heq =>
      cases heq
      exact absurd rfl hc
    case h_2 => rfl
  rw [dropStyles]
  split
  case h_1 more hmore =>
    rw [hnone] at hmore
    cases hmore
  case h_2 => rfl

/-- Text without escape characters stays, whatever follows it. -/
theorem dropStyles_append {s : List Char} (hs : '\x1b' ∉ s) (rest : List Char) :
    dropStyles (s ++ rest) = s ++ dropStyles rest := by
  induction s with
  | nil => rfl
  | cons c more ih =>
      rw [List.mem_cons, not_or] at hs
      rw [List.cons_append, dropStyles_cons (Ne.symm hs.1), ih hs.2, List.cons_append]

theorem dropStyles_opening (style : Style) (rest : List Char) :
    dropStyles (style.opening.toList ++ rest) = dropStyles rest :=
  dropStyles_of_style (by cases style <;> rfl)

theorem dropStyles_closing (style : Style) (rest : List Char) :
    dropStyles (style.closing.toList ++ rest) = dropStyles rest :=
  dropStyles_of_style (by cases style <;> rfl)

/-! ### Texts without escape characters -/

/-- Whether a text has no escape character. -/
def IsPlain (s : String) : Prop := '\x1b' ∉ s.toList

instance (s : String) : Decidable (IsPlain s) := inferInstanceAs (Decidable (_ ∉ _))

@[simp] theorem isPlain_append {s t : String} : IsPlain (s ++ t) ↔ IsPlain s ∧ IsPlain t := by
  rw [IsPlain, String.toList_append, List.mem_append, not_or, IsPlain, IsPlain]

theorem isPlain_repeated {c : Char} (hc : c ≠ '\x1b') (n : Nat) : IsPlain (repeated c n) := by
  rw [IsPlain, repeated, String.toList_ofList]
  exact fun h => hc (List.eq_of_mem_replicate h).symm

@[simp] theorem isPlain_padEnd {width : Nat} {s : String} :
    IsPlain (padEnd width s) ↔ IsPlain s := by
  rw [padEnd, isPlain_append, blanks, and_iff_left (isPlain_repeated (by decide) _)]

@[simp] theorem isPlain_padStart {width : Nat} {s : String} :
    IsPlain (padStart width s) ↔ IsPlain s := by
  rw [padStart, isPlain_append, blanks, and_iff_right (isPlain_repeated (by decide) _)]

theorem isPlain_surround {fill : Char} (hfill : fill ≠ '\x1b') {width : Nat} {s : String} :
    IsPlain (surround fill width s) ↔ IsPlain s := by
  rw [surround, isPlain_append, isPlain_append, and_iff_left (isPlain_repeated hfill _),
    and_iff_right (isPlain_repeated hfill _)]

@[simp] theorem isPlain_padBoth {width : Nat} {s : String} :
    IsPlain (padBoth width s) ↔ IsPlain s := isPlain_surround (by decide)

theorem isPlain_intercalate {separator : String} (hseparator : IsPlain separator)
    {texts : List String} (h : ∀ text ∈ texts, IsPlain text) :
    IsPlain (separator.intercalate texts) := by
  induction texts with
  | nil => exact show IsPlain "" by decide
  | cons first rest ih =>
      obtain ⟨hfirst, hrest⟩ := List.forall_mem_cons.1 h
      cases rest with
      | nil => rwa [String.intercalate_singleton]
      | cons second more =>
          rw [String.intercalate_cons_cons, isPlain_append, isPlain_append]
          exact ⟨⟨hfirst, hseparator⟩, ih hrest⟩

@[simp] theorem isPlain_int (n : Int) : IsPlain (toString n) := by
  rw [IsPlain, ← Integer.ofList_toText, String.toList_ofList]
  exact Integer.not_mem_toText (by decide) (by decide) n

@[simp] theorem isPlain_nat (n : Nat) : IsPlain (toString n) := isPlain_int n

/-! ### Spans and lines -/

/-- A colored span loses its styles, whatever follows it, and nothing else. -/
theorem Span.dropStyles_render {s : Span} (hs : IsPlain s.text) (rest : List Char) :
    dropStyles ((s.render true).toList ++ rest) = s.text.toList ++ dropStyles rest := by
  induction s generalizing rest with
  | plain text => exact dropStyles_append hs rest
  | styled style inner ih =>
      rw [render, if_pos rfl, Style.wrap, String.toList_append, String.toList_append,
        List.append_assoc, List.append_assoc, dropStyles_opening, ih hs, dropStyles_closing]
      rfl
  | beside first second ihfirst ihsecond =>
      obtain ⟨hfirst, hsecond⟩ := isPlain_append.1 hs
      rw [render, String.toList_append, List.append_assoc, ihfirst hfirst, ihsecond hsecond, text,
        String.toList_append, List.append_assoc]

@[simp] theorem Line.isPlain_text {l : Line} : IsPlain l.text ↔ ∀ s ∈ l, IsPlain s.text := by
  induction l with
  | nil => exact iff_of_true (show IsPlain "" by decide) (List.forall_mem_nil _)
  | cons first rest ih =>
      rw [Line.text_cons, isPlain_append, List.forall_mem_cons, ih]

/-- A colored line loses its styles, whatever follows it, and nothing else. -/
theorem Line.dropStyles_render {l : Line} (hl : IsPlain l.text) (rest : List Char) :
    dropStyles ((l.render true).toList ++ rest) = l.text.toList ++ dropStyles rest := by
  induction l with
  | nil => rfl
  | cons first more ih =>
      rw [Line.isPlain_text, List.forall_mem_cons] at hl
      rw [Line.render_cons, String.toList_append, List.append_assoc, Span.dropStyles_render hl.1,
        ih (Line.isPlain_text.2 hl.2), Line.text_cons, String.toList_append, List.append_assoc]

/-- **Colored lines without their control sequences are the lines without color.** -/
theorem withoutStyles_renderLines {lines : List Line} (h : ∀ l ∈ lines, IsPlain l.text) :
    withoutStyles (renderLines true lines) = renderLines false lines := by
  suffices hdrop : dropStyles (renderLines true lines).toList = (renderLines false lines).toList by
    rw [withoutStyles, hdrop, String.ofList_toList]
  induction lines with
  | nil => rw [renderLines, List.map_nil, String.join_nil, renderLines, List.map_nil,
      String.join_nil, String.toList_empty, dropStyles]
  | cons first rest ih =>
      obtain ⟨hfirst, hrest⟩ := List.forall_mem_cons.1 h
      have hend : '\x1b' ∉ "\n".toList := by decide
      rw [renderLines_cons, renderLines_cons, String.append_assoc, String.append_assoc,
        String.toList_append, Line.dropStyles_render hfirst, String.toList_append,
        dropStyles_append hend, ih hrest, Line.render_plain, String.toList_append,
        String.toList_append]

end ClusterReport.Text
