/-
**The parts of a build text.**

A build text is read run by run.  A run of digits or of letters stands for its part whatever stands
around it, as long as no neighbour is of its own kind; separators stand for nothing, however many of
them there are.  So the numbers written into a text are its parts, with any zeros in front of them
and any separators between them, and the parts of a text, written with points between them, are the
parts of that text again.

Main definitions:

* `ClusterReport.Version.Spells` — a text in which a list of numbers is written;
* `ClusterReport.Version.ofParts` — the text of parts with points between them.

Main results:

* `ClusterReport.Version.partsOf_run_append` — what a run stands for;
* `ClusterReport.Version.partsOf_of_spells` — **the numbers written in a text are its parts**;
* `ClusterReport.Version.parts_ofParts` — **parts that are written read back**.
-/

import ClusterReport.Version
import Mathlib

set_option relaxedAutoImplicit false
set_option autoImplicit false

namespace ClusterReport.Version

/-! ### Kinds of characters -/

theorem CharKind.of_eq_digit {c : Char} (h : c.isDigit = true) : CharKind.of c = .digit :=
  if_pos h

theorem CharKind.of_eq_letter {c : Char} (h : c.isAlpha = true) : CharKind.of c = .letter := by
  have hdigit : ¬c.isDigit = true := by
    simp only [Char.isAlpha, Char.isUpper, Char.isLower, Char.isDigit, Char.reduceVal, ge_iff_le,
      UInt32.le_iff_toNat_le, UInt32.reduceToNat, Bool.or_eq_true, Bool.and_eq_true,
      decide_eq_true_eq] at h ⊢
    omega
  rw [CharKind.of, if_neg hdigit, if_pos h]

theorem CharKind.of_eq_separator_iff {c : Char} :
    CharKind.of c = .separator ↔ c.isAlphanum = false := by
  unfold CharKind.of Char.isAlphanum
  cases c.isDigit <;> cases c.isAlpha <;> simp

theorem CharKind.isAlpha_of_eq_letter {c : Char} (h : CharKind.of c = .letter) :
    c.isAlpha = true := by
  unfold CharKind.of at h
  split at h
  case isTrue => cases h
  case isFalse =>
    split at h
    case isTrue halpha => exact halpha
    case isFalse => cases h

/-! ### Runs -/

theorem kind_of_isChain {c : Char} {rest : List Char}
    (h : (c :: rest).IsChain fun a b => CharKind.of a = CharKind.of b) :
    ∀ d ∈ rest, CharKind.of d = CharKind.of c := by
  induction rest generalizing c with
  | nil => exact nofun
  | cons d rest ih =>
    obtain ⟨hcd, hrest⟩ := List.isChain_cons_cons.1 h
    intro e he
    obtain rfl | he := List.mem_cons.1 he
    · exact hcd.symm
    · exact (ih hrest e he).trans hcd.symm

/-- **A run stands for its part, whatever follows that is of another kind.** -/
theorem partsOf_run_append {run s : List Char} {kind : CharKind} (hne : run ≠ [])
    (hrun : ∀ c ∈ run, CharKind.of c = kind) (hs : ∀ c ∈ s.head?, CharKind.of c ≠ kind) :
    partsOf (run ++ s) = (Part.ofRun? run).toList ++ partsOf s := by
  have hchain : run.IsChain fun a b => decide (CharKind.of a = CharKind.of b) = true := by
    refine List.Pairwise.isChain (List.pairwise_of_forall_mem_list ?_)
    intro a ha b hb
    exact decide_eq_true ((hrun a ha).trans (hrun b hb).symm)
  unfold partsOf
  rw [List.splitBy_append, List.splitBy_of_isChain hne hchain, List.filterMap_append]
  · cases h : Part.ofRun? run <;> simp [h]
  · intro a ha b hb
    rw [decide_eq_false_iff_not, hrun a (List.mem_of_getLast? ha)]
    exact fun h => hs b hb h.symm

theorem exists_separators_append (s : List Char) :
    ∃ separators rest, s = separators ++ rest ∧
      (∀ c ∈ separators, CharKind.of c = .separator) ∧
      ∀ c ∈ rest.head?, CharKind.of c ≠ .separator := by
  induction s with
  | nil => exact ⟨[], [], rfl, nofun, nofun⟩
  | cons c s ih =>
    by_cases hc : CharKind.of c = .separator
    · obtain ⟨separators, rest, rfl, hseparators, hrest⟩ := ih
      exact ⟨c :: separators, rest, rfl, List.forall_mem_cons.2 ⟨hc, hseparators⟩, hrest⟩
    · exact ⟨[], c :: s, rfl, nofun, by simpa using hc⟩

/-- A run of separators stands for nothing. -/
theorem partsOf_separators_append {separators rest : List Char}
    (hseparators : ∀ c ∈ separators, CharKind.of c = .separator)
    (hrest : ∀ c ∈ rest.head?, CharKind.of c ≠ .separator) :
    partsOf (separators ++ rest) = partsOf rest := by
  cases separators with
  | nil => rfl
  | cons c separators =>
    have hnone : Part.ofRun? (c :: separators) = none := by
      rw [Part.ofRun?, hseparators c List.mem_cons_self]
    rw [partsOf_run_append (List.cons_ne_nil c separators) hseparators hrest, hnone]
    rfl

theorem partsOf_cons_of_separator {c : Char} (s : List Char) (h : CharKind.of c = .separator) :
    partsOf (c :: s) = partsOf s := by
  -- The separator joins the run that the text may start with.
  obtain ⟨separators, rest, rfl, hseparators, hrest⟩ := exists_separators_append s
  rw [← List.cons_append, partsOf_separators_append hseparators hrest,
    partsOf_separators_append (List.forall_mem_cons.2 ⟨h, hseparators⟩) hrest]

/-! ### Numbers in a text -/

/-- A number in decimal digits with zeros in front. -/
def digits (zeros n : Nat) : List Char := List.replicate zeros '0' ++ Nat.toDigits 10 n

theorem digits_ne_nil (zeros n : Nat) : digits zeros n ≠ [] :=
  List.append_ne_nil_of_right_ne_nil _ Nat.toDigits_ne_nil

theorem isDigit_of_mem_digits {zeros n : Nat} {c : Char} (h : c ∈ digits zeros n) :
    c.isDigit = true := by
  obtain h | h := List.mem_append.1 h
  · rw [List.eq_of_mem_replicate h]
    rfl
  · exact Nat.isDigit_of_mem_toDigits (by decide) (by decide) h

theorem kind_of_mem_digits {zeros n : Nat} : ∀ c ∈ digits zeros n, CharKind.of c = .digit :=
  fun _ hc => CharKind.of_eq_digit (isDigit_of_mem_digits hc)

theorem ofRun?_digits {n : Nat} (zeros : Nat) (hn : n ≤ Integer.nat64Max) :
    Part.ofRun? (digits zeros n) = some (.number n) := by
  have hvalue : Integer.digitsValue (digits zeros n) = n := by
    rw [digits, Integer.digitsValue_replicate_append, Integer.digitsValue_toDigits]
  have hkind : ∀ c ∈ digits zeros n, CharKind.of c = .digit := kind_of_mem_digits
  cases h : digits zeros n with
  | nil => exact absurd h (digits_ne_nil zeros n)
  | cons c rest =>
    rw [h] at hvalue hkind
    rw [Part.ofRun?, hkind c List.mem_cons_self]
    change some (Part.number (min Integer.nat64Max (Integer.digitsValue (c :: rest)))) = _
    rw [hvalue, Nat.min_eq_right hn]

/-- A text in which numbers are written one after the other: in decimal digits with any number of
zeros in front, before and behind any separators, and apart from each other. -/
inductive Spells : List Nat → List Char → Prop
  | nil : Spells [] []
  | separator {ns : List Nat} {c : Char} {s : List Char} (hc : c.isAlphanum = false)
      (hs : Spells ns s) : Spells ns (c :: s)
  | number {ns : List Nat} {s : List Char} (zeros n : Nat)
      (hnext : ∀ c ∈ s.head?, c.isAlphanum = false) (hs : Spells ns s) :
      Spells (n :: ns) (digits zeros n ++ s)

/-- **The numbers written in a text are its parts.** -/
theorem partsOf_of_spells {ns : List Nat} {s : List Char} (h : Spells ns s)
    (hns : ∀ n ∈ ns, n < 2 ^ 64) : partsOf s = ns.map Part.number := by
  induction h with
  | nil => rfl
  | separator hc hs ih =>
    rw [partsOf_cons_of_separator _ (CharKind.of_eq_separator_iff.2 hc), ih hns]
  | @number ns s zeros n hnext hs ih =>
    obtain ⟨hn, hns⟩ := List.forall_mem_cons.1 hns
    have hnext : ∀ c ∈ s.head?, CharKind.of c ≠ .digit := by
      intro c hc
      rw [CharKind.of_eq_separator_iff.2 (hnext c hc)]
      exact nofun
    rw [partsOf_run_append (digits_ne_nil zeros n) kind_of_mem_digits hnext,
      ofRun?_digits zeros (Nat.le_pred_of_lt hn), ih hns]
    rfl

example : Spells [4, 9] "04.-9".toList := by
  have htext : "04.-9".toList = digits 1 4 ++ '.' :: '-' :: (digits 0 9 ++ []) := by decide
  have hnext : ∀ c ∈ ('.' :: '-' :: (digits 0 9 ++ [])).head?, c.isAlphanum = false := by
    rintro c ⟨⟩
    rfl
  rw [htext]
  exact .number 1 4 hnext (.separator rfl (.separator rfl (.number 0 9 nofun .nil)))

/-! ### Parts in writing -/

namespace Part

/-- The text of a part: a number in decimal digits, a word as it is. -/
def toText : Part → List Char
  | number n => digits 0 n
  | word w => w.toList

/-- Numbers have 64 bits, and words are of small letters. -/
def IsProper : Part → Prop
  | number n => n ≤ Integer.nat64Max
  | word w => w.toList ≠ [] ∧ ∀ c ∈ w.toList, c.isLower = true

def kind : Part → CharKind
  | number _ => .digit
  | word _ => .letter

variable {p : Part}

theorem IsProper.toText_ne_nil (h : p.IsProper) : p.toText ≠ [] := by
  cases p with
  | number n => exact digits_ne_nil 0 n
  | word w => exact h.1

theorem IsProper.kind_of_mem_toText (h : p.IsProper) : ∀ c ∈ p.toText, CharKind.of c = p.kind := by
  intro c hc
  cases p with
  | number n => exact kind_of_mem_digits c hc
  | word w =>
    refine CharKind.of_eq_letter ?_
    rw [Char.isAlpha, h.2 c hc, Bool.or_true]

theorem IsProper.ofRun?_toText (h : p.IsProper) : ofRun? p.toText = some p := by
  cases p with
  | number n => exact ofRun?_digits 0 h
  | word w =>
    have hlower : w.toList.map Char.toLower = w.toList := by
      refine (List.map_congr_left fun c hc => ?_).trans (List.map_id _)
      exact Char.toLower_eq_of_not_isUpper (Char.not_isUpper_of_isLower (h.2 c hc))
    have hkind := h.kind_of_mem_toText
    rw [toText] at hkind ⊢
    cases hw : w.toList with
    | nil => exact absurd hw h.1
    | cons c rest =>
      rw [hw] at hkind
      rw [ofRun?, hkind c List.mem_cons_self, ← hw]
      change some (word (String.ofList (w.toList.map Char.toLower))) = some (word w)
      rw [hlower, String.ofList_toList]

/-- A proper part is read where it is written, whatever follows that is of another kind. -/
theorem IsProper.partsOf_toText_append (h : p.IsProper) {s : List Char}
    (hs : ∀ c ∈ s.head?, CharKind.of c ≠ p.kind) : partsOf (p.toText ++ s) = p :: partsOf s := by
  rw [partsOf_run_append h.toText_ne_nil h.kind_of_mem_toText hs, h.ofRun?_toText]
  rfl

theorem isProper_of_ofRun? {run : List Char}
    (hrun : run.IsChain fun a b => CharKind.of a = CharKind.of b) (h : ofRun? run = some p) :
    p.IsProper := by
  cases run with
  | nil => cases h
  | cons c rest =>
    rw [ofRun?] at h
    split at h
    case h_1 hc =>
      cases h
      exact Nat.min_le_left _ _
    case h_2 hc =>
      cases h
      refine ⟨by simp, fun d hd => ?_⟩
      rw [String.toList_ofList] at hd
      obtain ⟨e, he, rfl⟩ := List.mem_map.1 hd
      rw [Char.isLower_toLower_eq_isAlpha]
      refine CharKind.isAlpha_of_eq_letter ?_
      obtain rfl | he := List.mem_cons.1 he
      · exact hc
      · rw [kind_of_isChain hrun e he, hc]
    case h_3 => cases h

end Part

theorem isProper_of_mem_partsOf {s : List Char} {p : Part} (h : p ∈ partsOf s) : p.IsProper := by
  obtain ⟨run, hrun, hp⟩ := List.mem_filterMap.1 h
  refine Part.isProper_of_ofRun? ?_ hp
  refine (List.isChain_of_mem_splitBy hrun).imp ?_
  exact fun a b hab => of_decide_eq_true hab

/-- The version in whose text the given parts stand with points between them. -/
def ofParts (ps : List Part) : Version := ⟨String.ofList (['.'].intercalate (ps.map Part.toText))⟩

theorem parts_ofParts_of_isProper {ps : List Part} (h : ∀ p ∈ ps, p.IsProper) :
    (ofParts ps).parts = ps := by
  rw [parts, ofParts, String.toList_ofList]
  induction ps with
  | nil => rfl
  | cons p ps ih =>
    obtain ⟨hp, hps⟩ := List.forall_mem_cons.1 h
    cases ps with
    | nil =>
      have hend : ∀ c ∈ ([] : List Char).head?, CharKind.of c ≠ p.kind := nofun
      rw [List.map_singleton, List.intercalate_singleton, ← List.append_nil p.toText,
        hp.partsOf_toText_append hend]
      rfl
    | cons q ps =>
      have hpoint : ∀ s : List Char, ∀ c ∈ ('.' :: s).head?, CharKind.of c ≠ p.kind := by
        intro s c hc
        cases hc
        cases p <;> exact nofun
      rw [List.map_cons, List.map_cons, List.intercalate_cons_cons, ← List.map_cons,
        List.append_assoc, List.singleton_append, hp.partsOf_toText_append (hpoint _),
        partsOf_cons_of_separator _ rfl, ih hps]

/-- **Parts that are written read back.** -/
theorem parts_ofParts (v : Version) : (ofParts v.parts).parts = v.parts :=
  parts_ofParts_of_isProper fun _ hp => isProper_of_mem_partsOf hp

end ClusterReport.Version
