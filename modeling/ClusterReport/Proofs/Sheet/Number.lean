/-
**An attribute in a listing and in a summary.**

An attribute is read by two functions.  The projector of a listing shows an integer where the value
is one of 64 bits, another number as a binary number, and a value of another kind as a fault.  The
figures of a summary are integers in any case: a number that is none loses its fraction and is
clamped to 64 bits.  Each looks for a value in its own way, and finds the same one, so that an
integer that is listed is also the one that the summary is made of.  Where they part, the listing
shows no integer.

Main definitions:

* `ClusterReport.Sheet.Projector.ReadsAlike` — what it is for the two to read an attribute alike.

Main results:

* `ClusterReport.Sheet.Projector.toInt?_of_numberOf?_int`, `toInt?_of_numberOf?_float`,
  `toInt?_of_numberOf?_none` — the two readings of one value;
* `ClusterReport.Sheet.Projector.filter_findSome?_eq_raw?` — the two ways to look up a value find
  the same one;
* `ClusterReport.Sheet.Projector.lookup_eq`, `number_eq` — what the projector makes of the raw
  value;
* `ClusterReport.Sheet.Projector.readsAlike_number` — **a listing and a summary read every attribute
  alike**.
-/

import ClusterReport.Attribute.Basic
import ClusterReport.Proofs.Sheet.Projection

set_option relaxedAutoImplicit false
set_option autoImplicit false

namespace ClusterReport.Sheet.Projector

/-! ### One value -/

/-- A value that is shown as an integer is that integer. -/
theorem toInt?_of_numberOf?_int {value : Json} {n : Int} (h : numberOf? value = some (.int n)) :
    value.toInt? = some n := by
  cases value with
  | null => cases h
  | array _ => cases h
  | object _ => cases h
  | float _ => cases h
  | bool b =>
      obtain rfl := Scalar.int.inj (Option.some.inj h)
      rfl
  | int k =>
      rw [numberOf?] at h
      split at h
      case isTrue hfits =>
        obtain rfl := Scalar.int.inj (Option.some.inj h)
        exact Json.toInt?_int k hfits
      case isFalse => cases h
  | str s =>
      dsimp only [numberOf?] at h
      split at h
      case h_1 k hk =>
        obtain rfl := Scalar.int.inj (Option.some.inj h)
        exact hk
      case h_2 =>
        obtain ⟨x, -, hx⟩ := Option.map_eq_some_iff.1 h
        cases hx

/-- A value that is shown as a binary number is a text that holds no integer, or a number, which
stands for its whole part within 64 bits. -/
theorem toInt?_of_numberOf?_float {value : Json} {x : Binary64}
    (h : numberOf? value = some (.float x)) :
    (∃ s, value = .str s ∧ value.toInt? = none) ∨ value.toInt? = some x.toInt64 := by
  cases value with
  | null => cases h
  | array _ => cases h
  | object _ => cases h
  | bool _ => cases h
  | float y =>
      obtain rfl := Scalar.float.inj (Option.some.inj h)
      exact .inr rfl
  | int k =>
      rw [numberOf?] at h
      split at h
      case isTrue => cases h
      case isFalse hfits =>
        obtain rfl := Scalar.float.inj (Option.some.inj h)
        exact .inr (congrArg some (if_neg hfits))
  | str s =>
      refine .inl ⟨s, rfl, ?_⟩
      dsimp only [numberOf?] at h
      split at h
      case h_1 => cases h
      case h_2 hnone => exact hnone

/-- A value that is shown as no number stands for no integer. -/
theorem toInt?_of_numberOf?_none {value : Json} (h : numberOf? value = none) :
    value.toInt? = none := by
  cases value with
  | null => rfl
  | array _ => rfl
  | object _ => rfl
  | bool _ => cases h
  | int _ => cases h
  | float _ => cases h
  | str s =>
      dsimp only [numberOf?] at h
      split at h
      case h_1 => cases h
      case h_2 hnone => exact hnone

theorem toInt?_str_eq_some_iff {s : String} {n : Int} :
    (Json.str s).toInt? = some n ↔ numberOf? (.str s) = some (.int n) := by
  refine ⟨fun h => ?_, toInt?_of_numberOf?_int⟩
  have hdigits : Integer.int64Of? (Text.trim s.toList) = some n := h
  simp only [numberOf?, hdigits]

/-! ### One attribute -/

variable {row : SourceRow} {source : String} {stats : Stats}

/-- The value found first, if it is no null, is the value under the first spelling that is there. -/
theorem filter_findSome?_eq_raw? (stats : Stats) (name : String) (spellings : List String) :
    ((spellings.findSome? stats.get?).filter fun value => !value.isNull) =
      Attribute.raw? ⟨name, spellings⟩ stats := by
  induction spellings with
  | nil => rfl
  | cons key rest ih =>
      rw [List.findSome?_cons]
      cases hvalue : stats.get? key with
      | none => rw [ih, Attribute.raw?_cons_missing stats name key rest hvalue]
      | some value =>
          rw [Attribute.raw?_cons_present stats name key rest value hvalue, Option.filter_some]
          cases value.isNull <;> rfl

/-- A projector looks up the raw value of an attribute. -/
theorem lookup_eq (h : attributes row source = .ok stats) (a : Attribute) :
    lookup row source a.spellings = (a.raw? stats).elim (.error Missing.noEntry) .ok := by
  have hraw := filter_findSome?_eq_raw? stats a.name a.spellings
  rw [lookup, h]
  simp only [bind, Except.bind]
  rw [hraw]
  cases a.raw? stats <;> rfl

/-- What the projector of a number makes of the raw value of an attribute. -/
theorem number_eq (h : attributes row source = .ok stats) (a : Attribute) :
    number source a.spellings row = (a.raw? stats).elim (.error Missing.noEntry) fun value =>
      (numberOf? value).elim (otherKind value.sortedText "number") .ok := by
  rw [number, reading, lookup_eq h]
  cases a.raw? stats with
  | none => rfl
  | some value =>
      simp only [bind, Except.bind, Option.elim_some]
      cases numberOf? value <;> rfl

theorem exists_of_number_eq_ok (h : attributes row source = .ok stats) {a : Attribute}
    {scalar : Scalar} (hnumber : number source a.spellings row = .ok scalar) :
    ∃ value, a.raw? stats = some value ∧ numberOf? value = some scalar := by
  rw [number_eq h] at hnumber
  cases hraw : a.raw? stats with
  | none =>
      rw [hraw] at hnumber
      cases hnumber
  | some value =>
      rw [hraw, Option.elim_some] at hnumber
      cases hvalue : numberOf? value with
      | none =>
          rw [hvalue] at hnumber
          cases hnumber
      | some found =>
          rw [hvalue] at hnumber
          obtain rfl := Except.ok.inj hnumber
          exact ⟨value, rfl, hvalue⟩

/-- What it is for a listing and a summary to read an attribute alike, in a row for which a source
reported some attributes.  Both look up the same raw value; the listing has no entry exactly if
there is none.  An integer that is listed is the one that the summary reads, and a text holds an
integer for both or for neither.  What is listed as a binary number is a text without an integer, or
a number that the summary cuts to an integer of 64 bits; what is at fault has no integer at all. -/
structure ReadsAlike (a : Attribute) (stats : Stats) (row : SourceRow) (source : String) :
    Prop where
  lookup_eq : lookup row source a.spellings = (a.raw? stats).elim (.error Missing.noEntry) .ok
  noEntry_iff : number source a.spellings row = .error .noEntry ↔ a.raw? stats = none
  int?_of_int : ∀ n, number source a.spellings row = .ok (.int n) → a.int? stats = some n
  int?_of_text_iff : ∀ s, a.raw? stats = some (.str s) → ∀ n,
    a.int? stats = some n ↔ number source a.spellings row = .ok (.int n)
  int?_of_float : ∀ x, number source a.spellings row = .ok (.float x) →
    (∃ s, a.raw? stats = some (.str s) ∧ a.int? stats = none) ∨ a.int? stats = some x.toInt64
  int?_of_fault : ∀ cause, number source a.spellings row = .error (.fault cause) →
    a.int? stats = none
  int_unique : ∀ m n, number source a.spellings row = .ok (.int m) → a.int? stats = some n → m = n

theorem int?_eq {a : Attribute} {value : Json} (h : a.raw? stats = some value) :
    a.int? stats = value.toInt? := by
  rw [Attribute.int?, h, Option.bind_some]

/-- **A listing and a summary read every attribute alike**, from whatever attributes a source
reported, unless these are nothing but an error text. -/
theorem readsAlike_number (h : row.get source = .value stats.toJson) (hlone : ¬ stats.IsLoneError)
    (a : Attribute) : ReadsAlike a stats row source := by
  have hattributes : attributes row source = .ok stats :=
    attributes_of_toDict? h (congrArg some stats.ofList_entries) hlone
  have hint : ∀ n, number source a.spellings row = .ok (.int n) → a.int? stats = some n := by
    intro n hn
    obtain ⟨value, hraw, hvalue⟩ := exists_of_number_eq_ok hattributes hn
    rw [int?_eq hraw, toInt?_of_numberOf?_int hvalue]
  constructor
  case lookup_eq => exact lookup_eq hattributes a
  case noEntry_iff =>
    rw [number_eq hattributes]
    cases a.raw? stats with
    | none => simp
    | some value => cases hvalue : numberOf? value <;> simp [hvalue, otherKind]
  case int?_of_int => exact hint
  case int?_of_text_iff =>
    intro s hraw n
    refine ⟨fun hn => ?_, hint n⟩
    rw [int?_eq hraw, toInt?_str_eq_some_iff] at hn
    rw [number_eq hattributes, hraw, Option.elim_some, hn, Option.elim_some]
  case int?_of_float =>
    intro x hx
    obtain ⟨value, hraw, hvalue⟩ := exists_of_number_eq_ok hattributes hx
    rw [int?_eq hraw]
    refine (toInt?_of_numberOf?_float hvalue).imp_left ?_
    rintro ⟨s, rfl, hnone⟩
    exact ⟨s, hraw, hnone⟩
  case int?_of_fault =>
    intro cause hcause
    rw [number_eq hattributes] at hcause
    cases hraw : a.raw? stats with
    | none => rw [Attribute.int?, hraw, Option.bind_none]
    | some value =>
        rw [hraw, Option.elim_some] at hcause
        rw [int?_eq hraw]
        refine toInt?_of_numberOf?_none ?_
        cases hvalue : numberOf? value with
        | none => rfl
        | some scalar =>
            rw [hvalue] at hcause
            cases hcause
  case int_unique =>
    intro m n hm hn
    rw [hint m hm] at hn
    exact Option.some.inj hn

/-- Attributes with an error text among them that is not all there is. -/
def attributesWithError : Stats :=
  .ofList [("error", .str "timeout"), ("master-objects", .str " +12 ")]

/-- A text with blanks and a sign, under the second spelling, is read alike. -/
theorem readsAlike_number_attributesWithError :
    ReadsAlike ⟨"objects", ["master_objects", "master-objects"]⟩ attributesWithError
      ⟨"n1", .ofList [("stats", .value attributesWithError.toJson)], .empty⟩ "stats" :=
  readsAlike_number rfl ((Stats.causeOf?_toJson_eq_none_iff _).1 rfl) _

end ClusterReport.Sheet.Projector
